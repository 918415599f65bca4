import Mathlib.Data.Int.Notation
import XdgPortals.Data.Variant
import XdgPortals.Library.Entries

/-!
# The state of the facade

The members of the `DesktopServices` node, the backends it delegates to and the history of its
calls to them. Backends are objects with an identity, of which only the answers are known.
-/

namespace XdgPortals

/-- Capability keys. -/
inductive Capability where
  | gameMode
  | inhibit
  | powerProfileMonitor
  | openUri
  | notification
  deriving DecidableEq

def Capability.values : List Capability :=
  [.gameMode, .inhibit, .powerProfileMonitor, .openUri, .notification]

/-- The minimum version of the OpenURI interface exposing `SchemeSupported`. -/
def schemeSupportedMinVersion : ℤ := 5

/-- The names of the signals of a backend. -/
inductive SignalName where
  | powerSaverChanged
  | requestCompleted
  | notificationActionInvoked
  | portalError
  deriving DecidableEq

/-- The signals of a backend with their arguments. The facade forwards them under the same
names. -/
inductive BackendSignal where
  | powerSaverChanged (enabled : Bool)
  | requestCompleted (handle : String) (response : ℤ) (results : Dictionary)
  | notificationActionInvoked (id action : String) (parameters : List Variant)
  | portalError (context message : String)

def BackendSignal.name : BackendSignal → SignalName
  | .powerSaverChanged _ => .powerSaverChanged
  | .requestCompleted _ _ _ => .requestCompleted
  | .notificationActionInvoked _ _ _ => .notificationActionInvoked
  | .portalError _ _ => .portalError

namespace Facade

/-- What a history records: the calls to backends with their results, the changes of the active
backend, and the signals the facade emits. `handedBack` stands where every held registration has
been released. -/
inductive Event (β : Type) where
  | isAvailable (b : β) (answer : Bool)
  | capabilities (b : β) (answer : List (Capability × Bool))
  | interfaceVersion (b : β) (capability : Capability) (version : ℤ)
  | registered (b : β) (pid code : ℤ)
  | unregistered (b : β) (pid code : ℤ)
  | openUri (b : β) (uri : String) (ask : Bool) (parentWindow : String)
  | schemeSupported (b : β) (scheme : String)
  | handedBack (b : β)
  | shutdown (b : β)
  | activated (b : β)
  | emitted (signal : BackendSignal)
  | capabilitiesChanged

end Facade

open Facade

/-- How the backends answer: whatever has been called before, any way they like. -/
structure Desktop (β : Type) where
  processId : ℤ
  createDefaultBackend : β
  isAvailable : List (Event β) → β → Bool
  getCapabilities : List (Event β) → β → List (Capability × Bool)
  getInterfaceVersion : List (Event β) → β → Capability → ℤ
  gameModeRegister : List (Event β) → β → ℤ → ℤ
  gameModeUnregister : List (Event β) → β → ℤ → ℤ
  openUri : List (Event β) → β → String → Bool → String → String
  schemeSupported : List (Event β) → β → String → ℤ

/-- 0 stands for the current process. -/
def Desktop.resolvePid {β : Type} (d : Desktop β) (pid : ℤ) : ℤ :=
  if pid = 0 then d.processId else pid

/-- The members of the node. The held pids are the keys of `_game_mode_pids`; a connection is a
backend's signal that is connected to its handler. -/
structure Facade (β : Type) where
  backend : Option β := none
  capabilities : List (Capability × Bool) := []
  interfaceVersions : List (Capability × ℤ) := []
  gameModePids : List ℤ := []
  connections : List (β × SignalName) := []
  history : List (Event β) := []

namespace Facade

variable {β : Type} [DecidableEq β]

def record (f : Facade β) (e : Event β) : Facade β := { f with history := e :: f.history }

/-! ### Signals -/

/-- `signal.connect(handler)`, which refuses to connect twice. -/
def connect (f : Facade β) (b : β) (name : SignalName) : Facade β :=
  if (b, name) ∈ f.connections then f else { f with connections := (b, name) :: f.connections }

/-- `signal.disconnect(handler)`. -/
def disconnect (f : Facade β) (b : β) (name : SignalName) : Facade β :=
  { f with connections := f.connections.erase (b, name) }

def connectBackend (f : Facade β) (b : β) : Facade β :=
  (((f.connect b .powerSaverChanged).connect b .requestCompleted).connect b
    .notificationActionInvoked).connect b .portalError

def disconnectBackend (f : Facade β) (b : β) : Facade β :=
  (((f.disconnect b .powerSaverChanged).disconnect b .requestCompleted).disconnect b
    .notificationActionInvoked).disconnect b .portalError

/-- A backend emits a signal: every connected handler emits the facade's signal of that name. -/
def backendEmits (f : Facade β) (b : β) (signal : BackendSignal) : Facade β :=
  { f with
      history := List.replicate (f.connections.count (b, signal.name)) (.emitted signal) ++
        f.history }

end Facade

end XdgPortals
