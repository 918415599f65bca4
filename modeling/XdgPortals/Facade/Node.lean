import XdgPortals.Data.Flags
import XdgPortals.Facade.System

/-!
# The node with all its calls

The functions of the `DesktopServices` node that only ask the active backend, and the machine of
all its calls. What a call returns is its result.
-/

namespace XdgPortals

/-- The result of a query about GameMode. The numbers are the node's own, not the portal's. -/
inductive GameModeStatus where
  | unknown
  | notRegistered
  | registered
  | rejected
  | activeForOthers
  deriving DecidableEq

def GameModeStatus.value : GameModeStatus → ℤ
  | .unknown => -1
  | .notRegistered => 0
  | .registered => 1
  | .rejected => 2
  | .activeForOthers => 3

/-- What the node makes of the answer of a backend. -/
def GameModeStatus.ofAnswer (status : ℤ) : GameModeStatus :=
  if status = GameModeStatus.notRegistered.value then .notRegistered
  else if status = GameModeStatus.registered.value then .registered
  else if status = GameModeStatus.activeForOthers.value then .activeForOthers
  else .unknown

def priorityNames : List String := ["low", "normal", "high", "urgent"]

/-- The name of a priority, the nearest one for a value outside the enumeration. -/
def priorityName (priority : ℤ) : String :=
  priorityNames.getD (max 0 (min priority (priorityNames.length - 1))).toNat ""

namespace Facade

/-- The calls to a backend that the history of the facade does not record. -/
inductive Call where
  | gameModeQueryStatus (pid : ℤ)
  | inhibit (flags : Int64) (reason parentWindow : String)
  | getSupportedInhibitFlags
  | closeRequest (handle : String)
  | powerSaverState
  | addNotification (id title body priority : String)
  | removeNotification (id : String)
  | getUnavailableReason
  deriving DecidableEq

/-- What a backend answers. A backend need not have a reason for not being available. -/
abbrev Call.Answer : Call → Type
  | .gameModeQueryStatus _ => ℤ
  | .inhibit _ _ _ => String
  | .getSupportedInhibitFlags => ℤ
  | .closeRequest _ => Bool
  | .powerSaverState => ℤ
  | .addNotification _ _ _ _ => Bool
  | .removeNotification _ => Bool
  | .getUnavailableReason => Option String

/-- A call with its answer, and what the history of the facade recorded before it. -/
structure Exchange (β : Type) where
  backend : β
  call : Call
  answer : call.Answer
  earlier : List (Event β)

end Facade

open Facade

/-- How the backends answer all calls: whatever has been called before, any way they like. -/
structure Services (β : Type) extends Desktop β where
  answer : List (Exchange β) → List (Event β) → β → (call : Call) → call.Answer

/-- The node and its exchanges with backends, the latest first. -/
structure Node (β : Type) where
  facade : Facade β := {}
  exchanges : List (Exchange β) := []

namespace Node

variable {β : Type} [DecidableEq β] (d : Services β)

def ask (n : Node β) (b : β) (call : Call) : call.Answer × Node β :=
  let answer := d.answer n.exchanges n.facade.history b call
  (answer, { n with exchanges := ⟨b, call, answer, n.facade.history⟩ :: n.exchanges })

def ensureBackend (n : Node β) : β × Node β :=
  let (b, facade) := n.facade.ensureBackend d.toDesktop
  (b, { n with facade := facade })

def isAvailable (n : Node β) : Bool × Node β :=
  let (available, facade) := n.facade.isAvailable d.toDesktop
  (available, { n with facade := facade })

def hasCapability (n : Node β) (capability : Capability) : Bool × Node β :=
  let (present, facade) := n.facade.hasCapability d.toDesktop capability
  (present, { n with facade := facade })

/-- Ask the active backend, which the check before has made sure of. -/
def askBackend (n : Node β) (call : Call) : call.Answer × Node β :=
  let (b, n) := n.ensureBackend d
  n.ask d b call

/-! ### Discovery -/

def getUnavailableReason (n : Node β) : String × Node β :=
  let (available, n) := n.isAvailable d
  if available then ("", n)
  else
    match n.askBackend d .getUnavailableReason with
    | (some reason, n) => (reason, n)
    | (none, n) => ("XDG Desktop Portals are not available on this platform.", n)

/-- The loop over the capabilities. -/
def readCapabilities (n : Node β) : List Capability → List (Capability × Bool) × Node β
  | []                         => ([], n)
  | capability :: capabilities =>
    let (present, n) := n.hasCapability d capability
    let (rest, n) := n.readCapabilities capabilities
    ((capability, present) :: rest, n)

def getCapabilities (n : Node β) : List (Capability × Bool) × Node β :=
  n.readCapabilities d Capability.values

/-! ### GameMode -/

def queryGameMode (n : Node β) (pid : ℤ) : GameModeStatus × Node β :=
  let (present, n) := n.hasCapability d .gameMode
  if !present then (.unknown, n)
  else
    let (status, n) := n.askBackend d (.gameModeQueryStatus (d.resolvePid pid))
    (.ofAnswer status, n)

/-! ### Inhibit -/

/-- Flags outside the mask are refused with an error. -/
def inhibit (n : Node β) (flags : Int64) (reason parentWindow : String) : String × Node β :=
  let inhibitFlagsMask : Int64 := 1 ||| 2 ||| 4 ||| 8
  let (present, n) := n.hasCapability d .inhibit
  if !present then ("", n)
  else if flags ≤ 0 || flags &&& ~~~inhibitFlagsMask != 0 then
    let error := BackendSignal.portalError "Inhibit.Inhibit" s!"Invalid inhibit flags: {flags}."
    ("", { n with facade := n.facade.record (.emitted error) })
  else n.askBackend d (.inhibit flags reason parentWindow)

def getSupportedInhibitFlags (n : Node β) : ℤ × Node β :=
  let (present, n) := n.hasCapability d .inhibit
  if !present then (0, n) else n.askBackend d .getSupportedInhibitFlags

def closeRequest (n : Node β) (handle : String) : Bool × Node β :=
  if handle.isEmpty then (false, n)
  else
    let (available, n) := n.isAvailable d
    if !available then (false, n) else n.askBackend d (.closeRequest handle)

/-! ### PowerProfileMonitor -/

/-- `none` is the answer `null`. -/
def isPowerSaverEnabled (n : Node β) : Option Bool × Node β :=
  let (present, n) := n.hasCapability d .powerProfileMonitor
  if !present then (none, n)
  else
    let (state, n) := n.askBackend d .powerSaverState
    if state < 0 then (none, n) else (some (state == 1), n)

/-! ### Notification -/

def addNotification (n : Node β) (id title body : String) (priority : ℤ) : Bool × Node β :=
  let (present, n) := n.hasCapability d .notification
  if !present then (false, n)
  else if id.isEmpty then (false, n)
  else n.askBackend d (.addNotification id title body (priorityName priority))

def removeNotification (n : Node β) (id : String) : Bool × Node β :=
  let (present, n) := n.hasCapability d .notification
  if !present then (false, n)
  else if id.isEmpty then (false, n)
  else n.askBackend d (.removeNotification id)

/-! ### Steps -/

/-- A call to the node, or what happens to it: those of the facade and the other ones. -/
inductive Action (β : Type) where
  | facade (action : Facade.Action β)
  | isAvailable
  | getUnavailableReason
  | hasCapability (capability : Capability)
  | getCapabilities
  | getInterfaceVersion (capability : Capability)
  | queryGameMode (pid : ℤ)
  | inhibit (flags : Int64) (reason parentWindow : String)
  | getSupportedInhibitFlags
  | closeRequest (handle : String)
  | isPowerSaverEnabled
  | addNotification (id title body : String) (priority : ℤ)
  | removeNotification (id : String)

/-- What a call returns. -/
inductive Result where
  | void
  | bool (value : Bool)
  | int (value : ℤ)
  | string (value : String)
  | optional (value : Option Bool)
  | status (value : GameModeStatus)
  | capabilities (value : List (Capability × Bool))

/-- A call of the facade, with what it returns. -/
def performFacade (f : Facade β) : Facade.Action β → Result × Facade β
  | .requestGameMode pid =>
    let (done, f) := f.requestGameMode d.toDesktop pid
    (.bool done, f)
  | .releaseGameMode pid =>
    let (done, f) := f.releaseGameMode d.toDesktop pid
    (.bool done, f)
  | .openUri uri ask parentWindow =>
    let (handle, f) := f.openUri d.toDesktop uri ask parentWindow
    (.string handle, f)
  | .isSchemeSupported scheme =>
    let (supported, f) := f.isSchemeSupported d.toDesktop scheme
    (.optional supported, f)
  | action => (.void, f.step d.toDesktop action)

def perform (n : Node β) : Action β → Result × Node β
  | .facade action =>
    let (result, facade) := performFacade d n.facade action
    (result, { n with facade := facade })
  | .isAvailable =>
    let (available, n) := n.isAvailable d
    (.bool available, n)
  | .getUnavailableReason =>
    let (reason, n) := n.getUnavailableReason d
    (.string reason, n)
  | .hasCapability capability =>
    let (present, n) := n.hasCapability d capability
    (.bool present, n)
  | .getCapabilities =>
    let (capabilities, n) := n.getCapabilities d
    (.capabilities capabilities, n)
  | .getInterfaceVersion capability =>
    let (version, facade) := n.facade.getInterfaceVersion d.toDesktop capability
    (.int version, { n with facade := facade })
  | .queryGameMode pid =>
    let (status, n) := n.queryGameMode d pid
    (.status status, n)
  | .inhibit flags reason parentWindow =>
    let (handle, n) := n.inhibit d flags reason parentWindow
    (.string handle, n)
  | .getSupportedInhibitFlags =>
    let (flags, n) := n.getSupportedInhibitFlags d
    (.int flags, n)
  | .closeRequest handle =>
    let (closed, n) := n.closeRequest d handle
    (.bool closed, n)
  | .isPowerSaverEnabled =>
    let (enabled, n) := n.isPowerSaverEnabled d
    (.optional enabled, n)
  | .addNotification id title body priority =>
    let (posted, n) := n.addNotification d id title body priority
    (.bool posted, n)
  | .removeNotification id =>
    let (withdrawn, n) := n.removeNotification d id
    (.bool withdrawn, n)

/-- The node from its construction on. -/
def machine : Machine (Node β) (Action β) where
  init := {}
  step n a := some (n.perform d a).2

/-- Backends that answer all calls as the mock backend does by default. -/
def mockServices : Services ℕ where
  toDesktop := mockDesktop
  answer _ _ _
    | .gameModeQueryStatus _ => (0 : ℤ)
    | .inhibit _ _ _ => "/org/freedesktop/portal/desktop/request/mock/token1"
    | .getSupportedInhibitFlags => (15 : ℤ)
    | .closeRequest _ => true
    | .powerSaverState => (0 : ℤ)
    | .addNotification _ _ _ _ => true
    | .removeNotification _ => true
    | .getUnavailableReason => none

end Node

end XdgPortals
