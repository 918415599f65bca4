import XdgPortals.Data.Strings
import XdgPortals.Facade.Basic
import XdgPortals.Library.Runs

/-!
# The facade as a step system

The functions of the `DesktopServices` node that change its members or depend on them, and the
machine whose actions are calls to these functions and emissions of backends.
-/

namespace XdgPortals

namespace Facade

variable {β : Type} [DecidableEq β] (d : Desktop β)

/-! ### GameMode registrations -/

/-- `_game_mode_pids[pid] = true`. -/
def holdPid (f : Facade β) (pid : ℤ) : Facade β :=
  if pid ∈ f.gameModePids then f else { f with gameModePids := f.gameModePids ++ [pid] }

/-- `_game_mode_pids.erase(pid)`. -/
def erasePid (f : Facade β) (pid : ℤ) : Facade β :=
  { f with gameModePids := f.gameModePids.erase pid }

/-- The loop over the pids held. -/
def unregisterAll (f : Facade β) (b : β) : List ℤ → Facade β
  | []          => f
  | pid :: pids =>
    unregisterAll (f.record (.unregistered b pid (d.gameModeUnregister f.history b pid))) b pids

def releaseHeldGameMode (f : Facade β) (b : β) : Facade β :=
  let f := f.unregisterAll d b f.gameModePids
  { f with gameModePids := [], history := .handedBack b :: f.history }

/-! ### Backend management -/

/-- The loop over the capabilities. -/
def readInterfaceVersions (f : Facade β) (b : β) : List Capability → Facade β
  | []                         => f
  | capability :: capabilities =>
    let version := d.getInterfaceVersion f.history b capability
    readInterfaceVersions
      { f with
          interfaceVersions := Entries.set capability version f.interfaceVersions
          history := .interfaceVersion b capability version :: f.history } b capabilities

/-- `refresh_capabilities` when the backend is there. -/
def refreshFrom (f : Facade β) (b : β) : Facade β :=
  let capabilities := d.getCapabilities f.history b
  let f := { f with
    capabilities := capabilities
    interfaceVersions := []
    history := .capabilities b capabilities :: f.history }
  (f.readInterfaceVersions d b Capability.values).record .capabilitiesChanged

/-- What `set_backend` does to the backend it replaces. -/
def retire (f : Facade β) (b : β) : Facade β :=
  ((f.releaseHeldGameMode d b).disconnectBackend b).record (.shutdown b)

/-- `none` is a null reference, which is refused. -/
def setBackend (f : Facade β) : Option β → Facade β
  | none         => f
  | some backend =>
    let f := match f.backend with
      | some old => f.retire d old
      | none     => f
    let f := { f with backend := some backend, history := .activated backend :: f.history }
    (f.connectBackend backend).refreshFrom d backend

/-- The active backend, selecting the default one if needed. -/
def ensureBackend (f : Facade β) : β × Facade β :=
  match f.backend with
  | some b => (b, f)
  | none   => (d.createDefaultBackend, f.setBackend d (some d.createDefaultBackend))

def refreshCapabilities (f : Facade β) : Facade β :=
  let (b, f) := f.ensureBackend d
  f.refreshFrom d b

def exitTree (f : Facade β) : Facade β :=
  match f.backend with
  | none   => f
  | some b => (f.releaseHeldGameMode d b).record (.shutdown b)

/-! ### Capability discovery -/

def isAvailable (f : Facade β) : Bool × Facade β :=
  let (b, f) := f.ensureBackend d
  let answer := d.isAvailable f.history b
  (answer, f.record (.isAvailable b answer))

def hasCapability (f : Facade β) (capability : Capability) : Bool × Facade β :=
  let (available, f) := f.isAvailable d
  if !available then (false, f)
  else ((f.capabilities.lookup capability).getD false, f)

def getInterfaceVersion (f : Facade β) (capability : Capability) : ℤ × Facade β :=
  let (available, f) := f.isAvailable d
  if !available then (-1, f)
  else ((f.interfaceVersions.lookup capability).getD (-1), f)

/-! ### GameMode -/

def requestGameMode (f : Facade β) (pid : ℤ) : Bool × Facade β :=
  let (present, f) := f.hasCapability d .gameMode
  if !present then (false, f)
  else
    -- the capability check has made sure that there is a backend
    let (b, f) := f.ensureBackend d
    let resolved := d.resolvePid pid
    let code := d.gameModeRegister f.history b resolved
    let f := f.record (.registered b resolved code)
    if code ≠ 0 then (false, f)
    else (true, f.holdPid resolved)

def releaseGameMode (f : Facade β) (pid : ℤ) : Bool × Facade β :=
  let (present, f) := f.hasCapability d .gameMode
  if !present then (false, f)
  else
    let (b, f) := f.ensureBackend d
    let resolved := d.resolvePid pid
    let code := d.gameModeUnregister f.history b resolved
    let f := f.record (.unregistered b resolved code)
    if code ≠ 0 then (false, f)
    else (true, f.erasePid resolved)

/-! ### OpenURI -/

/-- The syntax check of a scheme, code point by code point. -/
def isValidScheme (scheme : String) : Bool :=
  if scheme.isEmpty then false
  else
    scheme.toList.zipIdx.all fun (char, index) =>
      let c := char.toNat
      let alpha := (c ≥ 65 && c ≤ 90) || (c ≥ 97 && c ≤ 122)
      let digit := c ≥ 48 && c ≤ 57
      if index == 0 then alpha
      else !(!alpha && !digit && c != 43 && c != 45 && c != 46)

/-- The lowercase scheme of a URI, or an empty string. -/
def schemeOf (uri : String) : String :=
  let separator := find uri ':'
  if separator ≤ 0 then ""
  else
    let scheme := substr uri 0 separator.toNat
    if !isValidScheme scheme then "" else toLower scheme

def openUri (f : Facade β) (uri : String) (ask : Bool) (parentWindow : String) :
    String × Facade β :=
  let (present, f) := f.hasCapability d .openUri
  if !present then ("", f)
  else
    let scheme := schemeOf uri
    if scheme = "" then
      ("", f.record (.emitted (.portalError "OpenURI.OpenURI"
        s!"Malformed or missing URI scheme: {uri}.")))
    else if scheme = "file" then
      ("", f.record (.emitted (.portalError "OpenURI.OpenURI" "The file: scheme is not allowed.")))
    else
      let (b, f) := f.ensureBackend d
      (d.openUri f.history b uri ask parentWindow, f.record (.openUri b uri ask parentWindow))

/-- `none` is the answer `null`. -/
def isSchemeSupported (f : Facade β) (scheme : String) : Option Bool × Facade β :=
  let (present, f) := f.hasCapability d .openUri
  if !present then (none, f)
  else if !isValidScheme scheme then (none, f)
  else if toLower scheme = "file" then (some false, f)
  else
    let (version, f) := f.getInterfaceVersion d .openUri
    if version < schemeSupportedMinVersion then (none, f)
    else
      let (b, f) := f.ensureBackend d
      let supported := d.schemeSupported f.history b (toLower scheme)
      let f := f.record (.schemeSupported b (toLower scheme))
      if supported < 0 then (none, f) else (some (supported == 1), f)

/-! ### Steps -/

inductive Action (β : Type) where
  | ready
  | exitTree
  | setBackend (backend : Option β)
  | refreshCapabilities
  | requestGameMode (pid : ℤ)
  | releaseGameMode (pid : ℤ)
  | openUri (uri : String) (ask : Bool) (parentWindow : String)
  | isSchemeSupported (scheme : String)
  | backendEmits (b : β) (signal : BackendSignal)

/-- One call. -/
def step (f : Facade β) : Action β → Facade β
  | .ready => (f.ensureBackend d).2
  | .exitTree => f.exitTree d
  | .setBackend backend => f.setBackend d backend
  | .refreshCapabilities => f.refreshCapabilities d
  | .requestGameMode pid => (f.requestGameMode d pid).2
  | .releaseGameMode pid => (f.releaseGameMode d pid).2
  | .openUri uri ask parentWindow => (f.openUri d uri ask parentWindow).2
  | .isSchemeSupported scheme => (f.isSchemeSupported d scheme).2
  | .backendEmits b signal => f.backendEmits b signal

/-- The node from its construction on. -/
def machine : Machine (Facade β) (Action β) where
  init := {}
  step f a := some (f.step d a)

/-- Backends that answer as the mock backend does by default. -/
def mockDesktop : Desktop ℕ where
  processId := 4242
  createDefaultBackend := 0
  isAvailable _ _ := true
  getCapabilities _ _ := Capability.values.map fun capability => (capability, true)
  getInterfaceVersion _ _
    | .gameMode => 1
    | .inhibit => 3
    | .powerProfileMonitor => 1
    | .openUri => 5
    | .notification => 2
  gameModeRegister _ _ _ := 0
  gameModeUnregister _ _ _ := 0
  openUri _ _ _ _ _ := "/org/freedesktop/portal/desktop/request/mock/token1"
  schemeSupported _ _ _ := 1

end Facade

end XdgPortals
