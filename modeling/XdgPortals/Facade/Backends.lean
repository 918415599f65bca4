import XdgPortals.Facade.Node
import XdgPortals.Facade.Wiring
import XdgPortals.Native.Properties

/-!
# The backends

The four kinds of backends with the contract they share, the one a node chooses by itself, and the
attempt to connect to the session bus on which that depends. What the portal and a mock answer is
any function.
-/

namespace XdgPortals

/-- Why there are no desktop services. -/
abbrev Reason := { reason : String // reason ≠ "" }

/-! ### Connecting to the bus -/

def connectTimeoutMs : ℕ := 5000

/-- How far an attempt to connect has come. -/
inductive ConnectAttempt where
  | pending
  | connected
  | failed (message : Option String)
  deriving DecidableEq

def timedOutReason : String :=
  s!"Timed out connecting to the session bus after {connectTimeoutMs} ms."

/-- `connect_bus`, given the bus address and the attempt when the time is over and after the
cancellation: the reason why there is no connection, or none. -/
def connectBus (address : Except (Option String) Unit) (inTime afterCancel : ConnectAttempt) :
    Option String :=
  match address with
  | .error message => some (message.getD "No session bus address is available.")
  | .ok ()         =>
    let cancelled := inTime = .pending
    let attempt := if inTime = .pending then afterCancel else inTime
    match attempt with
    | .connected      => none
    | .pending        => some timedOutReason
    | .failed message =>
      some (if cancelled then timedOutReason
        else message.getD "Could not connect to the session bus.")

/-! ### The portal's names and codes -/

def Capability.interfaceName : Capability → String
  | .gameMode => "org.freedesktop.portal.GameMode"
  | .inhibit => "org.freedesktop.portal.Inhibit"
  | .powerProfileMonitor => "org.freedesktop.portal.PowerProfileMonitor"
  | .openUri => "org.freedesktop.portal.OpenURI"
  | .notification => "org.freedesktop.portal.Notification"

/-- The addon asks for the interfaces that the extension reads. -/
example : Capability.values.map Capability.interfaceName = portalInterfaces := by decide

/-- The status for a code of the portal, which numbers them differently. -/
def gameModeStatusFromPortal (code : ℤ) : GameModeStatus :=
  if code = 0 then .notRegistered
  else if code = 1 then .activeForOthers
  else if code = 2 then .registered
  else .unknown

namespace Facade

/-! ### Objects -/

inductive Kind where
  | native (failure : Option String)
  | macos
  | null (reason : Reason)
  | mock
  deriving DecidableEq

/-- A backend object. A native one has or has not got a connection from its extension. -/
structure Backend where
  id : ℕ
  kind : Kind
  deriving DecidableEq

/-- Backends of which each answers as the mock backend does by default. -/
def mockBackends : Services Backend where
  processId := 4242
  createDefaultBackend := ⟨0, .mock⟩
  isAvailable _ _ := Node.mockServices.isAvailable [] 0
  getCapabilities _ _ := Node.mockServices.getCapabilities [] 0
  getInterfaceVersion _ _ := Node.mockServices.getInterfaceVersion [] 0
  gameModeRegister _ _ := Node.mockServices.gameModeRegister [] 0
  gameModeUnregister _ _ := Node.mockServices.gameModeUnregister [] 0
  openUri _ _ := Node.mockServices.openUri [] 0
  schemeSupported _ _ := Node.mockServices.schemeSupported [] 0
  answer _ _ _ := Node.mockServices.answer [] [] 0

/-- The reason a null backend gives. -/
def nullReason (pReason : String) : Reason :=
  if h : pReason = "" then ⟨"XDG Desktop Portals are not available on this platform.", by simp⟩
  else ⟨pReason, h⟩

/-- What the contract answers where a backend does not. -/
def Call.default : (call : Call) → call.Answer
  | .gameModeQueryStatus _ => (-1 : ℤ)
  | .inhibit _ _ _ => ""
  | .getSupportedInhibitFlags => (0 : ℤ)
  | .closeRequest _ => false
  | .powerSaverState => (-1 : ℤ)
  | .addNotification _ _ _ _ => false
  | .removeNotification _ => false
  | .getUnavailableReason => none

/-! ### The platform -/

/-- What the choice of a backend depends on. -/
structure Platform where
  web : Bool
  osName : String
  macLoaded : Bool
  nativeLoaded : Bool
  address : Except (Option String) Unit
  inTime : ConnectAttempt
  afterCancel : ConnectAttempt

/-- The kind of the backend that a node chooses. -/
def Platform.createDefaultBackend (p : Platform) : Kind :=
  if p.web then .null (nullReason "Desktop services are unavailable in a web build.")
  else if p.osName = "macOS" then
    if p.macLoaded then .macos
    else .null (nullReason
      "The MacPowerMonitor extension is not loaded; build it or use a release archive.")
  else if p.osName ≠ "Linux" then
    .null (nullReason
      s!"XDG Desktop Portals are only available on Linux; running on {p.osName}.")
  else if !p.nativeLoaded then
    .null (nullReason
      "The XdgPortalNative extension is not loaded; build it or use a release archive.")
  else
    match connectBus p.address p.inTime p.afterCancel with
    | none => .native none
    | some reason =>
      if reason.isEmpty then .null (nullReason "Could not reach the session bus.")
      else .null (nullReason s!"Could not reach the session bus: {reason}")

/-! ### Answers -/

/-- The platform, and what the objects behind the backends answer: the extension about the portal,
the power monitor of macOS, and the mocks of a test. -/
structure Environment extends Platform where
  processId : ℤ
  getInterfaceVersions : List (Event Backend) → Backend → List (String × ℤ)
  native : Services Backend
  macPowerSaver : List (Exchange Backend) → List (Event Backend) → Bool
  mock : Services Backend

/-- The backend has dropped the object behind it. -/
def isShutDown (b : Backend) (history : List (Event Backend)) : Bool :=
  history.any (·.isShutdown b)

namespace Environment

variable (env : Environment)

/-- The versions a native backend gets when it is asked for its capabilities. -/
def versions (history : List (Event Backend)) (b : Backend) : List (String × ℤ) :=
  if isShutDown b history then [] else env.getInterfaceVersions history b

/-- The versions it keeps: those of the last time. -/
def keptVersions (b : Backend) : List (Event Backend) → List (String × ℤ)
  | [] => []
  | .capabilities c _ :: earlier =>
    if c = b then env.versions earlier b else keptVersions b earlier
  | _ :: earlier => keptVersions b earlier

/-- The version of the interface behind a capability. -/
def versionIn (versions : List (String × ℤ)) (capability : Capability) : ℤ :=
  (versions.lookup capability.interfaceName).getD (-1)

def isAvailable (history : List (Event Backend)) (b : Backend) : Bool :=
  match b.kind with
  | .native failure => !isShutDown b history && failure.isNone
  | .macos => !isShutDown b history
  | .null _ => false
  | .mock => env.mock.isAvailable history b

def getCapabilities (history : List (Event Backend)) (b : Backend) : List (Capability × Bool) :=
  match b.kind with
  | .native _ => Capability.values.map fun capability =>
      (capability, decide (0 ≤ versionIn (env.versions history b) capability))
  | .macos => if isShutDown b history then [] else [(.powerProfileMonitor, true)]
  | .null _ => []
  | .mock => env.mock.getCapabilities history b

def getInterfaceVersion (history : List (Event Backend)) (b : Backend) (capability : Capability) :
    ℤ :=
  match b.kind with
  | .native _ => versionIn (env.keptVersions b history) capability
  | .macos | .null _ => -1
  | .mock => env.mock.getInterfaceVersion history b capability

/-- A method that a native backend passes on to the extension, a mock answers, and the other ones
do not implement. -/
def passedOn {α : Type} (history : List (Event Backend)) (b : Backend) (otherwise native mock : α) :
    α :=
  match b.kind with
  | .native _ => if isShutDown b history then otherwise else native
  | .macos | .null _ => otherwise
  | .mock => mock

def answer (exchanges : List (Exchange Backend)) (history : List (Event Backend)) (b : Backend) :
    (call : Call) → call.Answer
  | .getUnavailableReason =>
    match b.kind with
    | .native failure =>
      some (if isShutDown b history then "The XdgPortalNative extension is not loaded."
        else failure.getD "")
    | .macos =>
      some (if isShutDown b history then "The MacPowerMonitor extension is not loaded." else "")
    | .null reason => some reason.val
    | .mock => none
  | .gameModeQueryStatus pid =>
    passedOn history b (-1 : ℤ)
      (gameModeStatusFromPortal
        (env.native.answer exchanges history b (.gameModeQueryStatus pid))).value
      (env.mock.answer exchanges history b (.gameModeQueryStatus pid))
  | .getSupportedInhibitFlags =>
    passedOn history b (0 : ℤ) (1 ||| 2 ||| 4 ||| 8 : Int64).toInt
      (env.mock.answer exchanges history b .getSupportedInhibitFlags)
  | .powerSaverState =>
    if b.kind = .macos then
      if isShutDown b history then (-1 : ℤ)
      else if env.macPowerSaver exchanges history then (1 : ℤ) else (0 : ℤ)
    else
      passedOn history b (-1 : ℤ) (env.native.answer exchanges history b .powerSaverState)
        (env.mock.answer exchanges history b .powerSaverState)
  | call =>
    passedOn history b call.default (env.native.answer exchanges history b call)
      (env.mock.answer exchanges history b call)

/-- The backends as the node sees them. -/
def services : Services Backend where
  processId := env.processId
  createDefaultBackend := ⟨0, env.createDefaultBackend⟩
  isAvailable := env.isAvailable
  getCapabilities := env.getCapabilities
  getInterfaceVersion := env.getInterfaceVersion
  gameModeRegister history b pid :=
    passedOn history b (-1) (env.native.gameModeRegister history b pid)
      (env.mock.gameModeRegister history b pid)
  gameModeUnregister history b pid :=
    passedOn history b (-1) (env.native.gameModeUnregister history b pid)
      (env.mock.gameModeUnregister history b pid)
  openUri history b uri ask parentWindow :=
    passedOn history b "" (env.native.openUri history b uri ask parentWindow)
      (env.mock.openUri history b uri ask parentWindow)
  schemeSupported history b scheme :=
    passedOn history b (-1) (env.native.schemeSupported history b scheme)
      (env.mock.schemeSupported history b scheme)
  answer := env.answer

end Environment

end Facade

end XdgPortals
