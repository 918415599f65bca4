import XdgPortals.Discovery.System
import XdgPortals.Native.Messages
import XdgPortals.Tracker.System

/-!
# The client as a step system

The whole native object on a connected bus, with its two threads. Godot's thread calls its methods
and in the end destroys it; the worker subscribes, runs the tasks that are posted to it, dispatches
what comes in, and is joined. A step is one critical section or one access to what the threads
share. A signal that a callback decides on is handed to Godot in two more steps: the check that
the client is not shutting down, and the call that posts it.
-/

namespace XdgPortals

/-- What is handed to Godot with `call_deferred`. -/
inductive Emission where
  | signal (signal : Signal)
  | notificationActionInvoked (id action : String) (parameters : List Variant)

namespace Client

/-- The life of the worker thread. -/
inductive Stage where
  | starting
  | running
  | draining
  | joined
  | cleared
  deriving DecidableEq

/-- Work that is posted to the worker. -/
inductive Task where
  | call (handle : String) (message : Message)
  | reads (reader : Discovery.Reader) (properties : List (String × String))
  | refreshPowerSaver

/-- What a history records: the events of the request tracker and of discovery, those of both,
and what leaves the client. -/
inductive Event where
  | request (event : XdgPortals.Event)
  | discovery (onWorker : Bool) (event : Discovery.Event)
  | portalAppeared (old owner : String) (replaced : Bool)
  | portalVanished (old : String)
  | actionInvoked (id action : String) (parameters : List Variant)
  | refreshing
  | refreshed (value : Option Bool)
  | sent (message : Message)
  | handed (fromWorker : Bool) (emission : Emission)
  | shutDown

inductive Action where
  -- Godot's thread
  | construct
  | take (reader : Discovery.Reader)
  | seed
  | announce
  | commitSeed
  | constructed
  | readVersions (call : ℕ) (interfaces : List String)
  | commit (call : ℕ)
  | inhibit (random : UInt32) (flags : Int32) (reason parentWindow : String)
  | openUri (random : UInt32) (uri : String) (ask : Bool) (parentWindow : String)
  | closeLookup (handle : String)
  | closeConfirmed (handle : String)
  | closeFailed (handle : String) (error : Option GError)
  | gameModeQueryStatus (pid : Int32) (reply : CallReply Int32)
  | gameModeRegister (pid : Int32) (reply : CallReply Int32)
  | gameModeUnregister (pid : Int32) (reply : CallReply Int32)
  | schemeSupported (version : Int32) (reply : CallReply Bool) (scheme : String)
  | addNotification (id title body priority : String) (reply : CallReply Unit)
  | removeNotification (id : String) (reply : CallReply Unit)
  | shutDown
  | cancel
  | clear
  -- the worker
  | subscribe
  | runTask
  | callStarted (handle : String) (path : ObjectPath)
  | callFailed (handle : String) (error : Option GError)
  | reply (reader : Discovery.Reader) (index : ℕ) (reply : PropertyReply) (tenure : ℕ)
  | powerSaverRead (reply : PropertyReply)
  | requestResponse (path : ObjectPath) (parameters : GVariant)
  | propertiesChanged (parameters : GVariant)
  | actionInvoked (parameters : GVariant)
  | portalAppeared (owner : String)
  | portalVanished
  | resume
  | refresh
  | check
  | post
  | stop
  | exit

end Client

open Client in
/-- The members of the client, the calls that are under way on Godot's thread, and what the worker
is doing. The handles in flight have been begun and their calls have not returned; those on the
bus are the ones whose task has run. `powerKnown` is the constructor's local, `announcing` what it
has still to emit, and `refreshDue` says that `on_portal_appeared` has still to re-read the
power-saver state. -/
structure Client where
  native : XdgPortalNative := {}
  shuttingDown : Bool := false
  cancelled : Bool := false
  stage : Stage := .starting
  closing : List String := []
  reads : Discovery.Reader → Option Discovery.Read := fun _ => none
  reading : List Discovery.Reader := []
  powerKnown : Bool := false
  announcing : List Signal := []
  constructed : Bool := false
  tasks : List Task := []
  worker : Worker := .idle
  outbox : List Emission := []
  posting : Option Emission := none
  refreshDue : Bool := false
  inFlight : List String := []
  onBus : List String := []
  refreshes : ℕ := 0
  history : List Client.Event := []

namespace Client

/-! ### Threads -/

/-- The worker is between two callbacks. -/
def isFree (s : Client) : Bool :=
  s.worker.isIdle && s.outbox.isEmpty && s.posting.isNone && !s.refreshDue

/-- The worker dispatches replies and tasks. -/
def dispatches (s : Client) : Bool := s.stage == .running || s.stage == .draining

/-- A callback for a reply or a task can start. -/
def isReady (s : Client) : Bool := s.dispatches && s.isFree

/-- A callback for a signal can start: its subscription is there. -/
def listens (s : Client) : Bool := s.stage == .running && s.isFree

/-- Record events in the order in which they happen. -/
def record (s : Client) (events : List Event) : Client :=
  { s with history := events.reverse ++ s.history }

/-- The signals a callback of the worker decides on. -/
def decide (s : Client) (signals : List Signal) : Client :=
  { s with outbox := s.outbox ++ signals.map .signal }

/-- `emit_error` and its like on Godot's thread. -/
def emit (s : Client) (signals : List Signal) : Client :=
  if s.shuttingDown then s
  else s.record (signals.map fun signal => .handed false (.signal signal))

/-- Send a call, which a cancelled cancellable prevents. -/
def send (s : Client) (messages : List Message) : Client :=
  if s.cancelled then s else s.record (messages.map .sent)

/-- `run_on_worker` on Godot's thread. -/
def postTask (s : Client) (task : Task) : Client := { s with tasks := s.tasks ++ [task] }

/-- A call of a method that returns at once with what it sent and emitted. -/
def callSync (s : Client) (signals : List Signal) (message : Option Message) : Client :=
  (s.send message.toList).emit signals

/-! ### Requests -/

/-- What the functions that start a request leave. -/
def begin (s : Client) (context : String)
    (result : XdgPortalNative × String × List Signal × Option Message) : Client :=
  let (native, handle, signals, message) := result
  let s := { s with native := native }
  match message with
  | none         => s.emit signals
  | some message =>
    let s := { s with inFlight := handle :: s.inFlight }
    (s.record [.request (.begun handle context)]).postTask (.call handle message)

/-- Deliver a Response; the flag says whether a request claimed it. -/
def deliver (s : Client) (path : String) (response : UInt32) (results : Dictionary) :
    Client × Bool :=
  let (native, delivered, signals) := s.native.deliverResponse path response results
  ((({ s with native := native }.decide signals).record
    (signals.map fun signal => .request (.signal (.response path response) signal))), delivered)

def failPending (s : Client) (reason : String) : Client :=
  let (native, signals) := s.native.failPendingRequests reason
  (({ s with native := native }.decide signals).record
    (signals.map fun signal => .request (.signal .portalLost signal)))

/-- Hold a Response that nobody claimed. -/
def hold (s : Client) (u : UnclaimedResponse) : Client :=
  { s with native := s.native.holdResponse u }.record
    (if 0 < s.native.callsInFlight then [.request (.held u.path)] else [])

/-- `refresh_power_saver_async` on the worker. -/
def refreshPowerSaver (s : Client) : Client :=
  ({ s with refreshes := s.refreshes + 1 }.record [.refreshing]).send
    [propertyMessage (ifacePowerProfileMonitor, propPowerSaverEnabled)]

/-- The rest of the callback the worker is in. -/
def resume (s : Client) : Option Client :=
  match s.worker with
  | .idle => none
  | .callStarted none => some { s with worker := .idle }
  | .callStarted (some early) =>
    some { (s.deliver early.path early.response early.results).1 with worker := .idle }
  | .requestResponse true _ => some { s with worker := .idle }
  | .requestResponse false u => some { s.hold u with worker := .idle }
  | .portalAppeared false => some { s with worker := .idle }
  | .portalAppeared true =>
    -- the state is asked for when the failures have been handed over
    some { s.failPending XdgPortalNative.replacedReason with worker := .idle, refreshDue := true }
  | .portalVanished false => some { s with worker := .idle }
  | .portalVanished true =>
    some { s.failPending XdgPortalNative.vanishedReason with worker := .idle }

/-! ### Discovery -/

def setRead (s : Client) (reader : Discovery.Reader) (r : Discovery.Read) : Client :=
  { s with reads := Function.update s.reads reader (some r) }

/-- Post the reads of a batch, and wait for them. -/
def startRead (s : Client) (reader : Discovery.Reader) (r : Discovery.Read) : Client :=
  { s.setRead reader r with reading := reader :: s.reading }.postTask (.reads reader r.properties)

/-- The value a power-saver callback takes over, and the signals it decides on. -/
def applied (s : Client) (onWorker : Bool) (value : Option Bool) (event : Bool → Discovery.Event)
    (result : XdgPortalNative × List Signal) : Client :=
  { s with native := result.1 }.record
    ((value.map fun v => Event.discovery onWorker (event v)).toList ++
      result.2.map fun signal => Event.discovery onWorker (.signal signal))

/-- Whether the task that sends the reads of a batch has yet to run. -/
def isPosted (s : Client) (reader : Discovery.Reader) : Bool :=
  s.tasks.any fun
    | .reads other _ => other = reader
    | _              => false

/-- What discovery has recorded. -/
def Event.discovery? : Event → Option Discovery.Event
  | .discovery _ event => some event
  | .portalAppeared old owner replaced => some (.portalAppeared old owner replaced)
  | .portalVanished old => some (.portalVanished old)
  | _ => none

/-- What either thread hands over. -/
def Event.deferred? : Event → Option Emission
  | .handed _ emission => some emission
  | _ => none

/-- What Godot has been handed, the latest first. -/
def deferred (history : List Event) : List Emission := history.filterMap Event.deferred?

/-- The departures the client has processed. -/
def departures (s : Client) : ℕ := Discovery.departures (s.history.filterMap Event.discovery?)

/-! ### Steps -/

/-- Methods can be called: the constructor has returned, and nobody destroys the object. -/
def isAlive (s : Client) : Bool := s.constructed && !s.shuttingDown

/-- The worker runs a task. -/
def runTask (s : Client) : Task → Client
  | .call handle message     => { s with onBus := handle :: s.onBus }.send [message]
  | .reads _ properties      => s.send (properties.map propertyMessage)
  | .refreshPowerSaver       => s.refreshPowerSaver

/-- One step of a client connected under the unique name `u`. -/
def step (u : UniqueName) (s : Client) : Action → Option Client
  | .construct =>
    match s.reads .constructor with
    | some _ => none
    | none   => some (s.startRead .constructor
        { properties := constructorProperties
          generation := s.native.portalGeneration
          departures := s.departures })
  | .take reader =>
    match s.reads reader with
    | none   => none
    | some r => if r.phase.isWaiting then some (s.setRead reader r.take) else none
  | .seed =>
    match s.reads .constructor with
    | none   => none
    | some r =>
      match r.phase with
      | .taken values definitive =>
        let value := powerSaverOf values[0]?.join
        let result := s.native.seedPowerSaver values
        let s := { s.setRead .constructor { r with phase := .seeded values definitive } with
          powerKnown := value.isSome
          announcing := result.2 }
        some (s.applied false value .seeded result)
      | _ => none
  | .announce =>
    if s.announcing.isEmpty then none else some ({ s with announcing := [] }.emit s.announcing)
  | .commitSeed =>
    match s.reads .constructor with
    | none   => none
    | some r =>
      match r.phase with
      | .seeded values definitive =>
        if s.announcing.isEmpty then
          let native := s.native.commitVersions r.generation portalInterfaces values.tail
            definitive.tail
          some { s.setRead .constructor { r with phase := .done } with native := native }
        else none
      | _ => none
  | .constructed =>
    match s.reads .constructor with
    | none   => none
    | some r =>
      match r.phase with
      | .done =>
        if s.constructed then none
        else
          let s := { s with constructed := true, reading := s.reading.erase .constructor }
          some (if s.powerKnown then s else s.postTask .refreshPowerSaver)
      | _ => none
  | .readVersions call interfaces =>
    if s.isAlive then
      match s.reads (.versions call) with
      | some _ => none
      | none   =>
        let (versions, missing) := s.native.lookupVersions interfaces
        if missing = [] then some (s.record [.discovery false (.versionsRead call versions)])
        else some (s.startRead (.versions call)
          { properties := missing.map fun interface => versionProperty interface.1
            generation := s.native.portalGeneration
            departures := s.departures
            versions := versions
            missing := missing })
    else none
  | .commit call =>
    match s.reads (.versions call) with
    | none   => none
    | some r =>
      match r.phase with
      | .taken values definitive =>
        let native := s.native.commitVersions r.generation (r.missing.map Prod.fst) values
          definitive
        let versions := XdgPortalNative.fillVersions r.versions r.missing values
        let s := { s.setRead (.versions call) { r with phase := .done } with
          native := native
          reading := s.reading.erase (.versions call) }
        some (s.record [.discovery false (.versionsRead call versions)])
      | _ => none
  | .inhibit random flags reason parentWindow =>
    if s.isAlive then
      some (s.begin "Inhibit.Inhibit"
        (s.native.inhibit (some (some u.toString)) random flags reason parentWindow))
    else none
  | .openUri random uri ask parentWindow =>
    if s.isAlive then
      some (s.begin "OpenURI.OpenURI"
        (s.native.openUriRequest (some (some u.toString)) random uri ask parentWindow))
    else none
  | .closeLookup handle =>
    if s.isAlive then
      match s.native.closeRequestPath handle with
      | none      => none
      | some path =>
        let s := { s with closing := handle :: s.closing }
        some ((s.record [.request (.closeSent handle path)]).send [closeMessage path])
    else none
  | .closeConfirmed handle =>
    if handle ∈ s.closing then
      let s := { s with
        native := s.native.closeRequestConfirmed handle
        closing := s.closing.erase handle }
      some (s.record [.request (.closed handle)])
    else none
  | .closeFailed handle error =>
    if handle ∈ s.closing then
      let signals := Tracker.closeErrors error
      let s := { s with closing := s.closing.erase handle }
      some ((s.record (signals.map fun signal => .request (.signal .closeFailed signal))).emit
        signals)
    else none
  | .gameModeQueryStatus pid reply =>
    if s.isAlive then
      let (_, signals, message) := XdgPortalNative.gameModeQueryStatus true pid reply
      some (s.callSync signals message)
    else none
  | .gameModeRegister pid reply =>
    if s.isAlive then
      let (_, signals, message) := XdgPortalNative.gameModeRegister true pid reply
      some (s.callSync signals message)
    else none
  | .gameModeUnregister pid reply =>
    if s.isAlive then
      let (_, signals, message) := XdgPortalNative.gameModeUnregister true pid reply
      some (s.callSync signals message)
    else none
  | .schemeSupported version reply scheme =>
    if s.isAlive then
      let (_, signals, message) :=
        XdgPortalNative.schemeSupportedCall (some (some u.toString)) version reply scheme
      some (s.callSync signals message)
    else none
  | .addNotification id title body priority reply =>
    if s.isAlive then
      let (_, signals, message) :=
        XdgPortalNative.addNotification true id title body priority reply
      some (s.callSync signals message)
    else none
  | .removeNotification id reply =>
    if s.isAlive then
      let (_, signals, message) := XdgPortalNative.removeNotification true id reply
      some (s.callSync signals message)
    else none
  | .shutDown =>
    -- the last reference is dropped when no method runs
    if s.isAlive ∧ s.closing = [] ∧ s.reading = [] then
      some ({ s with shuttingDown := true }.record [.shutDown])
    else none
  | .cancel =>
    if s.shuttingDown && !s.cancelled then some { s with cancelled := true } else none
  | .clear =>
    if s.stage = .joined then
      some { s with
        stage := .cleared
        tasks := []
        native := { s.native.clearRequests with cachedVersions := ∅ } }
    else none
  | .subscribe => if s.stage = .starting then some { s with stage := .running } else none
  | .runTask =>
    if s.isReady then
      match s.tasks with
      | []            => none
      | task :: tasks => some ({ s with tasks := tasks }.runTask task)
    else none
  | .callStarted handle path =>
    if s.isReady ∧ handle ∈ s.onBus then
      let (native, early) := s.native.onCallStarted handle path.val
      let s := { s with
        native := native
        worker := .callStarted early
        inFlight := s.inFlight.erase handle
        onBus := s.onBus.erase handle }
      some (s.record [.request (.callStarted handle path.val)])
    else none
  | .callFailed handle error =>
    if s.isReady ∧ handle ∈ s.onBus then
      let (native, signals) := s.native.onCallFailed handle error
      let s := { s with
        native := native
        inFlight := s.inFlight.erase handle
        onBus := s.onBus.erase handle }
      some ((s.decide signals).record (.request (.callFailed handle error) ::
        signals.map fun signal => .request (.signal .callFailed signal)))
    else none
  | .reply reader index reply tenure =>
    if s.isReady ∧ ¬ s.isPosted reader then
      match s.reads reader with
      | none   => none
      | some r =>
        if index ∈ r.outstanding then
          match r.properties[index]? with
          | none          => none
          | some property =>
            let s := s.setRead reader (r.onPropertyRead index reply)
            if r.phase.isWaiting then
              some (s.record [.discovery true (.answered reader property reply tenure)])
            else some s
        else none
    else none
  | .powerSaverRead reply =>
    if s.isReady ∧ 0 < s.refreshes then
      let value := powerSaverOf (replyValue reply)
      let s := { s with refreshes := s.refreshes - 1 }.record [.refreshed value]
      if s.shuttingDown then some s
      else
        let result := s.native.onPowerSaverRead reply
        some ((s.applied true value .reported result).decide result.2)
    else none
  | .requestResponse path parameters =>
    if s.listens then
      if s.shuttingDown then some s
      else
        match responseParameters parameters with
        | none => some s
        | some (response, results) =>
          let s := s.record [.request (.received path.val response results)]
          let (s, delivered) := s.deliver path.val response results
          some { s with worker := .requestResponse delivered ⟨path.val, response, results⟩ }
    else none
  | .propertiesChanged parameters =>
    if s.listens then
      if s.shuttingDown then some s
      else
        let result := s.native.onPropertiesChanged parameters
        some ((s.applied true (notifiedPowerSaver parameters) .reported result).decide result.2)
    else none
  | .actionInvoked parameters =>
    if s.listens then
      if s.shuttingDown then some s
      else
        match actionParameters parameters with
        | none => some s
        | some (id, action, converted) =>
          -- the only check has been made
          let s := { s with posting := some (.notificationActionInvoked id action converted) }
          some (s.record [.actionInvoked id action converted])
    else none
  | .portalAppeared owner =>
    if s.listens then
      if s.shuttingDown then some s
      else
        let (native, replaced) := s.native.onPortalAppeared owner
        some ({ s with native := native, worker := .portalAppeared replaced }.record
          [.portalAppeared s.native.portalOwner owner replaced])
    else none
  | .portalVanished =>
    if s.listens then
      if s.shuttingDown then some s
      else
        let (native, wasOwned) := s.native.onPortalVanished
        some ({ s with native := native, worker := .portalVanished wasOwned }.record
          [.portalVanished s.native.portalOwner])
    else none
  | .resume => if s.outbox.isEmpty && s.posting.isNone then s.resume else none
  | .refresh =>
    if s.refreshDue && s.outbox.isEmpty && s.posting.isNone then
      some { s with refreshDue := false }.refreshPowerSaver
    else none
  | .check =>
    match s.posting, s.outbox with
    | none, emission :: outbox =>
      if s.shuttingDown then some { s with outbox := outbox }
      else some { s with outbox := outbox, posting := some emission }
    | _, _ => none
  | .post =>
    match s.posting with
    | none          => none
    | some emission => some ({ s with posting := none }.record [.handed true emission])
  | .stop =>
    if s.stage = .running ∧ s.cancelled ∧ s.isFree then some { s with stage := .draining }
    else none
  | .exit =>
    if s.stage = .draining ∧ s.isFree then some { s with stage := .joined } else none

/-- The client from the start of its constructor on, with the worker started. -/
def machine (u : UniqueName) : Machine Client Action where
  init := {}
  step := step u

/-! ### A run on fixed inputs -/

/-- A Response that grants a request. -/
def granted : GVariant := .tuple [.uint32 0, .array (.dictEntry .string .variant) []]

/-- The portal does not answer the constructor, and an inhibition is asked for and granted. -/
def grantedRun : List Action :=
  [.construct, .take .constructor, .seed, .commitSeed, .constructed,
    .inhibit 7 8 "A reason" "", .subscribe, .runTask, .runTask, .runTask,
    .requestResponse Tracker.firstHandle granted, .check, .post, .resume]

end Client

end XdgPortals
