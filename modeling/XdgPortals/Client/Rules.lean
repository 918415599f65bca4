import XdgPortals.Client.System
import XdgPortals.Tracker.Rules

/-!
# What a step of the client can do

The outcomes of a step, one for each way through it. A call that waits for its reply is a `Sync`,
whichever method makes it.
-/

namespace XdgPortals

namespace Client

/-- The calls that wait for their reply, with the signals they emit and what they send. -/
inductive Sync (u : UniqueName) : Action → List Signal → Option Message → Prop where
  | gameModeQueryStatus (pid : Int32) (reply : CallReply Int32) :
      Sync u (.gameModeQueryStatus pid reply)
        (XdgPortalNative.gameModeQueryStatus true pid reply).2.1
        (XdgPortalNative.gameModeQueryStatus true pid reply).2.2
  | gameModeRegister (pid : Int32) (reply : CallReply Int32) :
      Sync u (.gameModeRegister pid reply)
        (XdgPortalNative.gameModeRegister true pid reply).2.1
        (XdgPortalNative.gameModeRegister true pid reply).2.2
  | gameModeUnregister (pid : Int32) (reply : CallReply Int32) :
      Sync u (.gameModeUnregister pid reply)
        (XdgPortalNative.gameModeUnregister true pid reply).2.1
        (XdgPortalNative.gameModeUnregister true pid reply).2.2
  | schemeSupported (version : Int32) (reply : CallReply Bool) (scheme : String) :
      Sync u (.schemeSupported version reply scheme)
        (XdgPortalNative.schemeSupportedCall (some (some u.toString)) version reply scheme).2.1
        (XdgPortalNative.schemeSupportedCall (some (some u.toString)) version reply scheme).2.2
  | addNotification (id title body priority : String) (reply : CallReply Unit) :
      Sync u (.addNotification id title body priority reply)
        (XdgPortalNative.addNotification true id title body priority reply).2.1
        (XdgPortalNative.addNotification true id title body priority reply).2.2
  | removeNotification (id : String) (reply : CallReply Unit) :
      Sync u (.removeNotification id reply)
        (XdgPortalNative.removeNotification true id reply).2.1
        (XdgPortalNative.removeNotification true id reply).2.2

/-- The calls that start a request, with their context and what they make of the state. -/
inductive Starts (u : UniqueName) (n : XdgPortalNative) :
    Action → String → XdgPortalNative × String × List Signal × Option Message → Prop where
  | inhibit (random : UInt32) (flags : Int32) (reason parentWindow : String) :
      Starts u n (.inhibit random flags reason parentWindow) "Inhibit.Inhibit"
        (n.inhibit (some (some u.toString)) random flags reason parentWindow)
  | openUri (random : UInt32) (uri : String) (ask : Bool) (parentWindow : String) :
      Starts u n (.openUri random uri ask parentWindow) "OpenURI.OpenURI"
        (n.openUriRequest (some (some u.toString)) random uri ask parentWindow)

/-- What is drawn for the token of a request. -/
def Action.random : Action → UInt32
  | .inhibit random .. | .openUri random .. => random
  | _ => 0

lemma Starts.cases {u : UniqueName} {n : XdgPortalNative} {a : Action} {context : String}
    {result : XdgPortalNative × String × List Signal × Option Message}
    (h : Starts u n a context result) :
    (∃ message, result = (n, "", [.portalError context message], none)) ∨
      n.Requests (some u.toString) a.random context result := by
  cases h with
  | inhibit random flags reason parentWindow => exact XdgPortalNative.inhibit_cases u
  | openUri random uri ask parentWindow => exact XdgPortalNative.openUriRequest_cases u

/-- The worker is inside a callback whose rest changes nothing. -/
abbrev Settled : Worker → Prop := Tracker.Settled

/-- The outcomes of a step. -/
inductive Rule (u : UniqueName) (s : Client) : Action → Client → Prop where
  | construct (hnew : s.reads .constructor = none) :
      Rule u s .construct (s.startRead .constructor
        { properties := constructorProperties
          generation := s.native.portalGeneration
          departures := s.departures })
  | take (reader : Discovery.Reader) (r : Discovery.Read) (hread : s.reads reader = some r)
      (hphase : r.phase.isWaiting = true) : Rule u s (.take reader) (s.setRead reader r.take)
  | seed (r : Discovery.Read) (hread : s.reads .constructor = some r)
      (values : List (Option GVariant)) (definitive : List Bool)
      (hphase : r.phase = .taken values definitive) :
      Rule u s .seed
        (({ s.setRead .constructor { r with phase := .seeded values definitive } with
            powerKnown := (powerSaverOf values[0]?.join).isSome
            announcing := (s.native.seedPowerSaver values).2 } : Client).applied false
          (powerSaverOf values[0]?.join) .seeded (s.native.seedPowerSaver values))
  | announce (hannouncing : s.announcing ≠ []) :
      Rule u s .announce ({ s with announcing := [] }.emit s.announcing)
  | commitSeed (r : Discovery.Read) (hread : s.reads .constructor = some r)
      (values : List (Option GVariant)) (definitive : List Bool)
      (hphase : r.phase = .seeded values definitive) (hannounced : s.announcing = []) :
      Rule u s .commitSeed
        { s.setRead .constructor { r with phase := .done } with
          native := s.native.commitVersions r.generation portalInterfaces values.tail
            definitive.tail }
  | constructedKnown (r : Discovery.Read) (hread : s.reads .constructor = some r)
      (hphase : r.phase = .done) (hnot : s.constructed = false) (hknown : s.powerKnown = true) :
      Rule u s .constructed
        { s with constructed := true, reading := s.reading.erase .constructor }
  | constructedUnknown (r : Discovery.Read) (hread : s.reads .constructor = some r)
      (hphase : r.phase = .done) (hnot : s.constructed = false) (hknown : s.powerKnown = false) :
      Rule u s .constructed
        ({ s with constructed := true, reading := s.reading.erase .constructor }.postTask
          .refreshPowerSaver)
  | versionsCached (call : ℕ) (interfaces : List String) (halive : s.isAlive = true)
      (hnew : s.reads (.versions call) = none)
      (hmissing : (s.native.lookupVersions interfaces).2 = []) :
      Rule u s (.readVersions call interfaces)
        (s.record [.discovery false
          (.versionsRead call (s.native.lookupVersions interfaces).1)])
  | readVersions (call : ℕ) (interfaces : List String) (halive : s.isAlive = true)
      (hnew : s.reads (.versions call) = none)
      (hmissing : (s.native.lookupVersions interfaces).2 ≠ []) :
      Rule u s (.readVersions call interfaces) (s.startRead (.versions call)
        { properties :=
            (s.native.lookupVersions interfaces).2.map fun interface => versionProperty interface.1
          generation := s.native.portalGeneration
          departures := s.departures
          versions := (s.native.lookupVersions interfaces).1
          missing := (s.native.lookupVersions interfaces).2 })
  | commit (call : ℕ) (r : Discovery.Read) (hread : s.reads (.versions call) = some r)
      (values : List (Option GVariant)) (definitive : List Bool)
      (hphase : r.phase = .taken values definitive) :
      Rule u s (.commit call)
        ({ s.setRead (.versions call) { r with phase := .done } with
            native := s.native.commitVersions r.generation (r.missing.map Prod.fst) values
              definitive
            reading := s.reading.erase (.versions call) }.record
          [.discovery false (.versionsRead call
            (XdgPortalNative.fillVersions r.versions r.missing values))])
  | refused (a : Action) (context message : String) (halive : s.isAlive = true)
      (hstarts : Starts u s.native a context
        (s.native, "", [.portalError context message], none)) :
      Rule u s a (s.emit [.portalError context message])
  | requested (a : Action) (context : String) (message : Message) (halive : s.isAlive = true)
      (native : XdgPortalNative) (token handle : String)
      (hbegin : s.native.beginRequest (some u.toString) a.random context = (native, token, handle))
      (hasks : Asks token context message)
      (hstarts : Starts u s.native a context (native, handle, [], some message)) :
      Rule u s a (({ s with native := native, inFlight := handle :: s.inFlight }.record
        [.request (.begun handle context)]).postTask (.call handle message))
  | closeLookup (handle path : String) (halive : s.isAlive = true)
      (hpath : s.native.closeRequestPath handle = some path) :
      Rule u s (.closeLookup handle)
        (({ s with closing := handle :: s.closing }.record
          [.request (.closeSent handle path)]).send [closeMessage path])
  | closeConfirmed (handle : String) (hmem : handle ∈ s.closing) :
      Rule u s (.closeConfirmed handle)
        ({ s with
            native := s.native.forgetRequestLocked handle
            closing := s.closing.erase handle }.record [.request (.closed handle)])
  | closeFailed (handle : String) (error : Option GError) (hmem : handle ∈ s.closing) :
      Rule u s (.closeFailed handle error)
        (({ s with closing := s.closing.erase handle }.record
          ((Tracker.closeErrors error).map fun signal =>
            .request (.signal .closeFailed signal))).emit (Tracker.closeErrors error))
  | sync (a : Action) (signals : List Signal) (message : Option Message)
      (halive : s.isAlive = true) (hsync : Sync u a signals message) :
      Rule u s a (s.callSync signals message)
  | shutDown (halive : s.isAlive = true) (hclosing : s.closing = []) (hreading : s.reading = []) :
      Rule u s .shutDown ({ s with shuttingDown := true }.record [.shutDown])
  | cancel (hdown : s.shuttingDown = true) (hnot : s.cancelled = false) :
      Rule u s .cancel { s with cancelled := true }
  | clear (hstage : s.stage = .joined) :
      Rule u s .clear { s with
        stage := .cleared
        tasks := []
        native := { s.native.clearRequests with cachedVersions := ∅ } }
  | subscribe (hstage : s.stage = .starting) : Rule u s .subscribe { s with stage := .running }
  | runTask (task : Task) (tasks : List Task) (hready : s.isReady = true)
      (htasks : s.tasks = task :: tasks) :
      Rule u s .runTask ({ s with tasks := tasks }.runTask task)
  | callStarted (handle : String) (path : ObjectPath) (hready : s.isReady = true)
      (hmem : handle ∈ s.onBus) :
      Rule u s (.callStarted handle path)
        ({ s with
            native := (s.native.onCallStarted handle path.val).1
            worker := .callStarted (s.native.onCallStarted handle path.val).2
            inFlight := s.inFlight.erase handle
            onBus := s.onBus.erase handle }.record [.request (.callStarted handle path.val)])
  | callFailed (handle : String) (error : Option GError) (hready : s.isReady = true)
      (hmem : handle ∈ s.onBus) :
      Rule u s (.callFailed handle error)
        (({ s with
            native := (s.native.onCallFailed handle error).1
            inFlight := s.inFlight.erase handle
            onBus := s.onBus.erase handle }.decide (s.native.onCallFailed handle error).2).record
          (.request (.callFailed handle error) ::
            (s.native.onCallFailed handle error).2.map fun signal =>
              .request (.signal .callFailed signal)))
  | answered (reader : Discovery.Reader) (index : ℕ) (reply : PropertyReply) (tenure : ℕ)
      (r : Discovery.Read) (hready : s.isReady = true) (hposted : s.isPosted reader = false)
      (hread : s.reads reader = some r) (houtstanding : index ∈ r.outstanding)
      (property : String × String) (hproperty : r.properties[index]? = some property)
      (hphase : r.phase.isWaiting = true) :
      Rule u s (.reply reader index reply tenure)
        ((s.setRead reader (r.onPropertyRead index reply)).record
          [.discovery true (.answered reader property reply tenure)])
  | late (reader : Discovery.Reader) (index : ℕ) (reply : PropertyReply) (tenure : ℕ)
      (r : Discovery.Read) (hready : s.isReady = true) (hposted : s.isPosted reader = false)
      (hread : s.reads reader = some r) (houtstanding : index ∈ r.outstanding)
      (property : String × String) (hproperty : r.properties[index]? = some property)
      (hphase : r.phase.isWaiting = false) :
      Rule u s (.reply reader index reply tenure) (s.setRead reader (r.onPropertyRead index reply))
  | refreshedLate (reply : PropertyReply) (hready : s.isReady = true) (hpos : 0 < s.refreshes)
      (hdown : s.shuttingDown = true) :
      Rule u s (.powerSaverRead reply)
        ({ s with refreshes := s.refreshes - 1 }.record
          [.refreshed (powerSaverOf (replyValue reply))])
  | powerSaverRead (reply : PropertyReply) (hready : s.isReady = true) (hpos : 0 < s.refreshes)
      (hdown : s.shuttingDown = false) :
      Rule u s (.powerSaverRead reply)
        ((({ s with refreshes := s.refreshes - 1 }.record
            [.refreshed (powerSaverOf (replyValue reply))]).applied true
            (powerSaverOf (replyValue reply)) .reported (s.native.onPowerSaverRead reply)).decide
          (s.native.onPowerSaverRead reply).2)
  | ignoredResponse (path : ObjectPath) (parameters : GVariant) (hlistens : s.listens = true)
      (hignored : s.shuttingDown = true ∨ responseParameters parameters = none) :
      Rule u s (.requestResponse path parameters) s
  | requestResponse (path : ObjectPath) (parameters : GVariant) (response : UInt32)
      (results : Dictionary) (hlistens : s.listens = true) (hdown : s.shuttingDown = false)
      (hparameters : responseParameters parameters = some (response, results)) :
      Rule u s (.requestResponse path parameters)
        { ((s.record [.request (.received path.val response results)]).deliver path.val response
            results).1 with
          worker := .requestResponse
            ((s.record [.request (.received path.val response results)]).deliver path.val response
              results).2 ⟨path.val, response, results⟩ }
  | ignoredProperties (parameters : GVariant) (hlistens : s.listens = true)
      (hdown : s.shuttingDown = true) : Rule u s (.propertiesChanged parameters) s
  | propertiesChanged (parameters : GVariant) (hlistens : s.listens = true)
      (hdown : s.shuttingDown = false) :
      Rule u s (.propertiesChanged parameters)
        ((s.applied true (notifiedPowerSaver parameters) .reported
          (s.native.onPropertiesChanged parameters)).decide
          (s.native.onPropertiesChanged parameters).2)
  | ignoredAction (parameters : GVariant) (hlistens : s.listens = true)
      (hignored : s.shuttingDown = true ∨ actionParameters parameters = none) :
      Rule u s (.actionInvoked parameters) s
  | actionInvoked (parameters : GVariant) (id action : String) (converted : List Variant)
      (hlistens : s.listens = true) (hdown : s.shuttingDown = false)
      (hparameters : actionParameters parameters = some (id, action, converted)) :
      Rule u s (.actionInvoked parameters)
        ({ s with posting := some (.notificationActionInvoked id action converted) }.record
          [.actionInvoked id action converted])
  | ignoredAppeared (owner : String) (hlistens : s.listens = true) (hdown : s.shuttingDown = true) :
      Rule u s (.portalAppeared owner) s
  | portalAppeared (owner : String) (hlistens : s.listens = true) (hdown : s.shuttingDown = false) :
      Rule u s (.portalAppeared owner)
        ({ s with
            native := (s.native.onPortalAppeared owner).1
            worker := .portalAppeared (s.native.onPortalAppeared owner).2 }.record
          [.portalAppeared s.native.portalOwner owner (s.native.onPortalAppeared owner).2])
  | ignoredVanished (hlistens : s.listens = true) (hdown : s.shuttingDown = true) :
      Rule u s .portalVanished s
  | portalVanished (hlistens : s.listens = true) (hdown : s.shuttingDown = false) :
      Rule u s .portalVanished
        ({ s with
            native := s.native.onPortalVanished.1
            worker := .portalVanished s.native.onPortalVanished.2 }.record
          [.portalVanished s.native.portalOwner])
  | resumeSettled (hquiet : s.outbox = [] ∧ s.posting = none) (hsettled : Settled s.worker) :
      Rule u s .resume { s with worker := .idle }
  | resumeEarly (early : UnclaimedResponse) (hquiet : s.outbox = [] ∧ s.posting = none)
      (hworker : s.worker = .callStarted (some early)) :
      Rule u s .resume
        { (s.deliver early.path early.response early.results).1 with worker := .idle }
  | resumeHold (response : UnclaimedResponse) (hquiet : s.outbox = [] ∧ s.posting = none)
      (hworker : s.worker = .requestResponse false response) :
      Rule u s .resume { s.hold response with worker := .idle }
  | resumeReplaced (hquiet : s.outbox = [] ∧ s.posting = none)
      (hworker : s.worker = .portalAppeared true) :
      Rule u s .resume { s.failPending XdgPortalNative.replacedReason with
        worker := .idle
        refreshDue := true }
  | resumeVanished (hquiet : s.outbox = [] ∧ s.posting = none)
      (hworker : s.worker = .portalVanished true) :
      Rule u s .resume { s.failPending XdgPortalNative.vanishedReason with worker := .idle }
  | refresh (hquiet : s.outbox = [] ∧ s.posting = none) (hdue : s.refreshDue = true) :
      Rule u s .refresh { s with refreshDue := false }.refreshPowerSaver
  | passed (emission : Emission) (outbox : List Emission) (hposting : s.posting = none)
      (houtbox : s.outbox = emission :: outbox) (hdown : s.shuttingDown = false) :
      Rule u s .check { s with outbox := outbox, posting := some emission }
  | dropped (emission : Emission) (outbox : List Emission) (hposting : s.posting = none)
      (houtbox : s.outbox = emission :: outbox) (hdown : s.shuttingDown = true) :
      Rule u s .check { s with outbox := outbox }
  | post (emission : Emission) (hposting : s.posting = some emission) :
      Rule u s .post ({ s with posting := none }.record [.handed true emission])
  | stop (hstage : s.stage = .running) (hcancelled : s.cancelled = true) (hfree : s.isFree = true) :
      Rule u s .stop { s with stage := .draining }
  | exit (hstage : s.stage = .draining) (hfree : s.isFree = true) :
      Rule u s .exit { s with stage := .joined }

variable {u : UniqueName} {s s' : Client} {a : Action}

/-- A call that starts a request follows one of the rules. -/
lemma Rule.of_starts {context : String}
    {result : XdgPortalNative × String × List Signal × Option Message} (halive : s.isAlive = true)
    (hstarts : Starts u s.native a context result) : Rule u s a (s.begin context result) := by
  rcases hstarts.cases with ⟨message, rfl⟩ | ⟨message, hasks, rfl⟩
  · exact .refused a context message halive hstarts
  · exact .requested a context message halive _ _ _ rfl hasks hstarts

/-- The rest of a callback follows one of the rules. -/
lemma Rule.of_resume (hquiet : s.outbox = [] ∧ s.posting = none) (h : s.resume = some s') :
    Rule u s .resume s' := by
  simp only [Client.resume] at h
  split at h
  · cases h
  · next hw =>
    cases h
    exact .resumeSettled hquiet (by rw [hw]; trivial)
  · next early hw =>
    cases h
    exact .resumeEarly early hquiet hw
  · next hw =>
    cases h
    exact .resumeSettled hquiet (by rw [hw]; trivial)
  · next response hw =>
    cases h
    exact .resumeHold response hquiet hw
  · next hw =>
    cases h
    exact .resumeSettled hquiet (by rw [hw]; rfl)
  · next hw =>
    cases h
    exact .resumeReplaced hquiet hw
  · next hw =>
    cases h
    exact .resumeSettled hquiet (by rw [hw]; rfl)
  · next hw =>
    cases h
    exact .resumeVanished hquiet hw

/-- Every step follows one of the rules. -/
theorem Rule.of_step (h : (machine u).step s a = some s') : Rule u s a s' := by
  change step u s a = some s' at h
  cases a with
  | construct =>
    simp only [step] at h
    split at h
    · cases h
    · next hnew =>
      cases h
      exact .construct hnew
  | take reader =>
    simp only [step] at h
    split at h
    · cases h
    · next r hread =>
      split_ifs at h with hphase
      cases h
      exact .take reader r hread hphase
  | seed =>
    simp only [step] at h
    split at h
    · cases h
    · next r hread =>
      split at h
      · next values definitive hphase =>
        cases h
        exact .seed r hread values definitive hphase
      · cases h
  | announce =>
    simp only [step] at h
    split_ifs at h with hannouncing
    cases h
    exact .announce (by simpa using hannouncing)
  | commitSeed =>
    simp only [step] at h
    split at h
    · cases h
    · next r hread =>
      split at h
      · next values definitive hphase =>
        split_ifs at h with hannounced
        cases h
        exact .commitSeed r hread values definitive hphase (List.isEmpty_iff.mp hannounced)
      · cases h
  | constructed =>
    simp only [step] at h
    split at h
    · cases h
    · next r hread =>
      split at h
      · next hphase =>
        split_ifs at h with hnot hknown
        · cases h
          exact .constructedKnown r hread hphase (by simpa using hnot) hknown
        · cases h
          exact .constructedUnknown r hread hphase (by simpa using hnot) (by simpa using hknown)
      · cases h
  | readVersions call interfaces =>
    by_cases halive : s.isAlive = true
    swap
    · simp only [step, if_neg halive] at h
      cases h
    simp only [step, if_pos halive] at h
    split at h
    · cases h
    · next hnew =>
      split_ifs at h with hmissing
      · cases h
        exact .versionsCached call interfaces halive hnew hmissing
      · cases h
        exact .readVersions call interfaces halive hnew hmissing
  | commit call =>
    simp only [step] at h
    split at h
    · cases h
    · next r hread =>
      split at h
      · next values definitive hphase =>
        cases h
        exact .commit call r hread values definitive hphase
      · cases h
  | inhibit random flags reason parentWindow =>
    simp only [step] at h
    split_ifs at h with halive
    cases h
    exact .of_starts halive (.inhibit random flags reason parentWindow)
  | openUri random uri ask parentWindow =>
    simp only [step] at h
    split_ifs at h with halive
    cases h
    exact .of_starts halive (.openUri random uri ask parentWindow)
  | closeLookup handle =>
    by_cases halive : s.isAlive = true
    swap
    · simp only [step, if_neg halive] at h
      cases h
    simp only [step, if_pos halive] at h
    split at h
    · cases h
    · next path hpath =>
      cases h
      exact .closeLookup handle path halive hpath
  | closeConfirmed handle =>
    simp only [step] at h
    split_ifs at h with hmem
    cases h
    exact .closeConfirmed handle hmem
  | closeFailed handle error =>
    simp only [step] at h
    split_ifs at h with hmem
    cases h
    exact .closeFailed handle error hmem
  | gameModeQueryStatus pid reply =>
    simp only [step] at h
    split_ifs at h with halive
    cases h
    exact .sync _ _ _ halive (.gameModeQueryStatus pid reply)
  | gameModeRegister pid reply =>
    simp only [step] at h
    split_ifs at h with halive
    cases h
    exact .sync _ _ _ halive (.gameModeRegister pid reply)
  | gameModeUnregister pid reply =>
    simp only [step] at h
    split_ifs at h with halive
    cases h
    exact .sync _ _ _ halive (.gameModeUnregister pid reply)
  | schemeSupported version reply scheme =>
    simp only [step] at h
    split_ifs at h with halive
    cases h
    exact .sync _ _ _ halive (.schemeSupported version reply scheme)
  | addNotification id title body priority reply =>
    simp only [step] at h
    split_ifs at h with halive
    cases h
    exact .sync _ _ _ halive (.addNotification id title body priority reply)
  | removeNotification id reply =>
    simp only [step] at h
    split_ifs at h with halive
    cases h
    exact .sync _ _ _ halive (.removeNotification id reply)
  | shutDown =>
    simp only [step] at h
    split_ifs at h with hguard
    cases h
    exact .shutDown hguard.1 hguard.2.1 hguard.2.2
  | cancel =>
    simp only [step] at h
    split_ifs at h with hguard
    cases h
    rw [Bool.and_eq_true, Bool.not_eq_true'] at hguard
    exact .cancel hguard.1 hguard.2
  | clear =>
    simp only [step] at h
    split_ifs at h with hstage
    cases h
    exact .clear hstage
  | subscribe =>
    simp only [step] at h
    split_ifs at h with hstage
    cases h
    exact .subscribe hstage
  | runTask =>
    simp only [step] at h
    split_ifs at h with hready
    split at h
    · cases h
    · next task tasks htasks =>
      cases h
      exact .runTask task tasks hready htasks
  | callStarted handle path =>
    simp only [step] at h
    split_ifs at h with hguard
    cases h
    exact .callStarted handle path hguard.1 hguard.2
  | callFailed handle error =>
    simp only [step] at h
    split_ifs at h with hguard
    cases h
    exact .callFailed handle error hguard.1 hguard.2
  | reply reader index reply tenure =>
    by_cases hguard : s.isReady = true ∧ ¬ s.isPosted reader = true
    swap
    · simp only [step, if_neg hguard] at h
      cases h
    have hposted : s.isPosted reader = false := by simpa using hguard.2
    simp only [step, if_pos hguard] at h
    split at h
    · cases h
    · next r hread =>
      by_cases houtstanding : index ∈ r.outstanding
      swap
      · rw [if_neg houtstanding] at h
        cases h
      rw [if_pos houtstanding] at h
      split at h
      · cases h
      · next property hproperty =>
        split_ifs at h with hphase
        · cases h
          exact .answered reader index reply tenure r hguard.1 hposted hread houtstanding property
            hproperty hphase
        · cases h
          exact .late reader index reply tenure r hguard.1 hposted hread houtstanding property
            hproperty (by simpa using hphase)
  | powerSaverRead reply =>
    simp only [step] at h
    split_ifs at h with hguard hdown
    · cases h
      exact .refreshedLate reply hguard.1 hguard.2 hdown
    · cases h
      exact .powerSaverRead reply hguard.1 hguard.2 (by simpa [record] using hdown)
  | requestResponse path parameters =>
    simp only [step] at h
    split_ifs at h with hlistens hdown
    · cases h
      exact .ignoredResponse path parameters hlistens (.inl hdown)
    · split at h
      · next hnone =>
        cases h
        exact .ignoredResponse path parameters hlistens (.inr hnone)
      · next response results hparameters =>
        cases h
        exact .requestResponse path parameters response results hlistens (by simpa using hdown)
          hparameters
  | propertiesChanged parameters =>
    simp only [step] at h
    split_ifs at h with hlistens hdown
    · cases h
      exact .ignoredProperties parameters hlistens hdown
    · cases h
      exact .propertiesChanged parameters hlistens (by simpa using hdown)
  | actionInvoked parameters =>
    simp only [step] at h
    split_ifs at h with hlistens hdown
    · cases h
      exact .ignoredAction parameters hlistens (.inl hdown)
    · split at h
      · next hnone =>
        cases h
        exact .ignoredAction parameters hlistens (.inr hnone)
      · next id action converted hparameters =>
        cases h
        exact .actionInvoked parameters id action converted hlistens (by simpa using hdown)
          hparameters
  | portalAppeared owner =>
    simp only [step] at h
    split_ifs at h with hlistens hdown
    · cases h
      exact .ignoredAppeared owner hlistens hdown
    · cases h
      exact .portalAppeared owner hlistens (by simpa using hdown)
  | portalVanished =>
    simp only [step] at h
    split_ifs at h with hlistens hdown
    · cases h
      exact .ignoredVanished hlistens hdown
    · cases h
      exact .portalVanished hlistens (by simpa using hdown)
  | resume =>
    simp only [step] at h
    split_ifs at h with hguard
    exact .of_resume (by simpa using hguard) h
  | refresh =>
    simp only [step] at h
    split_ifs at h with hguard
    cases h
    simp only [Bool.and_eq_true, List.isEmpty_iff, Option.isNone_iff_eq_none] at hguard
    exact .refresh ⟨hguard.1.2, hguard.2⟩ hguard.1.1
  | check =>
    simp only [step] at h
    split at h
    · next emission outbox hposting houtbox =>
      split_ifs at h with hdown
      · cases h
        exact .dropped emission outbox hposting houtbox hdown
      · cases h
        exact .passed emission outbox hposting houtbox (by simpa using hdown)
    · cases h
  | post =>
    simp only [step] at h
    split at h
    · cases h
    · next emission hposting =>
      cases h
      exact .post emission hposting
  | stop =>
    simp only [step] at h
    split_ifs at h with hguard
    cases h
    exact .stop hguard.1 hguard.2.1 hguard.2.2
  | exit =>
    simp only [step] at h
    split_ifs at h with hguard
    cases h
    exact .exit hguard.1 hguard.2

/-! ### What is recorded -/

lemma record_cons (s : Client) (e : Event) (es : List Event) :
    s.record (e :: es) = (s.record [e]).record es := by
  simp [record]

lemma emit_eq (s : Client) (signals : List Signal) : s.emit signals =
    s.record (if s.shuttingDown then []
      else signals.map fun signal => .handed false (.signal signal)) := by
  rw [emit]
  split_ifs <;> rfl

lemma send_eq (s : Client) (messages : List Message) : s.send messages =
    s.record (if s.cancelled then [] else messages.map .sent) := by
  rw [send]
  split_ifs <;> rfl

@[simp] lemma stage_emit (s : Client) (signals : List Signal) :
    (s.emit signals).stage = s.stage := by
  rw [emit_eq]
  rfl

@[simp] lemma stage_send (s : Client) (messages : List Message) :
    (s.send messages).stage = s.stage := by
  rw [send_eq]
  rfl

@[simp] lemma stage_refreshPowerSaver (s : Client) : s.refreshPowerSaver.stage = s.stage :=
  stage_send ..

@[simp] lemma stage_runTask (s : Client) (task : Task) : (s.runTask task).stage = s.stage := by
  cases task <;> simp [runTask]

/-- The stages of the worker come one after the other. -/
lemma Rule.stage (h : Rule u s a s') :
    s'.stage = s.stage ∨ (s.stage = .starting ∧ s'.stage = .running) ∨
      (s.stage = .running ∧ s'.stage = .draining) ∨ (s.stage = .draining ∧ s'.stage = .joined) ∨
      (s.stage = .joined ∧ s'.stage = .cleared) := by
  cases h with
  | subscribe hstage => exact .inr (.inl ⟨hstage, rfl⟩)
  | stop hstage hcancelled hfree => exact .inr (.inr (.inl ⟨hstage, rfl⟩))
  | exit hstage hfree => exact .inr (.inr (.inr (.inl ⟨hstage, rfl⟩)))
  | clear hstage => exact .inr (.inr (.inr (.inr ⟨hstage, rfl⟩)))
  | announce hannouncing => exact .inl (stage_emit ..)
  | refused _ context message halive hstarts => exact .inl (stage_emit ..)
  | closeLookup handle path halive hpath => exact .inl (stage_send ..)
  | closeFailed handle error hmem => exact .inl (stage_emit ..)
  | sync _ signals message halive hsync => exact .inl ((stage_emit ..).trans (stage_send ..))
  | runTask task tasks hready htasks => exact .inl (stage_runTask ..)
  | refresh hquiet hdue => exact .inl (stage_send ..)
  | _ => exact .inl rfl

end Client

end XdgPortals
