import XdgPortals.Client.Views
import XdgPortals.Library.Simulation

/-!
# The client refines its two components

Until the destructor clears the tables, every run of the client is seen as a run of the request
tracker and as one of discovery. What these guarantee therefore holds of the whole client, whatever
its other half does and in whatever order the two threads come.
-/

namespace XdgPortals

namespace Client

variable {u : UniqueName} {s s' : Client} {a : Action}

/-! ### Where a call is -/

/-- The handle of a call that waits in the queue of the worker. -/
def Task.handle? : Task → Option String
  | .call handle _ => some handle
  | _ => none

/-- The handles whose calls have been posted and not sent. -/
def posted (s : Client) : List String := s.tasks.filterMap Task.handle?

/-- Every call in flight is either posted or on the bus. -/
def CallsPlaced (s : Client) : Prop :=
  s.stage ≠ .cleared → (s.posted ++ s.onBus).Perm s.inFlight

lemma posted_append (tasks : List Task) (task : Task) :
    (tasks ++ [task]).filterMap Task.handle? =
      tasks.filterMap Task.handle? ++ task.handle?.toList := by
  rw [List.filterMap_append]
  cases task <;> rfl

/-- A call has returned. -/
lemma perm_erase {handle : String} {posted onBus inFlight : List String}
    (h : (posted ++ onBus).Perm inFlight) (hmem : handle ∈ onBus) :
    (posted ++ onBus.erase handle).Perm (inFlight.erase handle) := by
  rw [List.perm_iff_count] at h ⊢
  intro k
  have hpos : 0 < onBus.count handle := List.count_pos_iff.mpr hmem
  have hk := h k
  rw [List.count_append] at hk ⊢
  rw [List.count_erase, List.count_erase]
  by_cases heq : handle = k
  · subst heq
    simp only [beq_self_eq_true, if_true]
    omega
  · simp only [beq_iff_eq, heq, if_false]
    omega

/-- Other tasks do not matter. -/
lemma CallsPlaced.postTask (h : CallsPlaced s) {task : Task} (hnone : task.handle? = none) :
    CallsPlaced (s.postTask task) := by
  intro hnot
  show ((s.tasks ++ [task]).filterMap Task.handle? ++ s.onBus).Perm s.inFlight
  rw [posted_append, hnone, Option.toList_none, List.append_nil]
  exact h hnot

lemma CallsPlaced.step (h : CallsPlaced s) (hrule : Rule u s a s') : CallsPlaced s' := by
  cases hrule with
  | construct hnew => exact CallsPlaced.postTask (s := { s.setRead _ _ with reading := _ }) h rfl
  | constructedUnknown r hread hphase hnot hknown =>
    exact CallsPlaced.postTask (s := { s with constructed := true, reading := _ }) h rfl
  | readVersions call interfaces halive hnew hmissing =>
    exact CallsPlaced.postTask (s := { s.setRead _ _ with reading := _ }) h rfl
  | announce hannouncing =>
    rw [emit_eq]
    exact h
  | refused b context message halive hstarts =>
    rw [emit_eq]
    exact h
  | requested b context message halive native token handle hbegin hasks hstarts =>
    intro hnot
    have hperm := (h hnot).cons handle
    show ((s.tasks ++ [Task.call handle message]).filterMap Task.handle? ++ s.onBus).Perm _
    rw [posted_append, List.append_assoc]
    exact List.perm_middle.trans hperm
  | closeLookup handle path halive hpath =>
    rw [send_eq]
    exact h
  | closeFailed handle error hmem =>
    rw [emit_eq]
    exact h
  | sync b signals message halive hsync =>
    rw [callSync, emit_eq, send_eq]
    exact h
  | clear hstage => exact fun hnot => absurd rfl hnot
  | subscribe hstage => exact fun _ => h (by simp [hstage])
  | stop hstage hcancelled hfree => exact fun _ => h (by simp [hstage])
  | exit hstage hfree => exact fun _ => h (by simp [hstage])
  | runTask task tasks hready htasks =>
    intro hnot
    cases task with
    | call handle message =>
      rw [runTask, send_eq] at hnot ⊢
      have hperm := h hnot
      rw [posted, htasks] at hperm
      exact List.perm_middle.trans hperm
    | reads reader properties =>
      rw [runTask, send_eq] at hnot ⊢
      have hperm := h hnot
      rw [posted, htasks] at hperm
      exact hperm
    | refreshPowerSaver =>
      rw [runTask, refreshPowerSaver, send_eq] at hnot ⊢
      have hperm := h hnot
      rw [posted, htasks] at hperm
      exact hperm
  | callStarted handle path hready hmem => exact fun hnot => perm_erase (h hnot) hmem
  | callFailed handle error hready hmem => exact fun hnot => perm_erase (h hnot) hmem
  | refresh hquiet hdue =>
    rw [refreshPowerSaver, send_eq]
    exact h
  | _ => exact h

theorem callsPlaced_of_reachable (hs : (machine u).Reachable s) : CallsPlaced s := by
  induction hs with
  | init => exact fun _ => List.Perm.refl []
  | step hr ha ih => exact ih.step (.of_step ha)

/-! ### The request tracker -/

/-- What the request tracker has recorded. -/
def Event.request? : Event → Option XdgPortals.Event
  | .request event => some event
  | .portalAppeared old owner replaced => some (.portalAppeared old owner replaced)
  | .portalVanished old => some (.portalVanished old)
  | _ => none

/-- The request tracker of a client. -/
def tracker (s : Client) : Tracker where
  native := s.native.forgetDiscovered
  worker := s.worker
  inFlight := s.inFlight
  closing := s.closing
  history := s.history.filterMap Event.request?

/-- The steps of the request tracker in a step of the client. -/
def trackerActions (u : UniqueName) (s : Client) : Action → List XdgPortals.Action
  | .inhibit random flags reason parentWindow =>
    if (s.native.inhibit (some (some u.toString)) random flags reason parentWindow).2.2.2.isSome
    then [.beginRequest random "Inhibit.Inhibit"] else []
  | .openUri random uri ask parentWindow =>
    if (s.native.openUriRequest (some (some u.toString)) random uri ask
      parentWindow).2.2.2.isSome then [.beginRequest random "OpenURI.OpenURI"] else []
  | .closeLookup handle => [.closeLookup handle]
  | .closeConfirmed handle => [.closeConfirmed handle]
  | .closeFailed handle error => [.closeFailed handle error]
  | .callStarted handle path => [.callStarted handle path]
  | .callFailed handle error => [.callFailed handle error]
  | .requestResponse path parameters =>
    match s.shuttingDown, responseParameters parameters with
    | false, some (response, results) => [.requestResponse path response results]
    | _, _ => []
  | .portalAppeared owner => if s.shuttingDown then [] else [.portalAppeared owner]
  | .portalVanished => if s.shuttingDown then [] else [.portalVanished]
  | .resume => [.resume]
  | _ => []

section Tracker

variable (es : List Event) (signals : List Signal) (messages : List Message)

lemma tracker_decide : (s.decide signals).tracker = s.tracker := rfl

lemma tracker_record : (s.record es).tracker =
    { s.tracker with history := (es.filterMap Event.request?).reverse ++ s.tracker.history } := by
  simp [record, tracker, List.filterMap_append, List.filterMap_reverse]

lemma tracker_record_of_none (hnone : ∀ e ∈ es, e.request? = none) :
    (s.record es).tracker = s.tracker := by
  rw [tracker_record, List.filterMap_eq_nil_iff.mpr hnone]
  rfl

@[simp] lemma tracker_emit : (s.emit signals).tracker = s.tracker := by
  rw [emit_eq]
  apply tracker_record_of_none
  intro e he
  split_ifs at he
  · cases he
  · obtain ⟨signal, -, rfl⟩ := List.mem_map.mp he
    rfl

@[simp] lemma tracker_send : (s.send messages).tracker = s.tracker := by
  rw [send_eq]
  apply tracker_record_of_none
  intro e he
  split_ifs at he
  · cases he
  · obtain ⟨message, -, rfl⟩ := List.mem_map.mp he
    rfl

/-- Signals that the tracker decides on. -/
lemma tracker_record_signals (cause : Cause) :
    (s.record (signals.map fun signal => .request (.signal cause signal))).tracker =
      { s.tracker with history := Tracker.signalled cause signals s.tracker.history } := by
  have hevents : (signals.map fun signal => Event.request (.signal cause signal)).filterMap
      Event.request? = signals.map (.signal cause) := by
    rw [List.filterMap_map]
    exact congrFun List.filterMap_eq_map signals
  rw [tracker_record, hevents]
  rfl

lemma tracker_deliver (path : String) (response : UInt32) (results : Dictionary) :
    s.tracker.deliver path response results =
      ((s.deliver path response results).1.tracker, (s.deliver path response results).2) := by
  show ({ s.tracker with
      native := (s.native.forgetDiscovered.deliverResponse path response results).1
      history := Tracker.signalled (.response path response)
        (s.native.forgetDiscovered.deliverResponse path response results).2.2
        s.tracker.history }, (s.native.forgetDiscovered.deliverResponse path response results).2.1)
    = _
  rw [XdgPortalNative.deliverResponse_forgetDiscovered]
  simp only [deliver, tracker_record_signals]
  rfl

lemma tracker_failPending (reason : String) :
    s.tracker.failPending reason = (s.failPending reason).tracker := by
  show { s.tracker with
      native := (s.native.forgetDiscovered.failPendingRequests reason).1
      history := Tracker.signalled .portalLost
        (s.native.forgetDiscovered.failPendingRequests reason).2 s.tracker.history } = _
  rw [XdgPortalNative.failPendingRequests_forgetDiscovered]
  simp only [failPending, tracker_record_signals]
  rfl

lemma tracker_hold (response : UnclaimedResponse) :
    s.tracker.hold response = (s.hold response).tracker := by
  have hnative := XdgPortalNative.holdResponse_forgetDiscovered s.native response
  by_cases hcalls : 0 < s.native.callsInFlight
  · have hcalls' : 0 < s.tracker.native.callsInFlight := hcalls
    rw [hold, tracker_record, Tracker.hold, if_pos hcalls, if_pos hcalls']
    exact congrArg (fun n => { s.tracker with
      native := n, history := .held response.path :: s.tracker.history }) hnative
  · have hcalls' : ¬ 0 < s.tracker.native.callsInFlight := hcalls
    rw [hold, tracker_record, Tracker.hold, if_neg hcalls, if_neg hcalls']
    exact congrArg (fun n => { s.tracker with native := n }) hnative

/-- What a power-saver callback does is nothing to the tracker. -/
lemma tracker_applied (onWorker : Bool) (value : Option Bool) (event : Bool → Discovery.Event)
    {result : XdgPortalNative × List Signal}
    (hresult : result.1.forgetDiscovered = s.native.forgetDiscovered) :
    (s.applied onWorker value event result).tracker = s.tracker := by
  rw [applied, tracker_record_of_none]
  · show { s.tracker with native := result.1.forgetDiscovered } = s.tracker
    rw [hresult]
    rfl
  · intro e he
    rcases List.mem_append.mp he with he | he
    · obtain ⟨v, -, rfl⟩ := Option.mem_map.mp (Option.mem_toList.mp he)
      rfl
    · obtain ⟨signal, -, rfl⟩ := List.mem_map.mp he
      rfl

lemma tracker_callSync (message : Option Message) :
    (s.callSync signals message).tracker = s.tracker := by
  rw [callSync, tracker_emit, tracker_send]

lemma tracker_refreshPowerSaver : s.refreshPowerSaver.tracker = s.tracker := by
  rw [refreshPowerSaver, tracker_send]
  rfl

lemma tracker_runTask (task : Task) : (s.runTask task).tracker = s.tracker := by
  cases task with
  | call handle message =>
    rw [runTask, tracker_send]
    rfl
  | reads reader properties => rw [runTask, tracker_send]
  | refreshPowerSaver => rw [runTask, tracker_refreshPowerSaver]

end Tracker

lemma isIdle_of_isReady (h : s.isReady = true) : s.worker.isIdle = true := by
  simp only [isReady, isFree, Bool.and_eq_true] at h
  exact h.2.1.1.1

lemma isIdle_of_listens (h : s.listens = true) : s.worker.isIdle = true := by
  simp only [listens, isFree, Bool.and_eq_true] at h
  exact h.2.1.1.1

lemma Starts.trackerActions {context : String}
    {result : XdgPortalNative × String × List Signal × Option Message}
    (h : Starts u s.native a context result) :
    s.trackerActions u a =
      if result.2.2.2.isSome then [.beginRequest a.random context] else [] := by
  cases h <;> rfl

/-- A step of the client is a step of the tracker, or none. -/
theorem Rule.tracker (hr : Rule u s a s') (hplaced : ∀ h ∈ s.onBus, h ∈ s.inFlight)
    (hstage : s'.stage ≠ .cleared) :
    (Tracker.machine u).exec s.tracker (s.trackerActions u a) = some s'.tracker := by
  cases hr with
  | clear hjoined => exact absurd rfl hstage
  | seed r hread values definitive hphase =>
    rw [tracker_applied]
    · rfl
    · exact XdgPortalNative.forgetDiscovered_applyPowerSaver? ..
  | announce hannouncing =>
    rw [tracker_emit]
    rfl
  | commitSeed r hread values definitive hphase =>
    show some s.tracker = some { s.tracker with
      native := (s.native.commitVersions r.generation portalInterfaces values.tail
        definitive.tail).forgetDiscovered }
    rw [XdgPortalNative.forgetDiscovered_commitVersions]
    rfl
  | commit call r hread values definitive hphase =>
    show some s.tracker = some { s.tracker with
      native := (s.native.commitVersions r.generation (r.missing.map Prod.fst) values
        definitive).forgetDiscovered }
    rw [XdgPortalNative.forgetDiscovered_commitVersions]
    rfl
  | refused b context message halive hstarts =>
    rw [tracker_emit, hstarts.trackerActions]
    rfl
  | requested b context message halive native token handle hbegin hasks hstarts =>
    rw [hstarts.trackerActions]
    apply Machine.exec_singleton
    show some { s.tracker with
      native := (s.native.forgetDiscovered.beginRequest (some u.toString) a.random context).1
      inFlight := (s.native.forgetDiscovered.beginRequest (some u.toString) a.random context).2.2 ::
        s.inFlight
      history := .begun
        (s.native.forgetDiscovered.beginRequest (some u.toString) a.random context).2.2 context ::
        s.tracker.history } = _
    rw [XdgPortalNative.beginRequest_forgetDiscovered, hbegin]
    rfl
  | closeLookup handle path halive hpath =>
    rw [tracker_send]
    apply Machine.exec_singleton
    have hpath' : s.tracker.native.closeRequestPath handle = some path := hpath
    show Tracker.step u s.tracker (.closeLookup handle) = _
    simp only [Tracker.step, hpath']
    rfl
  | closeConfirmed handle hmem =>
    apply Machine.exec_singleton
    show (if handle ∈ s.closing then _ else _ : Option Tracker) = _
    rw [if_pos hmem]
    show some { s.tracker with
      native := s.native.forgetDiscovered.forgetRequestLocked handle
      closing := s.closing.erase handle
      history := .closed handle :: s.tracker.history } = _
    rw [XdgPortalNative.forget_forgetDiscovered]
    rfl
  | closeFailed handle error hmem =>
    rw [tracker_emit, tracker_record_signals]
    apply Machine.exec_singleton
    show (if handle ∈ s.closing then _ else _ : Option Tracker) = _
    rw [if_pos hmem]
    rfl
  | sync b signals message halive hsync =>
    rw [tracker_callSync]
    cases hsync <;> rfl
  | runTask task tasks hready htasks =>
    rw [tracker_runTask]
    rfl
  | callStarted handle path hready hmem =>
    apply Machine.exec_singleton
    show (if s.worker.isIdle = true ∧ handle ∈ s.inFlight then _ else _ : Option Tracker) = _
    rw [if_pos ⟨isIdle_of_isReady hready, hplaced handle hmem⟩]
    show some { s.tracker with
      native := (s.native.forgetDiscovered.onCallStarted handle path.val).1
      worker := .callStarted (s.native.forgetDiscovered.onCallStarted handle path.val).2
      inFlight := s.inFlight.erase handle
      history := .callStarted handle path.val :: s.tracker.history } = _
    rw [XdgPortalNative.onCallStarted_forgetDiscovered]
    rfl
  | callFailed handle error hready hmem =>
    apply Machine.exec_singleton
    show (if s.worker.isIdle = true ∧ handle ∈ s.inFlight then _ else _ : Option Tracker) = _
    rw [if_pos ⟨isIdle_of_isReady hready, hplaced handle hmem⟩]
    show some { s.tracker with
      native := (s.native.forgetDiscovered.onCallFailed handle error).1
      inFlight := s.inFlight.erase handle
      history := Tracker.signalled .callFailed
        (s.native.forgetDiscovered.onCallFailed handle error).2
        (.callFailed handle error :: s.tracker.history) } = _
    rw [XdgPortalNative.onCallFailed_forgetDiscovered, record_cons, tracker_record_signals]
    rfl
  | answered reader index reply tenure r hready hposted hread houtstanding property hproperty
      hphase => rfl
  | refreshedLate reply hready hpos hdown => rfl
  | powerSaverRead reply hready hpos hdown =>
    rw [tracker_decide, tracker_applied]
    · rfl
    · exact XdgPortalNative.forgetDiscovered_applyPowerSaver? ..
  | propertiesChanged parameters hlistens hdown =>
    rw [tracker_decide, tracker_applied]
    · rfl
    · exact XdgPortalNative.forgetDiscovered_applyPowerSaver? ..
  | ignoredResponse path parameters hlistens hignored =>
    rcases hignored with hdown | hnone
    · simp [trackerActions, hdown]
    · cases hdown : s.shuttingDown <;> simp [trackerActions, hdown, hnone]
  | requestResponse path parameters response results hlistens hdown hparameters =>
    have hactions : s.trackerActions u (.requestResponse path parameters) =
        [.requestResponse path response results] := by
      simp [trackerActions, hdown, hparameters]
    rw [hactions]
    apply Machine.exec_singleton
    show (if s.worker.isIdle = true then _ else _ : Option Tracker) = _
    rw [if_pos (isIdle_of_listens hlistens)]
    show some { (Tracker.deliver (s.record [.request (.received path.val response results)]).tracker
        path.val response results).1 with
      worker := .requestResponse (Tracker.deliver
        (s.record [.request (.received path.val response results)]).tracker path.val response
        results).2 ⟨path.val, response, results⟩ } = _
    rw [tracker_deliver]
    rfl
  | ignoredAppeared owner hlistens hdown => simp [trackerActions, hdown]
  | portalAppeared owner hlistens hdown =>
    have hactions : s.trackerActions u (.portalAppeared owner) = [.portalAppeared owner] := by
      simp [trackerActions, hdown]
    rw [hactions]
    apply Machine.exec_singleton
    show (if s.worker.isIdle = true then _ else _ : Option Tracker) = _
    rw [if_pos (isIdle_of_listens hlistens)]
    show some { s.tracker with
      native := (s.native.forgetDiscovered.onPortalAppeared owner).1
      worker := .portalAppeared (s.native.forgetDiscovered.onPortalAppeared owner).2
      history := .portalAppeared s.native.portalOwner owner
        (s.native.forgetDiscovered.onPortalAppeared owner).2 :: s.tracker.history } = _
    rw [XdgPortalNative.onPortalAppeared_forgetDiscovered]
    rfl
  | ignoredVanished hlistens hdown => simp [trackerActions, hdown]
  | portalVanished hlistens hdown =>
    have hactions : s.trackerActions u .portalVanished = [.portalVanished] := by
      simp [trackerActions, hdown]
    rw [hactions]
    apply Machine.exec_singleton
    show (if s.worker.isIdle = true then _ else _ : Option Tracker) = _
    rw [if_pos (isIdle_of_listens hlistens)]
    rfl
  | resumeSettled hquiet hsettled =>
    apply Machine.exec_singleton
    exact Tracker.step_resume_settled hsettled
  | resumeEarly early hquiet hworker =>
    apply Machine.exec_singleton
    show Tracker.resume s.tracker = _
    have hworker' : s.tracker.worker = .callStarted (some early) := hworker
    simp only [Tracker.resume, hworker', tracker_deliver]
    rfl
  | resumeHold response hquiet hworker =>
    apply Machine.exec_singleton
    show Tracker.resume s.tracker = _
    have hworker' : s.tracker.worker = .requestResponse false response := hworker
    simp only [Tracker.resume, hworker', tracker_hold]
    rfl
  | resumeReplaced hquiet hworker =>
    apply Machine.exec_singleton
    show Tracker.resume s.tracker = _
    have hworker' : s.tracker.worker = .portalAppeared true := hworker
    simp only [Tracker.resume, hworker', tracker_failPending]
    rfl
  | resumeVanished hquiet hworker =>
    apply Machine.exec_singleton
    show Tracker.resume s.tracker = _
    have hworker' : s.tracker.worker = .portalVanished true := hworker
    simp only [Tracker.resume, hworker', tracker_failPending]
    rfl
  | refresh hquiet hdue =>
    rw [tracker_refreshPowerSaver]
    rfl
  | _ => rfl

/-! ### Discovery -/

/-- The discovery of a client. -/
def discovery (s : Client) : Discovery where
  native := s.native.forgetRequests
  reads := s.reads
  constructed := s.constructed
  history := s.history.filterMap Event.discovery?

/-- The steps of discovery in a step of the client. -/
def discoveryActions (s : Client) : Action → List Discovery.Action
  | .construct => [.construct]
  | .take reader => [.take reader]
  | .seed => [.seed]
  | .commitSeed => [.commitSeed]
  | .constructed => [.constructed]
  | .readVersions call interfaces => [.readVersions call interfaces]
  | .commit call => [.commit call]
  | .reply reader index reply tenure => [.reply reader index reply tenure]
  | .powerSaverRead reply => if s.shuttingDown then [] else [.powerSaverRead reply]
  | .propertiesChanged parameters =>
    if s.shuttingDown then [] else [.propertiesChanged parameters]
  | .portalAppeared owner => if s.shuttingDown then [] else [.portalAppeared owner]
  | .portalVanished => if s.shuttingDown then [] else [.portalVanished]
  | _ => []

section Discovery

variable (es : List Event) (signals : List Signal) (messages : List Message)

lemma discovery_decide : (s.decide signals).discovery = s.discovery := rfl

lemma discovery_record : (s.record es).discovery =
    { s.discovery with
      history := (es.filterMap Event.discovery?).reverse ++ s.discovery.history } := by
  simp [record, discovery, List.filterMap_append, List.filterMap_reverse]

lemma discovery_record_of_none (hnone : ∀ e ∈ es, e.discovery? = none) :
    (s.record es).discovery = s.discovery := by
  rw [discovery_record, List.filterMap_eq_nil_iff.mpr hnone]
  rfl

@[simp] lemma discovery_emit : (s.emit signals).discovery = s.discovery := by
  rw [emit_eq]
  apply discovery_record_of_none
  intro e he
  split_ifs at he
  · cases he
  · obtain ⟨signal, -, rfl⟩ := List.mem_map.mp he
    rfl

@[simp] lemma discovery_send : (s.send messages).discovery = s.discovery := by
  rw [send_eq]
  apply discovery_record_of_none
  intro e he
  split_ifs at he
  · cases he
  · obtain ⟨message, -, rfl⟩ := List.mem_map.mp he
    rfl

/-- What the tracker does is nothing to discovery. -/
lemma discovery_of_forgetRequests {native : XdgPortalNative}
    (hnative : native.forgetRequests = s.native.forgetRequests)
    (hnone : ∀ e ∈ es, e.discovery? = none) :
    ({ s with native := native }.record es).discovery = s.discovery := by
  rw [discovery_record_of_none es hnone]
  show { s.discovery with native := native.forgetRequests } = s.discovery
  rw [hnative]
  rfl

lemma discovery?_of_mem_signals {cause : Cause} {e : Event}
    (he : e ∈ signals.map fun signal => Event.request (.signal cause signal)) :
    e.discovery? = none := by
  obtain ⟨signal, -, rfl⟩ := List.mem_map.mp he
  rfl

lemma discovery_deliver (path : String) (response : UInt32) (results : Dictionary) :
    (s.deliver path response results).1.discovery = s.discovery :=
  discovery_of_forgetRequests (s := s.decide _) _
    (XdgPortalNative.forgetRequests_deliverResponse ..)
    (fun _ he => discovery?_of_mem_signals _ he)

lemma discovery_failPending (reason : String) :
    (s.failPending reason).discovery = s.discovery :=
  discovery_of_forgetRequests (s := s.decide _) _
    (XdgPortalNative.forgetRequests_failPendingRequests s.native reason)
    (fun _ he => discovery?_of_mem_signals _ he)

lemma discovery_hold (response : UnclaimedResponse) :
    (s.hold response).discovery = s.discovery := by
  apply discovery_of_forgetRequests
  · exact XdgPortalNative.forgetRequests_holdResponse ..
  · intro e he
    split_ifs at he
    · obtain rfl := List.mem_singleton.mp he
      rfl
    · cases he

lemma discovery_applied (onWorker : Bool) (value : Option Bool) (event : Bool → Discovery.Event)
    {result : XdgPortalNative × List Signal} (hlength : result.2.length ≤ 1) :
    (s.applied onWorker value event result).discovery =
      s.discovery.applied value event (result.1.forgetRequests, result.2) := by
  obtain ⟨native, signals⟩ := result
  rw [applied, discovery_record, List.filterMap_append, List.reverse_append, List.append_assoc]
  have hreverse : signals.reverse = signals := by
    match signals, hlength with
    | [], _ => rfl
    | [signal], _ => rfl
  have hsignals : (signals.map fun signal => Event.discovery onWorker (.signal signal)).filterMap
      Event.discovery? = signals.map .signal := by
    rw [List.filterMap_map]
    exact congrFun List.filterMap_eq_map signals
  rw [hsignals, ← List.map_reverse, hreverse]
  cases value <;> rfl

lemma discovery_callSync (message : Option Message) :
    (s.callSync signals message).discovery = s.discovery := by
  rw [callSync, discovery_emit, discovery_send]

lemma discovery_refreshPowerSaver : s.refreshPowerSaver.discovery = s.discovery := by
  rw [refreshPowerSaver, discovery_send]
  rfl

lemma discovery_runTask (task : Task) : (s.runTask task).discovery = s.discovery := by
  cases task with
  | call handle message =>
    rw [runTask, discovery_send]
    rfl
  | reads reader properties => rw [runTask, discovery_send]
  | refreshPowerSaver => rw [runTask, discovery_refreshPowerSaver]

end Discovery

lemma Starts.discoveryActions {context : String}
    {result : XdgPortalNative × String × List Signal × Option Message}
    (h : Starts u s.native a context result) : s.discoveryActions a = [] := by
  cases h <;> rfl

/-- A step of the client is a step of discovery, or none. -/
theorem Rule.discovery (hr : Rule u s a s') (hstage : s'.stage ≠ .cleared) :
    Discovery.machine.exec s.discovery (s.discoveryActions a) = some s'.discovery := by
  cases hr with
  | clear hjoined => exact absurd rfl hstage
  | construct hnew =>
    apply Machine.exec_singleton
    have hnew' : s.discovery.reads .constructor = none := hnew
    show Discovery.step s.discovery .construct = _
    simp only [Discovery.step, hnew']
    rfl
  | take reader r hread hphase =>
    apply Machine.exec_singleton
    have hread' : s.discovery.reads reader = some r := hread
    show Discovery.step s.discovery (.take reader) = _
    simp only [Discovery.step, hread', hphase, if_true]
    rfl
  | seed r hread values definitive hphase =>
    have hlength : (s.native.seedPowerSaver values).2.length ≤ 1 :=
      XdgPortalNative.length_applyPowerSaver? ..
    have hresult : s.discovery.native.seedPowerSaver values = _ :=
      XdgPortalNative.applyPowerSaver?_forgetRequests s.native _ false
    rw [discovery_applied _ _ _ hlength]
    apply Machine.exec_singleton
    have hread' : s.discovery.reads .constructor = some r := hread
    show Discovery.step s.discovery .seed = _
    simp only [Discovery.step, hread', hphase]
    exact congrArg (fun result => some (Discovery.applied _ _ Discovery.Event.seeded result))
      hresult
  | announce hannouncing =>
    rw [discovery_emit]
    rfl
  | commitSeed r hread values definitive hphase =>
    apply Machine.exec_singleton
    have hread' : s.discovery.reads .constructor = some r := hread
    show Discovery.step s.discovery .commitSeed = _
    have hcommit : s.discovery.native.commitVersions r.generation portalInterfaces values.tail
        definitive.tail = _ := XdgPortalNative.commitVersions_forgetRequests ..
    simp only [Discovery.step, hread', hphase, hcommit]
    rfl
  | constructedKnown r hread hphase hnot hknown =>
    apply Machine.exec_singleton
    have hread' : s.discovery.reads .constructor = some r := hread
    have hnot' : s.discovery.constructed = false := hnot
    show Discovery.step s.discovery .constructed = _
    simp only [Discovery.step, hread', hphase, hnot', Bool.false_eq_true, if_false]
    rfl
  | constructedUnknown r hread hphase hnot hknown =>
    apply Machine.exec_singleton
    have hread' : s.discovery.reads .constructor = some r := hread
    have hnot' : s.discovery.constructed = false := hnot
    show Discovery.step s.discovery .constructed = _
    simp only [Discovery.step, hread', hphase, hnot', Bool.false_eq_true, if_false]
    rfl
  | versionsCached call interfaces halive hnew hmissing =>
    apply Machine.exec_singleton
    have hnew' : s.discovery.reads (.versions call) = none := hnew
    have hmissing' : (s.discovery.native.lookupVersions interfaces).2 = [] := hmissing
    show Discovery.step s.discovery (.readVersions call interfaces) = _
    simp only [Discovery.step, hnew', hmissing', if_true]
    rfl
  | readVersions call interfaces halive hnew hmissing =>
    apply Machine.exec_singleton
    have hnew' : s.discovery.reads (.versions call) = none := hnew
    have hmissing' : (s.discovery.native.lookupVersions interfaces).2 ≠ [] := hmissing
    show Discovery.step s.discovery (.readVersions call interfaces) = _
    simp only [Discovery.step, hnew', hmissing', if_false]
    rfl
  | commit call r hread values definitive hphase =>
    apply Machine.exec_singleton
    have hread' : s.discovery.reads (.versions call) = some r := hread
    show Discovery.step s.discovery (.commit call) = _
    have hcommit : s.discovery.native.commitVersions r.generation (r.missing.map Prod.fst) values
        definitive = _ := XdgPortalNative.commitVersions_forgetRequests ..
    simp only [Discovery.step, hread', hphase, hcommit]
    rfl
  | refused _ context message halive hstarts =>
    rw [discovery_emit, hstarts.discoveryActions]
    rfl
  | requested _ context message halive native token handle hbegin hasks hstarts =>
    rw [hstarts.discoveryActions]
    have hnative := XdgPortalNative.forgetRequests_beginRequest s.native context (some u.toString)
      a.random
    rw [hbegin] at hnative
    exact (congrArg some (discovery_of_forgetRequests (s := { s with inFlight := _, tasks := _ })
      [.request (.begun handle context)] hnative (by simp [Event.discovery?]))).symm
  | closeLookup handle path halive hpath =>
    rw [discovery_send]
    rfl
  | closeConfirmed handle hmem =>
    have hnative := XdgPortalNative.forgetRequests_forget s.native handle
    exact (congrArg some (discovery_of_forgetRequests (s := { s with closing := _ })
      [.request (.closed handle)] hnative (by simp [Event.discovery?]))).symm
  | closeFailed handle error hmem =>
    rw [discovery_emit, discovery_record_of_none _ fun _ he => discovery?_of_mem_signals _ he]
    rfl
  | sync _ signals message halive hsync =>
    rw [discovery_callSync]
    cases hsync <;> rfl
  | runTask task tasks hready htasks =>
    rw [discovery_runTask]
    rfl
  | callStarted handle path hready hmem =>
    have hnative := XdgPortalNative.forgetRequests_onCallStarted s.native handle path.val
    exact (congrArg some (discovery_of_forgetRequests
      (s := { s with worker := _, inFlight := _, onBus := _ })
      [.request (.callStarted handle path.val)] hnative (by simp [Event.discovery?]))).symm
  | callFailed handle error hready hmem =>
    have hnative := XdgPortalNative.forgetRequests_onCallFailed s.native handle error
    refine (congrArg some (discovery_of_forgetRequests
      (s := { s with inFlight := _, onBus := _, outbox := _ }) (_ :: _) hnative ?_)).symm
    intro e he
    rcases List.mem_cons.mp he with rfl | he
    · rfl
    · exact discovery?_of_mem_signals _ he
  | answered reader index reply tenure r hready hposted hread houtstanding property hproperty
      hphase =>
    apply Machine.exec_singleton
    have hread' : s.discovery.reads reader = some r := hread
    show Discovery.step s.discovery (.reply reader index reply tenure) = _
    simp only [Discovery.step, hread', if_pos houtstanding, hproperty, hphase, if_true]
    rfl
  | late reader index reply tenure r hready hposted hread houtstanding property hproperty
      hphase =>
    apply Machine.exec_singleton
    have hread' : s.discovery.reads reader = some r := hread
    show Discovery.step s.discovery (.reply reader index reply tenure) = _
    simp only [Discovery.step, hread', if_pos houtstanding, hproperty, hphase, Bool.false_eq_true,
      if_false]
    rfl
  | refreshedLate reply hready hpos hdown => simp [discoveryActions, hdown]; rfl
  | powerSaverRead reply hready hpos hdown =>
    have hlength : (s.native.onPowerSaverRead reply).2.length ≤ 1 :=
      XdgPortalNative.length_applyPowerSaver? ..
    have hresult : s.discovery.native.onPowerSaverRead reply = _ :=
      XdgPortalNative.applyPowerSaver?_forgetRequests s.native _ false
    have hactions : s.discoveryActions (.powerSaverRead reply) = [.powerSaverRead reply] := by
      simp [discoveryActions, hdown]
    rw [discovery_decide, discovery_applied _ _ _ hlength, hactions]
    apply Machine.exec_singleton
    show some (s.discovery.applied _ _ (s.discovery.native.onPowerSaverRead reply)) = _
    rw [hresult]
    rfl
  | requestResponse path parameters response results hlistens hdown hparameters =>
    exact (congrArg some (discovery_deliver
      (s := s.record [.request (.received path.val response results)]) path.val response
      results)).symm
  | ignoredProperties parameters hlistens hdown => simp [discoveryActions, hdown]
  | propertiesChanged parameters hlistens hdown =>
    have hlength : (s.native.onPropertiesChanged parameters).2.length ≤ 1 :=
      XdgPortalNative.length_applyPowerSaver? ..
    have hresult : s.discovery.native.onPropertiesChanged parameters = _ :=
      XdgPortalNative.applyPowerSaver?_forgetRequests s.native _ true
    have hactions : s.discoveryActions (.propertiesChanged parameters) =
        [.propertiesChanged parameters] := by
      simp [discoveryActions, hdown]
    rw [discovery_decide, discovery_applied _ _ _ hlength, hactions]
    apply Machine.exec_singleton
    show some (s.discovery.applied _ _ (s.discovery.native.onPropertiesChanged parameters)) = _
    rw [hresult]
    rfl
  | ignoredAppeared owner hlistens hdown => simp [discoveryActions, hdown]
  | portalAppeared owner hlistens hdown =>
    have hactions : s.discoveryActions (.portalAppeared owner) = [.portalAppeared owner] := by
      simp [discoveryActions, hdown]
    rw [hactions]
    apply Machine.exec_singleton
    show some { s.discovery with
      native := (s.native.forgetRequests.onPortalAppeared owner).1
      history := .portalAppeared s.native.portalOwner owner
        (s.native.forgetRequests.onPortalAppeared owner).2 :: s.discovery.history } = _
    rw [XdgPortalNative.onPortalAppeared_forgetRequests]
    rfl
  | ignoredVanished hlistens hdown => simp [discoveryActions, hdown]
  | portalVanished hlistens hdown =>
    have hactions : s.discoveryActions .portalVanished = [.portalVanished] := by
      simp [discoveryActions, hdown]
    rw [hactions]
    apply Machine.exec_singleton
    rfl
  | resumeEarly early hquiet hworker =>
    exact (congrArg some (discovery_deliver early.path early.response early.results)).symm
  | resumeHold response hquiet hworker => exact (congrArg some (discovery_hold response)).symm
  | resumeReplaced hquiet hworker =>
    exact (congrArg some (discovery_failPending XdgPortalNative.replacedReason)).symm
  | resumeVanished hquiet hworker =>
    exact (congrArg some (discovery_failPending XdgPortalNative.vanishedReason)).symm
  | refresh hquiet hdue =>
    rw [discovery_refreshPowerSaver]
    rfl
  | _ => rfl

/-! ### The simulations -/

lemma onBus_subset_inFlight (hs : (machine u).Reachable s) (hstage : s.stage ≠ .cleared) :
    ∀ h ∈ s.onBus, h ∈ s.inFlight := by
  intro h hmem
  exact (callsPlaced_of_reachable hs hstage).subset (List.mem_append_right _ hmem)

/-- Nothing happens after the tables have been cleared. -/
lemma stage_ne_cleared (h : Rule u s a s') (hstage : s'.stage ≠ .cleared) :
    s.stage ≠ .cleared := by
  intro hcleared
  rcases h.stage with heq | ⟨hs, -⟩ | ⟨hs, -⟩ | ⟨hs, -⟩ | ⟨hs, -⟩
  · exact hstage (heq.trans hcleared)
  all_goals exact absurd (hs.symm.trans hcleared) (by decide)

/-- The request tracker is there until the tables are cleared. -/
def trackerSimulation (u : UniqueName) : (machine u).Simulation (Tracker.machine u) where
  view s := if s.stage = .cleared then none else some s.tracker
  actions := trackerActions u
  init := rfl
  step := by
    intro s a s' t' hs ha ht'
    split_ifs at ht' with hstage
    cases ht'
    have hrule := Rule.of_step ha
    have hbefore := stage_ne_cleared hrule hstage
    refine ⟨s.tracker, if_neg hbefore, ?_⟩
    exact hrule.tracker (onBus_subset_inFlight hs hbefore) hstage

/-- So is discovery. -/
def discoverySimulation (u : UniqueName) : (machine u).Simulation Discovery.machine where
  view s := if s.stage = .cleared then none else some s.discovery
  actions := discoveryActions
  init := rfl
  step := by
    intro s a s' t' hs ha ht'
    split_ifs at ht' with hstage
    cases ht'
    have hrule := Rule.of_step ha
    exact ⟨s.discovery, if_neg (stage_ne_cleared hrule hstage), hrule.discovery hstage⟩

/-- Until the tables are cleared, a run of the client is seen as a run of the request tracker and
as a run of discovery. -/
theorem run_refines {as : List Action} (hrun : (machine u).exec {} as = some s)
    (hstage : s.stage ≠ .cleared) :
    (Tracker.machine u).exec {} ((trackerSimulation u).seen {} as) = some s.tracker ∧
      Discovery.machine.exec {} ((discoverySimulation u).seen {} as) = some s.discovery :=
  ⟨(trackerSimulation u).exec_init hrun (if_neg hstage),
    (discoverySimulation u).exec_init hrun (if_neg hstage)⟩

/-- The two runs that are seen in one that grants an inhibition. -/
theorem run_refines_granted : ∃ s,
    (machine Tracker.client).exec {} grantedRun = some s ∧ s.stage ≠ .cleared ∧
    (Tracker.machine Tracker.client).exec {}
      ((trackerSimulation Tracker.client).seen {} grantedRun) = some s.tracker ∧
    Discovery.machine.exec {}
      ((discoverySimulation Tracker.client).seen {} grantedRun) = some s.discovery := by
  obtain ⟨s, hrun, hstage⟩ := (machine Tracker.client).exists_exec_of_any {} grantedRun
    (P := fun s => s.stage ≠ .cleared) (by decide +kernel)
  exact ⟨s, hrun, hstage, run_refines hrun hstage⟩

lemma reachable_tracker (hs : (machine u).Reachable s) (hstage : s.stage ≠ .cleared) :
    (Tracker.machine u).Reachable s.tracker :=
  (trackerSimulation u).reachable hs (if_neg hstage)

lemma reachable_discovery (hs : (machine u).Reachable s) (hstage : s.stage ≠ .cleared) :
    Discovery.machine.Reachable s.discovery :=
  (discoverySimulation u).reachable hs (if_neg hstage)

end Client

end XdgPortals
