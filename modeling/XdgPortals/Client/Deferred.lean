import XdgPortals.Client.Completions

/-!
# What Godot gets from both threads

Both threads hand signals to Godot, which emits them later in the order in which they were handed
over. Completions come from the worker alone. After the shutdown one signal can still come, which
had passed its check before.
-/

namespace XdgPortals

namespace Client

variable {u : UniqueName} {s s' s'' : Client} {a : Action}

/-- What a step can record when the client is shutting down or not, and the cancellable is cancelled
or not, unless it begins a request. -/
def Event.Possible (shuttingDown cancelled : Bool) : Event → Prop
  | .request (.begun _ _) => False
  | .handed false emission => shuttingDown = false ∧ emission.completion? = none
  | .sent _ => cancelled = false
  | _ => True

/-- The history grows by such events. -/
def Grows (shuttingDown cancelled : Bool) (s s' : Client) : Prop :=
  ∃ new, s'.history = new ++ s.history ∧ ∀ e ∈ new, e.Possible shuttingDown cancelled

section Grows

variable {down cancelled : Bool}

lemma possible_signals (cause : Cause) (signals : List Signal) :
    ∀ e ∈ signals.map fun signal => Event.request (.signal cause signal),
      e.Possible down cancelled := by
  intro e he
  obtain ⟨signal, -, rfl⟩ := List.mem_map.mp he
  trivial

lemma possible_applied (onWorker : Bool) (value : Option Bool) (event : Bool → Discovery.Event)
    (signals : List Signal) :
    ∀ e ∈ (value.map fun v => Event.discovery onWorker (event v)).toList ++
      signals.map fun signal => Event.discovery onWorker (.signal signal),
      e.Possible down cancelled := by
  intro e he
  rcases List.mem_append.mp he with he | he
  · obtain ⟨v, -, rfl⟩ := Option.mem_map.mp (Option.mem_toList.mp he)
    trivial
  · obtain ⟨signal, -, rfl⟩ := List.mem_map.mp he
    trivial

namespace Grows

lemma of_eq (h : s'.history = s.history) : Grows down cancelled s s' := ⟨[], h, by simp⟩

lemma trans (h : Grows down cancelled s s') (h' : Grows down cancelled s' s'') :
    Grows down cancelled s s'' := by
  obtain ⟨new, heq, hnew⟩ := h
  obtain ⟨new', heq', hnew'⟩ := h'
  refine ⟨new' ++ new, by rw [heq', heq, List.append_assoc], ?_⟩
  rw [List.forall_mem_append]
  exact ⟨hnew', hnew⟩

lemma of_events (events : List Event) (heq : s'.history = events.reverse ++ s.history)
    (h : ∀ e ∈ events, e.Possible down cancelled) : Grows down cancelled s s' :=
  ⟨events.reverse, heq, fun e he => h e (List.mem_reverse.mp he)⟩

lemma record (events : List Event) (h : ∀ e ∈ events, e.Possible down cancelled) :
    Grows down cancelled s (s.record events) :=
  of_events events rfl h

/-- What Godot's thread emits are errors, or announce the power-saver state. -/
lemma emit {signals : List Signal} (hdown : s.shuttingDown = down)
    (h : ∀ signal ∈ signals, (Emission.signal signal).completion? = none) :
    Grows down cancelled s (s.emit signals) := by
  rw [emit_eq]
  apply record
  intro e he
  split_ifs at he with hnot
  · cases he
  · obtain ⟨signal, hmem, rfl⟩ := List.mem_map.mp he
    rw [hdown, Bool.not_eq_true] at hnot
    exact ⟨hnot, h signal hmem⟩

lemma send (messages : List Message) (hcancelled : s.cancelled = cancelled) :
    Grows down cancelled s (s.send messages) := by
  rw [send_eq]
  apply record
  intro e he
  split_ifs at he with hnot
  · cases he
  · obtain ⟨message, -, rfl⟩ := List.mem_map.mp he
    rwa [hcancelled, Bool.not_eq_true] at hnot

lemma refreshPowerSaver (hcancelled : s.cancelled = cancelled) :
    Grows down cancelled s s.refreshPowerSaver := by
  have hasked : Grows down cancelled s
      ({ s with refreshes := s.refreshes + 1 }.record [.refreshing]) :=
    ⟨[_], rfl, by simp [Event.Possible]⟩
  exact hasked.trans (.send _ hcancelled)

lemma runTask (task : Task) (hcancelled : s.cancelled = cancelled) :
    Grows down cancelled s (s.runTask task) := by
  cases task with
  | call handle message =>
    exact send (s := { s with onBus := handle :: s.onBus }) [message] hcancelled
  | reads reader properties => exact send _ hcancelled
  | refreshPowerSaver => exact refreshPowerSaver hcancelled

end Grows

end Grows

/-- The signals of the calls that wait for their reply are errors. -/
lemma completion_callPortalSync {α : Type} (message : Message) (context : String)
    (reply : CallReply α) :
    ∀ signal ∈ (XdgPortalNative.callPortalSync true message context reply).2.1,
      (Emission.signal signal).completion? = none := by
  intro signal hmem
  rcases reply with (_ | error) | value
  · cases hmem
  · obtain rfl := List.mem_singleton.mp hmem
    rfl
  · cases hmem

lemma completion_applyPowerSaver? (n : XdgPortalNative) (value : Option Bool)
    (fromSignal : Bool) : ∀ signal ∈ (n.applyPowerSaver? value fromSignal).2,
      (Emission.signal signal).completion? = none := by
  intro signal hmem
  cases value with
  | none => cases hmem
  | some v =>
    simp only [XdgPortalNative.applyPowerSaver?, XdgPortalNative.applyPowerSaver] at hmem
    split_ifs at hmem
    · obtain rfl := List.mem_singleton.mp hmem
      rfl
    · cases hmem
    · obtain rfl := List.mem_singleton.mp hmem
      rfl
    · cases hmem

lemma Sync.silent {signals : List Signal} {message : Option Message}
    (h : Sync u a signals message) :
    ∀ signal ∈ signals, (Emission.signal signal).completion? = none := by
  cases h with
  | gameModeQueryStatus | gameModeRegister | gameModeUnregister =>
    exact fun _ => completion_callPortalSync _ _ _ _
  | schemeSupported version reply scheme =>
    have hsilent := completion_callPortalSync (schemeSupportedMessage scheme)
      "OpenURI.SchemeSupported" reply
    simp only [XdgPortalNative.schemeSupportedCall, Option.isSome_some]
    split_ifs
    · simp
    · simp
    · simp
    · split <;> exact hsilent
  | addNotification id title body priority reply =>
    have hsilent := completion_callPortalSync (addNotificationMessage id title body priority)
      "Notification.AddNotification" reply
    simp only [XdgPortalNative.addNotification]
    split_ifs
    · simp
    · exact hsilent
  | removeNotification id reply =>
    have hsilent := completion_callPortalSync (removeNotificationMessage id)
      "Notification.RemoveNotification" reply
    simp only [XdgPortalNative.removeNotification]
    split_ifs
    · simp
    · exact hsilent

@[simp] lemma shuttingDown_emit (s : Client) (signals : List Signal) :
    (s.emit signals).shuttingDown = s.shuttingDown := by
  rw [emit_eq]
  rfl

@[simp] lemma shuttingDown_send (s : Client) (messages : List Message) :
    (s.send messages).shuttingDown = s.shuttingDown := by
  rw [send_eq]
  rfl

@[simp] lemma shuttingDown_refreshPowerSaver (s : Client) :
    s.refreshPowerSaver.shuttingDown = s.shuttingDown :=
  shuttingDown_send ..

@[simp] lemma shuttingDown_runTask (s : Client) (task : Task) :
    (s.runTask task).shuttingDown = s.shuttingDown := by
  cases task <;> simp [runTask]

/-- The constructor alone has something to emit later. -/
lemma Rule.announcing (h : Rule u s a s') :
    s'.announcing = s.announcing ∨ s'.announcing = [] ∨
      ∃ values, s'.announcing = (s.native.seedPowerSaver values).2 := by
  cases h with
  | seed r hread values definitive hphase => exact .inr (.inr ⟨values, rfl⟩)
  | announce hannouncing => exact .inr (.inl (by rw [emit_eq]; rfl))
  | refused | closeFailed => exact .inl (by rw [emit_eq]; rfl)
  | closeLookup => exact .inl (by rw [send_eq]; rfl)
  | sync => exact .inl (by rw [callSync, emit_eq, send_eq]; rfl)
  | runTask task tasks hready htasks =>
    obtain ⟨new, onBus, refreshes, -, -, heq⟩ := exists_runTask { s with tasks := tasks } task
    exact .inl (by rw [heq]; rfl)
  | refresh hquiet hdue => exact .inl (by rw [refreshPowerSaver, send_eq]; rfl)
  | _ => exact .inl rfl

/-- What the constructor has still to emit announces the power-saver state. -/
lemma completion_announcing (hs : (machine u).Reachable s) :
    ∀ signal ∈ s.announcing, (Emission.signal signal).completion? = none := by
  induction hs with
  | init => simp [machine]
  | step hr ha ih =>
    rcases (Rule.of_step ha).announcing with heq | heq | ⟨values, heq⟩
    · rwa [heq]
    · simp [heq]
    · rw [heq]
      exact completion_applyPowerSaver? _ _ _

/-- Every step adds such events, or begins a request. -/
theorem Rule.grows (h : Rule u s a s')
    (hsilent : ∀ signal ∈ s.announcing, (Emission.signal signal).completion? = none) :
    Grows s.shuttingDown s.cancelled s s' ∨ ∃ context result, Starts u s.native a context result ∧
      s.isAlive = true ∧ s'.history = .request (.begun result.2.1 context) :: s.history := by
  cases h with
  | requested _ context message halive native token handle hbegin hasks hstarts =>
    exact .inr ⟨context, _, hstarts, halive, rfl⟩
  | seed r hread values definitive hphase =>
    exact .inl (.of_events _ rfl (possible_applied false _ .seeded _))
  | announce hannouncing => exact .inl (.emit (s := { s with announcing := [] }) rfl hsilent)
  | refused _ context message halive hstarts =>
    left
    apply Grows.emit rfl
    simp [Emission.completion?]
  | closeLookup handle path halive hpath =>
    left
    exact (Grows.record [.request (.closeSent handle path)] (by simp [Event.Possible])).trans
      (.send _ rfl)
  | closeFailed handle error hmem =>
    left
    have hsilent : ∀ signal ∈ Tracker.closeErrors error,
        (Emission.signal signal).completion? = none := by
      cases error <;> simp [Tracker.closeErrors, Emission.completion?]
    have hclosed : Grows s.shuttingDown s.cancelled s
        ({ s with closing := s.closing.erase handle }.record
          ((Tracker.closeErrors error).map fun signal => .request (.signal .closeFailed signal))) :=
      .of_events _ rfl (possible_signals .closeFailed _)
    exact hclosed.trans (.emit rfl hsilent)
  | sync _ signals message halive hsync =>
    exact .inl ((Grows.send _ rfl).trans (.emit (shuttingDown_send ..) hsync.silent))
  | runTask task tasks hready htasks =>
    exact .inl (.runTask (s := { s with tasks := tasks }) task rfl)
  | callFailed handle error hready hmem =>
    left
    exact .of_events (_ :: _) rfl
      (List.forall_mem_cons.mpr ⟨trivial, possible_signals .callFailed _⟩)
  | powerSaverRead reply hready hpos hdown =>
    left
    exact (Grows.record [.refreshed (powerSaverOf (replyValue reply))]
      (by simp [Event.Possible])).trans (.of_events _ rfl (possible_applied true _ .reported _))
  | requestResponse path parameters response results hlistens hdown hparameters =>
    left
    exact (Grows.record [.request (.received path.val response results)]
      (by simp [Event.Possible])).trans (.of_events _ rfl (possible_signals _ _))
  | propertiesChanged parameters hlistens hdown =>
    exact .inl (.of_events _ rfl (possible_applied true _ .reported _))
  | resumeEarly early hquiet hworker => exact .inl (.of_events _ rfl (possible_signals _ _))
  | resumeHold response hquiet hworker =>
    left
    refine .record (s := { s with native := s.native.holdResponse response })
      (if 0 < s.native.callsInFlight then [.request (.held response.path)] else []) ?_
    split_ifs <;> simp [Event.Possible]
  | resumeReplaced hquiet hworker =>
    exact .inl (.of_events _ rfl (possible_signals .portalLost _))
  | resumeVanished hquiet hworker =>
    exact .inl (.of_events _ rfl (possible_signals .portalLost _))
  | refresh hquiet hdue => exact .inl (.refreshPowerSaver (s := { s with refreshDue := false }) rfl)
  | closeConfirmed | shutDown | versionsCached | commit | callStarted | answered | refreshedLate
      | actionInvoked | portalAppeared | portalVanished | post =>
    exact .inl ⟨[_], rfl, by simp [Event.Possible]⟩
  | _ => exact .inl (.of_eq rfl)

/-! ### What has been begun and deferred -/

/-- The handles that calls have returned, the latest first. -/
def begunHandles (s : Client) : List String := begun s.tracker.history

lemma Grows.begunHandles {down cancelled : Bool} (h : Grows down cancelled s s') :
    s'.begunHandles = s.begunHandles := by
  obtain ⟨new, heq, hnew⟩ := h
  have hnone : begun (new.filterMap Event.request?) = [] := by
    apply List.filterMap_eq_nil_iff.mpr
    intro event hevent
    obtain ⟨e, he, hrequest⟩ := List.mem_filterMap.mp hevent
    have hpossible := hnew e he
    cases e with
    | request event =>
      cases hrequest
      cases event with
      | begun => exact hpossible.elim
      | _ => rfl
    | portalAppeared | portalVanished =>
      cases hrequest
      rfl
    | _ => cases hrequest
  show begun (s'.history.filterMap Event.request?) = begun (s.history.filterMap Event.request?)
  rw [heq, List.filterMap_append, begun_append, hnone, List.nil_append]

/-- A call that starts a request returns its handle, or it is refused. -/
lemma begunHandles_begin {context : String}
    {result : XdgPortalNative × String × List Signal × Option Message}
    (h : Starts u s.native a context result) : (s.begin context result).begunHandles =
      if result.2.1 = "" then s.begunHandles else result.2.1 :: s.begunHandles := by
  rcases h.cases with ⟨message, rfl⟩ | ⟨message, -, rfl⟩
  · have hgrows : Grows s.shuttingDown s.cancelled s (s.emit [.portalError context message]) :=
      .emit rfl (by simp [Emission.completion?])
    exact hgrows.begunHandles
  · rw [if_neg (XdgPortalNative.handle_ne_empty u)]
    rfl

/-- Only the destructor shuts the client down. -/
lemma Rule.shuttingDown (h : Rule u s a s') (ha : a ≠ .shutDown) :
    s'.shuttingDown = s.shuttingDown := by
  cases h with
  | shutDown => exact absurd rfl ha
  | announce => exact shuttingDown_emit ..
  | refused => exact shuttingDown_emit ..
  | closeLookup => exact shuttingDown_send ..
  | closeFailed => exact shuttingDown_emit ..
  | sync => exact (shuttingDown_emit ..).trans (shuttingDown_send ..)
  | runTask => exact shuttingDown_runTask ..
  | refresh => exact shuttingDown_refreshPowerSaver _
  | _ => rfl

/-- What is handed to Godot stays in its order. -/
lemma deferred_suffix (h : Rule u s a s') : deferred s.history <:+ deferred s'.history := by
  obtain ⟨es, heq⟩ := h.delivery.history
  rw [heq]
  exact (List.suffix_append es s.history).filterMap _

/-- Godot's thread hands over no completion. -/
lemma not_completed_by_caller (hs : (machine u).Reachable s) :
    ∀ e ∈ s.history, ∀ handle response results,
      e ≠ .handed false (.signal (.requestCompleted handle response results)) := by
  induction hs with
  | init => simp [machine]
  | step hr ha ih =>
    rcases (Rule.of_step ha).grows (completion_announcing hr) with ⟨new, heq, hnew⟩ |
      ⟨context, result, -, -, heq⟩
    · rw [heq, List.forall_mem_append]
      refine ⟨?_, ih⟩
      rintro e he handle response results rfl
      cases (hnew _ he).2
    · rw [heq, List.forall_mem_cons]
      exact ⟨by simp, ih⟩

/-- The worker completes the requests. -/
lemma completions_deferred (hs : (machine u).Reachable s) :
    (deferred s.history).filterMap Emission.completion? = told s := by
  rw [told, deferred, handed, List.filterMap_filterMap, List.filterMap_filterMap]
  apply List.filterMap_congr
  intro e he
  cases e with
  | handed fromWorker emission =>
    cases fromWorker with
    | true => rfl
    | false =>
      cases emission with
      | signal signal =>
        cases signal with
        | requestCompleted handle response results =>
          exact absurd rfl (not_completed_by_caller hs _ he handle response results)
        | _ => rfl
      | _ => rfl
  | _ => rfl

/-- Every completion Godot gets is the Response of the portal, received before on a path of the
request and with its code and results, or a failure for a call that has failed or a portal that was
lost, right after the error in the context in which the request was begun. -/
theorem told_explained (hs : (machine u).Reachable s) (later : List Event) (fromWorker : Bool)
    (handle : String) (response : Int32) (results : Dictionary) (earlier : List Event)
    (htold : s.history =
      later ++ .handed fromWorker (.signal (.requestCompleted handle response results)) ::
        earlier) :
    (∃ path code, OwnPath (earlier.filterMap Event.request?) handle path ∧
      .request (.received path code results) ∈ earlier ∧ response = code.toInt32) ∨
    (response = responseOther.toInt32 ∧ results = [] ∧ Failed earlier handle ∧
      ∃ context message, (handed earlier).head? = some (.signal (.portalError context message)) ∧
        .request (.begun handle context) ∈ earlier) := by
  cases fromWorker with
  | false =>
    have hmem : Event.handed false (.signal (.requestCompleted handle response results)) ∈
        s.history := by
      rw [htold]
      simp
    exact absurd rfl (not_completed_by_caller hs _ hmem handle response results)
  | true =>
    have hj := (Justified.iff_forall _).mp (accounted_of_reachable hs) later _ earlier htold
    exact hj _ rfl handle response results rfl

/-- The completion of an inhibition that is granted. -/
theorem told_explained_granted : ∃ s later results earlier,
    (machine Tracker.client).exec {} grantedRun = some s ∧
    s.history = later ++
      .handed true (.signal (.requestCompleted Tracker.firstHandle.val 0 results)) :: earlier ∧
    ((∃ path code, OwnPath (earlier.filterMap Event.request?) Tracker.firstHandle.val path ∧
        .request (.received path code results) ∈ earlier ∧ (0 : Int32) = code.toInt32) ∨
      ((0 : Int32) = responseOther.toInt32 ∧ results = [] ∧
        Failed earlier Tracker.firstHandle.val ∧
        ∃ context message, (handed earlier).head? = some (.signal (.portalError context message)) ∧
          .request (.begun Tracker.firstHandle.val context) ∈ earlier)) := by
  obtain ⟨s, hrun, htold⟩ := (machine Tracker.client).exists_exec_of_any {} grantedRun
    (P := fun s => (Tracker.firstHandle.val, (0 : Int32)) ∈
      (told s).map fun completion => (completion.1, completion.2.1)) (by decide +kernel)
  obtain ⟨⟨handle, response, results⟩, hmem, hcompletion⟩ := List.mem_map.mp htold
  cases hcompletion
  obtain ⟨emission, hhanded, hemission⟩ := List.mem_filterMap.mp hmem
  obtain ⟨e, he, hevent⟩ := List.mem_filterMap.mp hhanded
  obtain rfl : emission = .signal (.requestCompleted Tracker.firstHandle.val 0 results) := by
    unfold Emission.completion? at hemission
    split at hemission
    · cases hemission
      rfl
    · cases hemission
  obtain rfl : e = .handed true
      (.signal (.requestCompleted Tracker.firstHandle.val 0 results)) := by
    unfold Event.handed? at hevent
    split at hevent
    · cases hevent
      rfl
    · cases hevent
  obtain ⟨later, earlier, heq⟩ := List.append_of_mem he
  exact ⟨s, later, results, earlier, hrun, heq,
    told_explained (Machine.reachable_of_exec hrun) later true _ _ results earlier heq⟩

/-! ### After the shutdown -/

lemma Event.Possible.mono {down cancelled cancelled' : Bool} {e : Event}
    (h : e.Possible down cancelled') (hkept : cancelled = true → cancelled' = true) :
    e.Possible down cancelled := by
  cases e with
  | sent message =>
    cases cancelled with
    | false => rfl
    | true => cases (hkept rfl).symm.trans h
  | request event => cases event <;> exact h
  | handed fromWorker emission => cases fromWorker <;> exact h
  | _ => exact h

/-- The cancellable stays cancelled. -/
lemma Rule.cancelled (h : Rule u s a s') (hcancelled : s.cancelled = true) :
    s'.cancelled = true := by
  cases h with
  | cancel => rfl
  | announce => exact (cancelled_emit ..).trans hcancelled
  | refused => exact (cancelled_emit ..).trans hcancelled
  | closeLookup => exact (cancelled_send ..).trans hcancelled
  | closeFailed => exact (cancelled_emit ..).trans hcancelled
  | sync => exact ((cancelled_emit ..).trans (cancelled_send ..)).trans hcancelled
  | runTask => exact (cancelled_runTask ..).trans hcancelled
  | refresh => exact (cancelled_refreshPowerSaver _).trans hcancelled
  | _ => exact hcancelled

/-- After the shutdown either thread hands over what has passed the check already, and nothing
else. -/
lemma Rule.silenced (hs : (machine u).Reachable s) (h : Rule u s a s')
    (hdown : s.shuttingDown = true) :
    ∃ es, s'.history = es ++ s.history ∧ s'.posting.toList ++ deferred es = s.posting.toList ∧
      ∀ e ∈ es, e.Possible true s.cancelled := by
  obtain ⟨es, heq, hhanded⟩ := h.delivery.silenced hdown
  rcases h.grows (completion_announcing hs) with ⟨new, heq', hnew⟩ | ⟨_, _, -, halive, -⟩
  · obtain rfl := List.append_cancel_right (heq.symm.trans heq')
    rw [hdown] at hnew
    refine ⟨es, heq, ?_, hnew⟩
    have hworker : deferred es = handed es := by
      apply List.filterMap_congr
      intro e he
      cases e with
      | handed fromWorker emission =>
        cases fromWorker with
        | true => rfl
        | false => cases (hnew _ he).1
      | _ => rfl
    rw [hworker, hhanded]
  · simp [isAlive, hdown] at halive

/-- Once the client is shutting down, whatever the threads do, Godot is handed at most the signal
that has passed its check before; no request is begun, and once the cancellable is cancelled no
call is sent. -/
theorem shutdown_silences {as : List Action} (hs : (machine u).Reachable s)
    (hdown : s.shuttingDown = true) (hrun : (machine u).exec s as = some s') :
    ∃ es, s'.history = es ++ s.history ∧ s'.posting.toList ++ deferred es = s.posting.toList ∧
      (s.cancelled = true → ∀ message, .sent message ∉ es) ∧
      ∀ handle context, .request (.begun handle context) ∉ es := by
  suffices h : ((machine u).Reachable s' ∧ s'.shuttingDown = true ∧
      (s.cancelled = true → s'.cancelled = true)) ∧ ∃ es, s'.history = es ++ s.history ∧
        s'.posting.toList ++ deferred es = s.posting.toList ∧
        ∀ e ∈ es, e.Possible true s.cancelled by
    obtain ⟨-, es, heq, hhanded, hes⟩ := h
    refine ⟨es, heq, hhanded, fun hcancelled message hmem => ?_, fun handle context => hes _⟩
    cases hcancelled.symm.trans (hes _ hmem)
  refine Machine.exec_preserves (P := fun t => ((machine u).Reachable t ∧ t.shuttingDown = true ∧
      (s.cancelled = true → t.cancelled = true)) ∧ ∃ es, t.history = es ++ s.history ∧
        t.posting.toList ++ deferred es = s.posting.toList ∧
        ∀ e ∈ es, e.Possible true s.cancelled)
    ?_ ⟨⟨hs, hdown, id⟩, [], rfl, by simp [deferred], by simp⟩ hrun
  rintro t b t' ⟨⟨ht, hdown', hkept⟩, es, heq, hhanded, hes⟩ hb
  have hrule := Rule.of_step hb
  obtain ⟨new, heq', hhanded', hnew⟩ := hrule.silenced ht hdown'
  refine ⟨⟨ht.step hb, hrule.delivery.shuttingDown hdown', fun hc => hrule.cancelled (hkept hc)⟩,
    new ++ es, by rw [heq', heq, List.append_assoc], ?_, ?_⟩
  · rw [deferred, List.filterMap_append, ← List.append_assoc]
    exact (congrArg (· ++ deferred es) hhanded').trans hhanded
  · rw [List.forall_mem_append]
    exact ⟨fun e he => (hnew e he).mono hkept, hes⟩

/-- A client that is destroyed when the completion of an inhibition has passed its check. -/
def interruptedRun : List Action :=
  [.construct, .take .constructor, .seed, .commitSeed, .constructed,
    .inhibit 7 8 "A reason" "", .subscribe, .runTask, .runTask, .runTask,
    .requestResponse Tracker.firstHandle granted, .check, .shutDown, .cancel]

/-- The completion is the last that is handed over. -/
theorem shutdown_silences_interrupted : ∃ s s',
    (machine Tracker.client).exec {} interruptedRun = some s ∧ s.posting.isSome = true ∧
    (machine Tracker.client).exec s [.post, .resume, .stop, .exit, .clear] = some s' ∧
    ∃ es, s'.history = es ++ s.history ∧ s'.posting.toList ++ deferred es = s.posting.toList ∧
      (∀ message, .sent message ∉ es) ∧
      ∀ handle context, .request (.begun handle context) ∉ es := by
  obtain ⟨s, hrun, hposting, hdown, hcancelled, hafter⟩ :=
    (machine Tracker.client).exists_exec_of_any {} interruptedRun
      (P := fun s => s.posting.isSome = true ∧ s.shuttingDown = true ∧ s.cancelled = true ∧
        ((machine Tracker.client).exec s [.post, .resume, .stop, .exit, .clear]).isSome = true)
      (by decide +kernel)
  obtain ⟨s', hrun'⟩ := Option.isSome_iff_exists.mp hafter
  obtain ⟨es, heq, hhanded, hsent, hbegun⟩ :=
    shutdown_silences (Machine.reachable_of_exec hrun) hdown hrun'
  exact ⟨s, s', hrun, hposting, hrun', es, heq, hhanded, hsent hcancelled, hbegun⟩

end Client

end XdgPortals
