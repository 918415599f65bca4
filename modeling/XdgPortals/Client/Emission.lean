import XdgPortals.Client.Rules
import XdgPortals.Library.Simulation

/-!
# What Godot gets from the worker

A callback of the worker decides on signals and then hands them over one by one, each after a check
that the client is not shutting down. Godot gets them in the order in which they were decided, and
all of them until the shutdown. The check and the call that follows it are two steps: one signal
that has passed the check can still be handed over after the shutdown has begun, and no other one.
-/

namespace XdgPortals

namespace Client

/-- What a callback of the worker decides to hand over. -/
def Event.decided? : Event → Option Emission
  | .request (.signal .closeFailed _) => none
  | .request (.signal _ signal) => some (.signal signal)
  | .discovery true (.signal signal) => some (.signal signal)
  | .actionInvoked id action parameters => some (.notificationActionInvoked id action parameters)
  | _ => none

/-- What the worker hands over. -/
def Event.handed? : Event → Option Emission
  | .handed true emission => some emission
  | _ => none

/-- What the worker hands over, and the shutdown. -/
def Event.mark? : Event → Option (Option Emission)
  | .handed true emission => some (some emission)
  | .shutDown => some none
  | _ => none

/-- What the worker has decided to hand over, the latest first. -/
def decided (history : List Event) : List Emission := history.filterMap Event.decided?

/-- What the worker has handed over, the latest first. -/
def handed (history : List Event) : List Emission := history.filterMap Event.handed?

/-- The same, with the shutdown at its place. -/
def marks (history : List Event) : List (Option Emission) := history.filterMap Event.mark?

section Lists

variable {es es' : List Event} {signals : List Signal}

@[simp] lemma decided_append : decided (es ++ es') = decided es ++ decided es' :=
  List.filterMap_append

lemma handed_append : handed (es ++ es') = handed es ++ handed es' := List.filterMap_append

@[simp] lemma marks_append : marks (es ++ es') = marks es ++ marks es' :=
  List.filterMap_append

@[simp] lemma decided_reverse : decided es.reverse = (decided es).reverse :=
  List.filterMap_reverse

@[simp] lemma marks_reverse : marks es.reverse = (marks es).reverse :=
  List.filterMap_reverse

lemma decided_of_forall (h : ∀ e ∈ es, e.decided? = none) : decided es = [] :=
  List.filterMap_eq_nil_iff.mpr h

lemma marks_of_forall (h : ∀ e ∈ es, e.mark? = none) : marks es = [] :=
  List.filterMap_eq_nil_iff.mpr h

/-- Events that each decide on a signal. -/
lemma decided_map {f : Signal → Event} (h : ∀ signal, (f signal).decided? = some (.signal signal)) :
    decided (signals.map f) = signals.map .signal := by
  induction signals with
  | nil => rfl
  | cons signal signals ih =>
    rw [List.map_cons, decided, List.filterMap_cons, h, ← decided, ih]
    rfl

lemma marks_map {f : Signal → Event} (h : ∀ signal, (f signal).mark? = none) :
    marks (signals.map f) = [] := by
  apply marks_of_forall
  intro e he
  obtain ⟨signal, -, rfl⟩ := List.mem_map.mp he
  exact h signal

lemma decided_map_of_none {f : Signal → Event} (h : ∀ signal, (f signal).decided? = none) :
    decided (signals.map f) = [] := by
  apply decided_of_forall
  intro e he
  obtain ⟨signal, -, rfl⟩ := List.mem_map.mp he
  exact h signal

lemma handed_eq_marks (history : List Event) : handed history = (marks history).filterMap id := by
  rw [marks, List.filterMap_filterMap]
  apply List.filterMap_congr
  intro e he
  cases e with
  | handed fromWorker emission => cases fromWorker <;> rfl
  | _ => rfl

lemma length_handed_le (history : List Event) :
    (handed history).length ≤ (marks history).length := by
  rw [handed_eq_marks]
  exact List.length_filterMap_le _ _

end Lists

variable {u : UniqueName} {s s' : Client} {a : Action}

/-- The signals that one callback decides on, given the history with that callback. -/
inductive Says (s : Client) (history : List Event) : List Signal → Prop where
  | silent (signals : List Signal)
      (hsilent : ∀ handle response results, .requestCompleted handle response results ∉ signals) :
      Says s history signals
  | answer (handle path : String) (response : UInt32) (results : Dictionary)
      (hreceived : .request (.received path response results) ∈ history ∨
        s.worker = .callStarted (some ⟨path, response, results⟩))
      (hroute : s.native.route path = some handle) :
      Says s history [.requestCompleted handle response.toInt32 results]
  | failures (requests : List (String × Request)) (message : String)
      (hrequests : ∀ r ∈ requests, s.native.requests[r.1]? = some r.2)
      (hcause : ∀ r ∈ requests, (∃ error, .request (.callFailed r.1 error) ∈ history) ∨
        s.worker.isLosing = true) :
      Says s history (requests.flatMap fun r =>
        [.portalError r.2.context message, .requestCompleted r.1 responseOther.toInt32 []])

/-- The effects of a step on what is handed over. -/
inductive Delivery (s s' : Client) : Prop where
  | decide (es : List Event) (signals : List Signal) (hhistory : s'.history = es ++ s.history)
      (hdecided : decided es = (signals.map .signal).reverse) (hmarks : marks es = [])
      (houtbox : s'.outbox = s.outbox ++ signals.map .signal) (hposting : s'.posting = s.posting)
      (hdown : s'.shuttingDown = s.shuttingDown) (hclaim : Says s s'.history signals)
  | act (e : Event) (emission : Emission) (hhistory : s'.history = e :: s.history)
      (hdecided : e.decided? = some emission) (hmarks : e.mark? = none)
      (hlistens : s.listens = true) (houtbox : s'.outbox = s.outbox)
      (hposting : s'.posting = some emission) (hbefore : s.shuttingDown = false)
      (hdown : s'.shuttingDown = false) (haction : ∀ signal, emission ≠ .signal signal)
  | pass (emission : Emission) (houtbox : s.outbox = emission :: s'.outbox)
      (hnone : s.posting = none) (hposting : s'.posting = some emission)
      (hhistory : s'.history = s.history) (hbefore : s.shuttingDown = false)
      (hdown : s'.shuttingDown = false)
  | drop (emission : Emission) (houtbox : s.outbox = emission :: s'.outbox)
      (hnone : s.posting = none) (hposting : s'.posting = none)
      (hhistory : s'.history = s.history) (hbefore : s.shuttingDown = true)
      (hdown : s'.shuttingDown = true)
  | post (emission : Emission) (houtbox : s'.outbox = s.outbox)
      (hbefore : s.posting = some emission) (hposting : s'.posting = none)
      (hhistory : s'.history = .handed true emission :: s.history)
      (hdown : s'.shuttingDown = s.shuttingDown)
  | shutDown (houtbox : s'.outbox = s.outbox) (hposting : s'.posting = s.posting)
      (hhistory : s'.history = .shutDown :: s.history) (hbefore : s.shuttingDown = false)
      (hdown : s'.shuttingDown = true)

namespace Delivery

/-- Nothing is decided or handed over. -/
lemma quiet (es : List Event) (hhistory : s'.history = es ++ s.history)
    (hdecided : decided es = []) (hmarks : marks es = []) (houtbox : s'.outbox = s.outbox)
    (hposting : s'.posting = s.posting) (hdown : s'.shuttingDown = s.shuttingDown) :
    Delivery s s' :=
  .decide es [] hhistory hdecided hmarks (by simp [houtbox]) hposting hdown (.silent [] (by simp))

end Delivery

/-- What Godot's thread emits is not the worker's. -/
lemma exists_emit (s : Client) (signals : List Signal) :
    ∃ new, decided new = [] ∧ marks new = [] ∧ s.emit signals = s.record new := by
  refine ⟨_, ?_, ?_, emit_eq s signals⟩
  · split_ifs
    · rfl
    · exact decided_map_of_none fun _ => rfl
  · split_ifs
    · rfl
    · exact marks_map fun _ => rfl

lemma exists_send (s : Client) (messages : List Message) :
    ∃ new, decided new = [] ∧ marks new = [] ∧ s.send messages = s.record new := by
  have hmem : ∀ e ∈ messages.map Event.sent, e.decided? = none ∧ e.mark? = none := by
    intro e he
    obtain ⟨message, -, rfl⟩ := List.mem_map.mp he
    exact ⟨rfl, rfl⟩
  refine ⟨_, ?_, ?_, send_eq s messages⟩
  · split_ifs
    · rfl
    · exact decided_of_forall fun e he => (hmem e he).1
  · split_ifs
    · rfl
    · exact marks_of_forall fun e he => (hmem e he).2

lemma exists_refreshPowerSaver (s : Client) :
    ∃ new, decided new = [] ∧ marks new = [] ∧
      s.refreshPowerSaver = { s with refreshes := s.refreshes + 1 }.record new := by
  obtain ⟨new, hdecided, hmarks, heq⟩ :=
    exists_send ({ s with refreshes := s.refreshes + 1 }.record [.refreshing])
      [propertyMessage (ifacePowerProfileMonitor, propPowerSaverEnabled)]
  refine ⟨.refreshing :: new, hdecided, hmarks, ?_⟩
  rw [record_cons]
  exact heq

lemma exists_runTask (s : Client) (task : Task) :
    ∃ new onBus refreshes, decided new = [] ∧ marks new = [] ∧
      s.runTask task = { s with onBus := onBus, refreshes := refreshes }.record new := by
  cases task with
  | call handle message =>
    obtain ⟨new, hdecided, hmarks, heq⟩ :=
      exists_send { s with onBus := handle :: s.onBus } [message]
    exact ⟨new, _, _, hdecided, hmarks, heq⟩
  | reads reader properties =>
    obtain ⟨new, hdecided, hmarks, heq⟩ := exists_send s (properties.map propertyMessage)
    exact ⟨new, _, _, hdecided, hmarks, heq⟩
  | refreshPowerSaver =>
    obtain ⟨new, hdecided, hmarks, heq⟩ := exists_refreshPowerSaver s
    exact ⟨new, _, _, hdecided, hmarks, heq⟩

/-- A power-saver callback of the worker decides on its signals. -/
lemma decided_applied (onWorker : Bool) (value : Option Bool) {event : Bool → Discovery.Event}
    (hevent : ∀ v, (Event.discovery onWorker (event v)).decided? = none) (signals : List Signal) :
    decided ((value.map fun v => Event.discovery onWorker (event v)).toList ++
        signals.map fun signal => Event.discovery onWorker (.signal signal)) =
      if onWorker then signals.map .signal else [] := by
  have hvalue : decided (value.map fun v => Event.discovery onWorker (event v)).toList = [] := by
    apply decided_of_forall
    intro e he
    obtain ⟨v, -, rfl⟩ := Option.mem_map.mp (Option.mem_toList.mp he)
    exact hevent v
  rw [decided_append, hvalue, List.nil_append]
  cases onWorker with
  | false => exact decided_map_of_none fun _ => rfl
  | true => exact decided_map fun _ => rfl

lemma marks_applied (onWorker : Bool) (value : Option Bool) (event : Bool → Discovery.Event)
    (signals : List Signal) :
    marks ((value.map fun v => Event.discovery onWorker (event v)).toList ++
      signals.map fun signal => Event.discovery onWorker (.signal signal)) = [] := by
  apply marks_of_forall
  intro e he
  rcases List.mem_append.mp he with he | he
  · obtain ⟨v, -, rfl⟩ := Option.mem_map.mp (Option.mem_toList.mp he)
    rfl
  · obtain ⟨signal, -, rfl⟩ := List.mem_map.mp he
    rfl

/-- A power-saver value is announced. -/
lemma says_applyPowerSaver? {s : Client} {history : List Event} (n : XdgPortalNative)
    (value : Option Bool) (fromSignal : Bool) :
    Says s history (n.applyPowerSaver? value fromSignal).2 := by
  apply Says.silent
  intro handle response results hmem
  cases value with
  | none => cases hmem
  | some v =>
    simp only [XdgPortalNative.applyPowerSaver?, XdgPortalNative.applyPowerSaver] at hmem
    split_ifs at hmem <;> simp at hmem

/-- A Response completes a request, or does not. -/
lemma says_deliverResponse {s : Client} {history : List Event} {path : String} {response : UInt32}
    {results : Dictionary} (hreceived : .request (.received path response results) ∈ history ∨
      s.worker = .callStarted (some ⟨path, response, results⟩)) :
    Says s history (s.native.deliverResponse path response results).2.2 := by
  simp only [XdgPortalNative.deliverResponse]
  split
  · exact .silent [] (by simp)
  · next handle hroute =>
    split
    · exact .silent [] (by simp)
    · next it hit =>
      split_ifs
      · exact .silent [] (by simp)
      · exact .answer handle path response results hreceived hroute
      · exact .answer handle path response results hreceived hroute

/-- The failure of a call completes its request, if it is still there. -/
lemma says_onCallFailed {s : Client} {history : List Event} {handle : String}
    {error : Option GError} (hmem : .request (.callFailed handle error) ∈ history) :
    Says s history (s.native.onCallFailed handle error).2 := by
  by_cases hsilent : s.native.requests[handle]? = none ∨ XdgPortalNative.isCancelled error = true
  · rw [XdgPortalNative.onCallFailed_silent hsilent]
    exact .silent [] (by simp)
  · obtain ⟨hsome, herror⟩ := not_or.mp hsilent
    obtain ⟨it, hit⟩ := Option.ne_none_iff_exists'.mp hsome
    rw [Bool.not_eq_true] at herror
    obtain ⟨message, hsignals⟩ := XdgPortalNative.onCallFailed_signals hit herror
    rw [hsignals]
    exact .failures [(handle, it)] message (by simpa using hit) (by simpa using .inl ⟨error, hmem⟩)

/-- The loss of the portal completes the requests that have no answer. -/
lemma says_failPendingRequests {s : Client} {history : List Event} (reason : String)
    (hlosing : s.worker.isLosing = true) :
    Says s history (s.native.failPendingRequests reason).2 :=
  .failures _ reason (fun _ hr => (XdgPortalNative.mem_pendingRequests.mp hr).1)
    fun _ _ => .inr hlosing

/-- Every step has one of the effects. -/
theorem Rule.delivery (h : Rule u s a s') : Delivery s s' := by
  cases h with
  | seed r hread values definitive hphase =>
    refine .quiet (List.reverse _) rfl ?_ ?_ rfl rfl rfl
    · rw [decided_reverse, decided_applied false _ fun _ => rfl]
      rfl
    · rw [marks_reverse, marks_applied]
      rfl
  | announce hannouncing =>
    obtain ⟨new, hdecided, hmarks, heq⟩ := exists_emit { s with announcing := [] } s.announcing
    rw [heq]
    exact .quiet new.reverse rfl (by simp [hdecided]) (by simp [hmarks]) rfl rfl rfl
  | refused _ context message halive hstarts =>
    obtain ⟨new, hdecided, hmarks, heq⟩ := exists_emit s [.portalError context message]
    rw [heq]
    exact .quiet new.reverse rfl (by simp [hdecided]) (by simp [hmarks]) rfl rfl rfl
  | closeLookup handle path halive hpath =>
    obtain ⟨new, hdecided, hmarks, heq⟩ := exists_send _ [closeMessage path]
    rw [heq]
    exact .quiet (new.reverse ++ [.request (.closeSent handle path)]) (by simp [record])
      (by simpa using ⟨hdecided, rfl⟩) (by simpa using ⟨hmarks, rfl⟩) rfl rfl rfl
  | closeFailed handle error hmem =>
    obtain ⟨new, hdecided, hmarks, heq⟩ := exists_emit _ (Tracker.closeErrors error)
    rw [heq]
    refine .quiet (new.reverse ++ List.reverse _) (List.append_assoc ..).symm ?_ ?_ rfl rfl rfl
    · rw [decided_append, decided_reverse, hdecided, decided_reverse,
        decided_map_of_none fun _ => rfl]
      rfl
    · rw [marks_append, marks_reverse, hmarks, marks_reverse, marks_map fun _ => rfl]
      rfl
  | sync _ signals message halive hsync =>
    obtain ⟨new, hdecided, hmarks, heq⟩ := exists_send s message.toList
    obtain ⟨new', hdecided', hmarks', heq'⟩ := exists_emit (s.record new) signals
    rw [callSync, heq, heq']
    exact .quiet (new'.reverse ++ new.reverse) (by simp [record]) (by simp [hdecided, hdecided'])
      (by simp [hmarks, hmarks']) rfl rfl rfl
  | shutDown halive hclosing hreading =>
    simp only [isAlive, Bool.and_eq_true, Bool.not_eq_true'] at halive
    exact .shutDown rfl rfl rfl halive.2 rfl
  | runTask task tasks hready htasks =>
    obtain ⟨new, onBus, refreshes, hdecided, hmarks, heq⟩ :=
      exists_runTask { s with tasks := tasks } task
    rw [heq]
    exact .quiet new.reverse rfl (by simp [hdecided]) (by simp [hmarks]) rfl rfl rfl
  | callFailed handle error hready hmem =>
    refine .decide (List.reverse (_ :: _)) (s.native.onCallFailed handle error).2 rfl ?_ ?_ rfl rfl
      rfl (says_onCallFailed (by simp [record]))
    · rw [List.reverse_cons, decided_append, decided_reverse, decided_map fun _ => rfl]
      exact List.append_nil _
    · rw [List.reverse_cons, marks_append, marks_reverse, marks_map fun _ => rfl]
      rfl
  | powerSaverRead reply hready hpos hdown =>
    have hdecided := decided_applied true (powerSaverOf (replyValue reply))
      (fun v => rfl : ∀ v, (Event.discovery true (.reported v)).decided? = none)
      (s.native.onPowerSaverRead reply).2
    have hmarks := marks_applied true (powerSaverOf (replyValue reply)) .reported
      (s.native.onPowerSaverRead reply).2
    let signals := (s.native.onPowerSaverRead reply).2
    let events :=
      ((powerSaverOf (replyValue reply)).map fun v => Event.discovery true (.reported v)).toList ++
        signals.map fun signal => Event.discovery true (.signal signal)
    refine .decide (events.reverse ++ [.refreshed (powerSaverOf (replyValue reply))]) signals
      ?_ ?_ ?_ rfl rfl rfl (says_applyPowerSaver? ..)
    · exact (List.append_assoc _ _ s.history).symm
    · rw [decided_append, decided_reverse, hdecided]
      exact List.append_nil _
    · rw [marks_append, marks_reverse, hmarks]
      rfl
  | requestResponse path parameters response results hlistens hdown hparameters =>
    let signals := (s.native.deliverResponse path.val response results).2.2
    refine .decide ((signals.map fun signal =>
        Event.request (.signal (.response path.val response) signal)).reverse ++
      [.request (.received path.val response results)]) signals ?_ ?_ ?_ rfl rfl rfl
      (says_deliverResponse (.inl ?_))
    · exact (List.append_assoc _ _ s.history).symm
    · rw [decided_append, decided_reverse, decided_map fun _ => rfl]
      exact List.append_nil _
    · rw [marks_append, marks_reverse, marks_map fun _ => rfl]
      rfl
    · exact List.mem_append_right _ (List.mem_cons_self ..)
  | propertiesChanged parameters hlistens hdown =>
    have hdecided := decided_applied true (notifiedPowerSaver parameters)
      (fun v => rfl : ∀ v, (Event.discovery true (.reported v)).decided? = none)
      (s.native.onPropertiesChanged parameters).2
    have hmarks := marks_applied true (notifiedPowerSaver parameters) .reported
      (s.native.onPropertiesChanged parameters).2
    refine .decide (List.reverse _) (s.native.onPropertiesChanged parameters).2 rfl ?_ ?_ rfl rfl
      rfl (says_applyPowerSaver? ..)
    · rw [decided_reverse, hdecided]
      rfl
    · rw [marks_reverse, hmarks]
      rfl
  | actionInvoked parameters id action converted hlistens hdown hparameters =>
    exact .act (.actionInvoked id action converted) _ rfl rfl rfl hlistens rfl rfl hdown hdown
      (by simp)
  | resumeEarly early hquiet hworker =>
    refine .decide (List.reverse _) _ rfl ?_ ?_ rfl rfl rfl (says_deliverResponse (.inr hworker))
    · rw [decided_reverse, decided_map fun _ => rfl]
    · rw [marks_reverse, marks_map fun _ => rfl]
      rfl
  | resumeHold response hquiet hworker =>
    refine .quiet (List.reverse (if 0 < s.native.callsInFlight
      then [.request (.held response.path)] else [])) rfl ?_ ?_ rfl rfl rfl
    · split_ifs <;> rfl
    · split_ifs <;> rfl
  | resumeReplaced hquiet hworker =>
    refine .decide (List.reverse _) _ rfl ?_ ?_ rfl rfl rfl
      (says_failPendingRequests _ (by rw [hworker]; rfl))
    · rw [decided_reverse, decided_map fun _ => rfl]
    · rw [marks_reverse, marks_map fun _ => rfl]
      rfl
  | resumeVanished hquiet hworker =>
    refine .decide (List.reverse _) _ rfl ?_ ?_ rfl rfl rfl
      (says_failPendingRequests _ (by rw [hworker]; rfl))
    · rw [decided_reverse, decided_map fun _ => rfl]
    · rw [marks_reverse, marks_map fun _ => rfl]
      rfl
  | refresh hquiet hdue =>
    obtain ⟨new, hdecided, hmarks, heq⟩ := exists_refreshPowerSaver { s with refreshDue := false }
    rw [heq]
    exact .quiet new.reverse rfl (by simp [hdecided]) (by simp [hmarks]) rfl rfl rfl
  | passed emission outbox hposting houtbox hdown =>
    exact .pass emission houtbox hposting rfl rfl hdown hdown
  | dropped emission outbox hposting houtbox hdown =>
    exact .drop emission houtbox hposting hposting rfl hdown hdown
  | post emission hposting => exact .post emission rfl hposting rfl rfl rfl
  | versionsCached | commit | requested | closeConfirmed | callStarted | answered | refreshedLate
      | portalAppeared | portalVanished =>
    exact .quiet [_] rfl rfl rfl rfl rfl rfl
  | _ => exact .quiet [] rfl rfl rfl rfl rfl rfl

/-! ### Order -/

lemma isFree_iff : s.isFree = true ↔
    s.worker.isIdle = true ∧ s.outbox = [] ∧ s.posting = none ∧ s.refreshDue = false := by
  simp [isFree, and_assoc]

lemma isFree_of_listens (h : s.listens = true) : s.isFree = true := by
  simp only [listens, Bool.and_eq_true] at h
  exact h.2

/-- The signals on their way are handed over next, and the shutdown stops all but the one that has
passed the check. -/
structure Ordered (s : Client) : Prop where
  suffix : s.posting.toList ++ handed s.history <:+ decided s.history
  before : s.shuttingDown = false →
    decided s.history = s.outbox.reverse ++ (s.posting.toList ++ handed s.history)
  after : ∀ later earlier, marks s.history = later ++ none :: earlier →
    s.shuttingDown = true ∧ later.length + s.posting.toList.length ≤ 1

namespace Ordered

lemma init : Ordered {} := ⟨List.suffix_refl _, fun _ => rfl, by simp [marks]⟩

lemma not_mem_marks (h : Ordered s) (hdown : s.shuttingDown = false) :
    none ∉ marks s.history := by
  intro hmem
  obtain ⟨later, earlier, heq⟩ := List.append_of_mem hmem
  rw [(h.after later earlier heq).1] at hdown
  cases hdown

lemma step (h : Ordered s) (hd : Delivery s s') : Ordered s' := by
  cases hd with
  | decide es signals hhistory hdecided hmarks houtbox hposting hdown hclaim =>
    have hhanded : handed es = [] := by rw [handed_eq_marks, hmarks, List.filterMap_nil]
    constructor
    · rw [hposting, hhistory, handed_append, hhanded, decided_append]
      exact h.suffix.trans (List.suffix_append ..)
    · intro hnot
      rw [hposting, hhistory, houtbox, handed_append, hhanded, decided_append, hdecided,
        h.before (hdown ▸ hnot), List.reverse_append, List.append_assoc, List.nil_append]
    · rw [hposting, hhistory, marks_append, hmarks, hdown]
      exact h.after
  | act e emission hhistory hdecided hmark hlistens houtbox hposting hbefore hdown haction =>
    obtain ⟨-, houtbox', hposting', -⟩ := isFree_iff.mp (isFree_of_listens hlistens)
    have hmarks : marks s'.history = marks s.history := by
      rw [hhistory, marks, List.filterMap_cons_none hmark]
      rfl
    have hhanded : handed s'.history = handed s.history := by
      rw [handed_eq_marks, hmarks, ← handed_eq_marks]
    have hall : decided s'.history = emission :: handed s.history := by
      rw [hhistory, decided, List.filterMap_cons_some hdecided, ← decided, h.before hbefore,
        houtbox', hposting']
      rfl
    constructor
    · rw [hposting, hhanded, hall]
      exact List.suffix_refl _
    · intro _
      rw [houtbox, houtbox', hposting, hhanded, hall]
      rfl
    · intro later earlier heq
      rw [hmarks] at heq
      exact absurd (by rw [heq]; simp) (h.not_mem_marks hbefore)
  | pass emission houtbox hnone hposting hhistory hbefore hdown =>
    have hall : decided s'.history =
        s'.outbox.reverse ++ (s'.posting.toList ++ handed s'.history) := by
      rw [hhistory, hposting, h.before hbefore, houtbox, hnone]
      simp
    refine ⟨hall ▸ List.suffix_append .., fun _ => hall, ?_⟩
    intro later earlier heq
    rw [hhistory] at heq
    exact absurd (by rw [heq]; simp) (h.not_mem_marks hbefore)
  | drop emission houtbox hnone hposting hhistory hbefore hdown =>
    constructor
    · rw [hposting, hhistory, ← hnone]
      exact h.suffix
    · intro hnot
      rw [hdown] at hnot
      cases hnot
    · intro later earlier heq
      rw [hhistory] at heq
      rw [hposting, hdown, ← hnone]
      exact ⟨rfl, (h.after later earlier heq).2⟩
  | post emission houtbox hbefore hposting hhistory hdown =>
    have hall : s'.posting.toList ++ handed s'.history =
        s.posting.toList ++ handed s.history := by
      rw [hposting, hhistory, hbefore]
      rfl
    have hsame : decided s'.history = decided s.history := by
      rw [hhistory]
      rfl
    constructor
    · rw [hall, hsame]
      exact h.suffix
    · intro hnot
      rw [hall, hsame, houtbox]
      exact h.before (hdown ▸ hnot)
    · intro later earlier heq
      rw [hhistory] at heq
      cases later with
      | nil => cases heq
      | cons mark later =>
        obtain ⟨hshut, hlength⟩ := h.after later earlier (List.cons.inj heq).2
        rw [hbefore] at hlength
        refine ⟨hdown.trans hshut, ?_⟩
        rw [hposting]
        simpa using hlength
  | shutDown houtbox hposting hhistory hbefore hdown =>
    have hsame : handed s'.history = handed s.history ∧
        decided s'.history = decided s.history := by
      rw [hhistory]
      exact ⟨rfl, rfl⟩
    constructor
    · rw [hposting, hsame.1, hsame.2]
      exact h.suffix
    · intro hnot
      rw [hdown] at hnot
      cases hnot
    · intro later earlier heq
      rw [hhistory] at heq
      refine ⟨hdown, ?_⟩
      cases later with
      | nil =>
        rw [hposting]
        cases s.posting <;> simp
      | cons mark later =>
        have hmarks : marks s.history = later ++ none :: earlier := (List.cons.inj heq).2
        exact absurd (by rw [hmarks]; simp) (h.not_mem_marks hbefore)

end Ordered

theorem ordered_of_reachable (hs : (machine u).Reachable s) : Ordered s := by
  induction hs with
  | init => exact .init
  | step hr ha ih => exact ih.step (Rule.of_step ha).delivery

/-- Godot gets the signals of the worker in the order in which they were decided, none twice and
none left out; while the client is not shutting down, those that are missing are on their way. At
most one arrives after the shutdown has begun. -/
theorem delivered_in_order (hs : (machine u).Reachable s) :
    handed s.history <:+ decided s.history ∧
      (s.shuttingDown = false →
        decided s.history = s.outbox.reverse ++ (s.posting.toList ++ handed s.history)) ∧
      ∀ later earlier, s.history = later ++ .shutDown :: earlier →
        (handed later).length ≤ 1 := by
  have h := ordered_of_reachable hs
  refine ⟨(List.suffix_append ..).trans h.suffix, h.before, ?_⟩
  intro later earlier heq
  have hmarks : marks s.history = marks later ++ none :: marks earlier := by
    rw [heq, marks_append]
    rfl
  obtain ⟨-, hlength⟩ := h.after _ _ hmarks
  exact (length_handed_le later).trans (Nat.le_of_add_right_le hlength)

/-- The completion of an inhibition that is granted is handed over. -/
theorem delivered_in_order_granted : ∃ s,
    (machine Tracker.client).exec {} grantedRun = some s ∧
    (handed s.history).length = 1 ∧ handed s.history <:+ decided s.history := by
  obtain ⟨s, hrun, hlength⟩ := (machine Tracker.client).exists_exec_of_any {} grantedRun
    (P := fun s => (handed s.history).length = 1) (by decide +kernel)
  exact ⟨s, hrun, hlength, (delivered_in_order (Machine.reachable_of_exec hrun)).1⟩

/-! ### The end of the worker -/

/-- The worker has left its loop: nothing is on its way. -/
structure Joined (s : Client) : Prop where
  stage : s.stage = .joined ∨ s.stage = .cleared
  free : s.isFree = true
  shuttingDown : s.shuttingDown = true
  cancelled : s.cancelled = true

/-- The worker leaves its loop after the shutdown only. -/
structure Ends (s : Client) : Prop where
  cancelled : s.cancelled = true → s.shuttingDown = true
  draining : s.stage = .draining → s.cancelled = true
  joined : s.stage = .joined ∨ s.stage = .cleared → Joined s

lemma emit_of_shuttingDown (signals : List Signal) (h : s.shuttingDown = true) :
    s.emit signals = s := if_pos h

namespace Joined

variable (h : Joined s)
include h

lemma not_dispatches : s.dispatches = false := by
  rcases h.stage with hs | hs <;> simp [dispatches, hs]

lemma not_isReady : ¬ s.isReady = true := by simp [isReady, h.not_dispatches]

lemma not_listens : ¬ s.listens = true := by
  rcases h.stage with hs | hs <;> simp [listens, hs]

lemma not_isAlive : ¬ s.isAlive = true := by simp [isAlive, h.shuttingDown]

lemma posting : s.posting = none := (isFree_iff.mp h.free).2.2.1

lemma step (hr : Rule u s a s') : Joined s' := by
  obtain ⟨hidle, houtbox, hposting, hdue⟩ := isFree_iff.mp h.free
  cases hr with
  | construct | take | seed | commitSeed | constructedKnown | constructedUnknown | commit
      | closeConfirmed =>
    exact ⟨h.stage, h.free, h.shuttingDown, h.cancelled⟩
  | announce hannouncing =>
    rw [emit_of_shuttingDown _ (by exact h.shuttingDown)]
    exact ⟨h.stage, h.free, h.shuttingDown, h.cancelled⟩
  | closeFailed handle error hmem =>
    rw [emit_of_shuttingDown _ (by exact h.shuttingDown)]
    exact ⟨h.stage, h.free, h.shuttingDown, h.cancelled⟩
  | clear hstage => exact ⟨.inr rfl, h.free, h.shuttingDown, h.cancelled⟩
  | versionsCached _ _ halive | readVersions _ _ halive | refused _ _ _ halive
      | requested _ _ _ halive | closeLookup _ _ halive | sync _ _ _ halive | shutDown halive =>
    exact absurd halive h.not_isAlive
  | cancel hdown hnot =>
    rw [h.cancelled] at hnot
    cases hnot
  | subscribe hstage | stop hstage | exit hstage =>
    rcases h.stage with hs | hs <;> exact absurd (hstage.symm.trans hs) (by decide)
  | runTask _ _ hready | callStarted _ _ hready | callFailed _ _ hready
      | answered _ _ _ _ _ hready | late _ _ _ _ _ hready | refreshedLate _ hready
      | powerSaverRead _ hready =>
    exact absurd hready h.not_isReady
  | ignoredResponse _ _ hlistens | requestResponse _ _ _ _ hlistens | ignoredProperties _ hlistens
      | propertiesChanged _ hlistens | ignoredAction _ hlistens | actionInvoked _ _ _ _ hlistens
      | ignoredAppeared _ hlistens | portalAppeared _ hlistens | ignoredVanished hlistens
      | portalVanished hlistens =>
    exact absurd hlistens h.not_listens
  | resumeSettled hquiet hsettled =>
    cases hw : s.worker with
    | idle => simp [hw, Settled, Tracker.Settled] at hsettled
    | _ => simp [hw, Worker.isIdle] at hidle
  | resumeEarly _ _ hworker | resumeHold _ _ hworker | resumeReplaced _ hworker
      | resumeVanished _ hworker =>
    simp [hworker, Worker.isIdle] at hidle
  | refresh hquiet hdue' => simp [hdue'] at hdue
  | passed emission outbox hnone houtbox' => simp [houtbox'] at houtbox
  | dropped emission outbox hnone houtbox' => simp [houtbox'] at houtbox
  | post emission hposting' => simp [hposting'] at hposting

end Joined

@[simp] lemma cancelled_emit (s : Client) (signals : List Signal) :
    (s.emit signals).cancelled = s.cancelled := by
  rw [emit_eq]
  rfl

@[simp] lemma cancelled_send (s : Client) (messages : List Message) :
    (s.send messages).cancelled = s.cancelled := by
  rw [send_eq]
  rfl

@[simp] lemma cancelled_refreshPowerSaver (s : Client) :
    s.refreshPowerSaver.cancelled = s.cancelled :=
  cancelled_send ..

@[simp] lemma cancelled_runTask (s : Client) (task : Task) :
    (s.runTask task).cancelled = s.cancelled := by
  cases task <;> simp [runTask]

/-- Nothing that has been recorded is lost. -/
lemma Delivery.history (h : Delivery s s') : ∃ es, s'.history = es ++ s.history := by
  cases h with
  | decide es _ hhistory => exact ⟨es, hhistory⟩
  | act e _ hhistory => exact ⟨[e], hhistory⟩
  | pass _ _ _ _ hhistory => exact ⟨[], hhistory⟩
  | drop _ _ _ _ hhistory => exact ⟨[], hhistory⟩
  | post _ _ _ _ hhistory => exact ⟨[_], hhistory⟩
  | shutDown _ _ hhistory => exact ⟨[_], hhistory⟩

/-- After the shutdown the worker hands over what has passed the check already, and nothing else. -/
lemma Delivery.silenced (h : Delivery s s') (hdown : s.shuttingDown = true) :
    ∃ es, s'.history = es ++ s.history ∧ s'.posting.toList ++ handed es = s.posting.toList := by
  cases h with
  | decide es signals hhistory hdecided hmarks houtbox hposting hsame hclaim =>
    refine ⟨es, hhistory, ?_⟩
    rw [hposting, handed_eq_marks, hmarks]
    exact List.append_nil _
  | drop emission houtbox hnone hposting hhistory hbefore hafter =>
    exact ⟨[], hhistory, by rw [hposting, hnone]; rfl⟩
  | post emission houtbox hbefore hposting hhistory hsame =>
    exact ⟨[_], hhistory, by rw [hposting, hbefore]; rfl⟩
  | act e emission hhistory hdecided hmark hlistens houtbox hposting hbefore =>
    rw [hbefore] at hdown
    cases hdown
  | pass emission houtbox hnone hposting hhistory hbefore =>
    rw [hbefore] at hdown
    cases hdown
  | shutDown houtbox hposting hhistory hbefore =>
    rw [hbefore] at hdown
    cases hdown

lemma Delivery.shuttingDown (h : Delivery s s') (hdown : s.shuttingDown = true) :
    s'.shuttingDown = true := by
  cases h with
  | decide es signals hhistory hdecided hmarks houtbox hposting hsame hclaim =>
    exact hsame.trans hdown
  | act e emission hhistory hdecided hmark hlistens houtbox hposting hbefore hafter haction =>
    rw [hbefore] at hdown
    cases hdown
  | pass emission houtbox hnone hposting hhistory hbefore hafter =>
    rw [hbefore] at hdown
    cases hdown
  | drop emission houtbox hnone hposting hhistory hbefore hafter => exact hafter
  | post emission houtbox hbefore hposting hhistory hsame => exact hsame.trans hdown
  | shutDown houtbox hposting hhistory hbefore hafter => exact hafter

namespace Ends

lemma init : Ends {} := by constructor <;> simp

lemma of_joined (h : Joined s) : Ends s :=
  ⟨fun _ => h.shuttingDown, fun _ => h.cancelled, fun _ => h⟩

/-- A step that leaves the loop and the cancellable alone. -/
lemma of_same (h : Ends s) (hdown : s.shuttingDown = true → s'.shuttingDown = true)
    (hnot : ¬ (s.stage = .joined ∨ s.stage = .cleared)) (hstage : s'.stage = s.stage)
    (hcancelled : s'.cancelled = s.cancelled) : Ends s' := by
  constructor
  · rw [hcancelled]
    exact fun hc => hdown (h.cancelled hc)
  · rw [hcancelled, hstage]
    exact h.draining
  · rw [hstage]
    exact fun hjoined => absurd hjoined hnot

lemma step (h : Ends s) (hr : Rule u s a s') : Ends s' := by
  by_cases hjoined : s.stage = .joined ∨ s.stage = .cleared
  · exact .of_joined ((h.joined hjoined).step hr)
  have hdown := hr.delivery.shuttingDown
  cases hr with
  | cancel hshut hnot => exact ⟨fun _ => hshut, fun _ => rfl, fun hj => absurd hj hjoined⟩
  | subscribe hstage => exact ⟨h.cancelled, nofun, fun hj => by simp at hj⟩
  | stop hstage hcancelled hfree =>
    exact ⟨h.cancelled, fun _ => hcancelled, fun hj => by simp at hj⟩
  | exit hstage hfree =>
    have hcancelled := h.draining hstage
    exact .of_joined ⟨.inl rfl, hfree, h.cancelled hcancelled, hcancelled⟩
  | clear hstage => exact absurd (.inl hstage) hjoined
  | announce hannouncing => exact h.of_same hdown hjoined (stage_emit ..) (cancelled_emit ..)
  | refused _ context message halive hstarts =>
    exact h.of_same hdown hjoined (stage_emit ..) (cancelled_emit ..)
  | closeLookup handle path halive hpath =>
    exact h.of_same hdown hjoined (stage_send ..) (cancelled_send ..)
  | closeFailed handle error hmem =>
    exact h.of_same hdown hjoined (stage_emit ..) (cancelled_emit ..)
  | sync _ signals message halive hsync =>
    exact h.of_same hdown hjoined ((stage_emit ..).trans (stage_send ..))
      ((cancelled_emit ..).trans (cancelled_send ..))
  | runTask task tasks hready htasks =>
    exact h.of_same hdown hjoined (stage_runTask ..) (cancelled_runTask ..)
  | refresh hquiet hdue =>
    exact h.of_same hdown hjoined (stage_refreshPowerSaver _) (cancelled_refreshPowerSaver _)
  | _ => exact h.of_same hdown hjoined rfl rfl

/-- The tables are cleared after the shutdown only. -/
lemma not_cleared (h : Ends s) (hdown : s.shuttingDown = false) : s.stage ≠ .cleared := by
  intro hcleared
  rw [(h.joined (.inr hcleared)).shuttingDown] at hdown
  cases hdown

end Ends

theorem ends_of_reachable (hs : (machine u).Reachable s) : Ends s := by
  induction hs with
  | init => exact .init
  | step hr ha ih => exact ih.step (.of_step ha)

end Client

end XdgPortals
