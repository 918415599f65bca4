import XdgPortals.Tracker.Registered

/-!
# Requests failed with the portal

A name report that finds an owner gone makes the worker fail every waiting request, in a second
critical section. The requests failed there were begun before an owner was lost, provided that
nothing is begun between the two sections and no owner appears while a request waits without one.
-/

namespace XdgPortals

open XdgPortalNative

/-- The report makes the tracker fail the waiting requests. -/
def Event.ReportsLoss : Event → Prop
  | .portalAppeared _ _ replaced => replaced = true
  | .portalVanished old => old ≠ ""
  | _ => False

/-- The report is the loss of a recorded owner. -/
def Event.OwnerLost : Event → Prop
  | .portalAppeared old owner _ => old ≠ "" ∧ owner ≠ old
  | .portalVanished old => old ≠ ""
  | _ => False

instance : DecidablePred Event.OwnerLost
  | .portalAppeared old owner _ => inferInstanceAs (Decidable (old ≠ "" ∧ owner ≠ old))
  | .portalVanished old => inferInstanceAs (Decidable (old ≠ ""))
  | .begun .. | .callStarted .. | .callFailed .. | .received .. | .held .. | .closeSent ..
  | .closed .. | .signal .. => isFalse id

/-- An owner was lost after the request was begun. -/
def LostSince (history : List Event) (h : String) : Prop :=
  ∃ later loss earlier, history = later ++ loss :: earlier ∧ loss.OwnerLost ∧
    h ∈ begun earlier ∧ h ∉ begun later

/-- The handles the loss of the portal completed. -/
def failedPending (history : List Event) : List String :=
  history.filterMap fun
    | .signal .portalLost (.requestCompleted h _ _) => some h
    | _ => none

/-- An event that fails a request for the loss of the portal comes after such a loss. -/
def FailureJustified (e : Event) (es : List Event) : Prop :=
  ∀ h r results, e = .signal .portalLost (.requestCompleted h r results) → LostSince es h

lemma LostSince.append {new es : List Event} {h : String} (hl : LostSince es h)
    (hnew : h ∉ begun new) : LostSince (new ++ es) h := by
  obtain ⟨later, loss, earlier, rfl, hlost, hbegun, hlater⟩ := hl
  refine ⟨new ++ later, loss, earlier, (List.append_assoc ..).symm, hlost, hbegun, ?_⟩
  rw [begun_append, List.mem_append]
  exact not_or.mpr ⟨hnew, hlater⟩

namespace Tracker

variable {u : UniqueName} {s s' : Tracker} {a : Action}

lemma isLosing_of_losing {w : Worker} {reason : String} (h : Losing w reason) :
    Worker.isLosing w = true := by
  match w with
  | .portalAppeared true => rfl
  | .portalVanished true => rfl
  | .portalAppeared false | .portalVanished false | .idle | .callStarted _
  | .requestResponse _ _ => exact h.elim

/-- How the worker comes to fail the waiting requests. -/
inductive LossStep (s : Tracker) (a : Action) (s' : Tracker) : Prop where
  | stay (hworker : s'.worker = s.worker)
  | done (hidle : s'.worker = .idle)
  | other (hlosing : Worker.isLosing s'.worker = false)
  | appeared (owner : String) (ha : a = .portalAppeared owner) (hold : s.native.portalOwner ≠ owner)
      (hseen : s.native.portalOwnerSeen = true)
      (hhistory : s'.history = .portalAppeared s.native.portalOwner owner true :: s.history)
      (htables : s'.native.tables = s.native.tables)
  | vanished (hold : s.native.portalOwner ≠ "")
      (hhistory : s'.history = .portalVanished s.native.portalOwner :: s.history)
      (htables : s'.native.tables = s.native.tables)

theorem Rule.loss (h : Rule u s a s') : LossStep s a s' := by
  cases h with
  | beginRequest random context => exact .stay rfl
  | callStarted handle path hidle hmem => exact .other rfl
  | callFailed handle error hidle hmem => exact .stay rfl
  | requestResponse path response results hidle t delivered hdeliver => exact .other rfl
  | portalAppeared owner hidle =>
    cases hreplaced : (s.native.onPortalAppeared owner).2 with
    | false => exact .other rfl
    | true =>
      have hboth : s.native.portalOwnerSeen = true ∧ s.native.portalOwner ≠ owner := by
        simp only [onPortalAppeared] at hreplaced
        split_ifs at hreplaced with hr
        simpa using hr
      exact .appeared owner rfl hboth.2 hboth.1 rfl (tables_onPortalAppeared ..)
  | portalVanished hidle =>
    by_cases howner : s.native.portalOwner = ""
    · exact .other (by simp [Worker.isLosing, onPortalVanished, howner])
    · exact .vanished howner rfl rfl
  | resumeSettled hsettled => exact .done rfl
  | resumeEarly early hworker t delivered hdeliver => exact .done rfl
  | resumeHold response hworker => exact .done rfl
  | resumeLost reason hlosing => exact .done rfl
  | closeLookup handle path hpath => exact .stay rfl
  | closeConfirmed handle hmem => exact .stay rfl
  | closeFailed handle error hmem => exact .stay rfl

/-- The worker fails the waiting requests only after a report that says so. -/
lemma reportsLoss_of_reachable (hs : (machine u).Reachable s)
    (hlosing : Worker.isLosing s.worker = true) : ∃ e ∈ s.history, e.ReportsLoss := by
  induction hs with
  | init => cases hlosing
  | step hr ha ih =>
    obtain ⟨new, hnew⟩ := (Effect.of_step ha).history
    cases (Rule.of_step ha).loss with
    | stay hworker =>
      rw [hworker] at hlosing
      obtain ⟨e, he, hloss⟩ := ih hlosing
      exact ⟨e, by rw [hnew]; exact List.mem_append_right _ he, hloss⟩
    | done hidle =>
      rw [hidle] at hlosing
      cases hlosing
    | other hnot =>
      rw [hnot] at hlosing
      cases hlosing
    | appeared owner ha hold hseen hhistory htables =>
      rw [hhistory]
      exact ⟨_, List.mem_cons_self .., rfl⟩
    | vanished hold hhistory htables =>
      rw [hhistory]
      exact ⟨_, List.mem_cons_self .., hold⟩

/-! ### Failing only what an owner lost -/

/-- No request is begun while the worker is about to fail the waiting ones, and no owner appears
at a name known to be unowned while a request waits. -/
def FailsOnlyLost (s : Tracker) : Action → Prop
  | .beginRequest _ _ => s.worker.isLosing = false
  | .portalAppeared owner => s.native.portalOwnerSeen = true → s.native.portalOwner = "" →
      owner ≠ "" → s.native.pendingRequests = []
  | _ => True

instance (s : Tracker) : DecidablePred (FailsOnlyLost s)
  | .beginRequest _ _ => inferInstanceAs (Decidable (s.worker.isLosing = false))
  | .portalAppeared owner => inferInstanceAs (Decidable (s.native.portalOwnerSeen = true →
      s.native.portalOwner = "" → owner ≠ "" → s.native.pendingRequests = []))
  | .callStarted .. | .callFailed .. | .requestResponse .. | .portalVanished | .resume
  | .closeLookup .. | .closeConfirmed .. | .closeFailed .. => isTrue trivial

/-- The requests failed so far, and those the worker is about to fail, were begun before an owner
was lost. -/
structure LossRecorded (s : Tracker) : Prop where
  failed : Justified FailureJustified s.history
  losing : s.worker.isLosing = true → ∀ h, s.native.Pending h → LostSince s.history h

/-- A step begins one request, or none. Then no request starts to wait, and one is failed for the
loss of the portal only if it waits and the worker is about to fail it. -/
inductive FailureStep (s : Tracker) (a : Action) (s' : Tracker) : Prop where
  | begin (h context : String) (ha : ∃ random, a = .beginRequest random context)
      (hhistory : s'.history = .begun h context :: s.history)
  | add (new : List Event) (hhistory : s'.history = new ++ s.history) (hbegun : begun new = [])
      (hpending : ∀ k, s'.native.Pending k → s.native.Pending k)
      (hfailed : ∀ h r results, .signal .portalLost (.requestCompleted h r results) ∈ new →
        s.worker.isLosing = true ∧ s.native.Pending h)

lemma pending_of_forget {n m : XdgPortalNative} {h k : String}
    (htables : m.tables = (n.forgetRequestLocked h).tables) (hk : m.Pending k) : n.Pending k := by
  rw [← life_eq_pending, life_of_tables htables, life_forget] at hk
  split_ifs at hk
  exact life_eq_pending.mp hk

lemma begun_of_quiet {es : List Event} (hquiet : ∀ e ∈ es, e.Quiet) : begun es = [] := by
  rw [begun, List.filterMap_eq_nil_iff]
  intro e he
  have hq := hquiet e he
  cases e <;> first | rfl | exact hq.elim

lemma not_failed_of_quiet {es : List Event} (hquiet : ∀ e ∈ es, e.Quiet) {cause : Cause}
    {h : String} {r : Int32} {results : Dictionary} :
    .signal cause (.requestCompleted h r results) ∉ es :=
  fun hmem => hquiet _ hmem

/-- The completions among the signals of `fail_pending_requests`. -/
lemma mem_failPendingRequests {n : XdgPortalNative} {reason : String} {cause : Cause} {h : String}
    {r : Int32} {results : Dictionary}
    (hmem : .signal cause (.requestCompleted h r results) ∈
      ((n.failPendingRequests reason).2.map (Event.signal .portalLost)).reverse) :
    cause = .portalLost ∧ n.Pending h ∧ r = responseOther.toInt32 ∧ results = [] := by
  simp only [List.mem_reverse, List.mem_map, failPendingRequests, List.mem_flatMap] at hmem
  obtain ⟨signal, ⟨entry, hentry, hsignal⟩, heq⟩ := hmem
  cases heq
  rcases hsignal with _ | ⟨_, _ | ⟨_, hsignal⟩⟩
  · exact ⟨rfl, mem_map_pendingRequests.mp (List.mem_map_of_mem hentry), rfl, rfl⟩
  · cases hsignal

lemma Effect.failures (heff : Effect s a s') : FailureStep s a s' := by
  cases heff with
  | quiet new hquiet hhistory htables =>
    refine .add new hhistory (begun_of_quiet hquiet) (fun k hk => ?_)
      fun h r results hmem => absurd hmem (not_failed_of_quiet hquiet)
    rwa [← life_eq_pending, life_of_tables htables, life_eq_pending] at hk
  | register h c ha hhistory htables => exact .begin h c ha hhistory
  | record h p hmem hne hhistory htables =>
    refine .add [_] hhistory rfl (fun k hk => ?_) (by simp)
    rwa [← life_eq_pending, life_of_tables htables, life_recordPath, life_eq_pending] at hk
  | drop h e hmem hsilent hhistory htables =>
    exact .add [_] hhistory rfl (fun k => pending_of_forget htables) (by simp)
  | fail h m e it hmem ha hit herror hhistory htables =>
    exact .add [_, _, _] hhistory rfl (fun k => pending_of_forget htables) (by simp)
  | grant h p r results it new hquiet hreceived hroute hit hpending hinhibit hr hcalm hhistory
      htables =>
    refine .add _ hhistory (by rw [begun_cons, begun_of_quiet hquiet]; rfl) (fun k hk => ?_) ?_
    · rw [← life_eq_pending, life_of_tables htables, life_markAnswered] at hk
      split_ifs at hk
      exact life_eq_pending.mp hk
    · rintro k r' results' (_ | ⟨_, hmem⟩)
      exact absurd hmem (not_failed_of_quiet hquiet)
  | finish h p r results it new hquiet hreceived hroute hit hpending hend hhistory htables =>
    refine .add _ hhistory (by rw [begun_cons, begun_of_quiet hquiet]; rfl)
      (fun k => pending_of_forget htables) ?_
    rintro k r' results' (_ | ⟨_, hmem⟩)
    exact absurd hmem (not_failed_of_quiet hquiet)
  | lose reason hlosing hhistory htables =>
    refine .add _ hhistory ?_ (fun k hk => ?_) fun h r results hmem => ?_
    · have hsignals := begun_signalled .portalLost (s.native.failPendingRequests reason).2 []
      rwa [signalled, List.append_nil] at hsignals
    · rw [← life_eq_pending, life_of_tables htables, life_of_none (requests_clearRequests k)] at hk
      cases hk
    · exact ⟨isLosing_of_losing hlosing, (mem_failPendingRequests hmem).2.1⟩
  | close h hhistory htables =>
    exact .add [_] hhistory rfl (fun k => pending_of_forget htables) (by simp)

lemma losing_of_stay (hworker : s'.worker = s.worker) (hlosing : s'.worker.isLosing = true) :
    s.worker.isLosing = true := by
  rwa [hworker] at hlosing

/-- The requests that wait at the loss of an owner were begun before it. -/
lemma lostSince_of_loss (ht : Tabled s) (loss : Event) (hlost : loss.OwnerLost)
    (hhistory : s'.history = loss :: s.history) (htables : s'.native.tables = s.native.tables)
    {h : String} (hpending : s'.native.Pending h) : LostSince s'.history h := by
  obtain ⟨it, hit, hans⟩ := hpending
  rw [requests_of_tables htables] at hit
  exact ⟨[], loss, s.history, hhistory, hlost, (ht.record h it hit).path.1, by simp [begun]⟩

lemma LossRecorded.step (ht : Tabled s) (hC : FailsOnlyLost s a) (hl : LossRecorded s)
    (hstep : (machine u).step s a = some s') : LossRecorded s' := by
  have hrule := Rule.of_step hstep
  constructor
  · cases hrule.effect.failures with
    | begin h c ha hhistory =>
      rw [hhistory]
      exact ⟨by rintro _ _ _ ⟨⟩, hl.failed⟩
    | add new hhistory hbegun hpending hfailed =>
      rw [hhistory]
      refine hl.failed.append ?_
      rintro later e earlier rfl h r results rfl
      obtain ⟨hlosing, hwaits⟩ := hfailed h r results (by simp)
      refine (hl.losing hlosing h hwaits).append fun hmem => ?_
      rw [begun_append, begun_cons] at hbegun
      rw [(List.append_eq_nil_iff.mp (List.append_eq_nil_iff.mp hbegun).2).2] at hmem
      cases hmem
  · intro hlosing h hwaits
    cases hrule.loss with
    | done hidle =>
      rw [hidle] at hlosing
      cases hlosing
    | other hnot =>
      rw [hnot] at hlosing
      cases hlosing
    | vanished hold hhistory htables =>
      exact lostSince_of_loss ht (.portalVanished _) hold hhistory htables hwaits
    | appeared owner ha hold hseen hhistory htables =>
      by_cases hempty : s.native.portalOwner = ""
      · -- no request waits at an owner that appears at an unowned name
        subst ha
        have hnone := hC hseen hempty fun ho => hold (by rw [hempty, ho])
        rw [← mem_map_pendingRequests, pendingRequests, requests_of_tables htables,
          ← pendingRequests, hnone] at hwaits
        cases hwaits
      · exact lostSince_of_loss ht (.portalAppeared _ owner true) ⟨hempty, Ne.symm hold⟩
          hhistory htables hwaits
    | stay hworker =>
      have hbefore := losing_of_stay hworker hlosing
      cases hrule.effect.failures with
      | begin h' c ha hhistory =>
        obtain ⟨random, rfl⟩ := ha
        rw [FailsOnlyLost, hbefore] at hC
        cases hC
      | add new hhistory hbegun hpending hfailed =>
        rw [hhistory]
        refine (hl.losing hbefore h (hpending h hwaits)).append ?_
        rw [hbegun]
        exact List.not_mem_nil

/-- Over a run that begins nothing between the two sections of a name report, and in which no
owner appears while a request waits at an unowned name, every request failed for the loss of the
portal was begun before the loss of an owner. -/
theorem failed_after_loss {as : List Action} (hrun : (machine u).exec (machine u).init as = some s)
    (halong : (machine u).Along FailsOnlyLost (machine u).init as) (later : List Event) (h : String)
    (r : Int32) (results : Dictionary) (earlier : List Event)
    (hfailed : s.history =
      later ++ .signal .portalLost (.requestCompleted h r results) :: earlier) :
    LostSince earlier h := by
  have hinit : Tabled (machine u).init ∧ LossRecorded (machine u).init :=
    ⟨tabled_of_reachable .init, trivial, fun hlosing => by cases hlosing⟩
  have hrecorded := Machine.exec_induction (P := fun s => Tabled s ∧ LossRecorded s)
    (fun s a s' hC hs hstep => ⟨hs.1.step (Effect.of_step hstep), hs.2.step hs.1 hC hstep⟩)
    halong hinit hrun
  exact (Justified.iff_forall _).mp hrecorded.2.failed later _ earlier hfailed h r results rfl

/-- The portal is replaced while a request waits, and another request is begun afterwards. -/
theorem failed_after_loss_replaced : ∃ s,
    (machine client).exec (machine client).init
      [.portalAppeared ":1.5", .resume, .beginRequest 7 "OpenURI.OpenURI", .portalAppeared ":1.9",
        .resume, .beginRequest 7 "Inhibit.Inhibit"] = some s ∧
    failedPending s.history = [firstHandle.val] ∧
    ∀ later h r results earlier,
      s.history = later ++ .signal .portalLost (.requestCompleted h r results) :: earlier →
      LostSince earlier h := by
  obtain ⟨s, hs, hfailed⟩ := (machine client).exists_exec_of_any (machine client).init
    [.portalAppeared ":1.5", .resume, .beginRequest 7 "OpenURI.OpenURI", .portalAppeared ":1.9",
      .resume, .beginRequest 7 "Inhibit.Inhibit"]
    (P := fun s => failedPending s.history = [firstHandle.val]) (by decide +kernel)
  exact ⟨s, hs, hfailed, failed_after_loss hs (by decide)⟩

/-- The name has no owner at startup. A request is begun, and the owner that appears to answer it
makes the client fail it, although no owner was ever lost. -/
theorem failed_without_loss : ∃ s,
    (machine client).exec (machine client).init
      [.portalVanished, .resume, .beginRequest 7 "OpenURI.OpenURI", .portalAppeared ":1.5",
        .resume] = some s ∧
    failedPending s.history = [firstHandle.val] ∧ ∀ e ∈ s.history, ¬ e.OwnerLost :=
  Machine.exists_exec_of_any _ _ _ (by decide +kernel)

end Tracker

end XdgPortals
