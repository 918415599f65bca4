import Mathlib.Algebra.Group.Nat.Defs
import XdgPortals.Client.Emission
import XdgPortals.Client.Refinement
import XdgPortals.Discovery.Listener
import XdgPortals.Tracker.AtMostOnce
import XdgPortals.Tracker.Attribution
import XdgPortals.Tracker.Completion
import XdgPortals.Tracker.Handles

/-!
# What a game learns about its requests

The completions that Godot gets, in terms of the requests a game has started: at most one for each
of them, and when the worker is at rest none is missing but those of the requests that are still
waited for. Every one of them is either what the portal has answered on a path of the request, or a
failure that has a cause and follows its error.
-/

namespace XdgPortals

/-- A signal of discovery does not complete a request. -/
lemma Discovery.not_completed_of_reachable {s : Discovery} (hs : Discovery.machine.Reachable s)
    (handle : String) (response : Int32) (results : Dictionary) :
    .signal (.requestCompleted handle response results) ∉ s.history := by
  induction hs with
  | init => exact List.not_mem_nil
  | @step s s' a hr ha ih =>
    -- a value that is applied is announced with `power_saver_changed` only
    have happlied : ∀ value fromSignal, Discovery.Event.signal (.requestCompleted handle response
        results) ∉ (s.native.applyPowerSaver value fromSignal).2.map Discovery.Event.signal := by
      intro value fromSignal hmem
      simp only [XdgPortalNative.applyPowerSaver] at hmem
      split_ifs at hmem <;> simp at hmem
    intro hmem
    cases (Discovery.Rule.of_step ha).powerChange (Discovery.proper_of_reachable hr) with
    | quiet new hsilent hhistory hpower hheld =>
      rw [hhistory] at hmem
      rcases List.mem_append.mp hmem with hnew | hold
      · exact hsilent _ hnew
      · exact ih hold
    | answered e value he hhistory hpower hheld =>
      rw [hhistory] at hmem
      rcases List.mem_cons.mp hmem with rfl | hold
      · cases he
      · exact ih hold
    | seeded value hheld hheld' hnative hhistory =>
      rw [hhistory] at hmem
      rcases List.mem_append.mp hmem with hnew | hold
      · exact happlied _ _ hnew
      · exact ih (by simpa using hold)
    | reported value fromSignal hheld hnative hhistory =>
      rw [hhistory] at hmem
      rcases List.mem_append.mp hmem with hnew | hold
      · exact happlied _ _ hnew
      · exact ih (by simpa using hold)
    | vanished old hheld hpower hhistory =>
      rw [hhistory] at hmem
      exact ih (by simpa using hmem)

/-- A failed `Request.Close` does not complete a request. -/
lemma Tracker.not_completed_by_close {u : UniqueName} {s : Tracker}
    (hs : (Tracker.machine u).Reachable s) (handle : String) (response : Int32)
    (results : Dictionary) :
    .signal .closeFailed (.requestCompleted handle response results) ∉ s.history := by
  intro hmem
  obtain ⟨later, earlier, heq⟩ := List.append_of_mem hmem
  have hattributed := (Justified.iff_forall _).mp (Tracker.attributed_of_reachable hs) _ _ _ heq
  cases hattributed _ _ _ _ rfl

/-- The handle, response and results of a completion. -/
def Emission.completion? : Emission → Option (String × Int32 × Dictionary)
  | .signal (.requestCompleted handle response results) => some (handle, response, results)
  | _ => none

namespace Client

variable {u : UniqueName} {s s' : Client} {a : Action}

/-- The completions Godot has got, the latest first. -/
def told (s : Client) : List (String × Int32 × Dictionary) :=
  (handed s.history).filterMap Emission.completion?

lemma mem_history_of_mem_tracker {e : XdgPortals.Event} (hmem : e ∈ s.tracker.history)
    (howner : e.completion? ≠ none ∨ (∃ h c, e = .begun h c) ∨ (∃ p c d, e = .received p c d) ∨
      (∃ h x, e = .callFailed h x) ∨ ∃ h, e = .closed h) : .request e ∈ s.history := by
  obtain ⟨event, hevent, heq⟩ := List.mem_filterMap.mp hmem
  cases event with
  | request event =>
    cases heq
    exact hevent
  | portalAppeared old owner replaced =>
    cases heq
    simp [XdgPortals.Event.completion?] at howner
  | portalVanished old =>
    cases heq
    simp [XdgPortals.Event.completion?] at howner
  | _ => cases heq

lemma mem_tracker_of_mem_history {e : XdgPortals.Event} (hmem : .request e ∈ s.history) :
    e ∈ s.tracker.history :=
  List.mem_filterMap.mpr ⟨_, hmem, rfl⟩

/-- The worker decides on the completions of the request tracker, and on no others. -/
lemma completions_decided (hs : (machine u).Reachable s) (hstage : s.stage ≠ .cleared) :
    (decided s.history).filterMap Emission.completion? = completions s.tracker.history := by
  have htracker := reachable_tracker hs hstage
  have hdiscovery := reachable_discovery hs hstage
  rw [decided, tracker, completions, List.filterMap_filterMap, List.filterMap_filterMap]
  apply List.filterMap_congr
  intro e he
  cases e with
  | request event =>
    cases event with
    | signal cause signal =>
      cases cause with
      | closeFailed =>
        cases signal with
        | requestCompleted handle response results =>
          have hnot := Tracker.not_completed_by_close htracker handle response results
          exact absurd (mem_tracker_of_mem_history he) hnot
        | _ => rfl
      | _ => cases signal <;> rfl
    | _ => rfl
  | discovery onWorker event =>
    cases event with
    | signal signal =>
      cases signal with
      | requestCompleted handle response results =>
        have hmem : Discovery.Event.signal (.requestCompleted handle response results) ∈
            s.discovery.history := List.mem_filterMap.mpr ⟨_, he, rfl⟩
        exact absurd hmem (Discovery.not_completed_of_reachable hdiscovery handle response results)
      | _ => cases onWorker <;> rfl
    | _ => cases onWorker <;> rfl
  | _ => rfl

/-- What Godot has got of the completions is what the tracker decided first. -/
lemma told_suffix (hs : (machine u).Reachable s) (hstage : s.stage ≠ .cleared) :
    told s <:+ completions s.tracker.history := by
  rw [← completions_decided hs hstage]
  exact ((List.suffix_append ..).trans (ordered_of_reachable hs).suffix).filterMap _

/-! ### At most one -/

/-- The handles of fewer than 2^32 requests are distinct. -/
lemma begun_nodup {as : List Action} (hrun : (machine u).exec {} as = some s)
    (hstage : s.stage ≠ .cleared) (hfew : (begun s.tracker.history).length < 2 ^ 32) :
    (begun s.tracker.history).Nodup := by
  have hseen := (trackerSimulation u).exec_init hrun (if_neg hstage)
  apply Tracker.begun_nodup_of_few hseen
  have hbegun := congrArg List.length (Tracker.begun_of_exec_eq hseen)
  rw [List.length_append, List.length_reverse, List.length_map,
    XdgPortalNative.length_beginRequests] at hbegun
  exact Nat.lt_of_le_of_lt (hbegun ▸ Nat.le_add_right _ _) hfew

/-- No call fails while its request is kept as answered, other than by being cancelled. -/
def SparesAnswered (s : Client) : Action → Prop
  | .callFailed handle error => Tracker.SparesAnswered s.tracker (.callFailed handle error)
  | _ => True

lemma SparesAnswered.along (hspare : SparesAnswered s a) :
    (Tracker.machine u).Along Tracker.SparesAnswered s.tracker (s.trackerActions u a) := by
  cases a with
  | callFailed handle error => exact ⟨hspare, fun _ _ => trivial⟩
  | inhibit random flags reason parentWindow =>
    simp only [trackerActions]
    split_ifs
    · exact ⟨trivial, fun _ _ => trivial⟩
    · trivial
  | openUri random uri ask parentWindow =>
    simp only [trackerActions]
    split_ifs
    · exact ⟨trivial, fun _ _ => trivial⟩
    · trivial
  | requestResponse path parameters =>
    simp only [trackerActions]
    split
    · exact ⟨trivial, fun _ _ => trivial⟩
    · trivial
  | portalAppeared owner =>
    simp only [trackerActions]
    split_ifs
    · trivial
    · exact ⟨trivial, fun _ _ => trivial⟩
  | portalVanished =>
    simp only [trackerActions]
    split_ifs
    · trivial
    · exact ⟨trivial, fun _ _ => trivial⟩
  | closeLookup | closeConfirmed | closeFailed | callStarted | resume =>
    exact ⟨trivial, fun _ _ => trivial⟩
  | _ => trivial

/-- No handle is completed twice. -/
lemma nodup_told {as : List Action} (hrun : (machine u).exec {} as = some s)
    (hstage : s.stage ≠ .cleared) (hfew : (begun s.tracker.history).length < 2 ^ 32)
    (hspare : (machine u).Along SparesAnswered {} as) : ((told s).map Prod.fst).Nodup := by
  have hsuffix := (told_suffix (Machine.reachable_of_exec hrun) hstage).map Prod.fst
  have hseen := (trackerSimulation u).exec_init hrun (if_neg hstage)
  have halong := (trackerSimulation u).along_seen (C := SparesAnswered)
    (D := Tracker.SparesAnswered) (fun r b t ht hC => ?_) .init hrun (trackerSimulation u).init
    (if_neg hstage) hspare
  · have hdue := Machine.exec_induction (P := Tracker.DueOnce) (fun _ _ _ hC hd hb => hd.step hC hb)
      halong (fun h => by simp [Tracker.machine, XdgPortalNative.life, Life.due])
      hseen
    exact (hdue.completed_nodup (begun_nodup hrun hstage hfew)).sublist hsuffix.sublist
  · change (if _ then none else some _) = _ at ht
    split_ifs at ht with hcleared
    cases ht
    exact hC.along

/-- What is completed has been begun. -/
lemma begun_of_told (hs : (machine u).Reachable s) (hstage : s.stage ≠ .cleared) :
    ∀ handle ∈ (told s).map Prod.fst, handle ∈ begun s.tracker.history := by
  intro handle hmem
  exact Tracker.begun_of_completed (reachable_tracker hs hstage)
    (((told_suffix hs hstage).map Prod.fst).mem hmem)

/-- The tables are cleared when the worker has been joined. -/
lemma Rule.joined_of_cleared (h : Rule u s a s') (hs : (machine u).Reachable s)
    (hcleared : s'.stage = .cleared) : Joined s := by
  apply (ends_of_reachable hs).joined
  rcases h.stage with hsame | ⟨-, hrun⟩ | ⟨-, hdrain⟩ | ⟨-, hjoin⟩ | ⟨hjoined, -⟩
  · exact .inr (hsame.symm.trans hcleared)
  · cases hrun.symm.trans hcleared
  · cases hdrain.symm.trans hcleared
  · cases hjoin.symm.trans hcleared
  · exact .inl hjoined

/-- Clearing the tables tells Godot nothing: a run has told it all before. -/
lemma exists_uncleared {as : List Action} (hrun : (machine u).exec {} as = some s) :
    ∃ bs cs t, as = bs ++ cs ∧ (machine u).exec {} bs = some t ∧ t.stage ≠ .cleared ∧
      told s = told t ∧ ∃ es, s.history = es ++ t.history := by
  induction as using List.reverseRecOn generalizing s with
  | nil =>
    cases hrun
    exact ⟨[], [], {}, rfl, rfl, by simp, rfl, [], rfl⟩
  | append_singleton as a ih =>
    by_cases hstage : s.stage = .cleared
    swap
    · exact ⟨as ++ [a], [], s, (List.append_nil _).symm, hrun, hstage, rfl, [], rfl⟩
    obtain ⟨r, hr, hlast⟩ := (machine u).exec_append_eq_some.mp hrun
    obtain ⟨s', ha, heq⟩ := (machine u).exec_cons_eq_some.mp hlast
    cases heq
    have hrule := Rule.of_step ha
    have hjoined := hrule.joined_of_cleared (Machine.reachable_of_exec hr) hstage
    obtain ⟨es, hhistory, hhanded⟩ := hrule.delivery.silenced hjoined.shuttingDown
    rw [hjoined.posting, Option.toList_none, List.append_eq_nil_iff] at hhanded
    obtain ⟨bs, cs, t, rfl, ht, hnot, htold, es', heq⟩ := ih hr
    refine ⟨bs, cs ++ [a], t, List.append_assoc .., ht, hnot, ?_, es ++ es', ?_⟩
    · rw [← htold, told, told, hhistory, handed_append, hhanded.2, List.nil_append]
    · rw [hhistory, heq, List.append_assoc]

/-- Godot gets at most one completion for every handle, and none for one that no call has
returned, along every run in which no call fails while its request is kept as answered. -/
theorem told_once {as : List Action} (hrun : (machine u).exec {} as = some s)
    (hfew : (begun s.tracker.history).length < 2 ^ 32)
    (hspare : (machine u).Along SparesAnswered {} as) :
    ((told s).map Prod.fst).Nodup ∧
      ∀ handle ∈ (told s).map Prod.fst,
        ∃ context, .request (.begun handle context) ∈ s.history := by
  obtain ⟨bs, cs, t, rfl, ht, hstage, htold, es, heq⟩ := exists_uncleared hrun
  have hfewer : (begun t.tracker.history).length < 2 ^ 32 := by
    refine Nat.lt_of_le_of_lt ?_ hfew
    show (begun (t.history.filterMap _)).length ≤ (begun (s.history.filterMap _)).length
    rw [heq, List.filterMap_append, begun_append, List.length_append]
    exact Nat.le_add_left ..
  rw [htold]
  refine ⟨nodup_told ht hstage hfewer hspare.of_append, fun handle hmem => ?_⟩
  have hbegun := begun_of_told (Machine.reachable_of_exec ht) hstage handle hmem
  obtain ⟨context, hcontext⟩ := mem_begun.mp hbegun
  rw [heq]
  exact ⟨context, List.mem_append_right _
    (mem_history_of_mem_tracker hcontext (.inr (.inl ⟨_, _, rfl⟩)))⟩

/-- An inhibition that is granted is completed once. -/
theorem told_once_granted : ∃ s,
    (machine Tracker.client).exec {} grantedRun = some s ∧
    (told s).map Prod.fst = [Tracker.firstHandle.val] ∧
    ∀ handle ∈ (told s).map Prod.fst,
      ∃ context, .request (.begun handle context) ∈ s.history := by
  obtain ⟨s, hrun, hfew, htold⟩ := (machine Tracker.client).exists_exec_of_any {}
    grantedRun (P := fun s => (begun s.tracker.history).length < 2 ^ 32 ∧
      (told s).map Prod.fst = [Tracker.firstHandle.val]) (by decide +kernel)
  refine ⟨s, hrun, htold, (told_once hrun hfew (Machine.along_of_forall _ ?_)).2⟩
  simp [grantedRun, SparesAnswered]

/-! ### None missing -/

/-- The handle has been returned, and since then its request has not been closed. -/
def Open (history : List Event) (handle : String) : Prop :=
  ∃ later context earlier, history = later ++ .request (.begun handle context) :: earlier ∧
    .request (.closed handle) ∉ later

/-- The tracker waits for a request that is open and has not been completed. -/
lemma waiting_iff_open {handle : String} : Waiting s.tracker.history handle ↔
    Open s.history handle ∧ handle ∉ completed s.tracker.history := by
  constructor
  · rintro ⟨later, context, earlier, heq, hnot, hclosed⟩
    refine ⟨?_, hnot⟩
    obtain ⟨new, old, hsplit, hnew, hold⟩ := List.filterMap_eq_append_iff.mp heq
    obtain ⟨quiet, e, before, rfl, hquiet, he, -⟩ := List.filterMap_eq_cons_iff.mp hold
    cases e with
    | request event =>
      cases he
      refine ⟨new ++ quiet, context, before, by rw [hsplit, List.append_assoc], ?_⟩
      intro hmem
      rcases List.mem_append.mp hmem with hmem | hmem
      · exact hclosed (hnew ▸ List.mem_filterMap.mpr ⟨_, hmem, rfl⟩)
      · cases hquiet _ hmem
    | _ => cases he
  · rintro ⟨⟨later, context, earlier, heq, hclosed⟩, hnot⟩
    refine ⟨later.filterMap Event.request?, context, earlier.filterMap Event.request?, ?_, hnot, ?_⟩
    · show s.history.filterMap Event.request? = _
      rw [heq, List.filterMap_append]
      rfl
    · intro hmem
      obtain ⟨e, he, hevent⟩ := List.mem_filterMap.mp hmem
      cases e with
      | request event =>
        cases hevent
        exact hclosed he
      | _ => cases hevent

/-- Between two callbacks Godot has got every completion that has been decided. -/
lemma told_eq_of_isFree (hs : (machine u).Reachable s) (hstage : s.stage ≠ .cleared)
    (hdown : s.shuttingDown = false) (hfree : s.isFree = true) :
    told s = completions s.tracker.history := by
  obtain ⟨-, houtbox, hposting, -⟩ := isFree_iff.mp hfree
  rw [← completions_decided hs hstage, (ordered_of_reachable hs).before hdown, houtbox, hposting]
  rfl

/-- When the worker is between two callbacks, the requests it waits for are those a game is waiting
for: it has the handle, has not closed it, and has not been told how it ended. -/
theorem awaited_iff_pending {as : List Action} (hrun : (machine u).exec {} as = some s)
    (hfew : (begun s.tracker.history).length < 2 ^ 32) (hdown : s.shuttingDown = false)
    (hfree : s.isFree = true)
    (hcancel : ∀ handle error, .request (.callFailed handle error) ∈ s.history →
      XdgPortalNative.isCancelled error = false) (handle : String) :
    s.native.Pending handle ↔
      Open s.history handle ∧ handle ∉ (told s).map Prod.fst := by
  have hs := Machine.reachable_of_exec hrun
  have hstage := (ends_of_reachable hs).not_cleared hdown
  have hcalls : ∀ e ∈ s.tracker.history, e.cancelledCall = false := by
    intro e he
    cases e with
    | callFailed h error =>
      exact hcancel h error (mem_history_of_mem_tracker he (.inr (.inr (.inr (.inl ⟨_, _, rfl⟩)))))
    | _ => rfl
  rw [told_eq_of_isFree hs hstage hdown hfree, ← completed, ← waiting_iff_open]
  exact Tracker.pending_iff_waiting (reachable_tracker hs hstage) (begun_nodup hrun hstage hfew)
    hcalls handle

/-- After the grant the game waits for nothing, and neither does the worker. -/
theorem awaited_iff_pending_granted : ∃ s,
    (machine Tracker.client).exec {} grantedRun = some s ∧
    ((∃ later context earlier, s.history =
        later ++ .request (.begun Tracker.firstHandle.val context) :: earlier) ∧
      ¬ s.native.Pending Tracker.firstHandle.val) := by
  obtain ⟨s, hrun, hfew, hdown, hfree, hcalls, hbegun, htold⟩ :=
    (machine Tracker.client).exists_exec_of_any {} grantedRun
      (P := fun s => (begun s.tracker.history).length < 2 ^ 32 ∧ s.shuttingDown = false ∧
        s.isFree = true ∧ (s.tracker.history.all fun e => !e.cancelledCall) = true ∧
        Tracker.firstHandle.val ∈ begun s.tracker.history ∧
        Tracker.firstHandle.val ∈ (told s).map Prod.fst) (by decide +kernel)
  have hcancel : ∀ handle error, Event.request (.callFailed handle error) ∈ s.history →
      XdgPortalNative.isCancelled error = false := by
    intro handle error hmem
    simpa [XdgPortals.Event.cancelledCall] using
      List.all_eq_true.mp hcalls _ (mem_tracker_of_mem_history hmem)
  have hiff := awaited_iff_pending hrun hfew hdown hfree hcancel Tracker.firstHandle.val
  obtain ⟨context, hcontext⟩ := mem_begun.mp hbegun
  obtain ⟨later, earlier, heq⟩ :=
    List.append_of_mem (mem_history_of_mem_tracker hcontext (.inr (.inl ⟨_, _, rfl⟩)))
  exact ⟨s, hrun, ⟨later, context, earlier, heq⟩, fun hpending => (hiff.mp hpending).2 htold⟩

/-! ### Explained -/

/-- Why a request is failed: its call has failed, or the portal was lost. -/
def Failed (history : List Event) (handle : String) : Prop :=
  (∃ error, .request (.callFailed handle error) ∈ history) ∨
    ∃ e ∈ history.filterMap Event.request?, e.ReportsLoss

/-- A completion repeats a Response received on a path of the request, or it is a failure that has a
cause and comes right after its error. -/
def Explained (history : List Event) (emission : Emission) (earlier : List Emission) : Prop :=
  ∀ handle response results, emission = .signal (.requestCompleted handle response results) →
    (∃ path code, OwnPath (history.filterMap Event.request?) handle path ∧
      .request (.received path code results) ∈ history ∧ response = code.toInt32) ∨
    (response = responseOther.toInt32 ∧ results = [] ∧ Failed history handle ∧
      ∃ context message, earlier.head? = some (.signal (.portalError context message)) ∧
        .request (.begun handle context) ∈ history)

lemma Failed.append {history : List Event} {handle : String} (h : Failed history handle)
    (es : List Event) : Failed (es ++ history) handle := by
  rcases h with ⟨error, hmem⟩ | ⟨e, he, hloss⟩
  · exact .inl ⟨error, List.mem_append_right _ hmem⟩
  · refine .inr ⟨e, ?_, hloss⟩
    rw [List.filterMap_append]
    exact List.mem_append_right _ he

lemma Explained.append {history : List Event} {emission : Emission} {earlier : List Emission}
    (h : Explained history emission earlier) (es : List Event) :
    Explained (es ++ history) emission earlier := by
  intro handle response results heq
  rcases h handle response results heq with ⟨path, code, hown, hmem, hcode⟩ |
    ⟨hresponse, hresults, hfailed, context, message, hhead, hmem⟩
  · refine .inl ⟨path, code, ?_, List.mem_append_right _ hmem, hcode⟩
    rw [List.filterMap_append]
    exact hown.append
  · exact .inr ⟨hresponse, hresults, hfailed.append es, context, message, hhead,
      List.mem_append_right _ hmem⟩

/-- Each of the failures is explained by its cause and the error before it. -/
lemma justified_failures {history : List Event} {emissions : List Emission} {message : String}
    (requests : List (String × Request))
    (hfailed : ∀ r ∈ requests, Failed history r.1 ∧
      .request (.begun r.1 r.2.context) ∈ history)
    (h : Justified (Explained history) emissions) :
    Justified (Explained history) (((requests.flatMap fun r =>
        [Signal.portalError r.2.context message,
          .requestCompleted r.1 responseOther.toInt32 []]).map Emission.signal).reverse ++
      emissions) := by
  induction requests generalizing emissions with
  | nil => exact h
  | cons r requests ih =>
    rw [List.forall_mem_cons] at hfailed
    have hfirst : Justified (Explained history)
        (.signal (.requestCompleted r.1 responseOther.toInt32 []) ::
          .signal (.portalError r.2.context message) :: emissions) := by
      refine ⟨?_, by rintro _ _ _ ⟨⟩, h⟩
      rintro _ _ _ ⟨⟩
      exact .inr ⟨rfl, rfl, hfailed.1.1, r.2.context, message, rfl, hfailed.1.2⟩
    simpa using ih hfailed.2 hfirst

/-- Every completion that has been decided is explained. -/
lemma justified_decided (hs : (machine u).Reachable s) (hstage : s.stage ≠ .cleared) :
    Justified (Explained s.history) (decided s.history) := by
  refine Machine.Reachable.induction (H := fun s => s.stage ≠ .cleared)
    (P := fun s => Justified (Explained s.history) (decided s.history))
    (show Justified (Explained []) [] from trivial)
    (fun _ _ _ ha hstage => stage_ne_cleared (.of_step ha) hstage) ?_ hs hstage
  intro s a s' hr hstage' hj ha
  have hrule := Rule.of_step ha
  have hbefore := stage_ne_cleared hrule hstage'
  have htracker := reachable_tracker hr hbefore
  have hold : ∀ es, s'.history = es ++ s.history →
      Justified (Explained s'.history) (decided s.history) := fun es heq =>
    hj.mono fun _ _ h => heq ▸ h.append es
  cases hrule.delivery with
  | decide es signals hhistory hdecided hmarks houtbox hposting hdown hclaim =>
    have hall : decided s'.history = (signals.map .signal).reverse ++ decided s.history := by
      rw [hhistory, decided_append, hdecided]
    rw [hall]
    cases hclaim with
    | silent _ hsilent =>
      refine (hold es hhistory).append ?_
      rintro later e earlier heq handle response results rfl
      have hmem : Emission.signal (.requestCompleted handle response results) ∈
          (signals.map Emission.signal).reverse := by
        rw [heq]
        simp
      obtain ⟨signal, hsignal, hcompleted⟩ := List.mem_map.mp (List.mem_reverse.mp hmem)
      cases hcompleted
      exact absurd hsignal (hsilent handle response results)
    | answer handle path response results hreceived hroute =>
      refine ⟨?_, hold es hhistory⟩
      rintro _ _ _ ⟨⟩
      refine .inl ⟨path, response, ?_, ?_, rfl⟩
      · have hown := (Tracker.tabled_of_reachable htracker).route path handle hroute
        rw [hhistory, List.filterMap_append]
        exact hown.append
      · rcases hreceived with hmem | hworker
        · exact hmem
        · have hheard := Tracker.heard_of_reachable htracker ⟨path, response, results⟩
            (.inr (congrArg Worker.response? hworker))
          rw [hhistory]
          exact List.mem_append_right _ (mem_history_of_mem_tracker hheard
            (.inr (.inr (.inl ⟨_, _, _, rfl⟩))))
    | failures requests message hrequests hcause =>
      refine justified_failures requests ?_ (hold es hhistory)
      intro r hmem
      have hbegun := ((Tracker.tabled_of_reachable htracker).record r.1 r.2
        (hrequests r hmem)).begun
      constructor
      · rcases hcause r hmem with hcall | hlosing
        · exact .inl hcall
        · have hlost : Failed s.history r.1 :=
            .inr (Tracker.reportsLoss_of_reachable htracker hlosing)
          exact hhistory ▸ hlost.append es
      · rw [hhistory]
        exact List.mem_append_right _ (mem_history_of_mem_tracker hbegun
          (.inr (.inl ⟨_, _, rfl⟩)))
  | act e emission hhistory hdecided hmark hlistens houtbox hposting hbefore' hdown haction =>
    have hall : decided s'.history = emission :: decided s.history := by
      rw [hhistory, decided, List.filterMap_cons_some hdecided, ← decided]
    rw [hall]
    refine ⟨?_, hold [e] hhistory⟩
    rintro handle response results rfl
    exact absurd rfl (haction _)
  | pass emission houtbox hnone hposting hhistory hbefore' hdown => rwa [hhistory]
  | drop emission houtbox hnone hposting hhistory hbefore' hdown => rwa [hhistory]
  | post emission houtbox hbefore' hposting hhistory hdown =>
    exact hhistory ▸ hold [_] hhistory
  | shutDown houtbox hposting hhistory hbefore' hdown =>
    exact hhistory ▸ hold [_] hhistory

/-- What the worker hands over is explained by the events before it. -/
def Accounted (e : Event) (earlier : List Event) : Prop :=
  ∀ emission, e = .handed true emission → Explained earlier emission (handed earlier)

lemma accounted_of_unmarked {e : Event} (he : e.mark? = none) (earlier : List Event) :
    Accounted e earlier := by
  rintro emission rfl
  cases he

/-- What a step hands over was decided before, and next in the order. -/
lemma accounted_step (hs : (machine u).Reachable s) (hj : Justified Accounted s.history)
    (hd : Delivery s s') : Justified Accounted s'.history := by
  cases hd with
  | decide es signals hhistory hdecided hmarks houtbox hposting hdown hclaim =>
    rw [hhistory]
    refine hj.append fun later e earlier heq => accounted_of_unmarked ?_ _
    exact List.filterMap_eq_nil_iff.mp hmarks e (by simp [heq])
  | act e emission hhistory hdecided hmark hlistens houtbox hposting hbefore hdown haction =>
    rw [hhistory]
    exact ⟨accounted_of_unmarked hmark _, hj⟩
  | pass emission houtbox hnone hposting hhistory hbefore hdown => rwa [hhistory]
  | drop emission houtbox hnone hposting hhistory hbefore hdown => rwa [hhistory]
  | post emission houtbox hbefore hposting hhistory hdown =>
    rw [hhistory]
    refine ⟨?_, hj⟩
    rintro _ ⟨⟩
    -- the worker has not been joined, so the tables are still there
    have hstage : s.stage ≠ .cleared := by
      intro hcleared
      have hnone := ((ends_of_reachable hs).joined (.inr hcleared)).posting
      cases hnone.symm.trans hbefore
    obtain ⟨later, heq⟩ := (ordered_of_reachable hs).suffix
    have hdecided := justified_decided hs hstage
    rw [← heq, hbefore] at hdecided
    exact hdecided.of_append.1
  | shutDown houtbox hposting hhistory hbefore hdown =>
    rw [hhistory]
    exact ⟨by rintro _ ⟨⟩, hj⟩

theorem accounted_of_reachable (hs : (machine u).Reachable s) : Justified Accounted s.history := by
  induction hs with
  | init => trivial
  | step hr ha ih => exact accounted_step hr ih (Rule.of_step ha).delivery

end Client

end XdgPortals
