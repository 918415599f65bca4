import Mathlib.Data.List.Perm.Basic
import XdgPortals.Tracker.Calls

/-!
# The counter and the hold

The counter is the number of requests whose call has not returned. The hold is a bounded queue of
Responses in the order they arrived, and it is empty when the counter is zero.
-/

namespace XdgPortals

open XdgPortalNative

/-- The Response an event receives. -/
def Event.received? : Event → Option UnclaimedResponse
  | .received path response results => some ⟨path, response, results⟩
  | _ => none

/-- The Responses that arrived, the latest first. -/
def arrived (history : List Event) : List UnclaimedResponse := history.filterMap Event.received?

/-- The requests begun whose reply or failure has not been processed. -/
def unreplied (history : List Event) : List String := (begun history).diff (replied history)

/-- The Response that is between the two critical sections of its callback. -/
def Worker.arriving? : Worker → Option UnclaimedResponse
  | .requestResponse _ response => some response
  | _ => none

section Arrived

variable (cause : Cause) (signals : List Signal) (es : List Event)

lemma arrived_append (es' : List Event) : arrived (es ++ es') = arrived es ++ arrived es' :=
  List.filterMap_append

@[simp] lemma arrived_signalled : arrived (Tracker.signalled cause signals es) = arrived es := by
  rw [Tracker.signalled, arrived_append]
  simp [arrived, Event.received?, List.filterMap_reverse, List.filterMap_map]

end Arrived

namespace Tracker

variable {u : UniqueName} {s s' : Tracker} {a : Action}

/-! ### What a step does to the hold -/

/-- What a step does to the hold and to the Response that arrives. -/
inductive HoldEffect (s s' : Tracker) : Prop where
  | keep (hheld : s'.native.unclaimedResponses.Sublist s.native.unclaimedResponses)
      (hworker : s'.worker.arriving? = s.worker.arriving? ∨ s'.worker.arriving? = none)
      (harrived : arrived s'.history = arrived s.history)
      (hidle : s'.native.callsInFlight = 0 →
        s.native.callsInFlight = 0 ∨ s'.native.unclaimedResponses = [])
  | arrive (r : UnclaimedResponse) (hworker : s.worker.arriving? = none)
      (hworker' : s'.worker.arriving? = some r)
      (hheld : s'.native.unclaimedResponses = s.native.unclaimedResponses)
      (harrived : arrived s'.history = r :: arrived s.history)
      (hcalls : s'.native.callsInFlight = s.native.callsInFlight)
  | push (r : UnclaimedResponse) (hworker : s.worker.arriving? = some r)
      (hworker' : s'.worker.arriving? = none)
      (hheld : s'.native.unclaimedResponses =
        pushBounded maxUnclaimedResponses s.native.unclaimedResponses r)
      (harrived : arrived s'.history = arrived s.history)
      (hcalls : 0 < s'.native.callsInFlight)

/-- A delivery leaves the hold and the counter alone. -/
lemma Delivered.hold {path : String} {response : UInt32} {results : Dictionary} {t : Tracker}
    {delivered : Bool} (h : Delivered s path response results t delivered) :
    t.native.unclaimedResponses = s.native.unclaimedResponses ∧
      t.native.callsInFlight = s.native.callsInFlight ∧ arrived t.history = arrived s.history := by
  cases h with
  | missed hroute => exact ⟨rfl, rfl, rfl⟩
  | ignored handle hroute hdone => exact ⟨rfl, rfl, rfl⟩
  | granted handle it hroute hit hpending hinhibit hresponse => exact ⟨rfl, rfl, rfl⟩
  | finished handle it hroute hit hpending hend =>
    exact ⟨unclaimed_forget, callsInFlight_forget, rfl⟩

/-- With no call left, a reply clears the hold. -/
lemma unclaimed_dropHoldWhenIdle_of_idle {n : XdgPortalNative} (h : n.callsInFlight = 0) :
    n.dropHoldWhenIdle.unclaimedResponses = [] := by
  rw [dropHoldWhenIdle, if_pos h]

lemma arriving_of_isIdle {w : Worker} (h : w.isIdle) : w.arriving? = none := by
  cases w with
  | requestResponse delivered response => cases h
  | _ => rfl

theorem Rule.holdEffect (h : Rule u s a s') (hc : Counted s) : HoldEffect s s' := by
  cases h with
  | beginRequest random context =>
    refine .keep (List.Sublist.refl _) (Or.inl rfl) rfl fun hzero => ?_
    -- the counter was not negative, so it is not zero now
    have hcalls : s.native.callsInFlight + 1 = 0 := hzero
    rw [hc.calls] at hcalls
    omega
  | callStarted handle path hidle hmem =>
    refine .keep (unclaimed_onCallStarted ..) (Or.inr rfl) rfl fun hzero => Or.inr ?_
    dsimp only at hzero ⊢
    rw [onCallStarted_fst, callsInFlight_dropHoldWhenIdle] at hzero
    rw [onCallStarted_fst, unclaimed_dropHoldWhenIdle_of_idle hzero]
  | callFailed handle error hidle hmem =>
    refine .keep (unclaimed_onCallFailed ..) (Or.inl rfl) (arrived_signalled ..) fun hzero => ?_
    dsimp only at hzero ⊢
    rw [onCallFailed_fst, callsInFlight_dropHoldWhenIdle] at hzero
    rw [onCallFailed_fst, unclaimed_dropHoldWhenIdle_of_idle hzero]
    exact Or.inr rfl
  | requestResponse path response results hidle t delivered hdeliver =>
    obtain ⟨hheld, hcalls, harrived⟩ := (Delivered.of_deliver hdeliver).hold
    exact .arrive ⟨path.val, response, results⟩ (arriving_of_isIdle hidle) rfl hheld harrived hcalls
  | portalAppeared owner hidle =>
    refine .keep ?_ (Or.inr rfl) rfl fun hzero => Or.inl ?_
    · rw [unclaimed_onPortalAppeared]
    · rwa [callsInFlight_onPortalAppeared] at hzero
  | portalVanished hidle =>
    exact .keep (List.Sublist.refl _) (Or.inr rfl) rfl fun hzero => Or.inl hzero
  | resumeSettled hsettled =>
    exact .keep (List.Sublist.refl _) (Or.inr rfl) rfl fun hzero => Or.inl hzero
  | resumeEarly early hworker t delivered hdeliver =>
    obtain ⟨hheld, hcalls, harrived⟩ := (Delivered.of_deliver hdeliver).hold
    refine .keep ?_ (Or.inr rfl) harrived fun hzero => Or.inl (hcalls.symm.trans hzero)
    dsimp only
    rw [hheld]
  | resumeHold response hworker =>
    by_cases hcalls : 0 < s.native.callsInFlight
    · refine .push response (by rw [hworker]; rfl) rfl ?_ ?_ ?_
      · simp [hold, holdResponse, hcalls]
      · simp only [hold, if_pos hcalls]
        rfl
      · simpa [hold, callsInFlight_holdResponse] using hcalls
    · refine .keep ?_ (Or.inr rfl) ?_ fun hzero => Or.inl ?_
      · simp [hold, holdResponse, hcalls]
      · simp [hold, hcalls]
      · simpa [hold, callsInFlight_holdResponse] using hzero
  | resumeLost reason hlosing =>
    exact .keep (List.nil_sublist _) (Or.inr rfl) (arrived_signalled ..) fun hzero => Or.inr rfl
  | closeLookup handle path hpath =>
    exact .keep (List.Sublist.refl _) (Or.inl rfl) rfl fun hzero => Or.inl hzero
  | closeConfirmed handle hmem =>
    refine .keep ?_ (Or.inl rfl) rfl fun hzero => Or.inl ?_
    · rw [unclaimed_forget]
    · rwa [callsInFlight_forget] at hzero
  | closeFailed handle error hmem =>
    exact .keep (List.Sublist.refl _) (Or.inl rfl) (arrived_signalled ..) fun hzero => Or.inl hzero

/-! ### The invariant -/

/-- The hold, followed by the Response that arrives, is a part of what arrived, in its order. -/
structure Held (s : Tracker) : Prop where
  bound : s.native.unclaimedResponses.length ≤ maxUnclaimedResponses
  order : (s.native.unclaimedResponses ++ s.worker.arriving?.toList).Sublist
    (arrived s.history).reverse
  idle : s.native.callsInFlight = 0 → s.native.unclaimedResponses = []

theorem Held.step (hh : Held s) (h : HoldEffect s s') : Held s' := by
  cases h with
  | keep hheld hworker harrived hidle =>
    refine ⟨Nat.le_trans hheld.length_le hh.bound, ?_, fun hzero => ?_⟩
    · rw [harrived]
      refine List.Sublist.trans (List.Sublist.append hheld ?_) hh.order
      rcases hworker with hworker | hworker
      · rw [hworker]
      · rw [hworker]
        exact List.nil_sublist _
    · rcases hidle hzero with hzero | hnil
      · rw [hh.idle hzero] at hheld
        exact List.sublist_nil.mp hheld
      · exact hnil
  | arrive r hworker hworker' hheld harrived hcalls =>
    have horder := hh.order
    rw [hworker, Option.toList_none, List.append_nil] at horder
    refine ⟨hheld ▸ hh.bound, ?_, fun hzero => ?_⟩
    · rw [hheld, hworker', harrived, List.reverse_cons]
      exact horder.append_right [r]
    · rw [hheld]
      exact hh.idle (hcalls.symm.trans hzero)
  | push r hworker hworker' hheld harrived hcalls =>
    have horder := hh.order
    rw [hworker, Option.toList_some] at horder
    refine ⟨?_, ?_, fun hzero => ?_⟩
    · rw [hheld]
      exact length_pushBounded_le (by decide) hh.bound r
    · rw [hworker', Option.toList_none, List.append_nil, hheld, harrived]
      exact (pushBounded_sublist ..).trans horder
    · rw [hzero] at hcalls
      exact absurd hcalls (Int.lt_irrefl 0)

theorem held_of_reachable (hs : (machine u).Reachable s) : Held s := by
  induction hs with
  | init => exact ⟨Nat.zero_le _, List.nil_sublist _, fun _ => rfl⟩
  | step hr ha ih => exact ih.step ((Rule.of_step ha).holdEffect (counted_of_reachable hr))

/-- The calls that have not returned are those the counter counts. -/
lemma Counted.perm_unreplied (hc : Counted s) : (unreplied s.history).Perm s.inFlight := by
  have hsub : ∀ h ∈ replied s.history,
      (replied s.history).count h ≤ (begun s.history).count h := by
    intro h _
    rw [hc.perm.count_eq, List.count_append]
    exact Nat.le_add_left ..
  have hperm := (List.subperm_append_diff_self_of_count_le hsub).trans
    (hc.perm.trans List.perm_append_comm)
  exact (List.perm_append_left_iff _).mp hperm

/-- The counter is the number of requests begun and not replied to, and the hold is bounded, in
order, and empty when the counter is zero. -/
theorem calls_counted_and_hold_bounded (hs : (machine u).Reachable s) :
    s.native.callsInFlight = (unreplied s.history).length ∧
      s.native.unclaimedResponses.length ≤ maxUnclaimedResponses ∧
      s.native.unclaimedResponses.Sublist (arrived s.history).reverse ∧
      (s.native.callsInFlight = 0 → s.native.unclaimedResponses = []) := by
  have hcounted := counted_of_reachable hs
  have hheld := held_of_reachable hs
  refine ⟨?_, hheld.bound, ?_, hheld.idle⟩
  · rw [hcounted.calls, hcounted.perm_unreplied.length_eq]
  · exact (List.sublist_append_left ..).trans hheld.order

/-- A Response on hold while the portal is lost and the call is still in flight. -/
theorem calls_counted_and_hold_bounded_early : ∃ s,
    (machine client).exec (machine client).init
      [.beginRequest 7 "Inhibit.Inhibit", .portalAppeared ":1.5", .resume, .portalVanished,
        .resume, .requestResponse otherPath 0 [], .resume] = some s ∧
    s.native.callsInFlight = 1 ∧ (unreplied s.history).length = 1 ∧
    s.native.unclaimedResponses.length = 1 ∧
    s.native.unclaimedResponses.Sublist (arrived s.history).reverse := by
  obtain ⟨s, hs, hcalls, hlength⟩ := (machine client).exists_exec_of_any (machine client).init
    [.beginRequest 7 "Inhibit.Inhibit", .portalAppeared ":1.5", .resume, .portalVanished,
      .resume, .requestResponse otherPath 0 [], .resume]
    (P := fun s => s.native.callsInFlight = 1 ∧ s.native.unclaimedResponses.length = 1)
    (by decide +kernel)
  obtain ⟨hcount, -, horder, -⟩ :=
    calls_counted_and_hold_bounded (Machine.reachable_of_exec hs)
  refine ⟨s, hs, hcalls, ?_, hlength, horder⟩
  rw [hcalls] at hcount
  exact_mod_cast hcount.symm

end Tracker

end XdgPortals
