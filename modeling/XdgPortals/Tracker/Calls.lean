import Mathlib.Data.List.Nodup
import XdgPortals.Tracker.Effects

/-!
# Calls in flight and Responses on hold

Every begun request has either its call in flight or its reply behind it. The Responses the
tracker keeps, or has in its hands, were all received.
-/

namespace XdgPortals

open XdgPortalNative

/-- The handle an event replies to. -/
def Event.replied? : Event → Option String
  | .callStarted h _ | .callFailed h _ => some h
  | _ => none

/-- The handles whose call has returned. -/
def replied (history : List Event) : List String := history.filterMap Event.replied?

lemma mem_replied {h : String} {es : List Event} :
    h ∈ replied es ↔ (∃ p, .callStarted h p ∈ es) ∨ ∃ e, .callFailed h e ∈ es := by
  rw [replied, List.mem_filterMap]
  constructor
  · rintro ⟨e, he, heq⟩
    cases e <;> cases heq
    · exact Or.inl ⟨_, he⟩
    · exact Or.inr ⟨_, he⟩
  · rintro (⟨p, hp⟩ | ⟨e, he⟩)
    · exact ⟨_, hp, rfl⟩
    · exact ⟨_, he, rfl⟩

section Signalled

variable (cause : Cause) (signals : List Signal) (es : List Event)

@[simp] lemma begun_signalled : begun (Tracker.signalled cause signals es) = begun es := by
  rw [Tracker.signalled, begun_append]
  simp [begun, Event.begun?, List.filterMap_reverse, List.filterMap_map]

@[simp] lemma replied_signalled : replied (Tracker.signalled cause signals es) = replied es := by
  rw [Tracker.signalled, replied, List.filterMap_append]
  simp [replied, Event.replied?, List.filterMap_reverse, List.filterMap_map]

end Signalled

namespace Tracker

variable {u : UniqueName} {s s' : Tracker} {a : Action}

/-! ### Calls in flight -/

/-- What a step does to the calls in flight. -/
inductive CallChange (s s' : Tracker) : Prop where
  | same (hflight : s'.inFlight = s.inFlight)
      (hcalls : s'.native.callsInFlight = s.native.callsInFlight)
      (hbegun : begun s'.history = begun s.history)
      (hreplied : replied s'.history = replied s.history)
  | begin (h : String) (hflight : s'.inFlight = h :: s.inFlight)
      (hcalls : s'.native.callsInFlight = s.native.callsInFlight + 1)
      (hbegun : begun s'.history = h :: begun s.history)
      (hreplied : replied s'.history = replied s.history)
  | reply (h : String) (hmem : h ∈ s.inFlight) (hflight : s'.inFlight = s.inFlight.erase h)
      (hcalls : s'.native.callsInFlight = s.native.callsInFlight - 1)
      (hbegun : begun s'.history = begun s.history)
      (hreplied : replied s'.history = h :: replied s.history)

lemma Delivered.calls {l : List Event} {path : String} {response : UInt32}
    {results : Dictionary} {t : Tracker} {delivered : Bool} {w : Worker}
    (h : Delivered { s with history := l ++ s.history } path response results t delivered)
    (hbegun : begun l = []) (hreplied : replied l = []) :
    CallChange s { t with worker := w } := by
  have hb : begun (l ++ s.history) = begun s.history := by rw [begun_append, hbegun]; rfl
  have hr : replied (l ++ s.history) = replied s.history := by
    rw [replied, List.filterMap_append, ← replied, hreplied]
    rfl
  cases h with
  | missed hroute => exact .same rfl rfl hb hr
  | ignored handle hroute hdone => exact .same rfl rfl hb hr
  | granted handle it hroute hit hpending hinhibit hresponse => exact .same rfl rfl hb hr
  | finished handle it hroute hit hpending hend => exact .same rfl (callsInFlight_forget ..) hb hr

lemma callsInFlight_onCallStarted (n : XdgPortalNative) (h p : String) :
    (n.onCallStarted h p).1.callsInFlight = n.callsInFlight - 1 := by
  rw [onCallStarted_fst, callsInFlight_dropHoldWhenIdle]
  exact congrArg (· - 1) (callsInFlight_recordPath ..)

lemma callsInFlight_onCallFailed (n : XdgPortalNative) (h : String) (e : Option GError) :
    (n.onCallFailed h e).1.callsInFlight = n.callsInFlight - 1 := by
  rw [onCallFailed_fst, callsInFlight_dropHoldWhenIdle]
  exact congrArg (· - 1) (callsInFlight_forget ..)

lemma callsInFlight_holdResponse (n : XdgPortalNative) (r : UnclaimedResponse) :
    (n.holdResponse r).callsInFlight = n.callsInFlight := by
  obtain ⟨held, heq⟩ := holdResponse_eq n r
  rw [heq]

lemma callsInFlight_onPortalAppeared (n : XdgPortalNative) (owner : String) :
    (n.onPortalAppeared owner).1.callsInFlight = n.callsInFlight := by
  obtain ⟨generation, versions, heq⟩ := onPortalAppeared_fst n owner
  rw [heq]

theorem Rule.calls (h : Rule u s a s') : CallChange s s' := by
  cases h with
  | beginRequest random context => exact .begin _ rfl rfl rfl rfl
  | callStarted handle path hidle hmem =>
    exact .reply handle hmem rfl (callsInFlight_onCallStarted ..) rfl rfl
  | callFailed handle error hidle hmem =>
    refine .reply handle hmem rfl (callsInFlight_onCallFailed ..) ?_ ?_
    · exact begun_signalled ..
    · exact replied_signalled ..
  | requestResponse path response results hidle t delivered hdeliver =>
    exact (Delivered.of_deliver hdeliver).calls
      (l := [.received path.val response results]) rfl rfl
  | portalAppeared owner hidle =>
    exact .same rfl (callsInFlight_onPortalAppeared ..) rfl rfl
  | portalVanished hidle => exact .same rfl rfl rfl rfl
  | resumeSettled hsettled => exact .same rfl rfl rfl rfl
  | resumeEarly early hworker t delivered hdeliver =>
    exact (Delivered.of_deliver hdeliver).calls (l := []) rfl rfl
  | resumeHold response hworker =>
    refine .same rfl (callsInFlight_holdResponse ..) ?_ ?_ <;>
    · simp only [hold]
      split_ifs <;> rfl
  | resumeLost reason hlosing =>
    exact .same rfl rfl (begun_signalled ..) (replied_signalled ..)
  | closeLookup handle path hpath => exact .same rfl rfl rfl rfl
  | closeConfirmed handle hmem => exact .same rfl (callsInFlight_forget ..) rfl rfl
  | closeFailed handle error hmem =>
    exact .same rfl rfl (begun_signalled ..) (replied_signalled ..)

/-- The begun requests are those in flight and those replied to, and the counter counts the
former. -/
structure Counted (s : Tracker) : Prop where
  perm : (begun s.history).Perm (s.inFlight ++ replied s.history)
  calls : s.native.callsInFlight = s.inFlight.length

lemma Counted.step (hc : Counted s) (h : CallChange s s') : Counted s' := by
  cases h with
  | same hflight hcalls hbegun hreplied =>
    refine ⟨?_, ?_⟩
    · rw [hbegun, hflight, hreplied]
      exact hc.perm
    · rw [hcalls, hflight]
      exact hc.calls
  | begin h hflight hcalls hbegun hreplied =>
    refine ⟨?_, ?_⟩
    · rw [hbegun, hflight, hreplied]
      exact hc.perm.cons h
    · rw [hcalls, hflight, hc.calls, List.length_cons]
      omega
  | reply h hmem hflight hcalls hbegun hreplied =>
    refine ⟨?_, ?_⟩
    · rw [hbegun, hflight, hreplied]
      refine hc.perm.trans ?_
      exact ((List.perm_cons_erase hmem).append_right _).trans List.perm_middle.symm
    · rw [hcalls, hflight, hc.calls, List.length_erase_of_mem hmem]
      have := List.length_pos_of_mem hmem
      omega

theorem counted_of_reachable (hs : (machine u).Reachable s) : Counted s := by
  induction hs with
  | init => exact ⟨List.Perm.refl _, rfl⟩
  | step hr ha ih => exact ih.step (Rule.of_step ha).calls

lemma Counted.begun_of_mem (hc : Counted s) {h : String} (hmem : h ∈ s.inFlight) :
    h ∈ begun s.history :=
  hc.perm.mem_iff.mpr (List.mem_append_left _ hmem)

/-- A handle that was begun once has not been replied to while its call is in flight. -/
lemma Counted.not_replied (hc : Counted s) {h : String} (honce : BegunOnce h s.history)
    (hmem : h ∈ s.inFlight) : h ∉ replied s.history := by
  rw [BegunOnce, hc.perm.count_eq, List.count_append] at honce
  have hflight := List.count_pos_iff.mpr hmem
  exact List.count_eq_zero.mp (by omega)

/-! ### Responses on hold -/

end Tracker

/-- The Response the rest of a callback delivers or holds. -/
def Worker.response? : Worker → Option UnclaimedResponse
  | .callStarted early => early
  | .requestResponse _ response => some response
  | _ => none

namespace Tracker

variable {u : UniqueName} {s s' : Tracker} {a : Action}

/-- The Response was received. -/
def Heard (history : List Event) (r : UnclaimedResponse) : Prop :=
  .received r.path r.response r.results ∈ history

lemma unclaimed_dropHoldWhenIdle (n : XdgPortalNative) :
    n.dropHoldWhenIdle.unclaimedResponses.Sublist n.unclaimedResponses := by
  unfold dropHoldWhenIdle
  split_ifs
  · exact List.nil_sublist _
  · exact List.Sublist.refl _

lemma unclaimed_onCallFailed (n : XdgPortalNative) (h : String) (e : Option GError) :
    (n.onCallFailed h e).1.unclaimedResponses.Sublist n.unclaimedResponses := by
  rw [onCallFailed_fst, ← unclaimed_forget (n := n) (h := h)]
  exact unclaimed_dropHoldWhenIdle _

lemma unclaimed_onCallStarted (n : XdgPortalNative) (h p : String) :
    (n.onCallStarted h p).1.unclaimedResponses.Sublist n.unclaimedResponses := by
  rw [onCallStarted_fst, ← unclaimed_recordPath (n := n) (h := h) (p := p)]
  exact (unclaimed_dropHoldWhenIdle _).trans List.eraseP_sublist

lemma unclaimed_holdResponse (n : XdgPortalNative) (r : UnclaimedResponse) :
    (n.holdResponse r).unclaimedResponses.Sublist (n.unclaimedResponses ++ [r]) := by
  unfold holdResponse
  split_ifs
  · exact pushBounded_sublist ..
  · exact List.sublist_append_left ..

lemma unclaimed_onPortalAppeared (n : XdgPortalNative) (owner : String) :
    (n.onPortalAppeared owner).1.unclaimedResponses = n.unclaimedResponses := by
  obtain ⟨generation, versions, heq⟩ := onPortalAppeared_fst n owner
  rw [heq]

/-- The tracker holds the Response, or the worker is about to deliver or hold it. -/
def InHand (s : Tracker) (r : UnclaimedResponse) : Prop :=
  r ∈ s.native.unclaimedResponses ∨ s.worker.response? = some r

lemma Delivered.unclaimed {path : String} {response : UInt32} {results : Dictionary}
    {t : Tracker} {delivered : Bool} (h : Delivered s path response results t delivered) :
    t.native.unclaimedResponses = s.native.unclaimedResponses := by
  cases h with
  | missed hroute => rfl
  | ignored handle hroute hdone => rfl
  | granted handle it hroute hit hpending hinhibit hresponse => rfl
  | finished handle it hroute hit hpending hend => exact unclaimed_forget

lemma Delivered.mem_history {path : String} {response : UInt32} {results : Dictionary}
    {t : Tracker} {delivered : Bool} (h : Delivered s path response results t delivered) {e : Event}
    (he : e ∈ s.history) : e ∈ t.history := by
  cases h with
  | missed hroute => exact he
  | ignored handle hroute hdone => exact he
  | granted handle it hroute hit hpending hinhibit hresponse => exact List.mem_cons_of_mem _ he
  | finished handle it hroute hit hpending hend => exact List.mem_cons_of_mem _ he

/-- A Response comes into the tracker's hands only by being received. -/
theorem Rule.inHand (h : Rule u s a s') {r : UnclaimedResponse} (hr : InHand s' r) :
    InHand s r ∨ Heard s'.history r := by
  cases h with
  | beginRequest random context => exact Or.inl hr
  | callStarted handle path hidle hmem =>
    rcases hr with hr | hr
    · exact Or.inl (Or.inl ((unclaimed_onCallStarted ..).subset hr))
    · rw [Worker.response?, onCallStarted_snd] at hr
      exact Or.inl (Or.inl (List.mem_of_find?_eq_some hr))
  | callFailed handle error hidle hmem =>
    rcases hr with hr | hr
    · exact Or.inl (Or.inl ((unclaimed_onCallFailed ..).subset hr))
    · exact Or.inl (Or.inr hr)
  | requestResponse path response results hidle t delivered hdeliver =>
    have hdelivered := Delivered.of_deliver hdeliver
    rcases hr with hr | hr
    · rw [hdelivered.unclaimed] at hr
      exact Or.inl (Or.inl hr)
    · cases hr
      exact Or.inr (hdelivered.mem_history (List.mem_cons_self ..))
  | portalAppeared owner hidle =>
    rcases hr with hr | hr
    · rw [unclaimed_onPortalAppeared] at hr
      exact Or.inl (Or.inl hr)
    · cases hr
  | portalVanished hidle =>
    rcases hr with hr | hr
    · exact Or.inl (Or.inl hr)
    · cases hr
  | resumeSettled hsettled =>
    rcases hr with hr | hr
    · exact Or.inl (Or.inl hr)
    · cases hr
  | resumeEarly early hworker t delivered hdeliver =>
    rcases hr with hr | hr
    · rw [(Delivered.of_deliver hdeliver).unclaimed] at hr
      exact Or.inl (Or.inl hr)
    · cases hr
  | resumeHold response hworker =>
    rcases hr with hr | hr
    · rcases List.mem_append.mp ((unclaimed_holdResponse ..).subset hr) with hr | hr
      · exact Or.inl (Or.inl hr)
      · cases List.mem_singleton.mp hr
        exact Or.inl (Or.inr (by rw [hworker]; rfl))
    · cases hr
  | resumeLost reason hlosing => rcases hr with hr | hr <;> cases hr
  | closeLookup handle path hpath => exact Or.inl hr
  | closeConfirmed handle hmem =>
    rcases hr with hr | hr
    · rw [unclaimed_forget] at hr
      exact Or.inl (Or.inl hr)
    · exact Or.inl (Or.inr hr)
  | closeFailed handle error hmem => exact Or.inl hr

theorem heard_of_reachable (hs : (machine u).Reachable s) :
    ∀ r, InHand s r → Heard s.history r := by
  induction hs with
  | init =>
    intro r hr
    rcases hr with hr | hr <;> cases hr
  | step hreach ha ih =>
    intro r hr
    obtain ⟨new, hnew⟩ := (Effect.of_step ha).history
    rcases (Rule.of_step ha).inHand hr with hr | hr
    · rw [Heard, hnew]
      exact List.mem_append_right _ (ih r hr)
    · exact hr

end Tracker

end XdgPortals
