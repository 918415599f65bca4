import XdgPortals.Native.Handles
import XdgPortals.Tracker.PortalLoss

/-!
# The handles begun in a run

A run begins the handles of its `begin_request` calls, whatever comes in between. So the handles
are distinct unless the counter has gone all the way round.
-/

namespace XdgPortals

open XdgPortalNative

namespace Tracker

variable {u : UniqueName} {s s' t : Tracker} {a : Action}

/-- What a `begin_request` draws, and its context. -/
def Action.begin? : Action → Option (UInt32 × String)
  | .beginRequest random context => some (random, context)
  | _ => none

lemma handleCounter_onCallStarted (n : XdgPortalNative) (h p : String) :
    (n.onCallStarted h p).1.handleCounter = n.handleCounter := by
  obtain ⟨requests, paths, heq⟩ := recordPath_eq n h p
  obtain ⟨held, hdrop⟩ := dropHoldWhenIdle_eq ((n.recordPath h p).callReturned.claimResponse p).1
  rw [onCallStarted_fst, hdrop, heq]
  rfl

lemma handleCounter_onCallFailed (n : XdgPortalNative) (h : String) (e : Option GError) :
    (n.onCallFailed h e).1.handleCounter = n.handleCounter := by
  obtain ⟨requests, paths, heq⟩ := forget_eq n h
  obtain ⟨held, hdrop⟩ := dropHoldWhenIdle_eq (n.forgetRequestLocked h).callReturned
  rw [onCallFailed_fst, hdrop, heq]
  rfl

lemma handleCounter_forget (n : XdgPortalNative) (h : String) :
    (n.forgetRequestLocked h).handleCounter = n.handleCounter := by
  obtain ⟨requests, paths, heq⟩ := forget_eq n h
  rw [heq]

lemma Delivered.handleCounter {path : String} {response : UInt32} {results : Dictionary}
    {delivered : Bool} (h : Delivered s path response results t delivered) :
    t.native.handleCounter = s.native.handleCounter := by
  cases h with
  | missed hroute => rfl
  | ignored handle hroute hdone => rfl
  | granted handle it hroute hit hpending hinhibit hresponse => rfl
  | finished handle it hroute hit hpending hend => exact handleCounter_forget ..

/-- Only `begin_request` counts. -/
lemma handleCounter_of_rule (h : Rule u s a s') (ha : Action.begin? a = none) :
    s'.native.handleCounter = s.native.handleCounter := by
  cases h with
  | beginRequest random context => cases ha
  | callStarted handle path hidle hmem => exact handleCounter_onCallStarted ..
  | callFailed handle error hidle hmem => exact handleCounter_onCallFailed ..
  | requestResponse path response results hidle t delivered hdeliver =>
    exact (Delivered.of_deliver hdeliver).handleCounter
  | portalAppeared owner hidle =>
    obtain ⟨generation, versions, heq⟩ := onPortalAppeared_fst s.native owner
    dsimp only
    rw [heq]
  | portalVanished hidle => rfl
  | resumeSettled hsettled => rfl
  | resumeEarly early hworker t delivered hdeliver =>
    exact (Delivered.of_deliver hdeliver).handleCounter
  | resumeHold response hworker =>
    obtain ⟨held, heq⟩ := holdResponse_eq s.native response
    simp only [hold, heq]
  | resumeLost reason hlosing => rfl
  | closeLookup handle path hpath => rfl
  | closeConfirmed handle hmem => exact handleCounter_forget ..
  | closeFailed handle error hmem => rfl

/-- Only `begin_request` begins. -/
lemma begun_of_rule (h : Rule u s a s') (ha : Action.begin? a = none) :
    begun s'.history = begun s.history := by
  cases h.effect.failures with
  | begin k c haction hhistory =>
    obtain ⟨random, rfl⟩ := haction
    cases ha
  | add new hhistory hbegun hpending hfailed =>
    rw [hhistory, begun_append, hbegun]
    rfl

/-- The `begin_request` calls of a run. -/
def begins (as : List Action) : List (UInt32 × String) := as.filterMap Action.begin?

/-- A run begins the handles of its calls, in their order. -/
theorem begun_of_exec_eq {as : List Action} (hrun : (machine u).exec s as = some t) :
    begun t.history = ((s.native.beginRequests (some u.toString) (begins as)).map
      Prod.snd).reverse ++ begun s.history := by
  induction as generalizing s with
  | nil =>
    cases hrun
    rfl
  | cons a as ih =>
    obtain ⟨s', ha, has⟩ := (machine u).exec_cons_eq_some.mp hrun
    have hrule := Rule.of_step ha
    rw [ih has]
    cases hbegin : Action.begin? a with
    | none =>
      rw [beginRequests_congr (handleCounter_of_rule hrule hbegin), begun_of_rule hrule hbegin,
        begins, begins, List.filterMap_cons_none hbegin]
    | some call =>
      rw [begins, begins, List.filterMap_cons_some hbegin]
      cases hrule with
      | beginRequest random context =>
        cases hbegin
        rw [beginRequests_cons, List.map_cons, List.reverse_cons, List.append_assoc]
        exact congrArg (fun results => (List.map Prod.snd results).reverse ++ _)
          (beginRequests_congr rfl)
      | _ => cases hbegin

/-- The assumption that no handle is begun twice holds of every run with fewer than 2^32 calls. -/
theorem begun_nodup_of_few {as : List Action}
    (hrun : (machine u).exec (machine u).init as = some t) (hfew : (begins as).length < 2 ^ 32) :
    (begun t.history).Nodup := by
  rw [begun_of_exec_eq hrun]
  refine List.Nodup.append (List.nodup_reverse.mpr (nodup_beginRequests hfew)) List.nodup_nil ?_
  exact List.disjoint_nil_right _

/-- Whatever the counter starts from and whatever is drawn, the handles that fewer than 2^32 calls
return in a run are distinct. Each is an object path that ends in the token of its call, and
`close_request` accepts it. -/
theorem handles_distinct_valid_accepted {as : List Action}
    (hrun : (machine u).exec s as = some t) (hfew : (begins as).length < 2 ^ 32) :
    ∃ results : List (String × String),
      results = s.native.beginRequests (some u.toString) (begins as) ∧
      results.length = (begins as).length ∧
      begun t.history = (results.map Prod.snd).reverse ++ begun s.history ∧
      (results.map Prod.snd).Nodup ∧
      ∀ token handle, (token, handle) ∈ results →
        isObjectPath handle = true ∧ lastElement handle = token ∧ token ≠ "" ∧
        (∀ c ∈ token.toList, isPathChar c = true) ∧
        ∀ m : XdgPortalNative, m.closeRequestPath handle ≠ none := by
  refine ⟨_, rfl, length_beginRequests, begun_of_exec_eq hrun, nodup_beginRequests hfew, ?_⟩
  intro token handle hmem
  exact beginRequests_valid hmem

/-- Two calls that draw the same number, the counter wrapping around between them. -/
theorem handles_distinct_valid_accepted_wrapped : ∃ t,
    (machine client).exec { native := { handleCounter := 0xfffffffe } }
      [.beginRequest 7 "OpenURI.OpenURI", .portalVanished, .resume,
        .beginRequest 7 "Inhibit.Inhibit", .beginRequest 7 "OpenURI.OpenURI"] = some t ∧
    begun t.history = [firstHandle.val,
      "/org/freedesktop/portal/desktop/request/1_42/godot_xdg_0_7",
      "/org/freedesktop/portal/desktop/request/1_42/godot_xdg_4294967295_7"] ∧
    ∃ results : List (String × String), begun t.history = (results.map Prod.snd).reverse ∧
      (results.map Prod.snd).Nodup := by
  obtain ⟨t, ht, hbegun⟩ := (machine client).exists_exec_of_any
    { native := { handleCounter := 0xfffffffe } }
    [.beginRequest 7 "OpenURI.OpenURI", .portalVanished, .resume,
      .beginRequest 7 "Inhibit.Inhibit", .beginRequest 7 "OpenURI.OpenURI"]
    (P := fun t => begun t.history = [firstHandle.val,
      "/org/freedesktop/portal/desktop/request/1_42/godot_xdg_0_7",
      "/org/freedesktop/portal/desktop/request/1_42/godot_xdg_4294967295_7"]) (by decide +kernel)
  obtain ⟨results, -, -, heq, hnodup, -⟩ := handles_distinct_valid_accepted ht (by decide)
  exact ⟨t, ht, hbegun, results, heq.trans (List.append_nil _), hnodup⟩

end Tracker

end XdgPortals
