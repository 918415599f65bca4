import XdgPortals.Tracker.PortalLoss
import XdgPortals.Tracker.Routing

/-!
# Closing a granted inhibition

The record of a granted inhibition keeps the path `close_request` needs. A call that fails
afterwards drops it, but then no reply has named another path than the handle itself.
-/

namespace XdgPortals

open XdgPortalNative

/-- A Response with code 0 on `p` completes the request `h`. -/
def Event.Grants (h p : String) : Event → Prop
  | .signal (.response p' r) (.requestCompleted h' _ _) => h' = h ∧ p' = p ∧ r = 0
  | _ => False

/-- Neither the close of `h` nor a change of the portal's owner. -/
def Event.Spares (h : String) : Event → Prop
  | .closed h' => h' ≠ h
  | .portalAppeared _ _ replaced => replaced = false
  | .portalVanished old => old = ""
  | _ => True

instance (h p : String) : DecidablePred (Event.Grants h p)
  | .signal (.response p' r) (.requestCompleted h' _ _) =>
    inferInstanceAs (Decidable (h' = h ∧ p' = p ∧ r = 0))
  | .signal (.response ..) (.portalError ..) | .signal (.response ..) (.powerSaverChanged _)
  | .signal .callFailed _ | .signal .portalLost _ | .signal .closeFailed _
  | .begun .. | .callStarted .. | .callFailed .. | .received .. | .held .. | .closeSent ..
  | .closed .. | .portalAppeared .. | .portalVanished .. => isFalse id

instance (h : String) : DecidablePred (Event.Spares h)
  | .closed h' => inferInstanceAs (Decidable (h' ≠ h))
  | .portalAppeared _ _ replaced => inferInstanceAs (Decidable (replaced = false))
  | .portalVanished old => inferInstanceAs (Decidable (old = ""))
  | .begun .. | .callStarted .. | .callFailed .. | .received .. | .held .. | .closeSent ..
  | .signal .. => isTrue trivial

lemma eq_of_grants {h p : String} {e : Event} (hgrants : e.Grants h p) :
    ∃ r results, e = .signal (.response p 0) (.requestCompleted h r results) := by
  match e with
  | .signal (.response p' r) (.requestCompleted h' r' results) =>
    obtain ⟨rfl, rfl, rfl⟩ := hgrants
    exact ⟨r', results, rfl⟩

namespace Tracker

variable {u : UniqueName} {s s' : Tracker} {a : Action} {h p : String}

/-- The request is kept with the path it was granted on, or it is gone and its handle is that
path; and the worker is not about to drop it. -/
structure KeptOpen (s : Tracker) (h p : String) : Prop where
  record : (∃ it, s.native.requests[h]? = some it ∧ it.path = p ∧ it.answered = true) ∨
    (s.native.requests[h]? = none ∧ p = h)
  calm : s.worker.isLosing = false

/-! ### Where a kept request is closed -/

/-- The handles returned by `begin_request` are object paths. -/
lemma isObjectPath_of_begun (hs : (machine u).Reachable s) (hmem : h ∈ begun s.history) :
    isObjectPath h = true := by
  induction hs with
  | init => cases hmem
  | step hr ha ih =>
    have hrule := Rule.of_step ha
    cases hrule.effect.failures with
    | begin k c haction hhistory =>
      obtain ⟨random, rfl⟩ := haction
      cases hrule with
      | beginRequest _ _ =>
        rcases List.mem_cons.mp hmem with rfl | hmem
        · exact isObjectPath_handleFor u _ random
        · exact ih hmem
    | add new hhistory hbegun hpending hfailed =>
      rw [hhistory, begun_append, hbegun] at hmem
      exact ih hmem

lemma closeRequestPath_of_keptOpen (hk : KeptOpen s h p) (hvalid : isObjectPath h = true) :
    s.native.closeRequestPath h = some p := by
  have hguard : ¬ (h.toList.head? ≠ some '/' ∨ ¬ isObjectPath h) := by
    rw [not_or, not_not, not_not]
    exact ⟨head_of_isObjectPath hvalid, hvalid⟩
  rw [closeRequestPath, if_neg hguard]
  rcases hk.record with ⟨it, hit, rfl, -⟩ | ⟨hnone, rfl⟩
  · simp only [hit]
  · simp only [hnone]

/-! ### The steps after the grant -/

lemma calm_step (hrule : Rule u s a s') (hcalm : s.worker.isLosing = false) {new : List Event}
    (hnew : s'.history = new ++ s.history) (hspares : ∀ e ∈ new, e.Spares h) :
    s'.worker.isLosing = false := by
  cases hrule.loss with
  | stay hworker => rw [hworker, hcalm]
  | done hidle =>
    rw [hidle]
    rfl
  | other hnot => exact hnot
  | appeared owner ha hold hseen hhistory htables =>
    rw [hhistory, ← List.singleton_append, List.append_left_inj] at hnew
    cases hspares (.portalAppeared s.native.portalOwner owner true)
      (by rw [← hnew]; exact List.mem_cons_self ..)
  | vanished hold hhistory htables =>
    rw [hhistory, ← List.singleton_append, List.append_left_inj] at hnew
    exact absurd (hspares (.portalVanished s.native.portalOwner)
      (by rw [← hnew]; exact List.mem_cons_self ..)) hold

/-- Dropping a request in flight: no reply has moved it from its handle. -/
lemma record_of_forget {n m : XdgPortalNative} {k : String} (hreg : ∀ it, n.requests[h]? = some it →
    k = h → it.path = h)
    (hrecord : (∃ it, n.requests[h]? = some it ∧ it.path = p ∧ it.answered = true) ∨
      (n.requests[h]? = none ∧ p = h))
    (htables : m.tables = (n.forgetRequestLocked k).tables) :
    (∃ it, m.requests[h]? = some it ∧ it.path = p ∧ it.answered = true) ∨
      (m.requests[h]? = none ∧ p = h) := by
  rw [requests_of_tables htables, requests_forget]
  split_ifs with hk
  · refine Or.inr ⟨rfl, ?_⟩
    rcases hrecord with ⟨it, hit, rfl, -⟩ | ⟨-, hp⟩
    · exact hreg it hit hk
    · exact hp
  · exact hrecord

lemma not_pending_of_kept (hk : KeptOpen s h p) : ¬ s.native.Pending h := by
  rintro ⟨it, hit, hans⟩
  rcases hk.record with ⟨it', hit', -, hans'⟩ | ⟨hnone, -⟩
  · cases hit.symm.trans hit'
    rw [hans] at hans'
    cases hans'
  · rw [hnone] at hit
    cases hit

/-- A kept request stays kept until it is closed or an owner changes. -/
theorem KeptOpen.step (hk : KeptOpen s h p) (hr : (machine u).Reachable s)
    (hstep : (machine u).step s a = some s') (honce : BegunOnce h s'.history)
    (hnamed : ∀ q, .callStarted h q ∈ s'.history → q = p) (hbegun : h ∈ begun s.history)
    {new : List Event} (hnew : s'.history = new ++ s.history) (hspares : ∀ e ∈ new, e.Spares h) :
    KeptOpen s' h p := by
  have hrule := Rule.of_step hstep
  refine ⟨?_, calm_step hrule hk.calm hnew hspares⟩
  -- a call that fails has not been replied to, so its request lives at its handle
  have hflight : ∀ k ∈ s.inFlight, ∀ it, s.native.requests[h]? = some it → k = h →
      it.path = h := by
    rintro k hmem it hit rfl
    have hnot := (counted_of_reachable hr).not_replied (begunOnce_of_step hstep honce) hmem
    rcases ((tabled_of_reachable hr).record k it hit).path.2 with hpath | hnamed
    · exact hpath
    · exact absurd (mem_replied.mpr (Or.inl ⟨_, hnamed⟩)) hnot
  cases hrule.effect with
  | quiet new hquiet hhistory htables =>
    rw [requests_of_tables htables]
    exact hk.record
  | register k c ha hhistory htables =>
    have hne : k ≠ h := by
      rintro rfl
      rw [hhistory] at honce
      exact honce.not_mem hbegun
    rw [requests_of_tables htables, requests_register, if_neg hne]
    exact hk.record
  | record k q hmem hne hhistory htables =>
    rw [requests_of_tables htables]
    by_cases hkh : h = k
    · subst hkh
      have hq : q = p := hnamed q (by rw [hhistory]; exact List.mem_cons_self ..)
      rw [recordPath_eq_self]
      · exact hk.record
      · intro q' hq'
        obtain ⟨it, hit, rfl⟩ := place_eq_some.mp hq'
        rcases hk.record with ⟨it', hit', hpath, -⟩ | ⟨hnone, -⟩
        · cases hit.symm.trans hit'
          exact Or.inr (hq.trans hpath.symm)
        · rw [hnone] at hit
          cases hit
    · rw [requests_recordPath_of_ne hkh]
      exact hk.record
  | drop k e hmem hsilent hhistory htables =>
    exact record_of_forget (hflight k hmem) hk.record htables
  | fail k m e it hmem ha hit herror hhistory htables =>
    exact record_of_forget (hflight k hmem) hk.record htables
  | grant k q r results it new hquiet hreceived hroute hit hpending hinhibit hr hcalm hhistory
      htables =>
    have hne : k ≠ h := by
      rintro rfl
      exact not_pending_of_kept hk ⟨it, hit, hpending⟩
    rw [requests_of_tables htables, requests_markAnswered, if_neg hne]
    exact hk.record
  | finish k q r results it new hquiet hreceived hroute hit hpending hend hhistory htables =>
    refine record_of_forget ?_ hk.record htables
    rintro it' hit' rfl
    exact absurd ⟨it, hit, hpending⟩ (not_pending_of_kept hk)
  | lose reason hlosing hhistory htables =>
    have hnot := hk.calm
    rw [isLosing_of_losing hlosing] at hnot
    cases hnot
  | close k hhistory htables =>
    refine record_of_forget ?_ hk.record htables
    rintro it hit rfl
    rw [hhistory, ← List.singleton_append, List.append_left_inj] at hnew
    exact absurd rfl (hspares (.closed k) (by rw [← hnew]; exact List.mem_cons_self ..))

/-! ### The grant -/

/-- A step that completes `h` for a Response finds the request waiting at the path. -/
lemma Effect.answered (heff : Effect s a s') {new : List Event}
    (hnew : s'.history = new ++ s.history) {r : UInt32} {r' : Int32} {results : Dictionary}
    (hmem : .signal (.response p r) (.requestCompleted h r' results) ∈ new) :
    ∃ it, s.native.route p = some h ∧ s.native.requests[h]? = some it ∧
      (it.isInhibit = true → r = 0 → s'.worker.isLosing = false ∧
        s'.native.requests[h]? = some { it with answered := true }) := by
  have hall : ∀ l, s'.history = l ++ s.history →
      .signal (.response p r) (.requestCompleted h r' results) ∈ l := by
    intro l hl
    rw [hl, List.append_left_inj] at hnew
    rwa [hnew]
  cases heff with
  | grant k q r results it new' hquiet hreceived hroute hit hpending hinhibit hr hcalm hhistory
      htables =>
    rcases hall _ hhistory with _ | ⟨_, hmem⟩
    · refine ⟨it, hroute, hit, fun _ _ => ⟨hcalm, ?_⟩⟩
      rw [requests_of_tables htables, requests_markAnswered, if_pos rfl]
    · exact absurd hmem (not_failed_of_quiet hquiet)
  | finish k q r results it new' hquiet hreceived hroute hit hpending hend hhistory htables =>
    rcases hall _ hhistory with _ | ⟨_, hmem⟩
    · exact ⟨it, hroute, hit, fun hinhibit hr => absurd ⟨hinhibit, hr⟩ hend⟩
    · exact absurd hmem (not_failed_of_quiet hquiet)
  | quiet new' hquiet hhistory htables =>
    exact absurd (hall new' hhistory) (not_failed_of_quiet hquiet)
  | lose reason hlosing hhistory htables =>
    cases (mem_failPendingRequests (hall _ hhistory)).1
  | fail k m e it hmem' ha hit herror hhistory htables =>
    have hnot := hall [_, _, _] hhistory
    simp at hnot
  | register k c ha hhistory htables =>
    have hnot := hall [_] hhistory
    simp at hnot
  | record k q hmem' hne hhistory htables =>
    have hnot := hall [_] hhistory
    simp at hnot
  | drop k e hmem' hsilent hhistory htables =>
    have hnot := hall [_] hhistory
    simp at hnot
  | close k hhistory htables =>
    have hnot := hall [_] hhistory
    simp at hnot

/-- The step that grants an inhibition keeps its record. -/
lemma keptOpen_of_grants (hr : (machine u).Reachable s) (hstep : (machine u).step s a = some s')
    (honce : BegunOnce h s'.history) (hinhibit : .begun h "Inhibit.Inhibit" ∈ s'.history)
    {new : List Event} (hnew : s'.history = new ++ s.history) {e : Event} (he : e ∈ new)
    (hgrants : e.Grants h p) : KeptOpen s' h p := by
  obtain ⟨r, results, rfl⟩ := eq_of_grants hgrants
  obtain ⟨it, hroute, hit, hkept⟩ := (Effect.of_step hstep).answered hnew he
  have hreg := (tabled_of_reachable hr).record h it hit
  -- the handle was begun once, as an inhibition
  have hcontext : it.context = "Inhibit.Inhibit" := by
    refine begun_unique honce ?_ hinhibit
    rw [hnew]
    exact List.mem_append_right _ hreg.begun
  have hflag : it.isInhibit = true := by
    rw [hreg.isInhibit, hcontext]
    exact beq_self_eq_true _
  have hpath : it.path = p := by
    have hplace := sound_of_reachable hr (begunOnce_of_step hstep honce) p hroute
    rw [place_of_record hit] at hplace
    exact Option.some.inj hplace
  obtain ⟨hcalm, hrecord⟩ := hkept hflag rfl
  exact ⟨Or.inl ⟨_, hrecord, hpath, rfl⟩, hcalm⟩

/-- Since its grant an inhibition is kept, until it is closed or an owner changes. -/
theorem keptOpen_of_reachable (hs : (machine u).Reachable s) (honce : BegunOnce h s.history)
    (hinhibit : .begun h "Inhibit.Inhibit" ∈ s.history)
    (hnamed : ∀ q, .callStarted h q ∈ s.history → q = p)
    (hgranted : Since (Event.Spares h) (Event.Grants h p) s.history) : KeptOpen s h p := by
  induction hs with
  | init => exact hgranted.elim
  | step hr ha ih =>
    obtain ⟨new, hnew⟩ := (Effect.of_step ha).history
    rw [hnew] at hgranted
    rcases hgranted.append_or with ⟨e, he, hgrants⟩ | ⟨hspares, hbefore⟩
    · exact keptOpen_of_grants hr ha honce hinhibit hnew he hgrants
    · -- the handle was begun before it was granted, so as the inhibition it is
      obtain ⟨e, he, hgrants⟩ := hbefore.exists_mem
      obtain ⟨r, results, rfl⟩ := eq_of_grants hgrants
      have hbegun := begun_of_completed hr
        (List.mem_map_of_mem (List.mem_filterMap.mpr ⟨_, he, rfl⟩))
      obtain ⟨c, hc⟩ := mem_begun.mp hbegun
      have hsame : c = "Inhibit.Inhibit" := by
        refine begun_unique honce ?_ hinhibit
        rw [hnew]
        exact List.mem_append_right _ hc
      rw [hsame] at hc
      have hkept := ih (begunOnce_of_step ha honce) hc (fun q hq => hnamed q (by
        rw [hnew]
        exact List.mem_append_right _ hq)) hbefore
      exact hkept.step hr ha honce hnamed hbegun hnew hspares

/-- A granted inhibition is closed on the path it was granted on. -/
theorem granted_closed_on_path (hs : (machine u).Reachable s) (honce : BegunOnce h s.history)
    (hinhibit : .begun h "Inhibit.Inhibit" ∈ s.history)
    (hnamed : ∀ q, .callStarted h q ∈ s.history → q = p)
    (hgranted : Since (Event.Spares h) (Event.Grants h p) s.history) :
    ∃ s', (machine u).step s (.closeLookup h) = some s' ∧
      s'.history = .closeSent h p :: s.history := by
  have hkept := keptOpen_of_reachable hs honce hinhibit hnamed hgranted
  have hvalid := isObjectPath_of_begun hs (mem_begun.mpr ⟨_, hinhibit⟩)
  have hpath := closeRequestPath_of_keptOpen hkept hvalid
  refine ⟨{ s with closing := h :: s.closing, history := .closeSent h p :: s.history }, ?_, rfl⟩
  simp only [machine, step, hpath]

/-- A grant on another path than the handle, before the reply names it, and a close that fails. -/
theorem granted_closed_on_path_early : ∃ s,
    (machine client).exec (machine client).init
      [.beginRequest 7 "Inhibit.Inhibit", .requestResponse otherPath 0 [], .resume,
        .callStarted firstHandle.val otherPath, .resume, .closeLookup firstHandle.val,
        .closeFailed firstHandle.val (some timedOut)] = some s ∧
    ∃ s', (machine client).step s (.closeLookup firstHandle.val) = some s' ∧
      s'.history = .closeSent firstHandle.val otherPath.val :: s.history := by
  obtain ⟨s, hs, honce, hbegun, hnamed, hgranted⟩ := (machine client).exists_exec_of_any
    (machine client).init
    [.beginRequest 7 "Inhibit.Inhibit", .requestResponse otherPath 0 [], .resume,
      .callStarted firstHandle.val otherPath, .resume, .closeLookup firstHandle.val,
      .closeFailed firstHandle.val (some timedOut)]
    (P := fun s => BegunOnce firstHandle.val s.history ∧
      (firstHandle.val, "Inhibit.Inhibit") ∈ contexts s.history ∧
      (∀ x ∈ named s.history, x.2 = otherPath.val) ∧
      Since (Event.Spares firstHandle.val) (Event.Grants firstHandle.val otherPath.val) s.history)
    (by decide +kernel)
  refine ⟨s, hs, granted_closed_on_path (Machine.reachable_of_exec hs) honce
    (mem_contexts.mp hbegun) ?_ hgranted⟩
  intro q hq
  exact hnamed (firstHandle.val, q) (mem_named.mpr hq)

end Tracker

end XdgPortals
