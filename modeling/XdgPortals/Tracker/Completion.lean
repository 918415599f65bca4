import XdgPortals.Tracker.Routing

/-!
# No request is left behind

The requests the tracker waits for are exactly those that were begun and since then neither
completed nor closed, and each of them can be completed by whatever comes next: its Response, the
failure of its call, the loss of the portal.
-/

namespace XdgPortals

open XdgPortalNative

/-- The request was begun, has not been completed, and since then it has not been closed. -/
def Waiting (history : List Event) (h : String) : Prop :=
  ∃ later context earlier, history = later ++ .begun h context :: earlier ∧
    h ∉ completed history ∧ .closed h ∉ later

/-- The reply to a call that was cancelled, as teardown does. -/
def Event.cancelledCall : Event → Bool
  | .callFailed _ e => isCancelled e
  | _ => false

section Turns

variable {h : String} {es : List Event}

lemma mem_turns {t : Turn} : t ∈ turns h es ↔ ∃ e ∈ es, e.TurnOf h t := by
  rw [turns, List.mem_filterMap]
  constructor
  · rintro ⟨e, he, ht⟩
    exact ⟨e, he, Event.turnOf_of_turn? ht⟩
  · rintro ⟨e, he, ht⟩
    exact ⟨e, he, ht.turn?⟩

lemma closed_mem_turns : .closed ∈ turns h es ↔ .closed h ∈ es := by
  rw [mem_turns]
  constructor
  · rintro ⟨e, he, ⟨⟩⟩
    exact he
  · intro hc
    exact ⟨_, hc, .closed⟩

end Turns

/-- The latest thing that happened to a handle is its begin exactly when it waits. -/
theorem head_turns_eq_begun {h : String} {es : List Event} (hdistinct : (begun es).Nodup)
    (hcancel : ∀ e ∈ es, e.cancelledCall = false)
    (hcompleted : Justified (fun t ts => t = .completed → .begun ∈ ts) (turns h es)) :
    (turns h es).head? = some .begun ↔ Waiting es h := by
  -- around a begin of `h` there is no other one
  have honce : ∀ later c earlier, es = later ++ .begun h c :: earlier →
      h ∉ begun later ∧ h ∉ begun earlier := by
    rintro later c earlier rfl
    rw [begun_append, begun_cons, List.nodup_append] at hdistinct
    refine ⟨fun hb => hdistinct.2.2 h hb h (List.mem_cons_self ..) rfl, ?_⟩
    exact (List.nodup_cons.mp hdistinct.2.1).1
  constructor
  · intro hhead
    obtain ⟨ts, hts⟩ := List.head?_eq_some_iff.mp hhead
    obtain ⟨later, e, earlier, rfl, hlater, hturn, rfl⟩ := List.filterMap_eq_cons_iff.mp hts
    have hlater : turns h later = [] := List.filterMap_eq_nil_iff.mpr hlater
    obtain ⟨c⟩ := Event.turnOf_of_turn? hturn
    rw [hts] at hcompleted
    refine ⟨later, c, earlier, rfl, ?_, ?_⟩
    · -- a completion before the begin would have followed another begin
      rw [← completed_mem_turns, hts]
      rintro (_ | ⟨_, hc⟩)
      obtain ⟨ts₁, ts₂, heq⟩ := List.append_of_mem hc
      have hbegun := (Justified.iff_forall _).mp hcompleted.2 ts₁ .completed ts₂ heq rfl
      have hmem : .begun ∈ turns h earlier := by
        rw [turns, heq]
        exact List.mem_append_right _ (List.mem_cons_of_mem _ hbegun)
      exact (honce later c earlier rfl).2 (begun_mem_turns.mp hmem)
    · rw [← closed_mem_turns, hlater]
      exact List.not_mem_nil
  · rintro ⟨later, c, earlier, rfl, hnot, hclosed⟩
    have hlater : turns h later = [] := by
      rw [turns, List.filterMap_eq_nil_iff]
      intro e he
      rw [Option.eq_none_iff_forall_ne_some]
      intro t ht
      cases Event.turnOf_of_turn? ht with
      | begun context => exact (honce later c earlier rfl).1 (mem_begun.mpr ⟨context, he⟩)
      | completed cause r results =>
        refine hnot (completed_mem_turns.mp (mem_turns.mpr ⟨_, ?_, .completed cause r results⟩))
        exact List.mem_append_left _ he
      | cancelled error herror =>
        have hnot := hcancel _ (List.mem_append_left _ he)
        rw [Event.cancelledCall, herror] at hnot
        cases hnot
      | closed => exact hclosed he
    rw [turns_append, hlater, turns_cons]
    simp [Event.turn?]

namespace Tracker

variable {u : UniqueName} {s s' : Tracker} {a : Action}

/-- The requests waited for are those that were begun and neither completed nor closed. -/
theorem pending_iff_waiting (hs : (machine u).Reachable s) (hdistinct : (begun s.history).Nodup)
    (hcancel : ∀ e ∈ s.history, e.cancelledCall = false) (h : String) :
    s.native.Pending h ↔ Waiting s.history h := by
  have hc := consistent_of_reachable hs h
  rw [← life_eq_pending, hc.pending]
  exact head_turns_eq_begun hdistinct hcancel hc.completed

/-! ### What completes a request -/

/-- A Response on the path of a waiting request completes it. -/
lemma Delivered.completions {h path : String} {r : UInt32} {results : Dictionary} {t : Tracker}
    {delivered : Bool} (hd : Delivered s path r results t delivered)
    (hroute : s.native.route path = some h) (hpending : s.native.Pending h) :
    completions t.history = (h, r.toInt32, results) :: completions s.history := by
  cases hd with
  | missed hr => cases hroute.symm.trans hr
  | ignored handle hr hdone =>
    cases hroute.symm.trans hr
    exact absurd hpending hdone
  | granted handle it hr =>
    cases hroute.symm.trans hr
    rfl
  | finished handle it hr =>
    cases hroute.symm.trans hr
    rfl

lemma completions_onCallFailed {h : String} {e : Option GError} {it : Request} {es : List Event}
    (hit : s.native.requests[h]? = some it) (he : isCancelled e = false) :
    completions (signalled .callFailed (s.native.onCallFailed h e).2
      (.callFailed h e :: es)) = (h, responseOther.toInt32, []) :: completions es := by
  obtain ⟨message, hsignals⟩ := onCallFailed_signals hit he
  simp [hsignals, signalled, completions_cons, Event.completion?]

/-- Losing the portal completes every waiting request. -/
lemma mem_completions_failPending {h : String} (hpending : s.native.Pending h) (reason : String) :
    (h, responseOther.toInt32, []) ∈ completions (s.failPending reason).history := by
  obtain ⟨it, hit, hans⟩ := hpending
  have hmem : Signal.requestCompleted h responseOther.toInt32 [] ∈
      (s.native.failPendingRequests reason).2 := by
    rw [failPendingRequests, List.mem_flatMap]
    exact ⟨(h, it), mem_pendingRequests.mpr ⟨hit, hans⟩, by simp⟩
  rw [completions, List.mem_filterMap]
  refine ⟨.signal .portalLost (.requestCompleted h responseOther.toInt32 []), ?_, rfl⟩
  simp only [failPending, signalled, List.mem_append, List.mem_reverse, List.mem_map]
  exact Or.inl ⟨_, hmem, rfl⟩

/-- The requests the tracker waits for are those that were begun and neither completed nor closed.
The path of each leads to it, and its next Response, the failure of its call and the loss of the
portal all complete it. -/
theorem no_request_stranded (hs : (machine u).Reachable s) (hdistinct : (begun s.history).Nodup)
    (hunshared : Unshared s.history)
    (hcancel : ∀ e ∈ s.history, e.cancelledCall = false) (h : String) :
    (s.native.Pending h ↔ Waiting s.history h) ∧
    ∀ it : Request, s.native.requests[h]? = some it → it.answered = false →
      s.native.requestPaths[it.path]? = some h ∧
      (s.worker.isIdle → ∀ (path : ObjectPath) (r : UInt32) (results : Dictionary),
        path.val = it.path →
        ∃ s', (machine u).step s (.requestResponse path r results) = some s' ∧
          completions s'.history =
            (h, r.toInt32, results) :: completions s.history) ∧
      (s.worker.isIdle → h ∈ s.inFlight → ∀ e, isCancelled e = false →
        ∃ s', (machine u).step s (.callFailed h e) = some s' ∧
          completions s'.history =
            (h, responseOther.toInt32, []) :: completions s.history) ∧
      ∀ reason, Losing s.worker reason →
        ∃ s', (machine u).step s .resume = some s' ∧
          (h, responseOther.toInt32, []) ∈ completions s'.history := by
  refine ⟨pending_iff_waiting hs hdistinct hcancel h, fun it hit hans => ?_⟩
  have hroute := (route_iff_place_of_unshared hs hdistinct hunshared it.path h).mpr
    (place_of_record hit)
  refine ⟨hroute, ?_, ?_, ?_⟩
  · intro hidle path r results hpath
    refine ⟨_, if_pos hidle, ?_⟩
    rw [← hpath] at hroute
    exact (Delivered.of_deliver rfl).completions hroute ⟨it, hit, hans⟩
  · intro hidle hmem e he
    exact ⟨_, if_pos ⟨hidle, hmem⟩, completions_onCallFailed hit he⟩
  · intro reason hlosing
    exact ⟨_, step_resume_lost hlosing, mem_completions_failPending ⟨it, hit, hans⟩ reason⟩

/-- A request whose reply named another path than the predicted one. -/
theorem no_request_stranded_rekeyed : ∃ s,
    (machine client).exec (machine client).init
      [.beginRequest 7 "OpenURI.OpenURI", .callStarted firstHandle.val otherPath, .resume] =
        some s ∧
    s.native.Pending firstHandle.val ∧ Waiting s.history firstHandle.val ∧
    s.native.requestPaths[otherPath.val]? = some firstHandle.val := by
  obtain ⟨s, hs, hplace, hlife, hdistinct, hunshared, hcancel⟩ :=
    (machine client).exists_exec_of_any (machine client).init
    [.beginRequest 7 "OpenURI.OpenURI", .callStarted firstHandle.val otherPath, .resume]
    (P := fun s => s.native.place firstHandle.val = some otherPath.val ∧
      s.native.life firstHandle.val = .pending ∧ (begun s.history).Nodup ∧ Unshared s.history ∧
      ∀ e ∈ s.history, e.cancelledCall = false) (by decide +kernel)
  obtain ⟨hiff, hnext⟩ := no_request_stranded (Machine.reachable_of_exec hs) hdistinct hunshared
    hcancel firstHandle.val
  have hpending := life_eq_pending.mp hlife
  obtain ⟨it, hit, hpath⟩ := place_eq_some.mp hplace
  obtain ⟨it', hit', hans⟩ := hpending
  cases hit.symm.trans hit'
  refine ⟨s, hs, ⟨it, hit, hans⟩, hiff.mp ⟨it, hit, hans⟩, ?_⟩
  rw [← hpath]
  exact (hnext it hit hans).1

end Tracker

end XdgPortals
