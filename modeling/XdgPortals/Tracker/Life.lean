import XdgPortals.Tracker.Effects

/-!
# The life of one request

Seen from outside, a handle is begun, completed, cancelled and closed, and the tracker either
does not know it, waits for its answer, or keeps it after an answer that grants an inhibition.
`Life.Step` says how the two go together; every step of the tracker is such a step for each
handle.
-/

namespace XdgPortals

/-- What the tracker knows of a handle. -/
inductive Life where
  | absent
  | pending
  | granted
  deriving DecidableEq

/-- What happens to a handle. -/
inductive Turn where
  | begun
  | completed
  | cancelled
  | closed
  deriving DecidableEq

/-- The changes of a handle, with what happened to it, if anything. `again` says when a granted
request may be completed once more. -/
inductive Life.Step (again : Prop) : Life → Option Turn → Life → Prop where
  | keep (l : Life) : Step again l none l
  | lose : Step again .granted none .absent
  | begin (l : Life) : Step again l (some .begun) .pending
  | finish : Step again .pending (some .completed) .absent
  | grant : Step again .pending (some .completed) .granted
  | failAgain (h : again) : Step again .granted (some .completed) .absent
  | cancel (l : Life) : Step again l (some .cancelled) .absent
  | close (l : Life) : Step again l (some .closed) .absent

/-- How a handle's life follows from what happened to it, the latest first. -/
structure Life.Consistent (l : Life) (ts : List Turn) : Prop where
  pending : l = .pending ↔ ts.head? = some .begun
  granted : l = .granted → .completed ∈ ts
  absent : .begun ∉ ts → l = .absent
  completed : Justified (fun t es => t = .completed → .begun ∈ es) ts

namespace Life

variable {again : Prop} {l l' : Life} {t : Option Turn} {ts : List Turn}

lemma consistent_nil : Consistent .absent [] :=
  ⟨by simp, by simp, by simp, trivial⟩

lemma Consistent.begun_mem (hc : Consistent l ts) (hl : l ≠ .absent) : .begun ∈ ts := by
  by_contra hb
  exact hl (hc.absent hb)

theorem Step.consistent (h : Step again l t l') (hc : Consistent l ts) :
    Consistent l' (t.toList ++ ts) := by
  cases h with
  | keep l => exact hc
  | lose =>
    have hhead : ts.head? ≠ some .begun := fun hh => by
      have := hc.pending.mpr hh
      cases this
    exact ⟨by simpa using hhead, by simp, fun _ => rfl, hc.completed⟩
  | begin l => exact ⟨by simp, by simp, by simp, by simp, hc.completed⟩
  | finish =>
    exact ⟨by simp, by simp, fun _ => rfl, fun _ => hc.begun_mem (by simp), hc.completed⟩
  | grant =>
    have hb := hc.begun_mem (by simp)
    exact ⟨by simp, by simp, fun hn => absurd (List.mem_cons_of_mem _ hb) hn, fun _ => hb,
      hc.completed⟩
  | failAgain _ =>
    exact ⟨by simp, by simp, fun _ => rfl, fun _ => hc.begun_mem (by simp), hc.completed⟩
  | cancel l => exact ⟨by simp, by simp, fun _ => rfl, by simp, hc.completed⟩
  | close l => exact ⟨by simp, by simp, fun _ => rfl, by simp, hc.completed⟩

/-- The completions so far, and the one still owed to a request that waits. -/
def due (l : Life) (ts : List Turn) : ℕ := ts.count .completed + if l = .pending then 1 else 0

/-- Without second completions, a handle is not completed more often than begun. -/
theorem Step.due_le (h : Step again l t l') (hagain : ¬ again) (hd : l.due ts ≤ ts.count .begun) :
    l'.due (t.toList ++ ts) ≤ (t.toList ++ ts).count .begun := by
  unfold due at hd ⊢
  cases h with
  | failAgain h => exact absurd h hagain
  | keep l => exact hd
  | lose => simpa using hd
  | begin l =>
    simp only [Option.toList_some, List.singleton_append, List.count_cons_self]
    rw [List.count_cons_of_ne (by simp), if_pos trivial]
    omega
  | finish => simpa using hd
  | grant => simpa using hd
  | cancel l =>
    simp only [Option.toList_some, List.singleton_append]
    rw [List.count_cons_of_ne (by simp), List.count_cons_of_ne (by simp), if_neg (by simp)]
    omega
  | close l =>
    simp only [Option.toList_some, List.singleton_append]
    rw [List.count_cons_of_ne (by simp), List.count_cons_of_ne (by simp), if_neg (by simp)]
    omega

end Life

/-! ### The turns in a history -/

/-- What an event means for the handle `h`. -/
def Event.turn? (h : String) : Event → Option Turn
  | .begun h' _ => if h' = h then some .begun else none
  | .callFailed h' e =>
    if h' = h ∧ XdgPortalNative.isCancelled e = true then some .cancelled else none
  | .closed h' => if h' = h then some .closed else none
  | .signal _ (.requestCompleted h' _ _) => if h' = h then some .completed else none
  | _ => none

/-- The events that mean something for the handle `h`. -/
inductive Event.TurnOf (h : String) : Event → Turn → Prop where
  | begun (context : String) : TurnOf h (.begun h context) .begun
  | completed (cause : Cause) (r : Int32) (results : Dictionary) :
      TurnOf h (.signal cause (.requestCompleted h r results)) .completed
  | cancelled (e : Option GError) (he : XdgPortalNative.isCancelled e = true) :
      TurnOf h (.callFailed h e) .cancelled
  | closed : TurnOf h (.closed h) .closed

lemma Event.turnOf_of_turn? {h : String} {e : Event} {t : Turn} (ht : e.turn? h = some t) :
    e.TurnOf h t := by
  cases e with
  | begun h' c =>
    obtain ⟨rfl, hb⟩ := Option.ite_none_right_eq_some.mp ht
    cases hb
    exact .begun c
  | callFailed h' e =>
    obtain ⟨⟨rfl, he⟩, hb⟩ := Option.ite_none_right_eq_some.mp ht
    cases hb
    exact .cancelled e he
  | closed h' =>
    obtain ⟨rfl, hb⟩ := Option.ite_none_right_eq_some.mp ht
    cases hb
    exact .closed
  | signal cause signal =>
    cases signal with
    | requestCompleted h' r d =>
      obtain ⟨rfl, hb⟩ := Option.ite_none_right_eq_some.mp ht
      cases hb
      exact .completed cause r d
    | _ => cases ht
  | _ => cases ht

lemma Event.TurnOf.turn? {h : String} {e : Event} {t : Turn} (ht : e.TurnOf h t) :
    e.turn? h = some t := by
  cases ht with
  | begun context => simp [Event.turn?]
  | completed cause r results => simp [Event.turn?]
  | cancelled e he => simp [Event.turn?, he]
  | closed => simp [Event.turn?]

/-- What happened to the handle `h`, the latest first. -/
def turns (h : String) (history : List Event) : List Turn := history.filterMap (Event.turn? h)

section Turns

variable (h : String)

@[simp] lemma turns_nil : turns h [] = [] := rfl

lemma turns_cons (e : Event) (es : List Event) :
    turns h (e :: es) = (e.turn? h).toList ++ turns h es := by
  unfold turns
  rw [List.filterMap_cons]
  cases e.turn? h <;> rfl

lemma turns_append (es es' : List Event) : turns h (es ++ es') = turns h es ++ turns h es' :=
  List.filterMap_append

lemma turn?_of_quiet {e : Event} (he : e.Quiet) : e.turn? h = none := by
  cases e with
  | signal cause signal => cases signal <;> simp_all [Event.Quiet, Event.turn?]
  | _ => simp_all [Event.Quiet, Event.turn?]

lemma turns_of_quiet {es : List Event} (hes : ∀ e ∈ es, e.Quiet) : turns h es = [] := by
  rw [turns, List.filterMap_eq_nil_iff]
  exact fun e he => turn?_of_quiet h (hes e he)

lemma count_begun_turn? (e : Event) :
    (e.turn? h).toList.count .begun = e.begun?.toList.count h := by
  cases e with
  | signal cause signal =>
    cases signal with
    | requestCompleted h' r d => simp only [Event.turn?, Event.begun?]; split_ifs <;> simp
    | _ => rfl
  | begun h' c => by_cases hh : h' = h <;> simp [Event.turn?, Event.begun?, hh]
  | callFailed h' e => simp only [Event.turn?, Event.begun?]; split_ifs <;> simp
  | closed h' => simp only [Event.turn?, Event.begun?]; split_ifs <;> simp
  | _ => rfl

lemma count_completed_turn? (e : Event) :
    (e.turn? h).toList.count .completed = (e.completion?.map Prod.fst).toList.count h := by
  cases e with
  | signal cause signal =>
    cases signal with
    | requestCompleted h' r d => by_cases hh : h' = h <;> simp [Event.turn?, Event.completion?, hh]
    | _ => rfl
  | begun h' c => simp only [Event.turn?, Event.completion?]; split_ifs <;> simp
  | callFailed h' e => simp only [Event.turn?, Event.completion?]; split_ifs <;> simp
  | closed h' => simp only [Event.turn?, Event.completion?]; split_ifs <;> simp
  | _ => rfl

lemma count_begun_turns (es : List Event) : (turns h es).count .begun = (begun es).count h := by
  induction es with
  | nil => rfl
  | cons e es ih =>
    rw [turns_cons, begun_cons, List.count_append, List.count_append, count_begun_turn?, ih]

lemma count_completed_turns (es : List Event) :
    (turns h es).count .completed = (completed es).count h := by
  induction es with
  | nil => rfl
  | cons e es ih =>
    rw [turns_cons, completed_cons, List.count_append, List.count_append, count_completed_turn?, ih]

variable {h} {es : List Event}

lemma completed_mem_turns : .completed ∈ turns h es ↔ h ∈ completed es := by
  rw [← List.count_pos_iff, count_completed_turns, List.count_pos_iff]

lemma begun_mem_turns : .begun ∈ turns h es ↔ h ∈ begun es := by
  rw [← List.count_pos_iff, count_begun_turns, List.count_pos_iff]

end Turns

/-! ### The life of a handle in the tracker -/

namespace XdgPortalNative

/-- What the request map says about the handle `h`. -/
def life (n : XdgPortalNative) (h : String) : Life :=
  match n.requests[h]? with
  | none    => .absent
  | some it => if it.answered then .granted else .pending

variable {n m : XdgPortalNative} {h k : String}

lemma life_congr (hk : n.requests[k]? = m.requests[k]?) : n.life k = m.life k := by
  simp only [life, hk]

lemma life_of_tables (ht : n.tables = m.tables) : n.life k = m.life k :=
  life_congr (by rw [requests_of_tables ht])

lemma life_of_none (hk : n.requests[k]? = none) : n.life k = .absent := by
  simp only [life, hk]

lemma life_of_some {it : Request} (hk : n.requests[k]? = some it) :
    n.life k = if it.answered then .granted else .pending := by
  simp only [life, hk]

lemma life_eq_pending : n.life h = .pending ↔ n.Pending h := by
  cases hit : n.requests[h]? with
  | none => simp [life, Pending, hit]
  | some it => cases hans : it.answered <;> simp [life, Pending, hit, hans]

lemma life_eq_granted :
    n.life h = .granted ↔ ∃ it, n.requests[h]? = some it ∧ it.answered = true := by
  cases hit : n.requests[h]? with
  | none => simp [life, hit]
  | some it => cases hans : it.answered <;> simp [life, hit, hans]

lemma life_register (c : String) :
    (n.register h c).life k = if h = k then .pending else n.life k := by
  split_ifs with hk
  · simp [life, hk]
  · exact life_congr (by simp [hk])

lemma life_forget :
    (n.forgetRequestLocked h).life k = if h = k then .absent else n.life k := by
  split_ifs with hk
  · exact life_of_none (by simp [hk])
  · exact life_congr (by simp [hk])

lemma life_recordPath (p : String) : (n.recordPath h p).life k = n.life k := by
  cases hit : n.requests[h]? with
  | none => simp only [recordPath, hit]
  | some it =>
    by_cases hp : p ≠ "" ∧ p ≠ it.path
    · by_cases hk : h = k
      · subst hk
        have hit' := requests_recordPath hit hp.1 hp.2 h
        rw [if_pos rfl] at hit'
        rw [life_of_some hit, life_of_some hit']
      · exact life_congr (by rw [requests_recordPath hit hp.1 hp.2, if_neg hk])
    · simp only [recordPath, hit, if_neg hp]

lemma life_markAnswered (it : Request) :
    (n.markAnswered h it).life k = if h = k then .granted else n.life k := by
  split_ifs with hk
  · simp [life, hk]
  · exact life_congr (by simp [hk])

/-- Losing the portal completes a handle exactly when its request waits. -/
lemma turns_failPendingRequests (reason : String) (es : List Event) :
    turns h (Tracker.signalled .portalLost (n.failPendingRequests reason).2 es) =
      (if n.life h = .pending then [.completed] else []) ++ turns h es := by
  have hsignals : turns h
      (((n.failPendingRequests reason).2.map (Event.signal .portalLost)).reverse) =
      List.replicate ((n.pendingRequests.map Prod.fst).count h) .completed := by
    rw [turns, List.filterMap_reverse, ← turns, failPendingRequests]
    induction n.pendingRequests with
    | nil => rfl
    | cons entry es ih =>
      rw [List.flatMap_cons, List.map_append, turns_append, List.reverse_append, ih]
      simp only [List.map_cons, List.map_nil, turns_cons, turns_nil, Event.turn?, List.count_cons]
      by_cases hentry : entry.1 = h <;> simp [hentry, List.replicate_succ']
  have hmem : h ∈ n.pendingRequests.map Prod.fst ↔ n.life h = .pending :=
    mem_map_pendingRequests.trans life_eq_pending.symm
  rw [Tracker.signalled, turns_append, hsignals, n.nodup_pendingRequests.count]
  simp only [hmem]
  split_ifs <;> rfl

end XdgPortalNative

namespace Tracker

open XdgPortalNative

variable {u : UniqueName} {s s' : Tracker} {a : Action}

/-- The step fails the call of a request that has been answered already. -/
def FailsAnswered (s : Tracker) (a : Action) (h : String) : Prop :=
  s.native.life h = .granted ∧ ∃ e, a = .callFailed h e ∧ isCancelled e = false

/-- Every step is a step in the life of each handle. -/
theorem Effect.life (heff : Effect s a s') (h : String) : ∃ t : Option Turn,
    turns h s'.history = t.toList ++ turns h s.history ∧
      Life.Step (FailsAnswered s a h) (s.native.life h) t (s'.native.life h) := by
  cases heff with
  | quiet new hquiet hhistory htables =>
    refine ⟨none, ?_, ?_⟩
    · rw [hhistory, turns_append, turns_of_quiet h hquiet]
      rfl
    · rw [life_of_tables htables]
      exact .keep _
  | register h' c ha hhistory htables =>
    refine ⟨Event.turn? h (.begun h' c), by rw [hhistory, turns_cons], ?_⟩
    rw [life_of_tables htables, life_register]
    simp only [Event.turn?]
    split_ifs
    · exact .begin _
    · exact .keep _
  | record h' p hmem hne hhistory htables =>
    refine ⟨none, by rw [hhistory, turns_cons]; rfl, ?_⟩
    rw [life_of_tables htables, life_recordPath]
    exact .keep _
  | drop h' e hmem hsilent hhistory htables =>
    refine ⟨Event.turn? h (.callFailed h' e), by rw [hhistory, turns_cons], ?_⟩
    rw [life_of_tables htables, life_forget]
    by_cases hh : h' = h
    · subst hh
      cases he : isCancelled e with
      | true => simpa [Event.turn?, he] using .cancel _
      | false =>
        have habsent := life_of_none (hsilent.resolve_right (by simp [he]))
        simpa [Event.turn?, he, habsent] using .keep _
    · simpa [Event.turn?, hh] using .keep _
  | fail h' message e it hmem ha hit herror hhistory htables =>
    refine ⟨if h' = h then some .completed else none, ?_, ?_⟩
    · rw [hhistory, turns_cons, turns_cons, turns_cons]
      simp [Event.turn?, herror]
    · rw [life_of_tables htables, life_forget]
      by_cases hh : h' = h
      · subst hh
        rw [if_pos rfl, if_pos rfl]
        cases hlife : s.native.life h' with
        | absent =>
          rw [life_of_some hit] at hlife
          split_ifs at hlife
        | pending => exact .finish
        | granted => exact .failAgain ⟨hlife, e, ha, herror⟩
      · rw [if_neg hh, if_neg hh]
        exact .keep _
  | grant h' p r results it new hquiet hreceived hroute hit hpending hinhibit hr hcalm hhistory
      htables =>
    refine ⟨if h' = h then some .completed else none, ?_, ?_⟩
    · rw [hhistory, List.cons_append, turns_cons, turns_append, turns_of_quiet h hquiet]
      rfl
    · rw [life_of_tables htables, life_markAnswered]
      split_ifs with hh
      · subst hh
        rw [life_of_some hit, hpending]
        exact .grant
      · exact .keep _
  | finish h' p r results it new hquiet hreceived hroute hit hpending hend hhistory htables =>
    refine ⟨if h' = h then some .completed else none, ?_, ?_⟩
    · rw [hhistory, List.cons_append, turns_cons, turns_append, turns_of_quiet h hquiet]
      rfl
    · rw [life_of_tables htables, life_forget]
      split_ifs with hh
      · subst hh
        rw [life_of_some hit, hpending]
        exact .finish
      · exact .keep _
  | lose reason hlosing hhistory htables =>
    refine ⟨if s.native.life h = .pending then some .completed else none, ?_, ?_⟩
    · rw [hhistory, turns_failPendingRequests]
      split_ifs <;> rfl
    · rw [life_of_tables htables, life_of_none (requests_clearRequests h)]
      cases hlife : s.native.life h with
      | absent => exact .keep _
      | pending => exact .finish
      | granted => exact .lose
  | close h' hhistory htables =>
    refine ⟨Event.turn? h (.closed h'), by rw [hhistory, turns_cons], ?_⟩
    rw [life_of_tables htables, life_forget]
    simp only [Event.turn?]
    split_ifs
    · exact .close _
    · exact .keep _

/-- In every reachable state the maps know of a handle what its history says. -/
theorem consistent_of_reachable (hs : (machine u).Reachable s) (h : String) :
    Life.Consistent (s.native.life h) (turns h s.history) := by
  induction hs with
  | init => simpa [machine, life] using Life.consistent_nil
  | step hr ha ih =>
    obtain ⟨t, hturns, hstep⟩ := (Effect.of_step ha).life h
    rw [hturns]
    exact hstep.consistent ih

/-- Only what was begun is completed. -/
lemma begun_of_completed (hs : (machine u).Reachable s) {h : String}
    (hmem : h ∈ completed s.history) : h ∈ begun s.history := by
  obtain ⟨later, earlier, heq⟩ := List.append_of_mem (completed_mem_turns.mpr hmem)
  have hj := (Justified.iff_forall _).mp (consistent_of_reachable hs h).completed
  rw [← begun_mem_turns, heq]
  exact List.mem_append_right _ (List.mem_cons_of_mem _ (hj later _ earlier heq rfl))

end Tracker

end XdgPortals
