import XdgPortals.Tracker.Life

/-!
# How often a request is completed

A granted inhibition stays in the request map after its completion. Responses and the loss of the
portal pass over it, but a failed call completes whatever request it finds. That is the only way
to complete a handle twice.
-/

namespace XdgPortals

open XdgPortalNative

namespace Tracker

variable {u : UniqueName} {s s' : Tracker} {a : Action}

/-- A failed call finds no request that has been answered, unless it was cancelled. -/
def SparesAnswered (s : Tracker) : Action → Prop
  | .callFailed h e =>
    isCancelled e = true ∨ ∀ it, s.native.requests[h]? = some it → it.answered = false
  | _ => True

/-- No handle has been completed more often than begun, counting what is still due. -/
def DueOnce (s : Tracker) : Prop :=
  ∀ h, (s.native.life h).due (turns h s.history) ≤ (turns h s.history).count .begun

lemma not_failsAnswered (hspare : SparesAnswered s a) (h : String) : ¬ FailsAnswered s a h := by
  rintro ⟨hlife, e, rfl, he⟩
  obtain ⟨it, hit, hans⟩ := life_eq_granted.mp hlife
  rcases hspare with hc | hun
  · rw [he] at hc
    cases hc
  · rw [hun it hit] at hans
    cases hans

lemma exists_failsAnswered (hspare : ¬ SparesAnswered s a) : ∃ h, FailsAnswered s a h := by
  cases a with
  | callFailed h e =>
    simp only [SparesAnswered, not_or, not_forall, Bool.not_eq_true, Bool.not_eq_false] at hspare
    obtain ⟨he, it, hit, hans⟩ := hspare
    exact ⟨h, life_eq_granted.mpr ⟨it, hit, hans⟩, e, rfl, he⟩
  | _ => exact absurd trivial hspare

lemma DueOnce.step (hspare : SparesAnswered s a) (hd : DueOnce s)
    (hstep : (machine u).step s a = some s') : DueOnce s' := by
  intro h
  obtain ⟨t, hturns, hlife⟩ := (Effect.of_step hstep).life h
  rw [hturns]
  exact hlife.due_le (not_failsAnswered hspare h) (hd h)

lemma DueOnce.completed_nodup (hd : DueOnce s) (hdistinct : (begun s.history).Nodup) :
    (completed s.history).Nodup := by
  rw [List.nodup_iff_count] at hdistinct ⊢
  intro h
  have hdue := hd h
  rw [Life.due, count_completed_turns, count_begun_turns] at hdue
  have := hdistinct h
  omega

/-- A run only adds completions. -/
lemma completed_suffix {as : List Action} (hrun : (machine u).exec s as = some s') :
    completed s.history <:+ completed s'.history := by
  refine Machine.exec_preserves (P := fun r => completed s.history <:+ completed r.history)
    (fun r b r' hr hb => ?_) (List.suffix_refl _) hrun
  obtain ⟨new, hnew⟩ := (Effect.of_step hb).history
  rw [hnew, completed_append]
  exact hr.trans (List.suffix_append _ _)

/-- The step that fails the call of an answered request completes it again. -/
lemma completed_twice_of_failsAnswered (hs : (machine u).Reachable s) {h : String}
    (hfails : FailsAnswered s a h) (hstep : (machine u).step s a = some s') :
    ¬ (completed s'.history).Nodup := by
  obtain ⟨hlife, e, rfl, he⟩ := hfails
  have hbefore : h ∈ completed s.history := by
    rw [← List.count_pos_iff, ← count_completed_turns, List.count_pos_iff]
    exact (consistent_of_reachable hs h).granted hlife
  obtain ⟨it, hit, hans⟩ := life_eq_granted.mp hlife
  cases Rule.of_step hstep with
  | callFailed _ _ hidle hmem =>
    obtain ⟨message, hsignals⟩ := onCallFailed_signals hit he
    have hcompleted : completed (signalled .callFailed (s.native.onCallFailed h e).2
        (.callFailed h e :: s.history)) = h :: completed s.history := by
      simp [hsignals, signalled, completed_cons, Event.completion?]
    rw [hcompleted, List.nodup_cons]
    exact fun hn => hn.1 hbefore

/-- Over a run, every handle is completed at most once exactly when no call fails, other than by
being cancelled, while its request is kept as answered. -/
theorem completed_nodup_iff {as : List Action}
    (hrun : (machine u).exec (machine u).init as = some s)
    (hdistinct : (begun s.history).Nodup) :
    (completed s.history).Nodup ↔ (machine u).Along SparesAnswered (machine u).init as := by
  constructor
  · intro hnodup
    by_contra hnot
    obtain ⟨as₁, a, as₂, r, rfl, hr, ha⟩ := Machine.exists_of_not_along hnot
    obtain ⟨r', hr', hrest⟩ := (machine u).exec_append_eq_some.mp hrun
    cases hr.symm.trans hr'
    obtain ⟨r₁, hstep, hrest⟩ := (machine u).exec_cons_eq_some.mp hrest
    obtain ⟨h, hfails⟩ := exists_failsAnswered ha
    exact completed_twice_of_failsAnswered (Machine.reachable_of_exec hr) hfails hstep
      (hnodup.sublist (completed_suffix hrest).sublist)
  · intro halong
    have hinit : DueOnce (machine u).init := fun h => by simp [machine, life, Life.due]
    exact (Machine.exec_induction (P := DueOnce)
      (fun _ _ _ hC hd hb => hd.step hC hb) halong hinit hrun).completed_nodup hdistinct

/-- An inhibition is granted before its call times out: its handle is completed twice. -/
theorem completed_twice : ∃ s,
    (machine client).exec (machine client).init
      [.beginRequest 7 "Inhibit.Inhibit", .requestResponse firstHandle 0 [], .resume,
        .callFailed firstHandle.val (some timedOut)] = some s ∧
    (begun s.history).Nodup ∧ completed s.history = [firstHandle.val, firstHandle.val] :=
  Machine.exists_exec_of_any _ _ _ (by decide +kernel)

/-- The equivalence on a run that grants one inhibition. -/
theorem completed_nodup_iff_granted : ∃ s,
    (machine client).exec (machine client).init
      [.beginRequest 7 "Inhibit.Inhibit", .requestResponse firstHandle 0 [], .resume] = some s ∧
    ((completed s.history).Nodup ↔ (machine client).Along SparesAnswered (machine client).init
      [.beginRequest 7 "Inhibit.Inhibit", .requestResponse firstHandle 0 [], .resume]) := by
  obtain ⟨s, hs, hdistinct⟩ := (machine client).exists_exec_of_any
    (machine client).init
    [.beginRequest 7 "Inhibit.Inhibit", .requestResponse firstHandle 0 [], .resume]
    (P := fun s => (begun s.history).Nodup) (by decide +kernel)
  exact ⟨s, hs, completed_nodup_iff hs hdistinct⟩

end Tracker

end XdgPortals
