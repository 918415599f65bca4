import Mathlib.Data.Option.Basic
import Mathlib.Data.List.Basic

/-!
# Runs of a partial step function

A machine is an initial state and a step function that answers `none` where an action is not
enabled. The induction rules are stated once for every machine: along a run whose steps meet a
condition, and over the reachable states under a hypothesis that is closed under going back in
time.
-/

universe u v

/-- An initial state and a partial step function. -/
structure Machine (S : Type u) (A : Type v) where
  init : S
  step : S → A → Option S

namespace Machine

variable {S : Type u} {A : Type v} (M : Machine S A)

/-- Perform the actions in order; `none` as soon as one of them is not enabled. -/
def exec (s : S) : List A → Option S
  | []      => some s
  | a :: as => (M.step s a).bind fun s' => exec s' as

/-- The states reached from the initial one by enabled actions. -/
inductive Reachable : S → Prop where
  | init : Reachable M.init
  | step {s s' : S} {a : A} : Reachable s → M.step s a = some s' → Reachable s'

/-- Every step of the run of `as` from `s` meets the condition `C`. -/
def Along (C : S → A → Prop) : S → List A → Prop
  | _, []      => True
  | s, a :: as => C s a ∧ ∀ s', M.step s a = some s' → Along C s' as

/-! ### Composing runs -/

@[simp] lemma exec_nil (s : S) : M.exec s [] = some s := rfl

lemma exec_cons (s : S) (a : A) (as : List A) :
    M.exec s (a :: as) = (M.step s a).bind fun s' => M.exec s' as := rfl

lemma exec_cons_eq_some {s t : S} {a : A} {as : List A} :
    M.exec s (a :: as) = some t ↔ ∃ s', M.step s a = some s' ∧ M.exec s' as = some t := by
  rw [exec_cons, Option.bind_eq_some_iff]

lemma exec_append_eq_some {s t : S} {as bs : List A} :
    M.exec s (as ++ bs) = some t ↔ ∃ r, M.exec s as = some r ∧ M.exec r bs = some t := by
  induction as generalizing s with
  | nil => simp
  | cons a as ih =>
    simp only [List.cons_append, exec_cons_eq_some, ih]
    constructor
    · rintro ⟨s', ha, r, has, hbs⟩
      exact ⟨r, ⟨s', ha, has⟩, hbs⟩
    · rintro ⟨r, ⟨s', ha, has⟩, hbs⟩
      exact ⟨s', ha, r, has, hbs⟩

lemma along_cons_of_none {C : S → A → Prop} {s : S} {a : A} {as : List A}
    (h : M.step s a = none) : M.Along C s (a :: as) ↔ C s a := by
  simp [Along, h]

lemma along_cons_of_some {C : S → A → Prop} {s s' : S} {a : A} {as : List A}
    (h : M.step s a = some s') : M.Along C s (a :: as) ↔ C s a ∧ M.Along C s' as := by
  simp [Along, h]

instance decidableAlong {C : S → A → Prop} [hC : ∀ s a, Decidable (C s a)] :
    ∀ s as, Decidable (M.Along C s as)
  | _, []      => isTrue trivial
  | s, a :: as =>
    match h : M.step s a with
    | none    => decidable_of_iff (C s a) (M.along_cons_of_none h).symm
    | some s' =>
      have : Decidable (M.Along C s' as) := @decidableAlong C hC s' as
      decidable_of_iff (C s a ∧ M.Along C s' as) (M.along_cons_of_some h).symm

lemma Along.of_append {C : S → A → Prop} {s : S} {as bs : List A} (h : M.Along C s (as ++ bs)) :
    M.Along C s as := by
  induction as generalizing s with
  | nil => trivial
  | cons a as ih => exact ⟨h.1, fun s' ha => ih (h.2 s' ha)⟩

lemma along_of_forall {C : S → A → Prop} {s : S} {as : List A} (h : ∀ a ∈ as, ∀ s, C s a) :
    M.Along C s as := by
  induction as generalizing s with
  | nil => trivial
  | cons a as ih =>
    rw [List.forall_mem_cons] at h
    exact ⟨h.1 s, fun s' _ => ih h.2⟩

/-- What a run on fixed actions ends in can be evaluated. -/
lemma exists_exec_of_any (s : S) (as : List A) {P : S → Prop} [DecidablePred P]
    (h : (M.exec s as).any (fun t => decide (P t)) = true) :
    ∃ t, M.exec s as = some t ∧ P t := by
  cases ht : M.exec s as with
  | none => simp [ht] at h
  | some t => exact ⟨t, rfl, by simpa [ht] using h⟩

variable {M}

lemma Reachable.exec {s t : S} {as : List A} (hs : M.Reachable s) (h : M.exec s as = some t) :
    M.Reachable t := by
  induction as generalizing s with
  | nil =>
    cases h
    exact hs
  | cons a as ih =>
    obtain ⟨s', ha, has⟩ := M.exec_cons_eq_some.mp h
    exact ih (hs.step ha) has

lemma reachable_of_exec {t : S} {as : List A} (h : M.exec M.init as = some t) : M.Reachable t :=
  Reachable.init.exec h

/-! ### Induction rules -/

/-- What goes back over one step goes back over a run. -/
lemma exec_back {H : S → Prop} (hback : ∀ s a s', M.step s a = some s' → H s' → H s)
    {s t : S} {as : List A} (h : M.exec s as = some t) (hH : H t) : H s := by
  induction as generalizing s with
  | nil =>
    cases h
    exact hH
  | cons a as ih =>
    obtain ⟨s', ha, has⟩ := M.exec_cons_eq_some.mp h
    exact hback s a s' ha (ih has)

/-- What every step meeting `C` preserves holds at the end of a run that meets `C`. A hypothesis
`H` on the end that goes back over each step is available on the way. -/
theorem exec_induction_back {C : S → A → Prop} {H P : S → Prop}
    (hback : ∀ s a s', M.step s a = some s' → H s' → H s)
    (hstep : ∀ s a s', C s a → H s' → P s → M.step s a = some s' → P s')
    {s t : S} {as : List A} (hC : M.Along C s as) (hs : P s) (h : M.exec s as = some t)
    (hH : H t) : P t := by
  induction as generalizing s with
  | nil =>
    cases h
    exact hs
  | cons a as ih =>
    obtain ⟨s', ha, has⟩ := M.exec_cons_eq_some.mp h
    exact ih (hC.2 s' ha) (hstep s a s' hC.1 (exec_back hback has hH) hs ha) has

theorem exec_induction {C : S → A → Prop} {P : S → Prop}
    (hstep : ∀ s a s', C s a → P s → M.step s a = some s' → P s')
    {s t : S} {as : List A} (hC : M.Along C s as) (hs : P s) (h : M.exec s as = some t) : P t :=
  exec_induction_back (H := fun _ => True) (fun _ _ _ _ _ => trivial)
    (fun s a s' hC _ => hstep s a s' hC) hC hs h trivial

/-- What every step preserves holds at the end of every run. -/
theorem exec_preserves {P : S → Prop} (hstep : ∀ s a s', P s → M.step s a = some s' → P s')
    {s t : S} {as : List A} (hs : P s) (h : M.exec s as = some t) : P t := by
  induction as generalizing s with
  | nil =>
    cases h
    exact hs
  | cons a as ih =>
    obtain ⟨s', ha, has⟩ := M.exec_cons_eq_some.mp h
    exact ih (hstep s a s' hs ha) has

/-- Invariants that need a hypothesis `H` on the run so far. `H` is closed under going back one
step, so it is available at every earlier state as well. -/
theorem Reachable.induction {H P : S → Prop} (hinit : P M.init)
    (hback : ∀ s a s', M.step s a = some s' → H s' → H s)
    (hstep : ∀ s a s', M.Reachable s → H s' → P s → M.step s a = some s' → P s')
    {s : S} (hs : M.Reachable s) (hH : H s) : P s := by
  induction hs with
  | init => exact hinit
  | step hr ha ih => exact hstep _ _ _ hr hH (ih (hback _ _ _ ha hH)) ha

/-- Conditions that say the same in every reachable state are met along the same runs. -/
lemma Reachable.along_iff {C C' : S → A → Prop}
    (hiff : ∀ s a, M.Reachable s → (C s a ↔ C' s a)) {s : S} {as : List A} (hs : M.Reachable s) :
    M.Along C s as ↔ M.Along C' s as := by
  induction as generalizing s with
  | nil => rfl
  | cons a as ih =>
    apply and_congr (hiff s a hs)
    apply forall_congr'
    intro s'
    apply imp_congr_right
    intro ha
    exact ih (hs.step ha)

/-- A run that misses the condition somewhere has a first part that ends in a state where the
next action misses it. -/
lemma exists_of_not_along {C : S → A → Prop} {s : S} {as : List A} (h : ¬ M.Along C s as) :
    ∃ as₁ a as₂ r, as = as₁ ++ a :: as₂ ∧ M.exec s as₁ = some r ∧ ¬ C r a := by
  induction as generalizing s with
  | nil => exact absurd trivial h
  | cons a as ih =>
    by_cases hC : C s a
    · simp only [Along, hC, true_and, not_forall] at h
      obtain ⟨s', hs', hn⟩ := h
      obtain ⟨as₁, b, as₂, r, rfl, hr, hb⟩ := ih hn
      exact ⟨a :: as₁, b, as₂, r, rfl, M.exec_cons_eq_some.mpr ⟨s', hs', hr⟩, hb⟩
    · exact ⟨[], a, as, s, rfl, rfl, hC⟩

end Machine
