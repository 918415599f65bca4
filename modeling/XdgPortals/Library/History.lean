import Mathlib.Data.List.Basic
import Mathlib.Tactic.Push

/-!
# Properties of histories

A history is the list of the events so far, the latest first. Two notions cover the statements
made about one: an event of some kind happened and nothing of another kind has happened
`Since`, and every event is `Justified` by the events before it.
-/

universe u

variable {E : Type u}

/-- Some event meets `q`, and every later one meets `p`. -/
def Since (p q : E → Prop) : List E → Prop
  | []      => False
  | e :: es => q e ∨ (p e ∧ Since p q es)

/-- Every event stands in the relation `Q` to the events before it. -/
def Justified (Q : E → List E → Prop) : List E → Prop
  | []      => True
  | e :: es => Q e es ∧ Justified Q es

namespace Since

variable {p q : E → Prop}

@[simp] lemma nil : ¬ Since p q [] := id

@[simp] lemma cons (e : E) (es : List E) : Since p q (e :: es) ↔ q e ∨ (p e ∧ Since p q es) :=
  Iff.rfl

instance decidable [DecidablePred p] [DecidablePred q] : ∀ h, Decidable (Since p q h)
  | []      => isFalse id
  | e :: es =>
    have := decidable es
    inferInstanceAs (Decidable (q e ∨ (p e ∧ Since p q es)))

/-- The reading with the history split at the event that meets `q`. -/
theorem iff_exists (h : List E) :
    Since p q h ↔ ∃ later e earlier, h = later ++ e :: earlier ∧ q e ∧ ∀ x ∈ later, p x := by
  induction h with
  | nil => simp
  | cons e es ih =>
    rw [cons, ih]
    constructor
    · rintro (hq | ⟨hp, later, x, earlier, rfl, hx, hlater⟩)
      · exact ⟨[], e, es, rfl, hq, by simp⟩
      · exact ⟨e :: later, x, earlier, rfl, hx, by simpa using ⟨hp, hlater⟩⟩
    · rintro ⟨later, x, earlier, heq, hx, hlater⟩
      cases later with
      | nil =>
        cases heq
        exact Or.inl hx
      | cons y later =>
        cases heq
        rw [List.forall_mem_cons] at hlater
        exact Or.inr ⟨hlater.1, later, x, earlier, rfl, hx, hlater.2⟩

/-- Events that all meet `p` leave what holds since an event as it is. -/
lemma append {es : List E} (hes : ∀ e ∈ es, p e) {h : List E} (hh : Since p q h) :
    Since p q (es ++ h) := by
  induction es with
  | nil => exact hh
  | cons e es ih =>
    rw [List.forall_mem_cons] at hes
    exact Or.inr ⟨hes.1, ih hes.2⟩

/-- Events of which none meets `q` cannot be the one looked for. -/
lemma of_append {es h : List E} (hes : ∀ e ∈ es, ¬ q e) (hh : Since p q (es ++ h)) :
    (∀ e ∈ es, p e) ∧ Since p q h := by
  induction es with
  | nil => exact ⟨by simp, hh⟩
  | cons e es ih =>
    rw [List.forall_mem_cons] at hes
    rcases hh with hq | ⟨hp, hh⟩
    · exact absurd hq hes.1
    · obtain ⟨hall, hh⟩ := ih hes.2 hh
      exact ⟨by simpa using ⟨hp, hall⟩, hh⟩

/-- The event looked for is among the new ones, or it was there before and nothing new gets in its
way. -/
lemma append_or {es h : List E} (hh : Since p q (es ++ h)) :
    (∃ e ∈ es, q e) ∨ (∀ e ∈ es, p e) ∧ Since p q h := by
  by_cases hes : ∃ e ∈ es, q e
  · exact Or.inl hes
  · refine Or.inr (of_append ?_ hh)
    intro e he hq
    exact hes ⟨e, he, hq⟩

lemma exists_mem {h : List E} (hh : Since p q h) : ∃ e ∈ h, q e := by
  obtain ⟨later, e, earlier, rfl, hq, -⟩ := (iff_exists h).mp hh
  exact ⟨e, by simp, hq⟩

end Since

namespace Justified

variable {Q : E → List E → Prop}

@[simp] lemma nil : Justified Q [] := trivial

@[simp] lemma cons (e : E) (es : List E) : Justified Q (e :: es) ↔ Q e es ∧ Justified Q es :=
  Iff.rfl

/-- The reading with the history split at each event. -/
theorem iff_forall (h : List E) :
    Justified Q h ↔ ∀ later e earlier, h = later ++ e :: earlier → Q e earlier := by
  induction h with
  | nil => simp
  | cons e es ih =>
    rw [cons, ih]
    constructor
    · rintro ⟨he, hes⟩ later x earlier heq
      cases later with
      | nil =>
        cases heq
        exact he
      | cons y later =>
        cases heq
        exact hes later x earlier rfl
    · intro hall
      refine ⟨hall [] e es rfl, fun later x earlier heq => ?_⟩
      exact hall (e :: later) x earlier (by simp [heq])

lemma mono {R : E → List E → Prop} (himp : ∀ e es, Q e es → R e es) {h : List E}
    (hh : Justified Q h) : Justified R h := by
  induction h with
  | nil => trivial
  | cons e es ih => exact ⟨himp e es hh.1, ih hh.2⟩

/-- Earlier histories are justified. -/
lemma of_append {es h : List E} (hh : Justified Q (es ++ h)) : Justified Q h := by
  induction es with
  | nil => exact hh
  | cons e es ih => exact ih hh.2

/-- New events are justified one by one, each by the older ones and the history before. -/
lemma append {es h : List E}
    (hes : ∀ later e earlier, es = later ++ e :: earlier → Q e (earlier ++ h))
    (hh : Justified Q h) : Justified Q (es ++ h) := by
  induction es with
  | nil => exact hh
  | cons e es ih =>
    refine ⟨hes [] e es rfl, ih fun later e' earlier heq => ?_⟩
    exact hes (e :: later) e' earlier (by rw [heq]; rfl)

end Justified
