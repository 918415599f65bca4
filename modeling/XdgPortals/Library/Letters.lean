import Mathlib.Computability.Language

/-!
# Classes of letters

The languages that a grammar builds from classes of letters, and words that are split where a
separator stands first.
-/

universe u

namespace Language

open scoped Computability

variable {α : Type u} {p q : α → Prop} {w : List α} {a : α}

/-- The words of one letter that meets the condition. -/
def letters (p : α → Prop) : Language α := {w | ∃ a, p a ∧ w = [a]}

lemma mem_letters : w ∈ letters p ↔ ∃ a, p a ∧ w = [a] := Iff.rfl

lemma letters_add : letters p + letters q = letters fun a => p a ∨ q a := by
  ext w
  rw [mem_add, mem_letters, mem_letters, mem_letters]
  constructor
  · rintro (⟨a, ha, rfl⟩ | ⟨a, ha, rfl⟩)
    · exact ⟨a, .inl ha, rfl⟩
    · exact ⟨a, .inr ha, rfl⟩
  · rintro ⟨a, ha | ha, rfl⟩
    · exact .inl ⟨a, ha, rfl⟩
    · exact .inr ⟨a, ha, rfl⟩

@[simp] lemma mem_kstar_letters : w ∈ (letters p)∗ ↔ ∀ a ∈ w, p a := by
  rw [mem_kstar]
  constructor
  · rintro ⟨words, rfl, hwords⟩ a ha
    obtain ⟨word, hword, ha⟩ := List.mem_flatten.mp ha
    obtain ⟨b, hb, rfl⟩ := hwords word hword
    rwa [List.mem_singleton.mp ha]
  · intro h
    refine ⟨w.map fun a => [a], w.flatMap_singleton'.symm, ?_⟩
    intro word hword
    obtain ⟨a, ha, rfl⟩ := List.mem_map.mp hword
    exact ⟨a, h a ha, rfl⟩

lemma mem_letters_mul {l : Language α} :
    w ∈ letters p * l ↔ ∃ a rest, w = a :: rest ∧ p a ∧ rest ∈ l := by
  rw [mem_mul]
  constructor
  · rintro ⟨_, ⟨a, ha, rfl⟩, rest, hrest, rfl⟩
    exact ⟨a, rest, rfl, ha, hrest⟩
  · rintro ⟨a, rest, rfl, ha, hrest⟩
    exact ⟨[a], ⟨a, ha, rfl⟩, rest, hrest, rfl⟩

/-! ### Loops -/

lemma all_zipIdx_succ (first later : α → Bool) (k : ℕ) :
    ((w.zipIdx (k + 1)).all fun x => if x.2 == 0 then first x.1 else later x.1) =
      w.all later := by
  induction w generalizing k with
  | nil => rfl
  | cons a w ih =>
    rw [List.zipIdx_cons, List.all_cons, ih, List.all_cons]
    rfl

/-- A loop over the positions of a word that treats the first letter in its own way. -/
lemma all_zipIdx_iff (first later : α → Bool) :
    (w ≠ [] ∧ (w.zipIdx.all fun x => if x.2 == 0 then first x.1 else later x.1) = true) ↔
      w ∈ letters (first · = true) * (letters (later · = true))∗ := by
  rw [mem_letters_mul]
  cases w with
  | nil => simp
  | cons a rest =>
    rw [List.zipIdx_cons, List.all_cons, all_zipIdx_succ]
    simp

/-! ### Splitting -/

/-- A part before a separator that does not contain it ends where the separator stands first. -/
lemma exists_split_iff [DecidableEq α] {P : List α → Prop} (hP : ∀ s, P s → a ∉ s) :
    (∃ s rest, w = s ++ a :: rest ∧ P s) ↔
      ∃ i, w.findIdx? (· == a) = some i ∧ P (w.take i) := by
  constructor
  · rintro ⟨s, rest, rfl, hs⟩
    have hnone : s.findIdx? (· == a) = none := by
      apply List.findIdx?_eq_none_iff.mpr
      intro b hb
      apply beq_false_of_ne
      rintro rfl
      exact hP s hs hb
    refine ⟨s.length, ?_, ?_⟩
    · rw [List.findIdx?_append, hnone, List.findIdx?_cons, if_pos (beq_self_eq_true a)]
      simp
    · rwa [List.take_left]
  · rintro ⟨i, hi, hs⟩
    obtain ⟨hlt, ha, -⟩ := List.findIdx?_eq_some_iff_getElem.mp hi
    refine ⟨w.take i, w.drop (i + 1), ?_, hs⟩
    rw [← beq_iff_eq.mp ha, ← List.drop_eq_getElem_cons, List.take_append_drop]

end Language
