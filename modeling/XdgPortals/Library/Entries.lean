import Mathlib.Data.List.Basic
import Mathlib.Data.List.Nodup
import Mathlib.Data.List.Perm.Subperm

/-!
# Maps as lists of entries

A finite map is the list of its entries in insertion order; setting a key that is there keeps its
place. A map that is filled entry by entry keeps them all if and only if the keys are distinct.
-/

universe u v

namespace Entries

variable {κ : Type u} {α : Type v} [BEq κ]

/-- Set a key. -/
def set (k : κ) (a : α) : List (κ × α) → List (κ × α)
  | []           => [(k, a)]
  | (l, b) :: es => if l == k then (l, a) :: es else (l, b) :: set k a es

/-- Set the keys of a list of entries in turn. -/
def setAll (es fs : List (κ × α)) : List (κ × α) :=
  fs.foldl (fun es e => set e.1 e.2 es) es

variable [LawfulBEq κ] {k : κ} {a : α} {es fs : List (κ × α)}

/-! ### One entry -/

lemma set_of_notMem (h : k ∉ es.map Prod.fst) : set k a es = es ++ [(k, a)] := by
  induction es with
  | nil => rfl
  | cons e es ih =>
    have hne : e.1 ≠ k := fun heq => h (by simp [heq])
    have hrest : k ∉ es.map Prod.fst := fun hmem => h (List.mem_cons_of_mem _ hmem)
    rw [set, if_neg (by simpa using hne), ih hrest]
    rfl

lemma keys_set_of_mem (h : k ∈ es.map Prod.fst) :
    (set k a es).map Prod.fst = es.map Prod.fst := by
  induction es with
  | nil => cases h
  | cons e es ih =>
    rw [set]
    split_ifs with heq
    · rfl
    · have hne : k ≠ e.1 := fun hk => heq (by simp [hk])
      rw [List.map_cons, ih ((List.mem_cons.mp h).resolve_left hne)]
      rfl

lemma lookup_set_self : (set k a es).lookup k = some a := by
  induction es with
  | nil => simp [set]
  | cons e es ih =>
    rw [set]
    split_ifs with he
    · simp [eq_of_beq he]
    · have hne : (k == e.1) = false := beq_false_of_ne fun heq => he (by simp [heq])
      rw [List.lookup_cons, hne]
      exact ih

lemma lookup_set_of_ne {l : κ} (h : l ≠ k) : (set k a es).lookup l = es.lookup l := by
  induction es with
  | nil => simp [set, h]
  | cons e es ih =>
    rw [set]
    split_ifs with he
    · rw [List.lookup_cons, List.lookup_cons, eq_of_beq he, beq_false_of_ne h]
    · rw [List.lookup_cons, List.lookup_cons, ih]

lemma nodup_keys_set (h : (es.map Prod.fst).Nodup) : ((set k a es).map Prod.fst).Nodup := by
  by_cases hk : k ∈ es.map Prod.fst
  · rwa [keys_set_of_mem hk]
  · rw [set_of_notMem hk, List.map_append]
    exact h.append (List.nodup_singleton k) (by simpa using hk)

lemma keys_set_subset : (set k a es).map Prod.fst ⊆ k :: es.map Prod.fst := by
  by_cases hk : k ∈ es.map Prod.fst
  · rw [keys_set_of_mem hk]
    exact List.subset_cons_self ..
  · rw [set_of_notMem hk, List.map_append]
    intro l hl
    simpa [or_comm] using hl

/-! ### All entries -/

lemma nodup_keys_setAll (h : (es.map Prod.fst).Nodup) :
    ((setAll es fs).map Prod.fst).Nodup := by
  induction fs generalizing es with
  | nil => exact h
  | cons f fs ih => exact ih (nodup_keys_set h)

lemma keys_setAll_subset :
    (setAll es fs).map Prod.fst ⊆ es.map Prod.fst ++ fs.map Prod.fst := by
  induction fs generalizing es with
  | nil => simp [setAll]
  | cons f fs ih =>
    intro k hk
    rcases List.mem_append.mp (ih hk) with hset | hrest
    · rcases List.mem_cons.mp (keys_set_subset hset) with rfl | hes
      · simp
      · exact List.mem_append_left _ hes
    · exact List.mem_append_right _ (List.mem_cons_of_mem _ hrest)

/-- Distinct keys are all added. -/
lemma setAll_of_nodup (h : ((es ++ fs).map Prod.fst).Nodup) : setAll es fs = es ++ fs := by
  induction fs generalizing es with
  | nil => simp [setAll]
  | cons f fs ih =>
    have hnot : f.1 ∉ es.map Prod.fst := by
      rw [List.map_append, List.nodup_append] at h
      intro hmem
      exact h.2.2 _ hmem _ (by simp) rfl
    have hset : setAll es (f :: fs) = setAll (set f.1 f.2 es) fs := rfl
    rw [hset, set_of_notMem hnot, ih]
    · simp
    · simpa using h

lemma lookup_of_mem (h : (es.map Prod.fst).Nodup) (hmem : (k, a) ∈ es) :
    es.lookup k = some a := by
  induction es with
  | nil => cases hmem
  | cons e es ih =>
    obtain ⟨hnot, hnodup⟩ := List.nodup_cons.mp h
    rw [List.lookup_cons]
    rcases List.mem_cons.mp hmem with rfl | hmem
    · simp
    · have hne : k ≠ e.1 := fun heq => hnot (heq ▸ List.mem_map_of_mem hmem)
      rw [beq_false_of_ne hne]
      exact ih hnodup hmem

/-- A map that is filled entry by entry has as many entries as were set exactly when their keys
are distinct. -/
theorem length_setAll_iff :
    (setAll [] fs).length = fs.length ↔ (fs.map Prod.fst).Nodup := by
  constructor
  · intro hlength
    have hnodup : ((setAll [] fs).map Prod.fst).Nodup := nodup_keys_setAll List.nodup_nil
    have hsubset : (setAll [] fs).map Prod.fst ⊆ fs.map Prod.fst := keys_setAll_subset
    have hperm : ((setAll [] fs).map Prod.fst).Perm (fs.map Prod.fst) :=
      (hnodup.subperm hsubset).perm_of_length_le (by simp [hlength])
    exact hperm.nodup_iff.mp hnodup
  · intro hnodup
    rw [setAll_of_nodup (by simpa using hnodup)]
    rfl

/-- Then the map has every entry. -/
theorem lookup_setAll (h : (fs.map Prod.fst).Nodup) (hmem : (k, a) ∈ fs) :
    (setAll [] fs).lookup k = some a := by
  rw [setAll_of_nodup (by simpa using h)]
  exact lookup_of_mem h hmem

end Entries
