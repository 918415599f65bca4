import Mathlib.Data.List.Basic
import Mathlib.Data.List.Perm.Basic

/-!
# Filling the slots of a list

Results are written to the slots of a list in whatever order they come, each with the index of
its slot. As long as the writes to one slot agree, their order does not matter.
-/

universe u v w

namespace Slots

variable {α : Type u} {β : Type v} {γ : Type w} {f : β → α} {slots : List α}
  {writes : List (ℕ × β)} {j : ℕ} {b : β}

/-- Write what `f` makes of each result to its slot. -/
def fill (f : β → α) (slots : List α) (writes : List (ℕ × β)) : List α :=
  writes.foldl (fun slots write => slots.set write.1 (f write.2)) slots

@[simp] lemma fill_nil : fill f slots [] = slots := rfl

@[simp] lemma fill_cons (write : ℕ × β) :
    fill f slots (write :: writes) = fill f (slots.set write.1 (f write.2)) writes := rfl

@[simp] lemma length_fill : (fill f slots writes).length = slots.length := by
  induction writes generalizing slots with
  | nil => rfl
  | cons write writes ih =>
    rw [fill_cons, ih]
    exact List.length_set

/-- A slot nobody writes to stays as it is. -/
lemma getElem?_fill_of_ne (h : ∀ write ∈ writes, write.1 ≠ j) :
    (fill f slots writes)[j]? = slots[j]? := by
  induction writes generalizing slots with
  | nil => rfl
  | cons write writes ih =>
    rw [fill_cons, ih fun write hwrite => h write (List.mem_cons_of_mem _ hwrite)]
    exact List.getElem?_set_ne (h write List.mem_cons_self)

/-- A slot holds what the writes to it agree on. -/
lemma getElem?_fill_of_mem (hmem : (j, b) ∈ writes) (hj : j < slots.length)
    (hagree : ∀ write ∈ writes, write.1 = j → write.2 = b) :
    (fill f slots writes)[j]? = some (f b) := by
  induction writes generalizing slots with
  | nil => cases hmem
  | cons write writes ih =>
    rw [fill_cons]
    have hagree' : ∀ write ∈ writes, write.1 = j → write.2 = b :=
      fun write hwrite => hagree write (List.mem_cons_of_mem _ hwrite)
    by_cases hrest : (j, b) ∈ writes
    · exact ih hrest (by simpa using hj) hagree'
    · -- this is the last write to the slot
      have hfirst : write = (j, b) :=
        ((List.mem_cons.mp hmem).resolve_right hrest).symm
      rw [getElem?_fill_of_ne, hfirst]
      · simp [hj]
      · intro later hlater hindex
        apply hrest
        rwa [← hindex, ← hagree' later hlater hindex]

/-! ### Results for the elements of a list -/

/-- The results there are for the elements of a list, each with the position of its element. -/
def results (xs : List γ) (gives : γ → Option β) : List (ℕ × β) :=
  xs.zipIdx.filterMap fun x => (gives x.1).map fun b => (x.2, b)

variable {xs : List γ} {gives : γ → Option β}

lemma mem_results : (j, b) ∈ results xs gives ↔ ∃ x, xs[j]? = some x ∧ gives x = some b := by
  simp only [results, List.mem_filterMap, Option.map_eq_some_iff, Prod.mk.injEq, Prod.exists,
    List.mem_zipIdx_iff_getElem?]
  constructor
  · rintro ⟨x, i, hx, b', hb', rfl, rfl⟩
    exact ⟨x, hx, hb'⟩
  · rintro ⟨x, hx, hb⟩
    exact ⟨x, j, hx, b, hb, rfl, rfl⟩

/-- Whatever the order of the results, each slot gets the result of its element. -/
theorem fill_results (empty : α) (h : writes.Perm (results xs gives)) :
    fill f (List.replicate xs.length empty) writes =
      xs.map fun x => (gives x).elim empty f := by
  have hresult : ∀ j b, (j, b) ∈ writes ↔ ∃ x, xs[j]? = some x ∧ gives x = some b :=
    fun j b => h.mem_iff.trans mem_results
  apply List.ext_getElem?
  intro j
  rw [List.getElem?_map]
  cases hx : xs[j]? with
  | none =>
    apply List.getElem?_eq_none
    simpa using hx
  | some x =>
    have hj : j < xs.length := (List.getElem?_eq_some_iff.mp hx).1
    show _ = some ((gives x).elim empty f)
    cases hb : gives x with
    | none =>
      rw [getElem?_fill_of_ne]
      · simp [hj]
      · rintro ⟨i, b⟩ hwrite rfl
        obtain ⟨y, hy, hyb⟩ := (hresult i b).mp hwrite
        cases hx.symm.trans hy
        cases hb.symm.trans hyb
    | some b =>
      show _ = some (f b)
      apply getElem?_fill_of_mem ((hresult j b).mpr ⟨x, hx, hb⟩) (by simpa using hj)
      rintro ⟨i, b'⟩ hwrite rfl
      obtain ⟨y, hy, hyb⟩ := (hresult i b').mp hwrite
      cases hx.symm.trans hy
      exact Option.some.inj (hyb.symm.trans hb)

end Slots
