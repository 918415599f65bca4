import Mathlib.Data.List.Basic

/-!
# A queue that drops its oldest element

`pushBounded cap` appends to a queue and, when it is full, drops its oldest element first. An
element stays in the queue until `cap` younger ones have been pushed.
-/

universe u v

variable {α : Type u}

/-- Push at the back, after dropping the front of a full queue. -/
def pushBounded (cap : ℕ) (q : List α) (x : α) : List α :=
  (if cap ≤ q.length then q.tail else q) ++ [x]

lemma length_pushBounded_le {cap : ℕ} (hcap : 0 < cap) {q : List α} (hq : q.length ≤ cap) (x : α) :
    (pushBounded cap q x).length ≤ cap := by
  unfold pushBounded
  split_ifs with hfull
  · simp only [List.length_append, List.length_tail, List.length_singleton]
    omega
  · simp only [List.length_append, List.length_singleton]
    omega

/-- Pushing keeps the order, and drops at most the front. -/
lemma pushBounded_sublist (cap : ℕ) (q : List α) (x : α) :
    (pushBounded cap q x).Sublist (q ++ [x]) := by
  unfold pushBounded
  split_ifs with hfull
  · exact (List.tail_sublist q).append_right [x]
  · exact List.Sublist.refl _

lemma pushBounded_eq_append (cap : ℕ) (q : List α) (x : α) :
    ∃ older, pushBounded cap q x = older ++ [x] ∧ ∀ y ∈ older, y ∈ q := by
  refine ⟨_, rfl, fun y hy => ?_⟩
  split_ifs at hy with hfull
  · exact List.mem_of_mem_tail hy
  · exact hy

/-- An element with fewer than `cap - 1` younger ones survives the next push. -/
lemma pushBounded_survives {cap : ℕ} (older : List α) (x : α) {younger : List α}
    (hroom : younger.length + 1 < cap) (y : α) :
    ∃ older', pushBounded cap (older ++ x :: younger) y = older' ++ x :: (younger ++ [y]) ∧
      ∀ z ∈ older', z ∈ older := by
  unfold pushBounded
  split_ifs with hfull
  · cases older with
    | nil =>
      simp only [List.nil_append, List.length_cons] at hfull
      omega
    | cons o older =>
      exact ⟨older, by simp, fun z hz => List.mem_cons_of_mem o hz⟩
  · exact ⟨older, by simp, fun z hz => hz⟩

/-! ### Waiting in the queue -/

section FirstWithin

variable {β : Type v} {key : α → β} {x : α} {n : ℕ} {q : List α}

/-- `x` is the first element with its key, and at most `n` younger ones are behind it. -/
def FirstWithin (key : α → β) (x : α) (n : ℕ) (q : List α) : Prop :=
  ∃ older younger, q = older ++ x :: younger ∧ (∀ y ∈ older, key y ≠ key x) ∧ younger.length ≤ n

/-- An element with a new key is the first one with it. -/
lemma FirstWithin.push_self {cap : ℕ} (hq : ∀ y ∈ q, key y ≠ key x) :
    FirstWithin key x 0 (pushBounded cap q x) := by
  obtain ⟨older, heq, holder⟩ := pushBounded_eq_append cap q x
  exact ⟨older, [], heq, fun y hy => hq y (holder y hy), Nat.le_refl _⟩

/-- With room for it, an element waits on when another one is pushed. -/
lemma FirstWithin.push {cap : ℕ} (h : FirstWithin key x n q) (hroom : n + 1 < cap) (y : α) :
    FirstWithin key x (n + 1) (pushBounded cap q y) := by
  obtain ⟨older, younger, rfl, holder, hyounger⟩ := h
  have hfits : younger.length + 1 < cap := by omega
  obtain ⟨older', heq, hsub⟩ := pushBounded_survives older x hfits y
  refine ⟨older', younger ++ [y], heq, fun z hz => holder z (hsub z hz), ?_⟩
  rw [List.length_append, List.length_singleton]
  omega

variable [DecidableEq β]

/-- Taking an element with another key leaves it waiting. -/
lemma FirstWithin.eraseP (h : FirstWithin key x n q) {k : β} (hk : k ≠ key x) :
    FirstWithin key x n (q.eraseP fun y => key y == k) := by
  obtain ⟨older, younger, rfl, holder, hyounger⟩ := h
  by_cases hmem : ∃ y ∈ older, (key y == k) = true
  · obtain ⟨y, hy, hkey⟩ := hmem
    refine ⟨older.eraseP fun y => key y == k, younger, ?_, ?_, hyounger⟩
    · exact List.eraseP_append_left (p := fun y => key y == k) hkey _ hy
    · exact fun z hz => holder z (List.mem_of_mem_eraseP hz)
  · refine ⟨older, younger.eraseP fun y => key y == k, ?_, holder, ?_⟩
    · rw [List.eraseP_append_right _ fun y hy hkey => hmem ⟨y, hy, hkey⟩, List.eraseP_cons_of_neg]
      simpa using hk.symm
    · exact Nat.le_trans List.length_eraseP_le hyounger

lemma FirstWithin.find? (h : FirstWithin key x n q) :
    q.find? (fun y => key y == key x) = some x := by
  obtain ⟨older, younger, rfl, holder, -⟩ := h
  have hnone : older.find? (fun y => key y == key x) = none := by
    rw [List.find?_eq_none]
    intro y hy
    simpa using holder y hy
  rw [List.find?_append, hnone]
  simp

end FirstWithin
