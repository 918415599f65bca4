import Mathlib.Logic.Function.Basic

/-!
# A table and an index over it

Each key of a table has at most one place, and an index says which key is at a place. The index is
*sound* for a key when it names the key nowhere but at its place, and a key is *listed* at a place
when the index finds it there, should it be there. The rules say what linking a new key, moving a
key and unlinking a key do to both.
-/

universe u v

namespace TwoWayIndex

variable {K : Type u} {P : Type v}

/-- The key `k` is where the index finds it. -/
def Sound (place : K → Option P) (key : P → Option K) (k : K) : Prop :=
  ∀ p, key p = some k → place k = some p

/-- The index finds the key `k` at the place `p` if it is there. -/
def Listed (place : K → Option P) (key : P → Option K) (k : K) (p : P) : Prop :=
  place k = some p → key p = some k

variable {place : K → Option P} {key : P → Option K}

/-- For a key that is listed, a sound index is the inverse of the table. -/
theorem Sound.exact {k : K} {p : P} (hs : Sound place key k) (hl : Listed place key k p) :
    key p = some k ↔ place k = some p :=
  ⟨hs p, hl⟩

variable [DecidableEq K] [DecidableEq P]

/-! ### Linking a key -/

lemma Sound.link {k k' : K} (hs : Sound place key k') (hk : k' = k → place k = none) (p : P) :
    Sound (Function.update place k (some p)) (Function.update key p (some k)) k' := by
  intro p' h
  by_cases hp : p' = p
  · subst hp
    rw [Function.update_self] at h
    cases h
    exact Function.update_self ..
  · rw [Function.update_of_ne hp] at h
    have hk' : k' ≠ k := by
      rintro rfl
      have hplace := hs p' h
      rw [hk rfl] at hplace
      cases hplace
    rw [Function.update_of_ne hk']
    exact hs p' h

lemma Listed.link_self (k : K) (p p' : P) :
    Listed (Function.update place k (some p)) (Function.update key p (some k)) k p' := by
  intro h
  rw [Function.update_self] at h
  cases h
  exact Function.update_self ..

lemma Listed.link {k k' : K} {p p' : P} (hl : Listed place key k' p') (hk : k' ≠ k) (hp : p' ≠ p) :
    Listed (Function.update place k (some p)) (Function.update key p (some k)) k' p' := by
  intro h
  rw [Function.update_of_ne hk] at h
  rw [Function.update_of_ne hp]
  exact hl h

/-! ### Moving a key -/

lemma Sound.move {k k' : K} {q : P} (hs : Sound place key k') (hk : place k = some q) (p : P) :
    Sound (Function.update place k (some p))
      (Function.update (Function.update key p (some k)) q none) k' := by
  intro p' h
  have hq : p' ≠ q := by
    rintro rfl
    rw [Function.update_self] at h
    cases h
  rw [Function.update_of_ne hq] at h
  by_cases hp : p' = p
  · subst hp
    rw [Function.update_self] at h
    cases h
    exact Function.update_self ..
  · rw [Function.update_of_ne hp] at h
    have hk' : k' ≠ k := by
      rintro rfl
      exact hq (Option.some.inj ((hs p' h).symm.trans hk))
    rw [Function.update_of_ne hk']
    exact hs p' h

lemma Listed.move_self {p q : P} (hpq : p ≠ q) (k : K) (p' : P) :
    Listed (Function.update place k (some p))
      (Function.update (Function.update key p (some k)) q none) k p' := by
  intro h
  rw [Function.update_self] at h
  cases h
  rw [Function.update_of_ne hpq, Function.update_self]

lemma Listed.move {k k' : K} {p q p' : P} (hl : Listed place key k' p') (hk : k' ≠ k)
    (hp : p' ≠ p) (hq : p' ≠ q) :
    Listed (Function.update place k (some p))
      (Function.update (Function.update key p (some k)) q none) k' p' := by
  intro h
  rw [Function.update_of_ne hk] at h
  rw [Function.update_of_ne hq, Function.update_of_ne hp]
  exact hl h

/-! ### Unlinking a key -/

omit [DecidableEq K] in
/-- Clearing a place of the index never makes it unsound. -/
lemma Sound.clear {k : K} (hs : Sound place key k) (q : P) :
    Sound place (Function.update key q none) k := by
  intro p h
  have hp : p ≠ q := by
    rintro rfl
    rw [Function.update_self] at h
    cases h
  rw [Function.update_of_ne hp] at h
  exact hs p h

lemma Sound.unlink {k k' : K} {q : P} (hs : Sound place key k') (hk : place k = some q) :
    Sound (Function.update place k none) (Function.update key q none) k' := by
  intro p h
  have hp : p ≠ q := by
    rintro rfl
    rw [Function.update_self] at h
    cases h
  rw [Function.update_of_ne hp] at h
  have hk' : k' ≠ k := by
    rintro rfl
    exact hp (Option.some.inj ((hs p h).symm.trans hk))
  rw [Function.update_of_ne hk']
  exact hs p h

omit [DecidableEq K] in
lemma Listed.clear {k : K} {p q : P} (hl : Listed place key k p) (hq : p ≠ q) :
    Listed place (Function.update key q none) k p := by
  intro h
  rw [Function.update_of_ne hq]
  exact hl h

lemma Listed.unlink {k k' : K} {p q : P} (hl : Listed place key k' p) (hk : k' ≠ k) (hq : p ≠ q) :
    Listed (Function.update place k none) (Function.update key q none) k' p := by
  intro h
  rw [Function.update_of_ne hk] at h
  rw [Function.update_of_ne hq]
  exact hl h

end TwoWayIndex
