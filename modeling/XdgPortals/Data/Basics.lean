import Mathlib.Algebra.Group.Nat.Defs
import Mathlib.Data.Int.Notation
import XdgPortals.Data.Conversion
import XdgPortals.Data.Typing

/-!
# Basic values

Every integer type but the unsigned 64-bit one fits Godot's. Of that one the values above the
largest signed integer are clamped to it, so these, and the largest signed integer itself, become
one value. Every other pair of basic values stays apart.
-/

namespace XdgPortals

lemma toInt_toInt64 {n : UInt64} (h : n.toNat < 2 ^ 63) : n.toInt64.toInt = n.toNat := by
  rw [← Int64.toInt_toBitVec, UInt64.toBitVec_toInt64, BitVec.toInt_eq_toNat_of_lt]
  · rfl
  · show 2 * n.toNat < 2 ^ 64
    omega

namespace GVariant

/-- The number an integer value stands for. -/
def intValue : GVariant → Option ℤ
  | .byte n => some n.toNat
  | .int16 n => some n.toInt
  | .uint16 n => some n.toNat
  | .int32 n => some n.toInt
  | .uint32 n => some n.toNat
  | .int64 n => some n.toInt
  | .uint64 n => some n.toNat
  | .handle n => some n.toInt
  | _ => none

/-- The unsigned 64-bit values that become the largest signed integer. -/
def isClamped : GVariant → Bool
  | .uint64 n => 2 ^ 63 - 1 ≤ n.toNat
  | _ => false

variable {v w : GVariant} {t : GVariantType} {i : ℤ}

/-- Two integers of one type are the same when they stand for the same number. -/
lemma eq_of_intValue (hv : v.HasType t) (hw : w.HasType t) (hi : v.intValue = some i)
    (hj : w.intValue = some i) : v = w := by
  have heq : v.intValue = w.intValue := hi.trans hj.symm
  cases hv with
  | byte n =>
    cases hw
    simpa [intValue, Int.ofNat_inj, UInt8.toNat_inj] using heq
  | int16 n =>
    cases hw
    simpa [intValue, Int16.toInt_inj] using heq
  | uint16 n =>
    cases hw
    simpa [intValue, Int.ofNat_inj, UInt16.toNat_inj] using heq
  | int32 n | handle n =>
    cases hw
    simpa [intValue, Int32.toInt_inj] using heq
  | uint32 n =>
    cases hw
    simpa [intValue, Int.ofNat_inj, UInt32.toNat_inj] using heq
  | int64 n =>
    cases hw
    simpa [intValue, Int64.toInt_inj] using heq
  | uint64 n =>
    cases hw
    simpa [intValue, Int.ofNat_inj, UInt64.toNat_inj] using heq
  | _ => cases hi

/-- An integer that is not clamped keeps its number. -/
theorem gvariantToVariant_of_intValue (hi : v.intValue = some i) (hclamped : v.isClamped = false) :
    ∃ m : Int64, gvariantToVariant v = .int m ∧ m.toInt = i := by
  cases v with
  | byte n =>
    cases hi
    refine ⟨_, by rw [gvariantToVariant], toInt_toInt64 ?_⟩
    have hlt := n.toNat_lt
    rw [UInt8.toNat_toUInt64]
    omega
  | uint16 n =>
    cases hi
    refine ⟨_, by rw [gvariantToVariant], toInt_toInt64 ?_⟩
    have hlt := n.toNat_lt
    rw [UInt16.toNat_toUInt64]
    omega
  | uint32 n =>
    cases hi
    refine ⟨_, by rw [gvariantToVariant], toInt_toInt64 ?_⟩
    have hlt := n.toNat_lt
    rw [UInt32.toNat_toUInt64]
    omega
  | int16 n =>
    cases hi
    exact ⟨_, by rw [gvariantToVariant], Int16.toInt_toInt64 n⟩
  | int32 n | handle n =>
    cases hi
    exact ⟨_, by rw [gvariantToVariant], Int32.toInt_toInt64 n⟩
  | int64 n =>
    cases hi
    exact ⟨_, by rw [gvariantToVariant], rfl⟩
  | uint64 n =>
    cases hi
    have hlt : n.toNat < 2 ^ 63 - 1 := by simpa [isClamped] using hclamped
    have hnot : ¬ n > 0x7fffffffffffffff := by
      rw [gt_iff_lt, UInt64.lt_iff_toNat_lt]
      show ¬ 2 ^ 63 - 1 < n.toNat
      omega
    refine ⟨n.toInt64, by rw [gvariantToVariant, if_neg hnot], toInt_toInt64 (by omega)⟩
  | _ => cases hi

/-- A clamped integer becomes the largest signed one. -/
lemma gvariantToVariant_of_isClamped (h : v.isClamped = true) :
    gvariantToVariant v = .int 0x7fffffffffffffff := by
  cases v with
  | uint64 n =>
    have hle : 2 ^ 63 - 1 ≤ n.toNat := by simpa [isClamped] using h
    rw [gvariantToVariant]
    split_ifs with hlt
    · rfl
    · have heq : n = 0x7fffffffffffffff := by
        rw [gt_iff_lt, UInt64.lt_iff_toNat_lt] at hlt
        rw [← UInt64.toNat_inj]
        have hle' : n.toNat ≤ 2 ^ 63 - 1 := Nat.not_lt.mp hlt
        exact Nat.le_antisymm hle' hle
      rw [heq]
      rfl
  | _ => cases h

/-- Integers that are not clamped stay apart. -/
lemma eq_of_gvariantToVariant_int {j : ℤ} (hv : v.HasType t) (hw : w.HasType t)
    (hi : v.intValue = some i) (hj : w.intValue = some j) (hcv : v.isClamped = false)
    (hcw : w.isClamped = false) (h : gvariantToVariant v = gvariantToVariant w) : v = w := by
  obtain ⟨m, hm, rfl⟩ := gvariantToVariant_of_intValue hi hcv
  obtain ⟨m', hm', rfl⟩ := gvariantToVariant_of_intValue hj hcw
  obtain rfl : m = m' := by simpa [hm, hm'] using h
  exact eq_of_intValue hv hw hi hj

/-- A clamped integer and one of its type that is not stay apart. -/
lemma gvariantToVariant_ne_of_isClamped (hv : v.HasType t) (hw : w.HasType t)
    (hcv : v.isClamped = true) (hcw : w.isClamped = false) :
    gvariantToVariant v ≠ gvariantToVariant w := by
  cases hv with
  | uint64 n =>
    cases hw with
    | uint64 n' =>
      have hlt : n'.toNat < 2 ^ 63 - 1 := by simpa [isClamped] using hcw
      obtain ⟨m, hm, hmn⟩ := gvariantToVariant_of_intValue rfl hcw
      rw [gvariantToVariant_of_isClamped hcv, hm]
      intro h
      obtain rfl : 0x7fffffffffffffff = m := Variant.int.inj h
      have hmax : (0x7fffffffffffffff : Int64).toInt = 2 ^ 63 - 1 := by decide
      omega
  | _ => cases hcv

/-- Two basic values of one type become the same only when they are the same or both clamped. -/
theorem gvariantToVariant_eq_iff (hbasic : t.isBasic = true) (hdouble : t ≠ .double)
    (hv : v.HasType t) (hw : w.HasType t) :
    gvariantToVariant v = gvariantToVariant w ↔
      v = w ∨ (v.isClamped = true ∧ w.isClamped = true) := by
  constructor
  · intro h
    have hint : ∀ i j, v.intValue = some i → w.intValue = some j →
        v = w ∨ (v.isClamped = true ∧ w.isClamped = true) := by
      intro i j hi hj
      cases hcv : v.isClamped with
      | false =>
        cases hcw : w.isClamped with
        | false => exact .inl (eq_of_gvariantToVariant_int hv hw hi hj hcv hcw h)
        | true => exact absurd h.symm (gvariantToVariant_ne_of_isClamped hw hv hcw hcv)
      | true =>
        cases hcw : w.isClamped with
        | false => exact absurd h (gvariantToVariant_ne_of_isClamped hv hw hcv hcw)
        | true => exact .inr ⟨rfl, rfl⟩
    cases hv with
    | boolean b | string s | objectPath s | signature s =>
      cases hw
      left
      simpa [gvariantToVariant] using h
    | byte n | int16 n | uint16 n | int32 n | uint32 n | int64 n | uint64 n | handle n =>
      cases hw
      exact hint _ _ rfl rfl
    | double d => exact absurd rfl hdouble
    | _ => cases hbasic
  · rintro (rfl | ⟨hcv, hcw⟩)
    · rfl
    · rw [gvariantToVariant_of_isClamped hcv, gvariantToVariant_of_isClamped hcw]

end GVariant

end XdgPortals
