import Mathlib.Algebra.Group.Nat.Defs
import Mathlib.Data.Int.Notation
import Mathlib.Data.Nat.Bitwise

/-!
# Masks of flags

A value without any bit outside a mask of the lowest bits is a number below a power of two. The
facade checks the flags of an inhibition as a 64-bit number, the extension as a 32-bit one.
-/

namespace XdgPortals

/-! ### Bit vectors -/

section BitVec

variable {w : ℕ} {x m : BitVec w}

/-- No bit is outside the mask. -/
lemma and_not_eq_zero_iff : x &&& ~~~m = 0#w ↔ x &&& m = x := by
  constructor
  · intro h
    apply BitVec.eq_of_getLsbD_eq
    intro i hi
    have hbit := congrArg (fun v => BitVec.getLsbD v i) h
    simp only [BitVec.getLsbD_and, BitVec.getLsbD_not, hi, decide_true, Bool.true_and,
      BitVec.getLsbD_zero] at hbit ⊢
    cases hx : x.getLsbD i <;> simp_all
  · intro h
    rw [← h, BitVec.and_assoc, BitVec.and_not_self]
    exact BitVec.and_zero

/-- The mask of the lowest `k` bits. -/
lemma and_not_lowest_iff {k : ℕ} (hk : k < w) :
    x &&& ~~~(BitVec.ofNat w (2 ^ k - 1)) = 0#w ↔ x.toNat < 2 ^ k := by
  have hpow : 2 ^ k < 2 ^ w := Nat.pow_lt_pow_right (by decide) hk
  have hpos : 0 < 2 ^ k := Nat.two_pow_pos k
  have hmask : (BitVec.ofNat w (2 ^ k - 1)).toNat = 2 ^ k - 1 := by
    rw [BitVec.toNat_ofNat]
    exact Nat.mod_eq_of_lt (by omega)
  rw [and_not_eq_zero_iff, ← BitVec.toNat_inj, BitVec.toNat_and, hmask,
    Nat.and_two_pow_sub_one_eq_mod]
  constructor
  · intro h
    rw [← h]
    exact Nat.mod_lt _ (Nat.two_pow_pos k)
  · exact Nat.mod_eq_of_lt

/-- The values that are positive and within the lowest `k` bits. -/
lemma pos_and_not_lowest_iff {k : ℕ} (hk : k + 1 < w) :
    0 < x.toInt ∧ x &&& ~~~(BitVec.ofNat w (2 ^ k - 1)) = 0#w ↔
      0 < x.toInt ∧ x.toInt < (2 ^ k : ℕ) := by
  have hpow : 2 * 2 ^ k < 2 ^ w := by
    rw [← pow_succ']
    exact Nat.pow_lt_pow_right (by decide) hk
  rw [and_not_lowest_iff (by omega), BitVec.toInt_eq_toNat_cond]
  have hlt := x.isLt
  split_ifs <;> constructor <;> rintro ⟨hpos, h⟩ <;> constructor <;> omega

end BitVec

/-! ### The flags of an inhibition -/

/-- A non-empty mask of the four documented bits. -/
def IsInhibitMask (flags : ℤ) : Prop := 0 < flags ∧ flags < 16

instance (flags : ℤ) : Decidable (IsInhibitMask flags) := inferInstanceAs (Decidable (_ ∧ _))

lemma isInhibitMask_int32 {flags : Int32} :
    (flags ≤ 0 || flags &&& ~~~(1 ||| 2 ||| 4 ||| 8) != 0) = false ↔
      IsInhibitMask flags.toInt := by
  rw [IsInhibitMask, Int32.toInt]
  refine Iff.trans ?_ (pos_and_not_lowest_iff (k := 4) (by decide : 4 + 1 < 32))
  simp only [Bool.or_eq_false_iff, decide_eq_false_iff_not, Int32.not_le, bne_eq_false_iff_eq]
  apply and_congr
  · rw [Int32.lt_iff_toInt_lt]
    rfl
  · exact Int32.toBitVec_inj.symm

lemma isInhibitMask_int64 {flags : Int64} :
    (flags ≤ 0 || flags &&& ~~~(1 ||| 2 ||| 4 ||| 8) != 0) = false ↔
      IsInhibitMask flags.toInt := by
  rw [IsInhibitMask, Int64.toInt]
  refine Iff.trans ?_ (pos_and_not_lowest_iff (k := 4) (by decide : 4 + 1 < 64))
  simp only [Bool.or_eq_false_iff, decide_eq_false_iff_not, Int64.not_le, bne_eq_false_iff_eq]
  apply and_congr
  · rw [Int64.lt_iff_toInt_lt]
    rfl
  · exact Int64.toBitVec_inj.symm

/-- A valid mask survives the narrowing to 32 bits. -/
lemma toInt_toInt32_of_isInhibitMask {flags : Int64} (h : IsInhibitMask flags.toInt) :
    flags.toInt32.toInt = flags.toInt := by
  obtain ⟨hpos, hlt⟩ := h
  rw [Int64.toInt_toInt32]
  apply Int.bmod_eq_of_le
  · omega
  · omega

/-- A valid mask is sent as the number it is. -/
lemma toNat_toUInt32_of_isInhibitMask {flags : Int32} (h : IsInhibitMask flags.toInt) :
    (flags.toUInt32.toNat : ℤ) = flags.toInt := by
  have hpos : 0 ≤ flags := Int32.le_iff_toInt_le.mpr (Int.le_of_lt h.1)
  rw [Int32.toNat_toUInt32_of_le hpos, Int32.toNatClampNeg]
  exact Int.toNat_of_nonneg (Int.le_of_lt h.1)

end XdgPortals
