import XdgPortals.Data.Strings
import XdgPortals.Library.Letters

/-!
# URI schemes

The grammar of a scheme, and the URIs that may be opened: those with a scheme other than `file`.
-/

namespace XdgPortals

open Language
open scoped Computability

/-- `scheme = ALPHA *( ALPHA / DIGIT / "+" / "-" / "." )`. -/
def schemes : Language Char :=
  letters (·.isAlpha = true) *
    (letters (·.isAlpha = true) + letters (·.isDigit = true) + letters (· ∈ ['+', '-', '.']))∗

/-- The schemes that may be opened: all but `file`, in whatever case. -/
def Allowed (scheme : String) : Prop := scheme.toList ∈ schemes ∧ toLower scheme ≠ "file"

/-- A URI with a scheme that may be opened. -/
def Accepted (uri : String) : Prop := ∃ scheme rest, uri = scheme ++ ":" ++ rest ∧ Allowed scheme

/-! ### Letters -/

lemma isUpper_iff {c : Char} : c.isUpper = true ↔ 65 ≤ c.toNat ∧ c.toNat ≤ 90 := by
  show decide (_ ∧ _) = true ↔ _
  rw [decide_eq_true_iff]
  exact and_congr UInt32.le_iff_toNat_le UInt32.le_iff_toNat_le

lemma isLower_iff {c : Char} : c.isLower = true ↔ 97 ≤ c.toNat ∧ c.toNat ≤ 122 := by
  show (decide _ && decide _) = true ↔ _
  rw [Bool.and_eq_true, decide_eq_true_iff, decide_eq_true_iff]
  exact and_congr UInt32.le_iff_toNat_le UInt32.le_iff_toNat_le

lemma isAlpha_iff {c : Char} : c.isAlpha = true ↔
    (65 ≤ c.toNat ∧ c.toNat ≤ 90) ∨ (97 ≤ c.toNat ∧ c.toNat ≤ 122) := by
  show (c.isUpper || c.isLower) = true ↔ _
  rw [Bool.or_eq_true, isUpper_iff, isLower_iff]

lemma isDigit_iff {c : Char} : c.isDigit = true ↔ 48 ≤ c.toNat ∧ c.toNat ≤ 57 :=
  Char.isDigit_iff_toNat

lemma mem_punctuation {c : Char} :
    c ∈ ['+', '-', '.'] ↔ c.toNat = 43 ∨ c.toNat = 45 ∨ c.toNat = 46 := by
  have hplus : c = '+' ↔ c.toNat = 43 := Char.toNat_inj.symm
  have hminus : c = '-' ↔ c.toNat = 45 := Char.toNat_inj.symm
  have hdot : c = '.' ↔ c.toNat = 46 := Char.toNat_inj.symm
  simp [hplus, hminus, hdot]

lemma toNat_toLower (c : Char) : c.toLower.toNat =
    if 65 ≤ c.toNat ∧ c.toNat ≤ 90 then c.toNat + 32 else c.toNat := by
  have hupper : (c.val ≥ 'A'.val ∧ c.val ≤ 'Z'.val) ↔ 65 ≤ c.toNat ∧ c.toNat ≤ 90 :=
    and_congr UInt32.le_iff_toNat_le UInt32.le_iff_toNat_le
  show (if h : c.val ≥ 'A'.val ∧ c.val ≤ 'Z'.val then _ else c : Char).toNat = _
  split_ifs with h hc hc
  · show (c.val + ('a'.val - 'A'.val)).toNat = _
    rw [UInt32.toNat_add]
    apply Nat.mod_eq_of_lt
    show c.toNat + 32 < _
    omega
  · exact absurd (hupper.mp h) hc
  · exact absurd (hupper.mpr hc) h
  · rfl

lemma toLower_comp_toLower : Char.toLower ∘ Char.toLower = Char.toLower := by
  funext c
  apply Char.toNat_inj.mp
  rw [Function.comp_apply, toNat_toLower, if_neg]
  rw [toNat_toLower]
  split_ifs <;> omega

/-! ### Schemes -/

variable {s uri : String} {w : List Char}

lemma mem_schemes : w ∈ schemes ↔ ∃ c rest, w = c :: rest ∧ c.isAlpha = true ∧
    ∀ d ∈ rest, (d.isAlpha = true ∨ d.isDigit = true) ∨ d ∈ ['+', '-', '.'] := by
  rw [schemes, letters_add, letters_add, mem_letters_mul]
  simp only [mem_kstar_letters]

lemma nil_notMem_schemes : [] ∉ schemes := by
  intro h
  obtain ⟨c, rest, heq, -⟩ := mem_schemes.mp h
  cases heq

lemma colon_notMem_schemes (h : w ∈ schemes) : ':' ∉ w := by
  obtain ⟨c, rest, rfl, hc, hrest⟩ := mem_schemes.mp h
  intro hmem
  rcases List.mem_cons.mp hmem with rfl | hmem
  · cases hc
  · have hcolon := hrest ':' hmem
    revert hcolon
    decide

lemma map_toLower_mem_schemes (h : w ∈ schemes) : w.map Char.toLower ∈ schemes := by
  obtain ⟨c, rest, rfl, hc, hrest⟩ := mem_schemes.mp h
  apply mem_schemes.mpr
  refine ⟨c.toLower, rest.map Char.toLower, rfl, ?_, ?_⟩
  · rw [isAlpha_iff] at hc ⊢
    rw [toNat_toLower]
    split_ifs <;> omega
  · intro lower hlower
    obtain ⟨d, hmem, rfl⟩ := List.mem_map.mp hlower
    have hd := hrest d hmem
    rw [isAlpha_iff, isDigit_iff, mem_punctuation] at hd ⊢
    rw [toNat_toLower]
    split_ifs <;> omega

/-- What may be opened may be opened in lowercase. -/
lemma allowed_toLower (h : Allowed s) : Allowed (toLower s) := by
  constructor
  · rw [toLower, String.toList_ofList]
    exact map_toLower_mem_schemes h.1
  · have hlower : toLower (toLower s) = toLower s := by
      simp only [toLower, String.toList_ofList, List.map_map, toLower_comp_toLower]
    rw [hlower]
    exact h.2

/-- Loops that check the first letter and the later ones for what the grammar allows there. -/
lemma all_zipIdx_iff_mem_schemes (first later : Char → Bool)
    (hfirst : ∀ c, first c = true ↔ c.isAlpha = true)
    (hlater : ∀ c, later c = true ↔
      (c.isAlpha = true ∨ c.isDigit = true) ∨ c ∈ ['+', '-', '.']) :
    (if s.isEmpty then false
      else s.toList.zipIdx.all fun x => if x.2 == 0 then first x.1 else later x.1) = true ↔
      s.toList ∈ schemes := by
  have hfirst : (first · = true) = (·.isAlpha = true) := funext fun c => propext (hfirst c)
  have hlater : (later · = true) = fun c => (c.isAlpha = true ∨ c.isDigit = true) ∨
      c ∈ ['+', '-', '.'] := funext fun c => propext (hlater c)
  rw [schemes, letters_add, letters_add, ← hlater, ← hfirst, ← all_zipIdx_iff]
  cases h : s.isEmpty with
  | true =>
    have hnil : s.toList = [] := by simpa using h
    simp [hnil]
  | false =>
    have hne : s.toList ≠ [] := by simpa using h
    simp [hne]

/-- A URI may be opened when what stands before its first colon may be. -/
lemma accepted_iff :
    Accepted uri ↔ 0 < find uri ':' ∧ Allowed (substr uri 0 (find uri ':').toNat) := by
  have hsplit : Accepted uri ↔
      ∃ w rest, uri.toList = w ++ ':' :: rest ∧ Allowed (String.ofList w) := by
    constructor
    · rintro ⟨scheme, rest, rfl, h⟩
      refine ⟨scheme.toList, rest.toList, ?_, ?_⟩
      · simp
      · rwa [String.ofList_toList]
    · rintro ⟨w, rest, h, hallowed⟩
      refine ⟨String.ofList w, String.ofList rest, ?_, hallowed⟩
      apply String.toList_inj.mp
      simp [h]
  rw [hsplit, exists_split_iff, find, substr]
  · cases h : uri.toList.findIdx? (· == ':') with
    | none => simp
    | some i =>
      simp only [Option.some.injEq, exists_eq_left', Int.toNat_natCast, List.drop_zero]
      apply Iff.symm
      apply and_iff_right_of_imp
      intro hallowed
      cases i with
      | zero => exact absurd hallowed.1 nil_notMem_schemes
      | succ i => omega
  · intro w hw
    apply colon_notMem_schemes
    simpa using hw.1

end XdgPortals
