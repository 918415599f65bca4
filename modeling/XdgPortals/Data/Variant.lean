import XdgPortals.Library.Entries

/-!
# Godot values

The Godot values the extension produces. A dictionary is the list of its entries in insertion
order; setting a key that is there keeps its place.
-/

namespace XdgPortals

/-- A Godot value. A `float` is its bit pattern. -/
inductive Variant where
  | nil
  | bool (value : Bool)
  | int (value : Int64)
  | float (bits : UInt64)
  | string (value : String)
  | packedByteArray (bytes : List UInt8)
  | array (elements : List Variant)
  | dictionary (entries : List (Variant × Variant))

/-- Godot's `Dictionary`. -/
abbrev Dictionary := List (Variant × Variant)

mutual
/-- Equality of values, as dictionary keys are compared. -/
def Variant.beq : Variant → Variant → Bool
  | .nil, .nil => true
  | .bool a, .bool b => a == b
  | .int a, .int b => a == b
  | .float a, .float b => a == b
  | .string a, .string b => a == b
  | .packedByteArray a, .packedByteArray b => a == b
  | .array as, .array bs => Variant.beqList as bs
  | .dictionary as, .dictionary bs => Variant.beqEntries as bs
  | _, _ => false

def Variant.beqList : List Variant → List Variant → Bool
  | [], [] => true
  | a :: as, b :: bs => Variant.beq a b && Variant.beqList as bs
  | _, _ => false

def Variant.beqEntries : List (Variant × Variant) → List (Variant × Variant) → Bool
  | [], [] => true
  | (k, v) :: as, (l, w) :: bs => Variant.beq k l && Variant.beq v w && Variant.beqEntries as bs
  | _, _ => false
end

instance : BEq Variant := ⟨Variant.beq⟩

/-- `dictionary[key] = value`. -/
def Dictionary.set (key value : Variant) (d : Dictionary) : Dictionary := Entries.set key value d

/-- `dictionary.get(key)`. -/
def Dictionary.get? (key : Variant) (d : Dictionary) : Option Variant := d.lookup key

/-! ### Keys -/

mutual
theorem Variant.beq_iff : ∀ v w : Variant, Variant.beq v w = true ↔ v = w
  | .nil, w => by cases w <;> simp [Variant.beq]
  | .bool a, w => by cases w <;> simp [Variant.beq]
  | .int a, w => by cases w <;> simp [Variant.beq]
  | .float a, w => by cases w <;> simp [Variant.beq]
  | .string a, w => by cases w <;> simp [Variant.beq]
  | .packedByteArray a, w => by cases w <;> simp [Variant.beq]
  | .array as, w => by cases w <;> simp [Variant.beq, Variant.beqList_iff as]
  | .dictionary as, w => by cases w <;> simp [Variant.beq, Variant.beqEntries_iff as]

theorem Variant.beqList_iff : ∀ vs ws : List Variant, Variant.beqList vs ws = true ↔ vs = ws
  | [], ws => by cases ws <;> simp [Variant.beqList]
  | v :: vs, ws => by
    cases ws <;> simp [Variant.beqList, Variant.beq_iff v, Variant.beqList_iff vs]

theorem Variant.beqEntries_iff :
    ∀ es fs : List (Variant × Variant), Variant.beqEntries es fs = true ↔ es = fs
  | [], fs => by cases fs <;> simp [Variant.beqEntries]
  | (k, v) :: es, fs => by
    cases fs <;> simp [Variant.beqEntries, Variant.beq_iff k, Variant.beq_iff v,
      Variant.beqEntries_iff es, and_assoc, Prod.ext_iff]
end

instance : LawfulBEq Variant where
  eq_of_beq := (Variant.beq_iff _ _).mp
  rfl := (Variant.beq_iff _ _).mpr rfl

end XdgPortals
