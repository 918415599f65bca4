import XdgPortals.Data.GVariant

/-!
# Typed values

The values of a type, by the rules of the D-Bus type system: the elements of an array share its
element type and the key of a dictionary entry is basic.
-/

namespace XdgPortals

/-- The types a dictionary key may have. -/
def GVariantType.isBasic : GVariantType → Bool
  | .variant | .maybe _ | .array _ | .tuple _ | .dictEntry _ _ => false
  | _ => true

/-- A value is of a type. -/
inductive GVariant.HasType : GVariant → GVariantType → Prop
  | boolean (b : Bool) : HasType (.boolean b) .boolean
  | byte (n : UInt8) : HasType (.byte n) .byte
  | int16 (n : Int16) : HasType (.int16 n) .int16
  | uint16 (n : UInt16) : HasType (.uint16 n) .uint16
  | int32 (n : Int32) : HasType (.int32 n) .int32
  | uint32 (n : UInt32) : HasType (.uint32 n) .uint32
  | int64 (n : Int64) : HasType (.int64 n) .int64
  | uint64 (n : UInt64) : HasType (.uint64 n) .uint64
  | handle (n : Int32) : HasType (.handle n) .handle
  | double (d : UInt64) : HasType (.double d) .double
  | string (s : String) : HasType (.string s) .string
  | objectPath (s : String) : HasType (.objectPath s) .objectPath
  | signature (s : String) : HasType (.signature s) .signature
  | variant {v : GVariant} {t : GVariantType} (hv : HasType v t) : HasType (.variant v) .variant
  | nothing (t : GVariantType) : HasType (.maybe t none) (.maybe t)
  | just {v : GVariant} {t : GVariantType} (hv : HasType v t) :
      HasType (.maybe t (some v)) (.maybe t)
  | array {t : GVariantType} {vs : List GVariant} (hvs : ∀ v ∈ vs, HasType v t) :
      HasType (.array t vs) (.array t)
  | tuple {vs : List GVariant} {ts : List GVariantType} (hvs : List.Forall₂ HasType vs ts) :
      HasType (.tuple vs) (.tuple ts)
  | dictEntry {k v : GVariant} {s t : GVariantType} (hbasic : s.isBasic = true)
      (hk : HasType k s) (hv : HasType v t) : HasType (.dictEntry k v) (.dictEntry s t)

namespace GVariant

/-- The values directly inside a value. -/
def children : GVariant → List GVariant
  | .variant v | .maybe _ (some v) => [v]
  | .array _ vs | .tuple vs => vs
  | .dictEntry k v => [k, v]
  | _ => []

lemma sizeOf_lt_of_mem_children {c v : GVariant} (h : c ∈ v.children) : sizeOf c < sizeOf v := by
  cases v with
  | variant v =>
    obtain rfl := List.mem_singleton.mp h
    rw [variant.sizeOf_spec]
    omega
  | maybe t v =>
    cases v with
    | none => cases h
    | some v =>
      obtain rfl := List.mem_singleton.mp h
      rw [maybe.sizeOf_spec, Option.some.sizeOf_spec]
      omega
  | array t vs =>
    have hlt : sizeOf c < sizeOf vs := List.sizeOf_lt_of_mem h
    rw [array.sizeOf_spec]
    omega
  | tuple vs =>
    have hlt : sizeOf c < sizeOf vs := List.sizeOf_lt_of_mem h
    rw [tuple.sizeOf_spec]
    omega
  | dictEntry k v =>
    have hkv : c = k ∨ c = v := by simpa [children] using h
    rw [dictEntry.sizeOf_spec]
    rcases hkv with rfl | rfl <;> omega
  | _ => cases h

/-- What holds of a value whenever it holds of the values directly inside it holds of every
value. -/
theorem induction_children {P : GVariant → Prop}
    (h : ∀ v : GVariant, (∀ c ∈ v.children, P c) → P v) (v : GVariant) : P v := by
  apply h
  intro c hc
  exact induction_children h c
termination_by sizeOf v
decreasing_by exact sizeOf_lt_of_mem_children hc

/-- The key of a dictionary entry. -/
def key : GVariant → GVariant
  | .dictEntry k _ => k
  | v => v

/-- The keys of a dictionary. -/
def keys : GVariant → List GVariant
  | .array (.dictEntry _ _) entries => entries.map key
  | _ => []

/-- Every dictionary in a value, the value itself included, has distinct keys. -/
inductive DistinctKeys : GVariant → Prop
  | mk {v : GVariant} (hkeys : v.keys.Nodup) (hchildren : ∀ c ∈ v.children, DistinctKeys c) :
      DistinctKeys v

lemma DistinctKeys.children {v : GVariant} (h : v.DistinctKeys) :
    ∀ c ∈ v.children, c.DistinctKeys := by
  cases h with
  | mk hkeys hchildren => exact hchildren

lemma DistinctKeys.keys {v : GVariant} (h : v.DistinctKeys) : v.keys.Nodup := by
  cases h with
  | mk hkeys hchildren => exact hkeys

end GVariant

end XdgPortals
