import XdgPortals.Data.GVariant
import XdgPortals.Data.Variant

/-!
# Converting GLib values to Godot values

`gvariant_to_variant` and `gvariant_dict_to_dictionary`, for values that are there: the callers
handle a null pointer.
-/

namespace XdgPortals

/-- The bytes of an `ay`. -/
def bytesToPacked : List GVariant → List UInt8
  | []               => []
  | .byte b :: rest  => b :: bytesToPacked rest
  | _ :: rest        => bytesToPacked rest

mutual
/-- Convert a value of any type. -/
def gvariantToVariant : GVariant → Variant
  | .boolean b    => .bool b
  | .byte n       => .int n.toUInt64.toInt64
  | .int16 n      => .int n.toInt64
  | .uint16 n     => .int n.toUInt64.toInt64
  | .int32 n      => .int n.toInt64
  | .uint32 n     => .int n.toUInt64.toInt64
  | .int64 n      => .int n
  | .uint64 n     =>
    -- D-Bus `t` can exceed int64; it is clamped
    let limit : UInt64 := 0x7fffffffffffffff
    .int (if n > limit then limit else n).toInt64
  | .handle n     => .int n.toInt64
  | .double d     => .float d
  | .string s     => .string s
  | .objectPath s => .string s
  | .signature s  => .string s
  | .variant v    => gvariantToVariant v
  | .maybe _ none => .nil
  | .maybe _ (some v) => gvariantToVariant v
  | .array element children =>
    if element.isDictEntry then .dictionary (entriesToDictionary children [])
    else if element.isByte then .packedByteArray (bytesToPacked children)
    else .array (childrenToArray children)
  | .tuple children => .array (childrenToArray children)
  | .dictEntry k v => .array [gvariantToVariant k, gvariantToVariant v]

/-- The loop that pushes back each converted child. -/
def childrenToArray : List GVariant → List Variant
  | []      => []
  | v :: vs => gvariantToVariant v :: childrenToArray vs

/-- The loop of `gvariant_dict_to_dictionary`, which sets each entry in turn. -/
def entriesToDictionary : List GVariant → Dictionary → Dictionary
  | [], d => d
  | .dictEntry k v :: rest, d =>
    entriesToDictionary rest (Dictionary.set (gvariantToVariant k) (gvariantToVariant v) d)
  | _ :: rest, d => entriesToDictionary rest d
end

/-- Convert a dictionary; anything else gives the empty one. -/
def gvariantDictToDictionary : GVariant → Dictionary
  | .array element children =>
    if element.isDictEntry then entriesToDictionary children [] else []
  | _ => []

end XdgPortals
