import Mathlib.Data.List.Basic

/-!
# GLib values and errors

The part of GLib's data the extension reads: the values of the D-Bus type system and the errors
of a failed call.
-/

namespace XdgPortals

/-- The type strings of GLib values. -/
inductive GVariantType where
  | boolean | byte | int16 | uint16 | int32 | uint32 | int64 | uint64 | handle | double
  | string | objectPath | signature | variant
  | maybe (element : GVariantType)
  | array (element : GVariantType)
  | tuple (items : List GVariantType)
  | dictEntry (key value : GVariantType)

/-- A GLib value. Arrays and maybes carry their element type, which an empty one has too.
A `double` is its bit pattern. -/
inductive GVariant where
  | boolean (value : Bool)
  | byte (value : UInt8)
  | int16 (value : Int16)
  | uint16 (value : UInt16)
  | int32 (value : Int32)
  | uint32 (value : UInt32)
  | int64 (value : Int64)
  | uint64 (value : UInt64)
  | handle (value : Int32)
  | double (bits : UInt64)
  | string (value : String)
  | objectPath (value : String)
  | signature (value : String)
  | variant (value : GVariant)
  | maybe (element : GVariantType) (value : Option GVariant)
  | array (element : GVariantType) (children : List GVariant)
  | tuple (children : List GVariant)
  | dictEntry (key value : GVariant)

/-- `G_VARIANT_TYPE_DICTIONARY` is an array of dictionary entries. -/
def GVariantType.isDictEntry : GVariantType → Bool
  | .dictEntry _ _ => true
  | _              => false

/-- `G_VARIANT_TYPE_BYTESTRING` is an array of bytes. -/
def GVariantType.isByte : GVariantType → Bool
  | .byte => true
  | _     => false

/-- The error codes the extension tells apart; every other one is `other`. -/
inductive GErrorCode where
  | ioCancelled
  | dbusInvalidArgs
  | dbusUnknownInterface
  | dbusUnknownProperty
  | dbusUnknownMethod
  | dbusUnknownObject
  | other
  deriving DecidableEq

/-- The error of a failed call. -/
structure GError where
  code : GErrorCode
  message : String

end XdgPortals
