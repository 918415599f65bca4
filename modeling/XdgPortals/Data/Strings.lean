import Mathlib.Data.Int.Notation
import Mathlib.Data.List.Basic

/-!
# Strings

The functions of Godot's `String` that the URI checks use, on the list of code points.
-/

namespace XdgPortals

/-- The index of the first occurrence of a character, -1 when there is none. -/
def find (s : String) (what : Char) : ℤ :=
  match s.toList.findIdx? (· == what) with
  | some i => i
  | none   => -1

/-- `len` characters from position `start` on. -/
def substr (s : String) (start len : ℕ) : String :=
  String.ofList ((s.toList.drop start).take len)

/-- The lowercase form of an ASCII string. -/
def toLower (s : String) : String := String.ofList (s.toList.map Char.toLower)

end XdgPortals
