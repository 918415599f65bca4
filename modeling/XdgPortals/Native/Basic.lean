import Mathlib.Data.Int.Notation
import XdgPortals.Data.GVariant
import XdgPortals.Data.Variant
import XdgPortals.Library.BoundedQueue

/-!
# The state of the native backend

The members of `XdgPortalNative` that `state_mutex` guards, and the signals a critical section
decides to emit. Every function of the following modules is one critical section: what happens
between taking the lock and releasing it, with the signals that are handed to Godot afterwards.
-/

namespace XdgPortals

/-- Response code used whenever a request ends without the portal's answer. -/
def responseOther : UInt32 := 2

def maxUnclaimedResponses : ℕ := 32

/-- An interactive request, keyed by the handle returned to the caller. -/
structure Request where
  path : String
  context : String
  isInhibit : Bool := false
  answered : Bool := false

/-- A Response that arrived for a path no request claims yet. -/
structure UnclaimedResponse where
  path : String
  response : UInt32
  results : Dictionary

/-- The members guarded by `state_mutex`. An empty owner means nobody owns the portal's name. The
generation and the number of calls have no bound here: a `guint64` and an `int` hold them as long as
there are fewer than 2^64 owner changes and 2^31 calls at a time. -/
structure XdgPortalNative where
  powerSaverKnown : Bool := false
  powerSaverKnownOnce : Bool := false
  powerSaverEnabled : Bool := false
  portalOwnerSeen : Bool := false
  portalOwner : String := ""
  portalGeneration : ℕ := 0
  cachedVersions : Std.ExtTreeMap String Int32 := ∅
  requests : Std.ExtTreeMap String Request := ∅
  requestPaths : Std.ExtTreeMap String String := ∅
  unclaimedResponses : List UnclaimedResponse := []
  callsInFlight : ℤ := 0
  handleCounter : UInt32 := 0

/-- The signals handed to Godot with `call_deferred`. -/
inductive Signal where
  | powerSaverChanged (enabled : Bool)
  | requestCompleted (handle : String) (response : Int32) (results : Dictionary)
  | portalError (context message : String)

end XdgPortals
