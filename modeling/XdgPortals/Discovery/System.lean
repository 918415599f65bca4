import Mathlib.Logic.Function.Basic
import XdgPortals.Library.History
import XdgPortals.Library.Runs
import XdgPortals.Native.Lifecycle
import XdgPortals.Native.Versions

/-!
# Discovery as a step system

What the client knows of the portal is read in parallel, by the constructor and by every
`read_interface_versions`, while the worker dispatches replies, change notifications and name
reports. A step is one callback or one critical section.
-/

namespace XdgPortals

namespace Discovery

/-- Who waits for a batch of reads. -/
inductive Reader where
  | constructor
  | versions (call : ℕ)
  deriving DecidableEq

/-- How far a reader has come after it sent its reads. -/
inductive Phase where
  | waiting
  | taken (values : List (Option GVariant)) (definitive : List Bool)
  | seeded (values : List (Option GVariant)) (definitive : List Bool)
  | done

/-- A batch of reads with the locals of its reader, and the number of departures the client had
processed when it captured the generation. -/
structure Read where
  properties : List (String × String)
  generation : ℕ
  departures : ℕ
  batch : PropertyBatch := .start properties.length
  outstanding : List ℕ := List.range properties.length
  versions : List Int32 := []
  missing : List (String × ℕ) := []
  phase : Phase := .waiting

/-- What a history records. A reply comes with the number of the instance that gave it: instances
are numbered in the order in which they own the portal's name. -/
inductive Event where
  | answered (reader : Reader) (property : String × String) (reply : PropertyReply)
      (tenure : ℕ)
  | seeded (value : Bool)
  | reported (value : Bool)
  | portalAppeared (old owner : String) (replaced : Bool)
  | portalVanished (old : String)
  | versionsRead (call : ℕ) (versions : List Int32)
  | signal (signal : Signal)

/-- The client processes that an instance no longer owns the name. -/
def Event.departs : Event → Bool
  | .portalAppeared old _ replaced => replaced && old != ""
  | .portalVanished old => old != ""
  | _ => false

/-- The departures processed so far. The instance of that number is the one owning the name, or
the next one to. -/
def departures (history : List Event) : ℕ := history.countP Event.departs

inductive Action where
  | construct
  | readVersions (call : ℕ) (interfaces : List String)
  | reply (reader : Reader) (index : ℕ) (reply : PropertyReply) (tenure : ℕ)
  | take (reader : Reader)
  | seed
  | commitSeed
  | constructed
  | commit (call : ℕ)
  | propertiesChanged (parameters : GVariant)
  | powerSaverRead (reply : PropertyReply)
  | portalAppeared (owner : String)
  | portalVanished

end Discovery

open Discovery in
/-- The discovered state, the batches that were sent, and whether the constructor has returned. -/
structure Discovery where
  native : XdgPortalNative := {}
  reads : Reader → Option Read := fun _ => none
  constructed : Bool := false
  history : List Event := []

namespace Discovery

/-- The value `on_property_read` leaves in the batch. -/
def Read.onPropertyRead (r : Read) (index : ℕ) (reply : PropertyReply) : Read :=
  { r with
      batch := r.batch.onPropertyRead index reply
      outstanding := r.outstanding.filter (· != index) }

/-- All reads have returned, or the caller gives up: it takes what has arrived. -/
def Read.take (r : Read) : Read :=
  { r with batch := r.batch.release, phase := .taken r.batch.values r.batch.definitive }

def Phase.isWaiting : Phase → Bool
  | .waiting => true
  | _        => false

def setRead (s : Discovery) (reader : Reader) (r : Read) : Discovery :=
  { s with reads := Function.update s.reads reader (some r) }

/-- Take over what a power-saver callback made of the value it carried, under the event. -/
def applied (s : Discovery) (value : Option Bool) (event : Bool → Event)
    (result : XdgPortalNative × List Signal) : Discovery :=
  { s with
      native := result.1
      history := result.2.map Event.signal ++ ((value.map event).toList ++ s.history) }

/-- One step. -/
def step (s : Discovery) : Action → Option Discovery
  | .construct =>
    match s.reads .constructor with
    | some _ => none
    | none   => some (s.setRead .constructor
        { properties := constructorProperties
          generation := s.native.portalGeneration
          departures := departures s.history })
  | .readVersions call interfaces =>
    match s.reads (.versions call) with
    | some _ => none
    | none   =>
      let (versions, missing) := s.native.lookupVersions interfaces
      if missing = [] then some { s with history := .versionsRead call versions :: s.history }
      else some (s.setRead (.versions call)
        { properties := missing.map fun interface => versionProperty interface.1
          generation := s.native.portalGeneration
          departures := departures s.history
          versions := versions
          missing := missing })
  | .reply reader index reply tenure =>
    match s.reads reader with
    | none   => none
    | some r =>
      if index ∈ r.outstanding then
        match r.properties[index]? with
        | none          => none
        | some property =>
          let s := s.setRead reader (r.onPropertyRead index reply)
          -- a value that comes too late is freed with the batch
          if r.phase.isWaiting then
            some { s with history := .answered reader property reply tenure :: s.history }
          else some s
      else none
  | .take reader =>
    match s.reads reader with
    | none   => none
    | some r => if r.phase.isWaiting then some (s.setRead reader r.take) else none
  | .seed =>
    match s.reads .constructor with
    | none   => none
    | some r =>
      match r.phase with
      | .taken values definitive =>
        let s := s.setRead .constructor { r with phase := .seeded values definitive }
        some (s.applied (powerSaverOf values[0]?.join) .seeded (s.native.seedPowerSaver values))
      | _ => none
  | .commitSeed =>
    match s.reads .constructor with
    | none   => none
    | some r =>
      match r.phase with
      | .seeded values definitive =>
        let native := s.native.commitVersions r.generation portalInterfaces values.tail
          definitive.tail
        some { s.setRead .constructor { r with phase := .done } with native := native }
      | _ => none
  | .constructed =>
    match s.reads .constructor with
    | none   => none
    | some r =>
      match r.phase with
      | .done => if s.constructed then none else some { s with constructed := true }
      | _     => none
  | .commit call =>
    match s.reads (.versions call) with
    | none   => none
    | some r =>
      match r.phase with
      | .taken values definitive =>
        let native := s.native.commitVersions r.generation (r.missing.map Prod.fst) values
          definitive
        let versions := XdgPortalNative.fillVersions r.versions r.missing values
        some { s.setRead (.versions call) { r with phase := .done } with
          native := native
          history := .versionsRead call versions :: s.history }
      | _ => none
  | .propertiesChanged parameters =>
    some (s.applied (notifiedPowerSaver parameters) .reported
      (s.native.onPropertiesChanged parameters))
  | .powerSaverRead reply =>
    some (s.applied (powerSaverOf (replyValue reply)) .reported (s.native.onPowerSaverRead reply))
  | .portalAppeared owner =>
    let (native, replaced) := s.native.onPortalAppeared owner
    some { s with
      native := native
      history := .portalAppeared s.native.portalOwner owner replaced :: s.history }
  | .portalVanished =>
    some { s with
      native := s.native.onPortalVanished.1
      history := .portalVanished s.native.portalOwner :: s.history }

/-- Discovery from the startup on. -/
def machine : Machine Discovery Action where
  init := {}
  step := step

end Discovery

end XdgPortals
