import XdgPortals.Data.Conversion
import XdgPortals.Native.PowerSaver

/-!
# Interface versions

The critical sections of `read_interface_versions` and of the constructor that look versions up in
the cache and commit what was read.
-/

namespace XdgPortals

/-- The version a property value stands for; -1 when there is none. -/
def versionOf : Option GVariant → Int32
  | none       => -1
  | some value =>
    match gvariantToVariant value with
    | .int version => version.toInt32
    | _            => -1

/-- The property that holds an interface's version. -/
def versionProperty (interface : String) : String × String := (interface, "version")

/-- The properties the constructor reads. -/
def constructorProperties : List (String × String) :=
  (ifacePowerProfileMonitor, propPowerSaverEnabled) :: portalInterfaces.map versionProperty

namespace XdgPortalNative

/-- The cached versions, with -1 for the missing ones, and the interfaces that are missing with
their positions. -/
def lookupVersions (n : XdgPortalNative) (pInterfaces : List String) :
    List Int32 × List (String × ℕ) :=
  (pInterfaces.map fun interface => n.cachedVersions[interface]?.getD (-1),
    pInterfaces.zipIdx.filter fun missing => n.cachedVersions[missing.1]?.isNone)

/-- Cache an answer of the instance the read started against; a timeout is not an answer. -/
def commitVersion (n : XdgPortalNative) (generation : ℕ) (interface : String)
    (value : Option GVariant) (definitive : Bool) : XdgPortalNative :=
  if definitive && generation == n.portalGeneration then
    { n with cachedVersions := n.cachedVersions.insert interface (versionOf value) }
  else n

/-- The loop over what was read. -/
def commitVersions (n : XdgPortalNative) (generation : ℕ) :
    List String → List (Option GVariant) → List Bool → XdgPortalNative
  | interface :: interfaces, value :: values, definitive :: rest =>
    (n.commitVersion generation interface value definitive).commitVersions generation
      interfaces values rest
  | _, _, _ => n

lemma portalGeneration_commitVersion (n : XdgPortalNative) (generation : ℕ) (interface : String)
    (value : Option GVariant) (definitive : Bool) :
    (n.commitVersion generation interface value definitive).portalGeneration =
      n.portalGeneration := by
  rw [commitVersion]
  split_ifs <;> rfl

/-- Committing changes nothing but the cache. -/
lemma commitVersions_eq (n : XdgPortalNative) (generation : ℕ) (interfaces : List String)
    (values : List (Option GVariant)) (definitive : List Bool) : ∃ versions,
    n.commitVersions generation interfaces values definitive =
      { n with cachedVersions := versions } := by
  induction interfaces generalizing n values definitive with
  | nil => exact ⟨_, rfl⟩
  | cons interface interfaces ih =>
    cases values with
    | nil => exact ⟨_, rfl⟩
    | cons value values =>
      cases definitive with
      | nil => exact ⟨_, rfl⟩
      | cons d definitive =>
        obtain ⟨versions, heq⟩ :=
          ih (n.commitVersion generation interface value d) values definitive
        rw [commitVersions, heq, commitVersion]
        split_ifs
        · exact ⟨versions, rfl⟩
        · exact ⟨versions, rfl⟩

/-- The versions the caller gets: the cached ones, and those just read. -/
def fillVersions : List Int32 → List (String × ℕ) → List (Option GVariant) → List Int32
  | versions, (_, index) :: missing, value :: values =>
    fillVersions (versions.set index (versionOf value)) missing values
  | versions, _, _ => versions

/-- A whole call, with the properties it reads. The owner does not change while it waits. -/
def readInterfaceVersions (n : XdgPortalNative) (connected : Bool) (pInterfaces : List String)
    (arrived : List (ℕ × PropertyReply)) :
    XdgPortalNative × List Int32 × List (String × String) :=
  if !connected then (n, List.replicate pInterfaces.length (-1), [])
  else
    let generation := n.portalGeneration
    let (versions, missing) := n.lookupVersions pInterfaces
    if missing = [] then (n, versions, [])
    else
      let properties := missing.map fun interface => versionProperty interface.1
      let (values, definitive) := readProperties connected properties arrived
      (n.commitVersions generation (missing.map Prod.fst) values definitive,
        fillVersions versions missing values, properties)

end XdgPortalNative

end XdgPortals
