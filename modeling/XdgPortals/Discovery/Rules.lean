import XdgPortals.Discovery.System

/-!
# What a step of discovery can do

The outcomes of a step, one for each way through it.
-/

namespace XdgPortals

namespace Discovery

/-- The outcomes of a step. -/
inductive Rule (s : Discovery) : Action → Discovery → Prop where
  | construct (hnew : s.reads .constructor = none) :
      Rule s .construct (s.setRead .constructor
        { properties := constructorProperties
          generation := s.native.portalGeneration
          departures := departures s.history })
  | cached (call : ℕ) (interfaces : List String)
      (hmissing : (s.native.lookupVersions interfaces).2 = []) :
      Rule s (.readVersions call interfaces)
        { s with history :=
            .versionsRead call (s.native.lookupVersions interfaces).1 :: s.history }
  | readVersions (call : ℕ) (interfaces : List String) (hnew : s.reads (.versions call) = none)
      (hmissing : (s.native.lookupVersions interfaces).2 ≠ []) :
      Rule s (.readVersions call interfaces) (s.setRead (.versions call)
        { properties :=
            (s.native.lookupVersions interfaces).2.map fun interface => versionProperty interface.1
          generation := s.native.portalGeneration
          departures := departures s.history
          versions := (s.native.lookupVersions interfaces).1
          missing := (s.native.lookupVersions interfaces).2 })
  | answered (reader : Reader) (index : ℕ) (reply : PropertyReply) (tenure : ℕ) (r : Read)
      (hread : s.reads reader = some r) (houtstanding : index ∈ r.outstanding)
      (property : String × String) (hproperty : r.properties[index]? = some property)
      (hphase : r.phase = .waiting) :
      Rule s (.reply reader index reply tenure)
        { s.setRead reader (r.onPropertyRead index reply) with
          history := .answered reader property reply tenure :: s.history }
  | late (reader : Reader) (index : ℕ) (reply : PropertyReply) (tenure : ℕ) (r : Read)
      (hread : s.reads reader = some r) (hphase : r.phase ≠ .waiting) :
      Rule s (.reply reader index reply tenure) (s.setRead reader (r.onPropertyRead index reply))
  | take (reader : Reader) (r : Read) (hread : s.reads reader = some r)
      (hphase : r.phase = .waiting) : Rule s (.take reader) (s.setRead reader r.take)
  | seed (r : Read) (hread : s.reads .constructor = some r) (values : List (Option GVariant))
      (definitive : List Bool) (hphase : r.phase = .taken values definitive) :
      Rule s .seed
        ((s.setRead .constructor { r with phase := .seeded values definitive }).applied
          (powerSaverOf values[0]?.join) .seeded (s.native.seedPowerSaver values))
  | commitSeed (r : Read) (hread : s.reads .constructor = some r)
      (values : List (Option GVariant)) (definitive : List Bool)
      (hphase : r.phase = .seeded values definitive) :
      Rule s .commitSeed
        { s.setRead .constructor { r with phase := .done } with
          native := s.native.commitVersions r.generation portalInterfaces values.tail
            definitive.tail }
  | constructed (r : Read) (hread : s.reads .constructor = some r) (hphase : r.phase = .done)
      (hnot : s.constructed = false) :
      Rule s .constructed { s with constructed := true }
  | commit (call : ℕ) (r : Read) (hread : s.reads (.versions call) = some r)
      (values : List (Option GVariant)) (definitive : List Bool)
      (hphase : r.phase = .taken values definitive) :
      Rule s (.commit call)
        { s.setRead (.versions call) { r with phase := .done } with
          native := s.native.commitVersions r.generation (r.missing.map Prod.fst) values definitive
          history := .versionsRead call
            (XdgPortalNative.fillVersions r.versions r.missing values) :: s.history }
  | propertiesChanged (parameters : GVariant) :
      Rule s (.propertiesChanged parameters)
        (s.applied (notifiedPowerSaver parameters) .reported
          (s.native.onPropertiesChanged parameters))
  | powerSaverRead (reply : PropertyReply) :
      Rule s (.powerSaverRead reply)
        (s.applied (powerSaverOf (replyValue reply)) .reported (s.native.onPowerSaverRead reply))
  | portalAppeared (owner : String) :
      Rule s (.portalAppeared owner)
        { s with
          native := (s.native.onPortalAppeared owner).1
          history := .portalAppeared s.native.portalOwner owner
            (s.native.onPortalAppeared owner).2 :: s.history }
  | portalVanished :
      Rule s .portalVanished
        { s with
          native := s.native.onPortalVanished.1
          history := .portalVanished s.native.portalOwner :: s.history }

variable {s s' : Discovery} {a : Action}

lemma isWaiting_iff {p : Phase} : p.isWaiting = true ↔ p = .waiting := by
  cases p <;> simp [Phase.isWaiting]

/-- Every step follows one of the rules. -/
theorem Rule.of_step (h : machine.step s a = some s') : Rule s a s' := by
  change step s a = some s' at h
  cases a with
  | construct =>
    simp only [step] at h
    split at h
    · cases h
    · next hnew =>
      cases h
      exact .construct hnew
  | readVersions call interfaces =>
    simp only [step] at h
    split at h
    · cases h
    · next hnew =>
      split_ifs at h with hmissing
      · cases h
        exact .cached call interfaces hmissing
      · cases h
        exact .readVersions call interfaces hnew hmissing
  | reply reader index reply tenure =>
    simp only [step] at h
    split at h
    · cases h
    · next r hread =>
      split_ifs at h with houtstanding hphase
      · split at h
        · cases h
        · next property hproperty =>
          cases h
          exact .answered reader index reply tenure r hread houtstanding property hproperty
            (isWaiting_iff.mp hphase)
      · split at h
        · cases h
        · cases h
          exact .late reader index reply tenure r hread fun hw => hphase (isWaiting_iff.mpr hw)
  | take reader =>
    simp only [step] at h
    split at h
    · cases h
    · next r hread =>
      split_ifs at h with hphase
      cases h
      exact .take reader r hread (isWaiting_iff.mp hphase)
  | seed =>
    simp only [step] at h
    split at h
    · cases h
    · next r hread =>
      split at h
      · next values definitive hphase =>
        cases h
        exact .seed r hread values definitive hphase
      · cases h
  | commitSeed =>
    simp only [step] at h
    split at h
    · cases h
    · next r hread =>
      split at h
      · next values definitive hphase =>
        cases h
        exact .commitSeed r hread values definitive hphase
      · cases h
  | constructed =>
    simp only [step] at h
    split at h
    · cases h
    · next r hread =>
      split at h
      · next hphase =>
        split_ifs at h with hnot
        cases h
        exact .constructed r hread hphase (by simpa using hnot)
      · cases h
  | commit call =>
    simp only [step] at h
    split at h
    · cases h
    · next r hread =>
      split at h
      · next values definitive hphase =>
        cases h
        exact .commit call r hread values definitive hphase
      · cases h
  | propertiesChanged parameters =>
    cases h
    exact .propertiesChanged parameters
  | powerSaverRead reply =>
    cases h
    exact .powerSaverRead reply
  | portalAppeared owner =>
    cases h
    exact .portalAppeared owner
  | portalVanished =>
    cases h
    exact .portalVanished

end Discovery

end XdgPortals
