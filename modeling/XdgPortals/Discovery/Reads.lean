import XdgPortals.Discovery.Rules

/-!
# The life of a batch of reads

A batch is started, filled while its reader waits, taken, and committed. Replies that come later
change nothing the reader sees.
-/

namespace XdgPortals

namespace Discovery

variable {s s' : Discovery} {a : Action} {reader : Reader} {r : Read}

/-- The properties a reader asks for. -/
def Read.Asks (r : Read) : Reader → Prop
  | .constructor => r.properties = constructorProperties
  | .versions _  => r.properties = r.missing.map fun interface => versionProperty interface.1

/-- What a step does to one reader. -/
inductive ReadChange (s : Discovery) (a : Action) (s' : Discovery) (reader : Reader) : Prop where
  | same (hread' : s'.reads reader = s.reads reader)
  | start (r : Read) (hnew : s.reads reader = none) (hread' : s'.reads reader = some r)
      (hasks : r.Asks reader) (hbatch : r.batch = .start r.properties.length)
      (hphase : r.phase = .waiting) (hgeneration : r.generation = s.native.portalGeneration)
      (hdepartures : r.departures = departures s.history) (hnative : s'.native = s.native)
      (hhistory : s'.history = s.history)
  | answered (index : ℕ) (reply : PropertyReply) (tenure : ℕ) (r : Read)
      (hread : s.reads reader = some r) (houtstanding : index ∈ r.outstanding)
      (property : String × String) (hproperty : r.properties[index]? = some property)
      (hphase : r.phase = .waiting) (ha : a = .reply reader index reply tenure)
      (hread' : s'.reads reader = some (r.onPropertyRead index reply))
      (hhistory : s'.history = .answered reader property reply tenure :: s.history)
  | late (index : ℕ) (reply : PropertyReply) (r : Read) (hread : s.reads reader = some r)
      (hphase : r.phase ≠ .waiting)
      (hread' : s'.reads reader = some (r.onPropertyRead index reply))
  | take (r : Read) (hread : s.reads reader = some r) (hphase : r.phase = .waiting)
      (hread' : s'.reads reader = some r.take)
  | seed (r : Read) (hread : s.reads reader = some r) (values : List (Option GVariant))
      (definitive : List Bool) (hphase : r.phase = .taken values definitive)
      (hread' : s'.reads reader = some { r with phase := .seeded values definitive })
  | commit (r : Read) (hread : s.reads reader = some r)
      (hread' : s'.reads reader = some { r with phase := .done })

lemma reads_setRead (s : Discovery) (reader k : Reader) (r : Read) :
    (s.setRead reader r).reads k = if k = reader then some r else s.reads k := by
  exact Function.update_apply ..

lemma reads_setRead_self (s : Discovery) (reader : Reader) (r : Read) :
    (s.setRead reader r).reads reader = some r := by
  rw [reads_setRead, if_pos rfl]

theorem Rule.readChange (h : Rule s a s') (reader : Reader) : ReadChange s a s' reader := by
  -- a step that sets one reader leaves the other ones
  have hother : ∀ k r, (s.setRead k r).reads = s'.reads → reader ≠ k →
      ReadChange s a s' reader := by
    intro k r hreads hne
    refine .same ?_
    rw [← hreads, reads_setRead, if_neg hne]
  cases h with
  | construct hnew =>
    by_cases hk : reader = .constructor
    · rw [hk]
      exact .start _ hnew (reads_setRead_self ..) rfl rfl rfl rfl rfl rfl rfl
    · exact hother _ _ rfl hk
  | cached call interfaces hmissing => exact .same rfl
  | readVersions call interfaces hnew hmissing =>
    by_cases hk : reader = .versions call
    · rw [hk]
      exact .start _ hnew (reads_setRead_self ..) rfl rfl rfl rfl rfl rfl rfl
    · exact hother _ _ rfl hk
  | answered k index reply tenure r hread houtstanding property hproperty hphase =>
    by_cases hk : reader = k
    · rw [hk]
      exact .answered index reply tenure r hread houtstanding property hproperty hphase rfl
        (reads_setRead_self ..) rfl
    · exact hother _ _ rfl hk
  | late k index reply tenure r hread hphase =>
    by_cases hk : reader = k
    · rw [hk]
      exact .late index reply r hread hphase (reads_setRead_self ..)
    · exact hother _ _ rfl hk
  | take k r hread hphase =>
    by_cases hk : reader = k
    · rw [hk]
      exact .take r hread hphase (reads_setRead_self ..)
    · exact hother _ _ rfl hk
  | seed r hread values definitive hphase =>
    by_cases hk : reader = .constructor
    · rw [hk]
      exact .seed r hread values definitive hphase (reads_setRead_self s .constructor _)
    · exact hother _ _ rfl hk
  | commitSeed r hread values definitive hphase =>
    by_cases hk : reader = .constructor
    · rw [hk]
      exact .commit r hread (reads_setRead_self s .constructor _)
    · exact hother _ _ rfl hk
  | commit call r hread values definitive hphase =>
    by_cases hk : reader = .versions call
    · rw [hk]
      exact .commit r hread (reads_setRead_self s (.versions call) _)
    · exact hother _ _ rfl hk
  | constructed r hread hphase hnot => exact .same rfl
  | propertiesChanged parameters => exact .same rfl
  | powerSaverRead reply => exact .same rfl
  | portalAppeared owner => exact .same rfl
  | portalVanished => exact .same rfl

/-! ### What a reader asks for -/

/-- The batch has a place for every property, and nothing has arrived for the outstanding ones. -/
structure Read.Proper (r : Read) (reader : Reader) : Prop where
  asks : r.Asks reader
  values : r.batch.values.length = r.properties.length
  outstanding : ∀ i ∈ r.outstanding, r.batch.values[i]?.join = none

lemma asks_of_eq {r' : Read} (h : r.Asks reader) (hproperties : r'.properties = r.properties)
    (hmissing : r'.missing = r.missing) : r'.Asks reader := by
  cases reader with
  | constructor => exact hproperties.trans h
  | versions call =>
    rw [Read.Asks, hproperties, hmissing]
    exact h

lemma Read.Proper.onPropertyRead (hp : r.Proper reader) (index : ℕ) (reply : PropertyReply) :
    (r.onPropertyRead index reply).Proper reader := by
  refine ⟨asks_of_eq hp.asks rfl rfl, List.length_set.trans hp.values, fun i hi => ?_⟩
  · obtain ⟨hmem, hne⟩ := List.mem_filter.mp hi
    have hne : index ≠ i := by
      rintro rfl
      simp at hne
    show (r.batch.values.set index (replyValue reply))[i]?.join = none
    rw [List.getElem?_set_ne hne]
    exact hp.outstanding i hmem

lemma Read.Proper.step (hp : ∀ r, s.reads reader = some r → r.Proper reader)
    (hchange : ReadChange s a s' reader) (r : Read) (hr : s'.reads reader = some r) :
    r.Proper reader := by
  cases hchange with
  | same hread' => exact hp r (hread'.symm.trans hr)
  | start r' hnew hread' hasks hbatch hphase hgeneration hdepartures hnative hhistory =>
    cases hread'.symm.trans hr
    refine ⟨hasks, ?_, fun i _ => ?_⟩
    · rw [hbatch]
      exact List.length_replicate
    · rw [hbatch]
      simp only [PropertyBatch.start, List.getElem?_replicate]
      split_ifs <;> rfl
  | answered index reply tenure r' hread houtstanding property hproperty hphase ha hread'
      hhistory =>
    cases hread'.symm.trans hr
    exact (hp r' hread).onPropertyRead index reply
  | late index reply r' hread hphase hread' =>
    cases hread'.symm.trans hr
    exact (hp r' hread).onPropertyRead index reply
  | take r' hread hphase hread' =>
    cases hread'.symm.trans hr
    refine ⟨asks_of_eq (hp r' hread).asks rfl rfl,
      (List.length_map _).trans (hp r' hread).values, fun i _ => ?_⟩
    · simp only [Read.take, PropertyBatch.release, List.getElem?_map]
      cases r'.batch.values[i]? <;> rfl
  | seed r' hread values definitive hphase hread' =>
    cases hread'.symm.trans hr
    exact ⟨asks_of_eq (hp r' hread).asks rfl rfl, (hp r' hread).values, (hp r' hread).outstanding⟩
  | commit r' hread hread' =>
    cases hread'.symm.trans hr
    exact ⟨asks_of_eq (hp r' hread).asks rfl rfl, (hp r' hread).values, (hp r' hread).outstanding⟩

theorem proper_of_reachable (hs : machine.Reachable s) :
    ∀ r, s.reads reader = some r → r.Proper reader := by
  induction hs with
  | init =>
    intro r hr
    cases hr
  | step hr ha ih => exact Read.Proper.step ih ((Rule.of_step ha).readChange reader)

end Discovery

end XdgPortals
