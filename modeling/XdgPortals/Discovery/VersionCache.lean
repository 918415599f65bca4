import XdgPortals.Discovery.Reads

/-!
# The version cache

A reader commits only while the generation is the one it captured. No instance has departed since
then, so what it was answered comes from the present instance, or from a later one.
-/

namespace XdgPortals

open XdgPortalNative

namespace XdgPortalNative

variable {n : XdgPortalNative} {generation : ℕ} {name : String}

lemma cached_commitVersion (interface : String) (value : Option GVariant) (d : Bool) :
    (n.commitVersion generation interface value d).cachedVersions[name]? =
      if d = true ∧ generation = n.portalGeneration ∧ interface = name then some (versionOf value)
      else n.cachedVersions[name]? := by
  unfold commitVersion
  by_cases hd : d = true ∧ generation = n.portalGeneration
  · rw [if_pos (by simpa using hd)]
    simp [Std.ExtTreeMap.getElem?_insert, hd.1, hd.2]
  · rw [if_neg (by simpa using hd), if_neg fun h => hd ⟨h.1, h.2.1⟩]

lemma portalGeneration_commitVersions (interfaces : List String)
    (values : List (Option GVariant)) (definitive : List Bool) :
    (n.commitVersions generation interfaces values definitive).portalGeneration =
      n.portalGeneration := by
  obtain ⟨versions, heq⟩ := commitVersions_eq n generation interfaces values definitive
  rw [heq]

/-- A committed entry was there before, or is a definitive answer to a read that was started in
the present generation. -/
lemma cached_commitVersions {interfaces : List String} {values : List (Option GVariant)}
    {definitive : List Bool} {version : Int32}
    (h : (n.commitVersions generation interfaces values definitive).cachedVersions[name]? =
      some version) :
    n.cachedVersions[name]? = some version ∨ generation = n.portalGeneration ∧
      ∃ (i : ℕ) (value : Option GVariant), interfaces[i]? = some name ∧ values[i]? = some value ∧
        definitive[i]? = some true ∧ version = versionOf value := by
  induction interfaces generalizing n values definitive with
  | nil => exact Or.inl h
  | cons interface interfaces ih =>
    cases values with
    | nil => exact Or.inl h
    | cons value values =>
      cases definitive with
      | nil => exact Or.inl h
      | cons d definitive =>
        rcases ih h with hbefore | ⟨hgeneration, i, value', hi, hvalue, hd, hversion⟩
        · rw [cached_commitVersion] at hbefore
          split_ifs at hbefore with hcommit
          · cases hbefore
            obtain ⟨rfl, hgeneration, rfl⟩ := hcommit
            exact Or.inr ⟨hgeneration, 0, value, rfl, rfl, rfl, rfl⟩
          · exact Or.inl hbefore
        · rw [portalGeneration_commitVersion] at hgeneration
          exact Or.inr ⟨hgeneration, i + 1, value', hi, hvalue, hd, hversion⟩

/-- An interface without a definitive answer keeps its entry, or the lack of one. -/
lemma cached_commitVersions_of_not {interfaces : List String} {values : List (Option GVariant)}
    {definitive : List Bool}
    (h : ∀ i : ℕ, interfaces[i]? = some name → definitive[i]? ≠ some true) :
    (n.commitVersions generation interfaces values definitive).cachedVersions[name]? =
      n.cachedVersions[name]? := by
  induction interfaces generalizing n values definitive with
  | nil => rfl
  | cons interface interfaces ih =>
    cases values with
    | nil => rfl
    | cons value values =>
      cases definitive with
      | nil => rfl
      | cons d definitive =>
        rw [commitVersions, ih fun i hi => h (i + 1) hi, cached_commitVersion, if_neg]
        rintro ⟨rfl, -, rfl⟩
        exact h 0 rfl rfl

end XdgPortalNative

namespace Discovery

variable {s s' t : Discovery} {a : Action} {reader : Reader} {r : Read}

/-! ### What a step does to the cache -/

/-- The values the reader has or is going to take. -/
def Read.results (r : Read) : Option (List (Option GVariant) × List Bool) :=
  match r.phase with
  | .waiting => some (r.batch.values, r.batch.definitive)
  | .taken values definitive => some (values, definitive)
  | .seeded values definitive => some (values, definitive)
  | .done => none

/-- The last critical section of a reader. -/
inductive Commits : Action → Reader → Prop where
  | seed : Commits .commitSeed .constructor
  | call (call : ℕ) : Commits (.commit call) (.versions call)

/-- What a step does to the cache and to the generation. -/
inductive CacheChange (s : Discovery) (a : Action) (s' : Discovery) : Prop where
  | quiet (new : List Event) (hquiet : ∀ e ∈ new, e.departs = false)
      (hhistory : s'.history = new ++ s.history)
      (hcache : s'.native.cachedVersions = s.native.cachedVersions)
      (hgeneration : s'.native.portalGeneration = s.native.portalGeneration)
  | committed (reader : Reader) (hcommits : Commits a reader) (r : Read)
      (hread : s.reads reader = some r) (values : List (Option GVariant)) (definitive : List Bool)
      (hresults : r.results = some (values, definitive)) (first : ℕ) (interfaces : List String)
      (hinterfaces : ∀ (i : ℕ) (name : String), interfaces[i]? = some name →
        r.properties[first + i]? = some (versionProperty name))
      (new : List Event) (hquiet : ∀ e ∈ new, e.departs = false)
      (hhistory : s'.history = new ++ s.history)
      (hnative : s'.native = s.native.commitVersions r.generation interfaces (values.drop first)
        (definitive.drop first))
  | cleared (hnot : ∀ reader, ¬ Commits a reader) (e : Event)
      (hhistory : s'.history = e :: s.history)
      (hcache : s'.native.cachedVersions = ∅)
      (hgeneration : s'.native.portalGeneration = s.native.portalGeneration + 1)

lemma departs_applied {event : Bool → Event} (hevent : ∀ v, (event v).departs = false)
    (value : Option Bool) (signals : List Signal) :
    ∀ e ∈ signals.map Event.signal ++ (value.map event).toList, e.departs = false := by
  intro e he
  rcases List.mem_append.mp he with he | he
  · obtain ⟨signal, -, rfl⟩ := List.mem_map.mp he
    rfl
  · cases value with
    | none => cases he
    | some v =>
      cases List.mem_singleton.mp he
      exact hevent v

lemma cacheChange_applied (s : Discovery) (value : Option Bool) (fromSignal : Bool)
    {event : Bool → Event} (hevent : ∀ v, (event v).departs = false) {s₀ : Discovery}
    (hhistory : s₀.history = s.history) :
    CacheChange s a (s₀.applied value event (s.native.applyPowerSaver? value fromSignal)) := by
  refine .quiet _ (departs_applied hevent value (s.native.applyPowerSaver? value fromSignal).2)
    ?_ ?_ ?_
  · rw [applied, hhistory, List.append_assoc]
  · cases value <;> rfl
  · cases value <;> rfl

theorem Rule.cacheChange (h : Rule s a s')
    (hproper : ∀ reader r, s.reads reader = some r → r.Proper reader) : CacheChange s a s' := by
  cases h with
  | construct hnew => exact .quiet [] (by simp) rfl rfl rfl
  | cached call interfaces hmissing => exact .quiet [_] (by simp [Event.departs]) rfl rfl rfl
  | readVersions call interfaces hnew hmissing => exact .quiet [] (by simp) rfl rfl rfl
  | answered reader index reply tenure r hread houtstanding property hproperty hphase =>
    exact .quiet [_] (by simp [Event.departs]) rfl rfl rfl
  | late reader index reply tenure r hread hphase => exact .quiet [] (by simp) rfl rfl rfl
  | take reader r hread hphase => exact .quiet [] (by simp) rfl rfl rfl
  | seed r hread values definitive hphase =>
    exact cacheChange_applied s _ false (fun v => rfl) rfl
  | commitSeed r hread values definitive hphase =>
    refine .committed .constructor .seed r hread values definitive ?_ 1 portalInterfaces ?_ []
      (by simp) rfl ?_
    · rw [Read.results, hphase]
    · intro i name hi
      have hasks : r.properties = constructorProperties := (hproper _ r hread).asks
      rw [hasks, constructorProperties, Nat.add_comm, List.getElem?_cons_succ, List.getElem?_map,
        hi]
      rfl
    · rw [List.drop_one, List.drop_one]
  | constructed r hread hphase hnot => exact .quiet [] (by simp) rfl rfl rfl
  | commit call r hread values definitive hphase =>
    refine .committed (.versions call) (.call call) r hread values definitive ?_ 0
      (r.missing.map Prod.fst) ?_ [_] (by simp [Event.departs]) rfl rfl
    · rw [Read.results, hphase]
    · intro i name hi
      have hasks : r.properties = r.missing.map fun interface => versionProperty interface.1 :=
        (hproper _ r hread).asks
      rw [List.getElem?_map, Option.map_eq_some_iff] at hi
      obtain ⟨interface, hi, rfl⟩ := hi
      rw [hasks, Nat.zero_add, List.getElem?_map, hi]
      rfl
  | propertiesChanged parameters => exact cacheChange_applied s _ true (fun v => rfl) rfl
  | powerSaverRead reply => exact cacheChange_applied s _ false (fun v => rfl) rfl
  | portalAppeared owner =>
    cases hreplaced : (s.native.onPortalAppeared owner).2 with
    | true =>
      obtain ⟨hgeneration, hcache⟩ := onPortalAppeared_of_replaced hreplaced
      exact .cleared (fun reader hc => by cases hc) _ rfl hcache hgeneration
    | false =>
      obtain ⟨hgeneration, hcache⟩ := onPortalAppeared_of_same hreplaced
      exact .quiet [_] (by simp [Event.departs]) rfl hcache hgeneration
  | portalVanished => exact .cleared (fun reader hc => by cases hc) _ rfl rfl rfl

/-! ### What the readers have been told -/

lemma departures_append_of_quiet {new : List Event} (hquiet : ∀ e ∈ new, e.departs = false)
    (es : List Event) : departures (new ++ es) = departures es := by
  rw [departures, List.countP_append, List.countP_eq_zero.mpr, Nat.zero_add]
  · rfl
  · intro e he
    rw [hquiet e he]
    exact Bool.false_ne_true

/-- The generation never goes back, and while it stays nothing has departed. -/
lemma CacheChange.generation (h : CacheChange s a s') :
    s.native.portalGeneration ≤ s'.native.portalGeneration ∧
      (s'.native.portalGeneration = s.native.portalGeneration →
        departures s'.history = departures s.history) ∧
      ∃ new, s'.history = new ++ s.history := by
  cases h with
  | quiet new hquiet hhistory hcache hgeneration =>
    refine ⟨Nat.le_of_eq hgeneration.symm, fun _ => ?_, new, hhistory⟩
    rw [hhistory, departures_append_of_quiet hquiet]
  | committed reader hcommits r hread values definitive hresults first interfaces hinterfaces new
      hquiet hhistory hnative =>
    refine ⟨Nat.le_of_eq ?_, fun _ => ?_, new, hhistory⟩
    · rw [hnative, portalGeneration_commitVersions]
    · rw [hhistory, departures_append_of_quiet hquiet]
  | cleared hnot e hhistory hcache hgeneration =>
    refine ⟨by omega, fun heq => ?_, [e], hhistory⟩
    omega

/-- A definitive answer to the reader's question about the property, not from an instance that had
departed when the reader captured the generation. -/
def Told (history : List Event) (reader : Reader) (r : Read) (property : String × String)
    (value : Option GVariant) : Prop :=
  ∃ reply tenure, .answered reader property reply tenure ∈ history ∧ isDefinitive reply = true ∧
    value = replyValue reply ∧ r.departures ≤ tenure

/-- What a reader knows of the generation, and where its definitive values come from. -/
structure Read.Current (r : Read) (reader : Reader) (s : Discovery) : Prop where
  generation : r.generation ≤ s.native.portalGeneration
  departures : r.generation = s.native.portalGeneration →
    r.departures = Discovery.departures s.history
  told : ∀ values definitive, r.results = some (values, definitive) → ∀ (i : ℕ) property,
    r.properties[i]? = some property → definitive[i]? = some true →
      ∃ value, values[i]? = some value ∧ Told s.history reader r property value

/-- A property reply of a definitive kind comes from no instance that had departed when the reads
were sent. -/
def AnsweredInTurn (s : Discovery) : Action → Prop
  | .reply reader _ reply tenure => isDefinitive reply = true →
      ∀ r ∈ s.reads reader, r.departures ≤ tenure
  | _ => True

instance (s : Discovery) : DecidablePred (AnsweredInTurn s)
  | .reply reader _ reply tenure => inferInstanceAs (Decidable (isDefinitive reply = true →
      ∀ r ∈ s.reads reader, r.departures ≤ tenure))
  | .construct | .readVersions .. | .take _ | .seed | .commitSeed | .constructed | .commit _
  | .propertiesChanged _ | .powerSaverRead _ | .portalAppeared _ | .portalVanished => isTrue trivial

lemma Told.append {es : List Event} {property : String × String} {value : Option GVariant}
    (h : Told es reader r property value) (new : List Event) :
    Told (new ++ es) reader r property value := by
  obtain ⟨reply, tenure, hmem, hrest⟩ := h
  exact ⟨reply, tenure, List.mem_append_right new hmem, hrest⟩

lemma start_definitive (size i : ℕ) :
    (PropertyBatch.start size).definitive[i]? ≠ some true := by
  simp only [PropertyBatch.start, List.getElem?_replicate]
  split_ifs <;> simp

/-- What a reader knew stays true while it keeps its locals and its values. -/
lemma Read.Current.keep {r' : Read} (hc : r.Current reader s) (hcache : CacheChange s a s')
    (hproperties : r'.properties = r.properties) (hgeneration : r'.generation = r.generation)
    (hdepartures : r'.departures = r.departures)
    (hresults : ∀ x, r'.results = some x → r.results = some x) : r'.Current reader s' := by
  obtain ⟨hle, hsame, new, hnew⟩ := hcache.generation
  refine ⟨?_, fun heq => ?_, fun values definitive hx i property hi hd => ?_⟩
  · rw [hgeneration]
    exact Nat.le_trans hc.generation hle
  · have hbefore := hc.generation
    have hgen : r.generation = s.native.portalGeneration := by omega
    rw [hdepartures, hc.departures hgen, hsame (by omega)]
  · rw [hproperties] at hi
    obtain ⟨value, hvalue, htold⟩ := hc.told values definitive (hresults _ hx) i property hi hd
    obtain ⟨reply, tenure, hmem, hdefinitive, heq, htenure⟩ := htold.append new
    rw [← hnew] at hmem
    exact ⟨value, hvalue, reply, tenure, hmem, hdefinitive, heq, hdepartures ▸ htenure⟩

lemma Read.Current.start (hbatch : r.batch = .start r.properties.length)
    (hphase : r.phase = .waiting) (hgeneration : r.generation = s.native.portalGeneration)
    (hdepartures : r.departures = Discovery.departures s.history) : r.Current reader s := by
  refine ⟨Nat.le_of_eq hgeneration, fun _ => hdepartures,
    fun values definitive hx i property hi hd => ?_⟩
  rw [Read.results, hphase, hbatch] at hx
  cases hx
  exact absurd hd (start_definitive _ i)

/-- A reply in turn is what the reader has been told about the property it was asked for. -/
lemma Read.Current.answered {index : ℕ} {reply : PropertyReply} {tenure : ℕ}
    {property : String × String} (hc : r.Current reader s) (hcache : CacheChange s a s')
    (hlength : r.batch.values.length = r.properties.length)
    (hproperty : r.properties[index]? = some property) (hphase : r.phase = .waiting)
    (hturn : isDefinitive reply = true → r.departures ≤ tenure)
    (hhistory : s'.history = .answered reader property reply tenure :: s.history) :
    (r.onPropertyRead index reply).Current reader s' := by
  -- before this reply the reader is as it was
  have hkept : r.Current reader s' := hc.keep hcache rfl rfl rfl fun _ => id
  refine ⟨hkept.generation, hkept.departures, fun values definitive hx i property' hi hd => ?_⟩
  simp only [Read.results, Read.onPropertyRead, hphase, PropertyBatch.onPropertyRead,
    Option.some.injEq, Prod.mk.injEq] at hx
  obtain ⟨rfl, rfl⟩ := hx
  by_cases hi' : index = i
  · subst hi'
    cases hproperty.symm.trans hi
    have hindex : index < r.batch.values.length := by
      rw [hlength]
      exact (List.getElem?_eq_some_iff.mp hproperty).1
    have hdefinitive : isDefinitive reply = true := by
      rw [List.getElem?_set] at hd
      split_ifs at hd
      · exact Option.some.inj hd
      · contradiction
    refine ⟨replyValue reply, List.getElem?_set_self hindex, reply, tenure, ?_, hdefinitive, rfl,
      hturn hdefinitive⟩
    rw [hhistory]
    exact List.mem_cons_self ..
  · rw [List.getElem?_set_ne hi'] at hd ⊢
    have hbefore : r.results = some (r.batch.values, r.batch.definitive) := by
      rw [Read.results, hphase]
    exact hkept.told r.batch.values r.batch.definitive hbefore i property' hi hd

theorem Read.Current.step (hproper : ∀ r, s.reads reader = some r → r.Proper reader)
    (hc : ∀ r, s.reads reader = some r → r.Current reader s) (hchange : ReadChange s a s' reader)
    (hcache : CacheChange s a s') (ha : AnsweredInTurn s a) (r : Read)
    (hr : s'.reads reader = some r) : r.Current reader s' := by
  cases hchange with
  | same hread' => exact (hc r (hread'.symm.trans hr)).keep hcache rfl rfl rfl fun _ => id
  | start r' hnone hread' hasks hbatch hphase hgeneration hdepartures hnative hhistory =>
    cases hread'.symm.trans hr
    refine .start hbatch hphase ?_ ?_
    · rw [hgeneration, hnative]
    · rw [hdepartures, hhistory]
  | answered index reply tenure r' hread houtstanding property hproperty hphase haction hread'
      hhistory =>
    cases hread'.symm.trans hr
    subst haction
    exact (hc r' hread).answered hcache (hproper r' hread).values hproperty hphase
      (fun hdefinitive => ha hdefinitive r' hread) hhistory
  | late index reply r' hread hphase hread' =>
    cases hread'.symm.trans hr
    refine (hc r' hread).keep hcache rfl rfl rfl fun x hx => ?_
    cases hp : r'.phase <;> simp_all [Read.results, Read.onPropertyRead]
  | take r' hread hphase hread' =>
    cases hread'.symm.trans hr
    refine (hc r' hread).keep hcache rfl rfl rfl fun x hx => ?_
    rw [Read.results, hphase]
    exact hx
  | seed r' hread values definitive hphase hread' =>
    cases hread'.symm.trans hr
    refine (hc r' hread).keep hcache rfl rfl rfl fun x hx => ?_
    rw [Read.results, hphase]
    exact hx
  | commit r' hread hread' =>
    cases hread'.symm.trans hr
    exact (hc r' hread).keep hcache rfl rfl rfl fun x hx => by cases hx

/-! ### Where the entries come from -/

/-- The entry was committed from a definitive answer of an instance whose departure has not been
processed. -/
def Sourced (s : Discovery) (name : String) (version : Int32) : Prop :=
  ∃ reader reply tenure, .answered reader (versionProperty name) reply tenure ∈ s.history ∧
    isDefinitive reply = true ∧ version = versionOf (replyValue reply) ∧
    departures s.history ≤ tenure

/-- Every entry has a source, and every reader what it was told. -/
structure Cached (s : Discovery) : Prop where
  reach : machine.Reachable s
  entry : ∀ (name : String) version, s.native.cachedVersions[name]? = some version →
    Sourced s name version
  current : ∀ reader r, s.reads reader = some r → r.Current reader s

lemma Sourced.keep {name : String} {version : Int32} (h : Sourced s name version)
    {new : List Event} (hnew : s'.history = new ++ s.history)
    (hdepartures : departures s'.history = departures s.history) : Sourced s' name version := by
  obtain ⟨reader, reply, tenure, hmem, hdefinitive, hversion, hle⟩ := h
  refine ⟨reader, reply, tenure, ?_, hdefinitive, hversion, hdepartures ▸ hle⟩
  rw [hnew]
  exact List.mem_append_right new hmem

theorem Cached.step (hc : Cached s) (ha : AnsweredInTurn s a)
    (hstep : machine.step s a = some s') : Cached s' := by
  have hrule := Rule.of_step hstep
  have hproper : ∀ reader r, s.reads reader = some r → r.Proper reader :=
    fun reader => proper_of_reachable hc.reach
  have hcache := hrule.cacheChange hproper
  refine ⟨hc.reach.step hstep, fun name version hentry => ?_, fun reader =>
    Read.Current.step (hproper reader) (hc.current reader) (hrule.readChange reader) hcache ha⟩
  cases hcache with
  | quiet new hquiet hhistory hsame hgeneration =>
    rw [hsame] at hentry
    refine (hc.entry name version hentry).keep hhistory ?_
    rw [hhistory, departures_append_of_quiet hquiet]
  | committed reader hcommits r hread values definitive hresults first interfaces hinterfaces new
      hquiet hhistory hnative =>
    have hdepartures : departures s'.history = departures s.history := by
      rw [hhistory, departures_append_of_quiet hquiet]
    rw [hnative] at hentry
    rcases cached_commitVersions hentry with hbefore | ⟨hgeneration, i, value, hi, hvalue, hd, rfl⟩
    · exact (hc.entry name version hbefore).keep hhistory hdepartures
    · -- nothing has departed since the generation was captured
      have hcurrent := hc.current reader r hread
      rw [List.getElem?_drop] at hvalue hd
      obtain ⟨value', hvalue', reply, tenure, hmem, hdefinitive, rfl, hle⟩ :=
        hcurrent.told values definitive hresults (first + i) _ (hinterfaces i name hi) hd
      cases hvalue.symm.trans hvalue'
      rw [hcurrent.departures hgeneration] at hle
      exact Sourced.keep ⟨reader, reply, tenure, hmem, hdefinitive, rfl, hle⟩ hhistory hdepartures
  | cleared hnot e hhistory hempty hgeneration =>
    rw [hempty] at hentry
    simp at hentry

lemma Cached.run (hc : Cached s) {as : List Action} (halong : machine.Along AnsweredInTurn s as)
    (hrun : machine.exec s as = some t) : Cached t :=
  Machine.exec_induction (fun _ _ _ ha hc hstep => hc.step ha hstep) halong hc hrun

/-- An interface about which a reader was told nothing definitive keeps its entry, or the lack of
one, when the reader commits. -/
lemma Cached.not_committed (hc : Cached s) (hstep : machine.step s a = some s')
    (hcommits : Commits a reader) {name : String}
    (hnot : ∀ reply tenure, .answered reader (versionProperty name) reply tenure ∈ s.history →
      isDefinitive reply = false) :
    s'.native.cachedVersions[name]? = s.native.cachedVersions[name]? := by
  cases (Rule.of_step hstep).cacheChange fun reader => proper_of_reachable hc.reach with
  | quiet new hquiet hhistory hsame hgeneration => rw [hsame]
  | committed reader' hcommits' r hread values definitive hresults first interfaces hinterfaces new
      hquiet hhistory hnative =>
    have hreader : reader' = reader := by cases hcommits <;> cases hcommits' <;> rfl
    subst hreader
    rw [hnative]
    refine cached_commitVersions_of_not fun i hi hd => ?_
    rw [List.getElem?_drop] at hd
    obtain ⟨value, -, reply, tenure, hmem, hdefinitive, -⟩ :=
      (hc.current reader' r hread).told values definitive hresults (first + i) _
        (hinterfaces i name hi) hd
    rw [hnot reply tenure hmem] at hdefinitive
    cases hdefinitive
  | cleared hnever e hhistory hempty hgeneration => exact absurd hcommits (hnever reader)

/-- Every cached version was committed from a definitive answer of an instance whose departure has
not been processed, and a reader caches nothing about an interface without such an answer. -/
theorem cached_versions_sourced {as : List Action}
    (halong : machine.Along AnsweredInTurn machine.init as)
    (hrun : machine.exec machine.init as = some t) :
    (∀ (name : String) version, t.native.cachedVersions[name]? = some version →
      ∃ reader reply tenure, .answered reader (versionProperty name) reply tenure ∈ t.history ∧
        isDefinitive reply = true ∧ version = versionOf (replyValue reply) ∧
        departures t.history ≤ tenure) ∧
    ∀ a t' reader (name : String), machine.step t a = some t' → Commits a reader →
      (∀ reply tenure, .answered reader (versionProperty name) reply tenure ∈ t.history →
        isDefinitive reply = false) →
      t'.native.cachedVersions[name]? = t.native.cachedVersions[name]? := by
  have hinit : Cached machine.init :=
    ⟨.init, fun name version h => by simp [machine] at h, fun reader r h => by cases h⟩
  have hc := hinit.run halong hrun
  exact ⟨hc.entry, fun a t' reader name hstep hcommits hnot =>
    hc.not_committed hstep hcommits hnot⟩

/-- The constructor's reads, one answered with a version and another one timed out. -/
theorem cached_versions_sourced_startup : ∃ t,
    machine.exec machine.init
      [.construct, .portalAppeared ":1.5", .reply .constructor 2 (.ok (.uint32 3)) 0,
        .reply .constructor 1 (.error (some ⟨.other, "Timeout was reached"⟩)) 0,
        .take .constructor, .seed, .commitSeed] = some t ∧
    t.native.cachedVersions[ifaceInhibit]? = some 3 ∧
    t.native.cachedVersions[ifaceGameMode]? = none ∧
    ∃ reader reply tenure,
      .answered reader (versionProperty ifaceInhibit) reply tenure ∈ t.history ∧
      isDefinitive reply = true ∧ (3 : Int32) = versionOf (replyValue reply) ∧
      departures t.history ≤ tenure := by
  obtain ⟨t, ht, hinhibit, hgamemode⟩ := machine.exists_exec_of_any machine.init
    [.construct, .portalAppeared ":1.5", .reply .constructor 2 (.ok (.uint32 3)) 0,
      .reply .constructor 1 (.error (some ⟨.other, "Timeout was reached"⟩)) 0,
      .take .constructor, .seed, .commitSeed]
    (P := fun t => t.native.cachedVersions[ifaceInhibit]? = some 3 ∧
      t.native.cachedVersions[ifaceGameMode]? = none) (by decide +kernel)
  refine ⟨t, ht, hinhibit, hgamemode, ?_⟩
  exact (cached_versions_sourced (by decide) ht).1 ifaceInhibit 3 hinhibit

end Discovery

end XdgPortals
