import XdgPortals.Discovery.Reads

/-!
# The power-saver state over a run

The constructor applies the value of its read only after all its reads have ended. What was
dispatched in between is older news to it, unless nothing was, or the last of it said the same.
-/

namespace XdgPortals

open XdgPortalNative

/-- The three flags of the power-saver state. -/
def XdgPortalNative.power (n : XdgPortalNative) : Bool × Bool × Bool :=
  (n.powerSaverKnown, n.powerSaverKnownOnce, n.powerSaverEnabled)

section Power

variable {n m : XdgPortalNative}

lemma powerSaverState_of_power (h : n.power = m.power) :
    n.powerSaverState = m.powerSaverState := by
  simp only [power, Prod.mk.injEq] at h
  rw [powerSaverState, powerSaverState, h.1, h.2.2]

lemma power_commitVersions (generation : ℕ) (interfaces : List String)
    (values : List (Option GVariant)) (definitive : List Bool) :
    (n.commitVersions generation interfaces values definitive).power = n.power := by
  obtain ⟨versions, heq⟩ := commitVersions_eq n generation interfaces values definitive
  rw [heq]
  rfl

lemma power_onPortalAppeared (owner : String) : (n.onPortalAppeared owner).1.power = n.power := by
  obtain ⟨generation, versions, heq⟩ := onPortalAppeared_fst n owner
  rw [heq]
  rfl

end Power

namespace Discovery

variable {s s' t : Discovery} {a : Action}

/-! ### What the messages say -/

/-- The boolean that the reply to the constructor's read carries. -/
def Event.seedReply? : Event → Option Bool
  | .answered .constructor property reply _ =>
    if property = (ifacePowerProfileMonitor, propPowerSaverEnabled) then
      powerSaverOf (replyValue reply)
    else none
  | _ => none

/-- What an event says about the state: a value, or that there is none any more. -/
def Event.message? : Event → Option (Option Bool)
  | .reported value => some (some value)
  | .portalVanished _ => some none
  | e => e.seedReply?.map some

/-- The value of the last message since the portal was last seen to vanish. -/
def lastValue (history : List Event) : Option Bool := (history.findSome? Event.message?).join

/-- `power_saver_state` for a value. -/
def stateOf : Option Bool → ℤ
  | none       => -1
  | some value => if value then 1 else 0

lemma stateOf_inj : ∀ {v w : Option Bool}, stateOf v = stateOf w ↔ v = w
  | none, none | some true, some true | some false, some false => iff_of_true rfl rfl
  | none, some true | none, some false | some true, none | some false, none
  | some true, some false | some false, some true => iff_of_false (by decide) (by decide)

section LastValue

variable {e : Event} (es : List Event)

lemma lastValue_cons_of_message {v : Option Bool} (h : e.message? = some v) :
    lastValue (e :: es) = v := by
  rw [lastValue, List.findSome?_cons, h]
  rfl

lemma lastValue_cons_of_silent (h : e.message? = none) : lastValue (e :: es) = lastValue es := by
  rw [lastValue, List.findSome?_cons, h]
  rfl

end LastValue

/-- Nothing was dispatched since the constructor's reply that says otherwise: no notification,
re-read or vanish report, or the last of these carries the value, too. -/
def undisturbed (value : Bool) : List Event → Bool
  | [] => false
  | .reported w :: _ => w == value
  | .portalVanished _ :: _ => false
  | e :: es => e.seedReply?.isSome || undisturbed value es

/-- The constructor applied no value, or one that was undisturbed, or a message or a vanish report
has come since. -/
def seedCurrent : List Event → Bool
  | [] => true
  | .seeded value :: es => undisturbed value es
  | .reported _ :: _ => true
  | .portalVanished _ :: _ => true
  | _ :: es => seedCurrent es

lemma undisturbed_answered (v : Bool) (reader : Reader) (property : String × String)
    (reply : PropertyReply) (tenure : ℕ) (es : List Event) :
    undisturbed v (.answered reader property reply tenure :: es) =
      ((Event.answered reader property reply tenure).seedReply?.isSome || undisturbed v es) :=
  rfl

lemma undisturbed_iff {v : Bool} {es : List Event}
    (hreply : es.findSome? Event.seedReply? = some v) :
    undisturbed v es = true ↔ lastValue es = some v := by
  induction es with
  | nil => cases hreply
  | cons e es ih =>
    rw [List.findSome?_cons] at hreply
    cases e with
    | reported w =>
      rw [lastValue_cons_of_message es rfl, undisturbed, beq_iff_eq, Option.some_inj]
    | portalVanished old =>
      rw [lastValue_cons_of_message es rfl]
      exact iff_of_false Bool.false_ne_true (by simp)
    | answered reader property reply tenure =>
      cases hseed : (Event.answered reader property reply tenure).seedReply? with
      | none =>
        rw [hseed] at hreply
        rw [lastValue_cons_of_silent es (by simp [Event.message?, hseed]), undisturbed_answered,
          hseed]
        exact ih hreply
      | some w =>
        rw [hseed] at hreply
        rw [lastValue_cons_of_message es (v := some w) (by simp [Event.message?, hseed]),
          undisturbed_answered, hseed]
        exact iff_of_true rfl hreply
    | seeded w => exact ih hreply
    | portalAppeared old owner replaced => exact ih hreply
    | versionsRead call versions => exact ih hreply
    | signal signal => exact ih hreply

/-! ### What a step does to the state -/

/-- The value the constructor is going to apply, as far as its reply has arrived. -/
def Read.held (r : Read) : Option Bool :=
  match r.phase with
  | .waiting        => powerSaverOf r.batch.values[0]?.join
  | .taken values _ => powerSaverOf values[0]?.join
  | _               => none

def held (s : Discovery) : Option Bool := (s.reads .constructor).bind Read.held

lemma held_of_read {r : Read} (h : s.reads .constructor = some r) : s.held = r.held := by
  rw [held, h]
  rfl

lemma held_setRead {r : Read} (h : s'.reads = (s.setRead .constructor r).reads) :
    s'.held = r.held :=
  held_of_read (h ▸ reads_setRead_self ..)

/-- The event says nothing about the state, and no signal is emitted. -/
def Event.Silent : Event → Prop
  | .reported _ | .portalVanished _ | .seeded _ | .signal _ => False
  | e => e.seedReply? = none

/-- What a step does to the power-saver state. -/
inductive PowerChange (s s' : Discovery) : Prop where
  | quiet (new : List Event) (hsilent : ∀ e ∈ new, e.Silent)
      (hhistory : s'.history = new ++ s.history) (hpower : s'.native.power = s.native.power)
      (hheld : s'.held = s.held)
  | answered (e : Event) (value : Bool) (he : e.seedReply? = some value)
      (hhistory : s'.history = e :: s.history) (hpower : s'.native.power = s.native.power)
      (hheld : s'.held = some value)
  | seeded (value : Bool) (hheld : s.held = some value) (hheld' : s'.held = none)
      (hnative : s'.native = (s.native.applyPowerSaver value false).1)
      (hhistory : s'.history = (s.native.applyPowerSaver value false).2.map Event.signal ++
        .seeded value :: s.history)
  | reported (value fromSignal : Bool) (hheld : s'.held = s.held)
      (hnative : s'.native = (s.native.applyPowerSaver value fromSignal).1)
      (hhistory : s'.history = (s.native.applyPowerSaver value fromSignal).2.map Event.signal ++
        .reported value :: s.history)
  | vanished (old : String) (hheld : s'.held = s.held)
      (hpower : s'.native.power =
        (false, s.native.powerSaverKnownOnce, s.native.powerSaverEnabled))
      (hhistory : s'.history = .portalVanished old :: s.history)

/-- A callback whose value is not there changes nothing; one whose value is there applies it. -/
lemma powerChange_reported (s : Discovery) (value : Option Bool) (fromSignal : Bool) :
    PowerChange s
      (s.applied value .reported (s.native.applyPowerSaver? value fromSignal)) := by
  cases value with
  | none => exact .quiet [] (by simp) rfl rfl rfl
  | some value => exact .reported value fromSignal rfl rfl rfl

/-- A late reply, and a reply to another read, leave the value the constructor is going to apply. -/
lemma held_onPropertyRead {r : Read} {index : ℕ} {reply : PropertyReply}
    (h : r.phase ≠ .waiting ∨ index ≠ 0) : (r.onPropertyRead index reply).held = r.held := by
  unfold Read.held
  show (match r.phase with
    | .waiting => powerSaverOf (r.batch.values.set index (replyValue reply))[0]?.join
    | .taken values _ => powerSaverOf values[0]?.join
    | _ => none) = _
  cases hphase : r.phase with
  | waiting =>
    have hindex := h.resolve_left (not_not_intro hphase)
    simp only [List.getElem?_set_ne hindex]
  | taken values definitive => rfl
  | seeded values definitive => rfl
  | done => rfl

/-- The reply to the power-saver read is what the constructor is going to apply. -/
lemma held_onPropertyRead_self {r : Read} (reply : PropertyReply) (hphase : r.phase = .waiting)
    (hvalues : 0 < r.batch.values.length) :
    (r.onPropertyRead 0 reply).held = powerSaverOf (replyValue reply) := by
  unfold Read.held
  simp only [Read.onPropertyRead, PropertyBatch.onPropertyRead, hphase]
  rw [List.getElem?_set_self hvalues]
  rfl

lemma constructorProperties_eq {index : ℕ} {property : String × String}
    (h : constructorProperties[index]? = some property) :
    index = 0 ∧ property = (ifacePowerProfileMonitor, propPowerSaverEnabled) ∨
      index ≠ 0 ∧ property ≠ (ifacePowerProfileMonitor, propPowerSaverEnabled) := by
  cases index with
  | zero =>
    cases h
    exact Or.inl ⟨rfl, rfl⟩
  | succ index =>
    refine Or.inr ⟨Nat.succ_ne_zero index, ?_⟩
    rintro rfl
    obtain ⟨interface, -, heq⟩ := List.mem_map.mp (List.mem_of_getElem? h)
    have hversion : "version" = propPowerSaverEnabled := congrArg Prod.snd heq
    revert hversion
    decide

/-- The reply to the power-saver read itself: from now on the constructor holds its value. -/
lemma powerChange_seedReply {r : Read} (hread : s.reads .constructor = some r)
    (hp : r.Proper .constructor) (houtstanding : 0 ∈ r.outstanding) (hphase : r.phase = .waiting)
    (reply : PropertyReply) (tenure : ℕ) :
    PowerChange s { s.setRead .constructor (r.onPropertyRead 0 reply) with
      history := .answered .constructor (ifacePowerProfileMonitor, propPowerSaverEnabled) reply
        tenure :: s.history } := by
  have hlength : 0 < r.batch.values.length := by
    rw [hp.values, hp.asks]
    decide
  have hheld : s.held = none := by
    rw [held_of_read hread, Read.held, hphase]
    dsimp only
    rw [hp.outstanding 0 houtstanding]
    rfl
  have hheld' := held_onPropertyRead_self reply hphase hlength
  cases hvalue : powerSaverOf (replyValue reply) with
  | none =>
    refine .quiet [_] ?_ rfl rfl ((held_setRead (s := s) rfl).trans ?_)
    · simp [Event.Silent, Event.seedReply?, hvalue]
    · rw [hheld, hheld', hvalue]
  | some value =>
    refine .answered _ value ?_ rfl rfl ((held_setRead (s := s) rfl).trans ?_)
    · simp [Event.seedReply?, hvalue]
    · rw [hheld', hvalue]

theorem Rule.powerChange (h : Rule s a s')
    (hproper : ∀ r, s.reads .constructor = some r → r.Proper .constructor) :
    PowerChange s s' := by
  cases h with
  | construct hnew =>
    refine .quiet [] (by simp) rfl rfl ((held_setRead (s := s) rfl).trans ?_)
    rw [held, hnew]
    rfl
  | cached call interfaces hmissing =>
    exact .quiet [_] (by simp [Event.Silent, Event.seedReply?]) rfl rfl rfl
  | readVersions call interfaces hnew hmissing => exact .quiet [] (by simp) rfl rfl rfl
  | answered reader index reply tenure r hread houtstanding property hproperty hphase =>
    cases reader with
    | versions call => exact .quiet [_] (by simp [Event.Silent, Event.seedReply?]) rfl rfl rfl
    | constructor =>
      have hp := hproper r hread
      rw [hp.asks] at hproperty
      rcases constructorProperties_eq hproperty with ⟨rfl, rfl⟩ | ⟨hindex, hne⟩
      · exact powerChange_seedReply hread hp houtstanding hphase reply tenure
      · refine .quiet [_] ?_ rfl rfl ((held_setRead (s := s) rfl).trans ?_)
        · simp [Event.Silent, Event.seedReply?, hne]
        · rw [held_of_read hread, held_onPropertyRead (Or.inr hindex)]
  | late reader index reply tenure r hread hphase =>
    refine .quiet [] (by simp) rfl rfl ?_
    cases reader with
    | versions call => rfl
    | constructor =>
      refine (held_setRead (s := s) rfl).trans ?_
      rw [held_of_read hread, held_onPropertyRead (Or.inl hphase)]
  | take reader r hread hphase =>
    refine .quiet [] (by simp) rfl rfl ?_
    cases reader with
    | versions call => rfl
    | constructor =>
      refine (held_setRead (s := s) rfl).trans ?_
      rw [held_of_read hread, Read.held, Read.held, hphase]
      rfl
  | seed r hread values definitive hphase =>
    have hheld : s.held = powerSaverOf values[0]?.join := by
      rw [held_of_read hread, Read.held, hphase]
    cases hvalue : powerSaverOf values[0]?.join with
    | none =>
      refine .quiet [] (by simp) ?_ ?_ ((held_setRead (s := s) rfl).trans (hheld.trans hvalue).symm)
      · simp only [applied, seedPowerSaver, applyPowerSaver?, hvalue]
        rfl
      · simp only [applied, seedPowerSaver, applyPowerSaver?, hvalue]
    | some value =>
      refine .seeded value (hheld.trans hvalue) (held_setRead (s := s) rfl) ?_ ?_
      · simp only [applied, seedPowerSaver, applyPowerSaver?, hvalue]
      · simp only [applied, seedPowerSaver, applyPowerSaver?, hvalue]
        rfl
  | commitSeed r hread values definitive hphase =>
    refine .quiet [] (by simp) rfl (power_commitVersions ..) ((held_setRead (s := s) rfl).trans ?_)
    rw [held_of_read hread, Read.held, Read.held, hphase]
  | constructed r hread hphase hnot => exact .quiet [] (by simp) rfl rfl rfl
  | commit call r hread values definitive hphase =>
    exact .quiet [_] (by simp [Event.Silent, Event.seedReply?]) rfl (power_commitVersions ..) rfl
  | propertiesChanged parameters => exact powerChange_reported s _ true
  | powerSaverRead reply => exact powerChange_reported s _ false
  | portalAppeared owner =>
    exact .quiet [_] (by simp [Event.Silent, Event.seedReply?]) rfl (power_onPortalAppeared ..) rfl
  | portalVanished => exact .vanished s.native.portalOwner rfl rfl rfl

/-! ### The invariant -/

/-- While the constructor holds a value, that is what its reply said; otherwise the state is the
last value there was, unless the constructor applied a value that was not current. -/
def Tracked (s : Discovery) : Prop :=
  match s.held with
  | some value => s.history.findSome? Event.seedReply? = some value
  | none => s.native.powerSaverState = stateOf (lastValue s.history) ↔ seedCurrent s.history = true

section Tracked

variable {new es : List Event} {e : Event} {v : Bool}

/-- Events that say nothing. -/
lemma message_of_silent (h : e.Silent) : e.message? = none ∧ e.seedReply? = none := by
  cases e with
  | answered reader property reply tenure =>
    refine ⟨?_, h⟩
    rw [Event.message?, show (Event.answered reader property reply tenure).seedReply? = none from h]
    · rfl
    all_goals
      intros
      contradiction
  | portalAppeared old owner replaced => exact ⟨rfl, rfl⟩
  | versionsRead call versions => exact ⟨rfl, rfl⟩
  | seeded v => exact h.elim
  | reported v => exact h.elim
  | portalVanished old => exact h.elim
  | signal signal => exact h.elim

lemma seedCurrent_cons_of_silent (h : e.Silent) (es : List Event) :
    seedCurrent (e :: es) = seedCurrent es := by
  cases e with
  | answered reader property reply tenure => rfl
  | portalAppeared old owner replaced => rfl
  | versionsRead call versions => rfl
  | seeded v => exact h.elim
  | reported v => exact h.elim
  | portalVanished old => exact h.elim
  | signal signal => exact h.elim

lemma append_of_silent (hsilent : ∀ e ∈ new, e.Silent) (es : List Event) :
    lastValue (new ++ es) = lastValue es ∧ seedCurrent (new ++ es) = seedCurrent es ∧
      (new ++ es).findSome? Event.seedReply? = es.findSome? Event.seedReply? := by
  induction new with
  | nil => exact ⟨rfl, rfl, rfl⟩
  | cons e new ih =>
    rw [List.forall_mem_cons] at hsilent
    obtain ⟨hlast, hcurrent, hreply⟩ := ih hsilent.2
    obtain ⟨hmessage, hseed⟩ := message_of_silent hsilent.1
    refine ⟨?_, ?_, ?_⟩
    · rw [List.cons_append, lastValue_cons_of_silent _ hmessage, hlast]
    · rw [List.cons_append, seedCurrent_cons_of_silent hsilent.1, hcurrent]
    · rw [List.cons_append, List.findSome?_cons, hseed]
      exact hreply

/-- The signals of a step say nothing, either. -/
lemma append_signals (signals : List Signal) (es : List Event) :
    lastValue (signals.map Event.signal ++ es) = lastValue es ∧
      seedCurrent (signals.map Event.signal ++ es) = seedCurrent es ∧
      (signals.map Event.signal ++ es).findSome? Event.seedReply? =
        es.findSome? Event.seedReply? := by
  induction signals with
  | nil => exact ⟨rfl, rfl, rfl⟩
  | cons signal signals ih => exact ih

end Tracked

lemma powerSaverState_applyPowerSaver (n : XdgPortalNative) (value fromSignal : Bool) :
    (n.applyPowerSaver value fromSignal).1.powerSaverState = stateOf (some value) := rfl

theorem Tracked.step (ht : Tracked s) (h : PowerChange s s') : Tracked s' := by
  unfold Tracked at ht ⊢
  cases h with
  | quiet new hsilent hhistory hpower hheld =>
    obtain ⟨hlast, hcurrent, hreply⟩ := append_of_silent hsilent s.history
    rw [hheld, hhistory, hlast, hcurrent, hreply, powerSaverState_of_power hpower]
    exact ht
  | answered e value he hhistory hpower hheld =>
    rw [hheld, hhistory]
    dsimp only
    rw [List.findSome?_cons, he]
  | seeded value hheld hheld' hnative hhistory =>
    rw [hheld] at ht
    obtain ⟨hlast, hcurrent, -⟩ :=
      append_signals (s.native.applyPowerSaver value false).2 (.seeded value :: s.history)
    rw [hheld', hhistory, hlast, hcurrent, hnative]
    dsimp only
    rw [powerSaverState_applyPowerSaver, stateOf_inj, lastValue_cons_of_silent _ rfl, seedCurrent,
      undisturbed_iff ht]
    exact eq_comm
  | reported value fromSignal hheld hnative hhistory =>
    obtain ⟨hlast, hcurrent, hreply⟩ :=
      append_signals (s.native.applyPowerSaver value fromSignal).2 (.reported value :: s.history)
    rw [hheld, hhistory, hlast, hcurrent, hreply, hnative]
    cases hv : s.held with
    | some v =>
      rw [hv] at ht
      exact ht
    | none => exact iff_of_true rfl rfl
  | vanished old hheld hpower hhistory =>
    rw [hheld, hhistory]
    cases hv : s.held with
    | some v =>
      rw [hv] at ht
      exact ht
    | none =>
      refine iff_of_true ?_ rfl
      rw [powerSaverState_of_power (m := { s.native with powerSaverKnown := false }) hpower]
      rfl

theorem tracked_of_reachable (hs : machine.Reachable s) : Tracked s := by
  induction hs with
  | init => exact iff_of_true rfl rfl
  | step hr ha ih =>
    exact ih.step ((Rule.of_step ha).powerChange (proper_of_reachable hr))

/-! ### After the constructor has returned -/

/-- The constructor returns while the state is current. -/
def ReturnsCurrent (s : Discovery) : Action → Prop
  | .constructed => seedCurrent s.history = true
  | _ => True

instance (s : Discovery) : DecidablePred (ReturnsCurrent s)
  | .constructed => inferInstanceAs (Decidable (seedCurrent s.history = true))
  | .construct | .readVersions .. | .reply .. | .take _ | .seed | .commitSeed | .commit _
  | .propertiesChanged _ | .powerSaverRead _ | .portalAppeared _ | .portalVanished => isTrue trivial

/-- Only the constructor's return changes the flag, and nothing else. -/
lemma constructed_of_rule (h : Rule s a s') :
    (a = .constructed ∧ s' = { s with constructed := true }) ∨ s'.constructed = s.constructed := by
  cases h with
  | constructed r hread hphase hnot => exact Or.inl ⟨rfl, rfl⟩
  | construct hnew => exact Or.inr rfl
  | cached call interfaces hmissing => exact Or.inr rfl
  | readVersions call interfaces hnew hmissing => exact Or.inr rfl
  | answered reader index reply tenure r hread houtstanding property hproperty hphase =>
    exact Or.inr rfl
  | late reader index reply tenure r hread hphase => exact Or.inr rfl
  | take reader r hread hphase => exact Or.inr rfl
  | seed r hread values definitive hphase => exact Or.inr rfl
  | commitSeed r hread values definitive hphase => exact Or.inr rfl
  | commit call r hread values definitive hphase => exact Or.inr rfl
  | propertiesChanged parameters => exact Or.inr rfl
  | powerSaverRead reply => exact Or.inr rfl
  | portalAppeared owner => exact Or.inr rfl
  | portalVanished => exact Or.inr rfl

/-- By then the constructor's read is done with. -/
lemma done_of_constructed (hs : machine.Reachable s) (hc : s.constructed = true) :
    ∃ r, s.reads .constructor = some r ∧ r.phase = .done := by
  induction hs with
  | init => cases hc
  | step hr ha ih =>
    have hrule := Rule.of_step ha
    rcases constructed_of_rule hrule with ⟨rfl, rfl⟩ | hsame
    · cases hrule with
      | constructed r hread hphase hnot => exact ⟨r, hread, hphase⟩
    · obtain ⟨r, hread, hdone⟩ := ih (hsame.symm.trans hc)
      cases hrule.readChange .constructor with
      | same hread' => exact ⟨r, hread'.trans hread, hdone⟩
      | start r' hnew hread' hasks hbatch hphase hgeneration hdepartures hnative hhistory =>
        cases hnew.symm.trans hread
      | answered index reply tenure r' hread' houtstanding property hproperty hphase ha hafter
          hhistory =>
        cases hread.symm.trans hread'
        cases hdone.symm.trans hphase
      | late index reply r' hread' hphase hafter =>
        cases hread.symm.trans hread'
        exact ⟨_, hafter, hdone⟩
      | take r' hread' hphase hafter =>
        cases hread.symm.trans hread'
        cases hdone.symm.trans hphase
      | seed r' hread' values definitive hphase hafter =>
        cases hread.symm.trans hread'
        cases hdone.symm.trans hphase
      | commit r' hread' hafter => exact ⟨_, hafter, rfl⟩

lemma held_of_constructed (hs : machine.Reachable s) (hc : s.constructed = true) :
    s.held = none := by
  obtain ⟨r, hread, hdone⟩ := done_of_constructed hs hc
  rw [held_of_read hread, Read.held, hdone]

/-- From then on the state is current if and only if it was when the constructor returned. -/
lemma current_iff (hs : machine.Reachable s) (hc : s.constructed = true) :
    s.native.powerSaverState = stateOf (lastValue s.history) ↔ seedCurrent s.history = true := by
  have ht := tracked_of_reachable hs
  unfold Tracked at ht
  rw [held_of_constructed hs hc] at ht
  exact ht

lemma seedCurrent_step (hr : machine.Reachable s) (hstep : machine.step s a = some s')
    (ha : ReturnsCurrent s a) (hs : s.constructed = true → seedCurrent s.history = true)
    (hc : s'.constructed = true) : seedCurrent s'.history = true := by
  have hrule := Rule.of_step hstep
  rcases constructed_of_rule hrule with ⟨rfl, rfl⟩ | hsame
  · exact ha
  · have hbefore := hsame.symm.trans hc
    cases hrule.powerChange (proper_of_reachable hr) with
    | quiet new hsilent hhistory hpower hheld =>
      rw [hhistory, (append_of_silent hsilent s.history).2.1]
      exact hs hbefore
    | answered e value he hhistory hpower hheld =>
      rw [held_of_constructed (hr.step hstep) hc] at hheld
      cases hheld
    | seeded value hheld hheld' hnative hhistory =>
      rw [held_of_constructed hr hbefore] at hheld
      cases hheld
    | reported value fromSignal hheld hnative hhistory =>
      rw [hhistory, (append_signals _ _).2.1]
      rfl
    | vanished old hheld hpower hhistory =>
      rw [hhistory]
      rfl

/-- The state is the value of the last message since the last vanish, in every state after the
constructor has returned, if and only if it is when the constructor returns. -/
theorem power_saver_current_iff {as : List Action} (hrun : machine.exec machine.init as = some t) :
    (∀ as₁ as₂ s, as = as₁ ++ as₂ → machine.exec machine.init as₁ = some s →
      s.constructed = true → s.native.powerSaverState = stateOf (lastValue s.history)) ↔
    machine.Along ReturnsCurrent machine.init as := by
  constructor
  · intro hall
    by_contra hnot
    obtain ⟨as₁, a, as₂, s, rfl, hs, ha⟩ := Machine.exists_of_not_along hnot
    obtain ⟨s', hs', hrest⟩ := (machine.exec_append_eq_some).mp hrun
    cases hs.symm.trans hs'
    obtain ⟨s', hstep, -⟩ := machine.exec_cons_eq_some.mp hrest
    cases a with
    | constructed =>
      have hrule := Rule.of_step hstep
      have hafter : machine.exec machine.init (as₁ ++ [.constructed]) = some s' :=
        machine.exec_append_eq_some.mpr ⟨s, hs, by rw [machine.exec_cons, hstep]; rfl⟩
      have hr := Machine.reachable_of_exec hafter
      cases hrule with
      | constructed r hread hphase hnot =>
        have hstate := hall (as₁ ++ [.constructed]) as₂ _ (by simp) hafter rfl
        exact ha ((current_iff hr rfl).mp hstate)
    | _ => exact ha trivial
  · intro halong as₁ as₂ s has hs hc
    have hr := Machine.reachable_of_exec hs
    rw [has] at halong
    refine (current_iff hr hc).mpr ?_
    have hboth := Machine.exec_induction
      (P := fun s => machine.Reachable s ∧ (s.constructed = true → seedCurrent s.history = true))
      (fun s a s' ha hP hstep => ⟨hP.1.step hstep, seedCurrent_step hP.1 hstep ha hP.2⟩)
      (Machine.Along.of_append machine halong) ⟨.init, fun hc => by cases hc⟩ hs
    exact hboth.2 hc

/-! ### Runs on fixed inputs -/

/-- The `PropertiesChanged` signal for a power-saver state. -/
def powerSaverNotification (value : Bool) : GVariant :=
  .tuple [.string ifacePowerProfileMonitor,
    .array (.dictEntry .string .variant)
      [.dictEntry (.string propPowerSaverEnabled) (.variant (.boolean value))],
    .array .string []]

/-- The constructor's read is answered with `true`, and `false` is notified before it is applied. -/
theorem power_saver_goes_back : ∃ s,
    machine.exec machine.init
      [.construct, .reply .constructor 0 (.ok (.boolean true)) 0,
        .propertiesChanged (powerSaverNotification false), .take .constructor, .seed, .commitSeed,
        .constructed] = some s ∧
    s.constructed = true ∧ lastValue s.history = some false ∧ s.native.powerSaverState = 1 :=
  machine.exists_exec_of_any machine.init
    [.construct, .reply .constructor 0 (.ok (.boolean true)) 0,
      .propertiesChanged (powerSaverNotification false), .take .constructor, .seed, .commitSeed,
      .constructed]
    (P := fun s => s.constructed = true ∧ lastValue s.history = some false ∧
      s.native.powerSaverState = 1) (by decide +kernel)

/-- The same notification, a little later, is what the state says. -/
theorem power_saver_current_iff_notified : ∃ s,
    machine.exec machine.init
      [.construct, .reply .constructor 0 (.ok (.boolean true)) 0, .take .constructor, .seed,
        .propertiesChanged (powerSaverNotification false), .commitSeed, .constructed] = some s ∧
    s.native.powerSaverState = 0 ∧
    ((∀ as₁ as₂ s, [.construct, .reply .constructor 0 (.ok (.boolean true)) 0, .take .constructor,
        .seed, .propertiesChanged (powerSaverNotification false), .commitSeed, .constructed] =
          as₁ ++ as₂ →
      machine.exec machine.init as₁ = some s → s.constructed = true →
      s.native.powerSaverState = stateOf (lastValue s.history)) ↔
    machine.Along ReturnsCurrent machine.init
      [.construct, .reply .constructor 0 (.ok (.boolean true)) 0, .take .constructor, .seed,
        .propertiesChanged (powerSaverNotification false), .commitSeed, .constructed]) := by
  obtain ⟨s, hs, hstate⟩ := machine.exists_exec_of_any machine.init
    [.construct, .reply .constructor 0 (.ok (.boolean true)) 0, .take .constructor, .seed,
      .propertiesChanged (powerSaverNotification false), .commitSeed, .constructed]
    (P := fun s => s.native.powerSaverState = 0) (by decide +kernel)
  exact ⟨s, hs, hstate, power_saver_current_iff hs⟩

end Discovery

end XdgPortals
