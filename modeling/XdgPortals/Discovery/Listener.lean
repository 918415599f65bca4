import XdgPortals.Discovery.PowerSaver

/-!
# A listener of `power_saver_changed`

Whoever knows the state once and follows the signal from then on knows it whenever it is known.
-/

namespace XdgPortals

open XdgPortalNative

namespace Discovery

variable {s s' t : Discovery} {a : Action}

/-- The values emitted with `power_saver_changed`, the latest first. -/
def emitted (history : List Event) : List Bool :=
  history.filterMap fun
    | .signal (.powerSaverChanged value) => some value
    | _ => none

lemma emitted_append (l es : List Event) : emitted (l ++ es) = emitted l ++ emitted es :=
  List.filterMap_append

/-- What a listener knows who knew `value` before the events. -/
def follow (value : Bool) (new : List Event) : Bool := (emitted new).headD value

lemma follow_append (value : Bool) (l es : List Event) :
    follow value (l ++ es) = follow (follow value es) l := by
  rw [follow, emitted_append]
  cases hl : emitted l with
  | nil => rw [follow, hl]; rfl
  | cons v vs => rw [follow, hl]; rfl

lemma emitted_of_silent {new : List Event} (hsilent : ∀ e ∈ new, e.Silent) : emitted new = [] := by
  refine List.filterMap_eq_nil_iff.mpr fun e he => ?_
  cases e with
  | signal signal => exact (hsilent _ he).elim
  | _ => rfl

/-- The value last applied, from whatever source. -/
def lastKnown (history : List Event) : Option Bool :=
  history.findSome? fun
    | .seeded value | .reported value => some value
    | _ => none

/-! ### One value applied -/

/-- Applying a value to a state known before leaves the listener with that value. -/
lemma follow_applyPowerSaver {n : XdgPortalNative} (honce : n.powerSaverKnownOnce = true)
    (value fromSignal : Bool) {e : Event} (he : emitted [e] = []) :
    follow n.powerSaverEnabled
      ((n.applyPowerSaver value fromSignal).2.map Event.signal ++ [e]) = value := by
  rw [follow, emitted_append, he, List.append_nil, applyPowerSaver]
  cases fromSignal with
  | true =>
    by_cases hemit : !n.powerSaverKnown || n.powerSaverEnabled != value
    · simp only [if_true, hemit]
      rfl
    · simp only [if_true, hemit]
      simp only [Bool.or_eq_true, bne_iff_ne, not_or, not_not] at hemit
      exact hemit.2
  | false =>
    by_cases hemit : n.powerSaverEnabled = value
    · simp [honce, hemit, emitted]
    · simp [honce, hemit, emitted]

/-- A re-read of the value last known is not announced. -/
lemma applyPowerSaver_known (n : XdgPortalNative) :
    (n.applyPowerSaver n.powerSaverEnabled false).2 = [] := by
  simp [applyPowerSaver]

lemma emitted_applied_known {value : Option Bool} {event : Bool → Event}
    {result : XdgPortalNative × List Signal} (hvalue : value = some s.native.powerSaverEnabled)
    (hevent : ∀ v, emitted [event v] = [])
    (hresult : result = s.native.applyPowerSaver? value false) :
    emitted (s.applied value event result).history = emitted s.history := by
  rw [applied, hresult, hvalue, applyPowerSaver?, applyPowerSaver_known, List.map_nil,
    List.nil_append]
  dsimp only
  rw [emitted_append]
  simp [hevent]

/-! ### Along a run -/

/-- The flags remember the value last applied. -/
structure Remembers (s : Discovery) : Prop where
  once : s.native.powerSaverKnown = true → s.native.powerSaverKnownOnce = true
  last : lastKnown s.history =
    if s.native.powerSaverKnownOnce then some s.native.powerSaverEnabled else none

/-- From a state that was known, the listener has kept up. -/
structure KeptUp (value : Bool) (before : List Event) (s : Discovery) : Prop where
  once : s.native.powerSaverKnownOnce = true
  follows : ∃ new, s.history = new ++ before ∧ follow value new = s.native.powerSaverEnabled

lemma lastKnown_append_of_silent {new : List Event} (hsilent : ∀ e ∈ new, e.Silent)
    (es : List Event) : lastKnown (new ++ es) = lastKnown es := by
  induction new with
  | nil => rfl
  | cons e new ih =>
    rw [List.forall_mem_cons] at hsilent
    rw [← ih hsilent.2]
    cases e with
    | seeded value => exact hsilent.1.elim
    | reported value => exact hsilent.1.elim
    | _ => rfl

lemma lastKnown_append_signals (signals : List Signal) (es : List Event) :
    lastKnown (signals.map Event.signal ++ es) = lastKnown es := by
  induction signals with
  | nil => rfl
  | cons signal signals ih => exact ih

lemma seedReply_quiet {e : Event} {value : Bool} (he : e.seedReply? = some value) :
    emitted [e] = [] ∧ ∀ es, lastKnown (e :: es) = lastKnown es := by
  cases e with
  | answered reader property reply tenure => exact ⟨rfl, fun es => rfl⟩
  | _ => cases he

theorem Remembers.step (hm : Remembers s) (h : PowerChange s s') : Remembers s' := by
  cases h with
  | quiet new hsilent hhistory hpower hheld =>
    simp only [power, Prod.mk.injEq] at hpower
    obtain ⟨hknown, honce, henabled⟩ := hpower
    refine ⟨by rw [hknown, honce]; exact hm.once, ?_⟩
    rw [hhistory, lastKnown_append_of_silent hsilent, honce, henabled]
    exact hm.last
  | answered e value he hhistory hpower hheld =>
    simp only [power, Prod.mk.injEq] at hpower
    obtain ⟨hknown, honce, henabled⟩ := hpower
    refine ⟨by rw [hknown, honce]; exact hm.once, ?_⟩
    rw [hhistory, (seedReply_quiet he).2, honce, henabled]
    exact hm.last
  | seeded value hheld hheld' hnative hhistory =>
    refine ⟨by rw [hnative]; exact fun _ => rfl, ?_⟩
    rw [hhistory, hnative, lastKnown_append_signals]
    rfl
  | reported value fromSignal hheld hnative hhistory =>
    refine ⟨by rw [hnative]; exact fun _ => rfl, ?_⟩
    rw [hhistory, hnative, lastKnown_append_signals]
    rfl
  | vanished old hheld hpower hhistory =>
    simp only [power, Prod.mk.injEq] at hpower
    obtain ⟨hknown, honce, henabled⟩ := hpower
    refine ⟨by rw [hknown]; exact Bool.noConfusion, ?_⟩
    rw [hhistory, honce, henabled]
    exact hm.last

theorem remembers_of_reachable (hs : machine.Reachable s) : Remembers s := by
  induction hs with
  | init => exact ⟨Bool.noConfusion, rfl⟩
  | step hr ha ih => exact ih.step ((Rule.of_step ha).powerChange (proper_of_reachable hr))

/-- The listener's value moves with the stored one. -/
lemma KeptUp.applied {value v fromSignal : Bool} {before : List Event} {e : Event}
    (hk : KeptUp value before s) (he : emitted [e] = [])
    (hnative : s'.native = (s.native.applyPowerSaver v fromSignal).1)
    (hhistory : s'.history =
      (s.native.applyPowerSaver v fromSignal).2.map Event.signal ++ e :: s.history) :
    KeptUp value before s' := by
  obtain ⟨new, hnew, hfollow⟩ := hk.follows
  refine ⟨by rw [hnative]; rfl,
    (s.native.applyPowerSaver v fromSignal).2.map Event.signal ++ [e] ++ new, ?_, ?_⟩
  · rw [hhistory, hnew]
    simp
  · rw [follow_append, hfollow, follow_applyPowerSaver hk.once v fromSignal he, hnative]
    rfl

theorem KeptUp.step {value : Bool} {before : List Event} (hk : KeptUp value before s)
    (h : PowerChange s s') : KeptUp value before s' := by
  -- an event without an emission leaves both as they are
  have hstay : ∀ l, s'.history = l ++ s.history → emitted l = [] →
      s'.native.powerSaverKnownOnce = s.native.powerSaverKnownOnce →
      s'.native.powerSaverEnabled = s.native.powerSaverEnabled → KeptUp value before s' := by
    intro l hl hemitted honce henabled
    obtain ⟨new, hnew, hfollow⟩ := hk.follows
    refine ⟨honce.trans hk.once, l ++ new, by rw [hl, hnew, List.append_assoc], ?_⟩
    rw [follow_append, hfollow, henabled, follow, hemitted]
    rfl
  cases h with
  | quiet new hsilent hhistory hpower hheld =>
    simp only [power, Prod.mk.injEq] at hpower
    exact hstay new hhistory (emitted_of_silent hsilent) hpower.2.1 hpower.2.2
  | answered e v he hhistory hpower hheld =>
    simp only [power, Prod.mk.injEq] at hpower
    exact hstay [e] hhistory (seedReply_quiet he).1 hpower.2.1 hpower.2.2
  | seeded v hheld hheld' hnative hhistory => exact hk.applied rfl hnative hhistory
  | reported v fromSignal hheld hnative hhistory => exact hk.applied rfl hnative hhistory
  | vanished old hheld hpower hhistory =>
    simp only [power, Prod.mk.injEq] at hpower
    exact hstay [.portalVanished old] hhistory rfl hpower.2.1 hpower.2.2

lemma known_of_state {n : XdgPortalNative} (h : n.powerSaverState ≠ -1) :
    n.powerSaverKnown = true ∧ n.powerSaverState = stateOf (some n.powerSaverEnabled) := by
  cases hknown : n.powerSaverKnown with
  | false => exact absurd (by simp [powerSaverState, hknown]) h
  | true => simp [powerSaverState, hknown, stateOf]

/-- The value a re-read applies: the reply to one, or the constructor's own read. -/
def rereads (s : Discovery) : Action → Option Bool
  | .powerSaverRead reply => powerSaverOf (replyValue reply)
  | .seed => s.held
  | _ => none

/-- Between two states that are known, the later one is the value last announced, or the earlier
one when none was; and a re-read of the value last known is not announced. -/
theorem listener_never_drifts (hs : machine.Reachable s) :
    (∀ as t, machine.exec s as = some t → s.native.powerSaverState ≠ -1 →
      t.native.powerSaverState ≠ -1 →
      ∃ new, t.history = new ++ s.history ∧ t.native.powerSaverState =
        ((emitted new).head?.map fun v => stateOf (some v)).getD s.native.powerSaverState) ∧
    ∀ a s' v, machine.step s a = some s' → rereads s a = some v → lastKnown s.history = some v →
      emitted s'.history = emitted s.history := by
  refine ⟨fun as t hrun hknown hknown' => ?_, fun a s' v hstep hreads hlast => ?_⟩
  · obtain ⟨hbefore, hstate⟩ := known_of_state hknown
    obtain ⟨-, hstate'⟩ := known_of_state hknown'
    have hend := Machine.exec_preserves
      (P := fun t => machine.Reachable t ∧ KeptUp s.native.powerSaverEnabled s.history t)
      (fun t a t' hP hstep => ⟨hP.1.step hstep,
        hP.2.step ((Rule.of_step hstep).powerChange (proper_of_reachable hP.1))⟩)
      ⟨hs, (remembers_of_reachable hs).once hbefore, [], rfl, rfl⟩ hrun
    obtain ⟨new, hnew, hfollow⟩ := hend.2.follows
    refine ⟨new, hnew, ?_⟩
    rw [hstate', hstate, ← hfollow, follow]
    cases emitted new <;> rfl
  · have hmemory := (remembers_of_reachable hs).last
    rw [hlast] at hmemory
    split_ifs at hmemory with honce
    cases hmemory
    cases Rule.of_step hstep with
    | powerSaverRead reply => exact emitted_applied_known hreads (fun v => rfl) rfl
    | seed r hread values definitive hphase =>
      rw [rereads, held_of_read hread, Read.held, hphase] at hreads
      exact emitted_applied_known hreads (fun v => rfl) rfl
    | _ => cases hreads

/-- The portal restarts with another state than it had. -/
theorem listener_never_drifts_restart : ∃ s t new,
    machine.exec machine.init [.powerSaverRead (.ok (.boolean true))] = some s ∧
    machine.exec s
      [.portalVanished, .portalAppeared ":1.5", .powerSaverRead (.ok (.boolean false))] = some t ∧
    t.history = new ++ s.history ∧ t.native.powerSaverState =
      ((emitted new).head?.map fun v => stateOf (some v)).getD s.native.powerSaverState := by
  obtain ⟨s, hs, hknown, hrest⟩ := machine.exists_exec_of_any machine.init
    [.powerSaverRead (.ok (.boolean true))]
    (P := fun s => s.native.powerSaverState ≠ -1 ∧ ((machine.exec s
      [.portalVanished, .portalAppeared ":1.5", .powerSaverRead (.ok (.boolean false))]).any
        fun t => decide (t.native.powerSaverState ≠ -1)) = true) (by decide +kernel)
  obtain ⟨t, ht, hknown'⟩ := machine.exists_exec_of_any s
    [.portalVanished, .portalAppeared ":1.5", .powerSaverRead (.ok (.boolean false))]
    (P := fun t => t.native.powerSaverState ≠ -1) hrest
  obtain ⟨new, hnew, hstate⟩ :=
    (listener_never_drifts (Machine.reachable_of_exec hs)).1 _ t ht hknown hknown'
  exact ⟨s, t, new, hs, ht, hnew, hstate⟩

end Discovery

end XdgPortals
