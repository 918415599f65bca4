import XdgPortals.Facade.System

/-!
# What calls leave alone

Most calls only ask the active backend something: they change neither the backend nor its
connections nor the registrations.
-/

namespace XdgPortals

namespace Facade

variable {β : Type} {f f' f'' : Facade β} {b : β} {d : Desktop β}

/-- The events that change nothing about the backends and their registrations. -/
def Event.isQuiet : Event β → Bool
  | .registered _ _ _ | .unregistered _ _ _ | .handedBack _ | .shutdown _ | .activated _ => false
  | _ => true

/-- Nothing happens to the backend, its connections and the registrations. -/
structure Quiet (f f' : Facade β) : Prop where
  backend : f'.backend = f.backend
  gameModePids : f'.gameModePids = f.gameModePids
  connections : f'.connections = f.connections
  history : ∃ es : List (Event β), (∀ e ∈ es, e.isQuiet = true) ∧ f'.history = es ++ f.history

namespace Quiet

lemma refl (f : Facade β) : Quiet f f := ⟨rfl, rfl, rfl, [], by simp, rfl⟩

lemma trans (h : Quiet f f') (h' : Quiet f' f'') : Quiet f f'' := by
  obtain ⟨es, hes, hhistory⟩ := h.history
  obtain ⟨es', hes', hhistory'⟩ := h'.history
  refine ⟨h'.backend.trans h.backend, h'.gameModePids.trans h.gameModePids,
    h'.connections.trans h.connections, es' ++ es, ?_, ?_⟩
  · intro e he
    rcases List.mem_append.mp he with he | he
    · exact hes' e he
    · exact hes e he
  · rw [hhistory', hhistory, List.append_assoc]

lemma record {e : Event β} (he : e.isQuiet = true) : Quiet f (f.record e) :=
  ⟨rfl, rfl, rfl, [e], by simpa using he, rfl⟩

lemma readInterfaceVersions (f : Facade β) (b : β) (capabilities : List Capability) :
    Quiet f (f.readInterfaceVersions d b capabilities) := by
  induction capabilities generalizing f with
  | nil => exact refl f
  | cons capability capabilities ih =>
    apply trans _ (ih _)
    exact ⟨rfl, rfl, rfl, [_], List.forall_mem_singleton.mpr rfl, rfl⟩

lemma refreshFrom (f : Facade β) (b : β) : Quiet f (f.refreshFrom d b) := by
  apply trans _ (record rfl)
  apply trans _ (readInterfaceVersions ..)
  exact ⟨rfl, rfl, rfl, [_], List.forall_mem_singleton.mpr rfl, rfl⟩

lemma backendEmits [DecidableEq β] (f : Facade β) (b : β) (signal : BackendSignal) :
    Quiet f (f.backendEmits b signal) := by
  refine ⟨rfl, rfl, rfl, _, ?_, rfl⟩
  intro e he
  rw [List.eq_of_mem_replicate he]
  rfl

end Quiet

/-! ### Handing registrations back -/

/-- The pids are sent in turn, and nothing else happens. -/
lemma unregisterAll_eq (f : Facade β) (b : β) (pids : List ℤ) :
    ∃ releases : List (Event β),
      List.Forall₂ (fun pid e => ∃ code, e = .unregistered b pid code) pids releases ∧
      f.unregisterAll d b pids = { f with history := releases.reverse ++ f.history } := by
  induction pids generalizing f with
  | nil => exact ⟨[], .nil, rfl⟩
  | cons pid pids ih =>
    obtain ⟨releases, hreleases, heq⟩ := ih
      (f.record (.unregistered b pid (d.gameModeUnregister f.history b pid)))
    refine ⟨.unregistered b pid (d.gameModeUnregister f.history b pid) :: releases,
      .cons ⟨_, rfl⟩ hreleases, ?_⟩
    rw [unregisterAll, heq]
    simp [record]

/-- Every pid held is sent to the backend once, in the order of the registrations. -/
lemma releaseHeldGameMode_eq (f : Facade β) (b : β) :
    ∃ releases : List (Event β),
      List.Forall₂ (fun pid e => ∃ code, e = .unregistered b pid code) f.gameModePids releases ∧
      f.releaseHeldGameMode d b = { f with
        gameModePids := []
        history := .handedBack b :: (releases.reverse ++ f.history) } := by
  obtain ⟨releases, hreleases, heq⟩ := unregisterAll_eq f b f.gameModePids
  refine ⟨releases, hreleases, ?_⟩
  rw [releaseHeldGameMode, heq]

lemma exists_of_mem_sent {pids : List ℤ} {e : Event β}
    (hsent : List.Forall₂ (fun pid e => ∃ code, e = Event.unregistered b pid code) pids sent)
    (he : e ∈ sent) : ∃ pid code, e = .unregistered b pid code := by
  obtain ⟨i, hi, rfl⟩ := List.getElem_of_mem he
  obtain ⟨code, heq⟩ := hsent.get (hsent.length_eq.symm ▸ hi) hi
  exact ⟨_, code, heq⟩

/-- What has been recorded when a backend has been left: every pid held was sent to it, each one
once, then it was shut down, and nothing was sent afterwards. -/
def LeftBackend (f : Facade β) (b : β) (history : List (Event β)) : Prop :=
  ∃ after sent : List (Event β),
    history = after ++ .shutdown b :: .handedBack b :: (sent.reverse ++ f.history) ∧
    List.Forall₂ (fun pid e => ∃ code, e = .unregistered b pid code) f.gameModePids sent ∧
    ∀ e ∈ after, e.isQuiet = true ∨ ∃ b', e = .activated b'

lemma exitTree_eq (h : f.backend = some b) :
    f.exitTree d = (f.releaseHeldGameMode d b).record (.shutdown b) := by
  rw [exitTree, h]

lemma leftBackend_exitTree (h : f.backend = some b) :
    LeftBackend f b (f.exitTree d).history := by
  obtain ⟨sent, hsent, heq⟩ := releaseHeldGameMode_eq (d := d) f b
  rw [exitTree_eq h, heq]
  exact ⟨[], sent, rfl, hsent, by simp⟩

/-! ### Members -/

section Members

variable (f : Facade β) (e : Event β) (pid : ℤ)

@[simp] lemma backend_record : (f.record e).backend = f.backend := rfl

@[simp] lemma gameModePids_record : (f.record e).gameModePids = f.gameModePids := rfl

@[simp] lemma connections_record : (f.record e).connections = f.connections := rfl

@[simp] lemma history_record : (f.record e).history = e :: f.history := rfl

@[simp] lemma backend_holdPid : (f.holdPid pid).backend = f.backend := by
  rw [holdPid]
  split_ifs <;> rfl

@[simp] lemma connections_holdPid : (f.holdPid pid).connections = f.connections := by
  rw [holdPid]
  split_ifs <;> rfl

@[simp] lemma history_holdPid : (f.holdPid pid).history = f.history := by
  rw [holdPid]
  split_ifs <;> rfl

@[simp] lemma mem_holdPid {other : ℤ} :
    other ∈ (f.holdPid pid).gameModePids ↔ other = pid ∨ other ∈ f.gameModePids := by
  rw [holdPid]
  split_ifs with hmem
  · constructor
    · exact Or.inr
    · rintro (rfl | h)
      · exact hmem
      · exact h
  · simp [or_comm]

lemma nodup_holdPid (h : f.gameModePids.Nodup) : (f.holdPid pid).gameModePids.Nodup := by
  rw [holdPid]
  split_ifs with hmem
  · exact h
  · apply h.append (List.nodup_singleton pid)
    simpa using hmem

end Members

/-! ### The active backend -/

variable [DecidableEq β]

lemma ensureBackend_of_some (h : f.backend = some b) : f.ensureBackend d = (b, f) := by
  rw [ensureBackend, h]

lemma ensureBackend_of_none (h : f.backend = none) :
    f.ensureBackend d =
      (d.createDefaultBackend, f.setBackend d (some d.createDefaultBackend)) := by
  rw [ensureBackend, h]

/-! ### Signals -/

section Connect

variable (f : Facade β) (b : β) (name : SignalName)

@[simp] lemma backend_connect : (f.connect b name).backend = f.backend := by
  rw [connect]
  split_ifs <;> rfl

@[simp] lemma gameModePids_connect : (f.connect b name).gameModePids = f.gameModePids := by
  rw [connect]
  split_ifs <;> rfl

@[simp] lemma history_connect : (f.connect b name).history = f.history := by
  rw [connect]
  split_ifs <;> rfl

@[simp] lemma backend_connectBackend : (f.connectBackend b).backend = f.backend := by
  simp [connectBackend]

@[simp] lemma gameModePids_connectBackend :
    (f.connectBackend b).gameModePids = f.gameModePids := by
  simp [connectBackend]

@[simp] lemma history_connectBackend : (f.connectBackend b).history = f.history := by
  simp [connectBackend]

@[simp] lemma backend_disconnectBackend : (f.disconnectBackend b).backend = f.backend := rfl

@[simp] lemma gameModePids_disconnectBackend :
    (f.disconnectBackend b).gameModePids = f.gameModePids := rfl

@[simp] lemma history_disconnectBackend : (f.disconnectBackend b).history = f.history := rfl

end Connect

/-! ### Calls that only ask -/

/-- The node once it has a backend. -/
def ready (d : Desktop β) (f : Facade β) : Facade β := (f.ensureBackend d).2

lemma quiet_isAvailable : Quiet (ready d f) (f.isAvailable d).2 := .record rfl

/-- A capability check asks whether portals are available, and nothing else. -/
lemma hasCapability_snd (capability : Capability) :
    (f.hasCapability d capability).2 = (f.isAvailable d).2 := by
  rw [hasCapability]
  obtain ⟨available, g⟩ := f.isAvailable d
  cases available <;> rfl

lemma hasCapability_eq {present : Bool} {capability : Capability}
    (h : (f.hasCapability d capability).1 = present) :
    f.hasCapability d capability = (present, (f.hasCapability d capability).2) :=
  Prod.ext h rfl

lemma getInterfaceVersion_snd (capability : Capability) :
    (f.getInterfaceVersion d capability).2 = (f.isAvailable d).2 := by
  rw [getInterfaceVersion]
  obtain ⟨available, g⟩ := f.isAvailable d
  cases available <;> rfl

lemma quiet_hasCapability (capability : Capability) :
    Quiet (ready d f) (f.hasCapability d capability).2 := by
  rw [hasCapability_snd]
  exact quiet_isAvailable

lemma backend_setBackend : (f.setBackend d (some b)).backend = some b := by
  rw [setBackend, (Quiet.refreshFrom _ b).backend]
  simp

lemma backend_ready : (ready d f).backend = some (f.ensureBackend d).1 := by
  rw [ready]
  cases h : f.backend with
  | some b =>
    rw [ensureBackend_of_some h]
    exact h
  | none =>
    rw [ensureBackend_of_none h]
    exact backend_setBackend

lemma ready_of_some (h : f.backend = some b) : ready d f = f := by
  rw [ready, ensureBackend_of_some h]

lemma quiet_getInterfaceVersion (h : f.backend = some b) (capability : Capability) :
    Quiet f (f.getInterfaceVersion d capability).2 := by
  have hquiet : Quiet (ready d f) (f.isAvailable d).2 := quiet_isAvailable
  rw [ready_of_some h] at hquiet
  rwa [getInterfaceVersion_snd]

lemma quiet_openUri (uri : String) (ask : Bool) (parentWindow : String) :
    Quiet (ready d f) (f.openUri d uri ask parentWindow).2 := by
  have hquiet := quiet_hasCapability (d := d) (f := f) .openUri
  rw [openUri]
  generalize f.hasCapability d .openUri = r at hquiet ⊢
  obtain ⟨present, g⟩ := r
  cases present with
  | false => exact hquiet
  | true =>
    have hbackend := hquiet.backend.trans backend_ready
    simp only [Bool.not_true, Bool.false_eq_true, if_false, ensureBackend_of_some hbackend]
    apply hquiet.trans
    split_ifs
    · apply Quiet.record
      rfl
    · apply Quiet.record
      rfl
    · apply Quiet.record
      rfl

/-- The active backend is asked about a scheme in lowercase, if at all. -/
lemma isSchemeSupported_cases (f : Facade β) (scheme : String) :
    (f.isSchemeSupported d scheme).2 = (f.hasCapability d .openUri).2 ∨
      (f.isSchemeSupported d scheme).2 =
        ((f.hasCapability d .openUri).2.getInterfaceVersion d .openUri).2 ∨
      ∃ b, (f.isSchemeSupported d scheme).2 =
        ((f.hasCapability d .openUri).2.getInterfaceVersion d .openUri).2.record
          (.schemeSupported b (toLower scheme)) := by
  have hquiet := quiet_hasCapability (d := d) (f := f) .openUri
  rw [isSchemeSupported]
  generalize f.hasCapability d .openUri = r at hquiet ⊢
  obtain ⟨present, f'⟩ := r
  have hversion := quiet_getInterfaceVersion (d := d) (hquiet.backend.trans backend_ready) .openUri
  simp only at hversion ⊢
  generalize f'.getInterfaceVersion d .openUri = r at hversion ⊢
  obtain ⟨version, g⟩ := r
  have hbackend := hversion.backend.trans (hquiet.backend.trans backend_ready)
  simp only [ensureBackend_of_some hbackend]
  split_ifs
  · exact .inl rfl
  · exact .inl rfl
  · exact .inl rfl
  · exact .inr (.inl rfl)
  · exact .inr (.inr ⟨_, rfl⟩)
  · exact .inr (.inr ⟨_, rfl⟩)

lemma quiet_isSchemeSupported (scheme : String) :
    Quiet (ready d f) (f.isSchemeSupported d scheme).2 := by
  have hquiet := quiet_hasCapability (d := d) (f := f) .openUri
  have hversion := hquiet.trans
    (quiet_getInterfaceVersion (d := d) (hquiet.backend.trans backend_ready) .openUri)
  rcases isSchemeSupported_cases (d := d) f scheme with heq | heq | ⟨b, heq⟩
  · rw [heq]
    exact hquiet
  · rw [heq]
    exact hversion
  · rw [heq]
    apply hversion.trans
    apply Quiet.record
    rfl

/-! ### Calls about registrations -/

/-- A request ends with the capability check, or the active backend is asked to register the
pid. -/
lemma requestGameMode_cases (f : Facade β) (pid : ℤ) :
    (f.requestGameMode d pid).2 = (f.hasCapability d .gameMode).2 ∨
      ∃ b code, (f.hasCapability d .gameMode).2.backend = some b ∧
        (f.requestGameMode d pid).2 =
          if code ≠ 0 then
            (f.hasCapability d .gameMode).2.record (.registered b (d.resolvePid pid) code)
          else
            ((f.hasCapability d .gameMode).2.record
              (.registered b (d.resolvePid pid) code)).holdPid (d.resolvePid pid) := by
  have hquiet := quiet_hasCapability (d := d) (f := f) .gameMode
  rw [requestGameMode]
  generalize f.hasCapability d .gameMode = r at hquiet ⊢
  obtain ⟨present, g⟩ := r
  cases present with
  | false => exact .inl rfl
  | true =>
    have hbackend := hquiet.backend.trans backend_ready
    refine .inr ⟨_, d.gameModeRegister g.history (f.ensureBackend d).1
      (d.resolvePid pid), hbackend, ?_⟩
    simp only [Bool.not_true, Bool.false_eq_true, if_false, ensureBackend_of_some hbackend]
    rw [apply_ite Prod.snd]

/-- A release ends with the capability check, or the active backend is asked to unregister the
pid. -/
lemma releaseGameMode_cases (f : Facade β) (pid : ℤ) :
    (f.releaseGameMode d pid).2 = (f.hasCapability d .gameMode).2 ∨
      ∃ b code, (f.hasCapability d .gameMode).2.backend = some b ∧
        (f.releaseGameMode d pid).2 =
          if code ≠ 0 then
            (f.hasCapability d .gameMode).2.record (.unregistered b (d.resolvePid pid) code)
          else
            ((f.hasCapability d .gameMode).2.record
              (.unregistered b (d.resolvePid pid) code)).erasePid (d.resolvePid pid) := by
  have hquiet := quiet_hasCapability (d := d) (f := f) .gameMode
  rw [releaseGameMode]
  generalize f.hasCapability d .gameMode = r at hquiet ⊢
  obtain ⟨present, g⟩ := r
  cases present with
  | false => exact .inl rfl
  | true =>
    have hbackend := hquiet.backend.trans backend_ready
    refine .inr ⟨_, d.gameModeUnregister g.history (f.ensureBackend d).1
      (d.resolvePid pid), hbackend, ?_⟩
    simp only [Bool.not_true, Bool.false_eq_true, if_false, ensureBackend_of_some hbackend]
    rw [apply_ite Prod.snd]

/-! ### Runs -/

/-- What holds of a new node and is kept by every call holds of every reachable one. -/
lemma reachable_induction {P : Facade β → Prop} (hinit : P {})
    (hstep : ∀ f a, P f → P (f.step d a)) (hf : (machine d).Reachable f) : P f := by
  induction hf with
  | init => exact hinit
  | @step f f' a hr heq ih =>
    obtain rfl : f.step d a = f' := Option.some.inj heq
    exact hstep f a ih

/-! ### Leaving a backend -/

/-- The backend becomes the active one. -/
def activate (f : Facade β) (b : β) : Facade β :=
  { f with backend := some b, history := .activated b :: f.history }

lemma setBackend_of_none (h : f.backend = none) (b : β) :
    f.setBackend d (some b) = ((f.activate b).connectBackend b).refreshFrom d b := by
  rw [setBackend, h]
  rfl

lemma setBackend_of_some (h : f.backend = some b) (b' : β) :
    f.setBackend d (some b') =
      (((f.retire d b).activate b').connectBackend b').refreshFrom d b' := by
  rw [setBackend, h]
  rfl

lemma leftBackend_setBackend (h : f.backend = some b) (b' : β) :
    LeftBackend f b (f.setBackend d (some b')).history := by
  obtain ⟨sent, hsent, heq⟩ := releaseHeldGameMode_eq (d := d) f b
  obtain ⟨es, hes, hhistory⟩ := (Quiet.refreshFrom (d := d)
    (((f.retire d b).activate b').connectBackend b') b').history
  refine ⟨es ++ [.activated b'], sent, ?_, hsent, ?_⟩
  · rw [setBackend_of_some h, hhistory, history_connectBackend, activate, retire, heq]
    simp
  · intro e he
    rcases List.mem_append.mp he with he | he
    · exact .inl (hes e he)
    · exact .inr ⟨b', List.mem_singleton.mp he⟩

end Facade

end XdgPortals
