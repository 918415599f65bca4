import XdgPortals.Facade.Frame

/-!
# Swapping backends

The signals of the active backend are connected once each, and those of no other one are. A call
of `set_backend` that injects another backend than the active one shuts the active one down and
takes over the answers of the new one; injecting the active one shuts down what it keeps.
-/

namespace XdgPortals

namespace Facade

variable {β : Type} {f f' : Facade β} {b c : β} {name : SignalName}
  {d : Desktop β} {capability : Capability}

/-! ### Answers -/

/-- The last answer about the capabilities, with the backend that gave it. -/
def lastCapabilities : List (Event β) → Option (β × List (Capability × Bool))
  | [] => none
  | .capabilities b answer :: _ => some (b, answer)
  | _ :: es => lastCapabilities es

/-- The last answer about an interface version, with the backend that gave it. -/
def lastInterfaceVersion (capability : Capability) : List (Event β) → Option (β × ℤ)
  | [] => none
  | .interfaceVersion b other version :: es =>
    if other = capability then some (b, version) else lastInterfaceVersion capability es
  | _ :: es => lastInterfaceVersion capability es

/-- The cached version is the last answer of the backend. -/
def CachesVersion (f : Facade β) (b : β) (capability : Capability) : Prop :=
  ∃ version, lastInterfaceVersion capability f.history = some (b, version) ∧
    f.interfaceVersions.lookup capability = some version

/-- The loop caches the versions it has read. -/
lemma cachesVersion_readInterfaceVersions (capabilities : List Capability)
    (h : capability ∈ capabilities ∨ CachesVersion f b capability) :
    CachesVersion (f.readInterfaceVersions d b capabilities) b capability := by
  induction capabilities generalizing f with
  | nil => exact h.resolve_left List.not_mem_nil
  | cons first capabilities ih =>
    rw [readInterfaceVersions]
    apply ih
    by_cases hfirst : first = capability
    · right
      refine ⟨d.getInterfaceVersion f.history b first, ?_, ?_⟩
      · exact if_pos hfirst
      · rw [hfirst]
        exact Entries.lookup_set_self
    · rcases h with hmem | ⟨version, hlast, hcached⟩
      · exact .inl ((List.mem_cons.mp hmem).resolve_left (Ne.symm hfirst))
      · right
        refine ⟨version, ?_, ?_⟩
        · exact (if_neg hfirst).trans hlast
        · exact (Entries.lookup_set_of_ne (Ne.symm hfirst)).trans hcached

/-- The loop leaves the answers about the capabilities alone. -/
lemma lastCapabilities_readInterfaceVersions (capabilities : List Capability) :
    lastCapabilities (f.readInterfaceVersions d b capabilities).history =
        lastCapabilities f.history ∧
      (f.readInterfaceVersions d b capabilities).capabilities = f.capabilities := by
  induction capabilities generalizing f with
  | nil => exact ⟨rfl, rfl⟩
  | cons first capabilities ih =>
    rw [readInterfaceVersions]
    exact ih

/-- A refresh caches the answers of the backend. -/
lemma answers_refreshFrom (f : Facade β) (b : β) :
    lastCapabilities (f.refreshFrom d b).history = some (b, (f.refreshFrom d b).capabilities) ∧
      ∀ capability, CachesVersion (f.refreshFrom d b) b capability := by
  rw [refreshFrom]
  constructor
  · obtain ⟨hlast, hcapabilities⟩ := lastCapabilities_readInterfaceVersions (d := d) (b := b)
      (f := { f with
        capabilities := d.getCapabilities f.history b
        interfaceVersions := []
        history := .capabilities b (d.getCapabilities f.history b) :: f.history })
      Capability.values
    exact hlast.trans (congrArg (fun c => some (b, c)) hcapabilities.symm)
  · intro capability
    apply cachesVersion_readInterfaceVersions
    left
    cases capability <;> decide

/-! ### Connections -/

variable [DecidableEq β]

/-- The signals of the active backend are connected once each, those of the other ones are not. -/
def Wired (f : Facade β) : Prop :=
  ∀ b name, f.connections.count (b, name) = if f.backend = some b then 1 else 0

/-- Nothing is connected twice. -/
lemma count_connect (n : SignalName) :
    (f.connect b name).connections.count (c, n) =
      if (b, name) = (c, n) then max 1 (f.connections.count (c, n))
      else f.connections.count (c, n) := by
  rw [connect]
  split_ifs with hmem heq heq
  · have hpos := List.count_pos_iff.mpr hmem
    rw [heq] at hpos
    omega
  · rfl
  · rw [List.count_cons, heq, List.count_eq_zero.mpr (heq ▸ hmem)]
    simp
  · rw [List.count_cons, beq_false_of_ne heq]
    simp

lemma count_connectBackend (h : ∀ c n, f.connections.count (c, n) = 0) (c : β) (n : SignalName) :
    (f.connectBackend b).connections.count (c, n) = if b = c then 1 else 0 := by
  rw [connectBackend]
  by_cases hc : b = c
  · cases n <;> simp [count_connect, h, hc]
  · cases n <;> simp [count_connect, h, hc]

lemma count_disconnectBackend
    (h : ∀ c n, f.connections.count (c, n) = if b = c then 1 else 0) (c : β) (n : SignalName) :
    (f.disconnectBackend b).connections.count (c, n) = 0 := by
  simp only [disconnectBackend, disconnect, List.count_erase, h]
  by_cases hc : b = c
  · cases n <;> simp [hc]
  · cases n <;> simp [hc]

namespace Wired

lemma quiet (h : Wired f) (hquiet : Quiet f f') : Wired f' := by
  intro c n
  rw [hquiet.connections, hquiet.backend]
  exact h c n

/-- Calls that touch neither the connections nor the backend. -/
lemma of_eq (h : Wired f) (hconnections : f'.connections = f.connections)
    (hbackend : f'.backend = f.backend) : Wired f' := by
  intro c n
  rw [hconnections, hbackend]
  exact h c n

lemma connectBackend (h : ∀ c n, f.connections.count (c, n) = 0) (b : β) :
    Wired ((f.activate b).connectBackend b) := by
  intro c n
  rw [count_connectBackend (f := f.activate b) h, backend_connectBackend]
  simp [activate]

/-- What a retired backend leaves behind. -/
lemma retire (h : Wired f) (hb : f.backend = some b) (c : β) (n : SignalName) :
    (f.retire d b).connections.count (c, n) = 0 := by
  obtain ⟨sent, hsent, heq⟩ := releaseHeldGameMode_eq (d := d) f b
  have hconnections : (f.retire d b).connections = (f.disconnectBackend b).connections := by
    rw [Facade.retire, heq]
    rfl
  rw [hconnections]
  apply count_disconnectBackend
  intro c n
  simp [h c n, hb]

lemma setBackend (h : Wired f) (b : β) : Wired (f.setBackend d (some b)) := by
  cases hb : f.backend with
  | none =>
    rw [setBackend_of_none hb]
    apply (connectBackend _ b).quiet (Quiet.refreshFrom _ b)
    intro c n
    simp [h c n, hb]
  | some old =>
    rw [setBackend_of_some hb]
    exact (connectBackend (h.retire hb) b).quiet (Quiet.refreshFrom _ b)

lemma ready (h : Wired f) : Wired (f.ready d) := by
  cases hb : f.backend with
  | none =>
    rw [Facade.ready, ensureBackend_of_none hb]
    exact h.setBackend _
  | some b => rwa [ready_of_some hb]

lemma exitTree (h : Wired f) : Wired (f.exitTree d) := by
  cases hb : f.backend with
  | none => rwa [Facade.exitTree, hb]
  | some b =>
    obtain ⟨sent, hsent, heq⟩ := releaseHeldGameMode_eq (d := d) f b
    rw [exitTree_eq hb, heq]
    exact h

lemma requestGameMode (h : Wired f) (pid : ℤ) : Wired (f.requestGameMode d pid).2 := by
  have hready := h.ready.quiet (quiet_hasCapability (d := d) .gameMode)
  rcases requestGameMode_cases (d := d) f pid with heq | ⟨b, code, -, heq⟩
  · rw [heq]
    exact hready
  · rw [heq]
    split_ifs
    · exact hready.of_eq rfl rfl
    · exact hready.of_eq (by simp) (by simp)

lemma releaseGameMode (h : Wired f) (pid : ℤ) : Wired (f.releaseGameMode d pid).2 := by
  have hready := h.ready.quiet (quiet_hasCapability (d := d) .gameMode)
  rcases releaseGameMode_cases (d := d) f pid with heq | ⟨b, code, -, heq⟩
  · rw [heq]
    exact hready
  · rw [heq]
    split_ifs
    · exact hready.of_eq rfl rfl
    · exact hready.of_eq rfl rfl

lemma step (h : Wired f) (a : Action β) : Wired (f.step d a) := by
  cases a with
  | ready => exact h.ready
  | exitTree => exact h.exitTree
  | setBackend backend =>
    cases backend with
    | none => exact h
    | some b => exact h.setBackend b
  | refreshCapabilities => exact h.ready.quiet (Quiet.refreshFrom _ _)
  | requestGameMode pid => exact h.requestGameMode pid
  | releaseGameMode pid => exact h.releaseGameMode pid
  | openUri uri ask parentWindow => exact h.ready.quiet (quiet_openUri uri ask parentWindow)
  | isSchemeSupported scheme => exact h.ready.quiet (quiet_isSchemeSupported scheme)
  | backendEmits b signal => exact h.quiet (Quiet.backendEmits f b signal)

end Wired

theorem wired_of_reachable (hf : (machine d).Reachable f) : Wired f := by
  apply reachable_induction (fun _ _ => rfl) _ hf
  intro f a h
  exact h.step a

/-! ### Shutdowns -/

def Event.isShutdown (b : β) : Event β → Bool
  | .shutdown c => c = b
  | _ => false

/-- How often a backend has been shut down. -/
def shutdowns (b : β) (history : List (Event β)) : ℕ := history.countP (·.isShutdown b)

lemma isShutdown_of_isQuiet {e : Event β} (h : e.isQuiet = true) : e.isShutdown c = false := by
  cases e <;> first | rfl | cases h

lemma shutdowns_of_forall {es history : List (Event β)} (h : ∀ e ∈ es, e.isShutdown c = false) :
    shutdowns c (es ++ history) = shutdowns c history := by
  have hzero : es.countP (·.isShutdown c) = 0 := by
    apply List.countP_eq_zero.mpr
    intro e he
    simp [h e he]
  rw [shutdowns, List.countP_append, hzero, Nat.zero_add, shutdowns]

lemma shutdowns_quiet (h : Quiet f f') : shutdowns c f'.history = shutdowns c f.history := by
  obtain ⟨es, hes, heq⟩ := h.history
  rw [heq]
  exact shutdowns_of_forall fun e he => isShutdown_of_isQuiet (hes e he)

/-- A backend that is left is shut down once. -/
lemma shutdowns_leftBackend {history : List (Event β)} (h : LeftBackend f b history) :
    shutdowns c history = (if b = c then 1 else 0) + shutdowns c f.history := by
  obtain ⟨after, sent, rfl, hsent, hafter⟩ := h
  have hreleases : ∀ e ∈ sent.reverse, e.isShutdown c = false := by
    intro e he
    obtain ⟨pid, code, rfl⟩ := exists_of_mem_sent hsent (List.mem_reverse.mp he)
    rfl
  rw [shutdowns_of_forall, shutdowns, List.countP_cons, List.countP_cons]
  · rw [← shutdowns, shutdowns_of_forall hreleases]
    simp [Event.isShutdown, Nat.add_comm]
  · intro e he
    rcases hafter e he with hquiet | ⟨b', rfl⟩
    · exact isShutdown_of_isQuiet hquiet
    · rfl

/-- A call shuts down the backend that was active, and no other one. -/
lemma shutdowns_setBackend (f : Facade β) (b c : β) :
    shutdowns c (f.setBackend d (some b)).history =
      (if f.backend = some c then 1 else 0) + shutdowns c f.history := by
  cases hb : f.backend with
  | none =>
    rw [setBackend_of_none hb, shutdowns_quiet (Quiet.refreshFrom _ b), history_connectBackend]
    simp [shutdowns, activate, Event.isShutdown]
  | some old =>
    rw [shutdowns_leftBackend (leftBackend_setBackend hb b)]
    simp

/-! ### Swaps -/

/-- What a call of `set_backend` has to leave behind. -/
structure Swapped (f : Facade β) (b : β) (f' : Facade β) : Prop where
  backend : f'.backend = some b
  connected : ∀ c name, f'.connections.count (c, name) = if c = b then 1 else 0
  forwarded : ∀ c signal, (f'.backendEmits c signal).history =
    List.replicate (if c = b then 1 else 0) (.emitted signal) ++ f'.history
  capabilities : lastCapabilities f'.history = some (b, f'.capabilities)
  interfaceVersions : ∀ capability, CachesVersion f' b capability
  replaced : ∀ c, f.backend = some c → c ≠ b →
    shutdowns c f'.history = shutdowns c f.history + 1
  kept : shutdowns b f'.history = shutdowns b f.history

/-- Everything but the shutdown of an active backend that is injected again is as it has to be. -/
lemma swapped_setBackend_iff (hf : (machine d).Reachable f) :
    Swapped f b (f.setBackend d (some b)) ↔ f.backend ≠ some b := by
  constructor
  · intro h hb
    have hkept := h.kept
    rw [shutdowns_setBackend, if_pos hb] at hkept
    omega
  · intro hb
    have hconnected : ∀ c n, (f.setBackend d (some b)).connections.count (c, n) =
        if c = b then 1 else 0 := by
      intro c n
      rw [(wired_of_reachable hf).setBackend b c n, backend_setBackend]
      simp [eq_comm]
    have hanswers : ∃ g : Facade β, f.setBackend d (some b) = g.refreshFrom d b := by
      cases hold : f.backend with
      | none => exact ⟨_, setBackend_of_none hold b⟩
      | some old => exact ⟨_, setBackend_of_some hold b⟩
    obtain ⟨g, hg⟩ := hanswers
    have hanswers := answers_refreshFrom (d := d) g b
    rw [← hg] at hanswers
    refine ⟨backend_setBackend, hconnected, ?_, hanswers.1, hanswers.2, ?_, ?_⟩
    · intro c signal
      rw [backendEmits, hconnected]
    · intro c hc hne
      rw [shutdowns_setBackend, if_pos hc, Nat.add_comm]
    · rw [shutdowns_setBackend, if_neg hb, Nat.zero_add]

/-- Along a run, every injected backend is taken over as it has to be if and only if none is
injected while it is the active one. -/
theorem swaps_iff_injects_inactive (as : List (Action β)) :
    (machine d).Along
        (fun f a => ∀ b, a = .setBackend (some b) → Swapped f b (f.step d a)) {} as ↔
      (machine d).Along (fun f a => ∀ b, a = .setBackend (some b) → f.backend ≠ some b) {} as := by
  apply Machine.Reachable.along_iff _ Machine.Reachable.init
  intro f a hf
  apply forall_congr'
  intro b
  apply imp_congr_right
  rintro rfl
  exact swapped_setBackend_iff hf

/-- The active backend is injected again: it is shut down and stays the active one. -/
theorem injects_active_again :
    (∃ f, (machine mockDesktop).exec {} [.setBackend (some 1)] = some f ∧ f.backend = some 1 ∧
      (f.setBackend mockDesktop (some 1)).backend = some 1 ∧
      shutdowns 1 f.history = 0 ∧
      shutdowns 1 (f.setBackend mockDesktop (some 1)).history = 1) ∧
    ¬ (machine mockDesktop).Along
      (fun f a => ∀ b, a = .setBackend (some b) → Swapped f b (f.step mockDesktop a)) {}
      [.setBackend (some 1), .setBackend (some 1)] := by
  obtain ⟨f, hf, hbackend, hagain, hbefore, hafter⟩ := (machine mockDesktop).exists_exec_of_any {}
    [.setBackend (some 1)]
    (P := fun f => f.backend = some 1 ∧ (f.setBackend mockDesktop (some 1)).backend = some 1 ∧
      shutdowns 1 f.history = 0 ∧
      shutdowns 1 (f.setBackend mockDesktop (some 1)).history = 1) (by decide)
  refine ⟨⟨f, hf, hbackend, hagain, hbefore, hafter⟩, ?_⟩
  intro hswaps
  obtain ⟨f', hstep, hnil⟩ := (machine mockDesktop).exec_cons_eq_some.mp hf
  cases hnil
  have hkept := ((hswaps.2 f hstep).1 1 rfl).kept
  rw [step, hbefore, hafter] at hkept
  cases hkept

end Facade

end XdgPortals
