import XdgPortals.Facade.Answers
import XdgPortals.Facade.Backends

/-!
# The backends over a run

No backend is asked for anything that needs the object behind it once it has dropped that. A native
backend serves the capabilities whose interfaces the portal exports, and a node that nobody injects
a backend into is available wherever the platform allows it, and says why where it is not.
-/

namespace XdgPortals

namespace Facade

variable {env : Environment} {b : Backend} {failure : Option String} {capability : Capability}
  {e : Event Backend} {history : List (Event Backend)}

/-! ### After the shutdown -/

/-- The calls that need the object behind the backend. -/
def Event.uses (b : Backend) : Event Backend → Bool
  | .registered c _ _ | .unregistered c _ _ | .openUri c _ _ _ | .schemeSupported c _ => c = b
  | _ => false

lemma isShutDown_cons :
    isShutDown b (e :: history) = (e.isShutdown b || isShutDown b history) :=
  List.any_cons

lemma isShutDown_eq_false_iff : isShutDown b history = false ↔ shutdowns b history = 0 := by
  simp [isShutDown, shutdowns]

/-- A backend that is available has not been shut down. -/
lemma isShutDown_of_isAvailable (hkind : b.kind ≠ .mock)
    (h : env.isAvailable history b = true) : isShutDown b history = false := by
  rw [Environment.isAvailable] at h
  cases hb : b.kind with
  | native failure =>
    simp only [hb, Bool.and_eq_true, Bool.not_eq_true'] at h
    exact h.1
  | macos => simpa [hb] using h
  | null reason => simp [hb] at h
  | mock => exact absurd hb hkind

lemma isShutDown_of_reached (hkind : b.kind ≠ .mock)
    (hfits : Justified (Event.Fits env.services.toDesktop) history) (h : Reached b history) :
    isShutDown b history = false := by
  obtain ⟨rest, rfl, -⟩ := h
  have havailable : env.isAvailable rest b = true := hfits.1.2.symm
  rw [isShutDown_cons, isShutDown_of_isAvailable hkind havailable]
  rfl

/-- A backend that holds a registration has not been shut down: it would have handed it back. -/
lemma isShutDown_of_heldBy {pid : ℤ} (hkind : b.kind ≠ .mock)
    (hfits : Justified (Event.Fits env.services.toDesktop) history) (h : HeldBy b pid history) :
    isShutDown b history = false := by
  induction history with
  | nil => rfl
  | cons e history ih =>
    rw [isShutDown_cons]
    rcases heldBy_cons.mp h with hregisters | ⟨-, hheld⟩
    · -- the registration itself went through the gate
      cases e with
      | registered c other code =>
        simp only [Event.registers, Bool.and_eq_true, decide_eq_true_eq] at hregisters
        obtain ⟨⟨rfl, -⟩, -⟩ := hregisters
        have hserves : Serves c .gameMode history := hfits.1
        rw [isShutDown_of_reached hkind hfits.2 hserves.1]
        rfl
      | _ => cases hregisters
    · rw [ih hfits.2 hheld, Bool.or_false]
      cases e with
      | shutdown c =>
        obtain ⟨rest, rfl⟩ : ∃ rest, history = .handedBack c :: rest := hfits.1
        show decide (c = b) = false
        rw [decide_eq_false_iff_not]
        rintro rfl
        simp [heldBy_cons, Event.registers, Event.releases] at hheld
      | _ => rfl

/-- A call that fits is made of a backend that has not been shut down. -/
lemma isShutDown_of_uses (hkind : b.kind ≠ .mock) (huses : e.uses b = true)
    (hfits : Justified (Event.Fits env.services.toDesktop) (e :: history)) :
    isShutDown b history = false := by
  cases e with
  | registered c pid code =>
    obtain rfl : c = b := of_decide_eq_true huses
    exact isShutDown_of_reached hkind hfits.2 hfits.1.1
  | unregistered c pid code =>
    obtain rfl : c = b := of_decide_eq_true huses
    rcases hfits.1 with hserves | hheld
    · exact isShutDown_of_reached hkind hfits.2 hserves.1
    · exact isShutDown_of_heldBy hkind hfits.2 hheld
  | openUri c uri ask parentWindow =>
    obtain rfl : c = b := of_decide_eq_true huses
    exact isShutDown_of_reached hkind hfits.2 hfits.1.1.1
  | schemeSupported c scheme =>
    obtain rfl : c = b := of_decide_eq_true huses
    exact isShutDown_of_reached hkind hfits.2 hfits.1.1.1
  | _ => cases huses

/-- The same for the calls that the history does not record. -/
lemma isShutDown_of_exchange {x : Exchange Backend} (hkind : x.backend.kind ≠ .mock)
    (hcall : x.call ≠ .getUnavailableReason) (hx : x.Fits)
    (hfits : Justified (Event.Fits env.services.toDesktop) x.earlier) :
    isShutDown x.backend x.earlier = false := by
  apply isShutDown_of_reached hkind hfits
  obtain ⟨c, call, answer, earlier⟩ := x
  cases call with
  | getUnavailableReason => exact absurd rfl hcall
  | closeRequest handle => exact hx.1
  | gameModeQueryStatus | getSupportedInhibitFlags | powerSaverState => exact hx.1
  | inhibit | addNotification | removeNotification => exact hx.1.1

/-! ### Capabilities and versions -/

section Present

variable {β : Type} [DecidableEq β] {d : Desktop β} {f : Facade β} {c : β}

/-- A capability is present when the backend is available and has reported it. -/
lemma present_of_some (hb : f.backend = some c) : (f.hasCapability d capability).1 =
    (d.isAvailable f.history c && (f.capabilities.lookup capability).getD false) := by
  rw [hasCapability, isAvailable_of_some hb]
  cases d.isAvailable f.history c <;> rfl

end Present

lemma lookup_values (p : Capability → Bool) :
    (Capability.values.map fun c => (c, p c)).lookup capability = some (p capability) := by
  cases capability <;> rfl

/-- A native backend keeps the versions it got when it was asked for its capabilities. -/
lemma keptVersions_append {answer : List (Capability × Bool)} {reads : List (Event Backend)}
    (hreads : ∀ e ∈ reads, ∃ other version, e = Event.interfaceVersion b other version) :
    env.keptVersions b (reads ++ .capabilities b answer :: history) = env.versions history b := by
  induction reads with
  | nil => simp [Environment.keptVersions]
  | cons e reads ih =>
    rw [List.forall_mem_cons] at hreads
    obtain ⟨⟨other, version, rfl⟩, hrest⟩ := hreads
    exact ih hrest

/-- Only a dropped object stays dropped. -/
lemma isShutDown_of_suffix {earlier : List (Event Backend)} (hsuffix : earlier <:+ history)
    (h : isShutDown b history = false) : isShutDown b earlier = false := by
  obtain ⟨later, rfl⟩ := hsuffix
  rw [isShutDown, List.any_append, Bool.or_eq_false_iff] at h
  exact h.2

/-- What the kinds of backends report: a native one the interfaces its portal exports, the one of
macOS the power-saver state without any interface, and a null one nothing. -/
def Reports (capability : Capability) (b : Backend) (shutDown present : Bool) (version : ℤ) :
    Prop :=
  match b.kind with
  | .native _ => present = true ↔ 0 ≤ version
  | .macos =>
    (present = true ↔ capability = .powerProfileMonitor ∧ shutDown = false) ∧ version = -1
  | .null _ => present = false ∧ version = -1
  | .mock => True

lemma reports_of_cached {f : Facade Backend} (h : Cached env.services.toDesktop f)
    (hb : f.backend = some b) (capability : Capability) :
    Reports capability b (isShutDown b f.history)
      (f.hasCapability env.services.toDesktop capability).1
      (f.getInterfaceVersion env.services.toDesktop capability).1 := by
  obtain ⟨earlier, hsuffix, hcapabilities, hversions⟩ := h.together b hb
  obtain ⟨reads, hreads, hlookup⟩ := hversions capability
  rw [present_of_some hb, getInterfaceVersion_of_some hb, hlookup, hcapabilities]
  show Reports capability b (isShutDown b f.history)
    (env.isAvailable f.history b && ((env.getCapabilities earlier b).lookup capability).getD false)
    (if env.isAvailable f.history b then env.getInterfaceVersion
      (reads ++ .capabilities b (env.getCapabilities earlier b) :: earlier) b capability else -1)
  obtain ⟨id, kind⟩ := b
  cases kind with
  | native failure =>
    simp only [Reports, Environment.isAvailable, Environment.getCapabilities,
      Environment.getInterfaceVersion, keptVersions_append hreads, lookup_values, Option.getD_some]
    cases !isShutDown ⟨id, .native failure⟩ f.history && failure.isNone <;> simp
  | macos =>
    simp only [Reports, Environment.isAvailable, Environment.getCapabilities,
      Environment.getInterfaceVersion]
    by_cases hdown : isShutDown ⟨id, .macos⟩ f.history = true
    · simp [hdown]
    · rw [Bool.not_eq_true] at hdown
      simp only [hdown, isShutDown_of_suffix hsuffix hdown]
      cases capability <;> decide
  | null reason => simp [Reports, Environment.isAvailable]
  | mock => trivial

/-! ### Platforms -/

/-- The session bus can be reached, if only while the attempt is being cancelled. -/
def Platform.Connects (p : Platform) : Prop :=
  p.address = .ok () ∧
    (p.inTime = .connected ∨ p.inTime = .pending ∧ p.afterCancel = .connected)

/-- The platforms that have desktop services. -/
def Platform.Supported (p : Platform) : Prop :=
  p.web = false ∧
    (p.osName = "macOS" ∧ p.macLoaded = true ∨
      p.osName = "Linux" ∧ p.nativeLoaded = true ∧ p.Connects)

lemma connects_iff {p : Platform} :
    p.Connects ↔ connectBus p.address p.inTime p.afterCancel = none := by
  obtain ⟨web, osName, macLoaded, nativeLoaded, address, inTime, afterCancel⟩ := p
  cases address with
  | error message => simp [Platform.Connects, connectBus]
  | ok _ => cases inTime <;> cases afterCancel <;> simp [Platform.Connects, connectBus]

/-- A platform with desktop services gets a backend that serves them, another one a reason. -/
lemma createDefaultBackend_cases (p : Platform) :
    p.Supported ∧ (p.createDefaultBackend = .macos ∨ p.createDefaultBackend = .native none) ∨
      ¬ p.Supported ∧ ∃ reason, p.createDefaultBackend = .null reason := by
  rw [Platform.Supported, connects_iff, Platform.createDefaultBackend]
  split_ifs with hweb hmac hloaded hlinux hnative
  · simp [hweb]
  · simp [hweb, hmac, hloaded]
  · simp [hweb, hmac, hloaded]
  · simp [hweb, hmac, hlinux]
  · rw [Bool.not_eq_true'] at hnative
    simp [hweb, hmac, hnative]
  · have hlinux : p.osName = "Linux" := not_not.mp hlinux
    cases hconnect : connectBus p.address p.inTime p.afterCancel with
    | none => simp_all
    | some reason =>
      simp only
      split_ifs <;> simp_all

/-- The default backend is available where the platform has desktop services, until it is shut
down. -/
lemma isAvailable_createDefaultBackend : env.isAvailable history env.services.createDefaultBackend =
    true ↔ env.Supported ∧ isShutDown env.services.createDefaultBackend history = false := by
  have hkind : env.services.createDefaultBackend.kind = env.createDefaultBackend := rfl
  rw [Environment.isAvailable, hkind]
  rcases createDefaultBackend_cases env.toPlatform with
    ⟨hsupported, heq | heq⟩ | ⟨hsupported, reason, heq⟩
  · simp [heq, hsupported]
  · simp [heq, hsupported]
  · simp [heq, hsupported]

/-- A backend that is not available has a reason, unless the one of its extension is empty. -/
lemma reason_eq_empty_iff (exchanges : List (Exchange Backend))
    (h : env.isAvailable history b = false) :
    Option.getD (α := String)
        (env.answer exchanges (.isAvailable b false :: history) b .getUnavailableReason)
        "XDG Desktop Portals are not available on this platform." = "" ↔
      b.kind = .native (some "") ∧ isShutDown b history = false := by
  obtain ⟨id, kind⟩ := b
  have hdown : isShutDown ⟨id, kind⟩ (.isAvailable ⟨id, kind⟩ false :: history) =
      isShutDown ⟨id, kind⟩ history := rfl
  cases kind with
  | native failure =>
    simp only [Environment.answer, hdown, Option.getD_some]
    by_cases hleft : isShutDown ⟨id, .native failure⟩ history = true
    · simp [hleft]
    · cases failure with
      | none => simp [Environment.isAvailable, hleft] at h
      | some message => simp [hleft]
  | macos =>
    have hleft : isShutDown ⟨id, .macos⟩ history = true := by
      simpa [Environment.isAvailable] using h
    simp [Environment.answer, hdown, hleft]
  | null reason => simp [Environment.answer, reason.prop]
  | mock => simp [Environment.answer]

/-! ### What a call keeps -/

section Keeps

variable {β : Type} [DecidableEq β] {d : Desktop β} {f g g' : Facade β}

/-- The backend stays, unless the default one has just been chosen, and none is shut down. -/
structure Keeps (d : Desktop β) (f g : Facade β) : Prop where
  backend : ∀ c, g.backend = some c → f.backend = some c ∨ c = d.createDefaultBackend
  shutdowns : ∀ c, shutdowns c g.history = shutdowns c f.history

namespace Keeps

lemma refl (f : Facade β) : Keeps d f f := ⟨fun _ hc => .inl hc, fun _ => rfl⟩

lemma trans (h : Keeps d f g) (h' : Keeps d g g') : Keeps d f g' := by
  refine ⟨fun c hc => ?_, fun c => (h'.shutdowns c).trans (h.shutdowns c)⟩
  rcases h'.backend c hc with hg | hdefault
  · exact h.backend c hg
  · exact .inr hdefault

lemma quiet (h : Keeps d f g) (hquiet : Quiet g g') : Keeps d f g' :=
  ⟨fun c hc => h.backend c (hquiet.backend ▸ hc), fun c =>
    (shutdowns_quiet hquiet).trans (h.shutdowns c)⟩

lemma ready (f : Facade β) : Keeps d f (f.ready d) := by
  cases hb : f.backend with
  | some c =>
    rw [ready_of_some hb]
    exact refl f
  | none =>
    rw [Facade.ready, ensureBackend_of_none hb]
    constructor
    · intro c hc
      rw [backend_setBackend, Option.some.injEq] at hc
      exact .inr hc.symm
    · intro c
      simp [shutdowns_setBackend, hb]

lemma cons (h : Keeps d f g) {e : Event β} (he : ∀ c, e.isShutdown c = false)
    (hbackend : g'.backend = g.backend) (hhistory : g'.history = e :: g.history) :
    Keeps d f g' := by
  refine ⟨fun c hc => h.backend c (hbackend ▸ hc), fun c => ?_⟩
  have hnone : ∀ x ∈ [e], x.isShutdown c = false := by simpa using he c
  rw [hhistory, ← h.shutdowns c]
  exact shutdowns_of_forall hnone

lemma hasCapability (f : Facade β) (capability : Capability) :
    Keeps d f (f.hasCapability d capability).2 :=
  (ready f).quiet (quiet_hasCapability capability)

lemma step (f : Facade β) (a : Action β) (hset : ∀ c, a ≠ .setBackend (some c))
    (hexit : a ≠ .exitTree) : Keeps d f (f.step d a) := by
  have hbackend : (f.hasCapability d .gameMode).2.backend = some (f.ensureBackend d).1 :=
    (quiet_hasCapability .gameMode).backend.trans backend_ready
  cases a with
  | ready => exact ready f
  | exitTree => exact absurd rfl hexit
  | setBackend backend =>
    cases backend with
    | none => exact refl f
    | some c => exact absurd rfl (hset c)
  | refreshCapabilities => exact (ready f).quiet (.refreshFrom ..)
  | requestGameMode pid =>
    rw [Facade.step]
    cases hpresent : (f.hasCapability d .gameMode).1 with
    | false =>
      rw [requestGameMode_of_absent hpresent]
      exact hasCapability f .gameMode
    | true =>
      rw [requestGameMode_of_present hpresent hbackend]
      exact (hasCapability f .gameMode).cons (fun _ => rfl) (retains_registered ..).backend
        (history_registered ..)
  | releaseGameMode pid =>
    rw [Facade.step]
    cases hpresent : (f.hasCapability d .gameMode).1 with
    | false =>
      rw [releaseGameMode_of_absent hpresent]
      exact hasCapability f .gameMode
    | true =>
      rw [releaseGameMode_of_present hpresent hbackend]
      exact (hasCapability f .gameMode).cons (fun _ => rfl) (retains_unregistered ..).backend
        (history_unregistered ..)
  | openUri uri ask parentWindow => exact (ready f).quiet (quiet_openUri uri ask parentWindow)
  | isSchemeSupported scheme => exact (ready f).quiet (quiet_isSchemeSupported scheme)
  | backendEmits c signal => exact (refl f).quiet (.backendEmits f c signal)

end Keeps

omit [DecidableEq β] in
/-- Leaving the tree does not change which backend is active. -/
lemma backend_exitTree (f : Facade β) : (f.exitTree d).backend = f.backend := by
  cases hb : f.backend with
  | none => rw [exitTree, hb, hb]
  | some b =>
    obtain ⟨sent, -, heq⟩ := releaseHeldGameMode_eq (d := d) f b
    rw [exitTree_eq hb, heq]
    exact hb

end Keeps

end Facade

open Facade

namespace Node

variable {env : Environment} {n : Node Backend} {b : Backend}

/-! ### Why there are no desktop services -/

/-- The reason is empty when the backend is available, or when it is a native one whose own reason
is empty. -/
lemma getUnavailableReason_eq_empty_iff
    (hb : (n.facade.ready env.services.toDesktop).backend = some b) :
    (n.getUnavailableReason env.services).1 = "" ↔
      (n.isAvailable env.services).1 = true ∨
        b.kind = .native (some "") ∧
          isShutDown b (n.facade.ready env.services.toDesktop).history = false := by
  obtain rfl : (n.facade.ensureBackend env.services.toDesktop).1 = b :=
    Option.some.inj (backend_ready.symm.trans hb)
  have hasked : (n.isAvailable env.services).1 =
      env.isAvailable (n.facade.ready env.services.toDesktop).history
        (n.facade.ensureBackend env.services.toDesktop).1 := rfl
  have hbackend : (n.isAvailable env.services).2.facade.backend =
      some (n.facade.ensureBackend env.services.toDesktop).1 := hb
  rw [hasked, getUnavailableReason_eq, askBackend_of_some hbackend]
  by_cases havailable : env.isAvailable (n.facade.ready env.services.toDesktop).history
      (n.facade.ensureBackend env.services.toDesktop).1 = true
  · have hanswer : (n.facade.isAvailable env.services.toDesktop).1 = true := havailable
    simp [hanswer, havailable]
  · have hanswer : (n.facade.isAvailable env.services.toDesktop).1 = false :=
      eq_false_of_ne_true havailable
    simp only [hanswer, Bool.false_eq_true, if_false, eq_false_of_ne_true havailable, false_or]
    have hrecorded : (n.isAvailable env.services).2.facade.history =
        .isAvailable (n.facade.ensureBackend env.services.toDesktop).1 false ::
          (n.facade.ready env.services.toDesktop).history := by
      rw [← eq_false_of_ne_true havailable]
      rfl
    rw [← reason_eq_empty_iff n.exchanges (eq_false_of_ne_true havailable), ← hrecorded]
    rfl

/-- After its shutdown no backend is asked for anything that needs the object behind it, only
whether it is available, why not, and what it reports. That is so whatever is injected, and
when. One that is injected again is shut down again. -/
theorem silent_after_shutdown (hn : (machine env.services).Reachable n) (hkind : b.kind ≠ .mock) :
    (∀ later e earlier, n.facade.history = later ++ e :: earlier → e.uses b = true →
      isShutDown b earlier = false) ∧
    ∀ x ∈ n.exchanges, x.backend = b → x.call ≠ .getUnavailableReason →
      isShutDown b x.earlier = false := by
  have hsafe := safe_of_reachable hn
  constructor
  · intro later e earlier heq huses
    have hfits := hsafe.facade.fits
    rw [heq] at hfits
    exact isShutDown_of_uses hkind huses hfits.of_append
  · rintro x hx rfl hcall
    obtain ⟨hx, hfits⟩ := hsafe.exchanges x hx
    exact isShutDown_of_exchange hkind hcall hx hfits

section Keeps

variable {β : Type} [DecidableEq β] {d : Services β}

lemma keeps_perform (m : Node β) (a : Action β) (hset : ∀ c, a ≠ .facade (.setBackend (some c)))
    (hexit : a ≠ .facade .exitTree) : Keeps d.toDesktop m.facade (m.perform d a).2.facade := by
  by_cases hfacade : ∃ action, a = .facade action
  · obtain ⟨action, rfl⟩ := hfacade
    rw [facade_perform]
    exact .step m.facade action (by simpa using hset) (by simpa using hexit)
  · rcases quiet_perform m a (not_exists.mp hfacade) with heq | hquiet
    · rw [heq]
      exact .refl m.facade
    · exact (Keeps.ready m.facade).quiet hquiet

end Keeps

/-- A Linux desktop whose portal exports two of the interfaces. -/
def linux : Environment where
  web := false
  osName := "Linux"
  macLoaded := false
  nativeLoaded := true
  address := .ok ()
  inTime := .connected
  afterCancel := .pending
  processId := 4242
  getInterfaceVersions _ _ :=
    [("org.freedesktop.portal.GameMode", 4), ("org.freedesktop.portal.Inhibit", 3)]
  native := mockBackends
  macPowerSaver _ _ := false
  mock := mockBackends

/-- The backend is replaced while it holds a registration, and injected again in the end. -/
def replacedRun : List (Action Backend) :=
  [.facade .ready, .facade (.requestGameMode 0), .inhibit 8 "Cutscene" "",
    .facade (.setBackend (some ⟨1, .macos⟩)), .isPowerSaverEnabled,
    .facade (.setBackend (some ⟨0, .native none⟩)), .inhibit 8 "Cutscene" "", .facade .exitTree]

/-- A backend that has been shut down is active again, and is not called any more. -/
theorem silent_after_shutdown_replaced :
    ∃ n, (machine linux.services).exec {} replacedRun = some n ∧
      n.facade.backend = some ⟨0, .native none⟩ ∧ n.exchanges.length = 2 ∧
      isShutDown ⟨0, .native none⟩ n.facade.history = true ∧
      (∀ later e earlier, n.facade.history = later ++ e :: earlier →
        e.uses ⟨0, .native none⟩ = true → isShutDown ⟨0, .native none⟩ earlier = false) ∧
      ∀ x ∈ n.exchanges, x.backend = ⟨0, .native none⟩ → x.call ≠ .getUnavailableReason →
        isShutDown ⟨0, .native none⟩ x.earlier = false := by
  obtain ⟨n, hrun, hbackend, hlength, hdown⟩ := (machine linux.services).exists_exec_of_any {}
    replacedRun (P := fun n => n.facade.backend = some ⟨0, .native none⟩ ∧
      n.exchanges.length = 2 ∧ isShutDown ⟨0, .native none⟩ n.facade.history = true)
    (by decide +kernel)
  exact ⟨n, hrun, hbackend, hlength, hdown,
    silent_after_shutdown (Machine.reachable_of_exec hrun) (by decide)⟩

/-- A capability is there when the interface behind it is, as far as the active backend has one,
however old the answers are that the node has cached. -/
theorem reports_of_reachable (hn : (machine env.services).Reachable n)
    (hb : n.facade.backend = some b) (capability : Capability) :
    Reports capability b (isShutDown b n.facade.history)
      (n.facade.hasCapability env.services.toDesktop capability).1
      (n.facade.getInterfaceVersion env.services.toDesktop capability).1 :=
  reports_of_cached (safe_of_reachable hn).facade.cached hb capability

/-- The portal has an interface for GameMode, and the node the capability. -/
theorem reports_of_reachable_linux :
    ∃ n, (machine linux.services).exec {} [.facade .ready] = some n ∧
      (n.facade.hasCapability linux.services.toDesktop .gameMode).1 = true ∧
      0 ≤ (n.facade.getInterfaceVersion linux.services.toDesktop .gameMode).1 := by
  obtain ⟨n, hrun, hbackend, hpresent⟩ := (machine linux.services).exists_exec_of_any {}
    [.facade .ready] (P := fun n => n.facade.backend = some ⟨0, .native none⟩ ∧
      (n.facade.hasCapability linux.services.toDesktop .gameMode).1 = true) (by decide +kernel)
  have hreports := reports_of_reachable (Machine.reachable_of_exec hrun) hbackend .gameMode
  exact ⟨n, hrun, hpresent, hreports.mp hpresent⟩

/-! ### A node left to itself -/

variable {as : List (Action Backend)}

/-- While nobody injects a backend, none but the default one is active. -/
lemma backend_of_exec (hrun : (machine env.services).exec {} as = some n)
    (halone : ∀ c, .facade (.setBackend (some c)) ∉ as) (hb : n.facade.backend = some b) :
    b = env.services.createDefaultBackend := by
  have halong : (machine env.services).Along
      (fun _ a => ∀ c, a ≠ .facade (.setBackend (some c))) {} as :=
    Machine.along_of_forall _ fun a ha _ c heq => halone c (heq ▸ ha)
  apply Machine.exec_induction (P := fun m =>
    m.facade.backend = some b → b = env.services.createDefaultBackend) _ halong nofun hrun hb
  intro m a m' hset ih heq hb'
  obtain rfl : (m.perform env.services a).2 = m' := Option.some.inj heq
  by_cases hexit : a = .facade .exitTree
  · -- the node leaves the tree with the backend it has
    rw [hexit] at hb'
    exact ih ((backend_exitTree m.facade).symm.trans hb')
  · rcases (keeps_perform m a hset hexit).backend b hb' with hm | hdefault
    · exact ih hm
    · exact hdefault

/-- While the node does not leave the tree either, no backend is shut down. -/
lemma isShutDown_of_exec (hrun : (machine env.services).exec {} as = some n)
    (halone : ∀ c, .facade (.setBackend (some c)) ∉ as) (hstays : .facade .exitTree ∉ as)
    (c : Backend) : isShutDown c n.facade.history = false := by
  have halong : (machine env.services).Along (fun _ a =>
      (∀ c, a ≠ .facade (.setBackend (some c))) ∧ a ≠ .facade .exitTree) {} as :=
    Machine.along_of_forall _ fun a ha _ =>
      ⟨fun c heq => halone c (heq ▸ ha), fun heq => hstays (heq ▸ ha)⟩
  have hzero : shutdowns c n.facade.history = 0 := by
    apply Machine.exec_induction (P := fun m => shutdowns c m.facade.history = 0) _ halong rfl hrun
    intro m a m' hkeeps ih heq
    obtain rfl : (m.perform env.services a).2 = m' := Option.some.inj heq
    exact ((keeps_perform m a hkeeps.1 hkeeps.2).shutdowns c).trans ih
  exact isShutDown_eq_false_iff.mpr hzero

/-- A node that nobody injects a backend into is available where the platform has desktop
services, until it leaves the tree. Wherever it is not available, it says why. -/
theorem default_explained (hrun : (machine env.services).exec {} as = some n)
    (halone : ∀ c, .facade (.setBackend (some c)) ∉ as) :
    ((n.isAvailable env.services).1 = true ↔ env.Supported ∧
      isShutDown env.services.createDefaultBackend n.facade.history = false) ∧
    ((n.getUnavailableReason env.services).1 = "" ↔ (n.isAvailable env.services).1 = true) ∧
    (.facade .exitTree ∉ as →
      isShutDown env.services.createDefaultBackend n.facade.history = false) := by
  have hb : (n.facade.ready env.services.toDesktop).backend =
      some env.services.createDefaultBackend := by
    rw [backend_ready]
    cases hbackend : n.facade.backend with
    | none => rw [ensureBackend_of_none hbackend]
    | some b => rw [ensureBackend_of_some hbackend, backend_of_exec hrun halone hbackend]
  have hdown : isShutDown env.services.createDefaultBackend
      (n.facade.ready env.services.toDesktop).history =
        isShutDown env.services.createDefaultBackend n.facade.history := by
    rw [Bool.eq_iff_iff, ← not_iff_not, Bool.not_eq_true, Bool.not_eq_true,
      isShutDown_eq_false_iff, isShutDown_eq_false_iff, (Keeps.ready n.facade).shutdowns]
  refine ⟨?_, ?_, fun hstays => isShutDown_of_exec hrun halone hstays _⟩
  · have hasked : (n.isAvailable env.services).1 =
        env.isAvailable (n.facade.ready env.services.toDesktop).history
          env.services.createDefaultBackend := by
      rw [← Option.some.inj (backend_ready.symm.trans hb)]
      rfl
    rw [hasked, isAvailable_createDefaultBackend, hdown]
  · rw [getUnavailableReason_eq_empty_iff hb, or_iff_left]
    rintro ⟨hkind, -⟩
    have hdefault : env.createDefaultBackend = .native (some "") := hkind
    rcases createDefaultBackend_cases env.toPlatform with ⟨-, heq | heq⟩ | ⟨-, reason, heq⟩
    · simp [heq] at hdefault
    · simp [heq] at hdefault
    · simp [heq] at hdefault

/-- A node that has left the tree says why it is not available. -/
theorem default_explained_left :
    ∃ n, (machine linux.services).exec {} [.isAvailable, .facade .exitTree] = some n ∧
      linux.Supported ∧ (n.isAvailable linux.services).1 = false ∧
      (n.getUnavailableReason linux.services).1 ≠ "" := by
  obtain ⟨n, hrun, havailable⟩ := (machine linux.services).exists_exec_of_any {}
    [.isAvailable, .facade .exitTree] (P := fun n => (n.isAvailable linux.services).1 = false)
    (by decide +kernel)
  obtain ⟨-, hreason, -⟩ := default_explained hrun (by simp)
  refine ⟨n, hrun, ⟨rfl, .inr ⟨rfl, rfl, rfl, .inl rfl⟩⟩, havailable, ?_⟩
  rw [ne_eq, hreason, havailable]
  decide

end Node

end XdgPortals
