import XdgPortals.Facade.Gates

/-!
# What the node answers

Every call of the node goes through the gates, and reports a success only when the active backend
has just answered so.
-/

namespace XdgPortals

namespace Facade

variable {β : Type} {b : β}

/-- What a call needs: a backend that has been checked, and arguments that have. -/
def Exchange.Fits (x : Exchange β) : Prop :=
  match x.call with
  | .gameModeQueryStatus _ => Serves x.backend .gameMode x.earlier
  | .inhibit flags _ _ => Serves x.backend .inhibit x.earlier ∧ IsInhibitMask flags.toInt
  | .getSupportedInhibitFlags => Serves x.backend .inhibit x.earlier
  | .closeRequest handle => Reached x.backend x.earlier ∧ handle ≠ ""
  | .powerSaverState => Serves x.backend .powerProfileMonitor x.earlier
  | .addNotification id _ _ priority =>
    Serves x.backend .notification x.earlier ∧ id ≠ "" ∧ priority ∈ priorityNames
  | .removeNotification id => Serves x.backend .notification x.earlier ∧ id ≠ ""
  | .getUnavailableReason => ∃ rest, x.earlier = .isAvailable x.backend false :: rest ∧
      lastActivated rest = some x.backend

end Facade

open Facade

/-- A priority has one of the four names. -/
lemma priorityName_mem (priority : ℤ) : priorityName priority ∈ priorityNames := by
  have hlt : (max 0 (min priority (priorityNames.length - 1))).toNat < priorityNames.length := by
    simp only [priorityNames, List.length_cons, List.length_nil]
    omega
  rw [priorityName, List.getD_eq_getElem _ _ hlt]
  exact List.getElem_mem hlt

namespace Node

variable {β : Type} [DecidableEq β] {d : Services β} {n n' : Node β} {b : β}
  {capability : Capability} {call : Call}

/-- The gates have held for all calls. -/
structure Safe (d : Services β) (n : Node β) : Prop where
  facade : n.facade.Safe d.toDesktop
  exchanges : ∀ x ∈ n.exchanges, x.Fits ∧ Justified (Event.Fits d.toDesktop) x.earlier

/-! ### The calls, step by step -/

/-- The node after a check of a capability. -/
def checked (d : Services β) (n : Node β) (capability : Capability) : Node β :=
  { n with facade := (n.facade.hasCapability d.toDesktop capability).2 }

lemma hasCapability_eq {present : Bool}
    (h : (n.facade.hasCapability d.toDesktop capability).1 = present) :
    n.hasCapability d capability = (present, n.checked d capability) :=
  Prod.ext h rfl

lemma isAvailable_eq {available : Bool}
    (h : (n.facade.isAvailable d.toDesktop).1 = available) :
    n.isAvailable d = (available, (n.isAvailable d).2) :=
  Prod.ext h rfl

lemma askBackend_of_some (hb : n.facade.backend = some b) :
    n.askBackend d call = n.ask d b call := by
  rw [askBackend, ensureBackend, ensureBackend_of_some hb]

section Calls

variable (d n)

lemma getUnavailableReason_eq : n.getUnavailableReason d =
    let r := (n.isAvailable d).2.askBackend d .getUnavailableReason
    if (n.facade.isAvailable d.toDesktop).1 then ("", (n.isAvailable d).2)
    else (r.1.getD "XDG Desktop Portals are not available on this platform.", r.2) := by
  rw [getUnavailableReason]
  cases h : (n.facade.isAvailable d.toDesktop).1 with
  | true =>
    rw [isAvailable_eq h]
    rfl
  | false =>
    rw [isAvailable_eq h]
    simp only [Bool.false_eq_true, if_false]
    obtain ⟨reason, m⟩ := (n.isAvailable d).2.askBackend d .getUnavailableReason
    cases reason <;> rfl

lemma queryGameMode_eq (pid : ℤ) : n.queryGameMode d pid =
    let r := (n.checked d .gameMode).askBackend d (.gameModeQueryStatus (d.resolvePid pid))
    if (n.facade.hasCapability d.toDesktop .gameMode).1 then (.ofAnswer r.1, r.2)
    else (.unknown, n.checked d .gameMode) := by
  rw [queryGameMode]
  cases h : (n.facade.hasCapability d.toDesktop .gameMode).1 with
  | _ => rw [hasCapability_eq h]; rfl

lemma inhibit_eq (flags : Int64) (reason parentWindow : String) :
    n.inhibit d flags reason parentWindow =
      let error := BackendSignal.portalError "Inhibit.Inhibit" s!"Invalid inhibit flags: {flags}."
      let m := n.checked d .inhibit
      if (n.facade.hasCapability d.toDesktop .inhibit).1 then
        if IsInhibitMask flags.toInt then m.askBackend d (.inhibit flags reason parentWindow)
        else ("", { m with facade := m.facade.record (.emitted error) })
      else ("", m) := by
  rw [inhibit]
  cases h : (n.facade.hasCapability d.toDesktop .inhibit).1 with
  | false =>
    rw [hasCapability_eq h]
    rfl
  | true =>
    rw [hasCapability_eq h]
    simp only [Bool.not_true, Bool.false_eq_true, if_false, if_true]
    split_ifs with hflags hmask hmask
    · simp [isInhibitMask_int64.mpr hmask] at hflags
    · rfl
    · rfl
    · exact absurd (isInhibitMask_int64.mp (eq_false_of_ne_true hflags)) hmask

lemma getSupportedInhibitFlags_eq : n.getSupportedInhibitFlags d =
    if (n.facade.hasCapability d.toDesktop .inhibit).1 then
      (n.checked d .inhibit).askBackend d .getSupportedInhibitFlags
    else (0, n.checked d .inhibit) := by
  rw [getSupportedInhibitFlags]
  cases h : (n.facade.hasCapability d.toDesktop .inhibit).1 with
  | _ => rw [hasCapability_eq h]; rfl

lemma closeRequest_eq (handle : String) : n.closeRequest d handle =
    if handle = "" then (false, n)
    else if (n.facade.isAvailable d.toDesktop).1 then
      (n.isAvailable d).2.askBackend d (.closeRequest handle)
    else (false, (n.isAvailable d).2) := by
  rw [closeRequest]
  cases h : (n.facade.isAvailable d.toDesktop).1 with
  | _ => rw [isAvailable_eq h]; simp

lemma isPowerSaverEnabled_eq : n.isPowerSaverEnabled d =
    let m := n.checked d .powerProfileMonitor
    let r := m.askBackend d .powerSaverState
    if (n.facade.hasCapability d.toDesktop .powerProfileMonitor).1 then
      (if r.1 < 0 then none else some (r.1 == (1 : ℤ)), r.2)
    else (none, m) := by
  rw [isPowerSaverEnabled]
  cases h : (n.facade.hasCapability d.toDesktop .powerProfileMonitor).1 with
  | false =>
    rw [hasCapability_eq h]
    rfl
  | true =>
    rw [hasCapability_eq h]
    simp only [Bool.not_true, Bool.false_eq_true, if_false, if_true]
    split_ifs <;> rfl

lemma addNotification_eq (id title body : String) (priority : ℤ) :
    n.addNotification d id title body priority =
      let m := n.checked d .notification
      if (n.facade.hasCapability d.toDesktop .notification).1 ∧ id ≠ "" then
        m.askBackend d (.addNotification id title body (priorityName priority))
      else (false, m) := by
  rw [addNotification]
  cases h : (n.facade.hasCapability d.toDesktop .notification).1 with
  | false =>
    rw [hasCapability_eq h]
    simp
  | true =>
    rw [hasCapability_eq h]
    by_cases hempty : id = "" <;> simp [hempty]

lemma removeNotification_eq (id : String) :
    n.removeNotification d id =
      let m := n.checked d .notification
      if (n.facade.hasCapability d.toDesktop .notification).1 ∧ id ≠ "" then
        m.askBackend d (.removeNotification id)
      else (false, m) := by
  rw [removeNotification]
  cases h : (n.facade.hasCapability d.toDesktop .notification).1 with
  | false =>
    rw [hasCapability_eq h]
    simp
  | true =>
    rw [hasCapability_eq h]
    by_cases hempty : id = "" <;> simp [hempty]

end Calls

/-! ### What the calls leave alone -/

section Quiet

variable {m : Node β}

/-- The calls of the facade do to it what its machine does. -/
lemma facade_perform (n : Node β) (action : Facade.Action β) :
    (n.perform d (.facade action)).2.facade = n.facade.step d.toDesktop action := by
  cases action <;> rfl

lemma quiet_checked (n : Node β) (capability : Capability) :
    Quiet (n.facade.ready d.toDesktop) (n.checked d capability).facade :=
  quiet_hasCapability capability

lemma quiet_askBackend (h : Quiet (n.facade.ready d.toDesktop) m.facade) (call : Call) :
    Quiet (n.facade.ready d.toDesktop) (m.askBackend d call).2.facade := by
  rw [askBackend_of_some (h.backend.trans backend_ready)]
  exact h

lemma quiet_readCapabilities (h : Quiet (n.facade.ready d.toDesktop) m.facade)
    (capabilities : List Capability) :
    Quiet (n.facade.ready d.toDesktop) (m.readCapabilities d capabilities).2.facade := by
  induction capabilities generalizing m with
  | nil => exact h
  | cons capability capabilities ih =>
    have hchecked := quiet_checked (d := d) m capability
    rw [ready_of_some (h.backend.trans backend_ready)] at hchecked
    exact ih (h.trans hchecked)

/-- A call of the node makes sure that there is a backend, if that. -/
lemma quiet_perform (n : Node β) (a : Action β) (ha : ∀ action, a ≠ .facade action) :
    (n.perform d a).2.facade = n.facade ∨
      Quiet (n.facade.ready d.toDesktop) (n.perform d a).2.facade := by
  have havailable : Quiet (n.facade.ready d.toDesktop) (n.isAvailable d).2.facade :=
    quiet_isAvailable
  have hchecked (capability : Capability) :
      Quiet (n.facade.ready d.toDesktop) (n.checked d capability).facade :=
    quiet_checked n capability
  cases a with
  | facade action => exact absurd rfl (ha action)
  | isAvailable => exact .inr havailable
  | getUnavailableReason =>
    rw [perform, getUnavailableReason_eq]
    simp only
    split_ifs
    · exact .inr havailable
    · exact .inr (quiet_askBackend havailable _)
  | hasCapability capability => exact .inr (hchecked capability)
  | getCapabilities =>
    exact .inr (quiet_readCapabilities (hchecked .gameMode)
      [.inhibit, .powerProfileMonitor, .openUri, .notification])
  | getInterfaceVersion capability =>
    right
    show Quiet (n.facade.ready d.toDesktop)
      (n.facade.getInterfaceVersion d.toDesktop capability).2
    rw [getInterfaceVersion_snd]
    exact havailable
  | queryGameMode pid =>
    rw [perform, queryGameMode_eq]
    simp only
    split_ifs
    · exact .inr (quiet_askBackend (hchecked .gameMode) _)
    · exact .inr (hchecked .gameMode)
  | inhibit flags reason parentWindow =>
    rw [perform, inhibit_eq]
    simp only
    split_ifs
    · exact .inr (quiet_askBackend (hchecked .inhibit) _)
    · exact .inr ((hchecked .inhibit).trans (.record rfl))
    · exact .inr (hchecked .inhibit)
  | getSupportedInhibitFlags =>
    rw [perform, getSupportedInhibitFlags_eq]
    split_ifs
    · exact .inr (quiet_askBackend (hchecked .inhibit) _)
    · exact .inr (hchecked .inhibit)
  | closeRequest handle =>
    rw [perform, closeRequest_eq]
    split_ifs
    · exact .inl rfl
    · exact .inr (quiet_askBackend havailable _)
    · exact .inr havailable
  | isPowerSaverEnabled =>
    rw [perform, isPowerSaverEnabled_eq]
    by_cases hpresent : (n.facade.hasCapability d.toDesktop .powerProfileMonitor).1
    · simp only [hpresent, if_true]
      exact .inr (quiet_askBackend (hchecked .powerProfileMonitor) _)
    · simp only [hpresent]
      exact .inr (hchecked .powerProfileMonitor)
  | addNotification id title body priority =>
    rw [perform, addNotification_eq]
    simp only
    split_ifs
    · exact .inr (quiet_askBackend (hchecked .notification) _)
    · exact .inr (hchecked .notification)
  | removeNotification id =>
    rw [perform, removeNotification_eq]
    simp only
    split_ifs
    · exact .inr (quiet_askBackend (hchecked .notification) _)
    · exact .inr (hchecked .notification)

end Quiet

namespace Safe

lemma checked (h : Safe d n) (capability : Capability) : Safe d (n.checked d capability) :=
  ⟨h.facade.hasCapability capability, h.exchanges⟩

/-- A call that fits is made. -/
lemma askBackend (h : Safe d n) (hb : n.facade.backend = some b)
    (hfits : ∀ answer, (⟨b, call, answer, n.facade.history⟩ : Exchange β).Fits) :
    Safe d (n.askBackend d call).2 := by
  rw [askBackend_of_some hb]
  refine ⟨h.facade, ?_⟩
  intro x hx
  rcases List.mem_cons.mp hx with rfl | hx
  · exact ⟨hfits _, h.facade.fits⟩
  · exact h.exchanges x hx

lemma isAvailable (h : Safe d n) : Safe d (n.isAvailable d).2 := ⟨h.facade.isAvailable, h.exchanges⟩

/-- A backend that is asked for something has been checked for the capability. -/
lemma served (h : Safe d n) (hpresent : (n.facade.hasCapability d.toDesktop capability).1 = true)
    (hfits : ∀ b answer, Serves b capability (n.checked d capability).facade.history →
      (⟨b, call, answer, (n.checked d capability).facade.history⟩ : Exchange β).Fits) :
    Safe d ((n.checked d capability).askBackend d call).2 := by
  obtain ⟨b, hb, hserves⟩ := h.facade.serves hpresent
  exact (h.checked capability).askBackend hb fun answer => hfits b answer hserves

lemma readCapabilities (h : Safe d n) (capabilities : List Capability) :
    Safe d (n.readCapabilities d capabilities).2 := by
  induction capabilities generalizing n with
  | nil => exact h
  | cons capability capabilities ih => exact ih (h.checked capability)

lemma getUnavailableReason (h : Safe d n) : Safe d (n.getUnavailableReason d).2 := by
  rw [getUnavailableReason_eq]
  simp only
  split_ifs with havailable
  · exact h.isAvailable
  · rw [Bool.not_eq_true] at havailable
    obtain ⟨b, rest, hb, heq, hactive⟩ := h.facade.answered havailable
    exact h.isAvailable.askBackend hb fun _ => ⟨rest, heq, hactive⟩

lemma queryGameMode (h : Safe d n) (pid : ℤ) : Safe d (n.queryGameMode d pid).2 := by
  rw [queryGameMode_eq]
  simp only
  split_ifs with hpresent
  · exact h.served hpresent fun _ _ hserves => hserves
  · exact h.checked .gameMode

lemma inhibit (h : Safe d n) (flags : Int64) (reason parentWindow : String) :
    Safe d (n.inhibit d flags reason parentWindow).2 := by
  have hasked := h.checked .inhibit
  rw [inhibit_eq]
  simp only
  split_ifs with hpresent hflags
  · exact h.served hpresent fun _ _ hserves => ⟨hserves, hflags⟩
  · exact ⟨hasked.facade.record rfl trivial rfl, hasked.exchanges⟩
  · exact hasked

lemma getSupportedInhibitFlags (h : Safe d n) : Safe d (n.getSupportedInhibitFlags d).2 := by
  rw [getSupportedInhibitFlags_eq]
  split_ifs with hpresent
  · exact h.served hpresent fun _ _ hserves => hserves
  · exact h.checked .inhibit

lemma closeRequest (h : Safe d n) (handle : String) : Safe d (n.closeRequest d handle).2 := by
  rw [closeRequest_eq]
  split_ifs with hempty havailable
  · exact h
  · obtain ⟨b, rest, hb, heq, hactive⟩ := h.facade.answered havailable
    exact h.isAvailable.askBackend hb fun _ => ⟨⟨rest, heq, hactive⟩, hempty⟩
  · exact h.isAvailable

lemma isPowerSaverEnabled (h : Safe d n) : Safe d (n.isPowerSaverEnabled d).2 := by
  rw [isPowerSaverEnabled_eq]
  by_cases hpresent : (n.facade.hasCapability d.toDesktop .powerProfileMonitor).1
  · simp only [hpresent, if_true]
    exact h.served hpresent fun _ _ hserves => hserves
  · simp only [hpresent]
    exact h.checked .powerProfileMonitor

lemma addNotification (h : Safe d n) (id title body : String) (priority : ℤ) :
    Safe d (n.addNotification d id title body priority).2 := by
  rw [addNotification_eq]
  simp only
  split_ifs with hasks
  · exact h.served hasks.1 fun _ _ hserves => ⟨hserves, hasks.2, priorityName_mem priority⟩
  · exact h.checked .notification

lemma removeNotification (h : Safe d n) (id : String) :
    Safe d (n.removeNotification d id).2 := by
  rw [removeNotification_eq]
  simp only
  split_ifs with hasks
  · exact h.served hasks.1 fun _ _ hserves => ⟨hserves, hasks.2⟩
  · exact h.checked .notification

lemma getInterfaceVersion (h : Safe d n) (capability : Capability) :
    Safe d { n with facade := (n.facade.getInterfaceVersion d.toDesktop capability).2 } := by
  rw [getInterfaceVersion_snd]
  exact h.isAvailable

lemma perform (h : Safe d n) (a : Action β) : Safe d (n.perform d a).2 := by
  cases a with
  | facade action =>
    refine ⟨?_, h.exchanges⟩
    rw [facade_perform]
    exact h.facade.step action
  | isAvailable => exact h.isAvailable
  | getUnavailableReason => exact h.getUnavailableReason
  | hasCapability capability => exact h.checked capability
  | getCapabilities => exact h.readCapabilities Capability.values
  | getInterfaceVersion capability => exact h.getInterfaceVersion capability
  | queryGameMode pid => exact h.queryGameMode pid
  | inhibit flags reason parentWindow => exact h.inhibit flags reason parentWindow
  | getSupportedInhibitFlags => exact h.getSupportedInhibitFlags
  | closeRequest handle => exact h.closeRequest handle
  | isPowerSaverEnabled => exact h.isPowerSaverEnabled
  | addNotification id title body priority => exact h.addNotification id title body priority
  | removeNotification id => exact h.removeNotification id

end Safe

/-- The gates have held for every call of every run. -/
theorem safe_of_reachable (hn : (machine d).Reachable n) : Safe d n := by
  induction hn with
  | init => exact ⟨⟨⟨rfl, nofun, nofun, nofun⟩, trivial, .init⟩, nofun⟩
  | @step n n' a hr heq ih =>
    obtain rfl : (n.perform d a).2 = n' := Option.some.inj heq
    exact ih.perform a

/-- Whatever is done to the node, what it has cached are the last answers of the active backend,
and a backend is only called through the gates. -/
theorem calls_gated (hn : (machine d).Reachable n) :
    Cached d.toDesktop n.facade ∧
    (∀ later e earlier, n.facade.history = later ++ e :: earlier → e.Fits d.toDesktop earlier) ∧
    ∀ x ∈ n.exchanges, x.Fits := by
  have hsafe := safe_of_reachable hn
  exact ⟨hsafe.facade.cached, (Justified.iff_forall _).mp hsafe.facade.fits,
    fun x hx => (hsafe.exchanges x hx).1⟩

/-- A game asks for a few things, and another backend is injected in between. -/
def servedRun : List (Action ℕ) :=
  [.facade .ready, .facade (.requestGameMode 0), .inhibit 8 "Cutscene" "",
    .facade (.openUri "https://example.org" false ""), .facade (.setBackend (some 1)),
    .addNotification "id" "Title" "" 7, .facade .exitTree]

/-- The gates have held in a run that makes calls of both kinds. -/
theorem calls_gated_served : ∃ n, (machine mockServices).exec {} servedRun = some n ∧
    n.facade.backend = some 1 ∧ n.exchanges.length = 2 ∧ n.facade.gameModePids = [] ∧
    Cached mockDesktop n.facade ∧
    (∀ later e earlier, n.facade.history = later ++ e :: earlier → e.Fits mockDesktop earlier) ∧
    ∀ x ∈ n.exchanges, x.Fits := by
  obtain ⟨n, hrun, hbackend, hlength, hpids⟩ := (machine mockServices).exists_exec_of_any {}
    servedRun (P := fun n => n.facade.backend = some 1 ∧ n.exchanges.length = 2 ∧
      n.facade.gameModePids = []) (by decide +kernel)
  exact ⟨n, hrun, hbackend, hlength, hpids, calls_gated (Machine.reachable_of_exec hrun)⟩

/-! ### What backs an answer -/

/-- The last call made was this one, with this answer. -/
def Asked (n : Node β) (call : Call) (answer : call.Answer) : Prop :=
  ∃ b earlier rest, n.exchanges = ⟨b, call, answer, earlier⟩ :: rest

/-- The result of a call is its failure, or a backend has just answered so. -/
def Backed (d : Services β) (n : Node β) : Action β → Result → Prop
  | .facade (.requestGameMode pid), .bool done => done = true →
    ∃ b earlier, n.facade.history = .registered b (d.resolvePid pid) 0 :: earlier
  | .facade (.releaseGameMode pid), .bool done => done = true →
    ∃ b earlier, n.facade.history = .unregistered b (d.resolvePid pid) 0 :: earlier
  | .facade (.openUri uri ask parentWindow), .string handle => handle ≠ "" →
    ∃ b earlier, n.facade.history = .openUri b uri ask parentWindow :: earlier ∧
      handle = d.openUri earlier b uri ask parentWindow
  | .facade (.isSchemeSupported scheme), .optional supported => ∀ answer, supported = some answer →
    (answer = false ∧ toLower scheme = "file") ∨
    ∃ b earlier, n.facade.history = .schemeSupported b (toLower scheme) :: earlier ∧
      0 ≤ d.schemeSupported earlier b (toLower scheme) ∧
      answer = (d.schemeSupported earlier b (toLower scheme) == 1)
  | .facade _, .void => True
  | .isAvailable, .bool available => available = true → ∃ b, Reached b n.facade.history
  | .getUnavailableReason, .string reason => reason ≠ "" →
    ∃ answer, n.Asked .getUnavailableReason answer ∧
      reason = answer.getD "XDG Desktop Portals are not available on this platform."
  | .hasCapability capability, .bool present => present = true →
    ∃ b, Serves b capability n.facade.history
  | .getCapabilities, .capabilities capabilities =>
    capabilities.map Prod.fst = Capability.values ∧
    ∀ capability, (capability, true) ∈ capabilities →
      ∃ b answer, n.facade.backend = some b ∧
        lastCapabilities n.facade.history = some (b, answer) ∧ answer.lookup capability = some true
  | .getInterfaceVersion capability, .int version => version ≠ -1 →
    ∃ b, Reached b n.facade.history ∧
      lastInterfaceVersion capability n.facade.history = some (b, version)
  | .queryGameMode pid, .status status => status ≠ .unknown →
    n.Asked (.gameModeQueryStatus (d.resolvePid pid)) status.value
  | .inhibit flags reason parentWindow, .string handle => handle ≠ "" →
    n.Asked (.inhibit flags reason parentWindow) handle
  | .getSupportedInhibitFlags, .int flags => flags ≠ 0 → n.Asked .getSupportedInhibitFlags flags
  | .closeRequest handle, .bool closed => closed = true → n.Asked (.closeRequest handle) true
  | .isPowerSaverEnabled, .optional enabled => ∀ answer, enabled = some answer →
    ∃ state : ℤ, n.Asked .powerSaverState state ∧ 0 ≤ state ∧ answer = (state == 1)
  | .addNotification id title body priority, .bool posted => posted = true →
    n.Asked (.addNotification id title body (priorityName priority)) true
  | .removeNotification id, .bool withdrawn => withdrawn = true →
    n.Asked (.removeNotification id) true
  | _, _ => False

lemma asked_askBackend (n : Node β) (call : Call) {answer : call.Answer}
    (h : (n.askBackend d call).1 = answer) : (n.askBackend d call).2.Asked call answer := by
  rw [← h]
  exact ⟨_, _, _, rfl⟩

/-- A status other than `unknown` is the one the backend has answered. -/
lemma value_of_ofAnswer {status : ℤ} (h : GameModeStatus.ofAnswer status ≠ .unknown) :
    (GameModeStatus.ofAnswer status).value = status := by
  rw [GameModeStatus.ofAnswer] at h ⊢
  split_ifs at h ⊢ with h₁ h₂ h₃
  · exact h₁.symm
  · exact h₂.symm
  · exact h₃.symm
  · exact absurd rfl h

namespace Safe

lemma backed_requestGameMode (h : Safe d n) (pid : ℤ) :
    Backed d (n.perform d (.facade (.requestGameMode pid))).2 (.facade (.requestGameMode pid))
      (.bool (n.facade.requestGameMode d.toDesktop pid).1) := by
  intro hdone
  show ∃ b earlier, (n.facade.requestGameMode d.toDesktop pid).2.history = _
  cases hpresent : (n.facade.hasCapability d.toDesktop .gameMode).1 with
  | false => simp [requestGameMode_of_absent hpresent] at hdone
  | true =>
    obtain ⟨b, hb, -⟩ := h.facade.serves hpresent
    rw [requestGameMode_of_present hpresent hb] at hdone ⊢
    simp only [beq_iff_eq] at hdone
    rw [history_registered, hdone]
    exact ⟨b, _, rfl⟩

lemma backed_releaseGameMode (h : Safe d n) (pid : ℤ) :
    Backed d (n.perform d (.facade (.releaseGameMode pid))).2 (.facade (.releaseGameMode pid))
      (.bool (n.facade.releaseGameMode d.toDesktop pid).1) := by
  intro hdone
  show ∃ b earlier, (n.facade.releaseGameMode d.toDesktop pid).2.history = _
  cases hpresent : (n.facade.hasCapability d.toDesktop .gameMode).1 with
  | false => simp [releaseGameMode_of_absent hpresent] at hdone
  | true =>
    obtain ⟨b, hb, -⟩ := h.facade.serves hpresent
    rw [releaseGameMode_of_present hpresent hb] at hdone ⊢
    simp only [beq_iff_eq] at hdone
    rw [history_unregistered, hdone]
    exact ⟨b, _, rfl⟩

lemma backed_openUri (uri : String) (ask : Bool) (parentWindow : String) :
    Backed d (n.perform d (.facade (.openUri uri ask parentWindow))).2
      (.facade (.openUri uri ask parentWindow))
      (.string (n.facade.openUri d.toDesktop uri ask parentWindow).1) := by
  intro hhandle
  show ∃ b earlier, (n.facade.openUri d.toDesktop uri ask parentWindow).2.history = _ ∧ _
  cases hpresent : (n.facade.hasCapability d.toDesktop .openUri).1 with
  | false =>
    rw [openUri_of_absent hpresent] at hhandle
    exact absurd rfl hhandle
  | true =>
    by_cases huri : Accepted uri
    · obtain ⟨b, -, heq⟩ := forwards_of_accepted hpresent huri
      rw [heq]
      exact ⟨b, _, rfl, rfl⟩
    · obtain ⟨message, heq⟩ := openUri_of_not_accepted hpresent huri
      rw [heq] at hhandle
      exact absurd rfl hhandle

lemma backed_isSchemeSupported (h : Safe d n) (scheme : String) :
    Backed d (n.perform d (.facade (.isSchemeSupported scheme))).2
      (.facade (.isSchemeSupported scheme))
      (.optional (n.facade.isSchemeSupported d.toDesktop scheme).1) := by
  intro answer hanswer
  show _ ∨ ∃ b earlier, (n.facade.isSchemeSupported d.toDesktop scheme).2.history = _ ∧ _
  cases hpresent : (n.facade.hasCapability d.toDesktop .openUri).1 with
  | false =>
    rw [isSchemeSupported_of_absent hpresent] at hanswer
    cases hanswer
  | true =>
    by_cases hscheme : Allowed scheme
    · obtain ⟨b, hb, -⟩ := h.facade.serves hpresent
      rw [isSchemeSupported_of_allowed hpresent hb hscheme] at hanswer ⊢
      simp only at hanswer ⊢
      split_ifs at hanswer ⊢ with hversion hnegative
      right
      exact ⟨b, _, rfl, not_lt.mp hnegative, (Option.some.inj hanswer).symm⟩
    · left
      rw [isSchemeSupported, Facade.hasCapability_eq hpresent] at hanswer
      simp only [Bool.not_true, Bool.false_eq_true, if_false] at hanswer
      rw [allowed_iff] at hscheme
      split_ifs at hanswer with hvalid hfile
      · exact ⟨(Option.some.inj hanswer).symm, hfile⟩
      · exact absurd ⟨by simpa using hvalid, hfile⟩ hscheme

lemma retains_checked (hb : n.facade.backend = some b) (capability : Capability) :
    Retains n.facade (n.checked d capability).facade := by
  have hchecked : (n.checked d capability).facade = (n.facade.isAvailable d.toDesktop).2 :=
    hasCapability_snd capability
  rw [hchecked, isAvailable_of_some hb]
  exact .record _ rfl

lemma retains_readCapabilities (hb : n.facade.backend = some b) (capabilities : List Capability) :
    Retains n.facade (n.readCapabilities d capabilities).2.facade := by
  induction capabilities generalizing n with
  | nil => exact ⟨rfl, rfl, rfl, [], by simp, rfl⟩
  | cons capability capabilities ih =>
    have hfirst := retains_checked (d := d) hb capability
    exact hfirst.trans (ih (hfirst.backend.trans hb))

/-- A capability that is reported as present still is one of the last answer in the end. -/
lemma served_readCapabilities (h : Safe d n) (capabilities : List Capability)
    (hmem : (capability, true) ∈ (n.readCapabilities d capabilities).1) :
    ∃ b, (n.readCapabilities d capabilities).2.facade.backend = some b ∧
      (n.readCapabilities d capabilities).2.facade.capabilities.lookup capability = some true := by
  induction capabilities generalizing n with
  | nil => cases hmem
  | cons first capabilities ih =>
    rcases List.mem_cons.mp hmem with heq | hmem
    · obtain ⟨rfl, hpresent⟩ := Prod.mk.inj heq
      obtain ⟨b, hb, hlookup, heq⟩ := hasCapability_of_present hpresent.symm
      have hchecked : (n.checked d capability).facade = _ := heq
      have hb' : (n.checked d capability).facade.backend = some b := by
        rw [hchecked]
        exact hb
      have hretains := retains_readCapabilities (d := d) hb' capabilities
      refine ⟨b, hretains.backend.trans hb', ?_⟩
      show ((n.checked d capability).readCapabilities d capabilities).2.facade.capabilities.lookup
        capability = some true
      rw [hretains.capabilities, hchecked]
      exact hlookup
    · exact ih (h.checked first) hmem

lemma keys_readCapabilities (n : Node β) (capabilities : List Capability) :
    (n.readCapabilities d capabilities).1.map Prod.fst = capabilities := by
  induction capabilities generalizing n with
  | nil => rfl
  | cons capability capabilities ih => exact congrArg (capability :: ·) (ih _)

lemma backed_getCapabilities (h : Safe d n) :
    Backed d (n.getCapabilities d).2 .getCapabilities (.capabilities (n.getCapabilities d).1) := by
  refine ⟨keys_readCapabilities n Capability.values, fun capability hmem => ?_⟩
  obtain ⟨b, hb, hlookup⟩ := h.served_readCapabilities Capability.values hmem
  have hsafe := h.readCapabilities Capability.values
  exact ⟨b, _, hb, hsafe.facade.cached.capabilities b hb, hlookup⟩

lemma backed_getInterfaceVersion (h : Safe d n) (capability : Capability) :
    Backed d { n with facade := (n.facade.getInterfaceVersion d.toDesktop capability).2 }
      (.getInterfaceVersion capability)
      (.int (n.facade.getInterfaceVersion d.toDesktop capability).1) := by
  have hcached := h.facade.ready.cached
  obtain ⟨b, hb⟩ : ∃ b, (n.facade.ready d.toDesktop).backend = some b := ⟨_, backend_ready⟩
  obtain ⟨version, hlast, hlookup⟩ := hcached.versions b hb capability
  rw [getInterfaceVersion_eq hb, hlookup]
  cases havailable : d.isAvailable (n.facade.ready d.toDesktop).history b with
  | false => exact fun hversion => absurd rfl hversion
  | true => exact fun _ => ⟨b, ⟨_, rfl, hcached.active.trans hb⟩, hlast⟩

end Safe

/-- No call reports a success that no backend has just answered. -/
theorem answers_backed (hn : (machine d).Reachable n) (a : Action β) :
    Backed d (n.perform d a).2 a (n.perform d a).1 := by
  have hsafe := safe_of_reachable hn
  cases a with
  | facade action =>
    cases action with
    | requestGameMode pid => exact hsafe.backed_requestGameMode pid
    | releaseGameMode pid => exact hsafe.backed_releaseGameMode pid
    | openUri uri ask parentWindow => exact Safe.backed_openUri uri ask parentWindow
    | isSchemeSupported scheme => exact hsafe.backed_isSchemeSupported scheme
    | _ => trivial
  | isAvailable =>
    intro havailable
    obtain ⟨b, rest, -, heq, hactive⟩ := hsafe.facade.answered havailable
    exact ⟨b, rest, heq, hactive⟩
  | getUnavailableReason =>
    rw [perform, getUnavailableReason_eq]
    simp only
    split_ifs with havailable
    · exact fun hreason => absurd rfl hreason
    · exact fun _ => ⟨_, asked_askBackend _ _ rfl, rfl⟩
  | hasCapability capability =>
    intro hpresent
    obtain ⟨b, -, hserves⟩ := hsafe.facade.serves hpresent
    exact ⟨b, hserves⟩
  | getCapabilities => exact hsafe.backed_getCapabilities
  | getInterfaceVersion capability => exact hsafe.backed_getInterfaceVersion capability
  | queryGameMode pid =>
    rw [perform, queryGameMode_eq]
    simp only
    split_ifs with hpresent
    · exact fun hstatus => asked_askBackend _ _ (value_of_ofAnswer hstatus).symm
    · exact fun hstatus => absurd rfl hstatus
  | inhibit flags reason parentWindow =>
    rw [perform, inhibit_eq]
    simp only
    split_ifs with hpresent hflags
    · exact fun _ => asked_askBackend _ _ rfl
    · exact fun hhandle => absurd rfl hhandle
    · exact fun hhandle => absurd rfl hhandle
  | getSupportedInhibitFlags =>
    rw [perform, getSupportedInhibitFlags_eq]
    split_ifs with hpresent
    · exact fun _ => asked_askBackend _ _ rfl
    · exact fun hflags => absurd rfl hflags
  | closeRequest handle =>
    rw [perform, closeRequest_eq]
    split_ifs with hempty havailable
    · exact fun hclosed => Bool.noConfusion hclosed
    · exact fun hclosed => asked_askBackend _ _ hclosed
    · exact fun hclosed => Bool.noConfusion hclosed
  | isPowerSaverEnabled =>
    rw [perform, isPowerSaverEnabled_eq]
    by_cases hpresent : (n.facade.hasCapability d.toDesktop .powerProfileMonitor).1
    · simp only [hpresent, if_true]
      intro answer hanswer
      split_ifs at hanswer with hnegative
      exact ⟨_, asked_askBackend _ _ rfl, not_lt.mp hnegative, (Option.some.inj hanswer).symm⟩
    · simp only [hpresent]
      exact nofun
  | addNotification id title body priority =>
    rw [perform, addNotification_eq]
    simp only
    split_ifs with hasks
    · exact fun hposted => asked_askBackend _ _ hposted
    · exact fun hposted => Bool.noConfusion hposted
  | removeNotification id =>
    rw [perform, removeNotification_eq]
    simp only
    split_ifs with hasks
    · exact fun hwithdrawn => asked_askBackend _ _ hwithdrawn
    · exact fun hwithdrawn => Bool.noConfusion hwithdrawn

/-- A registration that is reported as done has just been made with the injected backend. -/
theorem answers_backed_served : ∃ n, (machine mockServices).exec {} servedRun = some n ∧
    (n.facade.requestGameMode mockDesktop 7).1 = true ∧
    ∃ b earlier, (n.perform mockServices (.facade (.requestGameMode 7))).2.facade.history =
      .registered b (mockDesktop.resolvePid 7) 0 :: earlier := by
  obtain ⟨n, hrun, hdone⟩ := (machine mockServices).exists_exec_of_any {} servedRun
    (P := fun n => (n.facade.requestGameMode mockDesktop 7).1 = true) (by decide +kernel)
  have hbacked := answers_backed (Machine.reachable_of_exec hrun) (.facade (.requestGameMode 7))
  exact ⟨n, hrun, hdone, hbacked hdone⟩

end Node

end XdgPortals
