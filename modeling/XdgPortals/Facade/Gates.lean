import XdgPortals.Facade.GameMode
import XdgPortals.Facade.Node
import XdgPortals.Facade.Uri
import XdgPortals.Facade.Wiring

/-!
# What the node lets through

The node asks a backend for something only while it is the active one, right after it has said that
it is available, and for a capability that was in its last answer. The arguments it passes on have
been checked. Nothing is asked of a backend that has been shut down.
-/

namespace XdgPortals

namespace Facade

variable {β : Type} {f g : Facade β} {b c : β} {d : Desktop β} {capability : Capability}
  {e : Event β} {es history : List (Event β)}

/-! ### What is cached -/

/-- The backend that has become active last. -/
def lastActivated : List (Event β) → Option β
  | [] => none
  | .activated b :: _ => some b
  | _ :: es => lastActivated es

/-- The events that say which backend is active and what it can do. -/
def Event.informs : Event β → Bool
  | .activated _ | .capabilities _ _ | .interfaceVersion _ _ _ => true
  | _ => false

lemma lastActivated_append (hes : ∀ e ∈ es, ∀ b, e ≠ .activated b) :
    lastActivated (es ++ history) = lastActivated history := by
  induction es with
  | nil => rfl
  | cons e es ih =>
    rw [List.forall_mem_cons] at hes
    have hrest := ih hes.2
    cases e with
    | activated b => exact absurd rfl (hes.1 b)
    | _ => exact hrest

section Append

variable (hes : ∀ e ∈ es, e.informs = false)
include hes

lemma not_activated_of_informs : ∀ e ∈ es, ∀ b, e ≠ .activated b := by
  rintro e he b rfl
  cases hes _ he

lemma lastCapabilities_append : lastCapabilities (es ++ history) = lastCapabilities history := by
  induction es with
  | nil => rfl
  | cons e es ih =>
    rw [List.forall_mem_cons] at hes
    have hrest := ih hes.2
    cases e with
    | activated | capabilities | interfaceVersion => cases hes.1
    | _ => exact hrest

lemma lastInterfaceVersion_append :
    lastInterfaceVersion capability (es ++ history) = lastInterfaceVersion capability history := by
  induction es with
  | nil => rfl
  | cons e es ih =>
    rw [List.forall_mem_cons] at hes
    have hrest := ih hes.2
    cases e with
    | activated | capabilities | interfaceVersion => cases hes.1
    | _ => exact hrest

end Append

/-- The version that is cached was read after what had been recorded, with only other versions
read between. -/
def ReadAfter (d : Desktop β) (f : Facade β) (b : β) (history : List (Event β))
    (capability : Capability) : Prop :=
  ∃ reads : List (Event β), (∀ e ∈ reads, ∃ other version, e = .interfaceVersion b other version) ∧
    f.interfaceVersions.lookup capability =
      some (d.getInterfaceVersion (reads ++ history) b capability)

/-- The capabilities and the versions that are cached were read together. -/
def ReadTogether (d : Desktop β) (f : Facade β) (b : β) : Prop :=
  ∃ earlier, earlier <:+ f.history ∧ f.capabilities = d.getCapabilities earlier b ∧
    ∀ capability, ReadAfter d f b (.capabilities b f.capabilities :: earlier) capability

/-- What the node has cached are the last answers of the active backend. -/
structure Cached (d : Desktop β) (f : Facade β) : Prop where
  active : lastActivated f.history = f.backend
  capabilities : ∀ b, f.backend = some b → lastCapabilities f.history = some (b, f.capabilities)
  versions : ∀ b, f.backend = some b → ∀ capability, CachesVersion f b capability
  together : ∀ b, f.backend = some b → ReadTogether d f b

/-- The backend and what is cached stay as they are. -/
structure Retains (f g : Facade β) : Prop where
  backend : g.backend = f.backend
  capabilities : g.capabilities = f.capabilities
  interfaceVersions : g.interfaceVersions = f.interfaceVersions
  history : ∃ es, (∀ e ∈ es, e.informs = false) ∧ g.history = es ++ f.history

lemma Retains.trans {g' : Facade β} (h : Retains f g) (h' : Retains g g') : Retains f g' := by
  obtain ⟨es, hes, heq⟩ := h.history
  obtain ⟨es', hes', heq'⟩ := h'.history
  refine ⟨h'.backend.trans h.backend, h'.capabilities.trans h.capabilities,
    h'.interfaceVersions.trans h.interfaceVersions, es' ++ es, ?_, ?_⟩
  · rw [List.forall_mem_append]
    exact ⟨hes', hes⟩
  · rw [heq', heq, List.append_assoc]

lemma Retains.record (f : Facade β) (he : e.informs = false) : Retains f (f.record e) :=
  ⟨rfl, rfl, rfl, [e], by simpa using he, rfl⟩

lemma ReadTogether.retain (h : ReadTogether d f b) (hr : Retains f g) : ReadTogether d g b := by
  obtain ⟨earlier, hsuffix, hcapabilities, hversions⟩ := h
  obtain ⟨es, -, heq⟩ := hr.history
  refine ⟨earlier, ?_, hr.capabilities.trans hcapabilities, fun capability => ?_⟩
  · rw [heq]
    exact hsuffix.trans (List.suffix_append es f.history)
  · rw [ReadAfter, hr.capabilities, hr.interfaceVersions]
    exact hversions capability

lemma Cached.retain (h : Cached d f) (hr : Retains f g) : Cached d g := by
  obtain ⟨es, hes, heq⟩ := hr.history
  constructor
  · rw [heq, lastActivated_append (not_activated_of_informs hes), hr.backend]
    exact h.active
  · intro b hb
    rw [heq, lastCapabilities_append hes, hr.capabilities]
    exact h.capabilities b (hr.backend.symm.trans hb)
  · intro b hb capability
    obtain ⟨version, hlast, hcached⟩ := h.versions b (hr.backend.symm.trans hb) capability
    exact ⟨version, by rwa [heq, lastInterfaceVersion_append hes], by rwa [hr.interfaceVersions]⟩
  · intro b hb
    exact (h.together b (hr.backend.symm.trans hb)).retain hr

/-- The loop reads the versions one after the other. -/
lemma readAfter_readInterfaceVersions (capabilities : List Capability)
    (hhistory : ∃ reads : List (Event β),
      (∀ e ∈ reads, ∃ other version, e = .interfaceVersion b other version) ∧
        f.history = reads ++ history)
    (h : capability ∈ capabilities ∨ ReadAfter d f b history capability) :
    ReadAfter d (f.readInterfaceVersions d b capabilities) b history capability := by
  induction capabilities generalizing f with
  | nil => exact h.resolve_left List.not_mem_nil
  | cons first capabilities ih =>
    obtain ⟨reads, hreads, heq⟩ := hhistory
    rw [readInterfaceVersions]
    apply ih
    · refine ⟨.interfaceVersion b first (d.getInterfaceVersion f.history b first) :: reads, ?_, ?_⟩
      · rw [List.forall_mem_cons]
        exact ⟨⟨_, _, rfl⟩, hreads⟩
      · rw [List.cons_append, ← heq]
    · by_cases hfirst : first = capability
      · right
        refine ⟨reads, hreads, ?_⟩
        rw [← heq, hfirst]
        exact Entries.lookup_set_self
      · rcases h with hmem | ⟨others, hothers, hcached⟩
        · exact .inl ((List.mem_cons.mp hmem).resolve_left (Ne.symm hfirst))
        · exact .inr ⟨others, hothers,
            (Entries.lookup_set_of_ne (Ne.symm hfirst)).trans hcached⟩

/-- The node after the first answer of a refresh. -/
def capabilitiesRead (d : Desktop β) (f : Facade β) (b : β) : Facade β :=
  { f with
      capabilities := d.getCapabilities f.history b
      interfaceVersions := []
      history := .capabilities b (d.getCapabilities f.history b) :: f.history }

/-- A refresh reads everything together. -/
lemma readTogether_refreshFrom (f : Facade β) (b : β) : ReadTogether d (f.refreshFrom d b) b := by
  have hcapabilities : (f.refreshFrom d b).capabilities = d.getCapabilities f.history b :=
    (lastCapabilities_readInterfaceVersions (d := d) (b := b) (f := f.capabilitiesRead d b)
      Capability.values).2
  refine ⟨f.history, ?_, hcapabilities, fun capability => ?_⟩
  · obtain ⟨es, -, heq⟩ := (Quiet.refreshFrom (d := d) f b).history
    rw [heq]
    exact List.suffix_append es f.history
  · rw [hcapabilities]
    apply readAfter_readInterfaceVersions (f := f.capabilitiesRead d b)
    · exact ⟨[], by simp, rfl⟩
    · left
      cases capability <;> decide

/-! ### Registrations -/

/-- The node after the active backend has answered a registration. -/
def registered (f : Facade β) (b : β) (pid code : ℤ) : Facade β :=
  let f := f.record (.registered b pid code)
  if code ≠ 0 then f else f.holdPid pid

/-- The node after the active backend has answered a release. -/
def unregistered (f : Facade β) (b : β) (pid code : ℤ) : Facade β :=
  let f := f.record (.unregistered b pid code)
  if code ≠ 0 then f else f.erasePid pid

lemma retains_registered (f : Facade β) (b : β) (pid code : ℤ) :
    Retains f (f.registered b pid code) := by
  rw [registered]
  split_ifs
  · exact ⟨rfl, rfl, rfl, [_], by simp [Event.informs], rfl⟩
  · rw [holdPid]
    split_ifs <;> exact ⟨rfl, rfl, rfl, [_], by simp [Event.informs], rfl⟩

@[simp] lemma history_registered (f : Facade β) (b : β) (pid code : ℤ) :
    (f.registered b pid code).history = .registered b pid code :: f.history := by
  rw [registered]
  split_ifs <;> simp

@[simp] lemma history_unregistered (f : Facade β) (b : β) (pid code : ℤ) :
    (f.unregistered b pid code).history = .unregistered b pid code :: f.history := by
  rw [unregistered]
  split_ifs <;> rfl

lemma retains_unregistered (f : Facade β) (b : β) (pid code : ℤ) :
    Retains f (f.unregistered b pid code) := by
  rw [unregistered]
  split_ifs <;> exact ⟨rfl, rfl, rfl, [_], by simp [Event.informs], rfl⟩

/-! ### Gates -/

/-- The backend is the active one and has just said that it is available. -/
def Reached (b : β) (earlier : List (Event β)) : Prop :=
  ∃ rest, earlier = .isAvailable b true :: rest ∧ lastActivated rest = some b

/-- And the capability was in its last answer. -/
def Serves (b : β) (capability : Capability) (earlier : List (Event β)) : Prop :=
  Reached b earlier ∧ ∃ answer, lastCapabilities earlier = some (b, answer) ∧
    answer.lookup capability = some true

/-- The version of the interface was in its last answers. -/
def Exports (b : β) (capability : Capability) (least : ℤ) (earlier : List (Event β)) : Prop :=
  ∃ version, lastInterfaceVersion capability earlier = some (b, version) ∧ least ≤ version

variable [DecidableEq β]

/-- What has to be recorded before an event. Whether a backend is available and what it can do is
asked of the active one, without a gate. A registration is released through the gate, or handed back
because it is held. -/
def Event.Fits (d : Desktop β) (e : Event β) (earlier : List (Event β)) : Prop :=
  match e with
  | .isAvailable b answer => lastActivated earlier = some b ∧ answer = d.isAvailable earlier b
  | .capabilities b answer =>
    lastActivated earlier = some b ∧ answer = d.getCapabilities earlier b
  | .interfaceVersion b capability version =>
    lastActivated earlier = some b ∧ version = d.getInterfaceVersion earlier b capability
  | .registered b _ _ => Serves b .gameMode earlier
  | .unregistered b pid _ => Serves b .gameMode earlier ∨ HeldBy b pid earlier
  | .openUri b uri _ _ => Serves b .openUri earlier ∧ Accepted uri
  | .schemeSupported b scheme =>
    Serves b .openUri earlier ∧ Exports b .openUri schemeSupportedMinVersion earlier ∧
      Allowed scheme ∧ toLower scheme = scheme
  | .shutdown b => ∃ rest, earlier = .handedBack b :: rest
  | _ => True

/-- The gates have held, and what they look at is right. -/
structure Safe (d : Desktop β) (f : Facade β) : Prop where
  cached : Cached d f
  fits : Justified (Event.Fits d) f.history
  accounted : Accounted f

/-- The versions are read from the active backend. -/
lemma fits_readInterfaceVersions (hactive : lastActivated f.history = some b)
    (h : Justified (Event.Fits d) f.history) (capabilities : List Capability) :
    lastActivated (f.readInterfaceVersions d b capabilities).history = some b ∧
      Justified (Event.Fits d) (f.readInterfaceVersions d b capabilities).history := by
  induction capabilities generalizing f with
  | nil => exact ⟨hactive, h⟩
  | cons capability capabilities ih => exact ih hactive ⟨⟨hactive, rfl⟩, h⟩

/-- So is everything in a refresh. -/
lemma fits_refreshFrom (hactive : lastActivated f.history = some b)
    (h : Justified (Event.Fits d) f.history) :
    lastActivated (f.refreshFrom d b).history = some b ∧
      Justified (Event.Fits d) (f.refreshFrom d b).history := by
  obtain ⟨hactive', hfits⟩ := fits_readInterfaceVersions (f := f.capabilitiesRead d b) hactive
    ⟨⟨hactive, rfl⟩, h⟩ Capability.values
  exact ⟨hactive', trivial, hfits⟩

/-! ### Asking whether portals are available -/

lemma isAvailable_of_some (hb : f.backend = some b) :
    f.isAvailable d = (d.isAvailable f.history b,
      f.record (.isAvailable b (d.isAvailable f.history b))) := by
  rw [isAvailable, ensureBackend_of_some hb]

/-- A capability that is present is one of the last answer of a backend that is available. -/
lemma hasCapability_of_present (h : (f.hasCapability d capability).1 = true) :
    ∃ b, (f.ready d).backend = some b ∧ (f.ready d).capabilities.lookup capability = some true ∧
      (f.hasCapability d capability).2 = (f.ready d).record (.isAvailable b true) := by
  have hasked : f.isAvailable d = (d.isAvailable (f.ready d).history (f.ensureBackend d).1,
      (f.ready d).record (.isAvailable (f.ensureBackend d).1
        (d.isAvailable (f.ready d).history (f.ensureBackend d).1))) := rfl
  refine ⟨_, backend_ready, ?_⟩
  cases hanswer : d.isAvailable (f.ready d).history (f.ensureBackend d).1 with
  | false =>
    rw [hasCapability, hasked, hanswer] at h
    cases h
  | true =>
    have heq : f.hasCapability d capability =
        (((f.ready d).capabilities.lookup capability).getD false,
          (f.ready d).record (.isAvailable (f.ensureBackend d).1 true)) := by
      rw [hasCapability, hasked, hanswer]
      rfl
    rw [heq] at h ⊢
    refine ⟨?_, rfl⟩
    cases hlookup : (f.ready d).capabilities.lookup capability with
    | none => simp [hlookup] at h
    | some present => simpa [hlookup] using h

lemma getInterfaceVersion_eq (h : (f.ready d).backend = some b) :
    f.getInterfaceVersion d capability =
      (if d.isAvailable (f.ready d).history b then
          ((f.ready d).interfaceVersions.lookup capability).getD (-1)
        else -1,
        (f.ready d).record (.isAvailable b (d.isAvailable (f.ready d).history b))) := by
  obtain rfl : (f.ensureBackend d).1 = b := Option.some.inj (backend_ready.symm.trans h)
  have hasked : f.isAvailable d = (d.isAvailable (f.ready d).history (f.ensureBackend d).1,
      (f.ready d).record (.isAvailable (f.ensureBackend d).1
        (d.isAvailable (f.ready d).history (f.ensureBackend d).1))) := rfl
  rw [getInterfaceVersion, hasked]
  cases d.isAvailable (f.ready d).history (f.ensureBackend d).1 <;> rfl

lemma getInterfaceVersion_of_some (hb : f.backend = some b) :
    f.getInterfaceVersion d capability =
      (if d.isAvailable f.history b then (f.interfaceVersions.lookup capability).getD (-1) else -1,
        f.record (.isAvailable b (d.isAvailable f.history b))) := by
  have hready : (f.ready d).backend = some b := by rwa [ready_of_some hb]
  rw [getInterfaceVersion_eq hready, ready_of_some hb]

/-- A scheme that may be opened is asked about when the interface is recent enough. -/
lemma isSchemeSupported_of_allowed {scheme : String}
    (h : (f.hasCapability d .openUri).1 = true)
    (hb : (f.hasCapability d .openUri).2.backend = some b) (hs : Allowed scheme) :
    f.isSchemeSupported d scheme =
      let (version, g) := (f.hasCapability d .openUri).2.getInterfaceVersion d .openUri
      let supported := d.schemeSupported g.history b (toLower scheme)
      if version < schemeSupportedMinVersion then (none, g)
      else (if supported < 0 then none else some (supported == 1),
        g.record (.schemeSupported b (toLower scheme))) := by
  obtain ⟨hvalid, hfile⟩ := allowed_iff.mp hs
  have hbackend : ((f.hasCapability d .openUri).2.record (.isAvailable b (d.isAvailable
      (f.hasCapability d .openUri).2.history b))).backend = some b := hb
  rw [isSchemeSupported, hasCapability_eq h]
  simp only [Bool.not_true, Bool.false_eq_true, if_false, hvalid, hfile,
    getInterfaceVersion_of_some hb, ensureBackend_of_some hbackend]
  split_ifs <;> rfl

lemma requestGameMode_of_absent {pid : ℤ} (h : (f.hasCapability d .gameMode).1 = false) :
    f.requestGameMode d pid = (false, (f.hasCapability d .gameMode).2) := by
  rw [requestGameMode, hasCapability_eq h]
  rfl

lemma releaseGameMode_of_absent {pid : ℤ} (h : (f.hasCapability d .gameMode).1 = false) :
    f.releaseGameMode d pid = (false, (f.hasCapability d .gameMode).2) := by
  rw [releaseGameMode, hasCapability_eq h]
  rfl

lemma requestGameMode_of_present {pid : ℤ} (h : (f.hasCapability d .gameMode).1 = true)
    (hb : (f.hasCapability d .gameMode).2.backend = some b) :
    f.requestGameMode d pid =
      let g := (f.hasCapability d .gameMode).2
      let code := d.gameModeRegister g.history b (d.resolvePid pid)
      (code == 0, g.registered b (d.resolvePid pid) code) := by
  rw [requestGameMode, hasCapability_eq h]
  simp only [Bool.not_true, Bool.false_eq_true, if_false, ensureBackend_of_some hb, registered]
  split_ifs with hcode
  · simp [hcode]
  · simp [not_not.mp hcode]

lemma releaseGameMode_of_present {pid : ℤ} (h : (f.hasCapability d .gameMode).1 = true)
    (hb : (f.hasCapability d .gameMode).2.backend = some b) :
    f.releaseGameMode d pid =
      let g := (f.hasCapability d .gameMode).2
      let code := d.gameModeUnregister g.history b (d.resolvePid pid)
      (code == 0, g.unregistered b (d.resolvePid pid) code) := by
  rw [releaseGameMode, hasCapability_eq h]
  simp only [Bool.not_true, Bool.false_eq_true, if_false, ensureBackend_of_some hb, unregistered]
  split_ifs with hcode
  · simp [hcode]
  · simp [not_not.mp hcode]

namespace Safe

/-- A step that records what fits and leaves the rest to the other invariants. -/
lemma record (h : Safe d f) (hinforms : e.informs = false) (hfits : e.Fits d f.history)
    (hquiet : e.isQuiet = true) : Safe d (f.record e) :=
  ⟨h.cached.retain (.record f hinforms), ⟨hfits, h.fits⟩, h.accounted.quiet (.record hquiet)⟩

/-- A refresh caches the answers of the active backend. -/
lemma refreshFrom (hb : f.backend = some b) (hactive : lastActivated f.history = some b)
    (hfits : Justified (Event.Fits d) f.history) (haccounted : Accounted f) :
    Safe d (f.refreshFrom d b) := by
  obtain ⟨hactive', hfits'⟩ := fits_refreshFrom hactive hfits
  obtain ⟨hcapabilities, hversions⟩ := answers_refreshFrom (d := d) f b
  have hquiet := Quiet.refreshFrom (d := d) f b
  refine ⟨⟨?_, ?_, ?_, ?_⟩, hfits', haccounted.quiet hquiet⟩
  · rw [hquiet.backend, hb, hactive']
  · intro c hc
    rw [hquiet.backend, hb] at hc
    rw [hcapabilities, Option.some.inj hc]
  · intro c hc
    rw [hquiet.backend, hb] at hc
    rw [← Option.some.inj hc]
    exact hversions
  · intro c hc
    rw [hquiet.backend, hb] at hc
    rw [← Option.some.inj hc]
    exact readTogether_refreshFrom f b

/-- Every registration that is handed back is held until then. -/
lemma fits_sent {pids : List ℤ} {sent : List (Event β)} (hnodup : pids.Nodup)
    (hheld : ∀ pid ∈ pids, HeldBy b pid history)
    (hsent : List.Forall₂ (fun pid e => ∃ code, e = Event.unregistered b pid code) pids sent)
    (h : Justified (Event.Fits d) history) :
    Justified (Event.Fits d) (sent.reverse ++ history) := by
  induction hsent generalizing history with
  | nil => exact h
  | @cons pid e pids sent he hrest ih =>
    obtain ⟨code, rfl⟩ := he
    rw [List.nodup_cons] at hnodup
    rw [List.forall_mem_cons] at hheld
    rw [List.reverse_cons, List.append_assoc]
    apply ih hnodup.2
    · intro other hother
      refine heldBy_unregistered.mpr ⟨?_, hheld.2 other hother⟩
      rintro ⟨-, rfl, -⟩
      exact hnodup.1 hother
    · exact ⟨.inr hheld.1, h⟩

/-- A backend that is left has been handed back what is held, and is then shut down. -/
lemma fits_left (h : Safe d f) (hb : f.backend = some b) :
    Justified (Event.Fits d) (.shutdown b :: (f.releaseHeldGameMode d b).history) := by
  obtain ⟨sent, hsent, heq⟩ := releaseHeldGameMode_eq (d := d) f b
  rw [heq]
  refine ⟨⟨_, rfl⟩, trivial, fits_sent h.accounted.nodup ?_ hsent h.fits⟩
  exact fun pid hmem => (h.accounted.held b pid).mpr ⟨hb, hmem⟩

lemma exitTree (h : Safe d f) : Safe d (f.exitTree d) := by
  cases hb : f.backend with
  | none => rwa [Facade.exitTree, hb]
  | some b =>
    refine ⟨?_, ?_, h.accounted.exitTree⟩
    · obtain ⟨sent, hsent, heq⟩ := releaseHeldGameMode_eq (d := d) f b
      rw [exitTree_eq hb, heq]
      refine h.cached.retain ⟨rfl, rfl, rfl, .shutdown b :: .handedBack b :: sent.reverse, ?_, rfl⟩
      simp only [List.forall_mem_cons, List.mem_reverse]
      refine ⟨rfl, rfl, fun e he => ?_⟩
      obtain ⟨pid, code, rfl⟩ := exists_of_mem_sent hsent he
      rfl
    · rw [exitTree_eq hb]
      exact h.fits_left hb

lemma setBackend (h : Safe d f) (b : β) : Safe d (f.setBackend d (some b)) := by
  cases hb : f.backend with
  | none =>
    rw [setBackend_of_none hb]
    apply refreshFrom
    · simp [activate]
    · simp [activate, lastActivated]
    · simpa [activate] using ⟨trivial, h.fits⟩
    · exact (h.accounted.activate (h.accounted.idle hb) b).connectBackend b
  | some old =>
    obtain ⟨-, hpids, -⟩ := h.accounted.releaseHeldGameMode (d := d) hb
    rw [setBackend_of_some hb]
    apply refreshFrom
    · simp [activate]
    · simp [activate, lastActivated]
    · simpa [activate] using ⟨trivial, h.fits_left hb⟩
    · exact ((h.accounted.retire hb).activate hpids b).connectBackend b

lemma ready (h : Safe d f) : Safe d (f.ready d) := by
  cases hb : f.backend with
  | none =>
    rw [Facade.ready, ensureBackend_of_none hb]
    exact h.setBackend _
  | some b => rwa [ready_of_some hb]

lemma refreshCapabilities (h : Safe d f) : Safe d (f.refreshCapabilities d) := by
  have hready := h.ready
  exact refreshFrom backend_ready (hready.cached.active.trans backend_ready) hready.fits
    hready.accounted

lemma isAvailable (h : Safe d f) : Safe d (f.isAvailable d).2 :=
  h.ready.record rfl ⟨h.ready.cached.active.trans backend_ready, rfl⟩ rfl

lemma hasCapability (h : Safe d f) (capability : Capability) :
    Safe d (f.hasCapability d capability).2 := by
  rw [hasCapability_snd]
  exact h.isAvailable

lemma backendEmits (h : Safe d f) (b : β) (signal : BackendSignal) :
    Safe d (f.backendEmits b signal) := by
  have hes : ∀ e ∈ List.replicate (f.connections.count (b, signal.name))
      (Event.emitted signal : Event β), e = .emitted signal :=
    fun e he => List.eq_of_mem_replicate he
  refine ⟨h.cached.retain ⟨rfl, rfl, rfl, _, fun e he => by rw [hes e he]; rfl, rfl⟩, ?_,
    h.accounted.quiet (.backendEmits f b signal)⟩
  refine h.fits.append fun later e earlier heq => ?_
  rw [hes e (by rw [heq]; simp)]
  trivial

/-- The answer to the question whether portals are available is that of the active backend. -/
lemma answered (h : Safe d f) {answer : Bool} (hanswer : (f.isAvailable d).1 = answer) :
    ∃ b rest, (f.isAvailable d).2.backend = some b ∧
      (f.isAvailable d).2.history = .isAvailable b answer :: rest ∧
      lastActivated rest = some b := by
  refine ⟨(f.ensureBackend d).1, (f.ready d).history, backend_ready, ?_,
    h.ready.cached.active.trans backend_ready⟩
  rw [← hanswer]
  rfl

/-- A capability that is present is served by the active backend. -/
lemma serves (h : Safe d f) (hpresent : (f.hasCapability d capability).1 = true) :
    ∃ b, (f.hasCapability d capability).2.backend = some b ∧
      Serves b capability (f.hasCapability d capability).2.history := by
  obtain ⟨b, hb, hlookup, heq⟩ := hasCapability_of_present hpresent
  have hcached := h.ready.cached
  rw [heq]
  refine ⟨b, hb, ⟨_, rfl, hcached.active.trans hb⟩, (f.ready d).capabilities, ?_, hlookup⟩
  exact hcached.capabilities b hb

lemma requestGameMode (h : Safe d f) (pid : ℤ) : Safe d (f.requestGameMode d pid).2 := by
  have hasked := h.hasCapability .gameMode
  have haccounted := h.accounted.requestGameMode (d := d) pid
  cases hpresent : (f.hasCapability d .gameMode).1 with
  | false =>
    rw [requestGameMode_of_absent hpresent]
    exact hasked
  | true =>
    obtain ⟨b, hb, hserves⟩ := h.serves hpresent
    rw [requestGameMode_of_present hpresent hb] at haccounted ⊢
    refine ⟨hasked.cached.retain (retains_registered ..), ?_, haccounted⟩
    rw [history_registered]
    exact ⟨hserves, hasked.fits⟩

lemma releaseGameMode (h : Safe d f) (pid : ℤ) : Safe d (f.releaseGameMode d pid).2 := by
  have hasked := h.hasCapability .gameMode
  have haccounted := h.accounted.releaseGameMode (d := d) pid
  cases hpresent : (f.hasCapability d .gameMode).1 with
  | false =>
    rw [releaseGameMode_of_absent hpresent]
    exact hasked
  | true =>
    obtain ⟨b, hb, hserves⟩ := h.serves hpresent
    rw [releaseGameMode_of_present hpresent hb] at haccounted ⊢
    refine ⟨hasked.cached.retain (retains_unregistered ..), ?_, haccounted⟩
    rw [history_unregistered]
    exact ⟨.inl hserves, hasked.fits⟩

lemma openUri (h : Safe d f) (uri : String) (ask : Bool) (parentWindow : String) :
    Safe d (f.openUri d uri ask parentWindow).2 := by
  have hasked := h.hasCapability .openUri
  cases hpresent : (f.hasCapability d .openUri).1 with
  | false =>
    rw [openUri_of_absent hpresent]
    exact hasked
  | true =>
    by_cases huri : Accepted uri
    · obtain ⟨b, hb, hserves⟩ := h.serves hpresent
      obtain ⟨b', hb', heq⟩ := forwards_of_accepted hpresent huri
      rw [hb, Option.some.injEq] at hb'
      rw [heq, ← hb']
      exact hasked.record rfl ⟨hserves, huri⟩ rfl
    · obtain ⟨message, heq⟩ := openUri_of_not_accepted hpresent huri
      rw [heq]
      exact hasked.record rfl trivial rfl

/-- The backend is asked about a scheme once it has said again that it is available. -/
lemma isSchemeSupported (h : Safe d f) (scheme : String) :
    Safe d (f.isSchemeSupported d scheme).2 := by
  have hasked := h.hasCapability .openUri
  by_cases hscheme : Allowed scheme
  · cases hpresent : (f.hasCapability d .openUri).1 with
    | false =>
      rw [isSchemeSupported_of_absent hpresent]
      exact hasked
    | true =>
      obtain ⟨b, hb, hserves⟩ := h.serves hpresent
      let g := (f.hasCapability d .openUri).2.record (.isAvailable b
        (d.isAvailable (f.hasCapability d .openUri).2.history b))
      have hagain : Safe d g := hasked.record rfl ⟨hasked.cached.active.trans hb, rfl⟩ rfl
      -- the version the backend has told is the one at hand
      obtain ⟨version, hlast, hcached⟩ := hasked.cached.versions b hb .openUri
      have hasks (havailable : d.isAvailable (f.hasCapability d .openUri).2.history b = true)
          (hversion : schemeSupportedMinVersion ≤ version) :
          Safe d (g.record (.schemeSupported b (toLower scheme))) := by
        have hlowered : toLower (toLower scheme) = toLower scheme := by
          simp [toLower, toLower_comp_toLower]
        refine hagain.record rfl ⟨⟨?_, hserves.2⟩, ⟨version, hlast, hversion⟩,
          allowed_toLower hscheme, hlowered⟩ rfl
        exact ⟨_, by rw [← havailable]; rfl, hasked.cached.active.trans hb⟩
      rw [isSchemeSupported_of_allowed hpresent hb hscheme, getInterfaceVersion_of_some hb, hcached]
      simp only [Option.getD_some]
      split_ifs with havailable hversion hanswer hversion
      · exact hagain
      · exact hasks havailable (not_lt.mp hversion)
      · exact hasks havailable (not_lt.mp hversion)
      · exact hagain
      · exact absurd (by decide) hversion
      · exact absurd (by decide) hversion
  · obtain ⟨answer, -, heq⟩ := isSchemeSupported_of_not_allowed (d := d) (f := f) hscheme
    rw [heq]
    exact hasked

lemma step (h : Safe d f) (a : Action β) : Safe d (f.step d a) := by
  cases a with
  | ready => exact h.ready
  | exitTree => exact h.exitTree
  | setBackend backend =>
    cases backend with
    | none => exact h
    | some b => exact h.setBackend b
  | refreshCapabilities => exact h.refreshCapabilities
  | requestGameMode pid => exact h.requestGameMode pid
  | releaseGameMode pid => exact h.releaseGameMode pid
  | openUri uri ask parentWindow => exact h.openUri uri ask parentWindow
  | isSchemeSupported scheme => exact h.isSchemeSupported scheme
  | backendEmits b signal => exact h.backendEmits b signal

end Safe

end Facade

end XdgPortals
