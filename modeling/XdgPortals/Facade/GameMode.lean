import XdgPortals.Facade.Frame
import XdgPortals.Library.History

/-!
# GameMode registrations

The pids the node holds are those the active backend has registered and that have been neither
released nor handed back since. A backend that is left gets all of them back before it is shut
down, so that none is held when another one becomes active.
-/

namespace XdgPortals

namespace Facade

variable {β : Type} {f f' : Facade β} {b c : β} {pid : ℤ} {d : Desktop β} {e : Event β}
  {es history sent : List (Event β)}

/-- The events that concern no registration. -/
def Event.isNeutral : Event β → Bool
  | .registered _ _ _ | .unregistered _ _ _ | .handedBack _ => false
  | _ => true

lemma Event.isNeutral_of_isQuiet (h : e.isQuiet = true) : e.isNeutral = true := by
  cases e <;> first | rfl | cases h

variable [DecidableEq β]

/-- The backend registers the pid with code 0. -/
def Event.registers (b : β) (pid : ℤ) : Event β → Bool
  | .registered c other code => c = b && other == pid && code == 0
  | _ => false

/-- The backend unregisters the pid with code 0, or everything it registered is handed back. -/
def Event.releases (b : β) (pid : ℤ) : Event β → Bool
  | .unregistered c other code => c = b && other == pid && code == 0
  | .handedBack c => c = b
  | _ => false

/-- The backend has registered the pid, which has not been released or handed back since. -/
def HeldBy (b : β) (pid : ℤ) : List (Event β) → Prop :=
  Since (fun e => e.releases b pid = false) (fun e => e.registers b pid = true)

lemma heldBy_cons :
    HeldBy b pid (e :: history) ↔
      e.registers b pid = true ∨ (e.releases b pid = false ∧ HeldBy b pid history) :=
  Iff.rfl

lemma heldBy_cons_of_isNeutral (h : e.isNeutral = true) :
    HeldBy b pid (e :: history) ↔ HeldBy b pid history := by
  rw [heldBy_cons]
  cases e with
  | registered | unregistered | handedBack => cases h
  | _ => simp [Event.registers, Event.releases]

lemma heldBy_append_of_isNeutral (h : ∀ e ∈ es, e.isNeutral = true) :
    HeldBy b pid (es ++ history) ↔ HeldBy b pid history := by
  induction es with
  | nil => rfl
  | cons e es ih =>
    rw [List.forall_mem_cons] at h
    exact (heldBy_cons_of_isNeutral h.1).trans (ih h.2)

lemma heldBy_registered {other code : ℤ} :
    HeldBy b pid (.registered c other code :: history) ↔
      (c = b ∧ other = pid ∧ code = 0) ∨ HeldBy b pid history := by
  simp [heldBy_cons, Event.registers, Event.releases, and_assoc]

lemma heldBy_unregistered {other code : ℤ} :
    HeldBy b pid (.unregistered c other code :: history) ↔
      ¬ (c = b ∧ other = pid ∧ code = 0) ∧ HeldBy b pid history := by
  simp [heldBy_cons, Event.registers, Event.releases]

/-- No registration is held when a backend becomes active. -/
def Event.TakesOver (e : Event β) (earlier : List (Event β)) : Prop :=
  ∀ b, e = .activated b → ∀ c pid, ¬ HeldBy c pid earlier

/-- The pids held are accounted for by the history. -/
structure Accounted (f : Facade β) : Prop where
  held : ∀ b pid, HeldBy b pid f.history ↔ f.backend = some b ∧ pid ∈ f.gameModePids
  nodup : f.gameModePids.Nodup
  idle : f.backend = none → f.gameModePids = []
  takesOver : Justified Event.TakesOver f.history

namespace Accounted

lemma init : Accounted ({} : Facade β) where
  held b pid := by simp [HeldBy]
  nodup := List.nodup_nil
  idle _ := rfl
  takesOver := trivial

lemma quiet (h : Accounted f) (hquiet : Quiet f f') : Accounted f' := by
  obtain ⟨es, hes, hhistory⟩ := hquiet.history
  refine ⟨fun b pid => ?_, ?_, ?_, ?_⟩
  · rw [hhistory, heldBy_append_of_isNeutral fun e he => e.isNeutral_of_isQuiet (hes e he),
      hquiet.backend, hquiet.gameModePids]
    exact h.held b pid
  · rw [hquiet.gameModePids]
    exact h.nodup
  · rw [hquiet.backend, hquiet.gameModePids]
    exact h.idle
  · rw [hhistory]
    apply Justified.append _ h.takesOver
    rintro later e earlier rfl b rfl
    have hactivated := hes (.activated b) (by simp)
    cases hactivated

/-- Nothing is held by anyone. -/
lemma of_none_held (hnone : ∀ b pid, ¬ HeldBy b pid f.history) (hpids : f.gameModePids = [])
    (htakesOver : Justified Event.TakesOver f.history) : Accounted f where
  held b pid := by simp [hnone b pid, hpids]
  nodup := by simp [hpids]
  idle _ := hpids
  takesOver := htakesOver

end Accounted

/-! ### Handing everything back -/

section HandedBack

variable {pids : List ℤ}
  (hsent : List.Forall₂ (fun pid e => ∃ code, e = Event.unregistered b pid code) pids sent)

include hsent in
/-- Once the active backend has got everything back, nothing is held by anyone. -/
lemma not_heldBy_handedBack (h : Accounted f) (hb : f.backend = some b) (c : β) (pid : ℤ) :
    ¬ HeldBy c pid (.handedBack b :: (sent.reverse ++ f.history)) := by
  intro hheld
  rcases heldBy_cons.mp hheld with hregisters | ⟨hreleases, hheld⟩
  · cases hregisters
  · have hnot : ∀ e ∈ sent.reverse, ¬ e.registers c pid = true := by
      intro e he
      obtain ⟨pid', code, rfl⟩ := exists_of_mem_sent hsent (List.mem_reverse.mp he)
      simp [Event.registers]
    obtain ⟨-, hearlier⟩ := Since.of_append hnot hheld
    -- it was held by the active backend, which is the one that gets everything back
    obtain ⟨hactive, -⟩ := (h.held c pid).mp hearlier
    obtain rfl : b = c := Option.some.inj (hb.symm.trans hactive)
    simp [Event.releases] at hreleases

include hsent in
lemma takesOver_handedBack (h : Accounted f) :
    Justified Event.TakesOver (.handedBack b :: (sent.reverse ++ f.history)) := by
  refine ⟨fun _ heq => (by cases heq), ?_⟩
  apply Justified.append _ h.takesOver
  intro later e earlier heq c hactivated
  have he : e ∈ sent.reverse := by simp [heq]
  obtain ⟨pid, code, rfl⟩ := exists_of_mem_sent hsent (List.mem_reverse.mp he)
  cases hactivated

end HandedBack

namespace Accounted

/-- A backend that is left has got everything back. -/
lemma releaseHeldGameMode (h : Accounted f) (hb : f.backend = some b) :
    (∀ c pid, ¬ HeldBy c pid (f.releaseHeldGameMode d b).history) ∧
      (f.releaseHeldGameMode d b).gameModePids = [] ∧
      Justified Event.TakesOver (f.releaseHeldGameMode d b).history := by
  obtain ⟨sent, hsent, heq⟩ := releaseHeldGameMode_eq f b
  rw [heq]
  exact ⟨not_heldBy_handedBack hsent h hb, rfl, takesOver_handedBack hsent h⟩

/-- Shutting a backend down concerns no registration. -/
lemma shutdown (hnone : ∀ c pid, ¬ HeldBy c pid f.history) (hpids : f.gameModePids = [])
    (htakesOver : Justified Event.TakesOver f.history) (b : β) :
    Accounted (f.record (.shutdown b)) := by
  refine of_none_held (fun c pid => ?_) hpids ⟨fun _ heq => (by cases heq), htakesOver⟩
  exact (heldBy_cons_of_isNeutral rfl).not.mpr (hnone c pid)

lemma retire (h : Accounted f) (hb : f.backend = some b) : Accounted (f.retire d b) := by
  obtain ⟨hnone, hpids, htakesOver⟩ := h.releaseHeldGameMode (d := d) hb
  exact shutdown (f := (f.releaseHeldGameMode d b).disconnectBackend b) hnone hpids htakesOver b

lemma exitTree (h : Accounted f) : Accounted (f.exitTree d) := by
  cases hb : f.backend with
  | none =>
    rw [Facade.exitTree, hb]
    exact h
  | some b =>
    obtain ⟨hnone, hpids, htakesOver⟩ := h.releaseHeldGameMode (d := d) hb
    rw [exitTree_eq hb]
    exact shutdown hnone hpids htakesOver b

/-- A backend becomes active while none is held. -/
lemma activate (h : Accounted f) (hpids : f.gameModePids = []) (b : β) :
    Accounted (f.activate b) := by
  have hnone : ∀ c pid, ¬ HeldBy c pid f.history := by
    intro c pid hheld
    obtain ⟨-, hmem⟩ := (h.held c pid).mp hheld
    simp [hpids] at hmem
  refine of_none_held (fun c pid => ?_) hpids ⟨fun _ _ => hnone, h.takesOver⟩
  exact (heldBy_cons_of_isNeutral rfl).not.mpr (hnone c pid)

lemma connectBackend (h : Accounted f) (b : β) : Accounted (f.connectBackend b) := by
  refine ⟨fun c pid => ?_, ?_, ?_, ?_⟩
  · simpa using h.held c pid
  · simpa using h.nodup
  · simpa using h.idle
  · simpa using h.takesOver

lemma setBackend (h : Accounted f) (b : β) : Accounted (f.setBackend d (some b)) := by
  cases hb : f.backend with
  | none =>
    rw [setBackend_of_none hb]
    exact ((h.activate (h.idle hb) b).connectBackend b).quiet (Quiet.refreshFrom _ b)
  | some old =>
    obtain ⟨-, hpids, -⟩ := h.releaseHeldGameMode (d := d) hb
    rw [setBackend_of_some hb]
    exact (((h.retire hb).activate hpids b).connectBackend b).quiet (Quiet.refreshFrom _ b)

lemma ready (h : Accounted f) : Accounted (f.ready d) := by
  cases hb : f.backend with
  | none =>
    rw [Facade.ready, ensureBackend_of_none hb]
    exact h.setBackend _
  | some b => rwa [ready_of_some hb]

/-- The active backend is asked to register a pid. -/
lemma registered (h : Accounted f) (hb : f.backend = some b) (pid code : ℤ) :
    Accounted (if code ≠ 0 then f.record (.registered b pid code)
      else (f.record (.registered b pid code)).holdPid pid) := by
  have htakesOver : Justified Event.TakesOver (.registered b pid code :: f.history) :=
    ⟨fun _ heq => (by cases heq), h.takesOver⟩
  split_ifs with hcode
  · refine ⟨fun c other => ?_, h.nodup, h.idle, htakesOver⟩
    apply heldBy_registered.trans
    simpa [hcode] using h.held c other
  · obtain rfl : code = 0 := not_not.mp hcode
    refine ⟨fun c other => ?_, nodup_holdPid _ _ h.nodup, fun hnone => ?_, by simpa using
      htakesOver⟩
    · simp only [history_holdPid, history_record, backend_holdPid, backend_record, mem_holdPid,
        gameModePids_record, heldBy_registered, h.held, hb]
      constructor
      · rintro (⟨rfl, rfl, -⟩ | ⟨hc, hmem⟩)
        · exact ⟨rfl, .inl rfl⟩
        · exact ⟨hc, .inr hmem⟩
      · rintro ⟨hc, rfl | hmem⟩
        · exact .inl ⟨Option.some.inj hc, rfl, trivial⟩
        · exact .inr ⟨hc, hmem⟩
    · simp [hb] at hnone

/-- The active backend is asked to unregister a pid. -/
lemma unregistered (h : Accounted f) (hb : f.backend = some b) (pid code : ℤ) :
    Accounted (if code ≠ 0 then f.record (.unregistered b pid code)
      else (f.record (.unregistered b pid code)).erasePid pid) := by
  have htakesOver : Justified Event.TakesOver (.unregistered b pid code :: f.history) :=
    ⟨fun _ heq => (by cases heq), h.takesOver⟩
  split_ifs with hcode
  · refine ⟨fun c other => ?_, h.nodup, h.idle, htakesOver⟩
    apply heldBy_unregistered.trans
    simpa [hcode] using h.held c other
  · obtain rfl : code = 0 := not_not.mp hcode
    refine ⟨fun c other => ?_, h.nodup.erase pid, fun hnone => ?_, htakesOver⟩
    · show HeldBy c other (.unregistered b pid 0 :: f.history) ↔
        f.backend = some c ∧ other ∈ f.gameModePids.erase pid
      rw [heldBy_unregistered, h.held, h.nodup.mem_erase_iff, hb]
      constructor
      · rintro ⟨hnot, hc, hmem⟩
        refine ⟨hc, ?_, hmem⟩
        rintro rfl
        exact hnot ⟨Option.some.inj hc, rfl, rfl⟩
      · rintro ⟨hc, hne, hmem⟩
        refine ⟨?_, hc, hmem⟩
        rintro ⟨-, rfl, -⟩
        exact hne rfl
    · have hnone' : f.backend = none := hnone
      rw [hb] at hnone'
      cases hnone'

lemma requestGameMode (h : Accounted f) (pid : ℤ) : Accounted (f.requestGameMode d pid).2 := by
  have hready := h.ready.quiet (quiet_hasCapability (d := d) .gameMode)
  rcases requestGameMode_cases (d := d) f pid with heq | ⟨b, code, hbackend, heq⟩
  · rw [heq]
    exact hready
  · rw [heq]
    exact hready.registered hbackend _ _

lemma releaseGameMode (h : Accounted f) (pid : ℤ) : Accounted (f.releaseGameMode d pid).2 := by
  have hready := h.ready.quiet (quiet_hasCapability (d := d) .gameMode)
  rcases releaseGameMode_cases (d := d) f pid with heq | ⟨b, code, hbackend, heq⟩
  · rw [heq]
    exact hready
  · rw [heq]
    exact hready.unregistered hbackend _ _

lemma step (h : Accounted f) (a : Action β) : Accounted (f.step d a) := by
  cases a with
  | ready => exact h.ready
  | exitTree => exact h.exitTree
  | setBackend backend =>
    cases backend with
    | none => exact h
    | some b => exact h.setBackend b
  | refreshCapabilities => exact h.ready.quiet (Quiet.refreshFrom _ _)
  | requestGameMode pid => exact h.requestGameMode pid
  | releaseGameMode pid => exact h.releaseGameMode pid
  | openUri uri ask parentWindow => exact h.ready.quiet (quiet_openUri uri ask parentWindow)
  | isSchemeSupported scheme => exact h.ready.quiet (quiet_isSchemeSupported scheme)
  | backendEmits b signal => exact h.quiet (Quiet.backendEmits f b signal)

end Accounted

theorem accounted_of_reachable (hf : (machine d).Reachable f) : Accounted f := by
  apply reachable_induction .init _ hf
  intro f a h
  exact h.step a

/-! ### Leaving a backend -/

/-- What a call does that leaves the backend: it hands back every pid held, all of which the
backend has registered, and keeps none. -/
structure HandsBack (f : Facade β) (b : β) (f' : Facade β) : Prop where
  leftBackend : LeftBackend f b f'.history
  nodup : f.gameModePids.Nodup
  registered : ∀ pid ∈ f.gameModePids, HeldBy b pid f.history
  gameModePids : f'.gameModePids = []

lemma handsBack_exitTree (h : Accounted f) (hb : f.backend = some b) :
    HandsBack f b (f.exitTree d) := by
  refine ⟨leftBackend_exitTree hb, h.nodup, fun pid hmem => (h.held b pid).mpr ⟨hb, hmem⟩, ?_⟩
  obtain ⟨-, hpids, -⟩ := h.releaseHeldGameMode (d := d) hb
  rw [exitTree_eq hb]
  exact hpids

lemma handsBack_setBackend (h : Accounted f) (hb : f.backend = some b) (b' : β) :
    HandsBack f b (f.setBackend d (some b')) := by
  refine ⟨leftBackend_setBackend hb b', h.nodup, fun pid hmem => (h.held b pid).mpr ⟨hb, hmem⟩,
    ?_⟩
  obtain ⟨-, hpids, -⟩ := h.releaseHeldGameMode (d := d) hb
  rw [setBackend_of_some hb, (Quiet.refreshFrom _ b').gameModePids, gameModePids_connectBackend]
  exact hpids

/-- No registration leaks: the pids held are those the active backend has registered and that have
not been released or handed back since, a backend that is left gets exactly these before it is
shut down, and none is held when a backend becomes active. -/
theorem game_mode_never_leaks (hf : (machine d).Reachable f) :
    (∀ pid, pid ∈ f.gameModePids ↔ ∃ b, f.backend = some b ∧ HeldBy b pid f.history) ∧
    (∀ b, f.backend = some b → HandsBack f b (f.step d .exitTree) ∧
      ∀ b', HandsBack f b (f.step d (.setBackend (some b')))) ∧
    (∀ b later earlier, f.history = later ++ .activated b :: earlier →
      ∀ c pid, ¬ HeldBy c pid earlier) ∧
    f.step d (.setBackend none) = f := by
  have haccounted := accounted_of_reachable hf
  refine ⟨fun pid => ?_, fun b hb => ?_, ?_, rfl⟩
  · constructor
    · intro hmem
      cases hb : f.backend with
      | none => simp [haccounted.idle hb] at hmem
      | some b => exact ⟨b, rfl, (haccounted.held b pid).mpr ⟨hb, hmem⟩⟩
    · rintro ⟨b, -, hheld⟩
      exact ((haccounted.held b pid).mp hheld).2
  · exact ⟨handsBack_exitTree haccounted hb, handsBack_setBackend haccounted hb⟩
  · intro b later earlier heq
    exact (Justified.iff_forall _).mp haccounted.takesOver later _ earlier heq b rfl

/-- Two pids are held when the backend is replaced. -/
theorem game_mode_never_leaks_swap : ∃ f,
    (machine mockDesktop).exec {} [.setBackend (some 1), .requestGameMode 0, .requestGameMode 7,
      .refreshCapabilities, .requestGameMode 0] = some f ∧
    f.gameModePids = [4242, 7] ∧ HandsBack f 1 (f.setBackend mockDesktop (some 2)) := by
  obtain ⟨f, hf, hpids, hbackend⟩ := (machine mockDesktop).exists_exec_of_any {}
    [.setBackend (some 1), .requestGameMode 0, .requestGameMode 7, .refreshCapabilities,
      .requestGameMode 0]
    (P := fun f => f.gameModePids = [4242, 7] ∧ f.backend = some 1) (by decide)
  have hleaks := game_mode_never_leaks (Machine.reachable_of_exec hf)
  exact ⟨f, hf, hpids, (hleaks.2.1 1 hbackend).2 2⟩

end Facade

end XdgPortals
