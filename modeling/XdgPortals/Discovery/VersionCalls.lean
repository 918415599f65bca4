import XdgPortals.Discovery.Reads
import XdgPortals.Native.VersionReads

/-!
# A call as a run

A call of `read_interface_versions` that nothing disturbs is a run of the step system: it looks
the cache up, its replies arrive, it takes them and commits. The run ends in what the function
computes.
-/

namespace XdgPortals

namespace Discovery

variable {s : Discovery} {call : ℕ} {r : Read}

/-- The replies to a call's reads, each with its index and the instance that gave it. -/
abbrev Arrival := ℕ × PropertyReply × ℕ

def Arrival.action (call : ℕ) (a : Arrival) : Action := .reply (.versions call) a.1 a.2.1 a.2.2

/-- The index in the batch and the reply. -/
def Arrival.read (a : Arrival) : ℕ × PropertyReply := (a.1, a.2.1)

/-- The steps of a call: all its steps but the first are for what is missing. -/
def callActions (n : XdgPortalNative) (call : ℕ) (pInterfaces : List String)
    (arrived : List Arrival) : List Action :=
  .readVersions call pInterfaces ::
    if (n.lookupVersions pInterfaces).2 = [] then []
    else arrived.map (Arrival.action call) ++ [.take (.versions call), .commit call]

/-- A waiting reader's batch collects the replies. -/
lemma exec_arrived {arrived : List Arrival} (hread : s.reads (.versions call) = some r)
    (hphase : r.phase = .waiting) (hnodup : (arrived.map Prod.fst).Nodup)
    (houtstanding : ∀ a ∈ arrived, a.1 ∈ r.outstanding ∧ a.1 < r.properties.length) :
    ∃ t outstanding, machine.exec s (arrived.map (Arrival.action call)) = some t ∧
      t.native = s.native ∧
      t.reads (.versions call) = some { r with
        batch := (arrived.map Arrival.read).foldl
          (fun batch read => batch.onPropertyRead read.1 read.2) r.batch
        outstanding := outstanding } := by
  induction arrived generalizing s r with
  | nil => exact ⟨s, r.outstanding, rfl, rfl, hread⟩
  | cons a arrived ih =>
    obtain ⟨hmem, hlt⟩ := houtstanding a List.mem_cons_self
    obtain ⟨hfirst, hnodup⟩ := List.nodup_cons.mp hnodup
    have hstep : machine.step s (a.action call) = some
        { s.setRead (.versions call) (r.onPropertyRead a.1 a.2.1) with
          history := .answered (.versions call) r.properties[a.1] a.2.1 a.2.2 :: s.history } := by
      simp [machine, step, Arrival.action, hread, hmem, hlt, hphase, Phase.isWaiting, setRead]
    obtain ⟨t, outstanding, hexec, hnative, hreads⟩ := ih
      (s := { s.setRead (.versions call) (r.onPropertyRead a.1 a.2.1) with
        history := .answered (.versions call) r.properties[a.1] a.2.1 a.2.2 :: s.history })
      (Function.update_self ..) hphase hnodup fun later hlater => by
        obtain ⟨hmem', hlt'⟩ := houtstanding later (List.mem_cons_of_mem _ hlater)
        refine ⟨List.mem_filter.mpr ⟨hmem', ?_⟩, hlt'⟩
        have hne : later.1 ≠ a.1 := fun heq => hfirst (heq ▸ List.mem_map_of_mem hlater)
        simpa using hne
    exact ⟨t, outstanding, machine.exec_cons_eq_some.mpr ⟨_, hstep, hexec⟩, hnative, hreads⟩

/-- The values are taken and committed. -/
lemma exec_take_commit (hread : s.reads (.versions call) = some r) (hphase : r.phase = .waiting) :
    ∃ t, machine.exec s [.take (.versions call), .commit call] = some t ∧
      t.native = s.native.commitVersions r.generation (r.missing.map Prod.fst) r.batch.values
        r.batch.definitive ∧
      t.history = .versionsRead call
        (XdgPortalNative.fillVersions r.versions r.missing r.batch.values) :: s.history := by
  simp [Machine.exec_cons, machine, step, hread, hphase, Phase.isWaiting, setRead, Read.take]

/-- The batch a call starts for what is missing. -/
def startedRead (s : Discovery) (pInterfaces : List String) : Read where
  properties := (s.native.lookupVersions pInterfaces).2.map fun interface =>
    versionProperty interface.1
  generation := s.native.portalGeneration
  departures := departures s.history
  versions := (s.native.lookupVersions pInterfaces).1
  missing := (s.native.lookupVersions pInterfaces).2

/-- A call that nothing disturbs ends in what `read_interface_versions` computes. -/
theorem exec_callActions {pInterfaces : List String} {arrived : List Arrival}
    (hnew : s.reads (.versions call) = none) (hnodup : (arrived.map Prod.fst).Nodup)
    (hindex : ∀ a ∈ arrived, a.1 < (s.native.lookupVersions pInterfaces).2.length) :
    ∃ t history, machine.exec s (callActions s.native call pInterfaces arrived) = some t ∧
      t.native = (s.native.readInterfaceVersions true pInterfaces
        (arrived.map Arrival.read)).1 ∧
      t.history = .versionsRead call (s.native.readInterfaceVersions true pInterfaces
        (arrived.map Arrival.read)).2.1 :: history := by
  by_cases hmissing : (s.native.lookupVersions pInterfaces).2 = []
  · simp [callActions, Machine.exec_cons, machine, step, hnew, hmissing,
      XdgPortalNative.readInterfaceVersions]
  · have hstart : machine.step s (.readVersions call pInterfaces) =
        some (s.setRead (.versions call) (s.startedRead pInterfaces)) := by
      simp [machine, step, hnew, hmissing, startedRead]
    have houtstanding : ∀ a ∈ arrived, a.1 ∈ (s.startedRead pInterfaces).outstanding ∧
        a.1 < (s.startedRead pInterfaces).properties.length := by
      intro a ha
      simpa [startedRead] using hindex a ha
    obtain ⟨t, outstanding, hexec, hnative, hread⟩ := exec_arrived
      (reads_setRead_self s (.versions call) _) rfl hnodup houtstanding
    obtain ⟨t', hexec', hnative', hhistory'⟩ := exec_take_commit hread rfl
    refine ⟨t', t.history, ?_, ?_, ?_⟩
    · rw [callActions, if_neg hmissing]
      exact machine.exec_cons_eq_some.mpr
        ⟨_, hstart, machine.exec_append_eq_some.mpr ⟨t, hexec, hexec'⟩⟩
    · rw [hnative', hnative]
      simp [XdgPortalNative.readInterfaceVersions, hmissing, readProperties, startedRead]
      rfl
    · rw [hhistory']
      simp [XdgPortalNative.readInterfaceVersions, hmissing, readProperties, startedRead]

end Discovery

end XdgPortals
