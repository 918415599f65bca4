import XdgPortals.Addon.System
import XdgPortals.Client.Deferred
import XdgPortals.Facade.Lifetime

/-!
# What a game learns in the end

Through all layers, in every interleaving of the game with the worker: the signals a game gets are
those the client has handed over, in their order and none twice, and a request is completed at most
once, after the call that started it has returned its handle.
-/

namespace XdgPortals

open Facade

/-- The node's signals are connected as they have to be, whatever it has been asked for. -/
lemma Node.wired_perform {β : Type} [DecidableEq β] {d : Services β} {n : Node β}
    (h : Wired n.facade) (a : Node.Action β) : Wired (n.perform d a).2.facade := by
  by_cases hfacade : ∃ action, a = .facade action
  · obtain ⟨action, rfl⟩ := hfacade
    rw [Node.facade_perform]
    exact h.step action
  · rcases Node.quiet_perform n a (not_exists.mp hfacade) with heq | hquiet
    · rwa [heq]
    · exact h.ready.quiet hquiet

/-- A backend that has dropped its object never gets it back. -/
lemma Node.isShutDown_perform {env : Environment} {n : Node Backend} {b : Backend}
    (a : Node.Action Backend) (h : isShutDown b n.facade.history = true) :
    isShutDown b (n.perform env.services a).2.facade.history = true := by
  have hle : shutdowns b n.facade.history ≤
      shutdowns b (n.perform env.services a).2.facade.history := by
    by_cases hset : ∃ c, a = .facade (.setBackend (some c))
    · obtain ⟨c, rfl⟩ := hset
      rw [Node.facade_perform, Facade.step, shutdowns_setBackend]
      exact Nat.le_add_left ..
    by_cases hexit : a = .facade .exitTree
    · rw [hexit, Node.facade_perform, Facade.step]
      cases hb : n.facade.backend with
      | none => rw [exitTree, hb]
      | some c =>
        rw [shutdowns_leftBackend (leftBackend_exitTree hb)]
        exact Nat.le_add_left ..
    · exact ((Node.keeps_perform n a (not_exists.mp hset) hexit).shutdowns b).ge
  rw [← Bool.not_eq_false, isShutDown_eq_false_iff] at h ⊢
  omega

/-- The element after a final part of a list. -/
lemma cons_suffix {α : Type} {x : α} {xs ys : List α} (h : xs <:+ ys)
    (hx : ys.reverse[xs.length]? = some x) : x :: xs <:+ ys := by
  obtain ⟨rest, rfl⟩ := h
  rw [List.reverse_append, List.getElem?_append_right (by simp), List.length_reverse,
    Nat.sub_self, ← List.head?_eq_getElem?, List.head?_reverse] at hx
  obtain ⟨front, rfl⟩ := List.getLast?_eq_some_iff.mp hx
  exact ⟨front, by simp⟩

/-! ### What a game sees -/

def Seen.handle? : Seen → Option String
  | .returned handle => some handle
  | .emitted _       => none

def Seen.signal? : Seen → Option BackendSignal
  | .returned _     => none
  | .emitted signal => some signal

/-- The handle of a completion. -/
def BackendSignal.completion? : BackendSignal → Option String
  | .requestCompleted handle _ _ => some handle
  | _ => none

lemma completion_forwarded (emission : Emission) :
    emission.forwarded.completion? = emission.completion?.map Prod.fst := by
  rcases emission with (_ | _ | _) | _ <;> rfl

namespace Addon

/-- The handles that calls have returned. -/
def returned (seen : List Seen) : List String := seen.filterMap Seen.handle?

/-- The signals that a game has got from the backend. -/
def emitted (seen : List Seen) : List BackendSignal := seen.filterMap Seen.signal?

/-- The requests that a game has been told the end of. -/
def completed (seen : List Seen) : List String :=
  (emitted seen).filterMap BackendSignal.completion?

@[simp] lemma returned_replicate (count : ℕ) (signal : BackendSignal) (seen : List Seen) :
    returned (List.replicate count (.emitted signal) ++ seen) = returned seen := by
  simp [returned, Seen.handle?]

@[simp] lemma emitted_replicate (count : ℕ) (signal : BackendSignal) (seen : List Seen) :
    emitted (List.replicate count (.emitted signal) ++ seen) =
      List.replicate count signal ++ emitted seen := by
  simp [emitted, List.filterMap_replicate, Seen.signal?]

variable {env : Environment} {u : UniqueName} {b : Backend} {s s' : Addon} {a : Action}

/-! ### What a step can do -/

/-- The outcomes of a step. -/
inductive Rule (env : Environment) (u : UniqueName) (b : Backend) (s : Addon) :
    Action → Addon → Prop where
  | request (random : UInt32) (action : Node.Action Backend) (request : Client.Action)
      (hemits : emits action = false)
      (hasked : asked b random s.node (s.node.perform env.services action).2 action = some request)
      (client : Client) (hstep : (Client.machine u).step s.client request = some client)
      (hreturns : returns (handleOf u s.client.native request)
        (s.node.perform env.services action).1 = true) :
      Rule env u b s (.call random action)
        { s with
          node := (s.node.perform env.services action).2
          client := client
          seen := if handleOf u s.client.native request = "" then s.seen
            else .returned (handleOf u s.client.native request) :: s.seen }
  | shutDown (random : UInt32) (action : Node.Action Backend) (hemits : emits action = false)
      (hafter : isShutDown b (s.node.perform env.services action).2.facade.history = true)
      (client : Client) (hstep : (Client.machine u).step s.client .shutDown = some client) :
      Rule env u b s (.call random action)
        { s with node := (s.node.perform env.services action).2, client := client }
  | call (random : UInt32) (action : Node.Action Backend) (hemits : emits action = false)
      (hkept : isShutDown b (s.node.perform env.services action).2.facade.history = false ∨
        isShutDown b s.node.facade.history = true) :
      Rule env u b s (.call random action)
        { s with node := (s.node.perform env.services action).2 }
  | client (action : Client.Action) (hinternal : isInternal action = true) (client : Client)
      (hstep : (Client.machine u).step s.client action = some client) :
      Rule env u b s (.client action) { s with client := client }
  | drop (emission : Emission) (hnext : s.next = some emission)
      (hdown : isShutDown b s.node.facade.history = true) :
      Rule env u b s .flush { s with flushed := emission :: s.flushed }
  | flush (emission : Emission) (hnext : s.next = some emission)
      (halive : isShutDown b s.node.facade.history = false) :
      Rule env u b s .flush
        { s with
          node := { s.node with facade := s.node.facade.backendEmits b emission.forwarded }
          flushed := emission :: s.flushed
          seen := List.replicate (s.node.facade.connections.count (b, emission.forwarded.name))
            (.emitted emission.forwarded) ++ s.seen }

/-- Every step follows one of the rules. -/
theorem Rule.of_step (h : (machine env u b).step s a = some s') : Rule env u b s a s' := by
  change step env u b s a = some s' at h
  cases a with
  | call random action =>
    cases hemits : emits action with
    | true => simp [step, hemits] at h
    | false =>
      simp only [step, hemits, Bool.false_eq_true, if_false] at h
      cases hasked : asked b random s.node (s.node.perform env.services action).2 action with
      | some request =>
        simp only [hasked] at h
        cases hstep : Client.step u s.client request with
        | none => simp [hstep] at h
        | some client =>
          simp only [hstep] at h
          split at h
          · next hreturns =>
            cases h
            exact .request random action request hemits hasked client hstep hreturns
          · cases h
      | none =>
        simp only [hasked] at h
        split at h
        · next hdown =>
          rw [Bool.and_eq_true] at hdown
          cases hstep : Client.step u s.client .shutDown with
          | none => simp [hstep] at h
          | some client =>
            simp only [hstep] at h
            cases h
            exact .shutDown random action hemits hdown.1 client hstep
        · next hkept =>
          cases h
          refine .call random action hemits ?_
          rw [Bool.and_eq_true, not_and_or] at hkept
          simpa using hkept
  | client action =>
    simp only [step] at h
    split_ifs at h with hinternal
    cases hstep : Client.step u s.client action with
    | none => simp [hstep] at h
    | some client =>
      simp only [hstep] at h
      cases h
      exact .client action hinternal client hstep
  | flush =>
    simp only [step] at h
    cases hnext : s.next with
    | none => simp [hnext] at h
    | some emission =>
      simp only [hnext] at h
      split_ifs at h with hdown
      · cases h
        exact .drop emission hnext hdown
      · cases h
        exact .flush emission hnext (eq_false_of_ne_true hdown)

/-! ### Between the layers -/

/-- The node asks for nothing but to start a request. -/
lemma starts_of_asked {random : UInt32} {before after : Node Backend}
    {action : Node.Action Backend} {request : Client.Action}
    (h : asked b random before after action = some request) (n : XdgPortalNative) :
    ∃ context result, Client.Starts u n request context result ∧
      handleOf u n request = result.2.1 := by
  cases action with
  | facade action =>
    cases action with
    | openUri uri ask parentWindow =>
      simp only [asked] at h
      split at h
      · split_ifs at h
        cases h
        exact ⟨_, _, .openUri random uri ask parentWindow, rfl⟩
      · cases h
    | _ => cases h
  | inhibit flags reason parentWindow =>
    simp only [asked] at h
    split_ifs at h
    cases h
    exact ⟨_, _, .inhibit random flags.toInt32 reason parentWindow, rfl⟩
  | _ => cases h

/-- The step of a client that starts a request. -/
lemma step_starts {c c' : Client} {request : Client.Action} {context : String}
    {result : XdgPortalNative × String × List Signal × Option Message}
    (h : (Client.machine u).step c request = some c')
    (hstarts : Client.Starts u c.native request context result) :
    c.isAlive = true ∧ c' = c.begin context result := by
  cases hstarts with
  | inhibit random flags reason parentWindow =>
    simp only [Client.machine, Client.step] at h
    split_ifs at h with halive
    cases h
    exact ⟨halive, rfl⟩
  | openUri random uri ask parentWindow =>
    simp only [Client.machine, Client.step] at h
    split_ifs at h with halive
    cases h
    exact ⟨halive, rfl⟩

/-- The client is not shut down then. -/
lemma up_begin {c : Client} {request : Client.Action} {context : String}
    {result : XdgPortalNative × String × List Signal × Option Message} (halive : c.isAlive = true)
    (hstarts : Client.Starts u c.native request context result) :
    (c.begin context result).shuttingDown = false := by
  have hrule := Client.Rule.of_starts halive hstarts
  simp only [Client.isAlive, Bool.and_eq_true, Bool.not_eq_true'] at halive
  exact (hrule.shuttingDown (by cases hstarts <;> simp)).trans halive.2

/-- What a game sees, what Godot has emitted and what the client has done fit together. -/
structure Linked (u : UniqueName) (b : Backend) (s : Addon) : Prop where
  client : (Client.machine u).Reachable s.client
  wired : Wired s.node.facade
  flushed : s.flushed <:+ Client.deferred s.client.history
  emitted : (emitted s.seen).Sublist (s.flushed.map Emission.forwarded)
  returned : returned s.seen = s.client.begunHandles
  down : s.client.shuttingDown = true → isShutDown b s.node.facade.history = true

namespace Linked

lemma init : Linked u b {} where
  client := .init
  wired _ _ := rfl
  flushed := List.suffix_refl _
  emitted := List.Sublist.refl _
  returned := rfl
  down := nofun

lemma step (h : Linked u b s) (hrule : Rule env u b s a s') : Linked u b s' := by
  cases hrule with
  | request random action request hemits hasked client hstep hreturns =>
    obtain ⟨context, result, hstarts, hhandle⟩ := starts_of_asked hasked s.client.native
    obtain ⟨halive, rfl⟩ := step_starts hstep hstarts
    have hrule := Client.Rule.of_starts halive hstarts
    refine ⟨h.client.step hstep, Node.wired_perform h.wired action,
      h.flushed.trans (Client.deferred_suffix hrule), ?_, ?_, by simp [up_begin halive hstarts]⟩
    · split_ifs
      · exact h.emitted
      · exact h.emitted
    · rw [Client.begunHandles_begin hstarts, ← hhandle, ← h.returned]
      split_ifs <;> rfl
  | shutDown random action hemits hafter client hstep =>
    have hrule := Client.Rule.of_step hstep
    refine ⟨h.client.step hstep, Node.wired_perform h.wired action,
      h.flushed.trans (Client.deferred_suffix hrule), h.emitted, ?_, fun _ => hafter⟩
    cases hrule with
    | shutDown halive hclosing hreading => exact h.returned
    | refused _ _ _ _ hstarts | requested _ _ _ _ _ _ _ _ _ hstarts => cases hstarts
    | sync _ _ _ _ hsync => cases hsync
  | call random action hemits hkept =>
    exact ⟨h.client, Node.wired_perform h.wired action, h.flushed, h.emitted, h.returned,
      fun hdown => Node.isShutDown_perform action (h.down hdown)⟩
  | client action hinternal client hstep =>
    have hrule := Client.Rule.of_step hstep
    have hsame := hrule.shuttingDown (by rintro rfl; cases hinternal)
    refine ⟨h.client.step hstep, h.wired, h.flushed.trans (Client.deferred_suffix hrule),
      h.emitted, ?_, fun hdown => h.down (hsame ▸ hdown)⟩
    rcases hrule.grows (Client.completion_announcing h.client) with hgrows |
      ⟨context, result, hstarts, -⟩
    · exact h.returned.trans hgrows.begunHandles.symm
    · cases hstarts <;> cases hinternal
  | drop emission hnext hdown =>
    exact ⟨h.client, h.wired, cons_suffix h.flushed hnext, h.emitted.cons _, h.returned, h.down⟩
  | flush emission hnext halive =>
    refine ⟨h.client, h.wired.quiet (.backendEmits ..), cons_suffix h.flushed hnext, ?_, ?_, ?_⟩
    · rw [emitted_replicate, h.wired]
      split_ifs
      · exact h.emitted.cons_cons _
      · exact h.emitted.cons _
    · rw [returned_replicate, h.returned]
    · intro hdown
      rw [h.down hdown] at halive
      cases halive

end Linked

theorem linked_of_reachable (hs : (machine env u b).Reachable s) : Linked u b s := by
  induction hs with
  | init => exact .init
  | step hr ha ih => exact ih.step (.of_step ha)

/-- Godot emits the next signal while the node has the backend. -/
def FlushesActive (b : Backend) (s : Addon) : Action → Prop
  | .flush => s.node.facade.backend = some b ∧ isShutDown b s.node.facade.history = false
  | _ => True

instance decidableFlushesActive (s : Addon) : ∀ a, Decidable (FlushesActive b s a)
  | .flush    => inferInstanceAs (Decidable (_ ∧ _))
  | .call ..  => isTrue trivial
  | .client _ => isTrue trivial

/-- In every interleaving, a game gets the signals of the client in the order in which they were
handed over and none twice, and none is missing when the backend is active throughout. The handles
it gets are those of the requests that the client has begun. -/
theorem signals_in_order {as : List Action} (hrun : (machine env u b).exec {} as = some s) :
    s.flushed <:+ Client.deferred s.client.history ∧
    (emitted s.seen).Sublist (s.flushed.map Emission.forwarded) ∧
    returned s.seen = s.client.begunHandles ∧
    ((machine env u b).Along (FlushesActive b) {} as →
      emitted s.seen = s.flushed.map Emission.forwarded) := by
  have hlinked := linked_of_reachable (Machine.reachable_of_exec hrun)
  refine ⟨hlinked.flushed, hlinked.emitted, hlinked.returned, fun halong => ?_⟩
  suffices h : Linked u b s ∧ emitted s.seen = s.flushed.map Emission.forwarded from h.2
  refine Machine.exec_induction (P := fun s => Linked u b s ∧
    emitted s.seen = s.flushed.map Emission.forwarded) ?_ halong ⟨.init, rfl⟩ hrun
  rintro s a s' hactive ⟨h, hall⟩ ha
  have hrule := Rule.of_step ha
  refine ⟨h.step hrule, ?_⟩
  cases hrule with
  | request random action request hemits hasked client hstep hreturns =>
    split_ifs
    · exact hall
    · exact hall
  | drop emission hnext hdown =>
    rw [hactive.2] at hdown
    cases hdown
  | flush emission hnext halive =>
    rw [emitted_replicate, h.wired, if_pos hactive.1, hall]
    rfl
  | _ => exact hall

/-- A Linux desktop whose portal answers the first inhibition with the handle that is asked for. -/
def granting : Environment where
  toPlatform := Node.linux.toPlatform
  processId := Node.linux.processId
  getInterfaceVersions := Node.linux.getInterfaceVersions
  native := { mockBackends with
    answer exchanges history b
      | .inhibit _ _ _ => Tracker.firstHandle.val
      | call => mockBackends.answer exchanges history b call }
  macPowerSaver := Node.linux.macPowerSaver
  mock := Node.linux.mock

/-- The run in which an inhibition is granted, with the node and Godot taking part. -/
def grantedRun : List Action :=
  (Client.grantedRun.take 5).map .client ++ [.call 7 (.inhibit 8 "A reason" "")] ++
    (Client.grantedRun.drop 6).map .client ++ [.flush]

/-- The game gets the handle and the completion, and nothing else. -/
theorem signals_in_order_granted :
    ∃ s, (machine granting Tracker.client ⟨0, .native none⟩).exec {} grantedRun = some s ∧
      returned s.seen = [Tracker.firstHandle.val] ∧ s.flushed.length = 1 ∧
      emitted s.seen = s.flushed.map Emission.forwarded := by
  obtain ⟨s, hrun, hreturned, hflushed⟩ :=
    (machine granting Tracker.client ⟨0, .native none⟩).exists_exec_of_any {} grantedRun
      (P := fun s => returned s.seen = [Tracker.firstHandle.val] ∧ s.flushed.length = 1)
      (by decide +kernel)
  have hactive : (machine granting Tracker.client ⟨0, .native none⟩).Along
      (FlushesActive ⟨0, .native none⟩) {} grantedRun := by decide +kernel
  exact ⟨s, hrun, hreturned, hflushed, (signals_in_order hrun).2.2.2 hactive⟩

/-! ### How requests end -/

/-- A handle is returned once. A completion comes after its handle, and it is the only one. -/
def Answered : Seen → List Seen → Prop
  | .returned handle, earlier => handle ∉ returned earlier
  | .emitted signal, earlier => ∀ handle, signal.completion? = some handle →
    handle ∈ returned earlier ∧ handle ∉ completed earlier

/-- No call fails while its request is kept as answered, other than by being cancelled. -/
def SparesAnswered (s : Addon) : Action → Prop
  | .client action => Client.SparesAnswered s.client action
  | _ => True

/-- The client takes part in every run with a run of its own. -/
def Takes (u : UniqueName) (c : Client) : Prop :=
  ∃ as, (Client.machine u).exec {} as = some c ∧
    (Client.machine u).Along Client.SparesAnswered {} as

lemma Takes.step {c c' : Client} {action : Client.Action} (h : Takes u c)
    (hspare : Client.SparesAnswered c action)
    (ha : (Client.machine u).step c action = some c') : Takes u c' := by
  obtain ⟨as, hrun, halong⟩ := h
  refine ⟨as ++ [action], ?_, Machine.along_append halong fun t ht => ?_⟩
  · exact (Machine.exec_append_eq_some _).mpr ⟨c, hrun, Machine.exec_singleton ha⟩
  · cases hrun.symm.trans ht
    exact ⟨hspare, fun _ _ => trivial⟩

lemma Rule.takes (hrule : Rule env u b s a s') (hspare : SparesAnswered s a)
    (h : Takes u s.client) : Takes u s'.client := by
  cases hrule with
  | request random action request hemits hasked client hstep hreturns =>
    obtain ⟨context, result, hstarts, -⟩ := starts_of_asked (u := u) hasked s.client.native
    exact h.step (by cases hstarts <;> trivial) hstep
  | shutDown random action hemits hafter client hstep =>
    have hspares : Client.SparesAnswered s.client .shutDown := trivial
    exact h.step hspares hstep
  | client action hinternal client hstep => exact h.step hspare hstep
  | _ => exact h

/-- What has been seen stays seen. -/
lemma Rule.seen (hrule : Rule env u b s a s') : s.seen <:+ s'.seen := by
  cases hrule with
  | request random action request hemits hasked client hstep hreturns =>
    split_ifs
    · exact List.suffix_refl _
    · exact List.suffix_cons ..
  | flush emission hnext halive => exact List.suffix_append ..
  | _ => exact List.suffix_refl _

/-- The requests that a game is told the end of are among those Godot has emitted the end of. -/
lemma Linked.completed (h : Linked u b s) :
    (completed s.seen).Sublist ((s.flushed.filterMap Emission.completion?).map Prod.fst) := by
  have hsub := h.emitted.filterMap BackendSignal.completion?
  rw [List.filterMap_map] at hsub
  rw [Addon.completed, List.map_filterMap]
  simpa only [Function.comp_def, completion_forwarded] using hsub

/-- The next signal is not the end of a request that has ended, or that was never started. -/
lemma Linked.answered_next (h : Linked u b s) (htakes : Takes u s.client)
    (hfew : s.client.begunHandles.length < 2 ^ 32) {emission : Emission}
    (hnext : s.next = some emission) (halive : isShutDown b s.node.facade.history = false) :
    Answered (.emitted emission.forwarded) s.seen := by
  obtain ⟨as, hrun, hspare⟩ := htakes
  have hup : s.client.shuttingDown = false := by
    by_contra hdown
    rw [h.down (eq_true_of_ne_false hdown)] at halive
    cases halive
  have hstage := (Client.ends_of_reachable h.client).not_cleared hup
  rintro handle hcompletes
  rw [completion_forwarded, Option.map_eq_some_iff] at hcompletes
  obtain ⟨completion, hcompletion, rfl⟩ := hcompletes
  -- the completions Godot has emitted, with the next one, are among those it was handed
  have hsuffix := ((cons_suffix h.flushed hnext).filterMap Emission.completion?).map Prod.fst
  rw [Client.completions_deferred h.client, List.filterMap_cons_some hcompletion,
    List.map_cons] at hsuffix
  constructor
  · rw [h.returned]
    exact Client.begun_of_told h.client hstage _ (hsuffix.mem (List.mem_cons_self ..))
  · intro hmem
    have hnodup := (Client.nodup_told hrun hstage hfew hspare).sublist hsuffix.sublist
    exact (List.nodup_cons.mp hnodup).1 (h.completed.subset hmem)

/-- A call returns a handle that no call has returned before. -/
lemma Linked.answered_returned (h : Linked u b s') (htakes : Takes u s'.client)
    (hfew : s'.client.begunHandles.length < 2 ^ 32) (hup : s'.client.shuttingDown = false)
    {handle : String} {seen : List Seen} (hseen : s'.seen = .returned handle :: seen) :
    Answered (.returned handle) seen := by
  obtain ⟨as, hrun, -⟩ := htakes
  have hstage := (Client.ends_of_reachable h.client).not_cleared hup
  have hnodup := Client.begun_nodup hrun hstage hfew
  rw [← Client.begunHandles, ← h.returned, hseen] at hnodup
  exact (List.nodup_cons.mp hnodup).1

/-- In every interleaving of the game with the worker, every call that reaches the backend and
starts a request returns a new handle, and the game is told the end of a request at most once, after
it got the handle. It is so along every run with fewer than 2³² requests in which no call fails
while its request is kept as answered. -/
theorem completed_once {as : List Action} (hrun : (machine env u b).exec {} as = some s)
    (hfew : (returned s.seen).length < 2 ^ 32)
    (hspare : (machine env u b).Along SparesAnswered {} as) : Justified Answered s.seen := by
  suffices h : Linked u b s ∧ Takes u s.client ∧ Justified Answered s.seen from h.2.2
  refine Machine.exec_induction_back (H := fun s => (returned s.seen).length < 2 ^ 32)
    (P := fun s => Linked u b s ∧ Takes u s.client ∧ Justified Answered s.seen) ?_ ?_ hspare
    ⟨.init, ⟨[], rfl, trivial⟩, trivial⟩ hrun hfew
  · intro s a s' ha hfew
    exact Nat.lt_of_le_of_lt ((Rule.of_step ha).seen.filterMap _).length_le hfew
  rintro s a s' hspares hfew ⟨h, htakes, hseen⟩ ha
  have hrule := Rule.of_step ha
  have h' := h.step hrule
  have htakes' := hrule.takes hspares htakes
  have hbefore := Nat.lt_of_le_of_lt (hrule.seen.filterMap Seen.handle?).length_le hfew
  refine ⟨h', htakes', ?_⟩
  cases hrule with
  | request random action request hemits hasked client hstep hreturns =>
    split_ifs with hempty
    · exact hseen
    · obtain ⟨context, result, hstarts, hhandle⟩ := starts_of_asked hasked s.client.native
      obtain ⟨halive, rfl⟩ := step_starts hstep hstarts
      refine ⟨h'.answered_returned htakes' (h'.returned ▸ hfew) (up_begin halive hstarts) ?_, hseen⟩
      exact if_neg hempty
  | flush emission hnext halive =>
    rw [h.wired]
    split_ifs
    · exact ⟨h.answered_next htakes (h.returned ▸ hbefore) hnext halive, hseen⟩
    · exact hseen
  | _ => exact hseen

/-- The game is told once that the inhibition is granted. -/
theorem completed_once_granted :
    ∃ s, (machine granting Tracker.client ⟨0, .native none⟩).exec {} grantedRun = some s ∧
      completed s.seen = [Tracker.firstHandle.val] ∧ Justified Answered s.seen := by
  obtain ⟨s, hrun, hfew, hcompleted⟩ :=
    (machine granting Tracker.client ⟨0, .native none⟩).exists_exec_of_any {} grantedRun
      (P := fun s => (returned s.seen).length < 2 ^ 32 ∧
        completed s.seen = [Tracker.firstHandle.val]) (by decide +kernel)
  refine ⟨s, hrun, hcompleted, completed_once hrun hfew (Machine.along_of_forall _ ?_)⟩
  simp [grantedRun, Client.grantedRun, SparesAnswered, Client.SparesAnswered]

end Addon

end XdgPortals
