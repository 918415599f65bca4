import XdgPortals.Client.Emission
import XdgPortals.Client.Views
import XdgPortals.Library.History

/-!
# The power-saver state comes back

The state is unknown until a portal has reported it, and again once the portal is gone. While a
portal may be there, the constructor has yet to ask for the state, a re-read is posted, or one has
been sent to the current instance. It is not sent again if it fails.
-/

namespace XdgPortals

namespace XdgPortalNative

/-- The state is unknown, and nothing says that no portal is there. -/
def Unsettled (n : XdgPortalNative) : Prop :=
  n.powerSaverKnown = false ∧ (n.portalOwner ≠ "" ∨ n.portalOwnerSeen = false)

variable {n n' : XdgPortalNative}

lemma Unsettled.of_discovered (h : n'.forgetRequests = n.forgetRequests) (hn : n'.Unsettled) :
    n.Unsettled := by
  show n.forgetRequests.Unsettled
  rw [← h]
  exact hn

lemma Unsettled.of_commitVersions {generation : ℕ} {interfaces : List String}
    {values : List (Option GVariant)} {definitive : List Bool}
    (hn : (n.commitVersions generation interfaces values definitive).Unsettled) :
    n.Unsettled := by
  obtain ⟨versions, heq⟩ := commitVersions_eq n generation interfaces values definitive
  rw [heq] at hn
  exact hn

/-- A value that is taken over settles the state. -/
lemma not_unsettled_applyPowerSaver (value fromSignal : Bool) :
    ¬ (n.applyPowerSaver value fromSignal).1.Unsettled :=
  fun h => Bool.noConfusion h.1

/-- The owner that is reported first, or again, finds the state as it was. -/
lemma Unsettled.of_onPortalAppeared {owner : String} (hsame : (n.onPortalAppeared owner).2 = false)
    (hn : (n.onPortalAppeared owner).1.Unsettled) : n.Unsettled := by
  obtain ⟨hreplaced, heq⟩ : (n.portalOwnerSeen && n.portalOwner != owner) = false ∧
      (n.onPortalAppeared owner).1 = { n with portalOwnerSeen := true, portalOwner := owner } := by
    simp only [onPortalAppeared] at hsame ⊢
    split_ifs at hsame ⊢ with h
    exact ⟨by simpa using h, rfl⟩
  rw [heq] at hn
  refine ⟨hn.1, ?_⟩
  cases hseen : n.portalOwnerSeen with
  | false => exact .inr rfl
  | true =>
    have howner : n.portalOwner = owner := by simpa [hseen] using hreplaced
    rw [howner]
    exact .inl (hn.2.resolve_right (by simp))

end XdgPortalNative

namespace Client

/-- A new instance has replaced one that was there, or a re-read has brought a value. -/
def Event.renews : Event → Bool
  | .portalAppeared _ _ replaced => replaced
  | .refreshed value => value.isSome
  | _ => false

/-- A re-read has been sent since the last instance came, and none has brought a value since. -/
def Unanswered (history : List Event) : Prop :=
  Since (fun e => e.renews = false) (· = .refreshing) history

/-- The state has been asked for, or will be. -/
inductive Asking (s : Client) : Prop where
  | starting (hconstructed : s.constructed = false) (hknown : s.powerKnown = false)
  | posted (hmem : .refreshPowerSaver ∈ s.tasks)
  | replaced (hworker : s.worker = .portalAppeared true)
  | due (hdue : s.refreshDue = true)
  | sent (hsince : Unanswered s.history)

variable {u : UniqueName} {s s' : Client} {a : Action}

/-- A step that asks for nothing and drops nothing that has been asked for. -/
structure Keeps (s s' : Client) : Prop where
  unsettled : s'.native.Unsettled → s.native.Unsettled := by exact id
  starting : s.constructed = false ∧ s.powerKnown = false →
    s'.constructed = false ∧ s'.powerKnown = false := by exact id
  posted : .refreshPowerSaver ∈ s.tasks → .refreshPowerSaver ∈ s'.tasks := by exact id
  replaced : s.worker = .portalAppeared true → s'.worker = .portalAppeared true := by exact id
  due : s.refreshDue = true → s'.refreshDue = true := by exact id
  history : ∃ es, s'.history = es ++ s.history ∧ ∀ e ∈ es, e.renews = false := by
    exact ⟨[], rfl, List.forall_mem_nil _⟩

lemma Asking.keep (h : Asking s) (hk : Keeps s s') : Asking s' := by
  cases h with
  | starting hconstructed hknown =>
    obtain ⟨hconstructed, hknown⟩ := hk.starting ⟨hconstructed, hknown⟩
    exact .starting hconstructed hknown
  | posted hmem => exact .posted (hk.posted hmem)
  | replaced hworker => exact .replaced (hk.replaced hworker)
  | due hdue => exact .due (hk.due hdue)
  | sent hsince =>
    obtain ⟨es, heq, hes⟩ := hk.history
    rw [Unanswered] at hsince
    exact .sent (by simpa only [Unanswered, heq] using hsince.append hes)

/-- What a step does for a state that is unknown. -/
inductive Watch (s s' : Client) : Prop where
  | keep (h : Keeps s s')
  | asked (h : Asking s')
  | settled (h : ¬ s'.native.Unsettled)

namespace Keeps

lemma trans {t : Client} (h : Keeps s s') (h' : Keeps s' t) : Keeps s t where
  unsettled ht := h.unsettled (h'.unsettled ht)
  starting hs := h'.starting (h.starting hs)
  posted hs := h'.posted (h.posted hs)
  replaced hs := h'.replaced (h.replaced hs)
  due hs := h'.due (h.due hs)
  history := by
    obtain ⟨es, heq, hes⟩ := h.history
    obtain ⟨es', heq', hes'⟩ := h'.history
    refine ⟨es' ++ es, by rw [heq', heq, List.append_assoc], ?_⟩
    simpa [or_imp, forall_and] using ⟨hes', hes⟩

lemma record (s : Client) {es : List Event} (hes : ∀ e ∈ es, e.renews = false) :
    Keeps s (s.record es) where
  history := ⟨es.reverse, rfl, by simpa using hes⟩

lemma emit (s : Client) (signals : List Signal) : Keeps s (s.emit signals) := by
  rw [emit_eq]
  apply record
  split_ifs
  · exact nofun
  · simp [Event.renews]

lemma send (s : Client) (messages : List Message) : Keeps s (s.send messages) := by
  rw [send_eq]
  apply record
  split_ifs
  · exact nofun
  · simp [Event.renews]

/-- A callback that starts when the worker is idle does not keep the reaction to a new instance from
going on. -/
lemma replaced_of_isReady (h : s.isReady = true) {w : Worker} :
    s.worker = .portalAppeared true → w = .portalAppeared true := by
  intro hw
  simp [isReady, isFree, hw, Worker.isIdle] at h

lemma replaced_of_listens (h : s.listens = true) {w : Worker} :
    s.worker = .portalAppeared true → w = .portalAppeared true := by
  intro hw
  simp [listens, isFree, hw, Worker.isIdle] at h

end Keeps

/-- A re-read is sent. -/
lemma asking_refreshPowerSaver (s : Client) : Asking s.refreshPowerSaver := by
  have hsent : Asking ({ s with refreshes := s.refreshes + 1 }.record [.refreshing]) :=
    .sent (.inl rfl)
  exact hsent.keep (.send ..)

/-- The worker runs a task: the one that asks for the state does so. -/
lemma watch_runTask (s : Client) {task : Task} {tasks : List Task}
    (htasks : s.tasks = task :: tasks) : Watch s ({ s with tasks := tasks }.runTask task) := by
  have hrest (hother : task ≠ .refreshPowerSaver) : Keeps s { s with tasks := tasks } := by
    refine { posted := fun hmem => ?_ }
    rw [htasks, List.mem_cons] at hmem
    exact hmem.resolve_left hother.symm
  cases task with
  | call handle message =>
    have hbus : Keeps s { s with tasks := tasks, onBus := handle :: s.onBus } :=
      { posted := (hrest nofun).posted }
    exact .keep (hbus.trans (.send ..))
  | reads reader properties => exact .keep ((hrest nofun).trans (.send ..))
  | refreshPowerSaver => exact .asked (asking_refreshPowerSaver _)

/-- No value, and the state stays as it was. -/
lemma Keeps.applied (s : Client) (onWorker fromSignal : Bool)
    (event : Bool → Discovery.Event) :
    Keeps s (s.applied onWorker none event (s.native.applyPowerSaver? none fromSignal)) :=
  {}

/-- The signals of a callback do not say that an instance was replaced. -/
lemma renews_signals (cause : Cause) (signals : List Signal) :
    ∀ e ∈ (signals.map fun signal => Event.request (.signal cause signal)).reverse,
      e.renews = false := by
  intro e he
  obtain ⟨signal, -, rfl⟩ := List.mem_map.mp (List.mem_reverse.mp he)
  rfl

/-- Every step of a client that nobody destroys keeps what is asked, asks, or settles the state. -/
theorem Rule.watch (h : Rule u s a s') (hends : Ends s) (hdown : s.shuttingDown = false) :
    Watch s s' := by
  cases h with
  | seed r hread values definitive hphase =>
    rw [XdgPortalNative.seedPowerSaver]
    cases powerSaverOf values[0]?.join with
    | none =>
      have hread : Keeps s
          { s.setRead .constructor { r with phase := .seeded values definitive } with
            powerKnown := false
            announcing := [] } := { starting := fun hs => ⟨hs.1, rfl⟩ }
      exact .keep (hread.trans (.applied ..))
    | some v =>
      exact .settled (XdgPortalNative.not_unsettled_applyPowerSaver (n := s.native) v false)
  | announce hannouncing =>
    have htaken : Keeps s { s with announcing := [] } := {}
    exact .keep (htaken.trans (.emit ..))
  | commitSeed r hread values definitive hphase =>
    exact .keep { unsettled := .of_commitVersions }
  | constructedKnown r hread hphase hnot hknown =>
    exact .keep { starting := fun hs => by simp [hknown] at hs }
  | constructedUnknown r hread hphase hnot hknown =>
    exact .asked (.posted (List.mem_append_right _ (List.mem_singleton_self _)))
  | versionsCached => exact .keep (.record _ (by simp [Event.renews]))
  | readVersions | construct =>
    exact .keep { posted := List.mem_append_left _ }
  | commit call r hread values definitive hphase =>
    exact .keep
      { unsettled := .of_commitVersions
        history := ⟨[_], rfl, by simp [Event.renews]⟩ }
  | refused _ context message halive hstarts => exact .keep (.emit ..)
  | requested _ context message halive native token handle hbegin hasks hstarts =>
    have hnative := XdgPortalNative.forgetRequests_beginRequest s.native context
      (some u.toString) a.random
    rw [hbegin] at hnative
    exact .keep
      { unsettled := .of_discovered hnative
        posted := List.mem_append_left _
        history := ⟨[_], rfl, by simp [Event.renews]⟩ }
  | closeLookup handle path halive hpath =>
    have hsent : Keeps s ({ s with closing := handle :: s.closing }.record
        [.request (.closeSent handle path)]) :=
      { history := ⟨[_], rfl, by simp [Event.renews]⟩ }
    exact .keep (hsent.trans (.send ..))
  | closeConfirmed handle hmem =>
    exact .keep
      { unsettled := .of_discovered (XdgPortalNative.forgetRequests_forget s.native handle)
        history := ⟨[_], rfl, by simp [Event.renews]⟩ }
  | closeFailed handle error hmem =>
    have hclosing : Keeps s { s with closing := s.closing.erase handle } := {}
    exact .keep ((hclosing.trans (.record _ (by simp [Event.renews]))).trans (.emit ..))
  | sync _ signals message halive hsync => exact .keep ((Keeps.send ..).trans (.emit ..))
  | shutDown => exact .keep { history := ⟨[_], rfl, by simp [Event.renews]⟩ }
  | clear hstage =>
    rw [(hends.joined (.inl hstage)).shuttingDown] at hdown
    cases hdown
  | runTask task tasks hready htasks => exact watch_runTask s htasks
  | callStarted handle path hready hmem =>
    exact .keep
      { unsettled := .of_discovered (XdgPortalNative.forgetRequests_onCallStarted ..)
        replaced := Keeps.replaced_of_isReady hready
        history := ⟨[_], rfl, by simp [Event.renews]⟩ }
  | callFailed handle error hready hmem =>
    exact .keep
      { unsettled := .of_discovered (XdgPortalNative.forgetRequests_onCallFailed ..)
        history := by
          refine ⟨List.reverse (_ :: _), rfl, ?_⟩
          rw [List.reverse_cons, List.forall_mem_append]
          exact ⟨renews_signals _ _, by simp [Event.renews]⟩ }
  | answered => exact .keep { history := ⟨[_], rfl, by simp [Event.renews]⟩ }
  | refreshedLate reply hready hpos hshut =>
    rw [hshut] at hdown
    cases hdown
  | powerSaverRead reply hready hpos hnot =>
    rw [XdgPortalNative.onPowerSaverRead]
    cases powerSaverOf (replyValue reply) with
    | none => exact .keep { history := ⟨[.refreshed none], rfl, by simp [Event.renews]⟩ }
    | some v =>
      exact .settled (XdgPortalNative.not_unsettled_applyPowerSaver (n := s.native) v false)
  | requestResponse path parameters response results hlistens hnot hparameters =>
    exact .keep
      { unsettled := .of_discovered (XdgPortalNative.forgetRequests_deliverResponse ..)
        replaced := Keeps.replaced_of_listens hlistens
        history := by
          refine ⟨_, (List.append_assoc _ [_] s.history).symm, ?_⟩
          rw [List.forall_mem_append]
          exact ⟨renews_signals _ _, by simp [Event.renews]⟩ }
  | propertiesChanged parameters hlistens hnot =>
    rw [XdgPortalNative.onPropertiesChanged]
    cases notifiedPowerSaver parameters with
    | none => exact .keep {}
    | some v =>
      exact .settled (XdgPortalNative.not_unsettled_applyPowerSaver (n := s.native) v true)
  | actionInvoked =>
    exact .keep { history := ⟨[_], rfl, by simp [Event.renews]⟩ }
  | portalAppeared owner hlistens hnot =>
    cases hreplaced : (s.native.onPortalAppeared owner).2 with
    | true => exact .asked (.replaced (by simp [record]))
    | false =>
      exact .keep
        { unsettled := .of_onPortalAppeared hreplaced
          replaced := Keeps.replaced_of_listens hlistens
          history := ⟨[_], rfl, by simp [Event.renews]⟩ }
  | portalVanished hlistens hnot =>
    apply Watch.settled
    rintro ⟨-, howner | hseen⟩
    · exact howner rfl
    · cases hseen
  | resumeSettled hquiet hsettled =>
    exact .keep { replaced := fun hw => by simp [hw, Settled, Tracker.Settled] at hsettled }
  | resumeEarly early hquiet hworker =>
    exact .keep
      { unsettled := .of_discovered (XdgPortalNative.forgetRequests_deliverResponse ..)
        replaced := fun hw => by simp [hw] at hworker
        history := ⟨_, rfl, renews_signals _ _⟩ }
  | resumeHold response hquiet hworker =>
    exact .keep
      { unsettled := .of_discovered (XdgPortalNative.forgetRequests_holdResponse ..)
        replaced := fun hw => by simp [hw] at hworker
        history := by
          refine ⟨_, rfl, ?_⟩
          split_ifs <;> simp [Event.renews] }
  | resumeReplaced hquiet hworker =>
    exact .asked (.due rfl)
  | resumeVanished hquiet hworker =>
    exact .keep
      { replaced := fun hw => by simp [hw] at hworker
        history := ⟨_, rfl, renews_signals _ _⟩ }
  | refresh hquiet hdue => exact .asked (asking_refreshPowerSaver _)
  | post => exact .keep { history := ⟨[_], rfl, by simp [Event.renews]⟩ }
  | _ => exact .keep {}

/-- While the state is unknown and a portal may be there, it has been asked for, or will be. -/
theorem asking_of_reachable (hs : (machine u).Reachable s) (hdown : s.shuttingDown = false)
    (hunsettled : s.native.Unsettled) : Asking s := by
  suffices h : s.native.Unsettled → Asking s from h hunsettled
  have hback (s : Client) (a : Action) (s' : Client) (ha : (machine u).step s a = some s')
      (hnot : s'.shuttingDown = false) : s.shuttingDown = false := by
    rw [← Bool.not_eq_true] at hnot ⊢
    exact fun hbefore => hnot ((Rule.of_step ha).delivery.shuttingDown hbefore)
  refine Machine.Reachable.induction (H := fun s => s.shuttingDown = false)
    (P := fun s => s.native.Unsettled → Asking s) ?_ hback ?_ hs hdown
  · exact fun _ => .starting rfl rfl
  · intro s a s' hr hnot ih ha hafter
    cases (Rule.of_step ha).watch (ends_of_reachable hr) (hback s a s' ha hnot) with
    | keep h => exact (ih (h.unsettled hafter)).keep h
    | asked h => exact h
    | settled h => exact absurd hafter h

/-- When the constructor has returned and the worker is between two callbacks, the state of a portal
that may be there is unknown only while a re-read is posted, or when one has been sent since the
last instance came and none has brought a value since. -/
theorem unknown_asked (hs : (machine u).Reachable s) (hconstructed : s.constructed = true)
    (hdown : s.shuttingDown = false) (hfree : s.isFree = true)
    (howner : s.native.portalOwner ≠ "" ∨ s.native.portalOwnerSeen = false)
    (hunknown : s.native.powerSaverState = -1) :
    .refreshPowerSaver ∈ s.tasks ∨ Unanswered s.history := by
  have hknown : s.native.powerSaverKnown = false := by
    simp only [XdgPortalNative.powerSaverState] at hunknown
    split_ifs at hunknown with hknown
    simpa using hknown
  cases asking_of_reachable hs hdown ⟨hknown, howner⟩ with
  | starting hnot =>
    rw [hconstructed] at hnot
    cases hnot
  | posted hmem => exact .inl hmem
  | replaced hworker => simp [isFree, hworker, Worker.isIdle] at hfree
  | due hdue => simp [isFree, hdue] at hfree
  | sent hsince => exact .inr hsince

/-- The portal goes away, and comes back as a new instance. -/
def restartedRun : List Action :=
  [.construct, .take .constructor, .seed, .commitSeed, .constructed, .subscribe, .runTask, .runTask,
    .portalAppeared ":1.5", .resume, .portalVanished, .resume, .portalAppeared ":1.6", .resume,
    .refresh]

/-- A client whose portal has just come back. -/
theorem unknown_asked_restarted : ∃ s, (machine Tracker.client).exec {} restartedRun = some s ∧
    s.constructed = true ∧ s.shuttingDown = false ∧ s.isFree = true ∧
    s.native.portalOwner = ":1.6" ∧ s.native.powerSaverState = -1 ∧
    (.refreshPowerSaver ∈ s.tasks ∨ Unanswered s.history) := by
  obtain ⟨s, hrun, hconstructed, hdown, hfree, howner, hunknown⟩ :=
    (machine Tracker.client).exists_exec_of_any {} restartedRun
      (P := fun s => s.constructed = true ∧ s.shuttingDown = false ∧ s.isFree = true ∧
        s.native.portalOwner = ":1.6" ∧ s.native.powerSaverState = -1) (by decide +kernel)
  exact ⟨s, hrun, hconstructed, hdown, hfree, howner, hunknown,
    unknown_asked (Machine.reachable_of_exec hrun) hconstructed hdown hfree
      (.inl (by simp [howner])) hunknown⟩

end Client

end XdgPortals
