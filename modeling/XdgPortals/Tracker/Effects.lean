import XdgPortals.Tracker.Rules

/-!
# The effect of a step on the request maps

Most invariants only speak about the two maps and the events recorded with their changes.
`Effect` is what a step does to these, whatever callback it is part of.
-/

namespace XdgPortals

/-- An event that is recorded without a change to the request maps. -/
def Event.Quiet : Event → Prop
  | .received .. | .held .. | .portalAppeared .. | .portalVanished .. | .closeSent .. => True
  | .signal _ (.requestCompleted ..) => False
  | .signal .. => True
  | _ => False

namespace Tracker

/-- The effects of a step on the two maps, with the events recorded. -/
inductive Effect (s : Tracker) (a : Action) (s' : Tracker) : Prop where
  | quiet (new : List Event) (hquiet : ∀ e ∈ new, e.Quiet)
      (hhistory : s'.history = new ++ s.history) (htables : s'.native.tables = s.native.tables)
  | register (h context : String) (ha : ∃ random, a = .beginRequest random context)
      (hhistory : s'.history = .begun h context :: s.history)
      (htables : s'.native.tables = (s.native.register h context).tables)
  | record (h p : String) (hmem : h ∈ s.inFlight) (hne : p ≠ "")
      (hhistory : s'.history = .callStarted h p :: s.history)
      (htables : s'.native.tables = (s.native.recordPath h p).tables)
  | drop (h : String) (e : Option GError) (hmem : h ∈ s.inFlight)
      (hsilent : s.native.requests[h]? = none ∨ XdgPortalNative.isCancelled e = true)
      (hhistory : s'.history = .callFailed h e :: s.history)
      (htables : s'.native.tables = (s.native.forgetRequestLocked h).tables)
  | fail (h message : String) (e : Option GError) (it : Request) (hmem : h ∈ s.inFlight)
      (ha : a = .callFailed h e) (hit : s.native.requests[h]? = some it)
      (herror : XdgPortalNative.isCancelled e = false)
      (hhistory : s'.history = .signal .callFailed (.requestCompleted h responseOther.toInt32 []) ::
        .signal .callFailed (.portalError it.context message) :: .callFailed h e :: s.history)
      (htables : s'.native.tables = (s.native.forgetRequestLocked h).tables)
  | grant (h p : String) (r : UInt32) (results : Dictionary) (it : Request) (new : List Event)
      (hquiet : ∀ e ∈ new, e.Quiet)
      (hreceived : .received p r results ∈ new ∨
        s.worker = .callStarted (some ⟨p, r, results⟩))
      (hroute : s.native.route p = some h) (hit : s.native.requests[h]? = some it)
      (hpending : it.answered = false) (hinhibit : it.isInhibit = true) (hr : r = 0)
      (hcalm : s'.worker.isLosing = false)
      (hhistory : s'.history =
        .signal (.response p r) (.requestCompleted h r.toInt32 results) :: new ++ s.history)
      (htables : s'.native.tables = (s.native.markAnswered h it).tables)
  | finish (h p : String) (r : UInt32) (results : Dictionary) (it : Request) (new : List Event)
      (hquiet : ∀ e ∈ new, e.Quiet)
      (hreceived : .received p r results ∈ new ∨
        s.worker = .callStarted (some ⟨p, r, results⟩))
      (hroute : s.native.route p = some h) (hit : s.native.requests[h]? = some it)
      (hpending : it.answered = false) (hend : ¬ (it.isInhibit = true ∧ r = 0))
      (hhistory : s'.history =
        .signal (.response p r) (.requestCompleted h r.toInt32 results) :: new ++ s.history)
      (htables : s'.native.tables = (s.native.forgetRequestLocked h).tables)
  | lose (reason : String) (hlosing : Losing s.worker reason)
      (hhistory : s'.history =
        signalled .portalLost (s.native.failPendingRequests reason).2 s.history)
      (htables : s'.native.tables = s.native.clearRequests.tables)
  | close (h : String) (hhistory : s'.history = .closed h :: s.history)
      (htables : s'.native.tables = (s.native.forgetRequestLocked h).tables)

variable {u : UniqueName} {s s' : Tracker} {a : Action}

/-- The effect of delivering a Response after some quiet events. -/
lemma Delivered.effect {l : List Event} {path : String} {response : UInt32}
    {results : Dictionary} {t : Tracker} {delivered : Bool} {w : Worker}
    (h : Delivered { s with history := l ++ s.history } path response results t delivered)
    (hquiet : ∀ e ∈ l, e.Quiet)
    (hreceived : .received path response results ∈ l ∨
      s.worker = .callStarted (some ⟨path, response, results⟩))
    (hcalm : w.isLosing = false) : Effect s a { t with worker := w } := by
  cases h with
  | missed hroute => exact .quiet l hquiet rfl rfl
  | ignored handle hroute hdone => exact .quiet l hquiet rfl rfl
  | granted handle it hroute hit hpending hinhibit hresponse =>
    exact .grant handle path response results it l hquiet hreceived hroute hit hpending hinhibit
      hresponse hcalm rfl rfl
  | finished handle it hroute hit hpending hend =>
    exact .finish handle path response results it l hquiet hreceived hroute hit hpending hend
      rfl rfl

/-- The effect of a failed call. -/
lemma Effect.of_onCallFailed (handle : String) (error : Option GError)
    (hmem : handle ∈ s.inFlight) : Effect s (.callFailed handle error) { s with
      native := (s.native.onCallFailed handle error).1
      inFlight := s.inFlight.erase handle
      history := signalled .callFailed (s.native.onCallFailed handle error).2
        (.callFailed handle error :: s.history) } := by
  by_cases hsilent : s.native.requests[handle]? = none ∨ XdgPortalNative.isCancelled error = true
  · refine .drop handle error hmem hsilent ?_ (XdgPortalNative.tables_onCallFailed ..)
    simp [XdgPortalNative.onCallFailed_silent hsilent, signalled]
  · obtain ⟨hsome, herror⟩ := not_or.mp hsilent
    obtain ⟨it, hit⟩ := Option.ne_none_iff_exists'.mp hsome
    rw [Bool.not_eq_true] at herror
    obtain ⟨message, hsignals⟩ := XdgPortalNative.onCallFailed_signals hit herror
    exact .fail handle message error it hmem rfl hit herror (by simp [hsignals, signalled])
      (XdgPortalNative.tables_onCallFailed ..)

/-- Every step has one of the effects. -/
theorem Rule.effect (h : Rule u s a s') : Effect s a s' := by
  cases h with
  | beginRequest random context => exact .register _ context ⟨random, rfl⟩ rfl rfl
  | callStarted handle path hidle hmem =>
    exact .record handle path.val hmem path.val_ne_empty rfl
      (XdgPortalNative.tables_onCallStarted ..)
  | callFailed handle error hidle hmem => exact .of_onCallFailed handle error hmem
  | requestResponse path response results hidle t delivered hdeliver =>
    exact (Delivered.of_deliver hdeliver).effect
      (l := [.received path.val response results]) (by simp [Event.Quiet]) (Or.inl (by simp)) rfl
  | portalAppeared owner hidle =>
    exact .quiet [_] (by simp [Event.Quiet]) rfl (XdgPortalNative.tables_onPortalAppeared ..)
  | portalVanished hidle => exact .quiet [_] (by simp [Event.Quiet]) rfl rfl
  | resumeSettled hsettled => exact .quiet [] (by simp) rfl rfl
  | resumeEarly early hworker t delivered hdeliver =>
    exact (Delivered.of_deliver hdeliver).effect (l := []) (by simp) (Or.inr hworker) rfl
  | resumeHold response hworker =>
    have htables := XdgPortalNative.tables_holdResponse s.native response
    by_cases hcalls : 0 < s.native.callsInFlight
    · exact .quiet [.held response.path] (by simp [Event.Quiet]) (by simp [hold, hcalls]) htables
    · exact .quiet [] (by simp) (by simp [hold, hcalls]) htables
  | resumeLost reason hlosing => exact .lose reason hlosing rfl rfl
  | closeLookup handle path hpath => exact .quiet [_] (by simp [Event.Quiet]) rfl rfl
  | closeConfirmed handle hmem => exact .close handle rfl rfl
  | closeFailed handle error hmem =>
    refine .quiet ((closeErrors error).map (Event.signal .closeFailed)).reverse ?_ rfl rfl
    cases error <;> simp [closeErrors, Event.Quiet]

theorem Effect.of_step (h : (machine u).step s a = some s') : Effect s a s' :=
  (Rule.of_step h).effect

/-- A step only adds to the history. -/
lemma Effect.history (h : Effect s a s') : ∃ new, s'.history = new ++ s.history := by
  cases h with
  | quiet new hquiet hhistory htables => exact ⟨new, hhistory⟩
  | register h c ha hhistory htables => exact ⟨[_], hhistory⟩
  | record h p hmem hne hhistory htables => exact ⟨[_], hhistory⟩
  | drop h e hmem hsilent hhistory htables => exact ⟨[_], hhistory⟩
  | fail h m e it hmem ha hit herror hhistory htables => exact ⟨[_, _, _], hhistory⟩
  | grant h p r results it new hquiet hreceived hroute hit hpending hinhibit hr hcalm hhistory
      htables =>
    exact ⟨_ :: new, hhistory⟩
  | finish h p r results it new hquiet hreceived hroute hit hpending hend hhistory htables =>
    exact ⟨_ :: new, hhistory⟩
  | lose reason hlosing hhistory htables => exact ⟨_, hhistory⟩
  | close h hhistory htables => exact ⟨[_], hhistory⟩

end Tracker

end XdgPortals
