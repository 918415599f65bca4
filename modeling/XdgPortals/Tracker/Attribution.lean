import XdgPortals.Tracker.PortalLoss

/-!
# Where the outcome of a request comes from

Every completion is either decided locally, for a failed call or a lost portal, or repeats a
Response received on a path of the request's own.
-/

namespace XdgPortals

open XdgPortalNative

/-- What decided the completion of `h`, in terms of the events before it. -/
inductive Attributed (es : List Event) (h : String) : Cause → Int32 → Dictionary → Prop where
  | callFailed (e : Option GError) (he : .callFailed h e ∈ es) :
      Attributed es h .callFailed responseOther.toInt32 []
  | portalLost (e : Event) (he : e ∈ es) (hloss : e.ReportsLoss) :
      Attributed es h .portalLost responseOther.toInt32 []
  | response (p : String) (c : UInt32) (results : Dictionary)
      (hreceived : .received p c results ∈ es)
      (hown : OwnPath es h p) : Attributed es h (.response p c) c.toInt32 results

/-- A completion is attributed to what came before it. -/
def CompletionAttributed (e : Event) (es : List Event) : Prop :=
  ∀ cause h r results, e = .signal cause (.requestCompleted h r results) →
    Attributed es h cause r results

lemma completionAttributed_of_quiet {e : Event} (he : e.Quiet) (es : List Event) :
    CompletionAttributed e es := by
  rintro cause h r results rfl
  exact he.elim

namespace Tracker

variable {u : UniqueName} {s s' : Tracker} {a : Action}

/-- A Response delivered by a step was received, on a path of the handle it completes. -/
lemma attributed_response (hs : (machine u).Reachable s) {h p : String} {r : UInt32}
    {results : Dictionary} {new : List Event}
    (hreceived : .received p r results ∈ new ∨ s.worker = .callStarted (some ⟨p, r, results⟩))
    (hroute : s.native.route p = some h) :
    Attributed (new ++ s.history) h (.response p r) r.toInt32 results := by
  refine .response p r results ?_ ((tabled_of_reachable hs).route p h hroute).append
  rcases hreceived with hnew | hworker
  · exact List.mem_append_left _ hnew
  · have hheard := heard_of_reachable hs ⟨p, r, results⟩ (Or.inr (by rw [hworker]; rfl))
    exact List.mem_append_right _ hheard

lemma attributed_step (hs : (machine u).Reachable s)
    (hj : Justified CompletionAttributed s.history) (heff : Effect s a s') :
    Justified CompletionAttributed s'.history := by
  have hquiet_append : ∀ new : List Event, (∀ e ∈ new, e.Quiet) →
      Justified CompletionAttributed (new ++ s.history) := fun new hquiet =>
    hj.append fun later e earlier heq =>
      completionAttributed_of_quiet (hquiet e (by simp [heq])) _
  cases heff with
  | quiet new hquiet hhistory htables =>
    rw [hhistory]
    exact hquiet_append new hquiet
  | register h c ha hhistory htables =>
    rw [hhistory]
    exact ⟨by rintro _ _ _ _ ⟨⟩, hj⟩
  | record h p hmem hne hhistory htables =>
    rw [hhistory]
    exact ⟨by rintro _ _ _ _ ⟨⟩, hj⟩
  | drop h e hmem hsilent hhistory htables =>
    rw [hhistory]
    exact ⟨by rintro _ _ _ _ ⟨⟩, hj⟩
  | fail h m e it hmem ha hit herror hhistory htables =>
    rw [hhistory]
    refine ⟨?_, by rintro _ _ _ _ ⟨⟩, by rintro _ _ _ _ ⟨⟩, hj⟩
    rintro _ _ _ _ ⟨⟩
    exact .callFailed e (by simp)
  | grant h p r results it new hquiet hreceived hroute hit hpending hinhibit hr hcalm hhistory
      htables =>
    rw [hhistory]
    refine ⟨?_, hquiet_append new hquiet⟩
    rintro _ _ _ _ ⟨⟩
    exact attributed_response hs hreceived hroute
  | finish h p r results it new hquiet hreceived hroute hit hpending hend hhistory htables =>
    rw [hhistory]
    refine ⟨?_, hquiet_append new hquiet⟩
    rintro _ _ _ _ ⟨⟩
    exact attributed_response hs hreceived hroute
  | lose reason hlosing hhistory htables =>
    rw [hhistory, signalled]
    refine hj.append ?_
    rintro later e earlier heq cause h r results rfl
    obtain ⟨loss, hloss, hreports⟩ := reportsLoss_of_reachable hs (isLosing_of_losing hlosing)
    obtain ⟨rfl, -, rfl, rfl⟩ := mem_failPendingRequests (n := s.native) (r := r)
      (h := h) (by rw [heq]; exact List.mem_append_right _ (List.mem_cons_self ..))
    exact .portalLost loss (List.mem_append_right _ hloss) hreports
  | close h hhistory htables =>
    rw [hhistory]
    exact ⟨by rintro _ _ _ _ ⟨⟩, hj⟩

theorem attributed_of_reachable (hs : (machine u).Reachable s) :
    Justified CompletionAttributed s.history := by
  induction hs with
  | init => trivial
  | step hr ha ih => exact attributed_step hr ih (Effect.of_step ha)

/-- When no path is shared, every completion is local or repeats a Response received on a path
that is its own request's and no other's. -/
theorem completion_attributed (hs : (machine u).Reachable s) (hunshared : Unshared s.history)
    (later : List Event) (cause : Cause) (h : String) (r : Int32) (results : Dictionary)
    (earlier : List Event)
    (hcompleted : s.history = later ++ .signal cause (.requestCompleted h r results) :: earlier) :
    (cause = .callFailed ∧ r = responseOther.toInt32 ∧ results = [] ∧
      ∃ e, .callFailed h e ∈ earlier) ∨
    (cause = .portalLost ∧ r = responseOther.toInt32 ∧ results = [] ∧
      ∃ e ∈ earlier, e.ReportsLoss) ∨
    ∃ p c, cause = .response p c ∧ r = c.toInt32 ∧ .received p c results ∈ earlier ∧
      OwnPath earlier h p ∧ Sole s.history h p := by
  have hj := (Justified.iff_forall _).mp (attributed_of_reachable hs) later _ earlier hcompleted
  cases hj cause h r results rfl with
  | callFailed e he => exact Or.inl ⟨rfl, rfl, rfl, e, he⟩
  | portalLost e he hloss => exact Or.inr (Or.inl ⟨rfl, rfl, rfl, e, he, hloss⟩)
  | response p c _ hreceived hown =>
    refine Or.inr (Or.inr ⟨p, c, rfl, rfl, hreceived, hown, hunshared.sole ?_⟩)
    rw [hcompleted, List.append_cons]
    exact hown.append

/-- An inhibition answered before its reply, on a path the reply then names. -/
theorem completion_attributed_early : ∃ s,
    (machine client).exec (machine client).init
      [.beginRequest 7 "Inhibit.Inhibit", .requestResponse otherPath 0 [], .resume,
        .callStarted firstHandle.val otherPath, .resume] = some s ∧
    completed s.history = [firstHandle.val] ∧
    ∀ later cause h r results earlier,
      s.history = later ++ .signal cause (.requestCompleted h r results) :: earlier →
      (cause = .callFailed ∧ r = responseOther.toInt32 ∧ results = [] ∧
        ∃ e, .callFailed h e ∈ earlier) ∨
      (cause = .portalLost ∧ r = responseOther.toInt32 ∧ results = [] ∧
        ∃ e ∈ earlier, e.ReportsLoss) ∨
      ∃ p c, cause = .response p c ∧ r = c.toInt32 ∧ .received p c results ∈ earlier ∧
        OwnPath earlier h p ∧ Sole s.history h p := by
  obtain ⟨s, hs, hcompleted, hunshared⟩ := (machine client).exists_exec_of_any
    (machine client).init
    [.beginRequest 7 "Inhibit.Inhibit", .requestResponse otherPath 0 [], .resume,
      .callStarted firstHandle.val otherPath, .resume]
    (P := fun s => completed s.history = [firstHandle.val] ∧ Unshared s.history) (by decide +kernel)
  exact ⟨s, hs, hcompleted, completion_attributed (Machine.reachable_of_exec hs) hunshared⟩

end Tracker

end XdgPortals
