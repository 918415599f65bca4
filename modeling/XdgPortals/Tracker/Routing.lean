import XdgPortals.Tracker.PortalLoss

/-!
# The two maps as one index

The route map is an index over the places of the requests. It is sound when no handle is begun
twice, and complete when the portal names no path of another request; then a step that concerns
one handle leaves every other request where it is.
-/

namespace XdgPortals

open XdgPortalNative TwoWayIndex

namespace XdgPortalNative

variable {n : XdgPortalNative} {h k p : String}

lemma place_congr {m : XdgPortalNative} (hk : n.requests[k]? = m.requests[k]?) :
    n.place k = m.place k := by
  simp only [place, hk]

lemma sound_forget (hs : Sound n.place n.route k) :
    Sound (n.forgetRequestLocked h).place (n.forgetRequestLocked h).route k := by
  cases hit : n.requests[h]? with
  | none => rwa [forget_of_none hit]
  | some it =>
    rw [place_forget, route_forget (place_of_record hit)]
    exact (hs.unlink (place_of_record hit)).clear h

lemma listed_forget (hl : Listed n.place n.route k p)
    (hother : k ≠ h → ∀ q, n.place h = some q → p ≠ q ∧ p ≠ h) :
    Listed (n.forgetRequestLocked h).place (n.forgetRequestLocked h).route k p := by
  cases hit : n.requests[h]? with
  | none => rwa [forget_of_none hit]
  | some it =>
    rw [place_forget, route_forget (place_of_record hit)]
    by_cases hk : k = h
    · intro hp
      rw [hk, Function.update_self] at hp
      cases hp
    · obtain ⟨hq, hh⟩ := hother hk it.path (place_of_record hit)
      exact (hl.unlink hk hq).clear hh

lemma sound_recordPath (hs : Sound n.place n.route k) :
    Sound (n.recordPath h p).place (n.recordPath h p).route k := by
  by_cases hself : ∀ q, n.place h = some q → p = "" ∨ p = q
  · rwa [recordPath_eq_self hself]
  · simp only [not_forall, not_or] at hself
    obtain ⟨q, hq, hne, hp⟩ := hself
    rw [place_recordPath hq hne hp, route_recordPath hq hne hp]
    exact hs.move hq p

lemma listed_recordPath {q : String} (hl : Listed n.place n.route k q)
    (hother : k ≠ h → ∀ q', n.place h = some q' → q ≠ p ∧ q ≠ q') :
    Listed (n.recordPath h p).place (n.recordPath h p).route k q := by
  by_cases hself : ∀ q', n.place h = some q' → p = "" ∨ p = q'
  · rwa [recordPath_eq_self hself]
  · simp only [not_forall, not_or] at hself
    obtain ⟨q', hq', hne, hp⟩ := hself
    rw [place_recordPath hq' hne hp, route_recordPath hq' hne hp]
    by_cases hk : k = h
    · rw [hk]
      exact Listed.move_self hp h q
    · exact hl.move hk (hother hk q' hq').1 (hother hk q' hq').2

end XdgPortalNative

namespace Tracker

variable {u : UniqueName} {s s' : Tracker} {a : Action}

/-! ### Soundness -/

lemma sound_step (ht : Tabled s) {k : String} (honce : BegunOnce k s'.history)
    (hs : Sound s.native.place s.native.route k) (heff : Effect s a s') :
    Sound s'.native.place s'.native.route k := by
  cases heff with
  | quiet new hquiet hhistory htables =>
    rwa [place_of_tables htables, route_of_tables htables]
  | register h c ha hhistory htables =>
    rw [place_of_tables htables, route_of_tables htables, place_register, route_register]
    refine hs.link ?_ h
    -- a handle that is tracked was begun before
    rintro rfl
    rw [hhistory] at honce
    rw [Option.eq_none_iff_forall_ne_some]
    intro p hp
    exact honce.not_mem (ht.place hp).1
  | record h p hmem hne hhistory htables =>
    rw [place_of_tables htables, route_of_tables htables]
    exact sound_recordPath hs
  | grant h p r results it new hquiet hreceived hroute hit hpending hinhibit hr hcalm hhistory
      htables =>
    rwa [place_of_tables htables, route_of_tables htables, place_markAnswered hit,
      route_markAnswered]
  | lose reason hlosing hhistory htables =>
    rw [place_of_tables htables, route_of_tables htables, route_clearRequests]
    intro p hk
    cases hk
  | drop h e hmem hsilent hhistory htables =>
    rw [place_of_tables htables, route_of_tables htables]
    exact sound_forget hs
  | fail h m e it hmem ha hit herror hhistory htables =>
    rw [place_of_tables htables, route_of_tables htables]
    exact sound_forget hs
  | finish h p r results it new hquiet hreceived hroute hit hpending hend hhistory htables =>
    rw [place_of_tables htables, route_of_tables htables]
    exact sound_forget hs
  | close h hhistory htables =>
    rw [place_of_tables htables, route_of_tables htables]
    exact sound_forget hs

lemma begunOnce_of_step {s s' : Tracker} {a : Action} {k : String}
    (ha : (machine u).step s a = some s') (honce : BegunOnce k s'.history) :
    BegunOnce k s.history := by
  obtain ⟨new, hnew⟩ := (Effect.of_step ha).history
  rw [hnew] at honce
  exact honce.of_append

/-- Every route to a request that was begun once is to the path it lives at. -/
theorem sound_of_reachable (hs : (machine u).Reachable s) {k : String}
    (honce : BegunOnce k s.history) : Sound s.native.place s.native.route k := by
  refine Machine.Reachable.induction (H := fun s => BegunOnce k s.history)
    (P := fun s => Sound s.native.place s.native.route k) ?_ (fun s a s' => begunOnce_of_step)
    (fun s a s' hr ho hsound ha => ?_) hs honce
  · intro p hk
    simp [machine, route] at hk
  · exact sound_step (tabled_of_reachable hr) ho hsound (Effect.of_step ha)

/-! ### Completeness -/

lemma listed_step (ht : Tabled s) {k p : String} (hsole : Sole s'.history k p)
    (hl : Listed s.native.place s.native.route k p) (heff : Effect s a s') :
    Listed s'.native.place s'.native.route k p := by
  -- a path of another request is another path, before and after the step
  have hother : ∀ {h q}, OwnPath s'.history h q → k ≠ h → p ≠ q := by
    rintro h q ho hk rfl
    exact hk (hsole h ho).symm
  have hbefore : ∀ {h q}, OwnPath s.history h q → OwnPath s'.history h q := by
    intro h q ho
    obtain ⟨new, hnew⟩ := heff.history
    rw [hnew]
    exact ho.append
  have hforget : ∀ h, k ≠ h → ∀ q, s.native.place h = some q → p ≠ q ∧ p ≠ h := by
    intro h hk q hq
    have ho := hbefore (ht.place hq)
    exact ⟨hother ho hk, hother ⟨ho.1, Or.inl rfl⟩ hk⟩
  cases heff with
  | quiet new hquiet hhistory htables =>
    rwa [place_of_tables htables, route_of_tables htables]
  | register h c ha hhistory htables =>
    rw [place_of_tables htables, route_of_tables htables, place_register, route_register]
    by_cases hk : k = h
    · rw [hk]
      exact Listed.link_self h h p
    · refine hl.link hk (hother ?_ hk)
      rw [hhistory]
      exact ⟨by simp [begun, Event.begun?], Or.inl rfl⟩
  | record h q hmem hne hhistory htables =>
    rw [place_of_tables htables, route_of_tables htables]
    refine listed_recordPath hl fun hk q' hq' => ?_
    have ho := hbefore (ht.place hq')
    refine ⟨hother ⟨ho.1, Or.inr ?_⟩ hk, hother ho hk⟩
    rw [hhistory]
    exact List.mem_cons_self ..
  | grant h q r results it new hquiet hreceived hroute hit hpending hinhibit hr hcalm hhistory
      htables =>
    rwa [place_of_tables htables, route_of_tables htables, place_markAnswered hit,
      route_markAnswered]
  | lose reason hlosing hhistory htables =>
    rw [place_of_tables htables, route_of_tables htables, place_clearRequests]
    intro hp
    cases hp
  | drop h e hmem hsilent hhistory htables =>
    rw [place_of_tables htables, route_of_tables htables]
    exact listed_forget hl (hforget h)
  | fail h m e it hmem ha hit herror hhistory htables =>
    rw [place_of_tables htables, route_of_tables htables]
    exact listed_forget hl (hforget h)
  | finish h q r results it new hquiet hreceived hroute hit hpending hend hhistory htables =>
    rw [place_of_tables htables, route_of_tables htables]
    exact listed_forget hl (hforget h)
  | close h hhistory htables =>
    rw [place_of_tables htables, route_of_tables htables]
    exact listed_forget hl (hforget h)

lemma sole_of_step {s s' : Tracker} {a : Action} {k p : String}
    (ha : (machine u).step s a = some s') (hsole : Sole s'.history k p) : Sole s.history k p := by
  obtain ⟨new, hnew⟩ := (Effect.of_step ha).history
  rw [hnew] at hsole
  exact hsole.of_append

/-- A path that is no other request's leads to the request that lives there. -/
theorem listed_of_reachable (hs : (machine u).Reachable s) {k p : String}
    (hsole : Sole s.history k p) : Listed s.native.place s.native.route k p := by
  refine Machine.Reachable.induction (H := fun s => Sole s.history k p)
    (P := fun s => Listed s.native.place s.native.route k p) ?_ (fun s a s' => sole_of_step)
    (fun s a s' hr hu hl ha => ?_) hs hsole
  · intro hp
    simp [machine, place] at hp
  · exact listed_step (tabled_of_reachable hr) hu hl (Effect.of_step ha)

/-- When the portal shares no path, the two maps are inverse to each other. -/
theorem route_iff_place_of_unshared (hs : (machine u).Reachable s)
    (hdistinct : (begun s.history).Nodup) (hunshared : Unshared s.history) (p h : String) :
    s.native.route p = some h ↔ s.native.place h = some p := by
  refine (sound_of_reachable hs (begunOnce_of_nodup hdistinct h)).exact ?_
  intro hp
  exact listed_of_reachable hs (hunshared.sole ((tabled_of_reachable hs).place hp)) hp

/-! ### Isolation -/

/-- The step does not reach the request `k`: it belongs to the call or the close of another one, or
it delivers no Response that `k` waits for. -/
def Untouched (u : UniqueName) (s : Tracker) (k : String) : Action → Prop
  | .beginRequest random _ => s.nextHandle u random ≠ k
  | .callStarted h _ | .callFailed h _ | .closeConfirmed h => h ≠ k
  | .requestResponse path _ _ => s.native.Pending k → s.native.route path.val ≠ some k
  | .resume => s.worker.isLosing = false ∧ ∀ e, s.worker = .callStarted (some e) →
      s.native.Pending k → s.native.route e.path ≠ some k
  | _ => True

lemma completionsOf_signal_of_ne {cause : Cause} {h k : String} {r : Int32} {results : Dictionary}
    (hk : h ≠ k) (es : List Event) :
    completionsOf k (.signal cause (.requestCompleted h r results) :: es) = completionsOf k es := by
  rw [completionsOf_cons]
  simp [Event.completion?, hk]

/-- A delivery that `k` does not wait for leaves `k` alone. -/
lemma Delivered.untouched {path : String} {response : UInt32} {results : Dictionary}
    {t : Tracker} {delivered : Bool} (hd : Delivered s path response results t delivered)
    {k : String} (hk : s.native.Pending k → s.native.route path ≠ some k) :
    t.native.requests[k]? = s.native.requests[k]? ∧
      completionsOf k t.history = completionsOf k s.history := by
  cases hd with
  | missed hroute => exact ⟨rfl, rfl⟩
  | ignored handle hroute hdone => exact ⟨rfl, rfl⟩
  | granted handle it hroute hit hpending hinhibit hresponse =>
    have hne : handle ≠ k := by
      rintro rfl
      exact hk ⟨it, hit, hpending⟩ hroute
    refine ⟨?_, completionsOf_signal_of_ne hne _⟩
    rw [requests_markAnswered, if_neg hne]
  | finished handle it hroute hit hpending hend =>
    have hne : handle ≠ k := by
      rintro rfl
      exact hk ⟨it, hit, hpending⟩ hroute
    refine ⟨?_, completionsOf_signal_of_ne hne _⟩
    rw [requests_forget, if_neg hne]

/-- A step that does not reach `k` leaves its record and its completions as they are. -/
theorem Untouched.keeps {k : String} (ht : Untouched u s k a) (h : Rule u s a s') :
    s'.native.requests[k]? = s.native.requests[k]? ∧
      completionsOf k s'.history = completionsOf k s.history := by
  cases h with
  | beginRequest random context =>
    refine ⟨?_, rfl⟩
    rw [requests_register, if_neg ht]
  | callStarted handle path hidle hmem =>
    refine ⟨?_, rfl⟩
    rw [requests_of_tables (tables_onCallStarted ..), requests_recordPath_of_ne (Ne.symm ht)]
  | callFailed handle error hidle hmem =>
    refine ⟨?_, ?_⟩
    · rw [requests_of_tables (tables_onCallFailed ..), requests_forget, if_neg ht]
    · by_cases hsilent : s.native.requests[handle]? = none ∨ isCancelled error = true
      · simp only [onCallFailed_silent hsilent]
        rfl
      · obtain ⟨hsome, herror⟩ := not_or.mp hsilent
        obtain ⟨it, hit⟩ := Option.ne_none_iff_exists'.mp hsome
        rw [Bool.not_eq_true] at herror
        obtain ⟨message, hsignals⟩ := onCallFailed_signals hit herror
        simp only [hsignals]
        exact completionsOf_signal_of_ne ht _
  | requestResponse path response results hidle t delivered hdeliver =>
    exact (Delivered.of_deliver hdeliver).untouched ht
  | portalAppeared owner hidle =>
    exact ⟨by rw [requests_of_tables (tables_onPortalAppeared ..)], rfl⟩
  | portalVanished hidle => exact ⟨rfl, rfl⟩
  | resumeSettled hsettled => exact ⟨rfl, rfl⟩
  | resumeEarly early hworker t delivered hdeliver =>
    exact (Delivered.of_deliver hdeliver).untouched (ht.2 early hworker)
  | resumeHold response hworker =>
    refine ⟨by rw [hold, requests_of_tables (tables_holdResponse ..)], ?_⟩
    simp only [hold]
    split_ifs <;> rfl
  | resumeLost reason hlosing =>
    have hnot := ht.1
    rw [isLosing_of_losing hlosing] at hnot
    cases hnot
  | closeLookup handle path hpath => exact ⟨rfl, rfl⟩
  | closeConfirmed handle hmem =>
    refine ⟨?_, rfl⟩
    rw [requests_forget, if_neg ht]
  | closeFailed handle error hmem =>
    refine ⟨rfl, ?_⟩
    cases error <;> rfl

/-- The step is the reply to the call of `h`, a Response on the path of `h`, or part of closing
`h`. -/
inductive Concerns (s : Tracker) : Action → String → Prop where
  | callStarted (h : String) (path : ObjectPath) : Concerns s (.callStarted h path) h
  | callFailed (h : String) (e : Option GError) : Concerns s (.callFailed h e) h
  | requestResponse (h : String) (path : ObjectPath) (response : UInt32) (results : Dictionary)
      (hplace : s.native.place h = some path.val) :
      Concerns s (.requestResponse path response results) h
  | resumeEarly (h : String) (early : UnclaimedResponse)
      (hworker : s.worker = .callStarted (some early))
      (hplace : s.native.place h = some early.path) :
      Concerns s .resume h
  | closeLookup (h : String) : Concerns s (.closeLookup h) h
  | closeConfirmed (h : String) : Concerns s (.closeConfirmed h) h
  | closeFailed (h : String) (e : Option GError) : Concerns s (.closeFailed h e) h

/-- A step that concerns `h` does not reach another request. -/
lemma Concerns.untouched {h k : String} (hc : Concerns s a h)
    (hroute : ∀ p, s.native.place h = some p → s.native.route p = some h) (hk : k ≠ h) :
    Untouched u s k a := by
  cases hc with
  | callStarted h path => exact hk.symm
  | callFailed h e => exact hk.symm
  | closeConfirmed h => exact hk.symm
  | closeLookup h => trivial
  | closeFailed h e => trivial
  | requestResponse h path response results hplace =>
    intro _ hr
    exact hk (Option.some.inj (hr.symm.trans (hroute _ hplace)))
  | resumeEarly h early hworker hplace =>
    refine ⟨by rw [hworker]; rfl, ?_⟩
    intro e he _ hr
    cases hworker.symm.trans he
    exact hk (Option.some.inj (hr.symm.trans (hroute _ hplace)))

/-- The maps are inverse to each other, and a step that concerns one handle leaves the record and
the route of every other one as they are. -/
theorem maps_inverse_and_isolated (hs : (machine u).Reachable s)
    (hdistinct : (begun s.history).Nodup) (hunshared : Unshared s.history) :
    (∀ p h : String, s.native.requestPaths[p]? = some h ↔
      ∃ it : Request, s.native.requests[h]? = some it ∧ it.path = p) ∧
    ∀ a s' h k, (machine u).step s a = some s' → (begun s'.history).Nodup → Unshared s'.history →
      Concerns s a h → k ≠ h →
      s'.native.requests[k]? = s.native.requests[k]? ∧
        ∀ p : String, s'.native.requestPaths[p]? = some k ↔ s.native.requestPaths[p]? = some k := by
  have hexact := route_iff_place_of_unshared hs hdistinct hunshared
  refine ⟨fun p h => (hexact p h).trans place_eq_some, ?_⟩
  intro a s' h k hstep hdistinct' hunshared' hc hk
  have huntouched := hc.untouched (u := u) (fun p hp => (hexact p h).mpr hp) hk
  have hrecord := (huntouched.keeps (Rule.of_step hstep)).1
  refine ⟨hrecord, fun p => ?_⟩
  have hexact' := route_iff_place_of_unshared (hs.step hstep) hdistinct' hunshared' p k
  rw [place_congr hrecord] at hexact'
  exact hexact'.trans (hexact p k).symm

/-- A request that was re-keyed to another path. -/
theorem maps_inverse_and_isolated_rekeyed : ∃ s,
    (machine client).exec (machine client).init
      [.beginRequest 7 "Inhibit.Inhibit", .callStarted firstHandle.val otherPath] = some s ∧
    s.native.requestPaths[otherPath.val]? = some firstHandle.val ∧
    ∀ p h : String, s.native.requestPaths[p]? = some h ↔
      ∃ it : Request, s.native.requests[h]? = some it ∧ it.path = p := by
  obtain ⟨s, hs, hroute, hdistinct, hunshared⟩ := (machine client).exists_exec_of_any
    (machine client).init
    [.beginRequest 7 "Inhibit.Inhibit", .callStarted firstHandle.val otherPath]
    (P := fun s => s.native.requestPaths[otherPath.val]? = some firstHandle.val ∧
      (begun s.history).Nodup ∧ Unshared s.history) (by decide +kernel)
  exact ⟨s, hs, hroute,
    (maps_inverse_and_isolated (Machine.reachable_of_exec hs) hdistinct hunshared).1⟩

end Tracker

end XdgPortals
