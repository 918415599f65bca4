import XdgPortals.Tracker.Routing

/-!
# Closing a request

`close_request` looks the path up, calls the portal without the lock, and forgets the request if
the portal confirms. Whatever the worker does in between, a confirmed close is final and a failed
one changes nothing.
-/

namespace XdgPortals

open XdgPortalNative TwoWayIndex

namespace XdgPortalNative

/-- No two tracked requests live at one path. -/
def PathsDistinct (n : XdgPortalNative) : Prop :=
  (n.requests.toList.map fun entry => entry.2.path).Nodup

instance (n : XdgPortalNative) : Decidable n.PathsDistinct :=
  inferInstanceAs (Decidable (List.Nodup _))

lemma PathsDistinct.unique {n : XdgPortalNative} (hn : n.PathsDistinct) {h k p : String}
    (hh : n.place h = some p) (hk : n.place k = some p) : h = k := by
  obtain ⟨it, hit, rfl⟩ := place_eq_some.mp hh
  obtain ⟨it', hit', hpath⟩ := place_eq_some.mp hk
  have hmem := Std.ExtTreeMap.mem_toList_iff_getElem?_eq_some.mpr hit
  have hmem' := Std.ExtTreeMap.mem_toList_iff_getElem?_eq_some.mpr hit'
  exact congrArg Prod.fst (List.inj_on_of_nodup_map hn hmem hmem' hpath.symm)

end XdgPortalNative

/-- What `close_request` does with the handle `h`. -/
inductive Action.Closes (h : String) : Action → Prop where
  | lookup : Closes h (.closeLookup h)
  | confirmed : Closes h (.closeConfirmed h)
  | failed (error : Option GError) : Closes h (.closeFailed h error)

/-- The reply to the call of `h`. -/
inductive Action.Replies (h : String) : Action → Prop where
  | started (path : ObjectPath) : Replies h (.callStarted h path)
  | failed (error : Option GError) : Replies h (.callFailed h error)

/-- A handle that is not completed in a part of the history has no completion there. -/
lemma completionsOf_append_of_not_mem {h : String} {l es : List Event} (hl : h ∉ completed l) :
    completionsOf h (l ++ es) = completionsOf h es := by
  have hnil : (completions l).filter (fun c => c.1 == h) = [] := by
    rw [List.filter_eq_nil_iff]
    intro c hc heq
    exact hl (List.mem_map.mpr ⟨c, hc, beq_iff_eq.mp heq⟩)
  rw [completionsOf, completions_append, List.filter_append, hnil]
  rfl

namespace Tracker

variable {u : UniqueName} {s s' t : Tracker} {a : Action} {h : String}

/-! ### A request that is gone -/

/-- A handle the tracker does not know stays unknown and is not completed, unless it is begun. -/
lemma absent_step (heff : Effect s a s') (habsent : s.native.life h = .absent)
    (hbegun : h ∈ begun s.history) (honce : BegunOnce h s'.history) :
    s'.native.life h = .absent ∧ completionsOf h s'.history = completionsOf h s.history := by
  obtain ⟨new, hnew⟩ := heff.history
  obtain ⟨t, hturns, hstep⟩ := heff.life h
  rw [hnew, turns_append, List.append_left_inj] at hturns
  rw [habsent] at hstep
  rw [hnew]
  generalize s'.native.life h = l at hstep ⊢
  cases hstep with
  | keep =>
    refine ⟨rfl, completionsOf_append_of_not_mem ?_⟩
    rw [← completed_mem_turns, hturns]
    exact List.not_mem_nil
  | begin =>
    -- the handle would have been begun twice
    have hagain : h ∈ begun new := begun_mem_turns.mp (by rw [hturns]; exact List.mem_cons_self ..)
    rw [BegunOnce, hnew, begun_append, List.count_append] at honce
    have hcount := List.count_pos_iff.mpr hbegun
    have hcount' := List.count_pos_iff.mpr hagain
    omega
  | cancel =>
    refine ⟨rfl, completionsOf_append_of_not_mem ?_⟩
    rw [← completed_mem_turns, hturns]
    simp
  | close =>
    refine ⟨rfl, completionsOf_append_of_not_mem ?_⟩
    rw [← completed_mem_turns, hturns]
    simp

lemma begun_step (heff : Effect s a s') (hbegun : h ∈ begun s.history) :
    h ∈ begun s'.history := by
  obtain ⟨new, hnew⟩ := heff.history
  rw [hnew, begun_append]
  exact List.mem_append_right _ hbegun

lemma begun_of_exec {as : List Action} (hrun : (machine u).exec s as = some t)
    (hbegun : h ∈ begun s.history) : h ∈ begun t.history := by
  refine Machine.exec_preserves (P := fun s => h ∈ begun s.history) ?_ hbegun hrun
  intro s a s' hmem ha
  exact begun_step (Effect.of_step ha) hmem

/-- So it is over a whole run. -/
theorem absent_run {as : List Action} (hrun : (machine u).exec s as = some t)
    (habsent : s.native.life h = .absent) (hbegun : h ∈ begun s.history)
    (honce : BegunOnce h t.history) :
    t.native.life h = .absent ∧ completionsOf h t.history = completionsOf h s.history := by
  induction as generalizing s with
  | nil =>
    cases hrun
    exact ⟨habsent, rfl⟩
  | cons a as ih =>
    obtain ⟨s', ha, has⟩ := (machine u).exec_cons_eq_some.mp hrun
    have honce' := Machine.exec_back (H := fun s => BegunOnce h s.history)
      (fun s a s' => begunOnce_of_step) has honce
    obtain ⟨hlife, hsame⟩ := absent_step (Effect.of_step ha) habsent hbegun honce'
    obtain ⟨hlife', hsame'⟩ := ih has hlife (begun_step (Effect.of_step ha) hbegun)
    exact ⟨hlife', hsame'.trans hsame⟩

lemma requests_of_absent {n : XdgPortalNative} (habsent : n.life h = .absent) :
    n.requests[h]? = none := by
  cases hit : n.requests[h]? with
  | none => rfl
  | some it =>
    rw [life_of_some hit] at habsent
    split_ifs at habsent

/-- No route leads to a handle the tracker does not know. -/
lemma route_ne_of_absent (hs : (machine u).Reachable s) (honce : BegunOnce h s.history)
    (habsent : s.native.life h = .absent) (p : String) : s.native.route p ≠ some h := by
  intro hp
  obtain ⟨it, hit, -⟩ := place_eq_some.mp (sound_of_reachable hs honce p hp)
  rw [requests_of_absent habsent] at hit
  cases hit

/-- The last section of `close_request`, once the portal has confirmed. -/
lemma step_closeConfirmed (hmem : h ∈ s.closing) :
    (machine u).step s (.closeConfirmed h) = some { s with
      native := s.native.forgetRequestLocked h
      closing := s.closing.erase h
      history := .closed h :: s.history } :=
  if_pos hmem

/-! ### The other requests -/

/-- Forgetting a request cuts no route to a request that lives neither at its path nor at its
handle. -/
lemma route_forget_of_ne {n : XdgPortalNative} {k p : String}
    (hpath : n.place h ≠ some p) (hhandle : p ≠ h) :
    (n.forgetRequestLocked h).route p = some k ↔ n.route p = some k := by
  cases hit : n.requests[h]? with
  | none => rw [forget_of_none hit]
  | some it =>
    have hplace := place_of_record hit
    rw [hplace, ne_eq, Option.some_inj] at hpath
    rw [route_forget hplace, Function.update_of_ne hhandle, Function.update_of_ne (Ne.symm hpath)]

/-- A step of `close_request` for `h` leaves the record, the routes and the completions of every
other request alone. -/
lemma other_of_closes (hs : (machine u).Reachable s) (hdistinct : (begun s.history).Nodup)
    (hpaths : s.native.PathsDistinct) (hpredicted : ∀ k, s.native.place k = some h → k = h)
    (hc : a.Closes h) (hstep : (machine u).step s a = some s') {k : String} (hk : k ≠ h) :
    s'.native.requests[k]? = s.native.requests[k]? ∧
      (∀ p : String, s'.native.route p = some k ↔ s.native.route p = some k) ∧
      completionsOf k s'.history = completionsOf k s.history := by
  have hrule := Rule.of_step hstep
  have huntouched : Untouched u s k a := by
    cases hc with
    | lookup => trivial
    | confirmed => exact hk.symm
    | failed error => trivial
  obtain ⟨hrecord, hsame⟩ := huntouched.keeps hrule
  refine ⟨hrecord, fun p => ?_, hsame⟩
  have hsound := sound_of_reachable hs (begunOnce_of_nodup hdistinct k)
  cases hc with
  | lookup =>
    cases hrule
    rfl
  | failed error =>
    cases hrule
    rfl
  | confirmed =>
    have hsound' := sound_of_reachable (hs.step hstep) (k := k) (by
      cases hrule
      exact begunOnce_of_nodup hdistinct k)
    -- a route to `k` before or after is to the place of `k`, and that is the same
    have hforget : s.native.place k = some p →
        (s'.native.route p = some k ↔ s.native.route p = some k) := by
      intro hp
      cases hrule
      refine route_forget_of_ne (fun hplace => hk (hpaths.unique hp hplace)) ?_
      rintro rfl
      exact hk (hpredicted k hp)
    constructor
    · intro hp
      have hplace := hsound' p hp
      rw [place_congr hrecord] at hplace
      exact (hforget hplace).mp hp
    · intro hp
      exact (hforget (hsound p hp)).mpr hp

/-! ### The call of a closed request -/

/-- The reply to a call takes one from the counter. -/
lemma callsInFlight_of_replies (hr : a.Replies h) (hstep : (machine u).step s a = some s') :
    s'.native.callsInFlight = s.native.callsInFlight - 1 := by
  cases hr with
  | started path =>
    cases Rule.of_step hstep
    exact callsInFlight_onCallStarted ..
  | failed error =>
    cases Rule.of_step hstep
    exact callsInFlight_onCallFailed ..

/-- A call begun once is in flight, or has been replied to once. -/
lemma Counted.once (hc : Counted s) (hbegun : h ∈ begun s.history)
    (honce : BegunOnce h s.history) :
    (replied s.history).count h + s.inFlight.count h = 1 := by
  have hpos := List.count_pos_iff.mpr hbegun
  rw [BegunOnce] at honce
  have hcount := hc.perm.count_eq h
  rw [List.count_append] at hcount
  omega

/-- The paths of the tracked requests are distinct in every state of this run. The portal answers
the second request on the predicted handle of the first, which has moved elsewhere; closing the
first one then cuts the route of the second. -/
theorem close_cuts_another : ∃ s s',
    (machine client).exec (machine client).init
      [.beginRequest 7 "OpenURI.OpenURI", .beginRequest 7 "OpenURI.OpenURI",
        .callStarted firstHandle.val otherPath, .resume,
        .callStarted secondHandle.val firstHandle, .resume, .closeLookup firstHandle.val] =
          some s ∧
    (machine client).Along (fun s _ => s.native.PathsDistinct) (machine client).init
      [.beginRequest 7 "OpenURI.OpenURI", .beginRequest 7 "OpenURI.OpenURI",
        .callStarted firstHandle.val otherPath, .resume,
        .callStarted secondHandle.val firstHandle, .resume, .closeLookup firstHandle.val,
        .closeConfirmed firstHandle.val] ∧
    (begun s.history).Nodup ∧
    (machine client).step s (.closeConfirmed firstHandle.val) = some s' ∧
    s.native.requestPaths[firstHandle.val]? = some secondHandle.val ∧
    s'.native.place secondHandle.val = some firstHandle.val ∧
    s'.native.requestPaths[firstHandle.val]? = none := by
  obtain ⟨s, hs, hdistinct, hbefore, hplace, hafter⟩ := (machine client).exists_exec_of_any
    (machine client).init
    [.beginRequest 7 "OpenURI.OpenURI", .beginRequest 7 "OpenURI.OpenURI",
      .callStarted firstHandle.val otherPath, .resume,
      .callStarted secondHandle.val firstHandle, .resume, .closeLookup firstHandle.val]
    (P := fun s => (begun s.history).Nodup ∧
      s.native.requestPaths[firstHandle.val]? = some secondHandle.val ∧
      (s.native.forgetRequestLocked firstHandle.val).place secondHandle.val =
        some firstHandle.val ∧
      (s.native.forgetRequestLocked firstHandle.val).requestPaths[firstHandle.val]? = none ∧
      firstHandle.val ∈ s.closing) (by decide +kernel)
  exact ⟨s, _, hs, by decide +kernel, hdistinct, step_closeConfirmed hafter.2, hbefore, hplace,
    hafter.1⟩

/-- A confirmed close is final and a failed one changes nothing, whatever came in between. Neither
touches another request or the call of the closed one, provided that no other tracked request
lives at its path or at its predicted handle. -/
theorem close_final_or_harmless (hs : (machine u).Reachable s) (hbegun : h ∈ begun s.history)
    (hdistinct : (begun s.history).Nodup) (hpaths : s.native.PathsDistinct)
    (hpredicted : ∀ k, s.native.place k = some h → k = h) :
    (∀ s', (machine u).step s (.closeConfirmed h) = some s' →
      s'.native.requestPaths[h]? = none ∧
      ∀ as t, (machine u).exec s' as = some t → (begun t.history).Nodup →
        t.native.requests[h]? = none ∧ (∀ p : String, t.native.requestPaths[p]? ≠ some h) ∧
        completionsOf h t.history = completionsOf h s.history) ∧
    (∀ a s', (a = .closeLookup h ∨ ∃ e, a = .closeFailed h e) → (machine u).step s a = some s' →
      s'.native = s.native) ∧
    ∀ a s', a.Closes h → (machine u).step s a = some s' →
      (∀ k ≠ h, s'.native.requests[k]? = s.native.requests[k]? ∧
        (∀ p : String, s'.native.requestPaths[p]? = some k ↔ s.native.requestPaths[p]? = some k) ∧
        completionsOf k s'.history = completionsOf k s.history) ∧
      s'.native.callsInFlight = s.native.callsInFlight ∧ s'.inFlight = s.inFlight ∧
      ∀ as t, (machine u).exec s' as = some t → (begun t.history).Nodup →
        (replied t.history).count h + t.inFlight.count h = 1 ∧
        ∀ b t', b.Replies h → (machine u).step t b = some t' →
          t'.native.callsInFlight = t.native.callsInFlight - 1 := by
  refine ⟨?_, ?_, ?_⟩
  · intro s' hstep
    have hreach := hs.step hstep
    have hrule := Rule.of_step hstep
    have hbegun' := begun_step hrule.effect hbegun
    have hdistinct' : (begun s'.history).Nodup := by cases hrule; exact hdistinct
    have hsame : completionsOf h s'.history = completionsOf h s.history := by cases hrule; rfl
    have habsent : s'.native.life h = .absent := by
      cases hrule
      rw [life_forget, if_pos rfl]
    refine ⟨?_, fun as t hrun hdistinct'' => ?_⟩
    · -- only another request could have a route from the handle
      rw [Option.eq_none_iff_forall_ne_some]
      intro k hroute
      have hplace := sound_of_reachable hreach (begunOnce_of_nodup hdistinct' k) h hroute
      have hk : k = h := by
        by_contra hne
        rw [place_congr (other_of_closes hs hdistinct hpaths hpredicted .confirmed hstep hne).1]
          at hplace
        exact hne (hpredicted k hplace)
      rw [hk] at hroute
      exact route_ne_of_absent hreach (begunOnce_of_nodup hdistinct' h) habsent h hroute
    · have honce := begunOnce_of_nodup hdistinct'' h
      obtain ⟨hlife, hsame'⟩ := absent_run hrun habsent hbegun' honce
      exact ⟨requests_of_absent hlife, route_ne_of_absent (hreach.exec hrun) honce hlife,
        hsame'.trans hsame⟩
  · rintro a s' (rfl | ⟨e, rfl⟩) hstep
    · cases Rule.of_step hstep
      rfl
    · cases Rule.of_step hstep
      rfl
  · intro a s' hc hstep
    have hreach := hs.step hstep
    have hrule := Rule.of_step hstep
    refine ⟨fun k hk => other_of_closes hs hdistinct hpaths hpredicted hc hstep hk, ?_, ?_, ?_⟩
    · cases hc with
      | lookup => cases hrule; rfl
      | confirmed => cases hrule; exact callsInFlight_forget
      | failed error => cases hrule; rfl
    · cases hc <;> cases hrule <;> rfl
    · intro as t hrun hdistinct'
      have hbegun' := begun_of_exec hrun (begun_step hrule.effect hbegun)
      refine ⟨?_, fun b t' hb => callsInFlight_of_replies hb⟩
      exact (counted_of_reachable (hreach.exec hrun)).once hbegun'
        (begunOnce_of_nodup hdistinct' h)

/-- A request that is closed while its call is in flight, after the Response of another one. -/
theorem close_final_or_harmless_in_flight : ∃ s s',
    (machine client).exec (machine client).init
      [.beginRequest 7 "OpenURI.OpenURI", .beginRequest 7 "OpenURI.OpenURI",
        .callStarted secondHandle.val otherPath, .resume, .closeLookup firstHandle.val,
        .requestResponse otherPath 0 [], .resume] = some s ∧
    (machine client).step s (.closeConfirmed firstHandle.val) = some s' ∧
    s.native.requestPaths[firstHandle.val]? = some firstHandle.val ∧
    s'.native.requestPaths[firstHandle.val]? = none ∧ s'.inFlight = s.inFlight := by
  obtain ⟨s, hs, hdistinct, hpaths, hroute, hplaces, hmem, hbegun⟩ :=
    (machine client).exists_exec_of_any (machine client).init
    [.beginRequest 7 "OpenURI.OpenURI", .beginRequest 7 "OpenURI.OpenURI",
      .callStarted secondHandle.val otherPath, .resume, .closeLookup firstHandle.val,
      .requestResponse otherPath 0 [], .resume]
    (P := fun s => (begun s.history).Nodup ∧ s.native.PathsDistinct ∧
      s.native.requestPaths[firstHandle.val]? = some firstHandle.val ∧
      s.native.requests.toList.map Prod.fst = [firstHandle.val] ∧
      firstHandle.val ∈ s.closing ∧ firstHandle.val ∈ begun s.history) (by decide +kernel)
  have hpredicted : ∀ k, s.native.place k = some firstHandle.val → k = firstHandle.val := by
    intro k hk
    obtain ⟨it, hit, -⟩ := place_eq_some.mp hk
    have hkey := List.mem_map_of_mem (f := Prod.fst)
      (Std.ExtTreeMap.mem_toList_iff_getElem?_eq_some.mpr hit)
    rw [hplaces] at hkey
    exact List.mem_singleton.mp hkey
  have hstep := step_closeConfirmed (u := client) hmem
  obtain ⟨hconfirmed, -, hboth⟩ :=
    close_final_or_harmless (Machine.reachable_of_exec hs) hbegun hdistinct hpaths hpredicted
  exact ⟨s, _, hs, hstep, hroute, (hconfirmed _ hstep).1, (hboth _ _ .confirmed hstep).2.2.1⟩

end Tracker

end XdgPortals
