import Mathlib.Logic.Function.Basic
import XdgPortals.Native.Lifecycle
import XdgPortals.Native.Requests

/-!
# The two request maps under each operation

`place` is the path each tracked request lives at and `route` the handle each path leads to. What
every operation does to the records, to the places and to the routes is stated here once; later
proofs do not unfold the operations.
-/

namespace XdgPortals

namespace XdgPortalNative

/-- The path a tracked request lives at. -/
def place (n : XdgPortalNative) (h : String) : Option String := n.requests[h]?.map (·.path)

/-- The handle a path leads to. -/
def route (n : XdgPortalNative) (p : String) : Option String := n.requestPaths[p]?

lemma place_eq_some {n : XdgPortalNative} {h p : String} :
    n.place h = some p ↔ ∃ it, n.requests[h]? = some it ∧ it.path = p := by
  simp [place]

lemma place_of_record {n : XdgPortalNative} {h : String} {it : Request}
    (hit : n.requests[h]? = some it) : n.place h = some it.path := by
  simp [place, hit]

/-! ### The maps apart from the rest of the state -/

/-- The two maps that track requests. -/
def tables (n : XdgPortalNative) :
    Std.ExtTreeMap String Request × Std.ExtTreeMap String String :=
  (n.requests, n.requestPaths)

section Same

variable {n m : XdgPortalNative}

lemma requests_of_tables (h : n.tables = m.tables) : n.requests = m.requests :=
  congrArg Prod.fst h

lemma place_of_tables (h : n.tables = m.tables) : n.place = m.place := by
  funext k
  simp only [place, requests_of_tables h]

lemma route_of_tables (h : n.tables = m.tables) : n.route = m.route := by
  have hpaths : n.requestPaths = m.requestPaths := congrArg Prod.snd h
  funext p
  simp only [route, hpaths]

end Same

/-! ### Registering -/

section Register

variable (n : XdgPortalNative) (h c : String)

@[simp] lemma requests_register (k : String) : (n.register h c).requests[k]? =
    if h = k then
      some { path := h, context := c, isInhibit := c == "Inhibit.Inhibit", answered := false }
    else n.requests[k]? := by
  simp [register, Std.ExtTreeMap.getElem?_insert]

@[simp] lemma place_register : (n.register h c).place = Function.update n.place h (some h) := by
  funext k
  by_cases hk : k = h
  · subst hk
    simp [place]
  · simp [place, Function.update_of_ne hk, Ne.symm hk]

@[simp] lemma route_register : (n.register h c).route = Function.update n.route h (some h) := by
  funext p
  by_cases hp : p = h
  · subst hp
    simp [route, register]
  · simp [route, register, Std.ExtTreeMap.getElem?_insert, Function.update_of_ne hp, Ne.symm hp]

end Register

/-! ### Forgetting -/

section Forget

variable {n : XdgPortalNative} {h : String}

/-- Forgetting changes nothing but the two maps. -/
lemma forget_eq (n : XdgPortalNative) (h : String) : ∃ requests paths,
    n.forgetRequestLocked h = { n with requests := requests, requestPaths := paths } := by
  rw [forgetRequestLocked]
  split
  · exact ⟨_, _, rfl⟩
  · exact ⟨_, _, rfl⟩

lemma forget_of_none (hn : n.requests[h]? = none) : n.forgetRequestLocked h = n := by
  simp [forgetRequestLocked, hn]

@[simp] lemma requests_forget (k : String) :
    (n.forgetRequestLocked h).requests[k]? = if h = k then none else n.requests[k]? := by
  cases hn : n.requests[h]? with
  | none =>
    rw [forget_of_none hn]
    split_ifs with hk
    · rw [← hk, hn]
    · rfl
  | some it => simp [forgetRequestLocked, hn, Std.ExtTreeMap.getElem?_erase]

lemma place_forget : (n.forgetRequestLocked h).place = Function.update n.place h none := by
  funext k
  by_cases hk : k = h
  · subst hk
    simp [place]
  · simp [place, Function.update_of_ne hk, Ne.symm hk]

lemma route_forget {q : String} (hq : n.place h = some q) : (n.forgetRequestLocked h).route =
    Function.update (Function.update n.route q none) h none := by
  obtain ⟨it, hit, rfl⟩ := place_eq_some.mp hq
  funext p
  by_cases hp : p = h
  · subst hp
    simp [route, forgetRequestLocked, hit]
  · rw [Function.update_of_ne hp]
    by_cases hpath : p = it.path
    · subst hpath
      simp [route, forgetRequestLocked, hit]
    · simp [route, forgetRequestLocked, hit, Std.ExtTreeMap.getElem?_erase,
        Function.update_of_ne hpath, Ne.symm hp, Ne.symm hpath]

@[simp] lemma unclaimed_forget :
    (n.forgetRequestLocked h).unclaimedResponses = n.unclaimedResponses := by
  obtain ⟨requests, paths, heq⟩ := forget_eq n h
  rw [heq]

@[simp] lemma callsInFlight_forget :
    (n.forgetRequestLocked h).callsInFlight = n.callsInFlight := by
  obtain ⟨requests, paths, heq⟩ := forget_eq n h
  rw [heq]

end Forget

/-! ### Recording the real path -/

section RecordPath

variable {n : XdgPortalNative} {h p : String}

/-- Recording a path changes nothing but the two maps. -/
lemma recordPath_eq (n : XdgPortalNative) (h p : String) : ∃ requests paths,
    n.recordPath h p = { n with requests := requests, requestPaths := paths } := by
  rw [recordPath]
  split
  · exact ⟨_, _, rfl⟩
  · split
    · exact ⟨_, _, rfl⟩
    · exact ⟨_, _, rfl⟩

/-- Nothing changes unless the request is there and lives elsewhere. -/
lemma recordPath_eq_self (hn : ∀ q, n.place h = some q → p = "" ∨ p = q) :
    n.recordPath h p = n := by
  cases hit : n.requests[h]? with
  | none => simp [recordPath, hit]
  | some it =>
    have hp : ¬ (p ≠ "" ∧ p ≠ it.path) := by
      rintro ⟨hne, hpath⟩
      exact (hn it.path (place_of_record hit)).elim hne hpath
    simp only [recordPath, hit, if_neg hp]

lemma requests_recordPath {it : Request} (hit : n.requests[h]? = some it) (hne : p ≠ "")
    (hp : p ≠ it.path) (k : String) :
    (n.recordPath h p).requests[k]? =
      if h = k then some { it with path := p } else n.requests[k]? := by
  simp [recordPath, hit, hne, hp, Std.ExtTreeMap.getElem?_insert]

lemma requests_recordPath_of_ne {k : String} (hk : k ≠ h) :
    (n.recordPath h p).requests[k]? = n.requests[k]? := by
  cases hit : n.requests[h]? with
  | none => rw [recordPath_eq_self fun q hq => by simp [place, hit] at hq]
  | some it =>
    by_cases hp : p ≠ "" ∧ p ≠ it.path
    · rw [requests_recordPath hit hp.1 hp.2, if_neg hk.symm]
    · simp only [recordPath, hit, if_neg hp]

/-- A request that is there lives at the path named. -/
lemma requests_recordPath_self (hne : p ≠ "") :
    (n.recordPath h p).requests[h]? = n.requests[h]?.map fun it => { it with path := p } := by
  cases hit : n.requests[h]? with
  | none =>
    rw [recordPath_eq_self fun q hq => by simp [place, hit] at hq, hit]
    rfl
  | some it =>
    by_cases hp : p = it.path
    · rw [recordPath_eq_self fun q hq => by simp_all [place], hit, hp]
      rfl
    · rw [requests_recordPath hit hne hp, if_pos rfl]
      rfl

lemma place_recordPath {q : String} (hq : n.place h = some q) (hne : p ≠ "") (hp : p ≠ q) :
    (n.recordPath h p).place = Function.update n.place h (some p) := by
  obtain ⟨it, hit, rfl⟩ := place_eq_some.mp hq
  funext k
  simp only [place, requests_recordPath hit hne hp]
  by_cases hk : k = h
  · subst hk
    simp
  · simp [Function.update_of_ne hk, Ne.symm hk, place]

lemma route_recordPath {q : String} (hq : n.place h = some q) (hne : p ≠ "") (hp : p ≠ q) :
    (n.recordPath h p).route =
      Function.update (Function.update n.route p (some h)) q none := by
  obtain ⟨it, hit, rfl⟩ := place_eq_some.mp hq
  funext r
  by_cases hr : r = it.path
  · subst hr
    simp [route, recordPath, hit, hne, hp]
  · rw [Function.update_of_ne hr]
    by_cases hrp : r = p
    · subst hrp
      simp [route, recordPath, hit, hne, hp, Ne.symm hr]
    · simp [route, recordPath, hit, hne, hp, Std.ExtTreeMap.getElem?_erase,
        Std.ExtTreeMap.getElem?_insert, Function.update_of_ne hrp, Ne.symm hr, Ne.symm hrp]

@[simp] lemma unclaimed_recordPath :
    (n.recordPath h p).unclaimedResponses = n.unclaimedResponses := by
  obtain ⟨requests, paths, heq⟩ := recordPath_eq n h p
  rw [heq]

@[simp] lemma callsInFlight_recordPath : (n.recordPath h p).callsInFlight = n.callsInFlight := by
  obtain ⟨requests, paths, heq⟩ := recordPath_eq n h p
  rw [heq]

end RecordPath

/-! ### The reply to a call -/

section Reply

variable (n : XdgPortalNative) (h p : String) (e : Option GError)

@[simp] lemma tables_callReturned : n.callReturned.tables = n.tables := rfl

/-- Dropping the hold changes nothing else. -/
lemma dropHoldWhenIdle_eq : ∃ held, n.dropHoldWhenIdle = { n with unclaimedResponses := held } := by
  rw [dropHoldWhenIdle]
  split_ifs
  · exact ⟨_, rfl⟩
  · exact ⟨_, rfl⟩

@[simp] lemma tables_dropHoldWhenIdle : n.dropHoldWhenIdle.tables = n.tables := by
  obtain ⟨held, heq⟩ := dropHoldWhenIdle_eq n
  rw [heq]
  rfl

@[simp] lemma callsInFlight_dropHoldWhenIdle :
    n.dropHoldWhenIdle.callsInFlight = n.callsInFlight := by
  obtain ⟨held, heq⟩ := dropHoldWhenIdle_eq n
  rw [heq]

lemma dropHoldWhenIdle_of_ne {n : XdgPortalNative} (hn : n.callsInFlight ≠ 0) :
    n.dropHoldWhenIdle = n :=
  if_neg hn

lemma forget_callReturned :
    n.callReturned.forgetRequestLocked h = (n.forgetRequestLocked h).callReturned := by
  cases hit : n.requests[h]? with
  | none => rw [forget_of_none hit, forget_of_none (n := n.callReturned) hit]
  | some it => simp only [forgetRequestLocked, callReturned, hit]

lemma recordPath_callReturned :
    n.callReturned.recordPath h p = (n.recordPath h p).callReturned := by
  cases hit : n.requests[h]? with
  | none => simp only [recordPath, callReturned, hit]
  | some it =>
    simp only [recordPath, callReturned, hit]
    split_ifs <;> rfl

/-- What a failed call leaves. -/
lemma onCallFailed_fst :
    (n.onCallFailed h e).1 = (n.forgetRequestLocked h).callReturned.dropHoldWhenIdle := by
  unfold onCallFailed
  rw [forget_callReturned]
  cases hit : n.callReturned.requests[h]? with
  | none => rfl
  | some it =>
    dsimp only
    split_ifs <;> rfl

/-- A failed call emits nothing for a request that is gone or was cancelled. -/
lemma onCallFailed_silent {n : XdgPortalNative} {h : String} {e : Option GError}
    (hsilent : n.requests[h]? = none ∨ isCancelled e = true) : (n.onCallFailed h e).2 = [] := by
  cases hit : n.requests[h]? with
  | none => simp only [onCallFailed, callReturned, hit]
  | some it =>
    have he := hsilent.resolve_left (by simp [hit])
    simp only [onCallFailed, callReturned, hit, he, if_true]

/-- Otherwise it reports the error and completes the request. -/
lemma onCallFailed_signals {n : XdgPortalNative} {h : String} {e : Option GError} {it : Request}
    (hit : n.requests[h]? = some it) (he : isCancelled e = false) :
    ∃ message, (n.onCallFailed h e).2 =
      [.portalError it.context message, .requestCompleted h responseOther.toInt32 []] := by
  simp only [onCallFailed, callReturned, hit, he, Bool.false_eq_true, if_false]
  exact ⟨_, rfl⟩

lemma onCallStarted_fst : (n.onCallStarted h p).1 =
    ((n.recordPath h p).callReturned.claimResponse p).1.dropHoldWhenIdle := by
  unfold onCallStarted
  rw [recordPath_callReturned]

lemma tables_onCallFailed :
    (n.onCallFailed h e).1.tables = (n.forgetRequestLocked h).tables := by
  rw [onCallFailed_fst, tables_dropHoldWhenIdle, tables_callReturned]

lemma tables_onCallStarted : (n.onCallStarted h p).1.tables = (n.recordPath h p).tables := by
  rw [onCallStarted_fst, tables_dropHoldWhenIdle]
  rfl

/-- The Response a reply takes is the first one held on its path. -/
lemma onCallStarted_snd :
    (n.onCallStarted h p).2 = n.unclaimedResponses.find? (·.path == p) := by
  have hheld : (n.callReturned.recordPath h p).unclaimedResponses = n.unclaimedResponses := by
    rw [unclaimed_recordPath]
    rfl
  simp only [onCallStarted, claimResponse, hheld]

end Reply

@[simp] lemma tables_onPortalAppeared (n : XdgPortalNative) (owner : String) :
    (n.onPortalAppeared owner).1.tables = n.tables := by
  obtain ⟨generation, versions, heq⟩ := onPortalAppeared_fst n owner
  rw [heq]
  rfl

/-- Holding a Response changes nothing but the hold. -/
lemma holdResponse_eq (n : XdgPortalNative) (u : UnclaimedResponse) :
    ∃ held, n.holdResponse u = { n with unclaimedResponses := held } := by
  rw [holdResponse]
  split_ifs
  · exact ⟨_, rfl⟩
  · exact ⟨_, rfl⟩

@[simp] lemma tables_holdResponse (n : XdgPortalNative) (u : UnclaimedResponse) :
    (n.holdResponse u).tables = n.tables := by
  obtain ⟨held, heq⟩ := holdResponse_eq n u
  rw [heq]
  rfl

/-! ### Answering and clearing -/

section Answer

variable {n : XdgPortalNative} {h : String} {it : Request}

@[simp] lemma requests_markAnswered (k : String) : (n.markAnswered h it).requests[k]? =
    if h = k then some { it with answered := true } else n.requests[k]? := by
  simp [markAnswered, Std.ExtTreeMap.getElem?_insert]

lemma place_markAnswered (hit : n.requests[h]? = some it) :
    (n.markAnswered h it).place = n.place := by
  funext k
  simp only [place, requests_markAnswered]
  split_ifs with hk
  · rw [← hk, hit]
    rfl
  · rfl

@[simp] lemma route_markAnswered : (n.markAnswered h it).route = n.route := rfl

@[simp] lemma requests_clearRequests (k : String) : n.clearRequests.requests[k]? = none := by
  simp [clearRequests]

@[simp] lemma place_clearRequests : n.clearRequests.place = fun _ => none := by
  funext k
  simp [place]

@[simp] lemma route_clearRequests : n.clearRequests.route = fun _ => none := by
  funext p
  simp [route, clearRequests]

end Answer

/-! ### The requests waiting for a Response -/

/-- The request `h` is tracked and not answered. -/
def Pending (n : XdgPortalNative) (h : String) : Prop :=
  ∃ it, n.requests[h]? = some it ∧ it.answered = false

lemma mem_pendingRequests {n : XdgPortalNative} {h : String} {it : Request} :
    (h, it) ∈ n.pendingRequests ↔ n.requests[h]? = some it ∧ it.answered = false := by
  simp [pendingRequests, Std.ExtTreeMap.mem_toList_iff_getElem?_eq_some]

lemma mem_map_pendingRequests {n : XdgPortalNative} {h : String} :
    h ∈ n.pendingRequests.map Prod.fst ↔ n.Pending h := by
  simp [mem_pendingRequests, Pending]

lemma nodup_pendingRequests (n : XdgPortalNative) : (n.pendingRequests.map Prod.fst).Nodup := by
  have hkeys : (n.requests.toList.map Prod.fst).Nodup := by
    rw [Std.ExtTreeMap.map_fst_toList_eq_keys]
    exact Std.ExtTreeMap.nodup_keys
  exact hkeys.sublist (List.filter_sublist.map Prod.fst)

end XdgPortalNative

end XdgPortals
