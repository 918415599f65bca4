import XdgPortals.Client.Rules

/-!
# The two halves of the native state

What the request tracker keeps and what discovery keeps, with the members they share: who owns the
portal's name, and its generation. The functions of one half do the same whatever the other one
holds, and leave it alone.
-/

namespace XdgPortals

namespace XdgPortalNative

/-- The members of the request tracker, and those shared. -/
def forgetDiscovered (n : XdgPortalNative) : XdgPortalNative :=
  { n with
      powerSaverKnown := false
      powerSaverKnownOnce := false
      powerSaverEnabled := false
      cachedVersions := ∅ }

/-- The members of discovery, and those shared. -/
def forgetRequests (n : XdgPortalNative) : XdgPortalNative :=
  { n with
      requests := ∅
      requestPaths := ∅
      unclaimedResponses := []
      callsInFlight := 0
      handleCounter := 0 }

variable (n : XdgPortalNative)

/-! ### The functions of the tracker -/

section Tracker

variable (handle path context reason owner : String) (u : UnclaimedResponse)

lemma beginRequest_forgetDiscovered (connection : Option String) (random : UInt32) :
    n.forgetDiscovered.beginRequest connection random context =
      ((n.beginRequest connection random context).1.forgetDiscovered,
        (n.beginRequest connection random context).2) := by
  simp only [beginRequest]
  split_ifs <;> rfl

lemma forget_forgetDiscovered :
    n.forgetDiscovered.forgetRequestLocked handle =
      (n.forgetRequestLocked handle).forgetDiscovered := by
  cases hit : n.requests[handle]? with
  | none =>
    have hit' : n.forgetDiscovered.requests[handle]? = none := hit
    simp only [forgetRequestLocked, hit, hit']
  | some it =>
    have hit' : n.forgetDiscovered.requests[handle]? = some it := hit
    simp only [forgetRequestLocked, hit, hit']
    rfl

lemma recordPath_forgetDiscovered :
    n.forgetDiscovered.recordPath handle path = (n.recordPath handle path).forgetDiscovered := by
  cases hit : n.requests[handle]? with
  | none =>
    have hit' : n.forgetDiscovered.requests[handle]? = none := hit
    simp only [recordPath, hit, hit']
  | some it =>
    have hit' : n.forgetDiscovered.requests[handle]? = some it := hit
    simp only [recordPath, hit, hit']
    split_ifs <;> rfl

lemma dropHoldWhenIdle_forgetDiscovered :
    n.forgetDiscovered.dropHoldWhenIdle = n.dropHoldWhenIdle.forgetDiscovered := by
  show (if n.callsInFlight = 0 then _ else _ : XdgPortalNative) = _
  rw [dropHoldWhenIdle]
  split_ifs <;> rfl

lemma onCallStarted_forgetDiscovered :
    n.forgetDiscovered.onCallStarted handle path =
      ((n.onCallStarted handle path).1.forgetDiscovered, (n.onCallStarted handle path).2) := by
  have hrecord := recordPath_forgetDiscovered n.callReturned handle path
  change n.forgetDiscovered.callReturned.recordPath handle path = _ at hrecord
  simp only [onCallStarted, hrecord, claimResponse]
  rw [← dropHoldWhenIdle_forgetDiscovered]
  rfl

lemma onCallFailed_forgetDiscovered (error : Option GError) :
    n.forgetDiscovered.onCallFailed handle error =
      ((n.onCallFailed handle error).1.forgetDiscovered, (n.onCallFailed handle error).2) := by
  have hforget := forget_forgetDiscovered n.callReturned handle
  change n.forgetDiscovered.callReturned.forgetRequestLocked handle = _ at hforget
  simp only [onCallFailed, hforget, dropHoldWhenIdle_forgetDiscovered]
  cases hit : n.callReturned.requests[handle]? with
  | none =>
    have hit' : n.forgetDiscovered.callReturned.requests[handle]? = none := hit
    simp only [hit']
  | some it =>
    have hit' : n.forgetDiscovered.callReturned.requests[handle]? = some it := hit
    simp only [hit']
    split_ifs <;> rfl

lemma deliverResponse_forgetDiscovered (response : UInt32) (results : Dictionary) :
    n.forgetDiscovered.deliverResponse path response results =
      ((n.deliverResponse path response results).1.forgetDiscovered,
        (n.deliverResponse path response results).2) := by
  cases hroute : n.requestPaths[path]? with
  | none =>
    have hroute' : n.forgetDiscovered.requestPaths[path]? = none := hroute
    simp only [deliverResponse, hroute, hroute']
  | some handle =>
    have hroute' : n.forgetDiscovered.requestPaths[path]? = some handle := hroute
    cases hit : n.requests[handle]? with
    | none =>
      have hit' : n.forgetDiscovered.requests[handle]? = none := hit
      simp only [deliverResponse, hroute, hroute', hit, hit']
    | some it =>
      have hit' : n.forgetDiscovered.requests[handle]? = some it := hit
      simp only [deliverResponse, hroute, hroute', hit, hit', forget_forgetDiscovered]
      split_ifs <;> rfl

lemma holdResponse_forgetDiscovered :
    n.forgetDiscovered.holdResponse u = (n.holdResponse u).forgetDiscovered := by
  show (if 0 < n.callsInFlight then _ else _ : XdgPortalNative) = _
  rw [holdResponse]
  split_ifs <;> rfl

lemma failPendingRequests_forgetDiscovered :
    n.forgetDiscovered.failPendingRequests reason =
      ((n.failPendingRequests reason).1.forgetDiscovered, (n.failPendingRequests reason).2) :=
  rfl

lemma onPortalAppeared_forgetDiscovered :
    n.forgetDiscovered.onPortalAppeared owner =
      ((n.onPortalAppeared owner).1.forgetDiscovered, (n.onPortalAppeared owner).2) := by
  show (if n.portalOwnerSeen && n.portalOwner != owner then _ else _ :
    XdgPortalNative × Bool) = _
  simp only [onPortalAppeared]
  split_ifs <;> rfl

lemma forgetRequests_beginRequest (connection : Option String) (random : UInt32) :
    (n.beginRequest connection random context).1.forgetRequests = n.forgetRequests := by
  simp only [beginRequest]
  split_ifs <;> rfl

@[simp] lemma forgetRequests_forget :
    (n.forgetRequestLocked handle).forgetRequests = n.forgetRequests := by
  obtain ⟨requests, paths, heq⟩ := forget_eq n handle
  rw [heq]
  rfl

@[simp] lemma forgetRequests_dropHoldWhenIdle :
    n.dropHoldWhenIdle.forgetRequests = n.forgetRequests := by
  obtain ⟨held, heq⟩ := dropHoldWhenIdle_eq n
  rw [heq]
  rfl

@[simp] lemma forgetRequests_onCallStarted :
    (n.onCallStarted handle path).1.forgetRequests = n.forgetRequests := by
  rw [onCallStarted_fst, forgetRequests_dropHoldWhenIdle]
  obtain ⟨requests, paths, heq⟩ := recordPath_eq n handle path
  rw [heq]
  rfl

@[simp] lemma forgetRequests_onCallFailed (error : Option GError) :
    (n.onCallFailed handle error).1.forgetRequests = n.forgetRequests := by
  rw [onCallFailed_fst, forgetRequests_dropHoldWhenIdle]
  exact forgetRequests_forget n handle

@[simp] lemma forgetRequests_deliverResponse (response : UInt32) (results : Dictionary) :
    (n.deliverResponse path response results).1.forgetRequests = n.forgetRequests := by
  rw [deliverResponse]
  split
  · rfl
  · next handle hroute =>
    split
    · rfl
    · next it hit =>
      split
      · rfl
      · show (if _ then _ else _ : XdgPortalNative).forgetRequests = _
        split_ifs
        · rfl
        · exact forgetRequests_forget n handle

@[simp] lemma forgetRequests_holdResponse :
    (n.holdResponse u).forgetRequests = n.forgetRequests := by
  obtain ⟨held, heq⟩ := holdResponse_eq n u
  rw [heq]
  rfl

@[simp] lemma forgetRequests_failPendingRequests :
    (n.failPendingRequests reason).1.forgetRequests = n.forgetRequests :=
  rfl

end Tracker

/-! ### The functions of discovery -/

section Discovery

variable (interfaces : List String) (values : List (Option GVariant)) (definitive : List Bool)
  (generation : ℕ) (owner : String)

lemma commitVersions_forgetRequests :
    n.forgetRequests.commitVersions generation interfaces values definitive =
      (n.commitVersions generation interfaces values definitive).forgetRequests := by
  induction interfaces generalizing n values definitive with
  | nil => rfl
  | cons interface interfaces ih =>
    cases values with
    | nil => rfl
    | cons value values =>
      cases definitive with
      | nil => rfl
      | cons d definitive =>
        rw [commitVersions, commitVersions, ← ih]
        congr 1
        show (if d && generation == n.portalGeneration then _ else _ : XdgPortalNative) = _
        rw [commitVersion]
        split_ifs <;> rfl

@[simp] lemma forgetDiscovered_commitVersions :
    (n.commitVersions generation interfaces values definitive).forgetDiscovered =
      n.forgetDiscovered := by
  obtain ⟨versions, heq⟩ := commitVersions_eq n generation interfaces values definitive
  rw [heq]
  rfl

lemma applyPowerSaver?_forgetRequests (value : Option Bool) (fromSignal : Bool) :
    n.forgetRequests.applyPowerSaver? value fromSignal =
      ((n.applyPowerSaver? value fromSignal).1.forgetRequests,
        (n.applyPowerSaver? value fromSignal).2) := by
  cases value <;> rfl

@[simp] lemma forgetDiscovered_applyPowerSaver? (value : Option Bool) (fromSignal : Bool) :
    (n.applyPowerSaver? value fromSignal).1.forgetDiscovered = n.forgetDiscovered := by
  cases value <;> rfl

lemma length_applyPowerSaver? (value : Option Bool) (fromSignal : Bool) :
    (n.applyPowerSaver? value fromSignal).2.length ≤ 1 := by
  cases value with
  | none => exact Nat.zero_le 1
  | some v =>
    simp only [applyPowerSaver?, applyPowerSaver]
    split_ifs <;> simp

lemma onPortalAppeared_forgetRequests :
    n.forgetRequests.onPortalAppeared owner =
      ((n.onPortalAppeared owner).1.forgetRequests, (n.onPortalAppeared owner).2) := by
  show (if n.portalOwnerSeen && n.portalOwner != owner then _ else _ :
    XdgPortalNative × Bool) = _
  simp only [onPortalAppeared]
  split_ifs <;> rfl

end Discovery

end XdgPortalNative

end XdgPortals
