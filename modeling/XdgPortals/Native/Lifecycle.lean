import XdgPortals.Native.Basic

/-!
# The portal's bus name

The first critical section of the two name-watch callbacks. The flag each returns says whether
the callback goes on to fail the pending requests.
-/

namespace XdgPortals

namespace XdgPortalNative

/-- The name is owned. The first report is the portal as found at startup; any later owner is a
new instance. -/
def onPortalAppeared (n : XdgPortalNative) (pOwner : String) : XdgPortalNative × Bool :=
  let replaced := n.portalOwnerSeen && n.portalOwner != pOwner
  let n := { n with portalOwnerSeen := true, portalOwner := pOwner }
  if replaced then
    ({ n with portalGeneration := n.portalGeneration + 1, cachedVersions := ∅ }, true)
  else (n, false)

/-- The name has no owner. -/
def onPortalVanished (n : XdgPortalNative) : XdgPortalNative × Bool :=
  ({ n with
      portalOwnerSeen := true
      portalOwner := ""
      portalGeneration := n.portalGeneration + 1
      cachedVersions := ∅
      powerSaverKnown := false }, n.portalOwner != "")

def replacedReason : String := "The portal service was replaced before answering."

def vanishedReason : String := "The portal service went away before answering."

/-! ### What the reports change -/

section Appeared

variable (n : XdgPortalNative) (owner : String)

/-- Nothing but the owner, the generation and the cache. -/
lemma onPortalAppeared_fst : ∃ generation versions, (n.onPortalAppeared owner).1 =
    { n with
      portalOwnerSeen := true
      portalOwner := owner
      portalGeneration := generation
      cachedVersions := versions } := by
  simp only [onPortalAppeared]
  split_ifs
  · exact ⟨_, _, rfl⟩
  · exact ⟨_, _, rfl⟩

variable {n owner}

/-- A replacement starts a new generation with an empty cache. -/
lemma onPortalAppeared_of_replaced (h : (n.onPortalAppeared owner).2 = true) :
    (n.onPortalAppeared owner).1.portalGeneration = n.portalGeneration + 1 ∧
      (n.onPortalAppeared owner).1.cachedVersions = ∅ := by
  simp only [onPortalAppeared] at h ⊢
  split_ifs at h ⊢
  exact ⟨rfl, rfl⟩

lemma onPortalAppeared_of_same (h : (n.onPortalAppeared owner).2 = false) :
    (n.onPortalAppeared owner).1.portalGeneration = n.portalGeneration ∧
      (n.onPortalAppeared owner).1.cachedVersions = n.cachedVersions := by
  simp only [onPortalAppeared] at h ⊢
  split_ifs at h ⊢
  exact ⟨rfl, rfl⟩

end Appeared

end XdgPortalNative

end XdgPortals
