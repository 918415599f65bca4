import XdgPortals.Native.Tables
import XdgPortals.Tracker.System

/-!
# What a step can do

`Rule` lists the outcomes of a step, one for each way through a critical section. Every invariant
is a case analysis over it, or over the outcomes of `deliver`.
-/

namespace XdgPortals

namespace Tracker

/-- The handle the next `begin_request` returns. -/
def nextHandle (u : UniqueName) (s : Tracker) (random : UInt32) : String :=
  handleFor (sanitizedUniqueName (some u.toString))
    (handleToken (s.native.handleCounter + 1) random)

/-- The worker is inside a callback whose rest changes nothing. -/
def Settled : Worker → Prop
  | .callStarted none        => True
  | .requestResponse true _  => True
  | .portalAppeared replaced => replaced = false
  | .portalVanished wasOwned => wasOwned = false
  | _                        => False

/-- The worker is about to fail the pending requests, for the reason. -/
def Losing : Worker → String → Prop
  | .portalAppeared true, reason => reason = XdgPortalNative.replacedReason
  | .portalVanished true, reason => reason = XdgPortalNative.vanishedReason
  | _, _                         => False

/-- The outcomes of a step. -/
inductive Rule (u : UniqueName) (s : Tracker) : Action → Tracker → Prop where
  | beginRequest (random : UInt32) (context : String) :
      Rule u s (.beginRequest random context)
        { s with
          native := { s.native with handleCounter := s.native.handleCounter + 1 }.register
            (s.nextHandle u random) context
          inFlight := s.nextHandle u random :: s.inFlight
          history := .begun (s.nextHandle u random) context :: s.history }
  | callStarted (handle : String) (path : ObjectPath) (hidle : s.worker.isIdle)
      (hmem : handle ∈ s.inFlight) :
      Rule u s (.callStarted handle path)
        { s with
          native := (s.native.onCallStarted handle path.val).1
          worker := .callStarted (s.native.onCallStarted handle path.val).2
          inFlight := s.inFlight.erase handle
          history := .callStarted handle path.val :: s.history }
  | callFailed (handle : String) (error : Option GError) (hidle : s.worker.isIdle)
      (hmem : handle ∈ s.inFlight) :
      Rule u s (.callFailed handle error)
        { s with
          native := (s.native.onCallFailed handle error).1
          inFlight := s.inFlight.erase handle
          history := signalled .callFailed (s.native.onCallFailed handle error).2
            (.callFailed handle error :: s.history) }
  | requestResponse (path : ObjectPath) (response : UInt32) (results : Dictionary)
      (hidle : s.worker.isIdle) (t : Tracker) (delivered : Bool)
      (hdeliver : deliver { s with history := .received path.val response results :: s.history }
        path.val response results = (t, delivered)) :
      Rule u s (.requestResponse path response results)
        { t with worker := .requestResponse delivered ⟨path.val, response, results⟩ }
  | portalAppeared (owner : String) (hidle : s.worker.isIdle) :
      Rule u s (.portalAppeared owner)
        { s with
          native := (s.native.onPortalAppeared owner).1
          worker := .portalAppeared (s.native.onPortalAppeared owner).2
          history := .portalAppeared s.native.portalOwner owner
            (s.native.onPortalAppeared owner).2 :: s.history }
  | portalVanished (hidle : s.worker.isIdle) :
      Rule u s .portalVanished
        { s with
          native := s.native.onPortalVanished.1
          worker := .portalVanished s.native.onPortalVanished.2
          history := .portalVanished s.native.portalOwner :: s.history }
  | resumeSettled (hsettled : Settled s.worker) : Rule u s .resume { s with worker := .idle }
  | resumeEarly (early : UnclaimedResponse) (hworker : s.worker = .callStarted (some early))
      (t : Tracker) (delivered : Bool)
      (hdeliver : s.deliver early.path early.response early.results = (t, delivered)) :
      Rule u s .resume { t with worker := .idle }
  | resumeHold (response : UnclaimedResponse)
      (hworker : s.worker = .requestResponse false response) :
      Rule u s .resume { s.hold response with worker := .idle }
  | resumeLost (reason : String) (hlosing : Losing s.worker reason) :
      Rule u s .resume { s.failPending reason with worker := .idle }
  | closeLookup (handle path : String) (hpath : s.native.closeRequestPath handle = some path) :
      Rule u s (.closeLookup handle)
        { s with
          closing := handle :: s.closing
          history := .closeSent handle path :: s.history }
  | closeConfirmed (handle : String) (hmem : handle ∈ s.closing) :
      Rule u s (.closeConfirmed handle)
        { s with
          native := s.native.forgetRequestLocked handle
          closing := s.closing.erase handle
          history := .closed handle :: s.history }
  | closeFailed (handle : String) (error : Option GError) (hmem : handle ∈ s.closing) :
      Rule u s (.closeFailed handle error)
        { s with
          closing := s.closing.erase handle
          history := signalled .closeFailed (closeErrors error) s.history }

variable {u : UniqueName} {s s' : Tracker} {a : Action}

/-- Every step follows one of the rules. -/
theorem Rule.of_step (h : (machine u).step s a = some s') : Rule u s a s' := by
  change step u s a = some s' at h
  cases a with
  | beginRequest random context =>
    simp only [step, XdgPortalNative.beginRequest, if_neg u.sanitized_ne_empty] at h
    cases h
    exact .beginRequest random context
  | callStarted handle path =>
    simp only [step] at h
    split_ifs at h with hg
    cases h
    exact .callStarted handle path hg.1 hg.2
  | callFailed handle error =>
    simp only [step] at h
    split_ifs at h with hg
    cases h
    exact .callFailed handle error hg.1 hg.2
  | requestResponse path response results =>
    simp only [step] at h
    split_ifs at h with hg
    cases h
    exact .requestResponse path response results hg _ _ rfl
  | portalAppeared owner =>
    simp only [step] at h
    split_ifs at h with hg
    cases h
    exact .portalAppeared owner hg
  | portalVanished =>
    simp only [step] at h
    split_ifs at h with hg
    cases h
    exact .portalVanished hg
  | resume =>
    simp only [step, resume] at h
    split at h
    · cases h
    · next hw =>
      cases h
      exact .resumeSettled (by rw [hw]; trivial)
    · next early hw =>
      cases h
      exact .resumeEarly early hw _ _ rfl
    · next hw =>
      cases h
      exact .resumeSettled (by rw [hw]; trivial)
    · next response hw =>
      cases h
      exact .resumeHold response hw
    · next hw =>
      cases h
      exact .resumeSettled (by rw [hw]; rfl)
    · next hw =>
      cases h
      exact .resumeLost _ (by rw [hw]; rfl)
    · next hw =>
      cases h
      exact .resumeSettled (by rw [hw]; rfl)
    · next hw =>
      cases h
      exact .resumeLost _ (by rw [hw]; rfl)
  | closeLookup handle =>
    simp only [step] at h
    split at h
    · cases h
    · next path hpath =>
      cases h
      exact .closeLookup handle path hpath
  | closeConfirmed handle =>
    simp only [step] at h
    split_ifs at h with hg
    cases h
    exact .closeConfirmed handle hg
  | closeFailed handle error =>
    simp only [step] at h
    split_ifs at h with hg
    cases h
    exact .closeFailed handle error hg

/-- The step in which the worker fails the pending requests. -/
lemma step_resume_lost {reason : String} (hlosing : Losing s.worker reason) :
    (machine u).step s .resume = some { s.failPending reason with worker := .idle } := by
  simp only [machine, step, resume]
  split <;> simp_all [Losing]

lemma step_resume_settled (hsettled : Settled s.worker) :
    (machine u).step s .resume = some { s with worker := .idle } := by
  simp only [machine, step, resume]
  split <;> simp_all [Settled]

/-! ### The outcomes of a delivery -/

/-- A delivery misses, finds its request answered already, or completes it. -/
inductive Delivered (s : Tracker) (path : String) (response : UInt32) (results : Dictionary) :
    Tracker → Bool → Prop where
  | missed (hroute : s.native.route path = none) : Delivered s path response results s false
  | ignored (handle : String) (hroute : s.native.route path = some handle)
      (hdone : ¬ s.native.Pending handle) : Delivered s path response results s true
  | granted (handle : String) (it : Request) (hroute : s.native.route path = some handle)
      (hit : s.native.requests[handle]? = some it) (hpending : it.answered = false)
      (hinhibit : it.isInhibit = true) (hresponse : response = 0) :
      Delivered s path response results
        { s with
          native := s.native.markAnswered handle it
          history := .signal (.response path response)
            (.requestCompleted handle response.toInt32 results) :: s.history } true
  | finished (handle : String) (it : Request) (hroute : s.native.route path = some handle)
      (hit : s.native.requests[handle]? = some it) (hpending : it.answered = false)
      (hend : ¬ (it.isInhibit = true ∧ response = 0)) :
      Delivered s path response results
        { s with
          native := s.native.forgetRequestLocked handle
          history := .signal (.response path response)
            (.requestCompleted handle response.toInt32 results) :: s.history } true

theorem Delivered.of_deliver {path : String} {response : UInt32} {results : Dictionary}
    {t : Tracker} {delivered : Bool} (h : s.deliver path response results = (t, delivered)) :
    Delivered s path response results t delivered := by
  cases hroute : s.native.requestPaths[path]? with
  | none =>
    simp only [deliver, XdgPortalNative.deliverResponse, hroute, signalled] at h
    cases h
    exact .missed hroute
  | some handle =>
    cases hit : s.native.requests[handle]? with
    | none =>
      simp only [deliver, XdgPortalNative.deliverResponse, hroute, hit, signalled] at h
      cases h
      exact .ignored handle hroute (by simp [XdgPortalNative.Pending, hit])
    | some it =>
      cases hans : it.answered with
      | true =>
        simp only [deliver, XdgPortalNative.deliverResponse, hroute, hit, hans, signalled] at h
        cases h
        exact .ignored handle hroute (by simp [XdgPortalNative.Pending, hit, hans])
      | false =>
        by_cases hkeep : it.isInhibit = true ∧ response = 0
        · simp only [deliver, XdgPortalNative.deliverResponse, hroute, hit, hans, signalled,
            hkeep.1, hkeep.2] at h
          cases h
          rw [hkeep.2]
          exact .granted handle it hroute hit hans hkeep.1 rfl
        · have hcond : (it.isInhibit && response == 0) = false := by simpa using hkeep
          simp only [deliver, XdgPortalNative.deliverResponse, hroute, hit, hans, signalled,
            hcond] at h
          cases h
          exact .finished handle it hroute hit hans hkeep

end Tracker

end XdgPortals
