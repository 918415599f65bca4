import XdgPortals.Native.Basic
import XdgPortals.Native.Names

/-!
# The request tracker

The critical sections of the functions that start, answer, fail and close interactive requests.
-/

namespace XdgPortals

namespace XdgPortalNative

/-! ### Starting a request -/

/-- Enter a request into both maps, under the handle it was predicted to live at. -/
def register (n : XdgPortalNative) (handle context : String) : XdgPortalNative :=
  let request : Request :=
    { path := handle, context := context, isInhibit := context == "Inhibit.Inhibit" }
  { n with
      requests := n.requests.insert handle request
      requestPaths := n.requestPaths.insert handle handle
      callsInFlight := n.callsInFlight + 1 }

/-- Predict the handle of the next request and register it. The results are the token and the
handle, both empty on a connection without a unique name. -/
def beginRequest (n : XdgPortalNative) (connection : Option String) (random : UInt32)
    (pContext : String) : XdgPortalNative × String × String :=
  let unique := sanitizedUniqueName connection
  if unique = "" then (n, "", "")
  else
    let counter := n.handleCounter + 1
    let token := handleToken counter random
    let handle := handleFor unique token
    ({ n with handleCounter := counter }.register handle pContext, token, handle)

/-- Drop a request from both maps. -/
def forgetRequestLocked (n : XdgPortalNative) (pHandle : String) : XdgPortalNative :=
  match n.requests[pHandle]? with
  | none    => n
  | some it =>
    { n with
        requestPaths := (n.requestPaths.erase it.path).erase pHandle
        requests := n.requests.erase pHandle }

/-! ### The reply to a call -/

/-- One call less in flight. -/
def callReturned (n : XdgPortalNative) : XdgPortalNative :=
  { n with callsInFlight := n.callsInFlight - 1 }

/-- `if (calls_in_flight == 0) unclaimed_responses.clear()`. -/
def dropHoldWhenIdle (n : XdgPortalNative) : XdgPortalNative :=
  if n.callsInFlight = 0 then { n with unclaimedResponses := [] } else n

/-- Whether the error is `G_IO_ERROR_CANCELLED`. -/
def isCancelled : Option GError → Bool
  | none   => false
  | some e => e.code == .ioCancelled

/-- The call itself failed: the request is dropped and completed locally. -/
def onCallFailed (n : XdgPortalNative) (pHandle : String) (pError : Option GError) :
    XdgPortalNative × List Signal :=
  let owned := n.callReturned.requests[pHandle]?
  let n := (n.callReturned.forgetRequestLocked pHandle).dropHoldWhenIdle
  match owned with
  | none    => (n, [])
  | some it =>
    if isCancelled pError then (n, [])
    else
      let message := match pError with
        | some e => e.message
        | none   => "The portal call failed."
      (n, [.portalError it.context message, .requestCompleted pHandle responseOther.toInt32 []])

/-- Record the path the portal answered with, then drop the predicted one. -/
def recordPath (n : XdgPortalNative) (pHandle pActualPath : String) : XdgPortalNative :=
  match n.requests[pHandle]? with
  | none    => n
  | some it =>
    if pActualPath ≠ "" ∧ pActualPath ≠ it.path then
      { n with
          requestPaths := (n.requestPaths.insert pActualPath pHandle).erase it.path
          requests := n.requests.insert pHandle { it with path := pActualPath } }
    else n

/-- Take the first held Response on the path, if there is one. -/
def claimResponse (n : XdgPortalNative) (pActualPath : String) :
    XdgPortalNative × Option UnclaimedResponse :=
  ({ n with unclaimedResponses := n.unclaimedResponses.eraseP (·.path == pActualPath) },
    n.unclaimedResponses.find? (·.path == pActualPath))

/-- The portal accepted the call and named the request's path. A Response on that path that
overtook the reply is returned, to be delivered next. -/
def onCallStarted (n : XdgPortalNative) (pHandle pActualPath : String) :
    XdgPortalNative × Option UnclaimedResponse :=
  let (n, early) := (n.callReturned.recordPath pHandle pActualPath).claimResponse pActualPath
  (n.dropHoldWhenIdle, early)

/-! ### Responses -/

/-- Keep an answered request, with the path `close_request` needs. -/
def markAnswered (n : XdgPortalNative) (handle : String) (it : Request) : XdgPortalNative :=
  { n with requests := n.requests.insert handle { it with answered := true } }

/-- Route a Response to its request and complete it. The flag is false when no request claims the
path. -/
def deliverResponse (n : XdgPortalNative) (pPath : String) (pResponse : UInt32)
    (pResults : Dictionary) : XdgPortalNative × Bool × List Signal :=
  match n.requestPaths[pPath]? with
  | none        => (n, false, [])
  | some handle =>
    match n.requests[handle]? with
    | none    => (n, true, [])
    | some it =>
      if it.answered then (n, true, [])
      else
        -- an inhibition lasts until the request is closed
        let n := if it.isInhibit && pResponse == 0 then n.markAnswered handle it
          else n.forgetRequestLocked handle
        (n, true, [.requestCompleted handle pResponse.toInt32 pResults])

/-- The second critical section of `on_request_response`: hold a Response nobody claims while one
of our calls could still name its path. -/
def holdResponse (n : XdgPortalNative) (u : UnclaimedResponse) : XdgPortalNative :=
  if 0 < n.callsInFlight then
    { n with unclaimedResponses := pushBounded maxUnclaimedResponses n.unclaimedResponses u }
  else n

/-! ### Losing the portal -/

/-- The requests still waiting for a Response, in the order of their handles. -/
def pendingRequests (n : XdgPortalNative) : List (String × Request) :=
  n.requests.toList.filter fun entry => !entry.2.answered

/-- Forget every request and every held Response. -/
def clearRequests (n : XdgPortalNative) : XdgPortalNative :=
  { n with requests := ∅, requestPaths := ∅, unclaimedResponses := [] }

/-- Complete every request still waiting for a Response, and drop the answered ones too. -/
def failPendingRequests (n : XdgPortalNative) (pReason : String) :
    XdgPortalNative × List Signal :=
  (n.clearRequests,
    n.pendingRequests.flatMap fun entry =>
      [.portalError entry.2.context pReason,
        .requestCompleted entry.1 responseOther.toInt32 []])

/-! ### Closing a request -/

/-- Where `close_request` sends `Request.Close`; `none` for a handle it rejects. -/
def closeRequestPath (n : XdgPortalNative) (pHandle : String) : Option String :=
  if pHandle.toList.head? ≠ some '/' ∨ ¬ isObjectPath pHandle then none
  else
    match n.requests[pHandle]? with
    | some it => some it.path
    | none    => some pHandle

/-- The last critical section of `close_request`, after the portal confirmed the Close. -/
def closeRequestConfirmed (n : XdgPortalNative) (pHandle : String) : XdgPortalNative :=
  n.forgetRequestLocked pHandle

end XdgPortalNative

end XdgPortals
