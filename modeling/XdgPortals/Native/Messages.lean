import XdgPortals.Data.Conversion
import XdgPortals.Data.Flags
import XdgPortals.Native.Properties
import XdgPortals.Native.Uri

/-!
# What goes over the bus

The method calls the client makes, with the functions of `XdgPortalNative` that make them, and the
parameters of the signals it reads. Every call is sent to the portal's bus name.
-/

namespace XdgPortals

def portalObjectPath : String := "/org/freedesktop/portal/desktop"

def ifaceProperties : String := "org.freedesktop.DBus.Properties"

def ifaceRequest : String := "org.freedesktop.portal.Request"

/-- A method call. -/
structure Message where
  path : String
  interface : String
  method : String
  parameters : GVariant

/-- A call of the portal object. -/
def portalCall (interface method : String) (parameters : GVariant) : Message :=
  { path := portalObjectPath, interface := interface, method := method, parameters := parameters }

/-- A value of type `a{sv}`. -/
def options (entries : List (String × GVariant)) : GVariant :=
  .array (.dictEntry .string .variant)
    (entries.map fun entry => .dictEntry (.string entry.1) (.variant entry.2))

/-! ### The calls -/

def inhibitMessage (parentWindow : String) (flags : UInt32) (handleToken reason : String) :
    Message :=
  portalCall ifaceInhibit "Inhibit"
    (.tuple [.string parentWindow, .uint32 flags,
      options [("handle_token", .string handleToken), ("reason", .string reason)]])

def openUriMessage (call : XdgPortalNative.OpenUriCall) : Message :=
  portalCall ifaceOpenUri "OpenURI"
    (.tuple [.string call.parentWindow, .string call.uri,
      options [("handle_token", .string call.handleToken), ("ask", .boolean call.ask)]])

def schemeSupportedMessage (scheme : String) : Message :=
  portalCall ifaceOpenUri "SchemeSupported" (.tuple [.string scheme, options []])

def gameModeMessage (method : String) (pid : Int32) : Message :=
  portalCall ifaceGameMode method (.tuple [.int32 pid])

/-- The body and the priority are left out when they are empty. -/
def addNotificationMessage (id title body priority : String) : Message :=
  let entries := [("title", GVariant.string title)]
  let entries := if body = "" then entries else entries ++ [("body", .string body)]
  let entries := if priority = "" then entries else entries ++ [("priority", .string priority)]
  portalCall ifaceNotification "AddNotification" (.tuple [.string id, options entries])

def removeNotificationMessage (id : String) : Message :=
  portalCall ifaceNotification "RemoveNotification" (.tuple [.string id])

def propertyMessage (property : String × String) : Message :=
  portalCall ifaceProperties "Get" (.tuple [.string property.1, .string property.2])

def closeMessage (path : String) : Message :=
  { path := path, interface := ifaceRequest, method := "Close", parameters := .tuple [] }

/-! ### Calls that wait for their reply -/

/-- What comes back from a call: the value of the type it asks for, or the error. -/
abbrev CallReply (α : Type) := Except (Option GError) α

namespace XdgPortalNative

/-- `call_portal_sync`: the value in the reply, the signals, and the call that is sent. -/
def callPortalSync {α : Type} (connected : Bool) (message : Message) (pContext : String)
    (reply : CallReply α) : Option α × List Signal × Option Message :=
  if !connected then (none, [], none)
  else
    match reply with
    | .ok value         => (some value, [], some message)
    | .error none       => (none, [], some message)
    | .error (some error) => (none, [.portalError pContext error.message], some message)

/-- The three GameMode methods differ in their names. -/
def gameModeCall (connected : Bool) (method : String) (pPid : Int32) (reply : CallReply Int32) :
    Int32 × List Signal × Option Message :=
  let (status, signals, message) :=
    callPortalSync connected (gameModeMessage method pPid) ("GameMode." ++ method) reply
  (status.getD (-1), signals, message)

def gameModeQueryStatus (connected : Bool) (pPid : Int32) (reply : CallReply Int32) :
    Int32 × List Signal × Option Message :=
  gameModeCall connected "QueryStatus" pPid reply

def gameModeRegister (connected : Bool) (pPid : Int32) (reply : CallReply Int32) :
    Int32 × List Signal × Option Message :=
  gameModeCall connected "RegisterGame" pPid reply

def gameModeUnregister (connected : Bool) (pPid : Int32) (reply : CallReply Int32) :
    Int32 × List Signal × Option Message :=
  gameModeCall connected "UnregisterGame" pPid reply

def addNotification (connected : Bool) (pId pTitle pBody pPriority : String)
    (reply : CallReply Unit) : Bool × List Signal × Option Message :=
  if !connected || pId.isEmpty then (false, [], none)
  else
    let (value, signals, message) :=
      callPortalSync connected (addNotificationMessage pId pTitle pBody pPriority)
        "Notification.AddNotification" reply
    (value.isSome, signals, message)

def removeNotification (connected : Bool) (pId : String) (reply : CallReply Unit) :
    Bool × List Signal × Option Message :=
  if !connected || pId.isEmpty then (false, [], none)
  else
    let (value, signals, message) :=
      callPortalSync connected (removeNotificationMessage pId) "Notification.RemoveNotification"
        reply
    (value.isSome, signals, message)

/-- `scheme_supported` with the call it makes. -/
def schemeSupportedCall (connection : Option (Option String)) (version : Int32)
    (reply : CallReply Bool) (pScheme : String) : ℤ × List Signal × Option Message :=
  if connection.isNone || !isValidScheme pScheme then (-1, [], none)
  else if toLower pScheme = "file" then (0, [], none)
  else if version.toInt < openUriSchemeSupportedMinVersion then (-1, [], none)
  else
    let (supported, signals, message) :=
      callPortalSync connection.isSome (schemeSupportedMessage pScheme) "OpenURI.SchemeSupported"
        reply
    match supported with
    | none           => (-1, signals, message)
    | some supported => (if supported then 1 else 0, signals, message)

/-! ### Calls that are answered by a request -/

/-- Only the four documented bits are accepted. The results are the handle, the signals and the
call that is sent. -/
def inhibit (n : XdgPortalNative) (connection : Option (Option String)) (random : UInt32)
    (pFlags : Int32) (pReason pParentWindow : String) :
    XdgPortalNative × String × List Signal × Option Message :=
  let validMask : Int32 := 1 ||| 2 ||| 4 ||| 8
  match connection with
  | none        => (n, "", [], none)
  | some unique =>
    if pFlags ≤ 0 || pFlags &&& ~~~validMask != 0 then
      (n, "", [.portalError "Inhibit.Inhibit" s!"Invalid inhibit flags: {pFlags}."], none)
    else
      let (n, token, handle) := n.beginRequest unique random "Inhibit.Inhibit"
      if handle = "" then (n, "", [], none)
      else (n, handle, [], some (inhibitMessage pParentWindow pFlags.toUInt32 token pReason))

/-- `open_uri` with the message of its call. -/
def openUriRequest (n : XdgPortalNative) (connection : Option (Option String)) (random : UInt32)
    (pUri : String) (pAsk : Bool) (pParentWindow : String) :
    XdgPortalNative × String × List Signal × Option Message :=
  let (n, handle, signals, call) := n.openUri connection random pUri pAsk pParentWindow
  (n, handle, signals, call.map openUriMessage)

end XdgPortalNative

/-- The calls that ask for a request in a context, under a token. -/
inductive Asks (token : String) : String → Message → Prop where
  | inhibit (parentWindow reason : String) (flags : Int32) (hflags : IsInhibitMask flags.toInt) :
      Asks token "Inhibit.Inhibit" (inhibitMessage parentWindow flags.toUInt32 token reason)
  | openUri (parentWindow uri : String) (ask : Bool) (huri : Accepted uri) :
      Asks token "OpenURI.OpenURI" (openUriMessage ⟨parentWindow, uri, token, ask⟩)

namespace XdgPortalNative

variable {n : XdgPortalNative} {random : UInt32} {flags : Int32}
  {reason parentWindow uri context : String} {ask : Bool}

/-- A request was begun, and the call that asks for it is sent. -/
def Requests (n : XdgPortalNative) (unique : Option String) (random : UInt32) (context : String)
    (result : XdgPortalNative × String × List Signal × Option Message) : Prop :=
  ∃ message, Asks (n.beginRequest unique random context).2.1 context message ∧
    result = ((n.beginRequest unique random context).1,
      (n.beginRequest unique random context).2.2, [], some message)

lemma handle_ne_empty (u : UniqueName) :
    (n.beginRequest (some u.toString) random context).2.2 ≠ "" := by
  rw [beginRequest, if_neg u.sanitized_ne_empty]
  intro hempty
  have hlist := congrArg String.toList hempty
  simp [handleFor, requestPrefix] at hlist

/-- An inhibition is refused, or asked for with a valid mask. -/
lemma inhibit_cases (u : UniqueName) :
    (∃ message, n.inhibit (some (some u.toString)) random flags reason parentWindow =
      (n, "", [.portalError "Inhibit.Inhibit" message], none)) ∨
    n.Requests (some u.toString) random "Inhibit.Inhibit"
      (n.inhibit (some (some u.toString)) random flags reason parentWindow) := by
  simp only [inhibit]
  split_ifs with hflags hempty
  · exact .inl ⟨_, rfl⟩
  · exact absurd hempty (handle_ne_empty u)
  · right
    refine ⟨_, .inhibit parentWindow reason flags ?_, rfl⟩
    exact isInhibitMask_int32.mp (by simpa using hflags)

/-- A URI is refused, or asked for to be opened. -/
lemma openUriRequest_cases (u : UniqueName) :
    (∃ message, n.openUriRequest (some (some u.toString)) random uri ask parentWindow =
      (n, "", [.portalError "OpenURI.OpenURI" message], none)) ∨
    n.Requests (some u.toString) random "OpenURI.OpenURI"
      (n.openUriRequest (some (some u.toString)) random uri ask parentWindow) := by
  by_cases huri : Accepted uri
  · right
    refine ⟨_, .openUri parentWindow uri ask huri, ?_⟩
    rw [openUriRequest, openUri_of_accepted huri]
    simp only [startOpenUri]
    rw [if_neg (handle_ne_empty u)]
    rfl
  · left
    have hrefused : ∃ message, n.openUri (some (some u.toString)) random uri ask parentWindow =
        (n, "", [.portalError "OpenURI.OpenURI" message], none) :=
      openUri_of_not_accepted huri (some u.toString)
    obtain ⟨message, heq⟩ := hrefused
    refine ⟨message, ?_⟩
    rw [openUriRequest, heq]
    rfl

end XdgPortalNative

/-! ### Incoming signals -/

/-- The parameters of a Response, if they are of its type. -/
def responseParameters : GVariant → Option (UInt32 × Dictionary)
  | .tuple [.uint32 response, .array (.dictEntry .string .variant) results] =>
    some (response, gvariantDictToDictionary (.array (.dictEntry .string .variant) results))
  | _ => none

/-- The parameters of an `ActionInvoked`, if they are of its type. -/
def actionParameters : GVariant → Option (String × String × List Variant)
  | .tuple [.string id, .string action, .array .variant parameters] =>
    match gvariantToVariant (.array .variant parameters) with
    | .array converted => some (id, action, converted)
    | _                => some (id, action, [])
  | _ => none

end XdgPortals
