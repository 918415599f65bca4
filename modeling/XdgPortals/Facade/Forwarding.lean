import XdgPortals.Facade.Answers
import XdgPortals.Native.Messages

/-!
# What the node passes on

The extension checks again what the node has checked, with its own code and on narrower numbers.
It sends everything that the node passes on in a run, with the values it was given.
-/

namespace XdgPortals

/-! ### The checks of the extension -/

namespace XdgPortalNative

variable {n : XdgPortalNative} {random : UInt32} {context uri reason parentWindow id title body
  priority scheme : String} {ask : Bool} {message : String → Message}
  {result : XdgPortalNative × String × List Signal × Option Message}

/-- A request is started without a complaint, and its call is sent under its token. -/
def Starts (n : XdgPortalNative) (u : UniqueName) (random : UInt32) (context : String)
    (message : String → Message)
    (result : XdgPortalNative × String × List Signal × Option Message) : Prop :=
  (n.beginRequest (some u.toString) random context).2.2 ≠ "" ∧
    result = ((n.beginRequest (some u.toString) random context).1,
      (n.beginRequest (some u.toString) random context).2.2, [],
      some (message (n.beginRequest (some u.toString) random context).2.1))

/-- A mask the node has checked as a 64-bit number. -/
lemma starts_inhibit {flags : Int64} (h : IsInhibitMask flags.toInt) (u : UniqueName) :
    ∃ mask : UInt32, (mask.toNat : ℤ) = flags.toInt ∧
      n.Starts u random "Inhibit.Inhibit" (inhibitMessage parentWindow mask · reason)
        (n.inhibit (some (some u.toString)) random flags.toInt32 reason parentWindow) := by
  have hnarrowed := toInt_toInt32_of_isInhibitMask h
  have hmask : IsInhibitMask flags.toInt32.toInt := by rwa [hnarrowed]
  refine ⟨flags.toInt32.toUInt32, ?_, handle_ne_empty u, ?_⟩
  · rw [toNat_toUInt32_of_isInhibitMask hmask, hnarrowed]
  · simp only [inhibit, isInhibitMask_int32.mpr hmask, Bool.false_eq_true, if_false]
    rw [if_neg (handle_ne_empty u)]

lemma starts_openUriRequest (h : Accepted uri) (u : UniqueName) :
    n.Starts u random "OpenURI.OpenURI"
      (fun token => openUriMessage ⟨parentWindow, uri, token, ask⟩)
      (n.openUriRequest (some (some u.toString)) random uri ask parentWindow) := by
  refine ⟨handle_ne_empty u, ?_⟩
  rw [openUriRequest, openUri_of_accepted h]
  simp only [startOpenUri]
  rw [if_neg (handle_ne_empty u)]
  rfl

lemma message_schemeSupportedCall (h : Allowed scheme) (unique : Option String) {version : Int32}
    (hversion : openUriSchemeSupportedMinVersion ≤ version.toInt) (reply : CallReply Bool) :
    (schemeSupportedCall (some unique) version reply scheme).2.2 =
      some (schemeSupportedMessage scheme) := by
  obtain ⟨hvalid, hfile⟩ := allowed_iff.mp h
  simp only [schemeSupportedCall, hvalid, if_neg hfile, if_neg (not_lt.mpr hversion)]
  rcases reply with (_ | error) | supported <;> rfl

lemma message_addNotification (h : id ≠ "") (reply : CallReply Unit) :
    (addNotification true id title body priority reply).2.2 =
      some (addNotificationMessage id title body priority) := by
  simp only [addNotification, Bool.not_true, Bool.false_or, String.isEmpty_iff, if_neg h]
  rcases reply with (_ | error) | value <;> rfl

lemma message_removeNotification (h : id ≠ "") (reply : CallReply Unit) :
    (removeNotification true id reply).2.2 = some (removeNotificationMessage id) := by
  simp only [removeNotification, Bool.not_true, Bool.false_or, String.isEmpty_iff, if_neg h]
  rcases reply with (_ | error) | value <;> rfl

end XdgPortalNative

/-! ### What is sent -/

namespace Facade

open XdgPortalNative

/-- A connected extension sends the call, with its values, whatever its requests are. -/
def Call.IsSent : Call → Prop
  | .inhibit flags reason parentWindow =>
    ∀ (n : XdgPortalNative) (u : UniqueName) (random : UInt32),
      ∃ mask : UInt32, (mask.toNat : ℤ) = flags.toInt ∧
      n.Starts u random "Inhibit.Inhibit" (inhibitMessage parentWindow mask · reason)
        (n.inhibit (some (some u.toString)) random flags.toInt32 reason parentWindow)
  | .addNotification id title body priority => ∀ reply : CallReply Unit,
    (XdgPortalNative.addNotification true id title body priority reply).2.2 =
      some (addNotificationMessage id title body priority)
  | .removeNotification id => ∀ reply : CallReply Unit,
    (XdgPortalNative.removeNotification true id reply).2.2 = some (removeNotificationMessage id)
  | _ => True

/-- The same for the calls that the history records. The extension reads the version of the
interface again. -/
def Event.IsSent {β : Type} : Event β → Prop
  | .openUri _ uri ask parentWindow =>
    ∀ (n : XdgPortalNative) (u : UniqueName) (random : UInt32),
      n.Starts u random "OpenURI.OpenURI"
        (fun token => openUriMessage ⟨parentWindow, uri, token, ask⟩)
        (n.openUriRequest (some (some u.toString)) random uri ask parentWindow)
  | .schemeSupported _ scheme =>
    ∀ (unique : Option String) (version : Int32) (reply : CallReply Bool),
      openUriSchemeSupportedMinVersion ≤ version.toInt →
        (schemeSupportedCall (some unique) version reply scheme).2.2 =
          some (schemeSupportedMessage scheme)
  | _ => True

variable {β : Type}

lemma Exchange.Fits.isSent {x : Exchange β} (h : x.Fits) : x.call.IsSent := by
  obtain ⟨b, call, answer, earlier⟩ := x
  cases call with
  | inhibit flags reason parentWindow => exact fun n u random => starts_inhibit h.2 u
  | addNotification id title body priority => exact message_addNotification h.2.1
  | removeNotification id => exact message_removeNotification h.2
  | _ => trivial

lemma Event.Fits.isSent [DecidableEq β] {d : Desktop β} {e : Event β} {earlier : List (Event β)}
    (h : e.Fits d earlier) : e.IsSent := by
  cases e with
  | openUri b uri ask parentWindow => exact fun n u random => starts_openUriRequest h.2 u
  | schemeSupported b scheme =>
    exact fun unique version reply hversion =>
      message_schemeSupportedCall h.2.2.1 unique hversion reply
  | _ => trivial

end Facade

open Facade

namespace Node

variable {β : Type} [DecidableEq β] {d : Services β} {n : Node β}

/-- Whatever the node passes on in a run, a connected extension sends to the portal with the
values it was given: it never refuses what the node has let through. -/
theorem forwarded_sent (hn : (machine d).Reachable n) :
    (∀ e ∈ n.facade.history, e.IsSent) ∧ ∀ x ∈ n.exchanges, x.call.IsSent := by
  have hsafe := safe_of_reachable hn
  constructor
  · intro e he
    obtain ⟨later, earlier, heq⟩ := List.append_of_mem he
    exact ((Justified.iff_forall _).mp hsafe.facade.fits later e earlier heq).isSent
  · exact fun x hx => (hsafe.exchanges x hx).1.isSent

/-- An inhibition and a notification are passed on. -/
theorem forwarded_sent_served : ∃ n, (machine mockServices).exec {} servedRun = some n ∧
    (∃ x ∈ n.exchanges, x.call = .inhibit 8 "Cutscene" "") ∧
    (∃ x ∈ n.exchanges, x.call = .addNotification "id" "Title" "" "urgent") ∧
    (∀ e ∈ n.facade.history, e.IsSent) ∧ ∀ x ∈ n.exchanges, x.call.IsSent := by
  obtain ⟨n, hrun, hinhibit, hnotification⟩ := (machine mockServices).exists_exec_of_any {}
    servedRun (P := fun n => (∃ x ∈ n.exchanges, x.call = .inhibit 8 "Cutscene" "") ∧
      ∃ x ∈ n.exchanges, x.call = .addNotification "id" "Title" "" "urgent") (by decide +kernel)
  exact ⟨n, hrun, hinhibit, hnotification, forwarded_sent (Machine.reachable_of_exec hrun)⟩

end Node

end XdgPortals
