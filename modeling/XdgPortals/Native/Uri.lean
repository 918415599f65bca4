import XdgPortals.Data.Schemes
import XdgPortals.Native.Requests

/-!
# Opening URIs

The functions of `XdgPortalNative` that take a URI or a scheme, with the checks they make before
anything is sent to the portal.
-/

namespace XdgPortals

namespace XdgPortalNative

/-- The minimum version of the OpenURI interface exposing `SchemeSupported`. -/
def openUriSchemeSupportedMinVersion : ℤ := 5

/-- The arguments of an `OpenURI` call. -/
structure OpenUriCall where
  parentWindow : String
  uri : String
  handleToken : String
  ask : Bool

def isValidScheme (pScheme : String) : Bool :=
  if pScheme.isEmpty then false
  else
    pScheme.toList.zipIdx.all fun (c, i) =>
      let alpha := (c ≥ 'a' && c ≤ 'z') || (c ≥ 'A' && c ≤ 'Z')
      let digit := c ≥ '0' && c ≤ '9'
      if i == 0 then alpha
      else !(!alpha && !digit && c != '+' && c != '-' && c != '.')

/-- What follows the checks of `open_uri`: the request, and the call under its token. -/
def startOpenUri (n : XdgPortalNative) (unique : Option String) (random : UInt32) (pUri : String)
    (pAsk : Bool) (pParentWindow : String) :
    XdgPortalNative × String × List Signal × Option OpenUriCall :=
  let (n, token, handle) := n.beginRequest unique random "OpenURI.OpenURI"
  if handle = "" then (n, "", [], none)
  else
    (n, handle, [],
      some { parentWindow := pParentWindow, uri := pUri, handleToken := token, ask := pAsk })

/-- The connection is `none` when there is no bus, and otherwise has a unique name or not. The
results are the handle, the signals and the call that is sent. -/
def openUri (n : XdgPortalNative) (connection : Option (Option String)) (random : UInt32)
    (pUri : String) (pAsk : Bool) (pParentWindow : String) :
    XdgPortalNative × String × List Signal × Option OpenUriCall :=
  match connection with
  | none        => (n, "", [], none)
  | some unique =>
    let separator := find pUri ':'
    if separator ≤ 0 then
      (n, "", [.portalError "OpenURI.OpenURI" "The URI has no scheme."], none)
    else
      let scheme := substr pUri 0 separator.toNat
      if !isValidScheme scheme then
        (n, "", [.portalError "OpenURI.OpenURI" s!"Malformed URI scheme: {scheme}."], none)
      -- `file:` would hand out a local path descriptor
      else if toLower scheme = "file" then
        (n, "", [.portalError "OpenURI.OpenURI" "The file: scheme is not allowed."], none)
      else n.startOpenUri unique random pUri pAsk pParentWindow

/-! ### The checks -/

variable {n : XdgPortalNative} {connection : Option (Option String)} {random : UInt32}
  {uri parentWindow scheme : String} {ask : Bool}

lemma le_iff_toNat {c d : Char} : c ≤ d ↔ c.toNat ≤ d.toNat :=
  Char.le_def.trans UInt32.le_iff_toNat_le

lemma alpha_eq (c : Char) :
    ((c ≥ 'a' && c ≤ 'z') || (c ≥ 'A' && c ≤ 'Z')) = c.isAlpha := by
  apply Bool.eq_iff_iff.mpr
  rw [isAlpha_iff, or_comm]
  simp [le_iff_toNat]

lemma digit_eq (c : Char) : (c ≥ '0' && c ≤ '9' : Bool) = c.isDigit := by
  apply Bool.eq_iff_iff.mpr
  rw [isDigit_iff]
  simp [le_iff_toNat]

lemma isValidScheme_iff : isValidScheme scheme = true ↔ scheme.toList ∈ schemes := by
  apply all_zipIdx_iff_mem_schemes
    (fun c => (c ≥ 'a' && c ≤ 'z') || (c ≥ 'A' && c ≤ 'Z'))
    (fun c => !(!((c ≥ 'a' && c ≤ 'z') || (c ≥ 'A' && c ≤ 'Z')) && !(c ≥ '0' && c ≤ '9') &&
      c != '+' && c != '-' && c != '.'))
  · intro c
    rw [alpha_eq]
  · intro c
    rw [alpha_eq, digit_eq]
    simp [or_assoc]

lemma allowed_iff : Allowed scheme ↔ isValidScheme scheme = true ∧ toLower scheme ≠ "file" := by
  rw [Allowed, isValidScheme_iff]

lemma openUri_of_accepted (h : Accepted uri) (unique : Option String) :
    n.openUri (some unique) random uri ask parentWindow =
      n.startOpenUri unique random uri ask parentWindow := by
  obtain ⟨hpos, hallowed⟩ := accepted_iff.mp h
  obtain ⟨hvalid, hfile⟩ := allowed_iff.mp hallowed
  simp [openUri, hvalid, hfile, not_le.mpr hpos]

/-- A URI that is refused is answered with an error, and changes nothing. -/
lemma openUri_of_not_accepted (h : ¬ Accepted uri) (unique : Option String) :
    ∃ message, n.openUri (some unique) random uri ask parentWindow =
      (n, "", [.portalError "OpenURI.OpenURI" message], none) := by
  rw [accepted_iff, allowed_iff] at h
  simp only [openUri]
  split_ifs with hseparator hvalid hfile
  · exact ⟨_, rfl⟩
  · exact ⟨_, rfl⟩
  · exact ⟨_, rfl⟩
  · exact absurd ⟨not_le.mp hseparator, by simpa using hvalid, hfile⟩ h

/-- A URI is let through when `open_uri` does what follows its checks. -/
def LetsThrough (n : XdgPortalNative) (connection : Option (Option String)) (random : UInt32)
    (uri : String) (ask : Bool) (parentWindow : String) : Prop :=
  ∃ unique, connection = some unique ∧
    n.openUri connection random uri ask parentWindow =
      n.startOpenUri unique random uri ask parentWindow

/-- What follows the checks emits nothing. -/
lemma signals_startOpenUri (unique : Option String) :
    (n.startOpenUri unique random uri ask parentWindow).2.2.1 = [] := by
  rw [startOpenUri]
  obtain ⟨n', token, handle⟩ := n.beginRequest unique random "OpenURI.OpenURI"
  show (if handle = "" then _ else _ : _ × _ × _ × _).2.2.1 = []
  split_ifs <;> rfl

/-- The URIs that are let through are those that may be opened. -/
lemma letsThrough_iff :
    n.LetsThrough connection random uri ask parentWindow ↔
      connection.isSome = true ∧ Accepted uri := by
  constructor
  · rintro ⟨unique, rfl, heq⟩
    refine ⟨rfl, ?_⟩
    by_contra hrefused
    have hsignals : (n.openUri (some unique) random uri ask parentWindow).2.2.1 = [] := by
      rw [heq]
      exact signals_startOpenUri unique
    obtain ⟨message, herror⟩ := openUri_of_not_accepted hrefused unique
    rw [herror] at hsignals
    cases hsignals
  · rintro ⟨hsome, h⟩
    obtain ⟨unique, rfl⟩ := Option.isSome_iff_exists.mp hsome
    exact ⟨unique, rfl, openUri_of_accepted h unique⟩

end XdgPortalNative

end XdgPortals
