import XdgPortals.Facade.Frame
import XdgPortals.Native.Uri

/-!
# The URI gates

The facade and the native backend let the same URIs through: those with a scheme that may be
opened. Schemes that may not be opened are not even asked about.
-/

namespace XdgPortals

namespace Facade

variable {β : Type} [DecidableEq β] {f g : Facade β} {d : Desktop β}
  {uri parentWindow scheme rest : String} {ask : Bool}

/-! ### Schemes -/

lemma isValidScheme_iff : isValidScheme scheme = true ↔ scheme.toList ∈ schemes := by
  apply all_zipIdx_iff_mem_schemes
    (fun char => (char.toNat ≥ 65 && char.toNat ≤ 90) || (char.toNat ≥ 97 && char.toNat ≤ 122))
    (fun char =>
      !(!((char.toNat ≥ 65 && char.toNat ≤ 90) || (char.toNat ≥ 97 && char.toNat ≤ 122)) &&
        !(char.toNat ≥ 48 && char.toNat ≤ 57) && char.toNat != 43 && char.toNat != 45 &&
        char.toNat != 46))
  · intro c
    rw [isAlpha_iff]
    simp
  · intro c
    rw [isAlpha_iff, isDigit_iff, mem_punctuation]
    simp [or_assoc]

lemma allowed_iff : Allowed scheme ↔ isValidScheme scheme = true ∧ toLower scheme ≠ "file" := by
  rw [Allowed, isValidScheme_iff]

lemma toLower_ne_empty (h : isValidScheme scheme = true) : toLower scheme ≠ "" := by
  obtain ⟨c, rest, heq, -⟩ := mem_schemes.mp (isValidScheme_iff.mp h)
  simp [toLower, heq]

/-- The URIs that may be opened, by the scheme the facade finds. -/
lemma accepted_iff_schemeOf : Accepted uri ↔ schemeOf uri ≠ "" ∧ schemeOf uri ≠ "file" := by
  rw [accepted_iff, allowed_iff]
  simp only [schemeOf]
  split_ifs with hseparator hvalid
  · simp [hseparator]
  · simp at hvalid
    simp [hvalid]
  · simp at hvalid
    simp [hvalid, toLower_ne_empty hvalid, not_le.mp hseparator]

/-! ### `open_uri` -/

lemma openUri_of_absent (h : (f.hasCapability d .openUri).1 = false) :
    f.openUri d uri ask parentWindow = ("", (f.hasCapability d .openUri).2) := by
  rw [openUri, hasCapability_eq h]
  rfl

/-- The URI is passed on to the active backend, whose answer is the answer. -/
def Forwards (d : Desktop β) (f : Facade β) (uri : String) (ask : Bool) (parentWindow : String) :
    Prop :=
  ∃ b, (f.hasCapability d .openUri).2.backend = some b ∧
    f.openUri d uri ask parentWindow =
      (d.openUri (f.hasCapability d .openUri).2.history b uri ask parentWindow,
        (f.hasCapability d .openUri).2.record (.openUri b uri ask parentWindow))

lemma forwards_of_accepted (h : (f.hasCapability d .openUri).1 = true) (hu : Accepted uri) :
    Forwards d f uri ask parentWindow := by
  have hbackend := (quiet_hasCapability (d := d) (f := f) .openUri).backend.trans backend_ready
  obtain ⟨hempty, hfile⟩ := accepted_iff_schemeOf.mp hu
  refine ⟨_, hbackend, ?_⟩
  rw [openUri, hasCapability_eq h]
  simp [hempty, hfile, ensureBackend_of_some hbackend]

/-- A URI that is refused is answered with an error, and no backend sees it. -/
lemma openUri_of_not_accepted (h : (f.hasCapability d .openUri).1 = true) (hu : ¬ Accepted uri) :
    ∃ message, f.openUri d uri ask parentWindow =
      ("", (f.hasCapability d .openUri).2.record
        (.emitted (.portalError "OpenURI.OpenURI" message))) := by
  rw [accepted_iff_schemeOf] at hu
  rw [openUri, hasCapability_eq h]
  simp only [Bool.not_true, Bool.false_eq_true, if_false]
  split_ifs with hempty hfile
  · exact ⟨_, rfl⟩
  · exact ⟨_, rfl⟩
  · exact absurd ⟨hempty, hfile⟩ hu

/-- The URIs that are passed on are those that may be opened. -/
lemma forwards_iff : Forwards d f uri ask parentWindow ↔
    (f.hasCapability d .openUri).1 = true ∧ Accepted uri := by
  constructor
  · rintro ⟨b, hbackend, heq⟩
    cases h : (f.hasCapability d .openUri).1 with
    | false =>
      rw [openUri_of_absent h] at heq
      have hhistory := congrArg (fun r => r.2.history.length) heq
      simp at hhistory
    | true =>
      refine ⟨rfl, ?_⟩
      by_contra hu
      obtain ⟨message, hrefused⟩ := openUri_of_not_accepted h hu
      rw [hrefused] at heq
      have hhistory := congrArg (fun r => r.2.history) heq
      simp at hhistory
  · rintro ⟨h, hu⟩
    exact forwards_of_accepted h hu

/-! ### `is_scheme_supported` -/

lemma isSchemeSupported_of_absent (h : (f.hasCapability d .openUri).1 = false) :
    f.isSchemeSupported d scheme = (none, (f.hasCapability d .openUri).2) := by
  rw [isSchemeSupported, hasCapability_eq h]
  rfl

/-- No backend is asked about a scheme that may not be opened. -/
lemma isSchemeSupported_of_not_allowed (h : ¬ Allowed scheme) : ∃ answer, answer ≠ some true ∧
    f.isSchemeSupported d scheme = (answer, (f.hasCapability d .openUri).2) := by
  rw [allowed_iff] at h
  cases hpresent : (f.hasCapability d .openUri).1 with
  | false => exact ⟨none, by simp, isSchemeSupported_of_absent hpresent⟩
  | true =>
    rw [isSchemeSupported, hasCapability_eq hpresent]
    by_cases hvalid : isValidScheme scheme = true
    · have hfile : toLower scheme = "file" := not_not.mp (not_and.mp h hvalid)
      exact ⟨some false, by simp, by simp [hvalid, hfile]⟩
    · exact ⟨none, by simp, by simp [hvalid]⟩

/-- A scheme that is supported may be opened. -/
lemma allowed_of_isSchemeSupported (h : (f.isSchemeSupported d scheme).1 = some true) :
    (f.hasCapability d .openUri).1 = true ∧ Allowed scheme := by
  constructor
  · by_contra habsent
    rw [isSchemeSupported_of_absent (eq_false_of_ne_true habsent)] at h
    cases h
  · by_contra hrefused
    obtain ⟨answer, hanswer, heq⟩ := isSchemeSupported_of_not_allowed (f := f) (d := d) hrefused
    rw [heq] at h
    exact hanswer h

/-! ### The gates -/

/-- The gates agree: a URI is passed on by the facade and let through by the native backend if and
only if it has a scheme that may be opened. So are the URIs with a scheme that is supported, and no
backend is asked about any other scheme. -/
theorem uri_gates_agree (d : Desktop β) (f : Facade β) (n : XdgPortalNative)
    (connection : Option (Option String)) (random : UInt32) (uri : String) (ask : Bool)
    (parentWindow : String) :
    (Forwards d f uri ask parentWindow ↔
      (f.hasCapability d .openUri).1 = true ∧ Accepted uri) ∧
    (n.LetsThrough connection random uri ask parentWindow ↔
      connection.isSome = true ∧ Accepted uri) ∧
    (∀ scheme rest, (f.isSchemeSupported d scheme).1 = some true →
      Forwards d f (scheme ++ ":" ++ rest) ask parentWindow ∧
      ∀ g, (g.hasCapability d .openUri).1 = true →
        Forwards d g (scheme ++ ":" ++ rest) ask parentWindow) ∧
    (∀ scheme, ¬ Allowed scheme →
      (f.isSchemeSupported d scheme).2 = (f.hasCapability d .openUri).2) := by
  refine ⟨forwards_iff, XdgPortalNative.letsThrough_iff, ?_, ?_⟩
  · intro scheme rest hsupported
    obtain ⟨hpresent, hallowed⟩ := allowed_of_isSchemeSupported hsupported
    have haccepted : Accepted (scheme ++ ":" ++ rest) := ⟨scheme, rest, rfl, hallowed⟩
    exact ⟨forwards_of_accepted hpresent haccepted,
      fun g hg => forwards_of_accepted hg haccepted⟩
  · intro scheme hrefused
    obtain ⟨answer, -, heq⟩ := isSchemeSupported_of_not_allowed (f := f) (d := d) hrefused
    rw [heq]

/-- A scheme is supported, so its URIs are passed on and let through; another one is refused. -/
theorem uri_gates_agree_https :
    Forwards mockDesktop {} ("HTTPS" ++ ":" ++ "//example.org") false "" ∧
    XdgPortalNative.LetsThrough {} (some (some ":1.5")) 7 ("HTTPS" ++ ":" ++ "//example.org") false
      "" ∧
    (Facade.isSchemeSupported mockDesktop {} "FILE").2 =
      (Facade.hasCapability mockDesktop {} .openUri).2 := by
  have hgates := uri_gates_agree mockDesktop {} {} (some (some ":1.5")) 7
    ("HTTPS" ++ ":" ++ "//example.org") false ""
  have hforwards := (hgates.2.2.1 "HTTPS" "//example.org" (by decide)).1
  refine ⟨hforwards, hgates.2.1.mpr ⟨rfl, (hgates.1.mp hforwards).2⟩, hgates.2.2.2 "FILE" ?_⟩
  intro hallowed
  exact hallowed.2 (by decide)

end Facade

end XdgPortals
