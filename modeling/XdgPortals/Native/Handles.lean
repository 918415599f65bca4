import Mathlib.Algebra.Group.Nat.Defs
import Std.Data.String.ToNat
import XdgPortals.Native.Requests

/-!
# The handles of successive requests

A token joins two numbers with an underscore. The first one is the counter, so no two of fewer
than 2^32 handles are equal, whatever is drawn for the second.
-/

namespace XdgPortals

/-! ### Tokens -/

lemma not_mem_repr {c : Char} (hc : c.isDigit = false) (n : ℕ) : c ∉ n.repr.toList := by
  intro hmem
  rw [Nat.toList_repr] at hmem
  rw [Nat.isDigit_of_mem_toDigits (by decide) (by decide) hmem] at hc
  cases hc

lemma toList_handleToken (counter random : UInt32) : (handleToken counter random).toList =
    "godot_xdg_".toList ++
      (counter.toNat.repr.toList ++ '_' :: (random &&& 0x7fffffff).toNat.repr.toList) := by
  simp [handleToken]

/-- The counter can be read off the token. -/
theorem handleToken_counter {c c' r r' : UInt32} (h : handleToken c r = handleToken c' r') :
    c = c' := by
  have hlists := congrArg String.toList h
  rw [toList_handleToken, toList_handleToken] at hlists
  have hsplit := (List.append_cons_inj_of_notMem (not_mem_repr (by decide) _)
    (not_mem_repr (by decide) _)).mp (List.append_cancel_left hlists)
  exact UInt32.toNat.inj (Nat.repr_injective (String.toList_injective hsplit.1))

lemma handleFor_token {unique t t' : String} (h : handleFor unique t = handleFor unique t') :
    t = t' := by
  have hlists := congrArg String.toList h
  simp only [handleFor, String.toList_append] at hlists
  exact String.toList_injective (List.append_cancel_left hlists)

lemma handleToken_ne_empty (counter random : UInt32) : handleToken counter random ≠ "" := by
  intro h
  have hlist := congrArg String.toList h
  rw [toList_handleToken] at hlist
  simp at hlist

/-- The last element of a path. -/
def lastElement (path : String) : String :=
  String.ofList (path.toList.reverse.takeWhile (· != '/')).reverse

lemma lastElement_handleFor {unique token : String}
    (htoken : ∀ c ∈ token.toList, isPathChar c = true) :
    lastElement (handleFor unique token) = token := by
  have hslash : ∀ c ∈ token.toList.reverse, (c != '/') = true := by
    intro c hc
    rw [bne_iff_ne]
    rintro rfl
    exact absurd (htoken _ (List.mem_reverse.mp hc)) (by decide)
  have hlist : (handleFor unique token).toList.reverse =
      token.toList.reverse ++ '/' :: (requestPrefix.toList ++ unique.toList).reverse := by
    simp [handleFor]
  rw [lastElement, hlist, List.takeWhile_append_of_pos hslash]
  simp

namespace XdgPortalNative

/-! ### Sequences of calls -/

/-- The tokens and handles of successive calls of `begin_request`, with what each draws. -/
def beginRequests (n : XdgPortalNative) (connection : Option String) :
    List (UInt32 × String) → List (String × String)
  | [] => []
  | (random, context) :: calls =>
    let (n, token, handle) := n.beginRequest connection random context
    (token, handle) :: n.beginRequests connection calls

variable {u : UniqueName} {n : XdgPortalNative} {calls : List (UInt32 × String)}

lemma beginRequest_eq (u : UniqueName) (n : XdgPortalNative) (random : UInt32) (context : String) :
    n.beginRequest (some u.toString) random context =
      let token := handleToken (n.handleCounter + 1) random
      let handle := handleFor (sanitizedUniqueName (some u.toString)) token
      ({ n with handleCounter := n.handleCounter + 1 }.register handle context, token, handle) := by
  rw [beginRequest, if_neg u.sanitized_ne_empty]

/-- The calls depend on the counter only. -/
lemma beginRequests_congr {m : XdgPortalNative} (h : n.handleCounter = m.handleCounter) :
    n.beginRequests (some u.toString) calls = m.beginRequests (some u.toString) calls := by
  induction calls generalizing n m with
  | nil => rfl
  | cons call calls ih =>
    simp only [beginRequests, beginRequest_eq, h]
    rw [ih]
    rfl

lemma beginRequests_cons (random : UInt32) (context : String) :
    n.beginRequests (some u.toString) ((random, context) :: calls) =
      let token := handleToken (n.handleCounter + 1) random
      (token, handleFor (sanitizedUniqueName (some u.toString)) token) ::
        { n with handleCounter := n.handleCounter + 1 }.beginRequests (some u.toString) calls := by
  simp only [beginRequests, beginRequest_eq]
  rw [beginRequests_congr]
  rfl

lemma length_beginRequests : (n.beginRequests (some u.toString) calls).length = calls.length := by
  induction calls generalizing n with
  | nil => rfl
  | cons call calls ih => rw [beginRequests_cons, List.length_cons, ih, List.length_cons]

/-- Each result carries the counter's value at its call. -/
lemma mem_beginRequests {token handle : String}
    (hmem : (token, handle) ∈ n.beginRequests (some u.toString) calls) :
    ∃ i random, i < calls.length ∧
      token = handleToken (n.handleCounter + 1 + UInt32.ofNat i) random ∧
      handle = handleFor (sanitizedUniqueName (some u.toString)) token := by
  induction calls generalizing n with
  | nil => cases hmem
  | cons call calls ih =>
    obtain ⟨random, context⟩ := call
    rw [beginRequests_cons] at hmem
    rcases List.mem_cons.mp hmem with heq | hmem
    · cases heq
      exact ⟨0, random, Nat.succ_pos _, by simp, rfl⟩
    · obtain ⟨i, random', hi, htoken, hhandle⟩ := ih hmem
      refine ⟨i + 1, random', Nat.succ_lt_succ hi, ?_, hhandle⟩
      rw [htoken, UInt32.ofNat_add, UInt32.add_comm (UInt32.ofNat i), ← UInt32.add_assoc]
      rfl

/-- The handles of fewer than 2^32 calls are distinct. -/
theorem nodup_beginRequests (hfew : calls.length < 2 ^ 32) :
    ((n.beginRequests (some u.toString) calls).map Prod.snd).Nodup := by
  induction calls generalizing n with
  | nil => exact List.nodup_nil
  | cons call calls ih =>
    obtain ⟨random, context⟩ := call
    rw [List.length_cons] at hfew
    rw [beginRequests_cons, List.map_cons, List.nodup_cons]
    refine ⟨?_, ih (by omega)⟩
    intro hmem
    obtain ⟨⟨token, handle⟩, hresult, heq⟩ := List.mem_map.mp hmem
    obtain ⟨i, random', hi, htoken, hhandle⟩ := mem_beginRequests hresult
    -- a later call would have come back to the same counter
    have hcounter :=
      handleToken_counter (htoken.symm.trans (handleFor_token (hhandle.symm.trans heq)))
    have hnat := congrArg UInt32.toNat hcounter
    simp only [UInt32.toNat_add, UInt32.toNat_ofNat', UInt32.toNat_one] at hnat
    omega

/-- A predicted handle passes the local check of `close_request`. -/
lemma closeRequestPath_handleFor (m : XdgPortalNative) (u : UniqueName) (counter random : UInt32) :
    m.closeRequestPath
      (handleFor (sanitizedUniqueName (some u.toString)) (handleToken counter random)) ≠ none := by
  have hvalid := isObjectPath_handleFor u counter random
  rw [closeRequestPath, if_neg (by simp [head_of_isObjectPath hvalid, hvalid])]
  split <;> exact Option.some_ne_none _

/-- Each result is a token of path characters and an object path that ends in it, which
`close_request` accepts. -/
theorem beginRequests_valid {token handle : String}
    (hmem : (token, handle) ∈ n.beginRequests (some u.toString) calls) :
    isObjectPath handle = true ∧ lastElement handle = token ∧ token ≠ "" ∧
      (∀ c ∈ token.toList, isPathChar c = true) ∧
      ∀ m : XdgPortalNative, m.closeRequestPath handle ≠ none := by
  obtain ⟨i, random, -, rfl, rfl⟩ := mem_beginRequests hmem
  have hchars := handleToken_chars (n.handleCounter + 1 + UInt32.ofNat i) random
  refine ⟨isObjectPath_handleFor u _ _, lastElement_handleFor hchars, ?_, hchars, fun m => ?_⟩
  · exact handleToken_ne_empty _ _
  · exact closeRequestPath_handleFor m u _ _

end XdgPortalNative

end XdgPortals
