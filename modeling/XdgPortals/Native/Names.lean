import Mathlib.Data.List.Basic

/-!
# Bus names, object paths and request handles

The syntax of D-Bus object paths as GLib checks it, the unique names a bus hands out, and the
request handle a client predicts from its unique name and a token.
-/

namespace XdgPortals

/-- The characters of an element of an object path: `[A-Za-z0-9_]`. -/
def isPathChar (c : Char) : Bool := c.isAlphanum || c == '_'

/-! ### Object paths -/

/-- The loop of `g_variant_is_object_path`: `prev` is the character before. -/
def pathChars (prev : Char) : List Char → Bool
  | []      => true
  | c :: cs => (isPathChar c || (c == '/' && prev != '/')) && pathChars c cs

/-- `g_variant_is_object_path`. -/
def isObjectPath (s : String) : Bool :=
  match s.toList with
  | '/' :: cs => pathChars '/' cs && (cs.isEmpty || cs.getLast? != some '/')
  | _         => false

/-- A string of D-Bus type `o`. -/
structure ObjectPath where
  val : String
  valid : isObjectPath val = true

lemma ObjectPath.val_ne_empty (p : ObjectPath) : p.val ≠ "" := by
  intro h
  have := p.valid
  rw [h] at this
  exact absurd this (by decide)

lemma pathChars_of_forall (prev : Char) {cs : List Char} (h : ∀ c ∈ cs, isPathChar c = true) :
    pathChars prev cs = true := by
  induction cs generalizing prev with
  | nil => rfl
  | cons c cs ih =>
    rw [List.forall_mem_cons] at h
    simp [pathChars, h.1, ih c h.2]

lemma pathChars_append (prev : Char) (as bs : List Char) :
    pathChars prev (as ++ bs) = (pathChars prev as && pathChars (as.getLastD prev) bs) := by
  induction as generalizing prev with
  | nil => simp [pathChars]
  | cons a as ih =>
    simp only [List.cons_append, pathChars, ih, List.getLastD_cons, Bool.and_assoc]

/-- An object path other than the root: no trailing slash. -/
lemma isObjectPath_cons {cs : List Char} (hne : cs ≠ []) :
    isObjectPath (String.ofList ('/' :: cs)) = true ↔
      pathChars '/' cs = true ∧ cs.getLast hne ≠ '/' := by
  have hempty : cs.isEmpty = false := by simpa using hne
  simp [isObjectPath, hempty, List.getLast?_eq_getLast_of_ne_nil hne]

lemma head_of_isObjectPath {s : String} (h : isObjectPath s = true) :
    s.toList.head? = some '/' := by
  unfold isObjectPath at h
  split at h
  · next heq => rw [heq]; rfl
  · cases h

/-- An object path with one more element is an object path. -/
theorem isObjectPath_append {cs es : List Char} (hcs : cs ≠ []) (hes : es ≠ [])
    (h : isObjectPath (String.ofList ('/' :: cs)) = true)
    (he : ∀ c ∈ es, isPathChar c = true) :
    isObjectPath (String.ofList ('/' :: (cs ++ '/' :: es))) = true := by
  obtain ⟨hchars, hlast⟩ := (isObjectPath_cons hcs).mp h
  rw [isObjectPath_cons (by simp)]
  constructor
  · rw [pathChars_append, hchars, Bool.true_and, List.getLastD_eq_getLast?,
      List.getLast?_eq_getLast_of_ne_nil hcs]
    simp [pathChars, hlast, pathChars_of_forall '/' he]
  · have hmem : es.getLast hes ∈ es := List.getLast_mem hes
    rw [List.getLast_append_of_ne_nil _ (List.cons_ne_nil _ _), List.getLast_cons hes]
    intro heq
    have := he _ hmem
    rw [heq] at this
    exact absurd this (by decide)

/-! ### Unique names -/

/-- A unique bus name: `:` and elements of letters, digits and underscores, joined by dots. -/
structure UniqueName where
  elements : List String
  ne_nil : elements ≠ []
  valid : ∀ e ∈ elements, e ≠ "" ∧ ∀ c ∈ e.toList, isPathChar c = true

def UniqueName.toString (u : UniqueName) : String := ":" ++ ".".intercalate u.elements

/-- The unique name without its colon and with underscores for dots; empty when there is none. -/
def sanitizedUniqueName : Option String → String
  | none        => ""
  | some unique =>
    let name := if unique.toList.head? = some ':' then unique.toList.tail else unique.toList
    String.ofList (name.map fun c => if c = '.' then '_' else c)

lemma UniqueName.toList_sanitized (u : UniqueName) :
    (sanitizedUniqueName (some u.toString)).toList =
      (['.'].intercalate (u.elements.map String.toList)).map fun c =>
        if c = '.' then '_' else c := by
  simp [sanitizedUniqueName, UniqueName.toString, String.toList_intercalate]

/-- What separates lists or is one of them. -/
lemma mem_of_mem_intersperse {α : Type*} {sep x : α} {ls : List α} (h : x ∈ ls.intersperse sep) :
    x = sep ∨ x ∈ ls := by
  induction ls with
  | nil => simp at h
  | cons l ls ih =>
    cases ls with
    | nil => exact Or.inr (by simpa using h)
    | cons l' ls =>
      simp only [List.intersperse_cons_cons, List.mem_cons] at h ⊢
      rcases h with h | h | h
      · exact Or.inr (Or.inl h)
      · exact Or.inl h
      · rcases ih h with h | h
        · exact Or.inl h
        · exact Or.inr (Or.inr (List.mem_cons.mp h))

lemma UniqueName.sanitized_chars (u : UniqueName) :
    ∀ c ∈ (sanitizedUniqueName (some u.toString)).toList, isPathChar c = true := by
  rw [u.toList_sanitized]
  intro c hc
  obtain ⟨d, hd, rfl⟩ := List.mem_map.mp hc
  split_ifs with hdot
  · decide
  · obtain ⟨l, hl, hdl⟩ := List.mem_flatten.mp hd
    rcases mem_of_mem_intersperse hl with rfl | hl
    · exact absurd (List.mem_singleton.mp hdl) hdot
    · obtain ⟨e, he, rfl⟩ := List.mem_map.mp hl
      exact (u.valid e he).2 d hdl

lemma UniqueName.sanitized_ne_nil (u : UniqueName) :
    (sanitizedUniqueName (some u.toString)).toList ≠ [] := by
  rw [u.toList_sanitized]
  obtain ⟨elements, hne, hvalid⟩ := u
  cases elements with
  | nil => exact absurd rfl hne
  | cons e es =>
    have he : e.toList ≠ [] := by simpa using (hvalid e (by simp)).1
    cases es <;> simp [List.intercalate, he]

lemma UniqueName.sanitized_ne_empty (u : UniqueName) :
    sanitizedUniqueName (some u.toString) ≠ "" := by
  intro h
  apply u.sanitized_ne_nil
  rw [h]
  rfl

/-! ### Handles -/

/-- `vformat("godot_xdg_%d_%d", counter, random & 0x7fffffff)`. -/
def handleToken (counter random : UInt32) : String :=
  "godot_xdg_" ++ (counter.toNat).repr ++ "_" ++ (random &&& 0x7fffffff).toNat.repr

def requestPrefix : String := "/org/freedesktop/portal/desktop/request/"

/-- The handle of the request that carries the token. -/
def handleFor (unique token : String) : String :=
  requestPrefix ++ unique ++ "/" ++ token

lemma isPathChar_of_mem_repr {n : ℕ} {c : Char} (h : c ∈ n.repr.toList) : isPathChar c = true := by
  rw [Nat.toList_repr] at h
  have := Nat.isDigit_of_mem_toDigits (by decide) (by decide) h
  simp [isPathChar, Char.isAlphanum, this]

lemma isPathChar_of_all {s : String} (h : s.toList.all isPathChar = true) :
    ∀ c ∈ s.toList, isPathChar c = true :=
  List.all_eq_true.mp h

lemma handleToken_chars (counter random : UInt32) :
    ∀ c ∈ (handleToken counter random).toList, isPathChar c = true := by
  have hprefix := isPathChar_of_all (s := "godot_xdg_") (by decide)
  have hsep := isPathChar_of_all (s := "_") (by decide)
  intro c hc
  simp only [handleToken, String.toList_append, List.mem_append] at hc
  rcases hc with ((hc | hc) | hc) | hc
  · exact hprefix c hc
  · exact isPathChar_of_mem_repr hc
  · exact hsep c hc
  · exact isPathChar_of_mem_repr hc

/-- The prefix is an object path and a slash. -/
lemma exists_requestPrefix :
    ∃ base, base ≠ [] ∧ isObjectPath (String.ofList ('/' :: base)) = true ∧
      requestPrefix.toList = '/' :: (base ++ ['/']) :=
  ⟨"org/freedesktop/portal/desktop/request".toList, by decide, by decide, by decide⟩

/-- A predicted handle is an object path. -/
theorem isObjectPath_handleFor (u : UniqueName) (counter random : UInt32) :
    isObjectPath (handleFor (sanitizedUniqueName (some u.toString)) (handleToken counter random))
      = true := by
  obtain ⟨base, hne, hbase, hprefix⟩ := exists_requestPrefix
  have hunique := isObjectPath_append hne u.sanitized_ne_nil hbase u.sanitized_chars
  have htoken : (handleToken counter random).toList ≠ [] := by simp [handleToken]
  have h := isObjectPath_append (by simp) htoken hunique (handleToken_chars counter random)
  rw [← h]
  congr 1
  apply String.toList_injective
  simp [handleFor, hprefix]

end XdgPortals
