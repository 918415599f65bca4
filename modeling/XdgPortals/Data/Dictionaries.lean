import XdgPortals.Data.Basics

/-!
# Dictionaries

A dictionary is filled entry by entry. It keeps them all as long as the conversion keeps their
keys apart.
-/

namespace XdgPortals

namespace GVariant

/-- The value of a dictionary entry. -/
def value : GVariant → GVariant
  | .dictEntry _ v => v
  | v => v

/-- An entry of the converted dictionary. -/
def converted (e : GVariant) : Variant × Variant :=
  (gvariantToVariant e.key, gvariantToVariant e.value)

end GVariant

variable {key value : GVariantType} {entries keys : List GVariant} {dict : GVariant}

/-- The loop sets the converted entries in turn. -/
lemma entriesToDictionary_eq (h : ∀ e ∈ entries, e.HasType (.dictEntry key value))
    (d : Dictionary) :
    entriesToDictionary entries d = Entries.setAll d (entries.map GVariant.converted) := by
  induction entries generalizing d with
  | nil => rfl
  | cons e entries ih =>
    have he := h e List.mem_cons_self
    cases he with
    | dictEntry hbasic hk hv =>
      rw [entriesToDictionary, Dictionary.set,
        ih fun e hmem => h e (List.mem_cons_of_mem _ hmem)]
      rfl

lemma gvariantToVariant_dictionary (entries : List GVariant) :
    gvariantToVariant (.array (.dictEntry key value) entries) =
      .dictionary (gvariantDictToDictionary (.array (.dictEntry key value) entries)) := by
  rw [gvariantToVariant]
  rfl

/-! ### Distinct keys -/

lemma countP_le_one_iff {α : Type} {p : α → Bool} {xs : List α} :
    xs.countP p ≤ 1 ↔ xs.Pairwise fun x y => ¬ (p x = true ∧ p y = true) := by
  induction xs with
  | nil => simp
  | cons x xs ih =>
    rw [List.pairwise_cons, List.countP_cons, ← ih]
    cases hx : p x with
    | false => simp
    | true =>
      have hzero : xs.countP p = 0 ↔ ∀ y ∈ xs, ¬ p y = true := List.countP_eq_zero
      simp only [true_and, if_true]
      rw [← hzero]
      omega

/-- Distinct keys of one type stay distinct exactly when at most one of them is clamped. -/
lemma nodup_map_gvariantToVariant_iff (hbasic : key.isBasic = true) (hdouble : key ≠ .double)
    (htyped : ∀ k ∈ keys, k.HasType key) (hkeys : keys.Nodup) :
    (keys.map gvariantToVariant).Nodup ↔ keys.countP GVariant.isClamped ≤ 1 := by
  rw [countP_le_one_iff, List.Nodup, List.pairwise_map]
  constructor
  · intro h
    refine h.imp_of_mem fun {k l} hk hl hne hboth => hne ?_
    exact (GVariant.gvariantToVariant_eq_iff hbasic hdouble (htyped k hk) (htyped l hl)).mpr
      (.inr hboth)
  · intro h
    refine (hkeys.and h).imp_of_mem fun {k l} hk hl hapart heq => ?_
    rcases (GVariant.gvariantToVariant_eq_iff hbasic hdouble (htyped k hk) (htyped l hl)).mp heq
      with hsame | hboth
    · exact hapart.1 hsame
    · exact hapart.2 hboth

/-! ### The conversion of a dictionary -/

lemma map_converted_fst (entries : List GVariant) :
    (entries.map GVariant.converted).map Prod.fst =
      (entries.map GVariant.key).map gvariantToVariant := by
  simp [GVariant.converted, Function.comp_def]

/-- The keys stay distinct exactly when no entry is lost. -/
lemma complete_iff_nodup (h : ∀ e ∈ entries, e.HasType (.dictEntry key value)) :
    ((entriesToDictionary entries []).length = entries.length ∧
      ∀ k v, .dictEntry k v ∈ entries →
        (entriesToDictionary entries []).get? (gvariantToVariant k) =
          some (gvariantToVariant v)) ↔
      ((entries.map GVariant.key).map gvariantToVariant).Nodup := by
  rw [entriesToDictionary_eq h, ← map_converted_fst]
  constructor
  · rintro ⟨hlength, -⟩
    exact Entries.length_setAll_iff.mp (by simpa using hlength)
  · intro hnodup
    refine ⟨by simpa using Entries.length_setAll_iff.mpr hnodup, fun k v hmem => ?_⟩
    exact Entries.lookup_setAll hnodup (List.mem_map.mpr ⟨.dictEntry k v, hmem, rfl⟩)

lemma nodup_converted_keys_iff (h : ∀ e ∈ entries, e.HasType (.dictEntry key value))
    (hdouble : key ≠ .double) (hkeys : (entries.map GVariant.key).Nodup) :
    ((entries.map GVariant.key).map gvariantToVariant).Nodup ↔
      (entries.map GVariant.key).countP GVariant.isClamped ≤ 1 := by
  cases entries with
  | nil => simp
  | cons e entries =>
    have hbasic : key.isBasic = true := by
      cases h e List.mem_cons_self with
      | dictEntry hbasic hk hv => exact hbasic
    refine nodup_map_gvariantToVariant_iff hbasic hdouble (fun k hk => ?_) hkeys
    obtain ⟨e', hmem, rfl⟩ := List.mem_map.mp hk
    cases h e' hmem with
    | dictEntry hbasic hk hv => exact hk

/-- The conversion of a dictionary keeps every entry, under its converted key, if and only if at
most one key is clamped. -/
theorem dictionary_complete_iff (htype : dict.HasType (.array (.dictEntry key value)))
    (hdouble : key ≠ .double) (hkeys : dict.keys.Nodup) :
    (gvariantToVariant dict = .dictionary (gvariantDictToDictionary dict) ∧
      (gvariantDictToDictionary dict).length = dict.children.length ∧
      ∀ k v, .dictEntry k v ∈ dict.children →
        (gvariantDictToDictionary dict).get? (gvariantToVariant k) =
          some (gvariantToVariant v)) ↔
      dict.keys.countP GVariant.isClamped ≤ 1 := by
  cases htype with
  | @array _ entries hentries =>
    rw [and_iff_right (gvariantToVariant_dictionary entries)]
    exact (complete_iff_nodup hentries).trans (nodup_converted_keys_iff hentries hdouble hkeys)

/-- Integer keys are kept. -/
theorem dictionary_complete_iff_counted :
    (gvariantDictToDictionary (.array (.dictEntry .uint32 .string)
      [.dictEntry (.uint32 1) (.string "one"), .dictEntry (.uint32 2) (.string "two")])).get?
        (.int 2) = some (.string "two") := by
  have htype : (GVariant.array (.dictEntry .uint32 .string)
      [.dictEntry (.uint32 1) (.string "one"), .dictEntry (.uint32 2) (.string "two")]).HasType
        (.array (.dictEntry .uint32 .string)) := by
    refine .array fun e he => ?_
    rcases List.mem_pair.mp he with rfl | rfl
    · exact .dictEntry rfl (.uint32 1) (.string "one")
    · exact .dictEntry rfl (.uint32 2) (.string "two")
  have hcomplete := dictionary_complete_iff htype (by simp)
    (by simp [GVariant.keys, GVariant.key])
  exact (hcomplete.mpr (by decide)).2.2 (.uint32 2) (.string "two") (by simp [GVariant.children])

/-- Two keys above the largest signed integer become the same key, and an entry is lost. -/
theorem dictionary_loses_entry : ∃ dict : GVariant,
    dict.HasType (.array (.dictEntry .uint64 .string)) ∧ dict.keys.Nodup ∧
    dict.children.length = 2 ∧
    gvariantToVariant dict = .dictionary (gvariantDictToDictionary dict) ∧
    (gvariantDictToDictionary dict).length = 1 ∧
    (gvariantDictToDictionary dict).get? (gvariantToVariant (.uint64 9223372036854775808)) ≠
      some (gvariantToVariant (.string "one")) := by
  refine ⟨.array (.dictEntry .uint64 .string)
    [.dictEntry (.uint64 9223372036854775808) (.string "one"),
      .dictEntry (.uint64 9223372036854775809) (.string "two")], .array ?_, ?_, rfl, ?_, ?_, ?_⟩
  · intro e he
    rcases List.mem_pair.mp he with rfl | rfl
    · exact .dictEntry rfl (.uint64 _) (.string "one")
    · exact .dictEntry rfl (.uint64 _) (.string "two")
  · simp [GVariant.keys, GVariant.key]
  · exact gvariantToVariant_dictionary _
  · rfl
  · show some (Variant.string "two") ≠ some (Variant.string "one")
    simp

end XdgPortals
