import Mathlib.Data.List.Forall2
import Mathlib.Data.List.Perm.Basic
import XdgPortals.Data.Dictionaries

/-!
# What a payload keeps

Values of the types whose integers all fit, without variants, maybes and doubles, are told apart
by what they are converted to. Dictionaries are compared as finite maps on both sides.
-/

namespace XdgPortals

/-- The types built from the basic ones by arrays, tuples and dictionary entries, without unsigned
64-bit integers and doubles. -/
inductive GVariantType.Plain : GVariantType → Prop
  | boolean : Plain .boolean
  | byte : Plain .byte
  | int16 : Plain .int16
  | uint16 : Plain .uint16
  | int32 : Plain .int32
  | uint32 : Plain .uint32
  | int64 : Plain .int64
  | handle : Plain .handle
  | string : Plain .string
  | objectPath : Plain .objectPath
  | signature : Plain .signature
  | array {t : GVariantType} (ht : Plain t) : Plain (.array t)
  | tuple {ts : List GVariantType} (hts : ∀ t ∈ ts, Plain t) : Plain (.tuple ts)
  | dictEntry {s t : GVariantType} (hs : Plain s) (ht : Plain t) : Plain (.dictEntry s t)

/-- Equality of Godot values: dictionaries are equal when their entries are, up to the order. -/
inductive Variant.Same : Variant → Variant → Prop
  | nil : Same .nil .nil
  | bool (b : Bool) : Same (.bool b) (.bool b)
  | int (n : Int64) : Same (.int n) (.int n)
  | float (d : UInt64) : Same (.float d) (.float d)
  | string (s : String) : Same (.string s) (.string s)
  | packedByteArray (bytes : List UInt8) : Same (.packedByteArray bytes) (.packedByteArray bytes)
  | array {vs ws : List Variant} (h : List.Forall₂ Same vs ws) : Same (.array vs) (.array ws)
  | dictionary {es fs fs' : List (Variant × Variant)}
      (hkeys : List.Forall₂ Same (es.map Prod.fst) (fs'.map Prod.fst))
      (hvalues : List.Forall₂ Same (es.map Prod.snd) (fs'.map Prod.snd)) (hperm : fs'.Perm fs) :
      Same (.dictionary es) (.dictionary fs)

/-- Equality of values of a plain type: dictionaries are equal when their entries are, up to the
order. -/
inductive GVariant.Same : GVariant → GVariant → Prop
  | basic {v : GVariant} {t : GVariantType} (hbasic : t.isBasic = true) (hv : v.HasType t) :
      Same v v
  | array {t : GVariantType} {vs ws : List GVariant} (ht : t.isDictEntry = false)
      (h : List.Forall₂ Same vs ws) : Same (.array t vs) (.array t ws)
  | dictionary {s t : GVariantType} {es fs fs' : List GVariant} (h : List.Forall₂ Same es fs')
      (hperm : fs'.Perm fs) : Same (.array (.dictEntry s t) es) (.array (.dictEntry s t) fs)
  | tuple {vs ws : List GVariant} (h : List.Forall₂ Same vs ws) : Same (.tuple vs) (.tuple ws)
  | dictEntry {k l v w : GVariant} (hk : Same k l) (hv : Same v w) :
      Same (.dictEntry k v) (.dictEntry l w)

variable {v w : GVariant} {t key value : GVariantType} {vs ws es fs : List GVariant}
  {ts : List GVariantType}

/-! ### Basic values -/

/-- The results of basic values are compared as they are. -/
lemma eq_of_same_of_basic {x : Variant} (hbasic : t.isBasic = true) (hv : v.HasType t)
    (h : (gvariantToVariant v).Same x) : gvariantToVariant v = x := by
  cases hv with
  | variant _ | nothing | just _ | array _ | tuple _ | dictEntry _ _ _ => cases hbasic
  | _ =>
    rw [gvariantToVariant] at h ⊢
    cases h
    rfl

/-- Values of a plain type are not clamped. -/
lemma isClamped_of_plain (hplain : t.Plain) (hv : v.HasType t) : v.isClamped = false := by
  cases hv with
  | uint64 n => cases hplain
  | _ => rfl

lemma same_of_basic (hplain : t.Plain) (hbasic : t.isBasic = true) (hv : v.HasType t)
    (hw : w.HasType t) (h : (gvariantToVariant v).Same (gvariantToVariant w)) : v.Same w := by
  have hdouble : t ≠ .double := by
    rintro rfl
    cases hplain
  have heq := eq_of_same_of_basic hbasic hv h
  rcases (GVariant.gvariantToVariant_eq_iff hbasic hdouble hv hw).mp heq with rfl | ⟨hcv, -⟩
  · exact .basic hbasic hv
  · rw [isClamped_of_plain hplain hv] at hcv
    cases hcv

/-! ### Lists of children -/

lemma childrenToArray_eq (vs : List GVariant) : childrenToArray vs = vs.map gvariantToVariant := by
  induction vs with
  | nil => rfl
  | cons v vs ih => rw [childrenToArray, ih, List.map_cons]

/-- A value is told apart from every other one of its type. -/
def Faithful (v : GVariant) : Prop :=
  ∀ (t : GVariantType) (w : GVariant), t.Plain → v.HasType t → w.HasType t → v.DistinctKeys →
    w.DistinctKeys → (gvariantToVariant v).Same (gvariantToVariant w) → v.Same w

lemma forall₂_same (hfaithful : ∀ v ∈ vs, Faithful v) (hplain : ∀ t ∈ ts, t.Plain)
    (hvs : List.Forall₂ GVariant.HasType vs ts) (hws : List.Forall₂ GVariant.HasType ws ts)
    (hdv : ∀ v ∈ vs, v.DistinctKeys) (hdw : ∀ w ∈ ws, w.DistinctKeys)
    (h : List.Forall₂ Variant.Same (vs.map gvariantToVariant) (ws.map gvariantToVariant)) :
    List.Forall₂ GVariant.Same vs ws := by
  induction hvs generalizing ws with
  | nil =>
    cases hws
    exact .nil
  | @cons v t vs ts hv hvs ih =>
    cases hws with
    | @cons w _ ws _ hw hws =>
      obtain ⟨hfirst, hrest⟩ := List.forall₂_cons.mp h
      refine .cons (hfaithful v List.mem_cons_self t w (hplain t List.mem_cons_self) hv hw
        (hdv v List.mem_cons_self) (hdw w List.mem_cons_self) hfirst) (ih ?_ ?_ hws ?_ ?_ hrest)
      · exact fun v hmem => hfaithful v (List.mem_cons_of_mem _ hmem)
      · exact fun t hmem => hplain t (List.mem_cons_of_mem _ hmem)
      · exact fun v hmem => hdv v (List.mem_cons_of_mem _ hmem)
      · exact fun w hmem => hdw w (List.mem_cons_of_mem _ hmem)

lemma forall₂_replicate (h : ∀ v ∈ vs, v.HasType t) :
    List.Forall₂ GVariant.HasType vs (List.replicate vs.length t) := by
  induction vs with
  | nil => exact .nil
  | cons v vs ih =>
    exact .cons (h v List.mem_cons_self) (ih fun v hmem => h v (List.mem_cons_of_mem _ hmem))

/-! ### Arrays -/

lemma bytesToPacked_inj (hvs : ∀ v ∈ vs, v.HasType .byte) (hws : ∀ w ∈ ws, w.HasType .byte)
    (h : bytesToPacked vs = bytesToPacked ws) : vs = ws := by
  induction vs generalizing ws with
  | nil =>
    cases ws with
    | nil => rfl
    | cons w ws =>
      cases hws w List.mem_cons_self
      cases h
  | cons v vs ih =>
    cases hvs v List.mem_cons_self
    cases ws with
    | nil => cases h
    | cons w ws =>
      cases hws w List.mem_cons_self
      obtain ⟨rfl, hrest⟩ := List.cons.inj h
      rw [ih (fun v hmem => hvs v (List.mem_cons_of_mem _ hmem))
        (fun w hmem => hws w (List.mem_cons_of_mem _ hmem)) hrest]

/-- What an array is converted to. -/
lemma gvariantToVariant_array (hdict : t.isDictEntry = false) (hbyte : t.isByte = false) :
    gvariantToVariant (.array t vs) = .array (vs.map gvariantToVariant) := by
  rw [gvariantToVariant, hdict, hbyte, childrenToArray_eq]
  rfl

lemma gvariantToVariant_bytes :
    gvariantToVariant (.array .byte vs) = .packedByteArray (bytesToPacked vs) := by
  rw [gvariantToVariant]
  rfl

lemma gvariantToVariant_tuple :
    gvariantToVariant (.tuple vs) = .array (vs.map gvariantToVariant) := by
  rw [gvariantToVariant, childrenToArray_eq]

lemma Variant.Same.array_inv {xs ys : List Variant} (h : (Variant.array xs).Same (.array ys)) :
    List.Forall₂ Variant.Same xs ys := by
  cases h with
  | array h => exact h

lemma Variant.Same.packedByteArray_inv {bs cs : List UInt8}
    (h : (Variant.packedByteArray bs).Same (.packedByteArray cs)) : bs = cs := by
  cases h
  rfl

/-- Arrays of one type with the same results have the same elements. -/
lemma forall₂_same_array (hfaithful : ∀ v ∈ vs, Faithful v) (hplain : t.Plain)
    (hvs : ∀ v ∈ vs, v.HasType t) (hws : ∀ w ∈ ws, w.HasType t)
    (hdv : ∀ v ∈ vs, v.DistinctKeys) (hdw : ∀ w ∈ ws, w.DistinctKeys)
    (h : List.Forall₂ Variant.Same (vs.map gvariantToVariant) (ws.map gvariantToVariant)) :
    List.Forall₂ GVariant.Same vs ws := by
  have hlength : vs.length = ws.length := by simpa using h.length_eq
  refine forall₂_same hfaithful ?_ (forall₂_replicate hvs) ?_ hdv hdw h
  · intro s hs
    rwa [List.eq_of_mem_replicate hs]
  · rw [hlength]
    exact forall₂_replicate hws

/-! ### Dictionaries -/

/-- A dictionary of a plain type keeps its entries. -/
lemma gvariantToVariant_entries (hplain : key.Plain)
    (hes : ∀ e ∈ es, e.HasType (.dictEntry key value)) (hkeys : (es.map GVariant.key).Nodup) :
    gvariantToVariant (.array (.dictEntry key value) es) =
      .dictionary (es.map GVariant.converted) := by
  have hdouble : key ≠ .double := by
    rintro rfl
    cases hplain
  have hcount : (es.map GVariant.key).countP GVariant.isClamped = 0 := by
    rw [List.countP_eq_zero]
    intro k hk
    obtain ⟨e, hmem, rfl⟩ := List.mem_map.mp hk
    cases hes e hmem with
    | @dictEntry k v _ _ hbasic hk hv => simp [GVariant.key, isClamped_of_plain hplain hk]
  have hnodup := (nodup_converted_keys_iff hes hdouble hkeys).mpr (by omega)
  rw [← map_converted_fst] at hnodup
  rw [gvariantToVariant_dictionary]
  show Variant.dictionary (entriesToDictionary es []) = _
  rw [entriesToDictionary_eq hes, Entries.setAll_of_nodup (by simpa using hnodup)]
  rfl

/-- Entries with the same keys and values have the same results. -/
lemma forall₂_entries (hes : ∀ e ∈ es, e.HasType (.dictEntry key value))
    (hfs : ∀ e ∈ fs, e.HasType (.dictEntry key value))
    (hkeys : List.Forall₂ Variant.Same ((es.map GVariant.converted).map Prod.fst)
      ((fs.map GVariant.converted).map Prod.fst))
    (hvalues : List.Forall₂ Variant.Same ((es.map GVariant.converted).map Prod.snd)
      ((fs.map GVariant.converted).map Prod.snd)) :
    List.Forall₂ Variant.Same (es.map gvariantToVariant) (fs.map gvariantToVariant) := by
  induction es generalizing fs with
  | nil =>
    cases fs with
    | nil => exact .nil
    | cons f fs => cases hkeys
  | cons e es ih =>
    cases fs with
    | nil => cases hkeys
    | cons f fs =>
      obtain ⟨hkey, hkeys⟩ := List.forall₂_cons.mp hkeys
      obtain ⟨hvalue, hvalues⟩ := List.forall₂_cons.mp hvalues
      refine .cons ?_ (ih (fun e hmem => hes e (List.mem_cons_of_mem _ hmem))
        (fun f hmem => hfs f (List.mem_cons_of_mem _ hmem)) hkeys hvalues)
      cases hes e List.mem_cons_self
      cases hfs f List.mem_cons_self
      rw [gvariantToVariant, gvariantToVariant]
      exact .array (.cons hkey (.cons hvalue .nil))

/-! ### Main results -/

lemma faithful_dictionary (hfaithful : ∀ e ∈ es, Faithful e)
    (hplain : (GVariantType.dictEntry key value).Plain)
    (hes : ∀ e ∈ es, e.HasType (.dictEntry key value))
    (hfs : ∀ e ∈ fs, e.HasType (.dictEntry key value))
    (hde : (GVariant.array (.dictEntry key value) es).DistinctKeys)
    (hdf : (GVariant.array (.dictEntry key value) fs).DistinctKeys)
    (h : (gvariantToVariant (.array (.dictEntry key value) es)).Same
      (gvariantToVariant (.array (.dictEntry key value) fs))) :
    (GVariant.array (.dictEntry key value) es).Same (.array (.dictEntry key value) fs) := by
  have hkey : key.Plain := by
    cases hplain with
    | dictEntry hk hv => exact hk
  rw [gvariantToVariant_entries hkey hes hde.keys, gvariantToVariant_entries hkey hfs hdf.keys]
    at h
  cases h with
  | @dictionary _ _ fs' hkeys hvalues hperm =>
    -- the entries in the order of the first dictionary are converted entries of the second
    obtain ⟨fs₀, rfl, hfs₀⟩ :=
      (congrFun (congrFun (List.eq_map_comp_perm GVariant.converted) fs') fs).mpr hperm
    have htyped : ∀ e ∈ fs₀, e.HasType (.dictEntry key value) := fun e hmem =>
      hfs e (hfs₀.mem_iff.mp hmem)
    refine .dictionary (forall₂_same_array hfaithful hplain hes htyped hde.children ?_
      (forall₂_entries hes htyped hkeys hvalues)) hfs₀
    exact fun e hmem => hdf.children e (hfs₀.mem_iff.mp hmem)

/-- Every value of a plain type is told apart. -/
theorem faithful (v : GVariant) : Faithful v := by
  induction v using GVariant.induction_children with
  | h v ih =>
    intro t w hplain hv hw hdv hdw h
    by_cases hbasic : t.isBasic = true
    · exact same_of_basic hplain hbasic hv hw h
    · cases hv with
      | @array t vs hvs =>
        cases hw with
        | @array _ ws hws =>
          have ht : t.Plain := by
            cases hplain with
            | array ht => exact ht
          cases hdict : t.isDictEntry with
          | true =>
            cases t with
            | dictEntry key value => exact faithful_dictionary ih ht hvs hws hdv hdw h
            | _ => cases hdict
          | false =>
            refine .array hdict ?_
            cases hbyte : t.isByte with
            | true =>
              cases t with
              | byte =>
                rw [gvariantToVariant_bytes, gvariantToVariant_bytes] at h
                rw [← bytesToPacked_inj hvs hws h.packedByteArray_inv]
                exact List.forall₂_same.mpr fun v hmem => .basic rfl (hvs v hmem)
              | _ => cases hbyte
            | false =>
              rw [gvariantToVariant_array hdict hbyte, gvariantToVariant_array hdict hbyte] at h
              exact forall₂_same_array ih ht hvs hws hdv.children hdw.children h.array_inv
      | @tuple vs ts hvs =>
        cases hw with
        | @tuple ws _ hws =>
          have hts : ∀ t ∈ ts, t.Plain := by
            cases hplain with
            | tuple hts => exact hts
          rw [gvariantToVariant_tuple, gvariantToVariant_tuple] at h
          exact .tuple (forall₂_same ih hts hvs hws hdv.children hdw.children h.array_inv)
      | @dictEntry k v key value _ hk hv =>
        cases hw with
        | @dictEntry l w _ _ _ hl hw =>
          obtain ⟨hkey, hvalue⟩ : key.Plain ∧ value.Plain := by
            cases hplain with
            | dictEntry hkey hvalue => exact ⟨hkey, hvalue⟩
          rw [gvariantToVariant, gvariantToVariant] at h
          obtain ⟨hsame, hrest⟩ := List.forall₂_cons.mp h.array_inv
          obtain ⟨hsame', -⟩ := List.forall₂_cons.mp hrest
          exact .dictEntry
            (ih k (by simp [GVariant.children]) key l hkey hk hl
              (hdv.children k (by simp [GVariant.children]))
              (hdw.children l (by simp [GVariant.children])) hsame)
            (ih v (by simp [GVariant.children]) value w hvalue hv hw
              (hdv.children v (by simp [GVariant.children]))
              (hdw.children w (by simp [GVariant.children])) hsame')
      | variant _ | nothing | just _ => cases hplain
      | _ => exact absurd rfl hbasic

/-- Values of a plain type with the same results are the same, integers keep their number, and
each kind of array keeps its own kind, also when it is empty. -/
theorem payload_preserved (hplain : t.Plain) (hv : v.HasType t) (hdv : v.DistinctKeys) :
    (∀ w : GVariant, w.HasType t → w.DistinctKeys →
      (gvariantToVariant v).Same (gvariantToVariant w) → v.Same w) ∧
    (∀ i, v.intValue = some i → ∃ m : Int64, gvariantToVariant v = .int m ∧ m.toInt = i) ∧
    ∀ element vs, v = .array element vs → gvariantToVariant v =
      if element.isDictEntry then .dictionary (vs.map GVariant.converted)
      else if element.isByte then .packedByteArray (bytesToPacked vs)
      else .array (vs.map gvariantToVariant) := by
  refine ⟨fun w hw hdw h => faithful v t w hplain hv hw hdv hdw h, fun i hi =>
    GVariant.gvariantToVariant_of_intValue hi (isClamped_of_plain hplain hv), ?_⟩
  rintro element vs rfl
  cases hv with
  | array hvs =>
    have helement : element.Plain := by
      cases hplain with
      | array helement => exact helement
    split_ifs with hdict hbyte
    · cases element with
      | dictEntry key value =>
        cases helement with
        | dictEntry hkey hvalue => exact gvariantToVariant_entries hkey hvs hdv.keys
      | _ => cases hdict
    · cases element with
      | byte => exact gvariantToVariant_bytes
      | _ => cases hbyte
    · exact gvariantToVariant_array (by simpa using hdict) (by simpa using hbyte)

/-- An empty byte array inside a dictionary. -/
theorem payload_preserved_empty :
    gvariantToVariant (.array (.dictEntry .string (.array .byte))
      [.dictEntry (.string "icon") (.array .byte [])]) =
        .dictionary [(.string "icon", .packedByteArray [])] := by
  have hentry : (GVariant.dictEntry (.string "icon") (.array .byte [])).HasType
      (.dictEntry .string (.array .byte)) :=
    .dictEntry rfl (.string _) (.array fun v hv => by cases hv)
  have hdistinct : (GVariant.dictEntry (.string "icon") (.array .byte [])).DistinctKeys := by
    refine .mk List.nodup_nil fun c hc => ?_
    rcases List.mem_pair.mp hc with rfl | rfl
    · exact .mk List.nodup_nil fun c hc => by cases hc
    · exact .mk List.nodup_nil fun c hc => by cases hc
  have hkept := payload_preserved
    (v := .array (.dictEntry .string (.array .byte))
      [.dictEntry (.string "icon") (.array .byte [])])
    (.array (.dictEntry .string (.array .byte)))
    (.array fun v hv => List.mem_singleton.mp hv ▸ hentry)
    (.mk (List.nodup_singleton _) fun c hc => List.mem_singleton.mp hc ▸ hdistinct)
  exact hkept.2.2 _ _ rfl

end XdgPortals
