import XdgPortals.Library.Slots
import XdgPortals.Native.Versions

/-!
# The batched read of versions

A call answers what is cached, reads the rest in one batch and puts every result at the position
of its interface. Replies come in any order, each with its index among the missing interfaces.
-/

namespace XdgPortals

/-! ### The batch -/

/-- What the replies leave in a batch. -/
lemma foldl_onPropertyRead (batch : PropertyBatch) (arrived : List (ℕ × PropertyReply)) :
    (arrived.foldl (fun batch read => batch.onPropertyRead read.1 read.2) batch).values =
        Slots.fill replyValue batch.values arrived ∧
      (arrived.foldl (fun batch read => batch.onPropertyRead read.1 read.2) batch).definitive =
        Slots.fill isDefinitive batch.definitive arrived := by
  induction arrived generalizing batch with
  | nil => exact ⟨rfl, rfl⟩
  | cons read arrived ih => exact ih (batch.onPropertyRead read.1 read.2)

/-- Whatever the order of the replies, each value is at the index of its property. -/
lemma readProperties_eq {α : Type} {xs : List α} (property : α → String × String)
    (gives : α → Option PropertyReply) {arrived : List (ℕ × PropertyReply)} (hxs : xs ≠ [])
    (harrived : arrived.Perm (Slots.results xs gives)) :
    readProperties true (xs.map property) arrived =
      (xs.map fun x => (gives x).elim none replyValue,
        xs.map fun x => (gives x).elim false isDefinitive) := by
  have hne : (xs.map property).isEmpty = false := by simpa using hxs
  obtain ⟨hvalues, hdefinitive⟩ := foldl_onPropertyRead (.start (xs.map property).length) arrived
  rw [readProperties, hne]
  show (PropertyBatch.values _, PropertyBatch.definitive _) = _
  rw [hvalues, hdefinitive]
  simp only [PropertyBatch.start, List.length_map]
  rw [Slots.fill_results none harrived, Slots.fill_results false harrived]

/-- A reply that is not definitive carries no value. -/
lemma replyValue_of_not_isDefinitive {reply : PropertyReply} (h : isDefinitive reply = false) :
    replyValue reply = none := by
  cases reply with
  | ok value => cases h
  | error error => rfl

namespace XdgPortalNative

variable {n n' : XdgPortalNative} {pInterfaces : List String} {name : String} {i : ℕ}
  {missing : List (String × ℕ)}

/-! ### The two loops after the read -/

lemma fillVersions_eq (versions : List Int32) (missing : List (String × ℕ))
    (value : String × ℕ → Option GVariant) :
    fillVersions versions missing (missing.map value) =
      Slots.fill versionOf versions (missing.map fun interface =>
        (interface.2, value interface)) := by
  induction missing generalizing versions with
  | nil => rfl
  | cons interface missing ih => exact ih (versions.set interface.2 _)

lemma cachedVersions_commitVersion_of_ne {generation : ℕ} {interface : String}
    {value : Option GVariant} {definitive : Bool}
    (h : interface = name → definitive = false) :
    (n.commitVersion generation interface value definitive).cachedVersions[name]? =
      n.cachedVersions[name]? := by
  rw [commitVersion]
  split_ifs with hcommit
  · have hne : interface ≠ name := by
      intro heq
      simp [h heq] at hcommit
    simp [Std.ExtTreeMap.getElem?_insert, hne]
  · rfl

section Commit

variable {value : String × ℕ → Option GVariant} {definitive : String × ℕ → Bool}

lemma commitVersions_cons (interface : String × ℕ) (missing : List (String × ℕ)) :
    n.commitVersions n.portalGeneration ((interface :: missing).map Prod.fst)
        ((interface :: missing).map value) ((interface :: missing).map definitive) =
      let first := n.commitVersion n.portalGeneration interface.1 (value interface)
        (definitive interface)
      first.commitVersions first.portalGeneration (missing.map Prod.fst) (missing.map value)
        (missing.map definitive) := by
  simp only [portalGeneration_commitVersion]
  rfl

/-- Nothing is cached for an interface without a definitive answer. -/
lemma cachedVersions_commitVersions_of_not
    (h : ∀ interface ∈ missing, interface.1 = name → definitive interface = false) :
    (n.commitVersions n.portalGeneration (missing.map Prod.fst) (missing.map value)
      (missing.map definitive)).cachedVersions[name]? = n.cachedVersions[name]? := by
  induction missing generalizing n with
  | nil => rfl
  | cons interface missing ih =>
    rw [commitVersions_cons]
    apply (ih fun later hlater => h later (List.mem_cons_of_mem _ hlater)).trans
    exact cachedVersions_commitVersion_of_ne (h interface List.mem_cons_self)

/-- Definitive answers that agree are what is cached. -/
lemma cachedVersions_commitVersions_of_mem {version : Int32}
    (hmem : ∃ interface ∈ missing, interface.1 = name ∧ definitive interface = true)
    (hagree : ∀ interface ∈ missing, interface.1 = name → definitive interface = true →
      versionOf (value interface) = version) :
    (n.commitVersions n.portalGeneration (missing.map Prod.fst) (missing.map value)
      (missing.map definitive)).cachedVersions[name]? = some version := by
  induction missing generalizing n with
  | nil => simp at hmem
  | cons first missing ih =>
    rw [commitVersions_cons]
    by_cases hlater : ∃ interface ∈ missing, interface.1 = name ∧ definitive interface = true
    · exact ih hlater fun interface hmem => hagree interface (List.mem_cons_of_mem _ hmem)
    · -- the first one is the last that is written under this name
      obtain ⟨interface, hmem, hname, hdefinitive⟩ := hmem
      obtain rfl : interface = first := by
        rcases List.mem_cons.mp hmem with heq | hmem
        · exact heq
        · exact absurd ⟨interface, hmem, hname, hdefinitive⟩ hlater
      apply (cachedVersions_commitVersions_of_not ?_).trans
      · rw [commitVersion, if_pos (by simp [hdefinitive])]
        simp [hname, hagree interface List.mem_cons_self hname hdefinitive]
      · intro later hmem hname'
        by_contra hdef
        exact hlater ⟨later, hmem, hname', by simpa using hdef⟩

end Commit

/-! ### A whole call -/

lemma mem_missing :
    (name, i) ∈ (n.lookupVersions pInterfaces).2 ↔
      pInterfaces[i]? = some name ∧ n.cachedVersions[name]? = none := by
  simp [lookupVersions, List.mem_zipIdx_iff_getElem?]

/-- The replies of a call, when `gives` tells what the read of each position is given: each one
with the index of its interface among the missing ones. -/
def versionReplies (n : XdgPortalNative) (pInterfaces : List String)
    (gives : ℕ → Option PropertyReply) : List (ℕ × PropertyReply) :=
  Slots.results (n.lookupVersions pInterfaces).2 fun interface => gives interface.2

/-- The value that the read of a position is given. -/
def givenValue (gives : ℕ → Option PropertyReply) (interface : String × ℕ) : Option GVariant :=
  (gives interface.2).elim none replyValue

/-- Whether the read of a position is answered definitively. -/
def givenDefinitive (gives : ℕ → Option PropertyReply) (interface : String × ℕ) : Bool :=
  (gives interface.2).elim false isDefinitive

/-- What a direct read of an interface gives: its version, or -1 when the read gets no answer. -/
def directRead (answers : String → Option GVariant) (name : String) (answered : Bool) : Int32 :=
  if answered then versionOf (answers name) else -1

variable {answers : String → Option GVariant} {gives : ℕ → Option PropertyReply}
  {arrived : List (ℕ × PropertyReply)}

/-- A call puts every result at its place, whatever the order in which the replies come. -/
lemma readInterfaceVersions_eq (harrived : arrived.Perm (n.versionReplies pInterfaces gives)) :
    n.readInterfaceVersions true pInterfaces arrived =
      (n.commitVersions n.portalGeneration ((n.lookupVersions pInterfaces).2.map Prod.fst)
          ((n.lookupVersions pInterfaces).2.map (givenValue gives))
          ((n.lookupVersions pInterfaces).2.map (givenDefinitive gives)),
        Slots.fill versionOf (n.lookupVersions pInterfaces).1
          ((n.lookupVersions pInterfaces).2.map fun interface =>
            (interface.2, givenValue gives interface)),
        (n.lookupVersions pInterfaces).2.map fun interface => versionProperty interface.1) := by
  simp only [readInterfaceVersions, Bool.not_true, Bool.false_eq_true, if_false]
  split_ifs with hmissing
  · rw [hmissing]
    rfl
  · rw [readProperties_eq _ _ hmissing harrived, ← fillVersions_eq]
    rfl

/-- The missing interfaces, in the order of the request. -/
lemma map_missing (pInterfaces : List String) :
    (n.lookupVersions pInterfaces).2.map Prod.fst =
      pInterfaces.filter fun name => n.cachedVersions[name]?.isNone := by
  conv_rhs => rw [← List.zipIdx_map_fst 0 pInterfaces, List.filter_map]
  rfl

/-- The value is the instance's answer when the reply is definitive, and none otherwise. -/
lemma versionOf_givenValue
    (hgives : ∀ reply, gives i = some reply → isDefinitive reply = true →
      replyValue reply = answers name) :
    versionOf (givenValue gives (name, i)) =
      directRead answers name (givenDefinitive gives (name, i)) := by
  unfold givenValue givenDefinitive directRead
  cases hreply : gives i with
  | none => rfl
  | some reply =>
    cases hdefinitive : isDefinitive reply with
    | false => simp [hdefinitive, replyValue_of_not_isDefinitive hdefinitive, versionOf]
    | true => simp [hdefinitive, hgives reply hreply hdefinitive]

section Agree

variable (hcache : ∀ (name : String) version, n.cachedVersions[name]? = some version →
    version = versionOf (answers name))
  (hgives : ∀ (i : ℕ) name reply, pInterfaces[i]? = some name → gives i = some reply →
    isDefinitive reply = true → replyValue reply = answers name)

include hgives in
lemma versionOf_of_missing {interface : String × ℕ}
    (hmem : interface ∈ (n.lookupVersions pInterfaces).2) :
    versionOf (givenValue gives interface) =
      directRead answers interface.1 (givenDefinitive gives interface) :=
  versionOf_givenValue fun reply => hgives interface.2 interface.1 reply (mem_missing.mp hmem).1

include hcache hgives in
/-- The result at each position is that of a direct read. -/
lemma getElem?_versions (hi : pInterfaces[i]? = some name) :
    (Slots.fill versionOf (n.lookupVersions pInterfaces).1
        ((n.lookupVersions pInterfaces).2.map fun interface =>
          (interface.2, givenValue gives interface)))[i]? =
      some (directRead answers name
        (n.cachedVersions[name]?.isSome || givenDefinitive gives (name, i))) := by
  cases hcached : n.cachedVersions[name]? with
  | some version =>
    rw [Slots.getElem?_fill_of_ne]
    · simp [lookupVersions, hi, hcached, directRead, hcache name version hcached]
    · intro write hwrite hindex
      obtain ⟨⟨other, j⟩, hmem, rfl⟩ := List.mem_map.mp hwrite
      obtain ⟨hother, hnone⟩ := mem_missing.mp hmem
      obtain rfl : j = i := hindex
      cases hi.symm.trans hother
      cases hcached.symm.trans hnone
  | none =>
    have hmem : (name, i) ∈ (n.lookupVersions pInterfaces).2 := mem_missing.mpr ⟨hi, hcached⟩
    rw [Slots.getElem?_fill_of_mem (b := givenValue gives (name, i))
      (List.mem_map.mpr ⟨_, hmem, rfl⟩)]
    · rw [versionOf_of_missing hgives hmem]
      rfl
    · simpa [lookupVersions] using (List.getElem?_eq_some_iff.mp hi).1
    · intro write hwrite hindex
      obtain ⟨⟨other, j⟩, hother, rfl⟩ := List.mem_map.mp hwrite
      obtain rfl : j = i := hindex
      cases hi.symm.trans (mem_missing.mp hother).1
      rfl

include hgives in
/-- A missing interface is cached if and only if a read of it is answered definitively. -/
lemma cachedVersions_of_missing (hname : n.cachedVersions[name]? = none) (version : Int32) :
    (n.commitVersions n.portalGeneration ((n.lookupVersions pInterfaces).2.map Prod.fst)
        ((n.lookupVersions pInterfaces).2.map (givenValue gives))
        ((n.lookupVersions pInterfaces).2.map (givenDefinitive gives))).cachedVersions[name]? =
        some version ↔
      version = versionOf (answers name) ∧
        ∃ i : ℕ, pInterfaces[i]? = some name ∧ givenDefinitive gives (name, i) = true := by
  by_cases hex : ∃ i : ℕ, pInterfaces[i]? = some name ∧ givenDefinitive gives (name, i) = true
  · obtain ⟨i, hi, hdefinitive⟩ := hex
    have hagree : ∀ interface ∈ (n.lookupVersions pInterfaces).2, interface.1 = name →
        givenDefinitive gives interface = true →
          versionOf (givenValue gives interface) = versionOf (answers name) := by
      rintro ⟨other, j⟩ hmem rfl hother
      rw [versionOf_of_missing hgives hmem, directRead, if_pos hother]
    rw [cachedVersions_commitVersions_of_mem
      ⟨(name, i), mem_missing.mpr ⟨hi, hname⟩, rfl, hdefinitive⟩ hagree]
    constructor
    · intro h
      exact ⟨(Option.some.inj h).symm, i, hi, hdefinitive⟩
    · rintro ⟨rfl, -⟩
      rfl
  · rw [cachedVersions_commitVersions_of_not, hname]
    · constructor
      · intro h
        cases h
      · rintro ⟨-, h⟩
        exact absurd h hex
    · rintro ⟨other, j⟩ hmem rfl
      by_contra hdefinitive
      exact hex ⟨j, (mem_missing.mp hmem).1, by simpa using hdefinitive⟩

end Agree

/-- A call that finds every interface in the cache reads nothing. -/
lemma readInterfaceVersions_of_cached {versions : List Int32}
    (hlength : versions.length = pInterfaces.length)
    (hcached : ∀ (i : ℕ) name version, pInterfaces[i]? = some name →
      versions[i]? = some version → n.cachedVersions[name]? = some version)
    (arrived : List (ℕ × PropertyReply)) :
    n.readInterfaceVersions true pInterfaces arrived = (n, versions, []) := by
  have hall : ∀ (i : ℕ) name, pInterfaces[i]? = some name →
      ∃ version, versions[i]? = some version ∧ n.cachedVersions[name]? = some version := by
    intro i name hi
    have hlt : i < versions.length := hlength ▸ (List.getElem?_eq_some_iff.mp hi).1
    exact ⟨versions[i], List.getElem?_eq_getElem hlt,
      hcached i name _ hi (List.getElem?_eq_getElem hlt)⟩
  have hmissing : (n.lookupVersions pInterfaces).2 = [] := by
    rw [List.eq_nil_iff_forall_not_mem]
    rintro ⟨name, i⟩ hmem
    obtain ⟨hi, hnone⟩ := mem_missing.mp hmem
    obtain ⟨version, -, hsome⟩ := hall i name hi
    cases hnone.symm.trans hsome
  have hversions : (n.lookupVersions pInterfaces).1 = versions := by
    apply List.ext_getElem?
    intro i
    simp only [lookupVersions, List.getElem?_map]
    cases hi : pInterfaces[i]? with
    | none =>
      symm
      simpa [hlength] using hi
    | some name =>
      obtain ⟨version, hversion, hsome⟩ := hall i name hi
      simp [hversion, hsome]
  simp [readInterfaceVersions, hmissing, hversions]

/-- A call agrees with direct reads at every position. The definitive answers it gets are cached
and nothing else, so that the next call with the same list reads nothing. -/
theorem read_interface_versions_agree {versions : List Int32} {asked : List (String × String)}
    (hcache : ∀ (name : String) version, n.cachedVersions[name]? = some version →
      version = versionOf (answers name))
    (hgives : ∀ (i : ℕ) name reply, pInterfaces[i]? = some name → gives i = some reply →
      isDefinitive reply = true → replyValue reply = answers name)
    (harrived : arrived.Perm (n.versionReplies pInterfaces gives))
    (hcall : n.readInterfaceVersions true pInterfaces arrived = (n', versions, asked)) :
    versions.length = pInterfaces.length ∧
    (∀ (i : ℕ) name, pInterfaces[i]? = some name → versions[i]? = some (directRead answers name
      (n.cachedVersions[name]?.isSome || givenDefinitive gives (name, i)))) ∧
    asked = (pInterfaces.filter fun name => n.cachedVersions[name]?.isNone).map versionProperty ∧
    (∀ (name : String) version, n.cachedVersions[name]? = some version →
      n'.cachedVersions[name]? = some version) ∧
    (∀ (name : String) version, n.cachedVersions[name]? = none →
      (n'.cachedVersions[name]? = some version ↔ version = versionOf (answers name) ∧
        ∃ i : ℕ, pInterfaces[i]? = some name ∧ givenDefinitive gives (name, i) = true)) ∧
    ((∀ (i : ℕ) name, pInterfaces[i]? = some name → n.cachedVersions[name]? = none →
        givenDefinitive gives (name, i) = true) →
      ∀ arrived', n'.readInterfaceVersions true pInterfaces arrived' = (n', versions, [])) := by
  rw [readInterfaceVersions_eq harrived] at hcall
  obtain ⟨rfl, rfl, rfl⟩ := hcall
  have hlength : (Slots.fill versionOf (n.lookupVersions pInterfaces).1
      ((n.lookupVersions pInterfaces).2.map fun interface =>
        (interface.2, givenValue gives interface))).length = pInterfaces.length :=
    Slots.length_fill.trans (List.length_map _)
  have hversions := fun i name (hi : pInterfaces[i]? = some name) =>
    getElem?_versions (n := n) hcache hgives hi
  have hkept : ∀ (name : String) version, n.cachedVersions[name]? = some version →
      (n.commitVersions n.portalGeneration ((n.lookupVersions pInterfaces).2.map Prod.fst)
        ((n.lookupVersions pInterfaces).2.map (givenValue gives))
        ((n.lookupVersions pInterfaces).2.map (givenDefinitive gives))).cachedVersions[name]? =
          some version := by
    intro name version hcached
    rw [cachedVersions_commitVersions_of_not, hcached]
    rintro ⟨other, j⟩ hmem rfl
    cases hcached.symm.trans (mem_missing.mp hmem).2
  have hadded := fun (name : String) version (hname : n.cachedVersions[name]? = none) =>
    cachedVersions_of_missing hgives hname version
  refine ⟨hlength, hversions, ?_, hkept, hadded, fun hdefinitive => ?_⟩
  · rw [← map_missing, List.map_map]
    rfl
  · apply readInterfaceVersions_of_cached hlength
    intro i name version hi hversion
    cases hversion.symm.trans (hversions i name hi)
    cases hcached : n.cachedVersions[name]? with
    | some version =>
      rw [hkept name version hcached, hcache name version hcached]
      rfl
    | none =>
      have hgiven := hdefinitive i name hi hcached
      apply (hadded name _ hcached).mpr
      refine ⟨?_, i, hi, hgiven⟩
      rw [hgiven]
      rfl

/-- One interface is cached, and of the others one is absent and one is asked for twice, the second
time in vain. The replies come in the other order. -/
theorem read_interface_versions_agree_late :
    ∃ n' asked,
      ({ cachedVersions := .insert ∅ ifaceGameMode 4 } : XdgPortalNative).readInterfaceVersions true
        [ifaceOpenUri, ifaceGameMode, ifaceInhibit, ifaceOpenUri]
        [(1, .error (some ⟨.dbusUnknownInterface, "No such interface"⟩)), (0, .ok (.uint32 5))] =
          (n', [5, 4, -1, -1], asked) ∧
      n'.cachedVersions[ifaceOpenUri]? = some 5 := by
  refine ⟨_, _, rfl, ?_⟩
  have hagree := @read_interface_versions_agree { cachedVersions := .insert ∅ ifaceGameMode 4 } _
    [ifaceOpenUri, ifaceGameMode, ifaceInhibit, ifaceOpenUri]
    (fun name => if name = ifaceOpenUri then some (.uint32 5)
      else if name = ifaceGameMode then some (.uint32 4) else none)
    (fun i => if i = 0 then some (.ok (.uint32 5))
      else if i = 2 then some (.error (some ⟨.dbusUnknownInterface, "No such interface"⟩))
      else none)
    [(1, .error (some ⟨.dbusUnknownInterface, "No such interface"⟩)), (0, .ok (.uint32 5))]
    _ _ ?_ ?_ ?_ rfl
  · obtain ⟨-, -, -, -, hadded, -⟩ := hagree
    exact (hadded _ _ (by decide)).mpr ⟨by decide, 0, rfl, rfl⟩
  · intro name version hcached
    rw [Std.ExtTreeMap.getElem?_insert] at hcached
    split_ifs at hcached with hname
    · cases hcached
      obtain rfl := Std.LawfulEqOrd.eq_of_compare hname
      rfl
    · simp at hcached
  · intro i name reply hi hreply hdefinitive
    split_ifs at hreply with h0 h2
    · cases hreply
      cases h0
      cases hi
      rfl
    · cases hreply
      cases h2
      cases hi
      rfl
  · exact .swap ..

end XdgPortalNative

end XdgPortals
