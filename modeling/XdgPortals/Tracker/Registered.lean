import XdgPortals.Library.TwoWayIndex
import XdgPortals.Tracker.Calls
import XdgPortals.Tracker.Life

/-!
# Where requests live

A request lives at the path it was predicted at or at the one a reply to its own call named. When
the portal never names a path of another request, the two maps are inverse to each other.
-/

namespace XdgPortals

open XdgPortalNative TwoWayIndex

/-! ### The paths of a request -/

/-- A path the request `h` may live at: the predicted one, or the one the reply to its call
named. -/
def OwnPath (history : List Event) (h p : String) : Prop :=
  h ∈ begun history ∧ (p = h ∨ .callStarted h p ∈ history)

/-- No path that a reply names is a path of another request. -/
def Unshared (history : List Event) : Prop :=
  ∀ h p h', .callStarted h p ∈ history → OwnPath history h' p → h' = h

/-- The path is a path of no request but `h`. -/
def Sole (history : List Event) (h p : String) : Prop := ∀ h', OwnPath history h' p → h' = h

/-- The record was entered by a `begin_request` and lives at a path of its own. -/
structure Registered (history : List Event) (h : String) (it : Request) : Prop where
  begun : .begun h it.context ∈ history
  isInhibit : it.isInhibit = (it.context == "Inhibit.Inhibit")
  path : OwnPath history h it.path

section Paths

variable {l es : List Event} {h h' p : String}

lemma OwnPath.append (ho : OwnPath es h p) : OwnPath (l ++ es) h p := by
  obtain ⟨hbegun, hp⟩ := ho
  refine ⟨?_, hp.imp_right (List.mem_append_right _)⟩
  rw [begun_append]
  exact List.mem_append_right _ hbegun

lemma OwnPath.unique (hu : Unshared es) (ho : OwnPath es h p) (ho' : OwnPath es h' p) :
    h = h' := by
  rcases ho.2 with rfl | hp
  · rcases ho'.2 with rfl | hp'
    · rfl
    · exact hu h' p p hp' ho
  · exact (hu h p h' hp ho').symm

lemma Unshared.sole (hu : Unshared es) (ho : OwnPath es h p) : Sole es h p :=
  fun _ ho' => ho'.unique hu ho

lemma Sole.of_append (hsole : Sole (l ++ es) h p) : Sole es h p :=
  fun h' ho => hsole h' ho.append

lemma Registered.append {it : Request} (hr : Registered es h it) : Registered (l ++ es) h it :=
  ⟨List.mem_append_right _ hr.begun, hr.isInhibit, hr.path.append⟩

lemma Registered.answered {it : Request} (hr : Registered es h it) :
    Registered es h { it with answered := true } :=
  ⟨hr.begun, hr.isInhibit, hr.path⟩

end Paths

/-! ### What a history begins and names -/

/-- The handles replied to, with the paths named. -/
def named (history : List Event) : List (String × String) :=
  history.filterMap fun
    | .callStarted h p => some (h, p)
    | _ => none

lemma mem_named {h p : String} {es : List Event} : (h, p) ∈ named es ↔ .callStarted h p ∈ es := by
  rw [named, List.mem_filterMap]
  constructor
  · rintro ⟨e, he, heq⟩
    cases e <;> cases heq
    exact he
  · intro hp
    exact ⟨_, hp, rfl⟩

/-- The handles begun, with their contexts. -/
def contexts (history : List Event) : List (String × String) :=
  history.filterMap fun
    | .begun h c => some (h, c)
    | _ => none

lemma mem_contexts {h c : String} {es : List Event} : (h, c) ∈ contexts es ↔ .begun h c ∈ es := by
  rw [contexts, List.mem_filterMap]
  constructor
  · rintro ⟨e, he, heq⟩
    cases e <;> cases heq
    exact he
  · intro hc
    exact ⟨_, hc, rfl⟩

instance (es : List Event) (h p : String) : Decidable (OwnPath es h p) :=
  decidable_of_iff (h ∈ begun es ∧ (p = h ∨ (h, p) ∈ named es)) (by rw [mem_named]; rfl)

instance (es : List Event) (h p : String) : Decidable (Sole es h p) :=
  decidable_of_iff (∀ h' ∈ begun es, OwnPath es h' p → h' = h)
    ⟨fun hall h' ho => hall h' ho.1 ho, fun hsole h' _ => hsole h'⟩

instance (es : List Event) : Decidable (Unshared es) :=
  decidable_of_iff (∀ x ∈ named es, ∀ h' ∈ begun es, OwnPath es h' x.2 → h' = x.1)
    ⟨fun hall h p h' hp ho => hall (h, p) (mem_named.mpr hp) h' ho.1 ho,
      fun hu x hx h' _ ho => hu x.1 x.2 h' (mem_named.mp hx) ho⟩

/-! ### What the operations add to the maps -/

namespace XdgPortalNative

variable {n : XdgPortalNative} {h k p q : String} {it : Request}

lemma requests_of_recordPath (hk : (n.recordPath h p).requests[k]? = some it) :
    n.requests[k]? = some it ∨
      k = h ∧ ∃ it', n.requests[h]? = some it' ∧ it = { it' with path := p } := by
  cases hit : n.requests[h]? with
  | none =>
    rw [recordPath_eq_self (fun q hq => by simp [place, hit] at hq)] at hk
    exact Or.inl hk
  | some it' =>
    by_cases hp : p ≠ "" ∧ p ≠ it'.path
    · rw [requests_recordPath hit hp.1 hp.2] at hk
      split_ifs at hk with hh
      · cases hk
        exact Or.inr ⟨hh.symm, it', rfl, rfl⟩
      · exact Or.inl hk
    · simp only [recordPath, hit, if_neg hp] at hk
      exact Or.inl hk

lemma route_of_recordPath (hq : (n.recordPath h p).route q = some k) :
    n.route q = some k ∨ q = p ∧ k = h ∧ ∃ p', n.place h = some p' := by
  by_cases hplace : ∃ p', n.place h = some p' ∧ p ≠ "" ∧ p ≠ p'
  · obtain ⟨p', hp', hne, hpp⟩ := hplace
    rw [route_recordPath hp' hne hpp] at hq
    by_cases hqp' : q = p'
    · rw [hqp', Function.update_self] at hq
      cases hq
    · rw [Function.update_of_ne hqp'] at hq
      by_cases hqp : q = p
      · rw [hqp, Function.update_self] at hq
        cases hq
        exact Or.inr ⟨hqp, rfl, p', hp'⟩
      · rw [Function.update_of_ne hqp] at hq
        exact Or.inl hq
  · rw [recordPath_eq_self fun p' hp' => ?_] at hq
    · exact Or.inl hq
    · by_contra hne
      exact hplace ⟨p', hp', not_or.mp hne⟩

lemma requests_of_forget (hk : (n.forgetRequestLocked h).requests[k]? = some it) :
    n.requests[k]? = some it := by
  rw [requests_forget] at hk
  split_ifs at hk
  exact hk

lemma route_of_forget (hq : (n.forgetRequestLocked h).route q = some k) : n.route q = some k := by
  cases hit : n.requests[h]? with
  | none => rwa [forget_of_none hit] at hq
  | some it =>
    rw [route_forget (place_of_record hit)] at hq
    by_cases hqh : q = h
    · rw [hqh, Function.update_self] at hq
      cases hq
    · rw [Function.update_of_ne hqh] at hq
      by_cases hqp : q = it.path
      · rw [hqp, Function.update_self] at hq
        cases hq
      · rwa [Function.update_of_ne hqp] at hq

end XdgPortalNative

namespace Tracker

variable {u : UniqueName} {s s' : Tracker} {a : Action}

/-- Every record was entered by a `begin_request`, and every route is to a request's own path. -/
structure Tabled (s : Tracker) : Prop where
  record : ∀ h it, s.native.requests[h]? = some it → Registered s.history h it
  route : ∀ p h, s.native.route p = some h → OwnPath s.history h p

lemma Tabled.place (ht : Tabled s) {h p : String} (hp : s.native.place h = some p) :
    OwnPath s.history h p := by
  obtain ⟨it, hit, rfl⟩ := place_eq_some.mp hp
  exact (ht.record h it hit).path

/-- Maps with fewer entries and a longer history are still in order. -/
lemma Tabled.sub (ht : Tabled s) {l : List Event} (hhistory : s'.history = l ++ s.history)
    (hrecord : ∀ (h : String) (it : Request), s'.native.requests[h]? = some it →
      s.native.requests[h]? = some it)
    (hroute : ∀ p h, s'.native.route p = some h → s.native.route p = some h) : Tabled s' := by
  constructor
  · intro h it hit
    rw [hhistory]
    exact (ht.record h it (hrecord h it hit)).append
  · intro p h hp
    rw [hhistory]
    exact (ht.route p h (hroute p h hp)).append

lemma Tabled.forget (ht : Tabled s) {l : List Event} {h : String}
    (hhistory : s'.history = l ++ s.history)
    (htables : s'.native.tables = (s.native.forgetRequestLocked h).tables) : Tabled s' := by
  refine ht.sub hhistory (fun k it hit => ?_) (fun p k hp => ?_)
  · exact requests_of_forget (by rwa [← requests_of_tables htables])
  · exact route_of_forget (by rwa [← route_of_tables htables])

/-- A new request lives at its handle. -/
lemma Tabled.register (ht : Tabled s) {h c : String}
    (hhistory : s'.history = .begun h c :: s.history)
    (htables : s'.native.tables = (s.native.register h c).tables) : Tabled s' := by
  have hown : OwnPath s'.history h h := by
    rw [hhistory]
    exact ⟨by simp [begun, Event.begun?], Or.inl rfl⟩
  constructor
  · intro k it hit
    rw [requests_of_tables htables, requests_register] at hit
    split_ifs at hit with hk
    · cases hit
      subst hk
      exact ⟨by rw [hhistory]; exact List.mem_cons_self .., rfl, hown⟩
    · rw [hhistory]
      exact (ht.record k it hit).append (l := [_])
  · intro p k hp
    rw [route_of_tables htables, route_register] at hp
    by_cases hph : p = h
    · rw [hph, Function.update_self] at hp
      cases hp
      rw [hph]
      exact hown
    · rw [Function.update_of_ne hph] at hp
      rw [hhistory]
      exact (ht.route p k hp).append (l := [_])

/-- The reply gives a request the path it names. -/
lemma Tabled.recordPath (ht : Tabled s) {h p : String}
    (hhistory : s'.history = .callStarted h p :: s.history)
    (htables : s'.native.tables = (s.native.recordPath h p).tables) : Tabled s' := by
  have hown : h ∈ begun s.history → OwnPath s'.history h p := by
    intro hb
    rw [hhistory]
    exact ⟨hb, Or.inr (List.mem_cons_self ..)⟩
  constructor
  · intro k it hit
    rw [requests_of_tables htables] at hit
    rcases requests_of_recordPath hit with hit | ⟨rfl, it', hit', rfl⟩
    · rw [hhistory]
      exact (ht.record k it hit).append (l := [_])
    · have hr := ht.record k it' hit'
      refine ⟨?_, hr.isInhibit, hown hr.path.1⟩
      rw [hhistory]
      exact List.mem_cons_of_mem _ hr.begun
  · intro q k hq
    rw [route_of_tables htables] at hq
    rcases route_of_recordPath hq with hq | ⟨rfl, rfl, p', hp'⟩
    · rw [hhistory]
      exact (ht.route q k hq).append (l := [_])
    · exact hown (ht.place hp').1

theorem Tabled.step (ht : Tabled s) (heff : Effect s a s') : Tabled s' := by
  cases heff with
  | quiet new hquiet hhistory htables =>
    refine ht.sub hhistory (fun h it hit => ?_) (fun p h hp => ?_)
    · rwa [← requests_of_tables htables]
    · rwa [← route_of_tables htables]
  | register h c ha hhistory htables => exact ht.register hhistory htables
  | record h p hmem hne hhistory htables => exact ht.recordPath hhistory htables
  | drop h e hmem hsilent hhistory htables => exact ht.forget (l := [_]) hhistory htables
  | fail h m e it hmem ha hit herror hhistory htables =>
    exact ht.forget (l := [_, _, _]) hhistory htables
  | grant h p r results it new hquiet hreceived hroute hit hpending hinhibit hr hcalm hhistory
      htables =>
    constructor
    · intro k it' hit'
      rw [requests_of_tables htables, requests_markAnswered] at hit'
      rw [hhistory]
      split_ifs at hit' with hk
      · cases hit'
        subst hk
        exact (ht.record h it hit).append.answered
      · exact (ht.record k it' hit').append
    · intro q k hq
      rw [route_of_tables htables, route_markAnswered] at hq
      rw [hhistory]
      exact (ht.route q k hq).append
  | finish h p r results it new hquiet hreceived hroute hit hpending hend hhistory htables =>
    exact ht.forget hhistory htables
  | lose reason hlosing hhistory htables =>
    refine ht.sub hhistory (fun k it hit => ?_) (fun p k hp => ?_)
    · rw [requests_of_tables htables, requests_clearRequests] at hit
      cases hit
    · rw [route_of_tables htables, route_clearRequests] at hp
      cases hp
  | close h hhistory htables => exact ht.forget (l := [_]) hhistory htables

theorem tabled_of_reachable (hs : (machine u).Reachable s) : Tabled s := by
  induction hs with
  | init =>
    constructor
    · intro h it hit
      simp [machine] at hit
    · intro p h hp
      simp [machine, route] at hp
  | step hr ha ih => exact ih.step (Effect.of_step ha)

end Tracker

end XdgPortals
