import XdgPortals.Tracker.Aside

/-!
# A Response that overtakes the reply

A Response can arrive before the reply that names its path. It is then held until the reply claims
it, and the request ends up as if the reply had come first.
-/

namespace XdgPortals

open XdgPortalNative

/-- The paths of the Responses put on hold, other than `p`. -/
def heldElsewhere (p : String) (history : List Event) : List String :=
  history.filterMap fun
    | .held q => if q = p then none else some q
    | _ => none

lemma heldElsewhere_append (p : String) (l es : List Event) :
    heldElsewhere p (l ++ es) = heldElsewhere p l ++ heldElsewhere p es :=
  List.filterMap_append

lemma heldElsewhere_held {p q : String} (hq : q ≠ p) (es : List Event) :
    heldElsewhere p (.held q :: es) = q :: heldElsewhere p es := by
  rw [heldElsewhere, List.filterMap_cons]
  simp only [if_neg hq]
  rfl

namespace Tracker

variable {u : UniqueName} {s s' t : Tracker} {a : Action} {h p : String}

lemma length_heldElsewhere_of_step (hstep : (machine u).step s a = some s') :
    (heldElsewhere p s.history).length ≤ (heldElsewhere p s'.history).length := by
  obtain ⟨new, hnew⟩ := (Effect.of_step hstep).history
  rw [hnew, heldElsewhere_append, List.length_append]
  exact Nat.le_add_left ..

/-! ### The hold while a call is in flight -/

lemma mem_inFlight_aside (ha : Aside h p s a) (hrule : Rule u s a s') (hmem : h ∈ s.inFlight) :
    h ∈ s'.inFlight := by
  cases hrule with
  | beginRequest random context => exact List.mem_cons_of_mem _ hmem
  | callStarted k path hidle hk => exact (List.mem_erase_of_ne (Ne.symm ha.1)).mpr hmem
  | callFailed k error hidle hk => exact (List.mem_erase_of_ne (Ne.symm ha.1)).mpr hmem
  | requestResponse path response results hidle t delivered hdeliver =>
    cases Delivered.of_deliver hdeliver <;> exact hmem
  | resumeEarly early hworker t delivered hdeliver =>
    cases Delivered.of_deliver hdeliver <;> exact hmem
  | portalAppeared owner hidle => exact hmem
  | portalVanished hidle => exact hmem
  | resumeSettled hsettled => exact hmem
  | resumeHold response hworker => exact hmem
  | resumeLost reason hlosing => exact hmem
  | closeLookup k path hpath => exact hmem
  | closeConfirmed k hk => exact hmem
  | closeFailed k error hk => exact hmem

lemma Counted.calls_ne_zero (hc : Counted s) (hmem : h ∈ s.inFlight) :
    s.native.callsInFlight ≠ 0 := by
  rw [hc.calls]
  have := List.length_pos_of_mem hmem
  omega

/-- What a step aside does to the hold while a call is in flight. -/
inductive HoldChange (p : String) (s s' : Tracker) : Prop where
  | same (hheld : s'.native.unclaimedResponses = s.native.unclaimedResponses)
      (hworker : s'.worker = s.worker)
  | dispatched (hidle : s.worker.isIdle) (q : String) (hq : q ≠ p)
      (hheld : s'.native.unclaimedResponses = s.native.unclaimedResponses ∨
        s'.native.unclaimedResponses = s.native.unclaimedResponses.eraseP (·.path == q))
      (hother : ∀ y, s'.worker = .requestResponse false y → y.path ≠ p)
  | resumed (hnot : ∀ y, s.worker ≠ .requestResponse false y) (hidle : s'.worker = .idle)
      (hheld : s'.native.unclaimedResponses = s.native.unclaimedResponses)
  | pushed (y : UnclaimedResponse) (hworker : s.worker = .requestResponse false y)
      (hidle : s'.worker = .idle)
      (hheld : s'.native.unclaimedResponses =
        pushBounded maxUnclaimedResponses s.native.unclaimedResponses y)
      (hhistory : s'.history = .held y.path :: s.history)

theorem holdChange_aside (ha : Aside h p s a) (hp : Proper h p s') (hne : p ≠ "")
    (hreach : (machine u).Reachable s) (hcalm : s.worker.isLosing = false)
    (hstep : (machine u).step s a = some s') (hmem : h ∈ s.inFlight) : HoldChange p s s' := by
  have hrule := Rule.of_step hstep
  have hcalls' := (counted_of_reachable (hreach.step hstep)).calls_ne_zero
    (mem_inFlight_aside ha hrule hmem)
  have hcounted := counted_of_reachable hreach
  cases hrule with
  | beginRequest random context => exact .same rfl rfl
  | callStarted k path hidle hk =>
    refine .dispatched hidle path.val ?_ (Or.inr ?_) (fun y hy => by cases hy)
    · rintro rfl
      exact ha.1 (hp.sole k ⟨hcounted.begun_of_mem hk, Or.inr (List.mem_cons_self ..)⟩)
    · simp only [onCallStarted_fst, callsInFlight_dropHoldWhenIdle] at hcalls'
      rw [onCallStarted_fst, dropHoldWhenIdle_of_ne hcalls']
      exact congrArg _ unclaimed_recordPath
  | callFailed k error hidle hk =>
    refine .same ?_ rfl
    simp only [onCallFailed_fst, callsInFlight_dropHoldWhenIdle] at hcalls'
    rw [onCallFailed_fst, dropHoldWhenIdle_of_ne hcalls']
    exact unclaimed_forget
  | requestResponse path response results hidle t delivered hdeliver =>
    refine .dispatched hidle "" hne.symm (Or.inl ?_) ?_
    · exact (Delivered.of_deliver hdeliver).unclaimed
    · intro y hy
      cases hy
      exact ha.1.1
  | portalAppeared owner hidle =>
    exact .dispatched hidle "" hne.symm (Or.inl (unclaimed_onPortalAppeared ..))
      (fun y hy => by cases hy)
  | portalVanished hidle =>
    exact .dispatched hidle "" hne.symm (Or.inl rfl) (fun y hy => by cases hy)
  | resumeSettled hsettled =>
    refine .resumed ?_ rfl rfl
    intro y hy
    rw [hy] at hsettled
    exact hsettled
  | resumeEarly early hworker t delivered hdeliver =>
    refine .resumed ?_ rfl (Delivered.of_deliver hdeliver).unclaimed
    intro y hy
    cases hworker.symm.trans hy
  | resumeHold response hworker =>
    have hcalls : 0 < s.native.callsInFlight := by
      have hnonzero := hcounted.calls_ne_zero hmem
      rw [hcounted.calls] at hnonzero ⊢
      omega
    refine .pushed response hworker rfl ?_ ?_
    · simp only [hold, holdResponse, if_pos hcalls]
    · simp only [hold, if_pos hcalls]
  | resumeLost reason hlosing =>
    rw [isLosing_of_losing hlosing] at hcalm
    cases hcalm
  | closeLookup k path hpath => exact .same rfl rfl
  | closeConfirmed k hk => exact .same unclaimed_forget rfl
  | closeFailed k error hk => exact .same rfl rfl

/-- The Response `x` was received before the reply: the worker is about to hold it, or it is on
hold with no more younger ones behind it than were put there since `base` of them had been. -/
inductive Overtaking (x : UnclaimedResponse) (base : ℕ) (s : Tracker) : Prop where
  | inHand (hworker : s.worker = .requestResponse false x)
      (hnone : ∀ y ∈ s.native.unclaimedResponses, y.path ≠ x.path)
  | held (n : ℕ) (hwithin : FirstWithin (·.path) x n s.native.unclaimedResponses)
      (hroom : base + n ≤ (heldElsewhere x.path s.history).length)
      (hother : ∀ y, s.worker = .requestResponse false y → y.path ≠ x.path)

theorem Overtaking.step {x : UnclaimedResponse} {base : ℕ} (ho : Overtaking x base s)
    (hchange : HoldChange x.path s s') (hbase : base ≤ (heldElsewhere x.path s.history).length)
    (hgrow : (heldElsewhere x.path s.history).length ≤ (heldElsewhere x.path s'.history).length)
    (hfew : (heldElsewhere x.path s'.history).length < base + maxUnclaimedResponses) :
    Overtaking x base s' := by
  cases ho with
  | inHand hworker hnone =>
    cases hchange with
    | same hheld hsame => exact .inHand (hsame.trans hworker) (by rwa [hheld])
    | dispatched hidle q hq hheld hother =>
      rw [hworker] at hidle
      cases hidle
    | resumed hnot hidle hheld => exact absurd hworker (hnot x)
    | pushed y hy hidle hheld hhistory =>
      cases hworker.symm.trans hy
      refine .held 0 ?_ (Nat.le_trans hbase hgrow) (fun y hy => by rw [hidle] at hy; cases hy)
      rw [hheld]
      exact FirstWithin.push_self hnone
  | held n hwithin hroom hother =>
    cases hchange with
    | same hheld hsame =>
      exact .held n (by rwa [hheld]) (Nat.le_trans hroom hgrow) (by rwa [hsame])
    | dispatched hidle q hq hheld hother' =>
      refine .held n ?_ (Nat.le_trans hroom hgrow) hother'
      rcases hheld with hheld | hheld
      · rwa [hheld]
      · rw [hheld]
        exact hwithin.eraseP hq
    | resumed hnot hidle hheld =>
      refine .held n (by rwa [hheld]) (Nat.le_trans hroom hgrow) ?_
      intro y hy
      rw [hidle] at hy
      cases hy
    | pushed y hworker hidle hheld hhistory =>
      -- one Response more is on hold, and counted
      rw [hhistory, heldElsewhere_held (hother y hworker), List.length_cons] at hfew
      refine .held (n + 1) ?_ ?_ (fun y hy => by rw [hidle] at hy; cases hy)
      · rw [hheld]
        exact hwithin.push (by omega) y
      · rw [hhistory, heldElsewhere_held (hother y hworker), List.length_cons]
        omega

/-! ### The answer and the reply -/

end Tracker

/-- What is left of a waiting request after its Response. -/
def Request.answeredWith (it : Request) (response : UInt32) : Option Request :=
  if it.isInhibit = true ∧ response = 0 then some { it with answered := true } else none

namespace Tracker

variable {u : UniqueName} {s s' t : Tracker} {a : Action} {h p : String}
variable {v : Option Request} {C : List (String × Int32 × Dictionary)} {it : Request}
variable {r : UInt32} {results : Dictionary}

/-- A Response routed to a waiting request completes it. -/
lemma Delivered.answers {q : String} {delivered : Bool}
    (hd : Delivered s q r results t delivered) (hroute : s.native.route q = some h)
    (hit : s.native.requests[h]? = some it) (hans : it.answered = false) :
    t.native.requests[h]? = it.answeredWith r ∧
      completionsOf h t.history = (h, r.toInt32, results) :: completionsOf h s.history ∧
      XdgPortals.begun t.history = XdgPortals.begun s.history := by
  have hsignal : ∀ cause : Cause, completionsOf h
      (.signal cause (.requestCompleted h r.toInt32 results) :: s.history) =
        (h, r.toInt32, results) :: completionsOf h s.history := by
    intro cause
    rw [completionsOf_cons]
    simp [Event.completion?]
  cases hd with
  | missed hmissed =>
    rw [hroute] at hmissed
    cases hmissed
  | ignored k hk hdone =>
    cases hroute.symm.trans hk
    exact absurd ⟨it, hit, hans⟩ hdone
  | granted k it' hk hit' hpending hinhibit hr =>
    cases hroute.symm.trans hk
    cases hit.symm.trans hit'
    refine ⟨?_, hsignal _, rfl⟩
    rw [requests_markAnswered, if_pos rfl, Request.answeredWith, if_pos ⟨hinhibit, hr⟩]
  | finished k it' hk hit' hpending hend =>
    cases hroute.symm.trans hk
    cases hit.symm.trans hit'
    refine ⟨?_, hsignal _, rfl⟩
    rw [requests_forget, if_pos rfl, Request.answeredWith, if_neg hend]

lemma path_of_answeredWith {it' : Request} (hit' : it.answeredWith r = some it') :
    it'.path = it.path := by
  unfold Request.answeredWith at hit'
  split_ifs at hit' with hkeep
  cases hit'
  rfl

lemma not_answered_of_answeredWith {it' : Request} (hit' : it.answeredWith r = some it') :
    it'.answered = true := by
  unfold Request.answeredWith at hit'
  split_ifs at hit' with hkeep
  cases hit'
  rfl

/-- An answered request waits for nothing. -/
lemma apart_of_answered (hrecord : s.native.requests[h]? = it.answeredWith r) : Apart h p s := by
  rintro ⟨it', hit', hans⟩
  rw [hrecord] at hit'
  rw [not_answered_of_answeredWith hit'] at hans
  cases hans

/-- The path of the request leads to it. -/
lemma Level.route_self (hl : Level u h p (some it) C s) (hp : Proper h p s) (hpath : it.path = p) :
    s.native.route p = some h := by
  refine listed_of_reachable hl.reach hp.sole ?_
  rw [place_of_record hl.record, hpath]

/-- A request that lives at the path has that route and no other. -/
lemma Level.route_iff (hl : Level u h p v C s) (hp : Proper h p s)
    (hpath : ∀ it, v = some it → it.path = p) (q : String) :
    s.native.route q = some h ↔ q = p ∧ ∃ it, v = some it := by
  constructor
  · intro hroute
    have hplace := sound_of_reachable hl.reach hp.once q hroute
    obtain ⟨it, hit, rfl⟩ := place_eq_some.mp hplace
    have hv := hl.record.symm.trans hit
    exact ⟨hpath it hv, it, hv⟩
  · rintro ⟨rfl, it, rfl⟩
    exact hl.route_self hp (hpath it rfl)

/-- The Response on its path completes the waiting request. -/
lemma Level.response (hl : Level u h p (some it) C s) (hp : Proper h p s) (hpath : it.path = p)
    (hans : it.answered = false) {path : ObjectPath} (hname : path.val = p)
    (hstep : (machine u).step s (.requestResponse path r results) = some s') :
    Level u h p (it.answeredWith r) ((h, r.toInt32, results) :: C) s' := by
  have hroute := hl.route_self hp hpath
  cases Rule.of_step hstep with
  | requestResponse _ _ _ hidle t delivered hdeliver =>
    obtain ⟨hrecord, hcompletions, hbegun⟩ := (Delivered.of_deliver hdeliver).answers
      (hname ▸ hroute) hl.record hans
    refine ⟨hl.reach.step hstep, ?_, hrecord, ?_, ?_, rfl⟩
    · exact hbegun ▸ hl.begun
    · exact hcompletions.trans (congrArg _ hl.completions)
    · intro it' hit'
      exact Or.inr ((path_of_answeredWith hit').trans hpath)

/-- The reply leaves the request as it is, but at the path named. -/
lemma Level.reply (hl : Level u h p v C s) (hne : p ≠ "") {path : ObjectPath}
    (hname : path.val = p) (hstep : (machine u).step s (.callStarted h path) = some s') :
    Level u h p (v.map fun it => { it with path := p }) C s' ∧ s.worker.isIdle ∧
      s'.worker = .callStarted (s.native.unclaimedResponses.find? (·.path == p)) := by
  cases Rule.of_step hstep with
  | callStarted _ _ hidle hmem =>
    refine ⟨⟨hl.reach.step hstep, hl.begun, ?_, hl.completions, ?_, rfl⟩, hidle, ?_⟩
    · rw [requests_of_tables (tables_onCallStarted ..), hname, requests_recordPath_self hne,
        hl.record]
    · intro it hit
      obtain ⟨it', -, rfl⟩ := Option.map_eq_some_iff.mp hit
      exact Or.inr rfl
    · rw [onCallStarted_snd, hname]

/-! ### The reply has claimed the Response -/

/-- The worker is about to deliver the claimed Response `x` to the request. -/
structure Claimed (u : UniqueName) (h : String) (it : Request)
    (C : List (String × Int32 × Dictionary)) (x : UnclaimedResponse) (s : Tracker) : Prop where
  level : Level u h it.path (some it) C s
  waiting : it.answered = false
  worker : s.worker = .callStarted (some x)

/-- The claimed Response is delivered, or the step leaves it to the worker. -/
lemma Claimed.step {x : UnclaimedResponse} (hc : Claimed u h it C x s) (hx : x.path = it.path)
    (ha : Aside h it.path s a) (hp : Proper h it.path s')
    (hstep : (machine u).step s a = some s') :
    Claimed u h it C x s' ∨
      Level u h it.path (it.answeredWith x.response) ((h, x.response.toInt32, x.results) :: C)
        s' := by
  have hstay : a ≠ .resume → s'.worker = s.worker → Claimed u h it C x s' := by
    intro hnot hworker
    exact ⟨hc.level.step (fun heq => absurd heq hnot) ha hp hstep, hc.waiting,
      hworker.trans hc.worker⟩
  have hbusy : ¬ s.worker.isIdle := by
    rw [hc.worker]
    exact Bool.false_ne_true
  cases Rule.of_step hstep with
  | beginRequest random context => exact Or.inl (hstay (fun h => by cases h) rfl)
  | closeLookup k path hpath => exact Or.inl (hstay (fun h => by cases h) rfl)
  | closeConfirmed k hk => exact Or.inl (hstay (fun h => by cases h) rfl)
  | closeFailed k error hk => exact Or.inl (hstay (fun h => by cases h) rfl)
  | callStarted k path hidle hk => exact absurd hidle hbusy
  | callFailed k error hidle hk => exact absurd hidle hbusy
  | requestResponse path response results hidle t delivered hdeliver => exact absurd hidle hbusy
  | portalAppeared owner hidle => exact absurd hidle hbusy
  | portalVanished hidle => exact absurd hidle hbusy
  | resumeSettled hsettled =>
    rw [hc.worker] at hsettled
    exact hsettled.elim
  | resumeHold response hworker => cases hc.worker.symm.trans hworker
  | resumeLost reason hlosing =>
    rw [hc.worker] at hlosing
    exact hlosing.elim
  | resumeEarly early hworker t delivered hdeliver =>
    cases hc.worker.symm.trans hworker
    have hroute := hc.level.route_self (hp.of_step hstep) rfl
    obtain ⟨hrecord, hcompletions, hbegun⟩ := (Delivered.of_deliver hdeliver).answers
      (hx ▸ hroute) hc.level.record hc.waiting
    refine Or.inr ⟨hc.level.reach.step hstep, hbegun ▸ hc.level.begun, hrecord, ?_, ?_, rfl⟩
    · exact hcompletions.trans (congrArg _ hc.level.completions)
    · intro it' hit'
      exact Or.inr (path_of_answeredWith hit')

/-- By the time the worker is idle again, the claimed Response is delivered. -/
lemma Claimed.run {x : UnclaimedResponse} (hc : Claimed u h it C x s) (hx : x.path = it.path)
    {as : List Action} (haside : (machine u).Along (Aside h it.path) s as)
    (hrun : (machine u).exec s as = some t) (hp : Proper h it.path t) (hidle : t.worker.isIdle) :
    Level u h it.path (it.answeredWith x.response) ((h, x.response.toInt32, x.results) :: C) t := by
  have hend := Machine.exec_induction_back (H := Proper h it.path)
    (P := fun s => Claimed u h it C x s ∨
      Level u h it.path (it.answeredWith x.response) ((h, x.response.toInt32, x.results) :: C) s)
    (fun _ _ _ hstep hp => hp.of_step hstep) ?_ haside (Or.inl hc) hrun hp
  · rcases hend with hclaimed | hlevel
    · rw [hclaimed.worker] at hidle
      cases hidle
    · exact hlevel
  · rintro s a s' ha hp (hclaimed | hlevel) hstep
    · exact hclaimed.step hx ha hp hstep
    · exact Or.inr (hlevel.step (fun _ => apart_of_answered hlevel.record) ha hp hstep)

/-! ### The Response waits for the reply -/

/-- With room for it, the Response waits as long as the call is in flight. -/
lemma Overtaking.run {x : UnclaimedResponse} {base : ℕ} (ho : Overtaking x base s)
    (hl : Level u h x.path v C s) (hapart : Apart h x.path s) (hne : x.path ≠ "")
    (hmem : h ∈ s.inFlight) (hbase : base ≤ (heldElsewhere x.path s.history).length)
    {as : List Action} (haside : (machine u).Along (Aside h x.path) s as)
    (hrun : (machine u).exec s as = some t) (hp : Proper h x.path t)
    (hfew : (heldElsewhere x.path t.history).length < base + maxUnclaimedResponses) :
    Overtaking x base t ∧ Level u h x.path v C t := by
  have hend := Machine.exec_induction_back
    (H := fun s => Proper h x.path s ∧
      (heldElsewhere x.path s.history).length < base + maxUnclaimedResponses)
    (P := fun s => (Overtaking x base s ∧ base ≤ (heldElsewhere x.path s.history).length) ∧
      (Level u h x.path v C s ∧ Apart h x.path s) ∧ h ∈ s.inFlight)
    ?_ ?_ haside ⟨⟨ho, hbase⟩, ⟨hl, hapart⟩, hmem⟩ hrun ⟨hp, hfew⟩
  · exact ⟨hend.1.1, hend.2.1.1⟩
  · intro s a s' hstep hH
    exact ⟨hH.1.of_step hstep,
      Nat.lt_of_le_of_lt (length_heldElsewhere_of_step hstep) hH.2⟩
  · rintro s a s' ha ⟨hp, hfew⟩ ⟨⟨ho, hbase⟩, ⟨hl, hapart⟩, hmem⟩ hstep
    have hgrow := length_heldElsewhere_of_step (p := x.path) hstep
    have hchange := holdChange_aside ha hp hne hl.reach hl.calm hstep hmem
    exact ⟨⟨ho.step hchange hbase hgrow hfew, Nat.le_trans hbase hgrow⟩,
      ⟨hl.step (fun _ => hapart) ha hp hstep, hl.apart_step hapart ha hp hstep⟩,
      mem_inFlight_aside ha (Rule.of_step hstep) hmem⟩

/-! ### The two orders -/

/-- Two messages of the request `h`: the first in `s`, the second in `m` after further steps that
meet `A`, and more such steps up to `t`. -/
structure Course (u : UniqueName) (A : Tracker → Action → Prop) (h p : String) (s : Tracker)
    (first : Action) (further : List Action) (m : Tracker) (second : Action) (last : List Action)
    (t : Tracker) : Prop where
  runFirst : (machine u).exec s (first :: further) = some m
  asideFirst : ∀ s', (machine u).step s first = some s' → (machine u).Along A s' further
  runSecond : (machine u).exec m (second :: last) = some t
  asideSecond : ∀ m', (machine u).step m second = some m' → (machine u).Along A m' last
  proper : Proper h p t

/-- The two messages and what comes after each of them. -/
lemma Course.split {A : Tracker → Action → Prop} {first second : Action}
    {further last : List Action} {m : Tracker}
    (hc : Course u A h p s first further m second last t) :
    ∃ s' m', ((machine u).step s first = some s' ∧ (machine u).Along A s' further ∧
        (machine u).exec s' further = some m ∧ Proper h p m) ∧
      (machine u).step m second = some m' ∧ (machine u).Along A m' last ∧
        (machine u).exec m' last = some t ∧ Proper h p s := by
  have hback : ∀ s a s', (machine u).step s a = some s' → Proper h p s' → Proper h p s :=
    fun _ _ _ hstep hp => hp.of_step hstep
  obtain ⟨s', hfirst, hfurther⟩ := (machine u).exec_cons_eq_some.mp hc.runFirst
  obtain ⟨m', hsecond, hlast⟩ := (machine u).exec_cons_eq_some.mp hc.runSecond
  have hm := Machine.exec_back hback hc.runSecond hc.proper
  exact ⟨s', m', ⟨hfirst, hc.asideFirst s' hfirst, hfurther, hm⟩, hsecond,
    hc.asideSecond m' hsecond, hlast, Machine.exec_back hback hc.runFirst hm⟩

/-- Whether fixed messages and steps make a course can be evaluated. -/
instance {A : Tracker → Action → Prop} [∀ s a, Decidable (A s a)] {first second : Action}
    {further last : List Action} {P : Tracker → Tracker → Prop} [∀ m t, Decidable (P m t)] :
    Decidable (∃ m t, Course u A h p s first further m second last t ∧ P m t) := by
  refine decidable_of_iff ((((machine u).step s first).any fun s' =>
    decide ((machine u).Along A s' further) &&
      ((machine u).exec s' further).any fun m => ((machine u).step m second).any fun m' =>
        decide ((machine u).Along A m' last) &&
          ((machine u).exec m' last).any fun t => decide (Proper h p t ∧ P m t)) = true) ?_
  simp only [Option.any_eq_true, Bool.and_eq_true, decide_eq_true_eq]
  constructor
  · rintro ⟨s', hfirst, hfurther, m, hm, m', hsecond, hlast, t, ht, hproper, hP⟩
    refine ⟨m, t, ⟨?_, ?_, ?_, ?_, hproper⟩, hP⟩
    · exact (machine u).exec_cons_eq_some.mpr ⟨s', hfirst, hm⟩
    · intro s'' hs''
      cases hfirst.symm.trans hs''
      exact hfurther
    · exact (machine u).exec_cons_eq_some.mpr ⟨m', hsecond, ht⟩
    · intro m'' hm''
      cases hsecond.symm.trans hm''
      exact hlast
  · rintro ⟨m, t, hc, hP⟩
    obtain ⟨s', m', ⟨hfirst, hfurther, hm, -⟩, hsecond, hlast, ht, -⟩ := hc.split
    exact ⟨s', hfirst, hfurther, m, hm, m', hsecond, hlast, t, ht, hc.proper, hP⟩

section Orders

variable {path : ObjectPath} {further last : List Action} {m : Tracker}

/-- A request whose call is in flight lives at its handle. -/
lemma path_of_inFlight (hs : (machine u).Reachable s) (honce : BegunOnce h s.history)
    (hit : s.native.requests[h]? = some it) (hmem : h ∈ s.inFlight) : it.path = h := by
  rcases ((tabled_of_reachable hs).record h it hit).path.2 with hpath | hnamed
  · exact hpath
  · have hnot := (counted_of_reachable hs).not_replied honce hmem
    exact absurd (mem_replied.mpr (Or.inl ⟨_, hnamed⟩)) hnot

/-- The request before its first message. -/
lemma level_of_inFlight (hs : (machine u).Reachable s) (honce : BegunOnce h s.history)
    (hit : s.native.requests[h]? = some it) (hmem : h ∈ s.inFlight) (hidle : s.worker.isIdle) :
    Level u h p (some it) (completionsOf h s.history) s := by
  refine ⟨hs, (counted_of_reachable hs).begun_of_mem hmem, hit, rfl, ?_, ?_⟩
  · intro it' hit'
    cases hit'
    exact Or.inl (path_of_inFlight hs honce hit hmem)
  · cases hworker : s.worker <;> simp_all [Worker.isIdle, Worker.isLosing]

/-- The reply first. -/
lemma level_of_reply_first (hl : Level u h path.val (some it) C s) (hans : it.answered = false)
    (hnone : ∀ y ∈ s.native.unclaimedResponses, y.path ≠ path.val)
    (hc : Course u (Aside h path.val) h path.val s (.callStarted h path) further m
      (.requestResponse path r results) last t) :
    Level u h path.val (Request.answeredWith { it with path := path.val } r)
      ((h, r.toInt32, results) :: C) t := by
  obtain ⟨s', m', ⟨hfirst, haside, hfurther, hm⟩, hsecond, haside', hlast, -⟩ := hc.split
  obtain ⟨hl', -, hworker⟩ := hl.reply path.val_ne_empty rfl hfirst
  have hapart : Apart h path.val s' := by
    intro _ e he hpath
    rw [hworker, Worker.callStarted.injEq, List.find?_eq_some_iff_append] at he
    obtain ⟨-, older, younger, heq, -⟩ := he
    exact hnone e (by simp [heq]) hpath
  have hresponse := (hl'.run hapart haside hfurther hm).response hm rfl hans rfl hsecond
  exact hresponse.run (apart_of_answered hresponse.record) haside' hlast hc.proper

/-- The Response first, on the path the request was predicted to have. -/
lemma level_of_response_first_predicted (hl : Level u h path.val (some it) C s)
    (hans : it.answered = false) (hpath : it.path = path.val)
    (hc : Course u (Aside h path.val) h path.val s (.requestResponse path r results) further m
      (.callStarted h path) last t) :
    Level u h path.val (it.answeredWith r) ((h, r.toInt32, results) :: C) t := by
  obtain ⟨s', m', ⟨hfirst, haside, hfurther, hm⟩, hsecond, haside', hlast, hp⟩ := hc.split
  have hresponse := hl.response hp hpath hans rfl hfirst
  have hkept := hresponse.run (apart_of_answered hresponse.record) haside hfurther hm
  obtain ⟨hreply, -, -⟩ := hkept.reply path.val_ne_empty rfl hsecond
  -- the reply names the path the request lives at already
  have hsame : ((it.answeredWith r).map fun it => { it with path := path.val }) =
      it.answeredWith r := by
    unfold Request.answeredWith
    split_ifs
    · simp [← hpath]
    · rfl
  rw [hsame] at hreply
  exact hreply.run (apart_of_answered hreply.record) haside' hlast hc.proper

/-- The Response first, on another path: it waits for the reply. -/
lemma level_of_response_first_elsewhere (hl : Level u h path.val (some it) C s)
    (hans : it.answered = false) (hpath : it.path ≠ path.val) (hmem : h ∈ s.inFlight)
    (hnone : ∀ y ∈ s.native.unclaimedResponses, y.path ≠ path.val)
    (hfew : (heldElsewhere path.val m.history).length <
      (heldElsewhere path.val s.history).length + maxUnclaimedResponses)
    (hc : Course u (Aside h path.val) h path.val s (.requestResponse path r results) further m
      (.callStarted h path) last t) (hidle : t.worker.isIdle) :
    Level u h path.val (Request.answeredWith { it with path := path.val } r)
      ((h, r.toInt32, results) :: C) t := by
  obtain ⟨s', m', ⟨hfirst, haside, hfurther, hm⟩, hsecond, haside', hlast, hp⟩ := hc.split
  have hroute : s.native.route path.val = none := by
    rw [Option.eq_none_iff_forall_ne_some]
    intro k hk
    have hsame := hp.sole k ((tabled_of_reachable hl.reach).route _ k hk)
    rw [hsame] at hk
    have hplace := sound_of_reachable hl.reach hp.once _ hk
    rw [place_of_record hl.record] at hplace
    exact hpath (Option.some.inj hplace)
  -- nobody claims the Response, so the worker goes on to hold it
  have hmissed : Level u h path.val (some it) C s' ∧ Apart h path.val s' ∧ h ∈ s'.inFlight ∧
      Overtaking ⟨path.val, r, results⟩ (heldElsewhere path.val s.history).length s' ∧
      (heldElsewhere path.val s.history).length ≤ (heldElsewhere path.val s'.history).length := by
    have hgrow := length_heldElsewhere_of_step (p := path.val) hfirst
    cases Rule.of_step hfirst with
    | requestResponse _ _ _ hidle' t delivered hdeliver =>
      cases Delivered.of_deliver hdeliver with
      | missed _ =>
        refine ⟨⟨hl.reach.step hfirst, hl.begun, hl.record, hl.completions, hl.path, rfl⟩, ?_,
          hmem, .inHand rfl hnone, hgrow⟩
        intro _ e he
        cases he
      | ignored k hk hdone => cases hroute.symm.trans hk
      | granted k it' hk hit' hpending hinhibit hr => cases hroute.symm.trans hk
      | finished k it' hk hit' hpending hend => cases hroute.symm.trans hk
  obtain ⟨hl', hapart, hmem', hovertaking, hbase⟩ := hmissed
  obtain ⟨hheld, hlm⟩ :=
    hovertaking.run hl' hapart path.val_ne_empty hmem' hbase haside hfurther hm hfew
  obtain ⟨hreply, hidle', hworker⟩ := hlm.reply path.val_ne_empty rfl hsecond
  cases hheld with
  | inHand hworker' hnone' =>
    rw [hworker'] at hidle'
    cases hidle'
  | held n hwithin hroom hother =>
    rw [hwithin.find?] at hworker
    have hclaimed : Claimed u h { it with path := path.val } C ⟨path.val, r, results⟩ m' :=
      ⟨hreply, hans, hworker⟩
    exact hclaimed.run rfl haside' hlast hc.proper hidle

end Orders

/-- A Response that overtakes its reply completes the request as one that comes after it does, and
leaves the same record and the same route. -/
theorem early_response_equivalent {path : ObjectPath} {further further' last last' : List Action}
    {m m' t' : Tracker} (hs : (machine u).Reachable s) (hit : s.native.requests[h]? = some it)
    (hans : it.answered = false) (hflight : h ∈ s.inFlight)
    (hnone : ∀ y ∈ s.native.unclaimedResponses, y.path ≠ path.val)
    (hearly : Course u (Aside h path.val) h path.val s (.requestResponse path r results) further m
      (.callStarted h path) last t)
    (hlate : Course u (Aside h path.val) h path.val s (.callStarted h path) further' m'
      (.requestResponse path r results) last' t')
    (hfew : (heldElsewhere path.val m.history).length <
      (heldElsewhere path.val s.history).length + maxUnclaimedResponses)
    (hidle : t.worker.isIdle) :
    completionsOf h t.history = (h, r.toInt32, results) :: completionsOf h s.history ∧
    completionsOf h t'.history = (h, r.toInt32, results) :: completionsOf h s.history ∧
    t.native.requests[h]? = t'.native.requests[h]? ∧
    ∀ q : String, t.native.requestPaths[q]? = some h ↔ t'.native.requestPaths[q]? = some h := by
  obtain ⟨s', m', ⟨hfirst, -⟩, -, -, -, hp⟩ := hlate.split
  have hidle' : s.worker.isIdle := by
    cases Rule.of_step hfirst with
    | callStarted _ _ hidle _ => exact hidle
  have hl : Level u h path.val (some it) _ s := level_of_inFlight hs hp.once hit hflight hidle'
  have hend' := level_of_reply_first hl hans hnone hlate
  have hend : Level u h path.val (Request.answeredWith { it with path := path.val } r)
      ((h, r.toInt32, results) :: completionsOf h s.history) t := by
    by_cases hpath : it.path = path.val
    · have hsame : { it with path := path.val } = it := by rw [← hpath]
      rw [hsame]
      exact level_of_response_first_predicted hl hans hpath hearly
    · exact level_of_response_first_elsewhere hl hans hpath hflight hnone hfew hearly hidle
  have hlives : ∀ it', Request.answeredWith { it with path := path.val } r = some it' →
      it'.path = path.val :=
    fun it' hit' => path_of_answeredWith hit'
  refine ⟨hend.completions, hend'.completions, hend.record.trans hend'.record.symm, fun q => ?_⟩
  exact (hend.route_iff hearly.proper hlives q).trans (hend'.route_iff hlate.proper hlives q).symm

/-- An inhibition whose Response comes on another path than the handle, while a second call
returns. -/
theorem early_response_equivalent_inhibit : ∃ s m t m' t',
    (machine client).exec (machine client).init
      [.beginRequest 7 "Inhibit.Inhibit", .beginRequest 7 "OpenURI.OpenURI"] = some s ∧
    Course client (Aside firstHandle.val otherPath.val) firstHandle.val otherPath.val s
      (.requestResponse otherPath 0 [])
      [.resume, .callStarted secondHandle.val secondHandle, .resume] m
      (.callStarted firstHandle.val otherPath) [.resume] t ∧
    Course client (Aside firstHandle.val otherPath.val) firstHandle.val otherPath.val s
      (.callStarted firstHandle.val otherPath)
      [.resume, .callStarted secondHandle.val secondHandle, .resume] m'
      (.requestResponse otherPath 0 []) [.resume] t' ∧
    completionsOf firstHandle.val t.history = [(firstHandle.val, 0, [])] ∧
    completionsOf firstHandle.val t'.history = [(firstHandle.val, 0, [])] ∧
    t.native.requests[firstHandle.val]? = t'.native.requests[firstHandle.val]? ∧
    ∀ q : String, t.native.requestPaths[q]? = some firstHandle.val ↔
      t'.native.requestPaths[q]? = some firstHandle.val := by
  obtain ⟨s, hs, hlife, hflight, hheld, hcompletions, ⟨m, t, hearly, hfew, hidle⟩,
    ⟨m', t', hlate, -⟩⟩ := (machine client).exists_exec_of_any (machine client).init
    [.beginRequest 7 "Inhibit.Inhibit", .beginRequest 7 "OpenURI.OpenURI"]
    (P := fun s => s.native.life firstHandle.val = .pending ∧ firstHandle.val ∈ s.inFlight ∧
      s.native.unclaimedResponses.isEmpty = true ∧
      (completionsOf firstHandle.val s.history).isEmpty = true ∧
      (∃ m t, Course client (Aside firstHandle.val otherPath.val) firstHandle.val otherPath.val s
        (.requestResponse otherPath 0 [])
        [.resume, .callStarted secondHandle.val secondHandle, .resume] m
        (.callStarted firstHandle.val otherPath) [.resume] t ∧
        (heldElsewhere otherPath.val m.history).length <
          (heldElsewhere otherPath.val s.history).length + maxUnclaimedResponses ∧
        t.worker.isIdle) ∧
      ∃ m t, Course client (Aside firstHandle.val otherPath.val) firstHandle.val otherPath.val s
        (.callStarted firstHandle.val otherPath)
        [.resume, .callStarted secondHandle.val secondHandle, .resume] m
        (.requestResponse otherPath 0 []) [.resume] t ∧ True)
    (by decide +kernel)
  obtain ⟨it, hit, hans⟩ := life_eq_pending.mp hlife
  rw [List.isEmpty_iff] at hheld hcompletions
  have hboth := early_response_equivalent (Machine.reachable_of_exec hs) hit hans hflight
    (by simp [hheld]) hearly hlate hfew hidle
  rw [hcompletions] at hboth
  exact ⟨s, m, t, m', t', hs, hearly, hlate, hboth⟩

/-- The second request's Response comes on another path than predicted, and a Response on the path
predicted is held already. The reply of the first request, closed meanwhile, names that path: if
it comes before the reply of the second, the held Response completes the second. -/
theorem early_response_delivered_elsewhere : ∃ s m t m' t',
    (machine client).exec (machine client).init
      [.beginRequest 7 "OpenURI.OpenURI", .requestResponse secondHandle 1 [], .resume,
        .beginRequest 7 "OpenURI.OpenURI", .closeLookup firstHandle.val,
        .closeConfirmed firstHandle.val] = some s ∧
    s.native.life secondHandle.val = .pending ∧ secondHandle.val ∈ s.inFlight ∧
    (∀ y ∈ s.native.unclaimedResponses, y.path ≠ otherPath.val) ∧
    (completionsOf secondHandle.val s.history).isEmpty = true ∧
    (Course client (Foreign secondHandle.val otherPath.val) secondHandle.val otherPath.val s
      (.requestResponse otherPath 0 [])
      [.resume, .callStarted firstHandle.val secondHandle, .resume] m
      (.callStarted secondHandle.val otherPath) [.resume] t ∧
      (heldElsewhere otherPath.val m.history).length <
        (heldElsewhere otherPath.val s.history).length + maxUnclaimedResponses ∧
      t.worker.isIdle ∧ (completionsOf secondHandle.val t.history).map (·.2.1) = [1]) ∧
    Course client (Foreign secondHandle.val otherPath.val) secondHandle.val otherPath.val s
      (.callStarted secondHandle.val otherPath)
      [.resume, .callStarted firstHandle.val secondHandle, .resume] m'
      (.requestResponse otherPath 0 []) [.resume] t' ∧
      t'.worker.isIdle ∧
      (completionsOf secondHandle.val t'.history).map (·.2.1) = [0] := by
  obtain ⟨s, hs, hlife, hflight, hheld, hnone, ⟨m, t, hearly⟩, m', t', hlate⟩ :=
    (machine client).exists_exec_of_any (machine client).init
    [.beginRequest 7 "OpenURI.OpenURI", .requestResponse secondHandle 1 [], .resume,
      .beginRequest 7 "OpenURI.OpenURI", .closeLookup firstHandle.val,
      .closeConfirmed firstHandle.val]
    (P := fun s => s.native.life secondHandle.val = .pending ∧ secondHandle.val ∈ s.inFlight ∧
      (∀ y ∈ s.native.unclaimedResponses, y.path ≠ otherPath.val) ∧
      (completionsOf secondHandle.val s.history).isEmpty = true ∧
      (∃ m t, Course client (Foreign secondHandle.val otherPath.val) secondHandle.val
        otherPath.val s (.requestResponse otherPath 0 [])
        [.resume, .callStarted firstHandle.val secondHandle, .resume] m
        (.callStarted secondHandle.val otherPath) [.resume] t ∧
        (heldElsewhere otherPath.val m.history).length <
          (heldElsewhere otherPath.val s.history).length + maxUnclaimedResponses ∧
        t.worker.isIdle ∧
        (completionsOf secondHandle.val t.history).map (·.2.1) = [1]) ∧
      ∃ m t, Course client (Foreign secondHandle.val otherPath.val) secondHandle.val
        otherPath.val s (.callStarted secondHandle.val otherPath)
        [.resume, .callStarted firstHandle.val secondHandle, .resume] m
        (.requestResponse otherPath 0 []) [.resume] t ∧ t.worker.isIdle ∧
        (completionsOf secondHandle.val t.history).map (·.2.1) = [0])
    (by decide +kernel)
  exact ⟨s, m, t, m', t', hs, hlife, hflight, hheld, hnone, hearly, hlate⟩

end Tracker

end XdgPortals
