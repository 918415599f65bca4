import XdgPortals.Tracker.Routing

/-!
# Steps of others

A step aside belongs to another request or to another client. Whatever such steps do, a request
that the portal shares no path with stays as it is.
-/

namespace XdgPortals

open XdgPortalNative

namespace Tracker

variable {u : UniqueName} {s s' t : Tracker} {a : Action} {h p : String}

/-- A step of other requests and other clients: it does not reply to or close `h`, receives no
Response on `p` or on the path `h` was predicted to have, and changes no owner. -/
def Foreign (h p : String) (s : Tracker) : Action → Prop
  | .callStarted k _ | .callFailed k _ | .closeConfirmed k => k ≠ h
  | .requestResponse path _ _ => path.val ≠ p ∧ path.val ≠ h
  | .portalAppeared owner => (s.native.onPortalAppeared owner).2 = false
  | .portalVanished => s.native.portalOwner = ""
  | _ => True

instance (h p : String) (s : Tracker) : DecidablePred (Foreign h p s)
  | .callStarted k _ | .callFailed k _ | .closeConfirmed k => inferInstanceAs (Decidable (k ≠ h))
  | .requestResponse path _ _ => inferInstanceAs (Decidable (path.val ≠ p ∧ path.val ≠ h))
  | .portalAppeared owner =>
    inferInstanceAs (Decidable ((s.native.onPortalAppeared owner).2 = false))
  | .portalVanished => inferInstanceAs (Decidable (s.native.portalOwner = ""))
  | .beginRequest .. | .resume | .closeLookup _ | .closeFailed .. => isTrue trivial

/-- The step delivers no Response held for the path `h` was predicted to have, which the reply of
another request may claim. -/
def Spares (h : String) (s : Tracker) : Action → Prop
  | .resume => ∀ e, s.worker = .callStarted (some e) → e.path ≠ h
  | _ => True

instance (h : String) (s : Tracker) : DecidablePred (Spares h s)
  | .resume =>
    match hworker : s.worker with
    | .callStarted (some e) => decidable_of_iff (e.path ≠ h)
      ⟨fun hne e' he => by cases hworker.symm.trans he; exact hne, fun hall => hall e hworker⟩
    | .callStarted none | .idle | .requestResponse .. | .portalAppeared _ | .portalVanished _ =>
      isTrue fun e he => by cases hworker.symm.trans he
  | .beginRequest .. | .callStarted .. | .callFailed .. | .requestResponse .. | .portalAppeared _
  | .portalVanished | .closeLookup _ | .closeConfirmed _ | .closeFailed .. => isTrue trivial

/-- A step aside: one of others, which spares `h`. -/
def Aside (h p : String) (s : Tracker) (a : Action) : Prop :=
  Foreign h p s a ∧ Spares h s a

instance (h p : String) (s : Tracker) : DecidablePred (Aside h p s) := fun a =>
  inferInstanceAs (Decidable (Foreign h p s a ∧ Spares h s a))

/-- `h` is the handle of one request so far, and `p` is no other request's path. -/
structure Proper (h p : String) (s : Tracker) : Prop where
  once : BegunOnce h s.history
  sole : Sole s.history h p

instance (h p : String) (s : Tracker) : Decidable (Proper h p s) :=
  decidable_of_iff (BegunOnce h s.history ∧ Sole s.history h p)
    ⟨fun hp => ⟨hp.1, hp.2⟩, fun hp => ⟨hp.once, hp.sole⟩⟩

lemma Proper.of_step (hstep : (machine u).step s a = some s') (hp : Proper h p s') :
    Proper h p s :=
  ⟨begunOnce_of_step hstep hp.once, sole_of_step hstep hp.sole⟩

/-! ### The request while others move -/

/-- The request `h` is as `v` says and has been completed as `C` says, and the worker is not about
to fail it. -/
structure Level (u : UniqueName) (h p : String) (v : Option Request)
    (C : List (String × Int32 × Dictionary)) (s : Tracker) : Prop where
  reach : (machine u).Reachable s
  begun : h ∈ begun s.history
  record : s.native.requests[h]? = v
  completions : completionsOf h s.history = C
  path : ∀ it, v = some it → it.path = h ∨ it.path = p
  calm : s.worker.isLosing = false

/-- The worker has no Response in hand that the request waits for. -/
def Apart (h p : String) (s : Tracker) : Prop :=
  s.native.Pending h → ∀ e, s.worker = .callStarted (some e) → e.path ≠ p

variable {v : Option Request} {C : List (String × Int32 × Dictionary)}

lemma Level.route_eq (hl : Level u h p v C s) (honce : BegunOnce h s.history)
    {q : String} (hq : s.native.route q = some h) : q = h ∨ q = p := by
  have hplace := sound_of_reachable hl.reach honce q hq
  obtain ⟨it, hit, rfl⟩ := place_eq_some.mp hplace
  exact hl.path it (hl.record.symm.trans hit)

/-- A step aside does not reach `h`. -/
lemma Level.untouched (hl : Level u h p v C s) (hapart : a = .resume → Apart h p s)
    (ha : Aside h p s a) (hp : Proper h p s') (hstep : (machine u).step s a = some s') :
    Untouched u s h a := by
  have honce := (hp.of_step hstep).once
  cases a with
  | beginRequest random context =>
    intro heq
    cases Rule.of_step hstep with
    | beginRequest _ _ =>
      have ho := hp.once
      rw [heq] at ho
      exact ho.not_mem hl.begun
  | callStarted k path => exact ha.1
  | callFailed k e => exact ha.1
  | closeConfirmed k => exact ha.1
  | requestResponse path r results =>
    intro _ hroute
    rcases hl.route_eq honce hroute with hpath | hpath
    · exact ha.1.2 hpath
    · exact ha.1.1 hpath
  | resume =>
    refine ⟨hl.calm, ?_⟩
    intro e he hpending hroute
    rcases hl.route_eq honce hroute with hpath | hpath
    · exact ha.2 e he hpath
    · exact hapart rfl hpending e he hpath
  | portalAppeared owner => trivial
  | portalVanished => trivial
  | closeLookup k => trivial
  | closeFailed k e => trivial

/-- What a step aside leaves the worker with. -/
lemma worker_aside (ha : Aside h p s a) (hp : Proper h p s') (hrule : Rule u s a s')
    (hcounted : Counted s) (hcalm : s.worker.isLosing = false) :
    s'.worker.isLosing = false ∧
      (s'.worker = s.worker ∨ ∀ e, s'.worker = .callStarted (some e) → e.path ≠ p) := by
  cases hrule with
  | beginRequest random context => exact ⟨hcalm, Or.inl rfl⟩
  | callStarted k path hidle hmem =>
    refine ⟨rfl, Or.inr fun e he hpath => ?_⟩
    cases hfind : (s.native.onCallStarted k path.val).2 with
    | none => rw [hfind] at he; cases he
    | some e' =>
      rw [hfind] at he
      cases he
      -- the claimed Response is on the path named, which is not `p`
      rw [onCallStarted_snd] at hfind
      have hnamed : e.path = path.val := by simpa using List.find?_some hfind
      refine ha.1 (hp.sole k ⟨hcounted.begun_of_mem hmem, Or.inr ?_⟩)
      rw [← hpath, hnamed]
      exact List.mem_cons_self ..
  | callFailed k error hidle hmem => exact ⟨hcalm, Or.inl rfl⟩
  | requestResponse path response results hidle t delivered hdeliver =>
    exact ⟨rfl, Or.inr fun e he => by cases he⟩
  | portalAppeared owner hidle => exact ⟨ha.1, Or.inr fun e he => by cases he⟩
  | portalVanished hidle =>
    refine ⟨?_, Or.inr fun e he => by cases he⟩
    simp only [Worker.isLosing, onPortalVanished, bne_eq_false_iff_eq]
    exact ha.1
  | resumeSettled hsettled => exact ⟨rfl, Or.inr fun e he => by cases he⟩
  | resumeEarly early hworker t delivered hdeliver =>
    exact ⟨rfl, Or.inr fun e he => by cases he⟩
  | resumeHold response hworker => exact ⟨rfl, Or.inr fun e he => by cases he⟩
  | resumeLost reason hlosing => exact ⟨rfl, Or.inr fun e he => by cases he⟩
  | closeLookup k path hpath => exact ⟨hcalm, Or.inl rfl⟩
  | closeConfirmed k hmem => exact ⟨hcalm, Or.inl rfl⟩
  | closeFailed k error hmem => exact ⟨hcalm, Or.inl rfl⟩

theorem Level.step (hl : Level u h p v C s) (hapart : a = .resume → Apart h p s)
    (ha : Aside h p s a) (hp : Proper h p s') (hstep : (machine u).step s a = some s') :
    Level u h p v C s' := by
  have hrule := Rule.of_step hstep
  obtain ⟨hrecord, hcompletions⟩ := (hl.untouched hapart ha hp hstep).keeps hrule
  obtain ⟨hcalm, -⟩ := worker_aside ha hp hrule (counted_of_reachable hl.reach) hl.calm
  obtain ⟨new, hnew⟩ := hrule.effect.history
  refine ⟨hl.reach.step hstep, ?_, hrecord.trans hl.record, hcompletions.trans hl.completions,
    hl.path, hcalm⟩
  rw [hnew, begun_append]
  exact List.mem_append_right _ hl.begun

lemma Level.apart_step (hl : Level u h p v C s) (hapart : Apart h p s) (ha : Aside h p s a)
    (hp : Proper h p s') (hstep : (machine u).step s a = some s') : Apart h p s' := by
  have hrule := Rule.of_step hstep
  have hrecord := ((hl.untouched (fun _ => hapart) ha hp hstep).keeps hrule).1
  rintro ⟨it, hit, hans⟩ e he
  rcases (worker_aside ha hp hrule (counted_of_reachable hl.reach) hl.calm).2 with hsame | hother
  · rw [hsame] at he
    exact hapart ⟨it, hrecord.symm.trans hit, hans⟩ e he
  · exact hother e he

/-- Over steps aside the request stays as it is. -/
lemma Level.run (hl : Level u h p v C s) (hapart : Apart h p s) {as : List Action}
    (haside : (machine u).Along (Aside h p) s as) (hrun : (machine u).exec s as = some t)
    (hp : Proper h p t) : Level u h p v C t := by
  have hboth := Machine.exec_induction_back (H := Proper h p)
    (P := fun s => Level u h p v C s ∧ Apart h p s) (fun _ _ _ hstep hp => hp.of_step hstep)
    (fun _ _ _ ha hp hl hstep => ⟨hl.1.step (fun _ => hl.2) ha hp hstep,
      hl.1.apart_step hl.2 ha hp hstep⟩) haside ⟨hl, hapart⟩ hrun hp
  exact hboth.1

end Tracker

end XdgPortals
