import XdgPortals.Library.Runs

/-!
# Views of a machine

A machine is seen as another one through a view of its states: every step is seen as a run of the
other machine, which is empty when there is nothing to see. A view may end: a state without one
is never left for a state with one.
-/

universe u v w x

namespace Machine

variable {S : Type u} {A : Type v} {T : Type w} {B : Type x}

lemma along_append {N : Machine T B} {D : T → B → Prop} {t : T} {bs cs : List B}
    (hbs : N.Along D t bs) (hcs : ∀ t', N.exec t bs = some t' → N.Along D t' cs) :
    N.Along D t (bs ++ cs) := by
  induction bs generalizing t with
  | nil => exact hcs t rfl
  | cons b bs ih =>
    refine ⟨hbs.1, fun t' hb => ih (hbs.2 t' hb) fun t'' hrun => ?_⟩
    exact hcs t'' (N.exec_cons_eq_some.mpr ⟨t', hb, hrun⟩)

/-- The other machine takes the steps that are seen. -/
structure Simulation (M : Machine S A) (N : Machine T B) where
  view : S → Option T
  actions : S → A → List B
  init : view M.init = some N.init
  step : ∀ {s a s' t'}, M.Reachable s → M.step s a = some s' → view s' = some t' →
    ∃ t, view s = some t ∧ N.exec t (actions s a) = some t'

namespace Simulation

variable {M : Machine S A} {N : Machine T B} (sim : Simulation M N)

/-- What is seen of a run. -/
def seen (s : S) : List A → List B
  | []      => []
  | a :: as =>
    match M.step s a with
    | none    => []
    | some s' => sim.actions s a ++ seen s' as

lemma seen_cons_of_some {s s' : S} {a : A} {as : List A} (h : M.step s a = some s') :
    sim.seen s (a :: as) = sim.actions s a ++ sim.seen s' as := by
  simp only [seen, h]

/-- Every run is seen as a run. -/
theorem exec_seen {s s' : S} {t' : T} {as : List A} (hs : M.Reachable s)
    (h : M.exec s as = some s') (ht' : sim.view s' = some t') :
    ∃ t, sim.view s = some t ∧ N.exec t (sim.seen s as) = some t' := by
  induction as generalizing s with
  | nil =>
    cases h
    exact ⟨t', ht', rfl⟩
  | cons a as ih =>
    obtain ⟨r, ha, has⟩ := M.exec_cons_eq_some.mp h
    obtain ⟨q, hq, hrest⟩ := ih (hs.step ha) has
    obtain ⟨t, ht, hfirst⟩ := sim.step hs ha hq
    refine ⟨t, ht, ?_⟩
    rw [sim.seen_cons_of_some ha]
    exact N.exec_append_eq_some.mpr ⟨q, hfirst, hrest⟩

/-- A run from the start on is seen as one from the start on. -/
theorem exec_init {s : S} {t : T} {as : List A} (h : M.exec M.init as = some s)
    (ht : sim.view s = some t) : N.exec N.init (sim.seen M.init as) = some t := by
  obtain ⟨t₀, ht₀, hrun⟩ := sim.exec_seen .init h ht
  cases sim.init.symm.trans ht₀
  exact hrun

/-- What every step of a run meets, what is seen of it meets. -/
theorem along_seen {C : S → A → Prop} {D : T → B → Prop}
    (hseen : ∀ s a t, sim.view s = some t → C s a → N.Along D t (sim.actions s a)) {s s' : S}
    {t t' : T} {as : List A} (hs : M.Reachable s) (h : M.exec s as = some s')
    (ht : sim.view s = some t) (ht' : sim.view s' = some t') (hC : M.Along C s as) :
    N.Along D t (sim.seen s as) := by
  induction as generalizing s t with
  | nil => trivial
  | cons a as ih =>
    obtain ⟨r, ha, has⟩ := M.exec_cons_eq_some.mp h
    obtain ⟨q, hq, -⟩ := sim.exec_seen (hs.step ha) has ht'
    obtain ⟨t₀, ht₀, hfirst⟩ := sim.step hs ha hq
    cases ht.symm.trans ht₀
    rw [sim.seen_cons_of_some ha]
    refine along_append (hseen s a t ht hC.1) fun q' hq' => ?_
    cases hfirst.symm.trans hq'
    exact ih (hs.step ha) has hq (hC.2 r ha)

/-- What is seen of a reachable state is reachable. -/
theorem reachable {s : S} {t : T} (hs : M.Reachable s) (ht : sim.view s = some t) :
    N.Reachable t := by
  induction hs generalizing t with
  | init =>
    cases sim.init.symm.trans ht
    exact .init
  | step hr ha ih =>
    obtain ⟨r, hview, hrun⟩ := sim.step hr ha ht
    exact (ih hview).exec hrun

/-- An invariant of the other machine is one of what is seen. -/
theorem invariant {P : T → Prop} (hP : ∀ t, N.Reachable t → P t) {s : S} {t : T}
    (hs : M.Reachable s) (ht : sim.view s = some t) : P t :=
  hP t (sim.reachable hs ht)

end Simulation

/-- One step, as a run. -/
lemma exec_singleton {N : Machine T B} {t t' : T} {b : B} (h : N.step t b = some t') :
    N.exec t [b] = some t' :=
  N.exec_cons_eq_some.mpr ⟨t', h, rfl⟩

end Machine
