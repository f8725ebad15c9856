import Mathlib.Data.List.Basic
import Mathlib.Data.List.Induction
import Mathlib.Data.Option.Basic

/-!
# Runs of a transition system

A transition system is a partial step function: `step s a` is the state after action `a`,
or `none` where the action is not enabled. A run is a list of actions. This file states
the invariant rule for runs, also for runs whose steps all meet a guard.
-/

namespace Schengen.Library

variable {σ α : Type*} (step : σ → α → Option σ)

/-- The state reached from `s` by the given actions, if all of them are enabled. -/
def exec : σ → List α → Option σ
  | s, [] => some s
  | s, a :: as => (step s a).bind (fun t => exec t as)

/-- Every step of the run meets `P` in the state it is taken in. -/
def Along (P : σ → α → Prop) : σ → List α → Prop
  | _, [] => True
  | s, a :: as => P s a ∧ ∀ t, step s a = some t → Along P t as

/-- States reached by some run. -/
def Reachable (init s : σ) : Prop :=
  ∃ as, exec step init as = some s

@[simp] lemma exec_nil (s : σ) : exec step s [] = some s := rfl

@[simp] lemma exec_cons (s : σ) (a : α) (as : List α) :
    exec step s (a :: as) = (step s a).bind (fun t => exec step t as) := rfl

lemma exec_append (s : σ) (as bs : List α) :
    exec step s (as ++ bs) = (exec step s as).bind (fun t => exec step t bs) := by
  induction as generalizing s with
  | nil => rfl
  | cons a as ih =>
    cases h : step s a with
    | none => simp [h]
    | some t => simp [h, ih]

lemma exec_concat {s t u : σ} {as : List α} {a : α} (hrun : exec step s as = some t)
    (hstep : step t a = some u) : exec step s (as ++ [a]) = some u := by
  rw [exec_append, hrun]
  simp [hstep]

variable {step}

instance Along.decidable (P : σ → α → Prop) [∀ s a, Decidable (P s a)] (s : σ) (as : List α) :
    Decidable (Along step P s as) :=
  match as with
  | [] => isTrue trivial
  | a :: as =>
    match h : step s a with
    | none => decidable_of_iff (P s a) ⟨fun hp => ⟨hp, fun t ht => by simp [h] at ht⟩, And.left⟩
    | some t =>
      have := Along.decidable P t as
      decidable_of_iff (P s a ∧ Along step P t as)
        ⟨fun hp => ⟨hp.1, fun u hu => by cases h.symm.trans hu; exact hp.2⟩,
          fun hp => ⟨hp.1, hp.2 t h⟩⟩

lemma along_of_forall {P : σ → α → Prop} (hP : ∀ s a, P s a) (s : σ) (as : List α) :
    Along step P s as := by
  induction as generalizing s with
  | nil => trivial
  | cons a as ih => exact ⟨hP s a, fun t _ => ih t⟩

lemma along_append {P : σ → α → Prop} {s t : σ} {as bs : List α}
    (hrun : exec step s as = some t) :
    Along step P s (as ++ bs) ↔ Along step P s as ∧ Along step P t bs := by
  induction as generalizing s with
  | nil =>
    cases hrun
    simp [Along]
  | cons a as ih =>
    obtain ⟨u, hu, hrun⟩ := Option.bind_eq_some_iff.mp hrun
    constructor
    · rintro ⟨ha, hrest⟩
      obtain ⟨h1, h2⟩ := (ih hrun).mp (hrest u hu)
      exact ⟨⟨ha, fun v hv => by cases hu.symm.trans hv; exact h1⟩, h2⟩
    · rintro ⟨⟨ha, hrest⟩, h2⟩
      exact ⟨ha, fun v hv => by cases hu.symm.trans hv; exact (ih hrun).mpr ⟨hrest u hu, h2⟩⟩

/-- Invariant rule: what guarded steps preserve, guarded runs preserve. -/
theorem exec_invariant {I : σ → Prop} {guard : σ → α → Prop}
    (hstep : ∀ s a t, I s → guard s a → step s a = some t → I t)
    {s t : σ} {as : List α} (hs : I s) (hguard : Along step guard s as)
    (hrun : exec step s as = some t) : I t := by
  induction as generalizing s with
  | nil =>
    cases hrun
    exact hs
  | cons a as ih =>
    obtain ⟨u, hu, hrun⟩ := Option.bind_eq_some_iff.mp hrun
    exact ih (hstep s a u hs hguard.1 hu) (hguard.2 u hu) hrun

/-- Where a step outside the guard ends in a state without `P`, the runs that have `P` in every
state are those that stay within the guard. -/
theorem along_iff_invariant {I P : σ → Prop} {guard : σ → α → Prop} (hP : ∀ s, I s → P s)
    (hstep : ∀ s a t, I s → guard s a → step s a = some t → I t)
    (hbreak : ∀ s a t, I s → ¬ guard s a → step s a = some t → ¬ P t)
    {s t : σ} {as : List α} (hs : I s) (hrun : exec step s as = some t) :
    (∀ taken rest u, as = taken ++ rest → exec step s taken = some u → P u) ↔
      Along step guard s as := by
  induction as generalizing s with
  | nil =>
    refine iff_of_true (fun taken rest u has htaken => ?_) trivial
    obtain ⟨rfl, -⟩ := List.append_eq_nil_iff.mp has.symm
    cases htaken
    exact hP s hs
  | cons a as ih =>
    obtain ⟨u, hu, hrun⟩ := Option.bind_eq_some_iff.mp hrun
    constructor
    · intro hkeep
      have hguard : guard s a := by
        by_contra hbad
        exact hbreak s a u hs hbad hu (hkeep [a] as u rfl (by simp [hu]))
      refine ⟨hguard, fun v hv => ?_⟩
      cases hu.symm.trans hv
      refine (ih (hstep s a u hs hguard hu) hrun).mp fun taken rest w has htaken => ?_
      exact hkeep (a :: taken) rest w (by rw [has]; rfl) (by simp [hu, htaken])
    · rintro ⟨hguard, hrest⟩ taken rest w has htaken
      cases taken with
      | nil =>
        cases htaken
        exact hP s hs
      | cons b taken =>
        obtain ⟨rfl, htail⟩ := List.cons_eq_cons.mp has
        obtain ⟨v, hv, htaken⟩ := Option.bind_eq_some_iff.mp htaken
        cases hu.symm.trans hv
        exact (ih (hstep s a u hs hguard hu) hrun).mpr (hrest u hu) taken rest w htail htaken

/-- Invariant rule for reachable states. -/
theorem Reachable.invariant {I : σ → Prop} {init : σ} (hinit : I init)
    (hstep : ∀ s a t, I s → step s a = some t → I t) {s : σ}
    (h : Reachable step init s) : I s := by
  obtain ⟨as, hrun⟩ := h
  have hfree : Along step (fun _ _ => True) init as := along_of_forall (fun _ _ => trivial) init as
  exact exec_invariant (fun s a t hs _ ht => hstep s a t hs ht) hinit hfree hrun

/-- Invariant rule for what depends on the actions taken. -/
theorem exec_history {I : List α → σ → Prop} {init : σ} (hinit : I [] init)
    (hstep : ∀ as s a t, I as s → step s a = some t → I (as ++ [a]) t) {s : σ} {as : List α}
    (hrun : exec step init as = some s) : I as s := by
  induction as using List.reverseRecOn generalizing s with
  | nil =>
    cases hrun
    exact hinit
  | append_singleton as a ih =>
    rw [exec_append] at hrun
    obtain ⟨t, ht, hlast⟩ := Option.bind_eq_some_iff.mp hrun
    obtain ⟨u, hu, hend⟩ := Option.bind_eq_some_iff.mp hlast
    cases hend
    exact hstep as t a _ (ih ht) hu

/-- A measure that every step decreases bounds the length of the runs. -/
theorem exec_length_le {I : σ → Prop} (measure : σ → Nat)
    (hstep : ∀ s a t, I s → step s a = some t → I t ∧ measure t < measure s) {s t : σ} {as : List α}
    (hs : I s) (hrun : exec step s as = some t) : as.length + measure t ≤ measure s := by
  induction as generalizing s with
  | nil =>
    cases hrun
    simp
  | cons a as ih =>
    obtain ⟨u, hu, hrun⟩ := Option.bind_eq_some_iff.mp hrun
    obtain ⟨hnext, hlt⟩ := hstep s a u hs hu
    have hrest := ih hnext hrun
    rw [List.length_cons]
    omega

lemma Reachable.init (s : σ) : Reachable step s s := ⟨[], rfl⟩

lemma Reachable.next {init s t : σ} {a : α} (h : Reachable step init s)
    (hstep : step s a = some t) : Reachable step init t := by
  obtain ⟨as, hrun⟩ := h
  exact ⟨as ++ [a], exec_concat step hrun hstep⟩

end Schengen.Library
