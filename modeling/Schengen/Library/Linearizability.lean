import Mathlib.Logic.Function.Basic
import Schengen.Library.Runs

/-!
# Atomic objects

An atomic object carries out an operation at one instant between its call and its return. A history of
calls and returns is linearizable where an atomic object has it too. When an operation of a concurrent
object takes effect can depend on later steps, so the rule for simulations may look at the end of a run.
-/

namespace Schengen.Library

/-- A call of an operation, or the return from it. -/
inductive CallEvent (τ O R : Type*)
  | call (thread : τ) (op : O)
  | ret (thread : τ) (result : R)
  deriving DecidableEq

/-- Whether a thread is in a call, and whether that call took effect. -/
inductive CallStatus (O R : Type*)
  | idle
  | called (op : O)
  | effected (result : R)

structure AtomicState (τ Q O R : Type*) where
  object : Q
  status : τ → CallStatus O R

variable {τ Q O R : Type*} [DecidableEq τ] (spec : Q → O → R → Q → Prop)

/-- One step of an atomic object with the events that it shows. -/
inductive AtomicStep (c : AtomicState τ Q O R) :
    List (CallEvent τ O R) → AtomicState τ Q O R → Prop
  | call {thread : τ} (op : O) (h : c.status thread = .idle) :
    AtomicStep c [.call thread op] ⟨c.object, Function.update c.status thread (.called op)⟩
  | effect {thread : τ} {op : O} {result : R} {object : Q} (h : c.status thread = .called op)
    (hspec : spec c.object op result object) :
    AtomicStep c [] ⟨object, Function.update c.status thread (.effected result)⟩
  | ret {thread : τ} {result : R} (h : c.status thread = .effected result) :
    AtomicStep c [.ret thread result] ⟨c.object, Function.update c.status thread .idle⟩

inductive AtomicRun : AtomicState τ Q O R → List (CallEvent τ O R) → AtomicState τ Q O R → Prop
  | nil (c : AtomicState τ Q O R) : AtomicRun c [] c
  | cons {c d e : AtomicState τ Q O R} {events later : List (CallEvent τ O R)}
    (hstep : AtomicStep spec c events d) (hrun : AtomicRun d later e) :
    AtomicRun c (events ++ later) e

/-- An atomic object that starts as `object` has this history. -/
def Linearizable (object : Q) (events : List (CallEvent τ O R)) : Prop :=
  ∃ c, AtomicRun spec ⟨object, fun _ => .idle⟩ events c

/-- Operations that the object carries out one after the other, each for a thread. -/
def LegalEffects : Q → List (τ × O × R) → Q → Prop
  | object, [], last => object = last
  | object, (_, op, result) :: effects, last =>
    ∃ next, spec object op result next ∧ LegalEffects next effects last

variable {spec} {c d e : AtomicState τ Q O R} {events later : List (CallEvent τ O R)}

lemma AtomicRun.append (h : AtomicRun spec c events d) (h' : AtomicRun spec d later e) :
    AtomicRun spec c (events ++ later) e := by
  induction h with
  | nil c => exact h'
  | cons hstep _ ih =>
    rw [List.append_assoc]
    exact .cons hstep (ih h')

lemma AtomicStep.run (h : AtomicStep spec c events d) : AtomicRun spec c events d := by
  have hrun := AtomicRun.cons h (.nil d)
  rwa [List.append_nil] at hrun

/-- Calls of different threads take effect one after the other. -/
lemma AtomicRun.effects {effects : List (τ × O × R)} {last : Q}
    (hdistinct : (effects.map Prod.fst).Nodup)
    (hcalled : ∀ effect ∈ effects, c.status effect.1 = .called effect.2.1)
    (hlegal : LegalEffects spec c.object effects last) :
    ∃ d, AtomicRun spec c [] d ∧ d.object = last ∧
      (∀ effect ∈ effects, d.status effect.1 = .effected effect.2.2) ∧
      ∀ thread, thread ∉ effects.map Prod.fst → d.status thread = c.status thread := by
  induction effects generalizing c with
  | nil => exact ⟨c, .nil c, hlegal, fun effect h => absurd h List.not_mem_nil, fun _ _ => rfl⟩
  | cons effect effects ih =>
    obtain ⟨thread, op, result⟩ := effect
    obtain ⟨next, hspec, hlegal⟩ := hlegal
    rw [List.map_cons, List.nodup_cons] at hdistinct
    have hstep := AtomicStep.effect (hcalled _ List.mem_cons_self) hspec
    have hothers : ∀ effect ∈ effects,
        Function.update c.status thread (.effected result) effect.1 = .called effect.2.1 := by
      intro effect heffect
      have hne : effect.1 ≠ thread := by
        intro heq
        have hmem : effect.1 ∈ effects.map Prod.fst := List.mem_map_of_mem heffect
        rw [heq] at hmem
        exact hdistinct.1 hmem
      rw [Function.update_of_ne hne]
      exact hcalled effect (List.mem_cons_of_mem _ heffect)
    obtain ⟨d, hrun, hobject, heffected, hsame⟩ :=
      ih (c := ⟨next, Function.update c.status thread (.effected result)⟩) hdistinct.2 hothers hlegal
    refine ⟨d, hstep.run.append hrun, hobject, ?_, ?_⟩
    · intro effect heffect
      rcases List.mem_cons.mp heffect with rfl | heffect
      · rw [hsame thread hdistinct.1]
        exact Function.update_self _ _ _
      · exact heffected effect heffect
    · intro other hother
      rw [List.map_cons, List.mem_cons, not_or] at hother
      rw [hsame other hother.2]
      exact Function.update_of_ne hother.1 _ _

section

variable {σ α : Type*} (step : σ → α → Option σ) (shows : σ → α → List (CallEvent τ O R))

/-- The calls and returns of a run. -/
def callHistory : σ → List α → List (CallEvent τ O R)
  | _, [] => []
  | s, a :: as =>
    shows s a ++
      match step s a with
      | some t => callHistory t as
      | none => []

variable {step shows}

/-- Rule for simulations by an atomic object. What `Sim` relates may depend on the end `f` of the
run. -/
theorem AtomicRun.of_simulation {I : σ → Prop} {guard : σ → α → Prop} {f : σ}
    {Sim : σ → AtomicState τ Q O R → Prop}
    (hinv : ∀ s a t, I s → guard s a → step s a = some t → I t)
    (hsim : ∀ s a rest t c, I s → Along step guard s (a :: rest) → exec step t rest = some f →
      step s a = some t → Sim s c → ∃ d, AtomicRun spec c (shows s a) d ∧ Sim t d)
    {s : σ} {as : List α} {c : AtomicState τ Q O R} (hs : I s) (hguard : Along step guard s as)
    (hrun : exec step s as = some f) (h : Sim s c) :
    ∃ d, AtomicRun spec c (callHistory step shows s as) d := by
  induction as generalizing s c with
  | nil => exact ⟨c, .nil c⟩
  | cons a as ih =>
    obtain ⟨t, ht, hrest⟩ := Option.bind_eq_some_iff.mp hrun
    obtain ⟨d, hfirst, hnext⟩ := hsim s a as t c hs hguard hrest ht h
    obtain ⟨e, hlater⟩ := ih (hinv s a t hs hguard.1 ht) (hguard.2 t ht) hrest hnext
    refine ⟨e, ?_⟩
    unfold callHistory
    rw [ht]
    exact hfirst.append hlater

end

end Schengen.Library
