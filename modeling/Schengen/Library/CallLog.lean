import Mathlib.Data.List.Basic

/-!
# Logs of calls

A component answers each call by the calls before it. What a caller may conclude from the
answers is stated about the log: which of its calls were good in their place.
-/

namespace Schengen.Library

variable {γ : Type*} (good : List γ → γ → Prop)

/-- Every one of `calls`, made after the calls `before`, is good. -/
def Accepted : List γ → List γ → Prop
  | _, [] => True
  | before, c :: calls => good before c ∧ Accepted (before ++ [c]) calls

variable {good} {before calls more : List γ} {c : γ}

@[simp] lemma accepted_nil : Accepted good before [] := trivial

@[simp] lemma accepted_cons :
    Accepted good before (c :: calls) ↔ good before c ∧ Accepted good (before ++ [c]) calls := Iff.rfl

lemma accepted_append : Accepted good before (calls ++ more) ↔
    Accepted good before calls ∧ Accepted good (before ++ calls) more := by
  induction calls generalizing before with
  | nil => simp only [List.nil_append, List.append_nil, accepted_nil, true_and]
  | cons c calls ih =>
    simp only [List.cons_append, accepted_cons, ih, List.append_assoc, List.nil_append, and_assoc]

lemma accepted_concat :
    Accepted good before (calls ++ [c]) ↔ Accepted good before calls ∧ good (before ++ calls) c := by
  rw [accepted_append, accepted_cons]
  simp only [accepted_nil, and_true]

lemma accepted_of_forall (h : ∀ before c, good before c) : Accepted good before calls := by
  induction calls generalizing before with
  | nil => trivial
  | cons c calls ih => exact ⟨h before c, ih⟩

/-! ## After the first bad call -/

/-- After a call that is bad in its place only quiet ones follow. -/
def QuietAfter (bad : List γ → γ → Prop) (quiet : γ → Prop) (calls : List γ) : Prop :=
  ∀ before c after, calls = before ++ c :: after → bad before c → ∀ d ∈ after, quiet d

variable {bad : List γ → γ → Prop} {quiet : γ → Prop}

lemma Accepted.at (h : Accepted good before (calls ++ c :: more)) : good (before ++ calls) c :=
  (accepted_append.mp h).2.1

/-- Where no call is bad but perhaps the last one, nothing follows a bad call. -/
lemma quietAfter_concat (h : Accepted (fun before c => ¬ bad before c) [] calls) (c : γ) :
    QuietAfter bad quiet (calls ++ [c]) := by
  intro before d after hcalls hbad
  rcases List.eq_nil_or_concat after with rfl | ⟨most, last, rfl⟩
  · exact fun e he => absurd he List.not_mem_nil
  · rw [List.concat_eq_append, ← List.cons_append, ← List.append_assoc] at hcalls
    obtain ⟨rfl, -⟩ := List.append_inj' hcalls rfl
    exact absurd hbad h.at

lemma quietAfter_of_accepted (h : Accepted (fun before c => ¬ bad before c) [] calls) :
    QuietAfter bad quiet calls := by
  intro before c after hcalls hbad
  subst hcalls
  exact absurd hbad h.at

lemma QuietAfter.of_append (h : QuietAfter bad quiet (calls ++ more)) :
    QuietAfter bad quiet calls := by
  intro before c after hcalls hbad d hd
  refine h before c (after ++ more) ?_ hbad d (List.mem_append_left _ hd)
  rw [hcalls, List.append_assoc, List.cons_append]

lemma not_quietAfter {d : γ} {rest : List γ} (hbad : bad before c) (hd : ¬ quiet d) :
    ¬ QuietAfter bad quiet (before ++ [c] ++ d :: rest) := by
  intro h
  refine hd (h before c (d :: rest) ?_ hbad d List.mem_cons_self)
  rw [List.append_assoc, List.singleton_append]

end Schengen.Library
