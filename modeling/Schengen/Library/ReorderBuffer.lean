import Mathlib.Logic.Function.Basic

/-!
# Reorder buffers

Items arrive in any order and are taken in the order of their keys: an item waits until the items
of all keys before its own are taken.
-/

namespace Schengen.Library

variable {α : Type*}

structure ReorderBuffer (α : Type*) where
  waiting : Nat → Option α
  next : Nat

namespace ReorderBuffer

variable (key : α → Nat) (last : Nat)

/-- The items that can be taken now, `fuel` at most. -/
def flush : Nat → ReorderBuffer α → List α × ReorderBuffer α
  | 0, b => ([], b)
  | fuel + 1, b =>
    match b.waiting b.next with
    | none => ([], b)
    | some a =>
      let rest := flush fuel ⟨Function.update b.waiting b.next none, b.next + 1⟩
      (a :: rest.1, rest.2)

/-- No key is above `last`. -/
def insert (a : α) (b : ReorderBuffer α) : List α × ReorderBuffer α :=
  flush (last + 1 - b.next) { b with waiting := Function.update b.waiting (key a) (some a) }

def taken : List α → ReorderBuffer α → List α × ReorderBuffer α
  | [], b => ([], b)
  | a :: as, b =>
    let now := b.insert key last a
    let later := taken as now.2
    (now.1 ++ later.1, later.2)

variable {key last} {b : ReorderBuffer α}

lemma flush_next (fuel : Nat) : (b.flush fuel).2.next = b.next + (b.flush fuel).1.length := by
  induction fuel generalizing b with
  | zero => rfl
  | succ fuel ih =>
    unfold flush
    cases b.waiting b.next with
    | none => rfl
    | some a =>
      simp only [ih, List.length_cons]
      omega

lemma taken_next (as : List α) :
    (taken key last as b).2.next = b.next + (taken key last as b).1.length := by
  induction as generalizing b with
  | nil => rfl
  | cons a as ih =>
    simp only [taken, ih, List.length_append, insert, flush_next]
    omega

/-- What is taken out is what was put in under that key. -/
lemma flush_each {P : Nat → α → Prop} {fuel : Nat}
    (hstored : ∀ j a, b.waiting j = some a → P j a) :
    (∀ i a, (b.flush fuel).1[i]? = some a → P (b.next + i) a) ∧
      ∀ j a, (b.flush fuel).2.waiting j = some a → P j a := by
  induction fuel generalizing b with
  | zero => exact ⟨fun i a h => by simp [flush] at h, hstored⟩
  | succ fuel ih =>
    unfold flush
    cases hnext : b.waiting b.next with
    | none => exact ⟨fun i a h => by simp at h, hstored⟩
    | some first =>
      have hrest := @ih ⟨Function.update b.waiting b.next none, b.next + 1⟩ fun j a h => by
        by_cases hj : j = b.next
        · simp [hj] at h
        · exact hstored j a (by simpa [hj] using h)
      refine ⟨fun i a h => ?_, hrest.2⟩
      cases i with
      | zero =>
        obtain rfl : first = a := by simpa using h
        exact hstored _ _ hnext
      | succ i =>
        have hlater := hrest.1 i a (by simpa using h)
        rwa [show b.next + 1 + i = b.next + (i + 1) by omega] at hlater

/-- The items are taken in the order of their keys. -/
lemma taken_each {P : Nat → α → Prop} {as : List α} (hstored : ∀ j a, b.waiting j = some a → P j a)
    (harrive : ∀ a ∈ as, P (key a) a) :
    ∀ i a, (taken key last as b).1[i]? = some a → P (b.next + i) a := by
  induction as generalizing b with
  | nil => exact fun i a h => by simp [taken] at h
  | cons first as ih =>
    intro i a h
    have hnow := @flush_each _ { b with waiting := Function.update b.waiting (key first) (some first) }
      P (last + 1 - b.next) fun j x hx => by
        by_cases hj : j = key first
        · obtain rfl : first = x := by simpa [hj] using hx
          rw [hj]
          exact harrive first List.mem_cons_self
        · exact hstored j x (by simpa [hj] using hx)
    change ((b.insert key last first).1 ++
      (taken key last as (b.insert key last first).2).1)[i]? = some a at h
    have hlength := @flush_next _ { b with
      waiting := Function.update b.waiting (key first) (some first) } (last + 1 - b.next)
    rcases Nat.lt_or_ge i (b.insert key last first).1.length with hlt | hge
    · rw [List.getElem?_append_left hlt] at h
      exact hnow.1 i a h
    · rw [List.getElem?_append_right hge] at h
      have hlater := ih hnow.2 (fun x hx => harrive x (List.mem_cons_of_mem _ hx)) _ a h
      rw [show (flush (last + 1 - b.next) { b with
        waiting := Function.update b.waiting (key first) (some first) }).2.next =
          b.next + (b.insert key last first).1.length from hlength] at hlater
      rwa [show b.next + (b.insert key last first).1.length +
        (i - (b.insert key last first).1.length) = b.next + i by omega] at hlater

/-- Taking stops at the first key without an item. -/
lemma flush_stops (fuel : Nat) : (b.flush fuel).2.waiting (b.flush fuel).2.next = none ∨
    (b.flush fuel).2.next = b.next + fuel := by
  induction fuel generalizing b with
  | zero => exact .inr rfl
  | succ fuel ih =>
    unfold flush
    cases hnext : b.waiting b.next with
    | none => exact .inl hnext
    | some a =>
      refine (@ih ⟨Function.update b.waiting b.next none, b.next + 1⟩).imp_right fun hend => ?_
      simp only [hend]
      omega

lemma flush_next_le (fuel : Nat) : (b.flush fuel).2.next ≤ b.next + fuel := by
  induction fuel generalizing b with
  | zero => exact Nat.le_refl _
  | succ fuel ih =>
    unfold flush
    cases b.waiting b.next with
    | none => exact Nat.le_add_right _ _
    | some a =>
      have hrest := @ih ⟨Function.update b.waiting b.next none, b.next + 1⟩
      simp only at hrest ⊢
      omega

/-- An item is taken or goes on waiting. -/
lemma flush_kept {j : Nat} (fuel : Nat) (h : j < b.next ∨ (b.waiting j).isSome = true) :
    j < (b.flush fuel).2.next ∨ ((b.flush fuel).2.waiting j).isSome = true := by
  induction fuel generalizing b with
  | zero => exact h
  | succ fuel ih =>
    unfold flush
    cases hnext : b.waiting b.next with
    | none => exact h
    | some a =>
      refine @ih ⟨Function.update b.waiting b.next none, b.next + 1⟩ ?_
      by_cases hj : j < b.next + 1
      · exact .inl hj
      · refine .inr ?_
        change (Function.update b.waiting b.next none j).isSome = true
        rw [Function.update_of_ne (by omega)]
        exact h.resolve_left (by omega)

/-- After every item, the next one to take is missing. -/
lemma taken_stops (as : List α) (h : b.waiting b.next = none ∨ last < b.next) :
    (taken key last as b).2.waiting (taken key last as b).2.next = none ∨
      last < (taken key last as b).2.next := by
  induction as generalizing b with
  | nil => exact h
  | cons a as ih =>
    refine ih ((flush_stops _).imp_right fun hend => ?_)
    unfold insert
    rw [hend]
    simp only
    omega

lemma taken_next_le (as : List α) (h : b.next ≤ last + 1) :
    (taken key last as b).2.next ≤ last + 1 := by
  induction as generalizing b with
  | nil => exact h
  | cons a as ih =>
    refine ih (Nat.le_trans (flush_next_le _) ?_)
    simp only
    omega

/-- An item that arrives is taken or waits. -/
lemma taken_kept {j : Nat} (as : List α)
    (h : (j < b.next ∨ (b.waiting j).isSome = true) ∨ ∃ a ∈ as, key a = j) :
    j < (taken key last as b).2.next ∨ ((taken key last as b).2.waiting j).isSome = true := by
  induction as generalizing b with
  | nil =>
    refine h.resolve_right ?_
    rintro ⟨a, ha, -⟩
    cases ha
  | cons first as ih =>
    refine ih ?_
    by_cases hfirst : key first = j
    · refine .inl (flush_kept _ (.inr ?_))
      simp [hfirst]
    · rcases h with hbefore | ⟨a, ha, hkey⟩
      · refine .inl (flush_kept _ (hbefore.imp_right fun hwaits => ?_))
        simpa [Function.update_of_ne (Ne.symm hfirst)] using hwaits
      · rcases List.mem_cons.mp ha with rfl | hrest
        · exact absurd hkey hfirst
        · exact .inr ⟨a, hrest, hkey⟩

/-- Nothing arrived for the first key that was not taken. -/
lemma taken_missing {as : List α}
    (h : (taken key last as ⟨fun _ => none, 1⟩).1.length < last) {a : α} (ha : a ∈ as) :
    key a ≠ (taken key last as ⟨fun _ => none, 1⟩).1.length + 1 := by
  intro hkey
  have hnext := @taken_next _ key last ⟨fun _ => none, 1⟩ as
  have hkept := @taken_kept _ key last ⟨fun _ => none, 1⟩ _ as (.inr ⟨a, ha, hkey⟩)
  rcases @taken_stops _ key last ⟨fun _ => none, 1⟩ as (.inl rfl) with hnone | hend
  · rw [hnext, Nat.add_comm 1] at hnone hkept
    rw [hnone] at hkept
    simp at hkept
  · rw [hnext] at hend
    simp only at hend
    omega

end ReorderBuffer

end Schengen.Library
