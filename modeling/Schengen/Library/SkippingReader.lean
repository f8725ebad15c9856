import Schengen.Library.Runs

/-!
# Readers that can skip

A reader returns rows one after the other; a call may also skip a row, and a reset starts again.
Where skipping a row leaves the reader as reading it does, the rows that are read do not depend on
what was skipped.
-/

namespace Schengen.Library

variable {σ ρ α : Type*}

structure SkippingReader (σ ρ α : Type*) where
  initial : σ
  reset : α → σ → σ
  next : σ → Option (ρ × σ)
  skip : σ → Option σ

inductive ReaderCall (α : Type*)
  | reset (args : α)
  | next
  | skip

namespace SkippingReader

variable (it : SkippingReader σ ρ α)

/-- A call at the end of the rows changes nothing. -/
def call (s : σ) : ReaderCall α → σ
  | .reset args => it.reset args s
  | .next => ((it.next s).map Prod.snd).getD s
  | .skip => (it.skip s).getD s

/-- The states after any calls on a new reader. -/
def Reaches (s : σ) : Prop := Reachable (fun s c => some (it.call s c)) it.initial s

/-- The state before call `i`, where call `j` reads if `pattern j` and skips otherwise. -/
def before (pattern : Nat → Bool) : Nat → σ → σ
  | 0, s => s
  | i + 1, s => it.call (before pattern i s) (if pattern i then .next else .skip)

/-- What call `i` returns if it reads. -/
def rowAt (pattern : Nat → Bool) (i : Nat) (s : σ) : Option ρ :=
  (it.next (it.before pattern i s)).map Prod.fst

/-- What call `i` returns where every call reads. -/
def readAt (i : Nat) (s : σ) : Option ρ := it.rowAt (fun _ => true) i s

/-- The rows that are read are those at the same positions where every call reads. -/
def Agrees (pattern : Nat → Bool) (s : σ) : Prop :=
  ∀ i, pattern i = true → it.rowAt pattern i s = it.readAt i s

/-- After the reset the rows are those of a new reader. -/
def Forgets (args : α) (s : σ) : Prop :=
  ∀ i, it.readAt i (it.reset args s) = it.readAt i (it.reset args it.initial)

variable {it} {I : σ → Prop} {s t : σ} {pattern : Nat → Bool}

lemma call_next (hnext : ∀ s row t, I s → it.next s = some (row, t) → I t) (hs : I s) :
    I (it.call s .next) := by
  simp only [call]
  cases h : it.next s with
  | none => exact hs
  | some next => exact hnext s next.1 next.2 hs h

lemma call_skip (hskip : ∀ s t, I s → it.skip s = some t → I t) (hs : I s) :
    I (it.call s .skip) := by
  simp only [call]
  cases h : it.skip s with
  | none => exact hs
  | some t => exact hskip s t hs h

/-- What every call keeps holds of the states that are reached. -/
theorem Reaches.invariant (hinitial : I it.initial) (hreset : ∀ args s, I s → I (it.reset args s))
    (hnext : ∀ s row t, I s → it.next s = some (row, t) → I t)
    (hskip : ∀ s t, I s → it.skip s = some t → I t) (h : it.Reaches s) : I s := by
  refine Reachable.invariant hinitial (fun s c t hs hcall => ?_) h
  cases hcall
  cases c with
  | reset args => exact hreset args s hs
  | next => exact call_next hnext hs
  | skip => exact call_skip hskip hs

lemma Reaches.initial : it.Reaches it.initial := Reachable.init it.initial

lemma Reaches.call (h : it.Reaches s) (c : ReaderCall α) : it.Reaches (it.call s c) :=
  Reachable.next h (a := c) rfl

lemma before_invariant (hnext : ∀ s row t, I s → it.next s = some (row, t) → I t)
    (hskip : ∀ s t, I s → it.skip s = some t → I t) (hs : I s) (i : Nat) :
    I (it.before pattern i s) := by
  induction i with
  | zero => exact hs
  | succ i ih =>
    unfold before
    cases pattern i with
    | true => exact call_next hnext ih
    | false => exact call_skip hskip ih

/-- Skipping is reading without a result. -/
theorem agrees_of_skip (hnext : ∀ s row t, I s → it.next s = some (row, t) → I t)
    (hskip : ∀ s, I s → it.skip s = (it.next s).map Prod.snd) (hs : I s)
    (pattern : Nat → Bool) : it.Agrees pattern s := by
  have hskipped : ∀ s t, I s → it.skip s = some t → I t := by
    intro s t hs ht
    obtain ⟨⟨row, u⟩, hrow, rfl⟩ := Option.map_eq_some_iff.mp ((hskip s hs).symm.trans ht)
    exact hnext s row u hs hrow
  have hsame : ∀ i, it.before pattern i s = it.before (fun _ => true) i s := by
    intro i
    induction i with
    | zero => rfl
    | succ i ih =>
      have hkept : I (it.before pattern i s) := before_invariant hnext hskipped hs i
      unfold before
      rw [← ih]
      cases pattern i with
      | true => rfl
      | false =>
        change (it.skip _).getD _ = ((it.next _).map Prod.snd).getD _
        rw [hskip _ hkept]
  intro i _
  rw [readAt, rowAt, rowAt, hsame i]

/-- The states do not depend on what the rows are. -/
lemma before_congr {it' : SkippingReader σ ρ α}
    (hnext : ∀ s, (it.next s).map Prod.snd = (it'.next s).map Prod.snd)
    (hskip : ∀ s, it.skip s = it'.skip s) (pattern : Nat → Bool) (i : Nat) :
    it.before pattern i s = it'.before pattern i s := by
  induction i with
  | zero => rfl
  | succ i ih =>
    unfold before
    rw [ih]
    cases pattern i with
    | true =>
      change ((it.next _).map Prod.snd).getD _ = ((it'.next _).map Prod.snd).getD _
      rw [hnext]
    | false =>
      change (it.skip _).getD _ = (it'.skip _).getD _
      rw [hskip]

lemma call_end (hnext : it.next s = none) (hskip : it.skip s = none) (reads : Bool) :
    it.call s (if reads then .next else .skip) = s := by
  cases reads with
  | true => simp [call, hnext]
  | false => simp [call, hskip]

/-- A reader at the end stays there. -/
lemma readAt_end (h : it.next s = none) (i : Nat) : it.readAt i s = none := by
  have hsame : it.before (fun _ => true) i s = s := by
    induction i with
    | zero => rfl
    | succ i ih =>
      unfold before
      rw [ih]
      simp [call, h]
  rw [readAt, rowAt, hsame, h]
  rfl

end SkippingReader

end Schengen.Library
