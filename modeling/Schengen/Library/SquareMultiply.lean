import Mathlib.Logic.Function.Iterate
import Mathlib.Tactic.Common

/-!
# Exponentiation by squaring

The loop that applies a map `n` times in logarithmic time: `sq` squares the current
multiplier and `act` applies it. It agrees with `n` single steps wherever one application
of the squared multiplier is two applications of the multiplier.
-/

namespace Schengen.Library
open Function

variable {μ χ : Type*}

def squareMultiply (sq : μ → μ) (act : μ → χ → χ) (m : μ) (x : χ) (n : Nat) : χ :=
  if n = 0 then x
  else squareMultiply sq act (sq m) (if n % 2 ≠ 0 then act m x else x) (n / 2)
termination_by n

variable {sq : μ → μ} {act : μ → χ → χ} {P : μ → Prop} {Q : χ → Prop}

lemma iterate_closed (hact : ∀ m x, P m → Q x → Q (act m x)) {m : μ} (hm : P m) {x : χ}
    (hx : Q x) (n : Nat) : Q ((act m)^[n] x) := by
  induction n with
  | zero => exact hx
  | succ n ih =>
    rw [iterate_succ_apply']
    exact hact m _ hm ih

lemma iterate_square (hact : ∀ m x, P m → Q x → Q (act m x))
    (hsq : ∀ m x, P m → Q x → act (sq m) x = act m (act m x)) {m : μ} (hm : P m) {x : χ}
    (hx : Q x) (n : Nat) : (act (sq m))^[n] x = (act m)^[2 * n] x := by
  induction n with
  | zero => rfl
  | succ n ih =>
    rw [iterate_succ_apply', ih, hsq m _ hm (iterate_closed hact hm hx _), Nat.mul_succ,
      iterate_succ_apply', iterate_succ_apply']

/-- The loop makes `n` steps, on the multipliers in `P` and the values in `Q`. -/
theorem squareMultiply_eq_iterate (hP : ∀ m, P m → P (sq m))
    (hact : ∀ m x, P m → Q x → Q (act m x))
    (hsq : ∀ m x, P m → Q x → act (sq m) x = act m (act m x)) {m : μ} (hm : P m) {x : χ}
    (hx : Q x) (n : Nat) : squareMultiply sq act m x n = (act m)^[n] x := by
  induction n using Nat.strongRecOn generalizing m x with
  | ind n ih =>
    rw [squareMultiply]
    by_cases hn : n = 0
    · simp [hn]
    · have hhalf : n / 2 < n := by omega
      have hsplit : 2 * (n / 2) + n % 2 = n := Nat.div_add_mod n 2
      rw [if_neg hn]
      rcases Nat.mod_two_eq_zero_or_one n with hodd | hodd
      · rw [if_neg (by omega), ih _ hhalf (hP m hm) hx, iterate_square hact hsq hm hx]
        congr 1
        omega
      · rw [if_pos (by omega), ih _ hhalf (hP m hm) (hact m x hm hx),
          iterate_square hact hsq hm (hact m x hm hx), ← iterate_succ_apply]
        congr 1
        omega

/-- The loop with steps that may be undefined. -/
def squareMultiplyPartial (sq : μ → Option μ) (act : μ → χ → Option χ) (m : μ) (x : χ) (n : Nat) :
    Option χ :=
  if n = 0 then some x
  else (if n % 2 ≠ 0 then act m x else some x).bind fun x =>
    (sq m).bind fun m => squareMultiplyPartial sq act m x (n / 2)
termination_by n

/-- On the multipliers in `P` and the values in `Q` no step is undefined. -/
theorem squareMultiplyPartial_eq {sq' : μ → Option μ} {act' : μ → χ → Option χ}
    (hP : ∀ m, P m → P (sq m)) (hact : ∀ m x, P m → Q x → Q (act m x))
    (hsq' : ∀ m, P m → sq' m = some (sq m))
    (hact' : ∀ m x, P m → Q x → act' m x = some (act m x)) {m : μ} (hm : P m) {x : χ} (hx : Q x)
    (n : Nat) : squareMultiplyPartial sq' act' m x n = some (squareMultiply sq act m x n) := by
  induction n using Nat.strongRecOn generalizing m x with
  | ind n ih =>
    rw [squareMultiplyPartial, squareMultiply]
    by_cases hn : n = 0
    · rw [if_pos hn, if_pos hn]
    · have hhalf : n / 2 < n := by omega
      rw [if_neg hn, if_neg hn]
      by_cases hodd : n % 2 ≠ 0
      · rw [if_pos hodd, if_pos hodd, hact' m x hm hx, Option.bind_some, hsq' m hm,
          Option.bind_some]
        exact ih _ hhalf (hP m hm) (hact m x hm hx)
      · rw [if_neg hodd, if_neg hodd, Option.bind_some, hsq' m hm, Option.bind_some]
        exact ih _ hhalf (hP m hm) hx

end Schengen.Library
