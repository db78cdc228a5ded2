import Mathlib.Algebra.Order.Ring.Int
import Mathlib.Tactic.Common

/-!
# Sums that wrap around

A sum of two machine integers wraps around once at most: it is the exact sum, or one
modulus above or below it.
-/

namespace RealtimeEx

/-- A number that is less than one modulus out of range wraps around once. -/
theorem bmod_cases {m k : ℕ} (hm : m = 2 * k) {n : ℤ} (hlow : -(m : ℤ) ≤ n) (hhigh : n < m) :
    (n.bmod m = n ∧ -(k : ℤ) ≤ n ∧ n < k) ∨
      (n.bmod m = n + m ∧ n < -(k : ℤ)) ∨
      (n.bmod m = n - m ∧ k ≤ n) := by
  have hinside : ∀ i : ℤ, -(k : ℤ) ≤ i → i < k → i.bmod m = i := by
    intro i hle hlt
    exact Int.bmod_eq_of_le (by omega) (by omega)
  by_cases hless : n < -(k : ℤ)
  · refine .inr (.inl ⟨?_, hless⟩)
    rw [← hinside (n + m) (by omega) (by omega)]
    exact (Int.add_bmod_right n m).symm
  · by_cases hmore : (k : ℤ) ≤ n
    · refine .inr (.inr ⟨?_, hmore⟩)
      rw [← hinside (n - m) (by omega) (by omega)]
      exact (Int.sub_bmod_right n m).symm
    · exact .inl ⟨hinside n (by omega) (by omega), by omega, by omega⟩

/-- What holds for the numbers below 256 holds for every byte. -/
theorem forall_byte {P : UInt8 → Prop} (h : ∀ n < 256, P (UInt8.ofNat n)) (x : UInt8) : P x := by
  rw [← UInt8.ofNat_toNat (x := x)]
  exact h _ x.toNat_lt

end RealtimeEx
