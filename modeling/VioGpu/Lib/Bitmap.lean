import Mathlib.Logic.Function.Basic
import Mathlib.Tactic.Common

/-!
# Bitmaps

A bitmap is a function from positions to bits. Bits are set and cleared with
`Function.update`; the search below finds the lowest clear bit of a range.
-/

namespace VioGpu.Lib

/-- The first clear bit among the `n` bits from `i` on. -/
def findClear (bits : Nat → Bool) : Nat → Nat → Option Nat
  | 0, _ => none
  | n + 1, i => if bits i then findClear bits n (i + 1) else some i

theorem findClear_eq_none_iff {bits : Nat → Bool} {n i : Nat} :
    findClear bits n i = none ↔ ∀ j, i ≤ j → j < i + n → bits j = true := by
  induction n generalizing i with
  | zero => simp only [findClear, true_iff]; omega
  | succ n ih =>
    simp only [findClear]
    split_ifs with hi
    · rw [ih]
      constructor
      · intro h j hij hj
        rcases Nat.eq_or_lt_of_le hij with rfl | hlt
        · exact hi
        · exact h j hlt (by omega)
      · exact fun h j hij hj => h j (by omega) (by omega)
    · simp only [false_iff, not_forall]
      exact ⟨i, Nat.le_refl _, by omega, hi⟩

/-- **The lowest clear bit.** -/
theorem findClear_spec {bits : Nat → Bool} {n i k : Nat} (h : findClear bits n i = some k) :
    i ≤ k ∧ k < i + n ∧ bits k = false ∧ ∀ j, i ≤ j → j < k → bits j = true := by
  induction n generalizing i with
  | zero => cases h
  | succ n ih =>
    simp only [findClear] at h
    split_ifs at h with hi
    · obtain ⟨hik, hkn, hclear, hbelow⟩ := ih h
      refine ⟨by omega, by omega, hclear, ?_⟩
      intro j hij hjk
      rcases Nat.eq_or_lt_of_le hij with rfl | hlt
      · exact hi
      · exact hbelow j hlt hjk
    · cases h
      refine ⟨Nat.le_refl _, by omega, by simpa using hi, ?_⟩
      intro j hij hjk
      omega

/-- A clear bit in the range is enough for the search to succeed. -/
theorem findClear_isSome {bits : Nat → Bool} {n i j : Nat} (hij : i ≤ j) (hj : j < i + n)
    (hclear : bits j = false) : (findClear bits n i).isSome = true := by
  rw [Option.isSome_iff_ne_none, Ne, findClear_eq_none_iff]
  intro h
  rw [h j hij hj] at hclear
  cases hclear

end VioGpu.Lib
