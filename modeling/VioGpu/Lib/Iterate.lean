import Mathlib.Data.Fintype.Pigeonhole

/-!
# Iterating a function on a finite type

A loop that goes on from a value to the next one until it meets its end: on a finite type it
meets the end within as many steps as there are values, or never.
-/

namespace VioGpu.Lib

variable {α : Type}

/-- The turns between two equal values can be left out. -/
theorem iterate_skip {f : α → α} {x : α} {i j n : Nat} (hij : i ≤ j) (hjn : j ≤ n)
    (h : f^[i] x = f^[j] x) : f^[n - (j - i)] x = f^[n] x := by
  have hn : n - (j - i) = (n - j) + i := by omega
  rw [hn, Function.iterate_add_apply, h, ← Function.iterate_add_apply, Nat.sub_add_cancel hjn]

theorem exists_iterate_lt_card [Fintype α] {f : α → α} {x t : α} {n : Nat} (h : f^[n] x = t) :
    ∃ k < Fintype.card α, f^[k] x = t := by
  induction n using Nat.strong_induction_on with
  | _ n ih =>
    by_cases hn : n < Fintype.card α
    · exact ⟨n, hn, h⟩
    · -- two of the first `n + 1` values are equal
      obtain ⟨i, j, hne, hij⟩ := Fintype.exists_ne_map_eq_of_card_lt
        (fun k : Fin (n + 1) => f^[k] x) (by rw [Fintype.card_fin]; omega)
      have hi := i.isLt
      have hj := j.isLt
      have hne : (i : Nat) ≠ j := Fin.val_ne_of_ne hne
      rcases Nat.lt_or_gt_of_ne hne with hlt | hlt
      · apply ih (n - (j - i)) (by omega)
        rw [iterate_skip hlt.le (by omega) hij, h]
      · apply ih (n - (i - j)) (by omega)
        rw [iterate_skip hlt.le (by omega) hij.symm, h]

end VioGpu.Lib
