import Mathlib.Data.Nat.Bitwise
import Mathlib.Data.List.Range
import Mathlib.Tactic.Common

/-!
# Circular buffers with free-running counters

A buffer of `n` slots in which entry number `j` is stored in slot `j % n`, and counters that
run on modulo a larger power of two and are never set back. `Window ring n lo xs` says that
the entries of `xs` from number `lo` on are still in their slots. `Window.write` is the one
fact about writing: the next entry overwrites no entry of the window as long as the window
is shorter than the buffer.
-/

namespace VioGpu.Lib

variable {α : Type}

/-- Two counters less than a full turn apart agree only when they are equal. -/
theorem counter_eq_iff {i j m : Nat} (hle : i ≤ j) (hlt : j < i + m) :
    i % m = j % m ↔ i = j := by
  refine ⟨fun h => ?_, fun h => by rw [h]⟩
  have hdvd : m ∣ j - i := Nat.dvd_of_mod_eq_zero (Nat.sub_mod_eq_zero_of_mod_eq h.symm)
  have hzero : j - i = 0 := Nat.eq_zero_of_dvd_of_lt hdvd (by omega)
  omega

/-- The slot of a counter is found from the counter modulo a larger power of two. -/
theorem mask_counter {j k w : Nat} (hk : k ≤ w) : j % 2 ^ w &&& (2 ^ k - 1) = j % 2 ^ k := by
  rw [Nat.and_two_pow_sub_one_eq_mod, Nat.mod_mod_of_dvd j (Nat.pow_dvd_pow 2 hk)]

/-- The entries of `xs` from number `lo` on are in their slots. -/
def Window (ring : Nat → α) (n lo : Nat) (xs : List α) : Prop :=
  ∀ j x, lo ≤ j → xs[j]? = some x → ring (j % n) = x

theorem Window.mono {ring : Nat → α} {n lo lo' : Nat} {xs : List α} (h : Window ring n lo xs)
    (hle : lo ≤ lo') : Window ring n lo' xs :=
  fun j x hj hx => h j x (Nat.le_trans hle hj) hx

theorem window_nil (ring : Nat → α) (n lo : Nat) : Window ring n lo [] :=
  fun j x _ hx => by simp at hx

/-- **Writing the next entry** keeps a window that is shorter than the buffer. -/
theorem Window.write {ring : Nat → α} {n lo : Nat} {xs : List α} (h : Window ring n lo xs)
    (hroom : xs.length < lo + n) (x : α) :
    Window (fun i => if i = xs.length % n then x else ring i) n lo (xs ++ [x]) := by
  intro j y hj hy
  rcases Nat.lt_trichotomy j xs.length with hlt | rfl | hgt
  · have hne : j % n ≠ xs.length % n := by
      rw [Ne, counter_eq_iff (Nat.le_of_lt hlt) (by omega)]
      omega
    rw [List.getElem?_append_left hlt] at hy
    simp only [hne, if_false]
    exact h j y hj hy
  · simpa using hy
  · rw [List.getElem?_eq_none (by simp; omega)] at hy
    cases hy

end VioGpu.Lib
