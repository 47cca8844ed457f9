import Mathlib.Data.Nat.Periodic

/-!
# A loop that counts until an exit

The loop asks at each count whether it is over and what it comes to, and goes on with the next
count. It ends at the first exit. If the exits are periodic, it ends within the first period or
never.
-/

namespace VioGpu.Lib

variable {β : Type}

/-- The loop, followed for `fuel` turns from the count `k` on: the count at the end, and the
exit. -/
def scan (exit : Nat → Option β) : Nat → Nat → Option (Nat × β)
  | 0, _ => none
  | fuel + 1, k =>
    match exit k with
    | some b => some (k, b)
    | none => scan exit fuel (k + 1)

/-- `b` is the exit at `n`, and there is none before. -/
structure FirstExit (exit : Nat → Option β) (n : Nat) (b : β) : Prop where
  exits : exit n = some b
  first : ∀ j < n, exit j = none

section

variable {exit : Nat → Option β} {fuel k n : Nat} {b : β}

theorem scan_eq_some_iff : scan exit fuel k = some (n, b) ↔
    k ≤ n ∧ n < k + fuel ∧ exit n = some b ∧ ∀ j, k ≤ j → j < n → exit j = none := by
  induction fuel generalizing k with
  | zero =>
    constructor
    · intro h
      cases h
    · intro h
      omega
  | succ fuel ih =>
    rw [scan]
    cases hexit : exit k with
    | some b' =>
      constructor
      · intro h
        cases h
        exact ⟨le_rfl, by omega, hexit, fun j hj hjn => absurd hjn (by omega)⟩
      · intro h
        obtain ⟨hkn, -, hn, hbefore⟩ := h
        obtain rfl | hlt := Nat.eq_or_lt_of_le hkn
        · rw [hexit] at hn
          rw [Option.some.inj hn]
        · have hnone := hbefore k le_rfl hlt
          rw [hexit] at hnone
          cases hnone
    | none =>
      dsimp only
      rw [ih]
      constructor
      · intro h
        obtain ⟨hkn, hlt, hn, hbefore⟩ := h
        refine ⟨by omega, by omega, hn, fun j hj hjn => ?_⟩
        obtain rfl | hkj := Nat.eq_or_lt_of_le hj
        · exact hexit
        · exact hbefore j hkj hjn
      · intro h
        obtain ⟨hkn, hlt, hn, hbefore⟩ := h
        have hne : k ≠ n := by
          intro heq
          rw [heq, hn] at hexit
          cases hexit
        exact ⟨by omega, by omega, hn, fun j hj hjn => hbefore j (by omega) hjn⟩

/-- Some number of turns is enough just when there is an exit, and then the loop ends at the first
one. -/
theorem exists_scan_iff : (∃ fuel, scan exit fuel 0 = some (n, b)) ↔ FirstExit exit n b := by
  constructor
  · intro h
    obtain ⟨fuel, h⟩ := h
    obtain ⟨-, -, hexits, hfirst⟩ := scan_eq_some_iff.mp h
    exact ⟨hexits, fun j hj => hfirst j (Nat.zero_le j) hj⟩
  · intro h
    exact ⟨n + 1, scan_eq_some_iff.mpr
      ⟨Nat.zero_le n, by omega, h.exits, fun j _ hj => h.first j hj⟩⟩

/-- What is before the first exit of a periodic loop is less than a period. -/
theorem FirstExit.lt_of_periodic {p : Nat} (h : FirstExit exit n b)
    (hperiodic : Function.Periodic exit p) (hp : 0 < p) : n < p := by
  by_contra hle
  have hmod := hperiodic.map_mod_nat n
  have hlt := Nat.mod_lt n hp
  rw [h.exits, h.first _ (by omega)] at hmod
  cases hmod

/-- An exit anywhere makes a first one, not behind it. -/
theorem exists_firstExit (h : exit n = some b) : ∃ m ≤ n, ∃ b', FirstExit exit m b' := by
  have hex : ∃ m, (exit m).isSome := ⟨n, Option.isSome_of_eq_some h⟩
  obtain ⟨b', hb'⟩ := Option.isSome_iff_exists.mp (Nat.find_spec hex)
  refine ⟨Nat.find hex, Nat.find_min' hex (Option.isSome_of_eq_some h), b', hb', fun j hj => ?_⟩
  exact Option.not_isSome_iff_eq_none.mp (Nat.find_min hex hj)

end

end VioGpu.Lib
