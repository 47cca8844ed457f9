import Mathlib.Algebra.Order.Group.Nat
import Mathlib.Tactic.Common

/-!
# Shifts and the masks of bit fields

A shift by the width of the word or more has no defined result. So the mask of a field, which takes
two shifts, has one just when both counts are less than the width, and it is the mask of the whole
field just when the field ends inside the word.
-/

namespace VioGpu.Lib

variable {w : Nat}

/-- `x << count` -/
def shl (x : BitVec w) (count : Nat) : Option (BitVec w) :=
  if count < w then some (x <<< count) else none

/-- `((1 << size) - 1) << position` -/
def bitField (w size position : Nat) : Option (BitVec w) := do
  let bit ← shl (1 : BitVec w) size
  shl (bit - 1) position

theorem shl_eq_some_iff {x r : BitVec w} {count : Nat} :
    shl x count = some r ↔ count < w ∧ x <<< count = r := by
  unfold shl
  split_ifs with hlt
  · simp [hlt]
  · simp [hlt]

theorem bitField_eq_some_iff {size position : Nat} {r : BitVec w} :
    bitField w size position = some r ↔
      size < w ∧ position < w ∧ ((1 : BitVec w) <<< size - 1) <<< position = r := by
  constructor
  · intro h
    obtain ⟨bit, hbit, hmask⟩ := Option.bind_eq_some_iff.mp h
    obtain ⟨hsize, rfl⟩ := shl_eq_some_iff.mp hbit
    obtain ⟨hposition, hr⟩ := shl_eq_some_iff.mp hmask
    exact ⟨hsize, hposition, hr⟩
  · intro h
    obtain ⟨hsize, hposition, hr⟩ := h
    exact Option.bind_eq_some_iff.mpr
      ⟨_, shl_eq_some_iff.mpr ⟨hsize, rfl⟩, shl_eq_some_iff.mpr ⟨hposition, hr⟩⟩

theorem toNat_twoPow_sub_one {k : Nat} (hk : k < w) :
    (BitVec.twoPow w k - 1).toNat = 2 ^ k - 1 := by
  have hlt := Nat.pow_lt_pow_right (show 1 < 2 by decide) hk
  have hpos := Nat.two_pow_pos k
  have hone : 1 % 2 ^ w = 1 := Nat.mod_eq_of_lt (by omega)
  have hsum : 2 ^ w - 1 + 2 ^ k = (2 ^ k - 1) + 2 ^ w := by omega
  rw [BitVec.toNat_sub, BitVec.toNat_twoPow, Nat.mod_eq_of_lt hlt]
  show (2 ^ w - 1 % 2 ^ w + 2 ^ k) % 2 ^ w = 2 ^ k - 1
  rw [hone, hsum, Nat.add_mod_right, Nat.mod_eq_of_lt (by omega)]

/-- The bits of the field that are in the word. -/
theorem toNat_mask {size : Nat} (hsize : size < w) (position : Nat) :
    (((1 : BitVec w) <<< size - 1) <<< position).toNat =
      (2 ^ size - 1) * 2 ^ position % 2 ^ w := by
  have hbit : ((1 : BitVec w) <<< size - 1).toNat = 2 ^ size - 1 := toNat_twoPow_sub_one hsize
  rw [BitVec.toNat_shiftLeft, hbit, Nat.shiftLeft_eq]

/-- The field ends inside the word. -/
theorem mask_lt_iff {size position : Nat} (hposition : position < w) :
    (2 ^ size - 1) * 2 ^ position < 2 ^ w ↔ size + position ≤ w := by
  constructor
  · intro hlt
    by_contra hout
    -- the highest bit of the field is behind the word
    obtain ⟨n, rfl⟩ : ∃ n, size = n + 1 := ⟨size - 1, by omega⟩
    have hhigh : 2 ^ n ≤ 2 ^ (n + 1) - 1 := by
      have hpos := Nat.two_pow_pos n
      rw [Nat.pow_succ]
      omega
    have hword : 2 ^ w ≤ 2 ^ (n + position) := Nat.pow_le_pow_right (by decide) (by omega)
    rw [Nat.pow_add] at hword
    exact absurd hlt (not_lt.mpr (hword.trans (Nat.mul_le_mul_right _ hhigh)))
  · intro hin
    have hpos := Nat.two_pow_pos size
    calc (2 ^ size - 1) * 2 ^ position < 2 ^ size * 2 ^ position :=
          Nat.mul_lt_mul_of_pos_right (by omega) (Nat.two_pow_pos position)
      _ = 2 ^ (size + position) := (Nat.pow_add 2 size position).symm
      _ ≤ 2 ^ w := Nat.pow_le_pow_right (by decide) hin

/-- **The mask is exact** just when no shift is undefined and the field is inside the word. -/
theorem bitField_exact_iff {size position : Nat} :
    (∃ r, bitField w size position = some r ∧ r.toNat = (2 ^ size - 1) * 2 ^ position) ↔
      size < w ∧ position < w ∧ size + position ≤ w := by
  constructor
  · intro h
    obtain ⟨r, hr, hexact⟩ := h
    obtain ⟨hsize, hposition, rfl⟩ := bitField_eq_some_iff.mp hr
    refine ⟨hsize, hposition, (mask_lt_iff hposition).mp ?_⟩
    rw [← hexact]
    exact BitVec.isLt _
  · intro h
    obtain ⟨hsize, hposition, hin⟩ := h
    refine ⟨_, bitField_eq_some_iff.mpr ⟨hsize, hposition, rfl⟩, ?_⟩
    rw [toNat_mask hsize, Nat.mod_eq_of_lt ((mask_lt_iff hposition).mpr hin)]

end VioGpu.Lib
