import Mathlib.Algebra.Order.Group.Nat
import Mathlib.Data.Set.Lattice
import Mathlib.Order.CompletePartialOrder
import Mathlib.Tactic.Common
import VioGpu.Lib.BitField

/-!
# Aligned regions of an address space

Addresses are words of `w` bits and wrap. A region is an address with a length; where it lies in
another one that starts at `p` is a matter of the offset from `p`. Masking the low bits of a word
rounds it down to a multiple of a power of 2, which from an aligned address on is the same as
rounding the offset.
-/

namespace VioGpu.Lib

variable {w : Nat}

/-! ## Regions -/

/-- Bytes from an address on. -/
structure Region (w : Nat) where
  address : BitVec w
  length : Nat

/-- The addresses of a region. -/
def Region.bytes (r : Region w) : Set (BitVec w) := {a | (a - r.address).toNat < r.length}

/-- The bytes of a region that starts at an offset. -/
theorem mem_bytes_iff {p a : BitVec w} {offset length : Nat} (h : offset + length < 2 ^ w) :
    a ∈ (Region.mk (p + BitVec.ofNat w offset) length).bytes ↔
      offset ≤ (a - p).toNat ∧ (a - p).toNat < offset + length := by
  have hlt := (a - p).isLt
  have hoffset : offset % 2 ^ w = offset := Nat.mod_eq_of_lt (by omega)
  show (a - (p + BitVec.ofNat w offset)).toNat < length ↔ _
  rw [← BitVec.sub_sub, BitVec.toNat_sub, BitVec.toNat_ofNat, hoffset]
  generalize (a - p).toNat = d at hlt ⊢
  by_cases hd : offset ≤ d
  · have heq : 2 ^ w - offset + d = (d - offset) + 2 ^ w := by omega
    rw [heq, Nat.add_mod_right, Nat.mod_eq_of_lt (by omega)]
    omega
  · rw [Nat.mod_eq_of_lt (by omega)]
    omega

/-- Regions one behind the other. -/
theorem disjoint_bytes {p : BitVec w} {offset length offset' length' : Nat}
    (hle : offset + length ≤ offset') (h : offset' + length' < 2 ^ w) :
    Disjoint (Region.mk (p + BitVec.ofNat w offset) length).bytes
      (Region.mk (p + BitVec.ofNat w offset') length').bytes := by
  rw [Set.disjoint_left]
  intro a ha ha'
  obtain ⟨-, hlt⟩ := (mem_bytes_iff (by omega)).mp ha
  obtain ⟨hle', -⟩ := (mem_bytes_iff h).mp ha'
  omega

/-- A region inside another one. -/
theorem bytes_subset {p : BitVec w} {offset length size : Nat} (hle : offset + length ≤ size)
    (h : size < 2 ^ w) :
    (Region.mk (p + BitVec.ofNat w offset) length).bytes ⊆ (Region.mk p size).bytes := by
  intro a ha
  obtain ⟨-, hlt⟩ := (mem_bytes_iff (by omega)).mp ha
  show (a - p).toNat < size
  omega

/-- A region that starts with its bytes has its first one. -/
theorem address_mem_bytes {a : BitVec w} {length : Nat} (h : 0 < length) :
    a ∈ (Region.mk a length).bytes := by
  show (a - a).toNat < length
  rw [BitVec.sub_self]
  exact h

/-- Where the same bytes are seen from another address on, a region inside is seen inside. -/
theorem bytes_subset_shift {p a : BitVec w} {length size : Nat}
    (h : (Region.mk a length).bytes ⊆ (Region.mk p size).bytes) (p' : BitVec w) :
    (Region.mk (p' + (a - p)) length).bytes ⊆ (Region.mk p' size).bytes := by
  intro x hx
  have hsame : x - p' + p - a = x - (p' + (a - p)) := by
    rw [← BitVec.sub_sub]
    simp only [BitVec.sub_eq_add_neg, BitVec.neg_add, BitVec.neg_neg, BitVec.add_assoc,
      BitVec.add_comm p]
  have hmem : x - p' + p ∈ (Region.mk p size).bytes := by
    apply h
    show (x - p' + p - a).toNat < length
    rw [hsame]
    exact hx
  have hback : x - p' + p - p = x - p' := BitVec.add_sub_cancel _ _
  show (x - p').toNat < size
  rw [← hback]
  exact hmem

/-! ## Rounding -/

/-- The next multiple of `a`. -/
def roundUp (n a : Nat) : Nat := (n + a - 1) / a * a

theorem le_roundUp {n a : Nat} (ha : 0 < a) : n ≤ roundUp n a := by
  have hmod := Nat.mod_lt (n + a - 1) ha
  have hdiv := Nat.div_add_mod' (n + a - 1) a
  unfold roundUp
  omega

theorem dvd_roundUp (n a : Nat) : a ∣ roundUp n a := Nat.dvd_mul_left _ _

theorem roundUp_lt {n a : Nat} (ha : 0 < a) : roundUp n a < n + a := by
  have hle := Nat.div_mul_le_self (n + a - 1) a
  unfold roundUp
  omega

theorem getLsbD_twoPow_sub_one {k : Nat} (hk : k < w) (i : Nat) :
    (BitVec.twoPow w k - 1).getLsbD i = decide (i < k) := by
  rw [← BitVec.testBit_toNat, toNat_twoPow_sub_one hk, Nat.testBit_two_pow_sub_one]

/-- Masking the low bits rounds down. -/
theorem toNat_and_not_low (x : BitVec w) {k : Nat} (hk : k < w) :
    (x &&& ~~~(BitVec.twoPow w k - 1)).toNat = x.toNat / 2 ^ k * 2 ^ k := by
  have hshift : x &&& ~~~(BitVec.twoPow w k - 1) = (x >>> k) <<< k := by
    apply BitVec.eq_of_getLsbD_eq
    intro i hi
    simp only [BitVec.getLsbD_and, BitVec.getLsbD_not, getLsbD_twoPow_sub_one hk,
      BitVec.getLsbD_shiftLeft, BitVec.getLsbD_ushiftRight, hi]
    by_cases hik : i < k
    · simp [hik]
    · simp [hik, Nat.add_sub_cancel' (not_lt.mp hik)]
  rw [hshift, BitVec.toNat_shiftLeft, BitVec.toNat_ushiftRight, Nat.shiftRight_eq_div_pow,
    Nat.shiftLeft_eq, Nat.mod_eq_of_lt]
  have hle := Nat.div_mul_le_self x.toNat (2 ^ k)
  have hlt := x.isLt
  omega

/-- Rounding an address down is rounding the offset down, from an aligned address on. -/
theorem mask_add {p : BitVec w} {k n : Nat} (hk : k < w) (hp : p.toNat % 2 ^ k = 0)
    (hn : n < 2 ^ w) :
    (p + BitVec.ofNat w n) &&& ~~~(BitVec.twoPow w k - 1) =
      p + BitVec.ofNat w (n / 2 ^ k * 2 ^ k) := by
  apply BitVec.eq_of_toNat_eq
  have hle := Nat.div_mul_le_self n (2 ^ k)
  have hw : 2 ^ w = 2 ^ k * 2 ^ (w - k) := by rw [← Nat.pow_add, Nat.add_sub_cancel' hk.le]
  have hn₁ : n % 2 ^ w = n := Nat.mod_eq_of_lt hn
  have hn₂ : n / 2 ^ k * 2 ^ k % 2 ^ w = n / 2 ^ k * 2 ^ k := Nat.mod_eq_of_lt (by omega)
  obtain ⟨q, hq⟩ := Nat.dvd_of_mod_eq_zero hp
  rw [toNat_and_not_low _ hk, BitVec.toNat_add, BitVec.toNat_add, BitVec.toNat_ofNat,
    BitVec.toNat_ofNat, hn₁, hn₂, hw, Nat.mod_mul_right_div_self, hq,
    Nat.mul_add_div (Nat.two_pow_pos k), Nat.mul_comm _ (2 ^ k), Nat.mul_comm (n / 2 ^ k),
    ← Nat.mul_add, Nat.mul_mod_mul_left]

end VioGpu.Lib
