import Mathlib.Algebra.BigOperators.Group.List.Basic
import Mathlib.Algebra.Order.Ring.Nat
import Mathlib.Tactic.Common

/-!
# Packed structures

A packed structure is a sequence of words without gaps between them, each of them with its lowest
byte first. What is unpacked with the widths of the fields is what was packed, modulo the size of
each field (`unpack_pack`).
-/

namespace VioGpu.Lib

/-! ## Words -/

/-- The low `w` bytes of `v`, the lowest first. -/
def wordBytes : Nat → Nat → List UInt8
  | 0, _ => []
  | w + 1, v => UInt8.ofNat v :: wordBytes w (v / 256)

/-- The number whose bytes these are, the lowest first. -/
def wordOf : List UInt8 → Nat
  | [] => 0
  | b :: bs => b.toNat + 256 * wordOf bs

@[simp] theorem length_wordBytes (w v : Nat) : (wordBytes w v).length = w := by
  induction w generalizing v with
  | zero => rfl
  | succ w ih => rw [wordBytes, List.length_cons, ih]

theorem wordOf_wordBytes (w v : Nat) : wordOf (wordBytes w v) = v % 256 ^ w := by
  induction w generalizing v with
  | zero => rw [wordBytes, wordOf, Nat.pow_zero, Nat.mod_one]
  | succ w ih =>
    have hbyte : (UInt8.ofNat v).toNat = v % 256 := UInt8.toNat_ofNat'
    rw [wordBytes, wordOf, hbyte, ih, Nat.pow_succ', Nat.mod_mul]

/-! ## Structures -/

/-- A field: its width in bytes, and what is stored to it. -/
structure PackedField where
  width : Nat
  value : Nat

/-- What is in the field afterwards. -/
def PackedField.stored (f : PackedField) : Nat := f.value % 256 ^ f.width

def pack (fields : List PackedField) : List UInt8 :=
  fields.flatMap fun f => wordBytes f.width f.value

/-- The fields of these widths at the front of the bytes, and the bytes behind them. -/
def unpack : List Nat → List UInt8 → Option (List Nat × List UInt8)
  | [], bytes => some ([], bytes)
  | w :: widths, bytes =>
    if w ≤ bytes.length then do
      let (values, rest) ← unpack widths (bytes.drop w)
      some (wordOf (bytes.take w) :: values, rest)
    else none

@[simp] theorem pack_nil : pack [] = [] := rfl

@[simp] theorem pack_cons (f : PackedField) (fields : List PackedField) :
    pack (f :: fields) = wordBytes f.width f.value ++ pack fields := rfl

theorem pack_append (a b : List PackedField) : pack (a ++ b) = pack a ++ pack b :=
  List.flatMap_append

theorem length_pack (fields : List PackedField) :
    (pack fields).length = (fields.map PackedField.width).sum := by
  rw [pack, List.length_flatMap]
  simp only [length_wordBytes]

/-- **What is packed is unpacked.** -/
theorem unpack_pack (fields : List PackedField) (rest : List UInt8) :
    unpack (fields.map PackedField.width) (pack fields ++ rest) =
      some (fields.map PackedField.stored, rest) := by
  induction fields with
  | nil => rfl
  | cons f fields ih =>
    have hlength := length_wordBytes f.width f.value
    rw [List.map_cons, List.map_cons, pack_cons, List.append_assoc, unpack,
      if_pos (by rw [List.length_append, hlength]; exact Nat.le_add_right _ _),
      List.take_left' hlength, List.drop_left' hlength, ih, wordOf_wordBytes]
    rfl

end VioGpu.Lib
