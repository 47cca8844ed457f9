import VioGpu.Device.Blit
import Mathlib.Tactic.IntervalCases

/-!
# What a converted pixel is

A pixel of 24 or 32 bits is three bytes, blue, green and red, and with 32 bits a fourth one that is
not shown. A pixel of 16 bits is a word with five bits of red, six of green and five of blue, the
upper bits of the three bytes. A pixel of 8 bits is an index into a palette of six levels of each
colour. The branches of `CopyBitsGeneric` agree with this for the pairs of depths that the driver's
comment lists (`conversion_of_mem_depths`).
-/

namespace VioGpu.Device

open Lib

/-- A colour of the 16-bit format. -/
structure Rgb565 where
  red : BitVec 5
  green : BitVec 6
  blue : BitVec 5

namespace Rgb565

/-- The word of a colour: red is uppermost. -/
def toWord (c : Rgb565) : BitVec 16 := c.red ++ c.green ++ c.blue

def ofWord (word : BitVec 16) : Rgb565 where
  red := word.extractLsb' 11 5
  green := word.extractLsb' 5 6
  blue := word.extractLsb' 0 5

/-- The colour of three bytes, without their lower bits. -/
def ofBytes (blue green red : Byte) : Rgb565 where
  red := red.extractLsb' 3 5
  green := green.extractLsb' 2 6
  blue := blue.extractLsb' 3 5

/-- The three bytes of a colour; their lower bits are zero. -/
def toBytes (c : Rgb565) : List Byte :=
  [c.blue.setWidth 8 <<< 3, c.green.setWidth 8 <<< 2, c.red.setWidth 8 <<< 3]

/-- The bits of the word. -/
theorem getElem_toWord (c : Rgb565) {i : Nat} (hi : i < 16) : c.toWord[i] =
    if i < 5 then c.blue.getLsbD i else if i < 11 then c.green.getLsbD (i - 5)
      else c.red.getLsbD (i - 11) := by
  have hword : c.toWord[i] = if hb : i < 5 then c.blue[i] else (c.red ++ c.green)[i - 5] :=
    BitVec.getElem_append (x := c.red ++ c.green) (y := c.blue) hi
  rw [hword]
  split_ifs with h₁ h₂
  · rw [BitVec.getLsbD_eq_getElem]
  · rw [BitVec.getElem_append, dif_pos (by omega), BitVec.getLsbD_eq_getElem]
  · rw [BitVec.getElem_append, dif_neg (by omega), BitVec.getLsbD_eq_getElem (by omega)]
    congr 1

end Rgb565

/-- The index of a colour in the palette that has six levels of each channel. -/
def paletteIndex (blue green red : Byte) : Byte :=
  .ofNat 8 (36 * (red.toNat / 43) + 6 * (green.toNat / 43) + blue.toNat / 43)

/-- What a pixel with the bytes `p` becomes in an image of `dstBitsPerPel`. -/
def pixelBytes (dstBitsPerPel srcBitsPerPel : Nat) (p : Nat → Byte) : List Byte :=
  match dstBitsPerPel, srcBitsPerPel with
  | 32, 32 => [p 0, p 1, p 2, p 3]
  | 32, 24 | 24, 32 | 24, 24 => [p 0, p 1, p 2]
  | 32, 16 => (Rgb565.ofWord (p 1 ++ p 0)).toBytes ++ [0]
  | 16, 32 => wordBytes (Rgb565.ofBytes (p 0) (p 1) (p 2)).toWord
  | 8, 32 => [paletteIndex (p 0) (p 1) (p 2)]
  | _, _ => []

/-- Red keeps its five bits, and no other channel is touched. -/
example (p : Nat → Byte) (h : p 0 = 0x00) (h' : p 1 = 0xf8) :
    pixelBytes 32 16 p = [0, 0, 0xf8, 0] := by
  rw [pixelBytes, h, h']
  decide

/-! ## The macros -/

theorem convert32bppTo16bpp_eq (p : List Byte) : convert32bppTo16bpp p =
    (Rgb565.ofBytes (p.getD 0 0) (p.getD 1 0) (p.getD 2 0)).toWord := by
  ext i hi
  rw [Rgb565.getElem_toWord _ hi]
  unfold convert32bppTo16bpp upper5Bits upper6Bits Rgb565.ofBytes
  interval_cases i <;> simp

theorem lower5Bits_eq (word : BitVec 16) (n : Nat) :
    lower5Bits (word >>> n) = (word.extractLsb' n 5).setWidth 32 := by
  unfold lower5Bits
  ext i hi
  interval_cases i <;> simp

theorem lower6Bits_eq (word : BitVec 16) (n : Nat) :
    lower6Bits (word >>> n) = (word.extractLsb' n 6).setWidth 32 := by
  unfold lower6Bits
  ext i hi
  interval_cases i <;> simp

/-- The fields of a word, moved to the upper bits of their bytes. -/
theorem convert16bppTo32bpp_eq (word : BitVec 16) :
    convert16bppTo32bpp word = (Rgb565.ofWord word).red.setWidth 32 <<< 19 |||
      (Rgb565.ofWord word).green.setWidth 32 <<< 10 |||
      (Rgb565.ofWord word).blue.setWidth 32 <<< 3 := by
  have hblue := lower5Bits_eq word 0
  rw [BitVec.ushiftRight_zero] at hblue
  rw [convert16bppTo32bpp, lower5Bits_eq, lower6Bits_eq, hblue]
  rfl

theorem wordBytes_word32 (word : BitVec 32) : wordBytes word = [word.setWidth 8,
    (word >>> 8).setWidth 8, (word >>> 16).setWidth 8, (word >>> 24).setWidth 8] := by
  simp [wordBytes, List.range_succ]

theorem wordBytes_convert16bppTo32bpp (word : BitVec 16) :
    wordBytes (convert16bppTo32bpp word) = (Rgb565.ofWord word).toBytes ++ [0] := by
  rw [wordBytes_word32, convert16bppTo32bpp_eq]
  generalize Rgb565.ofWord word = c
  unfold Rgb565.toBytes
  dsimp only [List.cons_append, List.nil_append]
  congr 1
  · ext i hi
    interval_cases i <;> simp
  congr 1
  · ext i hi
    interval_cases i <;> simp
  congr 1
  · ext i hi
    interval_cases i <;> simp
  congr 1
  · ext i hi
    interval_cases i <;> simp

theorem convert32bppTo8bpp_eq (p : List Byte) :
    convert32bppTo8bpp p = paletteIndex (p.getD 0 0) (p.getD 1 0) (p.getD 2 0) := by
  unfold convert32bppTo8bpp paletteIndex
  congr 1
  omega

/-! ## The branches of `CopyBitsGeneric` -/

/-- The depths of destination and source that the driver's comment lists. -/
def depths : List (Nat × Nat) :=
  [(32, 32), (32, 24), (32, 16), (24, 32), (24, 24), (16, 32), (8, 32)]

theorem length_pixelBytes_le {dst src : Nat} (h : (dst, src) ∈ depths) (p : Nat → Byte) :
    (pixelBytes dst src p).length ≤ dst / 8 := by
  simp only [depths, List.mem_cons, Prod.mk.injEq, List.not_mem_nil, or_false] at h
  rcases h with ⟨rfl, rfl⟩ | ⟨rfl, rfl⟩ | ⟨rfl, rfl⟩ | ⟨rfl, rfl⟩ | ⟨rfl, rfl⟩ | ⟨rfl, rfl⟩ |
    ⟨rfl, rfl⟩
  all_goals simp [pixelBytes, Rgb565.toBytes, wordBytes]

/-- **Every listed depth has a branch**, which reads bytes of the source pixel only and stores the
converted pixel. -/
theorem conversion_of_mem_depths {dst src : Nat} (h : (dst, src) ∈ depths) :
    ∃ n convert, conversion dst src = some (n, convert) ∧ n ≤ src / 8 ∧
      ∀ (memory : Int → Byte) (q : Int),
        convert (readAt memory q n) = pixelBytes dst src fun i => memory (q + i) := by
  simp only [depths, List.mem_cons, Prod.mk.injEq, List.not_mem_nil, or_false] at h
  rcases h with ⟨rfl, rfl⟩ | ⟨rfl, rfl⟩ | ⟨rfl, rfl⟩ | ⟨rfl, rfl⟩ | ⟨rfl, rfl⟩ | ⟨rfl, rfl⟩ |
    ⟨rfl, rfl⟩
  · exact ⟨4, id, rfl, by decide, fun _ _ => rfl⟩
  · exact ⟨3, id, rfl, by decide, fun _ _ => rfl⟩
  · exact ⟨2, _, rfl, by decide, fun _ _ => wordBytes_convert16bppTo32bpp _⟩
  · exact ⟨3, id, rfl, by decide, fun _ _ => rfl⟩
  · exact ⟨3, id, rfl, by decide, fun _ _ => rfl⟩
  · refine ⟨3, _, rfl, by decide, fun memory q => ?_⟩
    rw [convert32bppTo16bpp_eq]
    rfl
  · refine ⟨3, _, rfl, by decide, fun memory q => ?_⟩
    rw [convert32bppTo8bpp_eq]
    rfl

end VioGpu.Device
