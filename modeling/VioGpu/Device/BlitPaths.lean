import VioGpu.Device.BlitRuns
import VioGpu.Lib.Copies
import Mathlib.Algebra.Order.Ring.Int

/-!
# The two paths of `BltBits`

Between two images of 32 bits per pixel that are not rotated, `BltBits` takes `CopyBits32_32` in
place of `CopyBitsGeneric`. Both copy the rows of the rectangles, but the one goes from row to row
by the unsigned pitch and counts the bytes of a row in 32 bits, and the other goes by the signed
pitch and counts pixels. They do the same exactly where this makes no difference
(`paths_agree_iff`), or where rectangles overlap so that what differs is drawn over, which takes
another rectangle at the end of each one that has a second row (`Overdrawn`).
-/

namespace VioGpu.Device

open Lib

/-- The rows of a rectangle: `dstStep` and `srcStep` lead from one to the next, and `count` gives
the bytes of so many pixels. -/
def rectCopies (dst src : BltInfo) (dstStep srcStep : Int) (count : Nat → Nat) (r : Rect) :
    List Copy :=
  Copy.rows (Blt.start32 dst r) (Blt.start32 src r) dstStep srcStep
    (count (uint (r.right - r.left))) (uint (r.bottom - r.top))

/-- The rows that `CopyBits32_32` copies. -/
def fastCopies (dst src : BltInfo) (rects : List Rect) : List Copy :=
  rects.flatMap (rectCopies dst src dst.pitch src.pitch fun n => u32 (n * 4))

/-- The rows that `CopyBitsGeneric` copies. -/
def genericCopies (dst src : BltInfo) (rects : List Rect) : List Copy :=
  rects.flatMap (rectCopies dst src (long dst.pitch) (long src.pitch) fun n => n * 4)

/-- The source addresses that are read, in order. -/
def Access.sources : Access → List Int
  | .load p n => (List.range n).map fun i : Nat => p + i
  | .store _ => []

def Blt.sources (b : Blt) : List Int := b.accesses.flatMap Access.sources

/-- The result is that of these copies. -/
def Blt.Copies (result : Except Blt Blt) (b : Blt) (memory : Int → Byte) (copies : List Copy) :
    Prop :=
  ∃ b', result = .ok b' ∧ b'.sources = b.sources ++ copies.flatMap Copy.reads ∧
    b'.memory = applyAll (copies.map (Copy.store memory)) b.memory

/-- An image of 32 bits per pixel that is not rotated. -/
structure BltInfo.Plain (b : BltInfo) : Prop where
  bitsPerPel : b.bitsPerPel = 32
  rotation : b.rotation = .identity
  pitch : b.pitch < 4294967296

namespace Blt

variable {dst src : BltInfo} {memory : Int → Byte}

theorem copies_nothing (b : Blt) : Copies (.ok b) b memory [] :=
  ⟨b, rfl, (List.append_nil _).symm, rfl⟩

theorem Copies.bind {result : Except Blt Blt} {b : Blt} {c c' : List Copy}
    {f : Blt → Except Blt Blt} (h : Copies result b memory c)
    (hf : ∀ b, Copies (f b) b memory c') : Copies (result >>= f) b memory (c ++ c') := by
  obtain ⟨b₁, rfl, hsources, hmem⟩ := h
  obtain ⟨b₂, hresult, hsources', hmem'⟩ := hf b₁
  refine ⟨b₂, hresult, ?_, ?_⟩
  · rw [hsources', hsources, List.flatMap_append, List.append_assoc]
  · rw [hmem', hmem, List.map_append, applyAll_append]

/-- One load and the store of what it reads. -/
theorem copies_one (b : Blt) (p q : Int) (n : Nat) :
    Copies (.ok (b.after [.load q n, .store ⟨p, readAt memory q n⟩])) b memory [⟨p, q, n⟩] := by
  refine ⟨_, rfl, ?_, rfl⟩
  rw [sources, after, List.flatMap_append]
  rfl

theorem Copies.congr {result : Except Blt Blt} {b : Blt} {c c' : List Copy}
    (h : Copies result b memory c) (hc : Copy.Alike c c') : Copies result b memory c' := by
  obtain ⟨b', hresult, hsources, hmem⟩ := h
  refine ⟨b', hresult, ?_, ?_⟩
  · rw [hsources, hc.reads]
  · rw [hmem, Copy.applyAll_congr_lastSource hc.lastSource]

/-- The rows of `CopyBits32_32`. -/
theorem copyMemory_copies (n M : Nat) (p q : Int) (b : Blt) :
    Copies (copyMemory dst src memory n M p q b) b memory
      (Copy.rows p q dst.pitch src.pitch n M) := by
  induction M generalizing p q b with
  | zero => exact copies_nothing b
  | succ M ih =>
    rw [Copy.rows_succ]
    have hrest := (copies_one b p q n).bind fun b => ih (p + dst.pitch) (q + src.pitch) b
    simpa only [copyMemory, load, store, bind, Except.bind, after_after, List.cons_append,
      List.nil_append] using hrest

/-- The pixels of a row, of which each follows the one before. -/
theorem copyPixels_copies (hconv : conversion dst.bitsPerPel src.bitsPerPel = some (4, id))
    (hdst : dst.getPitches.1 = 4) (hsrc : src.getPitches.1 = 4) (N : Nat) (p q : Int) (b : Blt) :
    Copies (copyPixels dst src memory N (some p) (some q) b) b memory
      (Copy.rows p q (4 : Nat) (4 : Nat) 4 N) := by
  induction N generalizing p q b with
  | zero => exact copies_nothing b
  | succ N ih =>
    rw [Copy.rows_succ]
    have hrest := (copies_one b p q 4).bind fun b => ih (p + (4 : Nat)) (q + (4 : Nat)) b
    simpa only [copyPixels, copyPixel, hconv, hdst, hsrc, load, store, bind, Except.bind,
      after_after, List.cons_append, List.nil_append, Option.map_some, id_eq,
      Nat.cast_ofNat] using hrest

/-- The rows of `CopyBitsGeneric`. -/
theorem copyRows_copies (hconv : conversion dst.bitsPerPel src.bitsPerPel = some (4, id))
    (hdst : dst.getPitches.1 = 4) (hsrc : src.getPitches.1 = 4) (N M : Nat) (p q : Int) (b : Blt) :
    Copies (copyRows dst src memory N M (some p) (some q) b) b memory
      (Copy.rows p q dst.getPitches.2 src.getPitches.2 (N * 4) M) := by
  induction M generalizing p q b with
  | zero => exact copies_nothing b
  | succ M ih =>
    rw [Copy.rows_succ]
    have hrow : Copies (copyPixels dst src memory N (some p) (some q) b) b memory
        [⟨p, q, N * 4⟩] :=
      (copyPixels_copies hconv hdst hsrc N p q b).congr (Copy.alike_rows p q 4 N)
    exact hrow.bind fun b => ih (p + dst.getPitches.2) (q + src.getPitches.2) b

/-- The rectangles, one after the other. -/
theorem foldlM_copies {f : Blt → Rect → Except Blt Blt} {c : Rect → List Copy} (rects : List Rect)
    (h : ∀ r b, Copies (f b r) b memory (c r)) (b : Blt) :
    Copies (rects.foldlM f b) b memory (rects.flatMap c) := by
  induction rects generalizing b with
  | nil => exact copies_nothing b
  | cons r rects ih =>
    rw [List.foldlM_cons, List.flatMap_cons]
    exact (h r b).bind ih

/-- **`CopyBits32_32`** copies its rows. -/
theorem copyBits32_32_copies (dst src : BltInfo) (memory : Int → Byte) (rects : List Rect)
    (b : Blt) : Copies (b.copyBits32_32 dst src memory rects) b memory
      (fastCopies dst src rects) := by
  apply foldlM_copies rects
  intro r b
  exact copyMemory_copies _ _ _ _ b

theorem getPitches_plain {b : BltInfo} (h : b.Plain) : b.getPitches = (4, long b.pitch) := by
  have hfour : long (32 / 8 : Nat) = 4 := by decide
  rw [BltInfo.getPitches, h.rotation, h.bitsPerPel, hfour]

/-- **`CopyBitsGeneric`** copies its rows. -/
theorem copyBitsGeneric_copies (hdst : dst.Plain) (hsrc : src.Plain) (memory : Int → Byte)
    (rects : List Rect) (b : Blt) : Copies (b.copyBitsGeneric dst src memory rects) b memory
      (genericCopies dst src rects) := by
  apply foldlM_copies rects
  intro r b
  have hconv : conversion dst.bitsPerPel src.bitsPerPel = some (4, id) := by
    rw [hdst.bitsPerPel, hsrc.bitsPerPel]
    rfl
  have hdstPixel : dst.getPitches.1 = 4 := by rw [getPitches_plain hdst]
  have hsrcPixel : src.getPitches.1 = 4 := by rw [getPitches_plain hsrc]
  have hdstRow : dst.getPitches.2 = long dst.pitch := by rw [getPitches_plain hdst]
  have hsrcRow : src.getPitches.2 = long src.pitch := by rw [getPitches_plain hsrc]
  rw [getRowStart_32 hdst.rotation hdst.bitsPerPel, getRowStart_32 hsrc.rotation hsrc.bitsPerPel,
    rectCopies, ← hdstRow, ← hsrcRow]
  exact copyRows_copies hconv hdstPixel hsrcPixel _ _ _ _ b

/-! ## Where the paths agree -/

/-- Both paths return, have read the same source addresses in the same order, and leave the same
destination, whatever is in both memories. -/
def PathsAgree (dst src : BltInfo) (rects : List Rect) : Prop :=
  ∀ (memory : Int → Byte) (b : Blt), ∃ b₁ b₂, b.copyBits32_32 dst src memory rects = .ok b₁ ∧
    b.copyBitsGeneric dst src memory rects = .ok b₂ ∧ b₁.sources = b₂.sources ∧
    b₁.memory = b₂.memory

theorem pathsAgree_iff_copies (hdst : dst.Plain) (hsrc : src.Plain) (rects : List Rect) :
    PathsAgree dst src rects ↔
      (fastCopies dst src rects).flatMap Copy.reads =
        (genericCopies dst src rects).flatMap Copy.reads ∧
      ∀ k, Copy.lastSource (fastCopies dst src rects) k =
        Copy.lastSource (genericCopies dst src rects) k := by
  constructor
  · intro h
    have hboth : ∀ memory m : Int → Byte,
        (fastCopies dst src rects).flatMap Copy.reads =
          (genericCopies dst src rects).flatMap Copy.reads ∧
        applyAll ((fastCopies dst src rects).map (Copy.store memory)) m =
          applyAll ((genericCopies dst src rects).map (Copy.store memory)) m := by
      intro memory m
      obtain ⟨b₁, b₂, h₁, h₂, hsources, hmem⟩ := h memory ⟨m, []⟩
      obtain ⟨c₁, hc₁, hs₁, hm₁⟩ := copyBits32_32_copies dst src memory rects ⟨m, []⟩
      obtain ⟨c₂, hc₂, hs₂, hm₂⟩ := copyBitsGeneric_copies hdst hsrc memory rects ⟨m, []⟩
      cases h₁.symm.trans hc₁
      cases h₂.symm.trans hc₂
      exact ⟨List.append_cancel_left (hs₁.symm.trans (hsources.trans hs₂)),
        hm₁.symm.trans (hmem.trans hm₂)⟩
    have : Nontrivial Byte := ⟨0, 1, by decide⟩
    exact ⟨(hboth (fun _ => 0) fun _ => 0).1,
      Copy.same_stores_iff.mp fun memory m => (hboth memory m).2⟩
  · rintro ⟨hreads, hlast⟩ memory b
    obtain ⟨c₁, hc₁, hs₁, hm₁⟩ := copyBits32_32_copies dst src memory rects b
    obtain ⟨c₂, hc₂, hs₂, hm₂⟩ := copyBitsGeneric_copies hdst hsrc memory rects b
    refine ⟨c₁, c₂, hc₁, hc₂, ?_, ?_⟩
    · rw [hs₁, hs₂, hreads]
    · rw [hm₁, hm₂, Copy.applyAll_congr_lastSource hlast]

end Blt

/-- The rectangle is in order. -/
structure Rect.Ordered (r : Rect) : Prop where
  left : r.left ≤ r.right
  top : r.top ≤ r.bottom
  longs : -2147483648 ≤ r.left ∧ r.right < 2147483648 ∧ -2147483648 ≤ r.top ∧
    r.bottom < 2147483648

/-- No row has more bytes than fit in 32 bits. -/
def Narrow (rects : List Rect) : Prop :=
  ∀ r ∈ rects, r.top < r.bottom → r.right - r.left < 1073741824

/-- No rectangle has a second row. -/
def OneRow (rects : List Rect) : Prop :=
  ∀ r ∈ rects, r.left < r.right → r.bottom - r.top ≤ 1

/-- A row of the rectangle, by these steps in the destination, has the address `k`. -/
def Rect.Reaches (dst : BltInfo) (step : Int) (r : Rect) (k : Int) : Prop :=
  ∃ j : Nat, j < r.bottom - r.top ∧ Blt.start32 dst r + j * step ≤ k ∧
    k < Blt.start32 dst r + j * step + (r.right - r.left) * 4

/-- The last byte of the last row, by the unsigned pitch. -/
def Rect.lastByte (dst : BltInfo) (r : Rect) : Int :=
  Blt.start32 dst r + (r.bottom - r.top - 1) * dst.pitch + (r.right - r.left) * 4 - 1

/-- Every rectangle with a second row ends, by the unsigned pitch, where another rectangle has a
row by the signed one. -/
def Overdrawn (dst : BltInfo) (rects : List Rect) : Prop :=
  ∀ r ∈ rects, r.left < r.right → 1 < r.bottom - r.top →
    ∃ r' ∈ rects, r' ≠ r ∧ r'.Reaches dst (long dst.pitch) (r.lastByte dst)

namespace Blt

variable {dst src : BltInfo} {rects : List Rect}

theorem uint_of_ordered {r : Rect} (h : r.Ordered) :
    (uint (r.right - r.left) : Int) = r.right - r.left ∧
      (uint (r.bottom - r.top) : Int) = r.bottom - r.top := by
  have hleft := h.left
  have htop := h.top
  have hlongs := h.longs
  exact ⟨uint_eq (by omega) (by omega), uint_eq (by omega) (by omega)⟩

/-- A pitch that is not negative as a `LONG` is the same both ways. -/
theorem long_pitch_iff {p : Nat} (h : p < 4294967296) : (p : Int) = long p ↔ p < 2147483648 := by
  unfold long
  rw [Int.bmod_def]
  omega

/-- The paths read the same addresses in a rectangle. -/
theorem rect_reads_eq_iff (dst src : BltInfo) (r : Rect) :
    (rectCopies dst src dst.pitch src.pitch (fun n => u32 (n * 4)) r).flatMap Copy.reads =
      (rectCopies dst src (long dst.pitch) (long src.pitch) (fun n => n * 4) r).flatMap
        Copy.reads ↔
    ∀ j < uint (r.bottom - r.top), u32 (uint (r.right - r.left) * 4) = uint (r.right - r.left) * 4 ∧
      (uint (r.right - r.left) * 4 = 0 ∨ (j : Int) * src.pitch = j * long src.pitch) :=
  Copy.rows_reads_eq_iff (u32_le _)

/-- The turns of the loops make no difference. -/
theorem turns_iff {r : Rect} (h : r.Ordered) {p : Nat} (hp : p < 4294967296) :
    (∀ j < uint (r.bottom - r.top),
      u32 (uint (r.right - r.left) * 4) = uint (r.right - r.left) * 4 ∧
        (uint (r.right - r.left) * 4 = 0 ∨ (j : Int) * p = j * long p)) ↔
    (r.top < r.bottom → r.right - r.left < 1073741824) ∧
      (p < 2147483648 ∨ (r.left < r.right → r.bottom - r.top ≤ 1)) := by
  obtain ⟨hwidth, hheight⟩ := uint_of_ordered h
  have hleft := h.left
  have hfits : u32 (uint (r.right - r.left) * 4) = uint (r.right - r.left) * 4 ↔
      r.right - r.left < 1073741824 := by
    unfold u32
    omega
  rw [hfits, ← long_pitch_iff hp]
  constructor
  · intro hall
    refine ⟨fun hrow => (hall 0 (by omega)).1, ?_⟩
    by_cases hpitch : (p : Int) = long p
    · exact .inl hpitch
    · right
      intro hcol
      by_contra hmore
      rcases (hall 1 (by omega)).2 with hzero | hstep
      · omega
      · rw [Nat.cast_one, Int.one_mul, Int.one_mul] at hstep
        exact hpitch hstep
  · rintro ⟨hnarrow, hpitch⟩ j hj
    refine ⟨hnarrow (by omega), ?_⟩
    rcases hpitch with hpitch | hone
    · right
      rw [← hpitch]
    · by_cases hcol : r.left < r.right
      · have hzero : j = 0 := by
          have hrows := hone hcol
          omega
        right
        rw [hzero, Nat.cast_zero, Int.zero_mul, Int.zero_mul]
      · left
        omega

/-- The paths read the same addresses. -/
theorem reads_eq_iff (hsrc : src.Plain) (hrects : ∀ r ∈ rects, r.Ordered) :
    (fastCopies dst src rects).flatMap Copy.reads =
      (genericCopies dst src rects).flatMap Copy.reads ↔
    Narrow rects ∧ (src.pitch < 2147483648 ∨ OneRow rects) := by
  have hlength : ∀ r ∈ rects,
      ((rectCopies dst src dst.pitch src.pitch (fun n => u32 (n * 4)) r).flatMap
        Copy.reads).length ≤ ((rectCopies dst src (long dst.pitch) (long src.pitch)
          (fun n => n * 4) r).flatMap Copy.reads).length := by
    intro r _
    rw [rectCopies, rectCopies, Copy.length_rows_reads, Copy.length_rows_reads]
    exact Nat.mul_le_mul_left _ (u32_le _)
  rw [fastCopies, genericCopies, List.flatMap_assoc, List.flatMap_assoc,
    flatMap_eq_flatMap_iff hlength]
  have hturns : ∀ r ∈ rects, _ := fun r hr =>
    (rect_reads_eq_iff dst src r).trans (turns_iff (hrects r hr) hsrc.pitch)
  rw [forall₂_congr hturns]
  constructor
  · intro h
    refine ⟨fun r hr => (h r hr).1, ?_⟩
    by_cases hpitch : src.pitch < 2147483648
    · exact .inl hpitch
    · exact .inr fun r hr => (h r hr).2.resolve_left hpitch
  · rintro ⟨hnarrow, hpitch | hone⟩ r hr
    · exact ⟨hnarrow r hr, .inl hpitch⟩
    · exact ⟨hnarrow r hr, .inr (hone r hr)⟩

/-- Rows that are read alike are stored alike, if the steps in the destination make no difference
either. -/
theorem lastSource_eq (hdst : dst.Plain) (hsrc : src.Plain) (hrects : ∀ r ∈ rects, r.Ordered)
    (hnarrow : Narrow rects) (hsrcRows : src.pitch < 2147483648 ∨ OneRow rects)
    (hdstRows : dst.pitch < 2147483648 ∨ OneRow rects) (k : Int) :
    Copy.lastSource (fastCopies dst src rects) k =
      Copy.lastSource (genericCopies dst src rects) k := by
  apply Copy.lastSource_flatMap_congr
  intro r hr
  apply Copy.lastSource_map_congr
  intro j hj
  have hlt : j < uint (r.bottom - r.top) := List.mem_range.mp hj
  have hread := (turns_iff (hrects r hr) hsrc.pitch).mpr
    ⟨hnarrow r hr, hsrcRows.imp_right fun hone => hone r hr⟩ j hlt
  have hstore := (turns_iff (hrects r hr) hdst.pitch).mpr
    ⟨hnarrow r hr, hdstRows.imp_right fun hone => hone r hr⟩ j hlt
  refine ⟨hread.1, ?_⟩
  rcases hread.2 with hzero | hreadStep
  · exact .inl (hread.1.trans hzero)
  · rcases hstore.2 with hzero | hstoreStep
    · exact .inl (hread.1.trans hzero)
    · right
      simp only [hreadStep, hstoreStep, hread.1]

/-- The addresses that the rows of the rectangles have. -/
theorem lastSource_isSome_iff {copies : List Rect → List Copy} {step : Int} {count : Nat → Nat}
    {srcStep : Int} (hcopies : ∀ rects, copies rects =
      rects.flatMap (rectCopies dst src step srcStep count))
    (hcount : ∀ r ∈ rects, r.top < r.bottom →
      (count (uint (r.right - r.left)) : Int) = (r.right - r.left) * 4)
    (hrects : ∀ r ∈ rects, r.Ordered) (k : Int) :
    Copy.lastSource (copies rects) k ≠ none ↔ ∃ r ∈ rects, r.Reaches dst step k := by
  rw [Ne, Copy.lastSource_eq_none_iff, hcopies]
  simp only [not_forall, exists_prop]
  constructor
  · rintro ⟨c, hc, hsource⟩
    obtain ⟨r, hr, hc⟩ := List.mem_flatMap.mp hc
    obtain ⟨j, hj, rfl⟩ := List.mem_map.mp hc
    rw [Copy.source_eq_none_iff, not_not] at hsource
    obtain ⟨-, hheight⟩ := uint_of_ordered (hrects r hr)
    have hlt := List.mem_range.mp hj
    refine ⟨r, hr, j, by omega, hsource.1, ?_⟩
    rw [← hcount r hr (by omega)]
    exact hsource.2
  · rintro ⟨r, hr, j, hj, hlow, hhigh⟩
    obtain ⟨-, hheight⟩ := uint_of_ordered (hrects r hr)
    refine ⟨_, List.mem_flatMap.mpr ⟨r, hr, List.mem_map.mpr
      ⟨j, List.mem_range.mpr (by omega), rfl⟩⟩, ?_⟩
    rw [Copy.source_eq_none_iff, not_not]
    refine ⟨hlow, ?_⟩
    change k < _ + ((count (uint (r.right - r.left)) : Nat) : Int)
    rw [hcount r hr (by omega)]
    exact hhigh

/-- Where the signed pitch leads back, a rectangle does not reach its own last byte. -/
theorem not_reaches_lastByte {r : Rect} (hpitch : ¬dst.pitch < 2147483648)
    (hfit : dst.pitch < 4294967296) (hrow : 1 < r.bottom - r.top) :
    ¬r.Reaches dst (long dst.pitch) (r.lastByte dst) := by
  rintro ⟨j, -, -, hlt⟩
  have hback : long dst.pitch ≤ 0 := by
    unfold long
    rw [Int.bmod_def]
    omega
  have hjback : (j : Int) * long dst.pitch ≤ 0 :=
    mul_nonpos_of_nonneg_of_nonpos (Int.natCast_nonneg j) hback
  have hfar : (dst.pitch : Int) ≤ (r.bottom - r.top - 1) * dst.pitch :=
    le_mul_of_one_le_left (by omega) (by omega)
  unfold Rect.lastByte at hlt
  omega

/-- What the signed steps put wrong is drawn over only if another rectangle does so. -/
theorem overdrawn_of_lastSource_eq (hdst : dst.Plain) (hrects : ∀ r ∈ rects, r.Ordered)
    (hnarrow : Narrow rects) (hpitch : ¬dst.pitch < 2147483648)
    (hlast : ∀ k, Copy.lastSource (fastCopies dst src rects) k =
      Copy.lastSource (genericCopies dst src rects) k) : Overdrawn dst rects := by
  intro r hr hcol hrow
  have hfast : Copy.lastSource (fastCopies dst src rects) (r.lastByte dst) ≠ none := by
    refine (lastSource_isSome_iff (fun _ => rfl) (fun r' hr' hrow' => ?_) hrects _).mpr
      ⟨r, hr, (r.bottom - r.top - 1).toNat, by omega, ?_, ?_⟩
    · obtain ⟨hwidth, -⟩ := uint_of_ordered (hrects r' hr')
      have hlt := hnarrow r' hr' hrow'
      unfold u32
      omega
    · rw [Int.toNat_of_nonneg (by omega), Rect.lastByte]
      omega
    · rw [Int.toNat_of_nonneg (by omega), Rect.lastByte]
      omega
  rw [hlast] at hfast
  obtain ⟨r', hr', hreach⟩ := (lastSource_isSome_iff (fun _ => rfl) (fun r' hr' _ => by
    obtain ⟨hwidth, -⟩ := uint_of_ordered (hrects r' hr')
    push_cast
    omega) hrects _).mp hfast
  refine ⟨r', hr', ?_, hreach⟩
  rintro rfl
  exact not_reaches_lastByte hpitch hdst.pitch hrow hreach

/-- **The two paths agree** exactly if no row has so many pixels that its bytes do not fit in 32
bits, the pitch of the source is not negative as a `LONG` or no rectangle has a second row, and the
same holds of the destination, or other rectangles draw over what its rows put wrong, so that the
last rows to have an address take it from the same one. -/
theorem paths_agree_iff (hdst : dst.Plain) (hsrc : src.Plain) (hrects : ∀ r ∈ rects, r.Ordered) :
    PathsAgree dst src rects ↔
      Narrow rects ∧ (src.pitch < 2147483648 ∨ OneRow rects) ∧
        ((dst.pitch < 2147483648 ∨ OneRow rects) ∨ Overdrawn dst rects ∧
          ∀ k, Copy.lastSource (fastCopies dst src rects) k =
            Copy.lastSource (genericCopies dst src rects) k) := by
  rw [pathsAgree_iff_copies hdst hsrc, reads_eq_iff hsrc hrects]
  constructor
  · rintro ⟨⟨hnarrow, hsrcRows⟩, hlast⟩
    refine ⟨hnarrow, hsrcRows, ?_⟩
    by_cases hpitch : dst.pitch < 2147483648
    · exact .inl (.inl hpitch)
    · exact .inr ⟨overdrawn_of_lastSource_eq hdst hrects hnarrow hpitch hlast, hlast⟩
  · rintro ⟨hnarrow, hsrcRows, hdstRows | ⟨-, hlast⟩⟩
    · exact ⟨⟨hnarrow, hsrcRows⟩, lastSource_eq hdst hsrc hrects hnarrow hsrcRows hdstRows⟩
    · exact ⟨⟨hnarrow, hsrcRows⟩, hlast⟩

/-- Where no rectangle draws over the end of another one, the pitches alone decide. -/
theorem paths_agree_apart_iff (hdst : dst.Plain) (hsrc : src.Plain)
    (hrects : ∀ r ∈ rects, r.Ordered)
    (hapart : ∀ r ∈ rects, ∀ r' ∈ rects, r' ≠ r →
      ¬r'.Reaches dst (long dst.pitch) (r.lastByte dst)) :
    PathsAgree dst src rects ↔ Narrow rects ∧ (src.pitch < 2147483648 ∨ OneRow rects) ∧
      (dst.pitch < 2147483648 ∨ OneRow rects) := by
  rw [pathsAgree_iff_copies hdst hsrc, reads_eq_iff hsrc hrects]
  constructor
  · rintro ⟨⟨hnarrow, hsrcRows⟩, hlast⟩
    refine ⟨hnarrow, hsrcRows, ?_⟩
    by_cases hpitch : dst.pitch < 2147483648
    · exact .inl hpitch
    · right
      intro r hr hcol
      by_contra hmore
      obtain ⟨r', hr', hne, hreach⟩ :=
        overdrawn_of_lastSource_eq hdst hrects hnarrow hpitch hlast r hr hcol (by omega)
      exact hapart r hr r' hr' hne hreach
  · rintro ⟨hnarrow, hsrcRows, hdstRows⟩
    exact ⟨⟨hnarrow, hsrcRows⟩, lastSource_eq hdst hsrc hrects hnarrow hsrcRows hdstRows⟩

/-- One rectangle cannot draw over itself. -/
theorem paths_agree_singleton_iff {r : Rect} (hdst : dst.Plain) (hsrc : src.Plain)
    (hr : r.Ordered) : PathsAgree dst src [r] ↔ Narrow [r] ∧
      (src.pitch < 2147483648 ∨ OneRow [r]) ∧ (dst.pitch < 2147483648 ∨ OneRow [r]) := by
  refine paths_agree_apart_iff hdst hsrc (by simpa using hr) ?_
  intro r₁ hr₁ r₂ hr₂ hne
  rw [List.mem_singleton.mp hr₁, List.mem_singleton.mp hr₂] at hne
  exact absurd rfl hne

/-- An image of one pixel in each of two rows. -/
def columnImage (pitch : Nat) : BltInfo := ⟨0, pitch, 32, ⟨0, 0⟩, .identity, 1, 2⟩

def column : Rect := ⟨0, 0, 1, 2⟩

theorem column_ordered : ∀ r ∈ [column], r.Ordered := by
  intro r hr
  rw [List.mem_singleton.mp hr]
  exact ⟨by decide, by decide, by decide⟩

theorem paths_agree_column : PathsAgree (columnImage 4) (columnImage 16) [column] :=
  (paths_agree_iff ⟨rfl, rfl, by decide⟩ ⟨rfl, rfl, by decide⟩ column_ordered).mpr
    ⟨by unfold Narrow; decide, .inl (by decide), .inl (.inl (by decide))⟩

/-- The second row of a source whose pitch stands for -4 is 4 GiB away for `CopyBits32_32`. -/
theorem not_always_agree : ¬∀ dst src rects, dst.Plain → src.Plain →
    (∀ r ∈ rects, r.Ordered) → PathsAgree dst src rects := by
  intro h
  obtain ⟨b₁, b₂, h₁, h₂, hsources, -⟩ := h (columnImage 4) (columnImage 4294967292) [column]
    ⟨rfl, rfl, by decide⟩ ⟨rfl, rfl, by decide⟩ column_ordered (fun _ => 0) ⟨fun _ => 0, []⟩
  cases h₁
  cases h₂
  revert hsources
  decide

end Blt

end VioGpu.Device
