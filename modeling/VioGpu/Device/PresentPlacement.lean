import VioGpu.Device.CommitRuns
import VioGpu.Device.PresentRuns
import VioGpu.Device.UpdateRect

/-!
# Where a present draws

`BltBits` puts the pixels of a rectangle where the rotation says, and a centred image is moved by
half pixels: the bytes of one pixel may lie over two pixels of the frame buffer, and what is moved
over the end of a row goes on in the next one. So a rectangle is drawn over at most four rectangles
of the frame buffer (`CurrentBddMode.pieces`), and `Gpu.Shows.touches_iff` says that it is drawn
over nothing else.
-/

namespace VioGpu.Device

open Lib

/-- There is a pixel in the rectangle. -/
def Rect.HasPixels (r : Rect) : Prop := r.left < r.right ∧ r.top < r.bottom

instance (r : Rect) : Decidable r.HasPixels := inferInstanceAs (Decidable (_ ∧ _))

theorem Rect.Mem.hasPixels {r : Rect} {x y : Int} (h : r.Mem x y) : r.HasPixels := by
  obtain ⟨hx, hx', hy, hy'⟩ := h
  exact ⟨by omega, by omega⟩

theorem Rect.Inside.mem {r u : Rect} (h : r.Inside u) {x y : Int} (hmem : r.Mem x y) :
    u.Mem x y := by
  obtain ⟨h₁, h₂, h₃, h₄⟩ := h
  obtain ⟨hx, hx', hy, hy'⟩ := hmem
  exact ⟨by omega, by omega, by omega, by omega⟩

/-- A rectangle is inside another one if its pixels are. -/
theorem Rect.forall_mem_iff {r u : Rect} :
    (∀ x y, r.Mem x y → u.Mem x y) ↔ (r.HasPixels → r.Inside u) := by
  constructor
  · intro h hpixels
    obtain ⟨h₁, -, h₃, -⟩ := h _ _ (Rect.mem_first hpixels)
    obtain ⟨-, h₂, -, h₄⟩ := h _ _ (Rect.mem_last hpixels)
    exact ⟨h₁, h₃, by omega, by omega⟩
  · intro h x y hmem
    exact (h hmem.hasPixels).mem hmem

/-! ## Frame buffers on show -/

/-- The pixel in column `c` and row `r` of the frame buffer contains the byte at `k`. -/
structure CurrentBddMode.IsPixel (mode : CurrentBddMode) (c r k : Int) : Prop where
  left : 0 ≤ c
  right : c < mode.dispInfo.width
  low : r * mode.dispInfo.pitch + c * 4 ≤ k
  high : k < r * mode.dispInfo.pitch + c * 4 + 4

/-- A mode has been set: the pitch is that of rows of 32-bit pixels, the visible part is within
the surface, the path is one that the driver accepts, and the surface is within the memory of the
frame buffer that `FrameBuffer.Ptr` points to. -/
structure Gpu.Shows (g : Gpu) : Prop where
  format : g.mode.dispInfo.colorFormat = .a8r8g8b8
  wide : g.mode.dispInfo.width < 134217728
  pitch : g.mode.dispInfo.pitch = g.mode.dispInfo.width * 4
  visible : g.mode.srcModeWidth ≤ g.mode.dispInfo.width ∧
    g.mode.srcModeHeight ≤ g.mode.dispInfo.height
  rotation : g.mode.rotation = .identity ∨ g.mode.rotation = .rotate90 ∨
    g.mode.rotation = .notSpecified ∨ g.mode.rotation = .uninitialized
  scaling : g.mode.scaling = .identity ∨ g.mode.scaling = .centered ∨
    g.mode.scaling = .notSpecified ∨ g.mode.scaling = .uninitialized
  backed : ∃ obj ∈ g.frameBuf, g.mode.ptr = some obj.number ∧ ∃ size ∈ obj.vAddr,
    g.mode.dispInfo.height * g.mode.dispInfo.pitch ≤ size ∧ size < 4294967296

/-- The rectangle is in order, and inside the presented source. -/
structure CurrentBddMode.InSource (mode : CurrentBddMode) (p : PresentDisplayOnly) (r : Rect) :
    Prop where
  ordered : r.left ≤ r.right ∧ r.top ≤ r.bottom
  first : 0 ≤ r.left ∧ 0 ≤ r.top
  last : r.right ≤ (mode.sourceSize p).1 ∧ r.bottom ≤ (mode.sourceSize p).2

/-- The rectangle that `ExecutePresentDisplayOnly` sends. -/
def CurrentBddMode.updateRect (mode : CurrentBddMode) (p : PresentDisplayOnly) : Rect :=
  (findUpdateRect p.moves p.dirtyRects).getD
    { left := 0, top := 0, right := mode.srcModeWidth, bottom := mode.srcModeHeight }

/-- The blits store something, if there is a pixel: the rotation is one that `bitops.cpp` knows,
and so is the depth of the source. -/
def CurrentBddMode.Draws (mode : CurrentBddMode) (p : PresentDisplayOnly) : Prop :=
  (mode.dstBltInfo p).Turned ∧ conversion 32 (mode.srcBltInfo p).bitsPerPel ≠ none

/-- What the rotation by 90 degrees makes of a rectangle. -/
def CurrentBddMode.rotate90 (mode : CurrentBddMode) (r : Rect) : Rect where
  left := r.top
  top := mode.srcModeHeight - r.right
  right := r.bottom
  bottom := mode.srcModeHeight - r.left

/-- The pixel in column `c` and row `r` of the frame buffer and the four bytes at `k` overlap. -/
structure CurrentBddMode.Overlaps (mode : CurrentBddMode) (c r k : Int) : Prop where
  left : 0 ≤ c
  right : c < mode.dispInfo.width
  low : r * mode.dispInfo.pitch + c * 4 < k + 4
  high : k < r * mode.dispInfo.pitch + c * 4 + 4

namespace CurrentBddMode

/-- How many columns of the frame buffer the image leaves free. -/
def spareColumns (mode : CurrentBddMode) : Nat := mode.dispInfo.width - mode.srcModeWidth

/-- How many rows of the frame buffer the image leaves free. -/
def spareRows (mode : CurrentBddMode) : Nat := mode.dispInfo.height - mode.srcModeHeight

/-- How many pixels are in the spare rows, and in the spare columns of one row. -/
def sparePixels (mode : CurrentBddMode) : Nat :=
  mode.spareRows * mode.dispInfo.width + mode.spareColumns

/-- By how many half pixels the image is moved: one for each spare pixel. `CenterShift` is an `int`,
and from 2 GiB on a negative one. -/
def halfShift (mode : CurrentBddMode) : Int :=
  if mode.scaling = .centered then
    if mode.sparePixels < 536870912 then mode.sparePixels else mode.sparePixels - 1073741824
  else 0

/-- Where the rotation puts a rectangle of the presented source. -/
def placed (mode : CurrentBddMode) (p : PresentDisplayOnly) (r : Rect) : Rect :=
  if p.rotationNeededByFb mode = .rotate90 then mode.rotate90 r else r

/-- The rectangle after each of its pixels was moved by `q` pixels: the part that stays in its row,
and the part that goes on in the next one. -/
def moved (mode : CurrentBddMode) (r : Rect) (q : Int) : List Rect :=
  let rows := q / mode.dispInfo.width
  let columns := q % mode.dispInfo.width
  [{ left := r.left + columns
     right := min (r.right + columns) mode.dispInfo.width
     top := r.top + rows
     bottom := r.bottom + rows },
   { left := max (r.left + columns) mode.dispInfo.width - mode.dispInfo.width
     right := r.right + columns - mode.dispInfo.width
     top := r.top + rows + 1
     bottom := r.bottom + rows + 1 }]

/-- The rectangles of the frame buffer that a rectangle of the source is drawn over. An odd number
of half pixels lies between two numbers of pixels. -/
def pieces (mode : CurrentBddMode) (p : PresentDisplayOnly) (r : Rect) : List Rect :=
  mode.moved (mode.placed p r) (mode.halfShift / 2) ++
    mode.moved (mode.placed p r) ((mode.halfShift + 1) / 2)

end CurrentBddMode

/-- The update rectangle agrees with the blits: its offset fits, and whatever is drawn over is
inside it. -/
structure CurrentBddMode.Agrees (mode : CurrentBddMode) (p : PresentDisplayOnly) : Prop where
  offset : uint (mode.updateRect p).top * mode.dispInfo.pitch +
    uint (mode.updateRect p).left * 4 < 4294967296
  inside : mode.Draws p → ∀ r ∈ p.rects, ∀ piece ∈ mode.pieces p r, piece.HasPixels →
    piece.Inside (mode.updateRect p)

/-! ## The shift -/

/-- Half of four bytes for each of `n` pixels, as an `int`. -/
theorem long_tdiv_two {n : Nat} (h : n < 1073741824) : (long (n * 4 : Nat)).tdiv 2 =
    2 * if n < 536870912 then (n : Int) else n - 1073741824 := by
  have hlong : long (n * 4 : Nat) =
      2 * (2 * if n < 536870912 then (n : Int) else n - 1073741824) := by
    rw [long, Int.bmod_def]
    split_ifs <;> omega
  rw [hlong, Int.mul_tdiv_cancel_left _ (by omega)]

namespace CurrentBddMode

variable {mode : CurrentBddMode} {p : PresentDisplayOnly}

/-- A pixel that overlaps the four bytes at `k` has one of the first three of them, as `k` is
even. -/
theorem overlaps_iff (hpitch : mode.dispInfo.pitch = mode.dispInfo.width * 4) {k : Int}
    (hk : k % 2 = 0) {len : Nat} (hlow : 3 ≤ len) (hhigh : len ≤ 4) (c row : Int) :
    mode.Overlaps c row k ↔ ∃ i : Nat, i < len ∧ mode.IsPixel c row (k + i) := by
  have hrow : row * (mode.dispInfo.pitch : Int) = row * mode.dispInfo.width * 4 := by
    rw [hpitch, Nat.cast_mul, ← Int.mul_assoc]
    rfl
  constructor
  · rintro ⟨hleft, hright, hl, hh⟩
    rw [hrow] at hl hh
    by_cases hbefore : row * mode.dispInfo.width * 4 + c * 4 ≤ k
    · exact ⟨0, by omega, hleft, hright, by omega, by omega⟩
    · exact ⟨2, by omega, hleft, hright, by omega, by omega⟩
  · rintro ⟨i, hi, hleft, hright, hl, hh⟩
    exact ⟨hleft, hright, by omega, by omega⟩

/-- The pixel in column `column` and row `line` becomes the one in column `c` and row `row` when it
is moved by `q` pixels. -/
def MovesTo (mode : CurrentBddMode) (q column line c row : Int) : Prop :=
  (column + q % mode.dispInfo.width < mode.dispInfo.width ∧
    c = column + q % mode.dispInfo.width ∧ row = line + q / mode.dispInfo.width) ∨
  (mode.dispInfo.width ≤ column + q % mode.dispInfo.width ∧
    c = column + q % mode.dispInfo.width - mode.dispInfo.width ∧
    row = line + q / mode.dispInfo.width + 1)

/-- A position is a number of pixels. -/
theorem movesTo_iff {q column line c row : Int} (hcol : 0 ≤ column)
    (hcol' : column < mode.dispInfo.width) : mode.MovesTo q column line c row ↔
      (0 ≤ c ∧ c < mode.dispInfo.width) ∧
        row * mode.dispInfo.width + c = line * mode.dispInfo.width + column + q := by
  have hnonneg : 0 ≤ q % mode.dispInfo.width := Int.emod_nonneg q (by omega)
  have hlt : q % mode.dispInfo.width < mode.dispInfo.width := Int.emod_lt_of_pos q (by omega)
  have hdiv : q = q / mode.dispInfo.width * mode.dispInfo.width + q % mode.dispInfo.width :=
    (Int.ediv_mul_add_emod q _).symm
  unfold MovesTo
  generalize q / mode.dispInfo.width = rows at *
  generalize q % mode.dispInfo.width = columns at *
  subst hdiv
  have hnext : (line + rows + 1) * (mode.dispInfo.width : Int) =
      line * mode.dispInfo.width + rows * mode.dispInfo.width + mode.dispInfo.width := by ring
  have hsame : (line + rows) * (mode.dispInfo.width : Int) =
      line * mode.dispInfo.width + rows * mode.dispInfo.width := by ring
  constructor
  · rintro (⟨hstays, rfl, rfl⟩ | ⟨hgoes, rfl, rfl⟩)
    · exact ⟨⟨by omega, hstays⟩, by omega⟩
    · exact ⟨⟨by omega, by omega⟩, by omega⟩
  · rintro ⟨⟨hc, hc'⟩, hsum⟩
    by_cases hstays : column + columns < mode.dispInfo.width
    · obtain ⟨hrow, hcolumn⟩ := digits_unique row (line + rows) hc hc' (by omega) hstays
        (by omega)
      exact .inl ⟨hstays, hcolumn, hrow⟩
    · have hover : 0 ≤ column + columns - mode.dispInfo.width := by omega
      obtain ⟨hrow, hcolumn⟩ := digits_unique row (line + rows + 1) hc hc' hover (by omega)
        (by omega)
      exact .inr ⟨by omega, hcolumn, hrow⟩

/-- **Half pixels**: the bytes of a pixel that is moved by `n` of them lie over the pixels that are
`n / 2` and `(n + 1) / 2` further on. -/
theorem overlaps_moved_iff (hpitch : mode.dispInfo.pitch = mode.dispInfo.width * 4)
    {n column line c row : Int} (hcol : 0 ≤ column) (hcol' : column < mode.dispInfo.width) :
    mode.Overlaps c row (2 * n + line * mode.dispInfo.pitch + column * 4) ↔
      mode.MovesTo (n / 2) column line c row ∨ mode.MovesTo ((n + 1) / 2) column line c row := by
  have hrow : ∀ r : Int, r * (mode.dispInfo.pitch : Int) = r * mode.dispInfo.width * 4 := by
    intro r
    rw [hpitch, Nat.cast_mul, ← Int.mul_assoc]
    rfl
  rw [movesTo_iff hcol hcol', movesTo_iff hcol hcol']
  constructor
  · rintro ⟨hleft, hright, hl, hh⟩
    rw [hrow, hrow] at hl hh
    by_cases hfirst : row * mode.dispInfo.width + c = line * mode.dispInfo.width + column + n / 2
    · exact .inl ⟨⟨hleft, hright⟩, hfirst⟩
    · exact .inr ⟨⟨hleft, hright⟩, by omega⟩
  · rintro (⟨⟨hleft, hright⟩, hsum⟩ | ⟨⟨hleft, hright⟩, hsum⟩)
    · exact ⟨hleft, hright, by rw [hrow, hrow]; omega, by rw [hrow, hrow]; omega⟩
    · exact ⟨hleft, hright, by rw [hrow, hrow]; omega, by rw [hrow, hrow]; omega⟩

/-- The pixels of the moved rectangle are those of the rectangle, moved. -/
theorem mem_moved_iff {r : Rect} {q c row : Int} :
    (∃ piece ∈ mode.moved r q, piece.Mem c row) ↔
      ∃ column line, r.Mem column line ∧ mode.MovesTo q column line c row := by
  unfold moved MovesTo
  simp only [List.mem_cons, List.not_mem_nil, or_false, exists_eq_or_imp, exists_eq_left]
  constructor
  · rintro (⟨h₁, h₂, h₃, h₄⟩ | ⟨h₁, h₂, h₃, h₄⟩)
    · dsimp only at h₁ h₂ h₃ h₄
      exact ⟨c - q % mode.dispInfo.width, row - q / mode.dispInfo.width,
        ⟨by omega, by omega, by omega, by omega⟩, .inl ⟨by omega, by omega, by omega⟩⟩
    · dsimp only at h₁ h₂ h₃ h₄
      exact ⟨c - q % mode.dispInfo.width + mode.dispInfo.width,
        row - q / mode.dispInfo.width - 1, ⟨by omega, by omega, by omega, by omega⟩,
        .inr ⟨by omega, by omega, by omega⟩⟩
  · rintro ⟨column, line, ⟨h₁, h₂, h₃, h₄⟩, (⟨hstays, rfl, rfl⟩ | ⟨hgoes, rfl, rfl⟩)⟩
    · exact .inl ⟨by dsimp only; omega, by dsimp only; omega, by dsimp only; omega,
        by dsimp only; omega⟩
    · exact .inr ⟨by dsimp only; omega, by dsimp only; omega, by dsimp only; omega,
        by dsimp only; omega⟩

end CurrentBddMode

namespace Gpu

variable {g : Gpu} {p : PresentDisplayOnly}

/-- The rotations that both the driver accepts and `bitops.cpp` knows. -/
theorem Shows.rotation_cases (h : g.Shows) (ht : (g.mode.dstBltInfo p).Turned) :
    p.rotationNeededByFb g.mode = .identity ∨ p.rotationNeededByFb g.mode = .rotate90 := by
  change p.rotationNeededByFb g.mode = _ ∨ p.rotationNeededByFb g.mode = _ ∨
    p.rotationNeededByFb g.mode = _ ∨ p.rotationNeededByFb g.mode = _ at ht
  unfold PresentDisplayOnly.rotationNeededByFb at ht ⊢
  split_ifs at ht ⊢
  · rcases h.rotation with hr | hr | hr | hr
    all_goals simp [hr] at ht ⊢
  · exact .inl rfl

theorem Shows.bytesPerPixel (h : g.Shows) (p : PresentDisplayOnly) :
    (g.mode.dstBltInfo p).bitsPerPel = 32 ∧ (g.mode.dstBltInfo p).bytesPerPixel = 4 := by
  have hbits : (g.mode.dstBltInfo p).bitsPerPel = 32 := by
    change bppFromPixelFormat g.mode.dispInfo.colorFormat = 32
    rw [h.format]
    rfl
  exact ⟨hbits, by rw [BltInfo.bytesPerPixel, hbits]⟩

/-- A surface with a visible pixel, in numbers. -/
theorem Shows.small (h : g.Shows) (hwidth : 0 < g.mode.srcModeWidth) :
    0 < g.mode.dispInfo.width ∧ g.mode.srcModeHeight < 1073741824 ∧
      g.mode.srcModeHeight * g.mode.dispInfo.pitch < 4294967296 := by
  obtain ⟨hw, hh⟩ := h.visible
  obtain ⟨obj, -, -, size, -, hsize, hlt⟩ := h.backed
  have hrows : g.mode.srcModeHeight * g.mode.dispInfo.pitch ≤
      g.mode.dispInfo.height * g.mode.dispInfo.pitch := Nat.mul_le_mul_right _ hh
  have hcols : g.mode.srcModeHeight * 4 ≤ g.mode.srcModeHeight * g.mode.dispInfo.pitch :=
    Nat.mul_le_mul_left _ (by rw [h.pitch]; omega)
  omega

/-- An image with a pixel has a width and a height. -/
theorem visible_of_contains {x y : Int} (h : (g.mode.dstBltInfo p).Contains x y) :
    0 < g.mode.srcModeWidth ∧ 0 < g.mode.srcModeHeight := by
  obtain ⟨⟨hrow, hrow'⟩, hcol, hcol'⟩ := h
  change _ < (g.mode.srcModeHeight : Int) at hrow'
  change _ < (g.mode.srcModeWidth : Int) at hcol'
  omega

/-- **The rectangles are within the image** that the blits write. -/
theorem Shows.within (h : g.Shows) (ht : (g.mode.dstBltInfo p).Turned) {r : Rect}
    (hr : g.mode.InSource p r) : r.Within (g.mode.dstBltInfo p) where
  left := hr.ordered.1
  top := hr.ordered.2
  inside x y hmem := by
    obtain ⟨hfirst, hfirst'⟩ := hr.first
    obtain ⟨hlast, hlast'⟩ := hr.last
    obtain ⟨hx, hx', hy, hy'⟩ := hmem
    have hin : (g.mode.dstBltInfo p).Contains x y := by
      unfold BltInfo.Contains BltInfo.position CurrentBddMode.dstBltInfo
      unfold CurrentBddMode.sourceSize at hlast hlast'
      rcases h.rotation_cases ht with hrot | hrot
      all_goals
        simp only [hrot] at hlast hlast' ⊢
        omega
    refine ⟨hin, ?_⟩
    obtain ⟨hwidth, -⟩ := visible_of_contains hin
    obtain ⟨-, hlow, hbytes⟩ := h.small hwidth
    have hwide := h.wide
    have hpitch := h.pitch
    have hvisible := h.visible
    refine ⟨ht, ?_, ?_, ?_, hbytes⟩
    · rw [(h.bytesPerPixel p).2]
      simp only [CurrentBddMode.dstBltInfo]
      omega
    · simp only [CurrentBddMode.dstBltInfo]
      omega
    · simp only [CurrentBddMode.dstBltInfo]
      omega

/-- The pixel `(x, y)` is moved by the shift from its position. -/
theorem Shows.address_eq (h : g.Shows) (x y : Int) : (g.mode.dstBltInfo p).address x y =
    g.mode.centerShift + ((g.mode.dstBltInfo p).position x y).1 * g.mode.dispInfo.pitch +
      ((g.mode.dstBltInfo p).position x y).2 * 4 := by
  rw [BltInfo.address, (h.bytesPerPixel p).2]
  rfl

/-- **The shift** is two bytes for each half pixel. -/
theorem Shows.centerShift_eq (h : g.Shows) (hwidth : 0 < g.mode.srcModeWidth)
    (hheight : 0 < g.mode.srcModeHeight) : g.mode.centerShift = 2 * g.mode.halfShift := by
  obtain ⟨hvisible, hvisible'⟩ := h.visible
  obtain ⟨obj, -, -, size, -, hsize, hlt⟩ := h.backed
  have hwide := h.wide
  have hbits : g.mode.dstBitPerPixel = 32 := by
    rw [CurrentBddMode.dstBitPerPixel, h.format]
    rfl
  have hrows : g.mode.spareRows + 1 ≤ g.mode.dispInfo.height := by
    unfold CurrentBddMode.spareRows
    omega
  have hcolumns : sub32 g.mode.dispInfo.width g.mode.srcModeWidth = g.mode.spareColumns := by
    unfold sub32 CurrentBddMode.spareColumns
    omega
  have hfew : g.mode.spareColumns ≤ g.mode.dispInfo.width := Nat.sub_le _ _
  rw [h.pitch] at hsize
  have hbytes := Nat.mul_le_mul_right (g.mode.dispInfo.width * 4) hrows
  rw [Nat.add_mul, Nat.one_mul, ← Nat.mul_assoc] at hbytes
  have hheight : g.mode.dispInfo.height ≤ g.mode.dispInfo.height * (g.mode.dispInfo.width * 4) :=
    Nat.le_mul_of_pos_right _ (by omega)
  have hsub : sub32 g.mode.dispInfo.height g.mode.srcModeHeight = g.mode.spareRows := by
    unfold sub32 CurrentBddMode.spareRows
    omega
  unfold CurrentBddMode.centerShift CurrentBddMode.halfShift
  by_cases hcentered : g.mode.scaling = .centered
  · rw [if_pos hcentered, if_pos hcentered, hsub, hcolumns, h.pitch, hbits, ← Nat.mul_assoc]
    unfold CurrentBddMode.sparePixels
    generalize g.mode.spareRows * g.mode.dispInfo.width = rows at *
    have hshift : u32 (rows * 4 + u32 (g.mode.spareColumns * 32) / 8) =
        (rows + g.mode.spareColumns) * 4 := by
      have hinner : u32 (g.mode.spareColumns * 32) / 8 = g.mode.spareColumns * 4 := by
        rw [u32, Nat.mod_eq_of_lt (by omega)]
        omega
      rw [hinner, u32, Nat.mod_eq_of_lt (by omega), Nat.add_mul]
    rw [hshift, long_tdiv_two (by omega)]
  · rw [if_neg hcentered, if_neg hcentered]
    rfl

/-- Where the pixels of a rectangle are put. -/
theorem Shows.exists_position (h : g.Shows) (ht : (g.mode.dstBltInfo p).Turned) (r : Rect)
    {P : Int → Int → Prop} :
    (∃ x y, r.Mem x y ∧ P ((g.mode.dstBltInfo p).position x y).2
      ((g.mode.dstBltInfo p).position x y).1) ↔
      ∃ column line, (g.mode.placed p r).Mem column line ∧ P column line := by
  unfold BltInfo.position CurrentBddMode.placed CurrentBddMode.dstBltInfo
  obtain hrot | hrot := h.rotation_cases ht
  · rw [if_neg (by simp [hrot])]
    simp only [hrot, Int.add_zero]
  · rw [if_pos hrot]
    simp only [hrot, Int.add_zero]
    constructor
    · rintro ⟨x, y, ⟨h₁, h₂, h₃, h₄⟩, hP⟩
      refine ⟨y, g.mode.srcModeHeight - 1 - x, ⟨?_, ?_, ?_, ?_⟩, hP⟩
      all_goals
        dsimp only [CurrentBddMode.rotate90]
        omega
    · rintro ⟨column, line, ⟨h₁, h₂, h₃, h₄⟩, hP⟩
      dsimp only [CurrentBddMode.rotate90] at h₁ h₂ h₃ h₄
      refine ⟨g.mode.srcModeHeight - 1 - line, column, ⟨by omega, by omega, by omega, by omega⟩, ?_⟩
      rwa [sub_sub_cancel]

/-- **A rectangle is drawn over its pieces**, and over nothing else. -/
theorem Shows.touches_iff (h : g.Shows) (ht : (g.mode.dstBltInfo p).Turned) {r : Rect}
    (hr : g.mode.InSource p r) (c row : Int) :
    (∃ x y, r.Mem x y ∧ g.mode.Overlaps c row ((g.mode.dstBltInfo p).address x y)) ↔
      ∃ piece ∈ g.mode.pieces p r, piece.Mem c row := by
  have hover : ∀ x y, r.Mem x y →
      (g.mode.Overlaps c row ((g.mode.dstBltInfo p).address x y) ↔
        g.mode.MovesTo (g.mode.halfShift / 2) ((g.mode.dstBltInfo p).position x y).2
          ((g.mode.dstBltInfo p).position x y).1 c row ∨
        g.mode.MovesTo ((g.mode.halfShift + 1) / 2) ((g.mode.dstBltInfo p).position x y).2
          ((g.mode.dstBltInfo p).position x y).1 c row) := by
    intro x y hmem
    obtain ⟨hin, -⟩ := (h.within ht hr).inside x y hmem
    obtain ⟨hwidth, hheight⟩ := visible_of_contains hin
    obtain ⟨-, hcol, hcol'⟩ := hin
    change _ < (g.mode.srcModeWidth : Int) at hcol'
    have hvisible := h.visible
    rw [h.address_eq, h.centerShift_eq hwidth hheight]
    exact CurrentBddMode.overlaps_moved_iff h.pitch hcol (by omega)
  calc (∃ x y, r.Mem x y ∧ g.mode.Overlaps c row ((g.mode.dstBltInfo p).address x y))
      ↔ ∃ x y, r.Mem x y ∧
          (g.mode.MovesTo (g.mode.halfShift / 2) ((g.mode.dstBltInfo p).position x y).2
            ((g.mode.dstBltInfo p).position x y).1 c row ∨
          g.mode.MovesTo ((g.mode.halfShift + 1) / 2) ((g.mode.dstBltInfo p).position x y).2
            ((g.mode.dstBltInfo p).position x y).1 c row) :=
        exists_congr fun x => exists_congr fun y => and_congr_right (hover x y)
    _ ↔ ∃ column line, (g.mode.placed p r).Mem column line ∧
          (g.mode.MovesTo (g.mode.halfShift / 2) column line c row ∨
          g.mode.MovesTo ((g.mode.halfShift + 1) / 2) column line c row) :=
        h.exists_position ht r (P := fun column line =>
          g.mode.MovesTo (g.mode.halfShift / 2) column line c row ∨
          g.mode.MovesTo ((g.mode.halfShift + 1) / 2) column line c row)
    _ ↔ ∃ piece ∈ g.mode.pieces p r, piece.Mem c row := by
        unfold CurrentBddMode.pieces
        simp only [List.mem_append, or_and_right, exists_or, CurrentBddMode.mem_moved_iff,
          and_or_left]

/-- The address of a pixel is even, as the shift is. -/
theorem Shows.address_even (h : g.Shows) (ht : (g.mode.dstBltInfo p).Turned) {r : Rect}
    (hr : g.mode.InSource p r) {x y : Int} (hmem : r.Mem x y) :
    (g.mode.dstBltInfo p).address x y % 2 = 0 := by
  obtain ⟨hwidth, hheight⟩ := visible_of_contains ((h.within ht hr).inside x y hmem).1
  rw [h.address_eq, h.centerShift_eq hwidth hheight, h.pitch, Nat.cast_mul, ← Int.mul_assoc]
  omega

end Gpu

end VioGpu.Device
