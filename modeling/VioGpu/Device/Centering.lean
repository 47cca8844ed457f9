import VioGpu.Device.PresentPlacement

/-!
# A centred image (`PresentDisplayOnly` with `D3DKMDT_VPPS_CENTERED`)

An image that is smaller than the frame buffer starts at the frame buffer pixel whose column and row
are half of the differences of the sizes. `PresentDisplayOnly` adds the bytes of both differences
and halves the sum: with an odd number of spare rows that is half a row too much, and with an odd
number of spare columns half a pixel.
-/

namespace VioGpu.Device

open Lib

namespace Blt

variable {dst src : BltInfo} {rects : List Rect}

/-- What the blits store, one for each rectangle. -/
theorem presentRects_spec (hdepth : (dst.bitsPerPel, src.bitsPerPel) ∈ depths) (hdst : dst.Image)
    (hsrc : src.Image) (hrects : ∀ r ∈ rects, r.Fits dst src) (memory : Int → Byte) (b : Blt) :
    ∃ accesses, b.presentRects dst src memory rects = b.after accesses ∧
      ∀ k v, (∃ a ∈ accesses, a.Writes k v) ↔ Copied dst src memory rects k v := by
  induction rects generalizing b with
  | nil => exact ⟨[], by rw [after_nil]; rfl, by simp [Copied]⟩
  | cons r rects ih =>
    obtain ⟨hr, hrest⟩ := List.forall_mem_cons.mp hrects
    obtain ⟨first, hb, -, hwrites⟩ :=
      bltBits_spec hdepth hdst hsrc (List.forall_mem_singleton.mpr hr) memory b
    obtain ⟨rest, hb', hwrites'⟩ := ih hrest (b.after first)
    refine ⟨first ++ rest, ?_, fun k v => ?_⟩
    · rw [← after_after, ← hb', ← hb]
      rfl
    · have hsplit : (∃ a ∈ first ++ rest, a.Writes k v) ↔
          (∃ a ∈ first, a.Writes k v) ∨ ∃ a ∈ rest, a.Writes k v := by
        simp only [List.mem_append, or_and_right, exists_or]
      rw [hsplit, hwrites, hwrites']
      unfold Copied
      simp only [List.mem_cons, List.not_mem_nil, or_false, exists_eq_left, or_and_right, exists_or]

/-- **Every pixel of a rectangle is put in its place.** -/
theorem presentRects_pixel (hdepth : (dst.bitsPerPel, src.bitsPerPel) ∈ depths) (hdst : dst.Image)
    (hsrc : src.Image) (hrects : ∀ r ∈ rects, r.Fits dst src) (memory before : Int → Byte)
    {r : Rect} (hr : r ∈ rects) {x y : Int} (hmem : r.Mem x y) {i : Nat} {v : Byte}
    (hv : (convertedPixel dst src memory x y)[i]? = some v) :
    ((Blt.mk before []).presentRects dst src memory rects).memory (dst.address x y + i) = v := by
  obtain ⟨accesses, hb, hwrites⟩ :=
    presentRects_spec hdepth hdst hsrc hrects memory (Blt.mk before [])
  have hstores : ∀ k v, Lib.Writes (accesses.filterMap Access.store?) k v ↔
      Copied dst src memory rects k v := fun k v => writes_stores.trans (hwrites k v)
  have hunique : Relator.RightUnique (Lib.Writes (accesses.filterMap Access.store?)) :=
    fun k v w hv hw => copied_unique hdepth hdst hrects memory ((hstores k v).mp hv)
      ((hstores k w).mp hw)
  rw [hb]
  exact applyAll_of_writes hunique ((hstores _ v).mpr ⟨r, hr, x, y, hmem, i, hv, rfl⟩) before

end Blt

/-! ## The shift -/

/-- Pixels have an even number of bytes. -/
theorem two_dvd_long (rows columns : Nat) : (2 : Int) ∣ long (rows * 4 + columns * 4 : Nat) := by
  rw [long, Int.bmod_def]
  omega

/-- Half of the shift, when the rows can be halved; there are `columns` spare columns. -/
theorem long_half_iff_of_even {rows half columns : Nat} (hrows : rows = 2 * half) :
    long (rows + columns % 134217728 * 4 : Nat) / 2 = half + (columns / 2 : Nat) * 4 ↔
      columns % 2 = 0 ∧ columns < 134217728 ∧ rows + columns * 4 < 2147483648 := by
  rw [long, Int.bmod_def]
  omega

/-- Half of the shift, when a row of `width` pixels is left over: half of that row is too much,
unless the products lose it. -/
theorem long_half_iff_of_odd {rows half columns image width : Nat}
    (hcolumns : columns + image = width) (hnarrow : 4 * width < 4294967296)
    (hrows : rows = 2 * half + 4 * width) (hsize : rows < 2147483648) :
    long (rows + columns % 134217728 * 4 : Nat) / 2 = half + (columns / 2 : Nat) * 4 ↔
      image = 0 ∧ width % 134217728 = 0 := by
  rw [long, Int.bmod_def]
  omega

namespace CurrentBddMode

/-- Where the frame buffer pixel in column `c` and row `r` starts. -/
def pixelAt (mode : CurrentBddMode) (c r : Int) : Int := r * mode.dispInfo.pitch + c * 4

/-- The image is centred in a frame buffer of 32-bit pixels, at least as large as the image and
smaller than 2 GiB. -/
structure Centers (mode : CurrentBddMode) : Prop where
  scaling : mode.scaling = .centered
  format : mode.dstBitPerPixel = 32
  columns : mode.srcModeWidth ≤ mode.dispInfo.width
  rows : mode.srcModeHeight ≤ mode.dispInfo.height
  pitch : mode.dispInfo.pitch = 4 * mode.dispInfo.width
  narrow : mode.dispInfo.pitch < 4294967296
  size : mode.dispInfo.height * mode.dispInfo.pitch < 2147483648

/-- The source of a present: pixels of 32 bits in rows that have room for them, less than 2 GiB
together, and rectangles inside the image. -/
structure Sends (mode : CurrentBddMode) (p : PresentDisplayOnly) : Prop where
  depth : p.bytesPerPixel = 4
  pitch : (mode.srcModeWidth * 4 : Int) ≤ p.pitch ∧ p.pitch < 2147483648
  size : mode.srcModeHeight * p.pitch < 2147483648
  rects : ∀ r ∈ p.rects, mode.InSource p r

/-- The image is put into the middle: it starts at the frame buffer pixel in the middle of the
spare columns and rows, and without a rotation each of its pixels becomes one pixel of the frame
buffer, at the same distance from that one as in the source and in the same row as its
neighbours. -/
structure PutsCentered (mode : CurrentBddMode) : Prop where
  start : mode.centerShift =
    mode.pixelAt (mode.spareColumns / 2 : Nat) (mode.spareRows / 2 : Nat)
  pixels : ∀ g : Gpu, g.mode = mode → ∀ p, mode.Sends p → p.rotationNeededByFb mode = .identity →
    ∀ source before status screen g',
      g.presentDisplayOnly ⟨before, []⟩ source false p = some (status, screen, g') →
        ∀ r ∈ p.rects, ∀ x y, r.Mem x y →
          (mode.spareColumns / 2 : Nat) + x < mode.dispInfo.width ∧
          (mode.spareRows / 2 : Nat) + y < mode.dispInfo.height ∧
          ∀ i : Nat, i < 4 →
            screen.memory (mode.pixelAt ((mode.spareColumns / 2 : Nat) + x)
              ((mode.spareRows / 2 : Nat) + y) + i) = source (y * p.pitch + x * 4 + i)

/-- The spare columns and the spare rows can be halved, and `CenterShift` fits. The other case is
that of an image without columns, in a frame buffer whose width is lost in the products. -/
def Halves (mode : CurrentBddMode) : Prop :=
  (mode.spareColumns % 2 = 0 ∧ mode.spareRows % 2 = 0 ∧ mode.spareColumns < 134217728 ∧
    mode.spareRows * mode.dispInfo.pitch + mode.spareColumns * 4 < 2147483648) ∨
  (mode.spareRows % 2 = 1 ∧ mode.srcModeWidth = 0 ∧ mode.dispInfo.width % 134217728 = 0)

variable {mode : CurrentBddMode}

/-- `CenterShift` as it is computed, before the halving. -/
theorem Centers.centerShift_eq (h : mode.Centers) :
    mode.centerShift = (long (mode.spareRows * mode.dispInfo.pitch +
      mode.spareColumns % 134217728 * 4 : Nat)) / 2 := by
  have hrows : sub32 mode.dispInfo.height mode.srcModeHeight * mode.dispInfo.pitch =
      mode.spareRows * mode.dispInfo.pitch := by
    obtain hzero | hpos := Nat.eq_zero_or_pos mode.dispInfo.pitch
    · rw [hzero, Nat.mul_zero, Nat.mul_zero]
    · have hheight : mode.dispInfo.height ≤ mode.dispInfo.height * mode.dispInfo.pitch :=
        Nat.le_mul_of_pos_right _ hpos
      have hsub : sub32 mode.dispInfo.height mode.srcModeHeight = mode.spareRows := by
        have := h.size
        have := h.rows
        unfold sub32 spareRows
        omega
      rw [hsub]
  have hle : mode.spareRows * mode.dispInfo.pitch ≤ mode.dispInfo.height * mode.dispInfo.pitch :=
    Nat.mul_le_mul_right _ (Nat.sub_le _ _)
  have hcolumns : u32 (sub32 mode.dispInfo.width mode.srcModeWidth * 32) / 8 =
      mode.spareColumns % 134217728 * 4 := by
    have := h.columns
    have := h.pitch
    have := h.narrow
    unfold u32 sub32 spareColumns
    omega
  have hfits : u32 (mode.spareRows * mode.dispInfo.pitch + mode.spareColumns % 134217728 * 4) =
      mode.spareRows * mode.dispInfo.pitch + mode.spareColumns % 134217728 * 4 := by
    have := h.size
    unfold u32
    omega
  have heven : mode.spareRows * mode.dispInfo.pitch =
      mode.spareRows * mode.dispInfo.width * 4 := by
    rw [h.pitch, Nat.mul_comm 4, Nat.mul_assoc]
  unfold centerShift
  rw [if_pos h.scaling, h.format, hrows, hcolumns, hfits, heven]
  exact Int.tdiv_eq_ediv_of_dvd (two_dvd_long _ _)

/-- **The start** is that of the pixel in the middle exactly if the differences can be halved. -/
theorem Centers.start_iff (h : mode.Centers) :
    mode.centerShift = mode.pixelAt (mode.spareColumns / 2 : Nat) (mode.spareRows / 2 : Nat) ↔
      mode.Halves := by
  have hle : mode.spareRows * mode.dispInfo.pitch ≤ mode.dispInfo.height * mode.dispInfo.pitch :=
    Nat.mul_le_mul_right _ (Nat.sub_le _ _)
  have hcolumns : mode.spareColumns + mode.srcModeWidth = mode.dispInfo.width :=
    Nat.sub_add_cancel h.columns
  have hnarrow : 4 * mode.dispInfo.width < 4294967296 := h.pitch ▸ h.narrow
  -- twice half of the spare rows, and the row that is left over
  have hrows : mode.spareRows * mode.dispInfo.pitch =
      2 * (mode.spareRows / 2 * mode.dispInfo.pitch) +
        mode.spareRows % 2 * (4 * mode.dispInfo.width) := by
    rw [← h.pitch, ← Nat.mul_assoc, ← Nat.add_mul, Nat.div_add_mod]
  have hhalf : ((mode.spareRows / 2 : Nat) : Int) * mode.dispInfo.pitch =
      (mode.spareRows / 2 * mode.dispInfo.pitch : Nat) := (Int.natCast_mul _ _).symm
  rw [h.centerShift_eq, pixelAt, hhalf]
  unfold Halves
  obtain heven | hodd := Nat.mod_two_eq_zero_or_one mode.spareRows
  · rw [heven, Nat.zero_mul, Nat.add_zero] at hrows
    rw [long_half_iff_of_even hrows]
    constructor
    · intro ⟨hhalves, hfew, hfits⟩
      exact .inl ⟨hhalves, heven, hfew, hfits⟩
    · intro hcases
      obtain ⟨hhalves, -, hfew, hfits⟩ | ⟨hodd, -⟩ := hcases
      · exact ⟨hhalves, hfew, hfits⟩
      · omega
  · rw [hodd, Nat.one_mul] at hrows
    rw [long_half_iff_of_odd hcolumns hnarrow hrows (hle.trans_lt h.size)]
    constructor
    · intro ⟨hnone, hlost⟩
      exact .inr ⟨hodd, hnone, hlost⟩
    · intro hcases
      obtain ⟨-, heven, -⟩ | ⟨-, hnone, hlost⟩ := hcases
      · omega
      · exact ⟨hnone, hlost⟩

/-! ## The pixels -/

section

variable {p : PresentDisplayOnly}

theorem Centers.depths (h : mode.Centers) (hsends : mode.Sends p) :
    ((mode.dstBltInfo p).bitsPerPel, (mode.srcBltInfo p).bitsPerPel) ∈ depths := by
  have hdst : (mode.dstBltInfo p).bitsPerPel = 32 := h.format
  have hsrc : (mode.srcBltInfo p).bitsPerPel = 32 := by
    rw [srcBltInfo, hsends.depth]
    rfl
  rw [hdst, hsrc]
  decide

/-- The visible part of the frame buffer is an image. -/
theorem Centers.image (h : mode.Centers) (hid : p.rotationNeededByFb mode = .identity) :
    (mode.dstBltInfo p).Image where
  turned := .inl hid
  pitch := by
    show mode.srcModeWidth * (mode.dstBitPerPixel / 8) ≤ mode.dispInfo.pitch
    have hcolumns := h.columns
    rw [h.format, h.pitch]
    omega
  size := (Nat.mul_le_mul_right _ h.rows).trans_lt h.size

theorem sourceSize_of_identity (hid : p.rotationNeededByFb mode = .identity) :
    mode.sourceSize p = (mode.srcModeWidth, mode.srcModeHeight) := by
  rw [sourceSize, hid]

theorem Sends.uint_pitch (hsends : mode.Sends p) : (uint p.pitch : Int) = p.pitch := by
  have hpitch := hsends.pitch
  exact uint_eq (by omega) (by omega)

/-- The source is one as well. -/
theorem Sends.image (hsends : mode.Sends p) (hid : p.rotationNeededByFb mode = .identity) :
    (mode.srcBltInfo p).Image where
  turned := .inl rfl
  pitch := by
    show (mode.sourceSize p).1 * (u32 (p.bytesPerPixel * 8) / 8) ≤ uint p.pitch
    have hpitch := hsends.pitch
    have huint := hsends.uint_pitch
    have hfour : u32 (4 * 8) / 8 = 4 := by decide
    rw [sourceSize_of_identity hid, hsends.depth, hfour]
    omega
  size := by
    show (mode.sourceSize p).2 * uint p.pitch < 2147483648
    have hsize := hsends.size
    rw [← hsends.uint_pitch] at hsize
    rw [sourceSize_of_identity hid]
    exact_mod_cast hsize

/-- The rectangles are inside both. -/
theorem Sends.fits (hsends : mode.Sends p) (hid : p.rotationNeededByFb mode = .identity) :
    ∀ r ∈ p.rects, r.Fits (mode.dstBltInfo p) (mode.srcBltInfo p) := by
  intro r hr
  obtain ⟨⟨hleft, htop⟩, ⟨hleft', htop'⟩, hright, hbottom⟩ := hsends.rects r hr
  rw [sourceSize_of_identity hid] at hright hbottom
  refine ⟨hleft, htop, fun x y hmem => ?_⟩
  obtain ⟨hx, hx', hy, hy'⟩ := hmem
  constructor
  · simp only [BltInfo.Contains, BltInfo.position, dstBltInfo, hid]
    omega
  · simp only [BltInfo.Contains, BltInfo.position, srcBltInfo, sourceSize_of_identity hid]
    omega

theorem dstBltInfo_address (h : mode.Centers) (hid : p.rotationNeededByFb mode = .identity)
    (x y : Int) : (mode.dstBltInfo p).address x y = mode.centerShift + mode.pixelAt x y := by
  simp only [BltInfo.address, BltInfo.position, BltInfo.bytesPerPixel, dstBltInfo, hid, h.format,
    Int.add_zero, pixelAt]
  omega

/-- The bytes of a source pixel. -/
theorem getElem?_convertedPixel (h : mode.Centers) (hsends : mode.Sends p) (source : Int → Byte)
    (x y : Int) {i : Nat} (hi : i < 4) :
    (convertedPixel (mode.dstBltInfo p) (mode.srcBltInfo p) source x y)[i]? =
      some (source (y * p.pitch + x * 4 + i)) := by
  have hdst : (mode.dstBltInfo p).bitsPerPel = 32 := h.format
  have hsrc : (mode.srcBltInfo p).bitsPerPel = 32 := by
    rw [srcBltInfo, hsends.depth]
    rfl
  have haddress : (mode.srcBltInfo p).address x y = y * p.pitch + x * 4 := by
    rw [BltInfo.address, BltInfo.bytesPerPixel, hsrc]
    simp [BltInfo.position, srcBltInfo, hsends.uint_pitch]
  rw [convertedPixel, hdst, hsrc, haddress]
  interval_cases i <;> rfl

end

end CurrentBddMode

/-- What a present that is not refused leaves on the screen. -/
theorem Gpu.presentDisplayOnly_screen {g g' : Gpu} {p : PresentDisplayOnly}
    {source before : Int → Byte} {status : Status} {screen : Blt} (hdepth : p.bytesPerPixel = 4)
    (h : g.presentDisplayOnly ⟨before, []⟩ source false p = some (status, screen, g')) :
    screen = (Blt.mk before []).presentRects (g.mode.dstBltInfo p) (g.mode.srcBltInfo p) source
      p.rects := by
  rw [presentDisplayOnly, if_neg (by omega), if_neg (by simp)] at h
  obtain ⟨g'', -, h⟩ := Option.bind_eq_some_iff.mp h
  cases h
  rfl

namespace CurrentBddMode

variable {mode : CurrentBddMode}

/-- **Every pixel follows the start.** -/
theorem Centers.putsCentered (h : mode.Centers)
    (hstart : mode.centerShift =
      mode.pixelAt (mode.spareColumns / 2 : Nat) (mode.spareRows / 2 : Nat)) :
    mode.PutsCentered := by
  refine ⟨hstart, ?_⟩
  intro g hg p hsends hid source before status screen g' hpresent r hr x y hmem
  subst hg
  obtain ⟨-, -, hright, hbottom⟩ := hsends.rects r hr
  rw [sourceSize_of_identity hid] at hright hbottom
  have hx := hmem.right
  have hy := hmem.bottom
  have hcolumns := h.columns
  have hrows := h.rows
  refine ⟨?_, ?_, fun i hi => ?_⟩
  · unfold spareColumns
    omega
  · unfold spareRows
    omega
  · rw [Gpu.presentDisplayOnly_screen hsends.depth hpresent]
    have hpixel := Blt.presentRects_pixel (h.depths hsends) (h.image hid) (hsends.image hid)
      (hsends.fits hid) source before hr hmem (getElem?_convertedPixel h hsends source x y hi)
    rw [dstBltInfo_address h hid, hstart] at hpixel
    convert hpixel using 2
    unfold pixelAt
    ring

/-- **The image is put into the middle** exactly if the differences of the sizes can be halved. -/
theorem putsCentered_iff (h : mode.Centers) : mode.PutsCentered ↔ mode.Halves :=
  ⟨fun hcentered => h.start_iff.mp hcentered.start,
    fun hhalves => h.putsCentered (h.start_iff.mpr hhalves)⟩

/-- A frame buffer with an image of 1280 columns and 800 rows. -/
def image1280x800 (width height : Nat) : CurrentBddMode where
  dispInfo := ⟨width, height, 4 * width, .a8r8g8b8, 0⟩
  rotation := .identity
  scaling := .centered
  srcModeWidth := 1280
  srcModeHeight := 800
  fullscreenPresent := false
  frameBufferIsActive := true
  doNotMapOrUnmap := false
  ptr := some 0

theorem putsCentered_iff_1920x1080 : (image1280x800 1920 1080).PutsCentered := by
  have h : (image1280x800 1920 1080).Centers :=
    ⟨rfl, rfl, by decide, by decide, rfl, by decide, by decide⟩
  exact (putsCentered_iff h).mpr (.inl ⟨by decide, by decide, by decide, by decide⟩)

/-- With one spare row the image starts in the middle of the first row. -/
theorem not_always_putsCentered : ¬∀ mode : CurrentBddMode, mode.Centers → mode.PutsCentered := by
  intro h
  have hstart := (h (image1280x800 1280 801)
    ⟨rfl, rfl, by decide, by decide, rfl, by decide, by decide⟩).start
  exact absurd hstart (by decide)

end CurrentBddMode

end VioGpu.Device
