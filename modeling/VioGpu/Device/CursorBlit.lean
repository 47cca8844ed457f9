import VioGpu.Device.Rotation

/-!
# The memory of the cursor (`CreateCursor`)

`CreateCursor` blits the shape to the object of the cursor. The rectangle is the shape as it is, and
the source has the rotation of the path: turned by 90 degrees, the columns of the rectangle are the
rows of the shape, so the blit stays inside the shape only if there are as many of them and the rows
are long enough. With a pitch near the range of `LONG` the products wrap, and the condition says
what is left of them.
-/

namespace VioGpu.Device

open Lib

/-- The source has `size` bytes and the destination `room`, and nothing else is accessed. -/
def Blt.InBounds (b : Blt) (size room : Nat) : Prop :=
  ∀ a ∈ b.accesses, ∀ k, (a.Reads k → 0 ≤ k ∧ k < size) ∧ ∀ v, a.Writes k v → 0 ≤ k ∧ k < room

theorem Blt.InBounds.load {b : Blt} {size room : Nat} (h : b.InBounds size room) {q : Int} {n : Nat}
    (hload : .load q n ∈ b.accesses) (hn : 0 < n) : 0 ≤ q ∧ q + n ≤ size := by
  have hfirst := (h _ hload q).1 ⟨by omega, by omega⟩
  have hlast := (h _ hload (q + n - 1)).1 ⟨by omega, by omega⟩
  omega

/-- The bytes of the cursor's object. -/
def cursorBytes : Nat := pointerSize * pointerSize * 4

/-- A colour shape of a size that the driver advertises, whose rows have room for the pixels. -/
structure PointerShape.Advertised (shape : PointerShape) (pitch : Nat) : Prop where
  color : shape.color = true
  width : 1 ≤ shape.width ∧ shape.width ≤ pointerSize
  height : 1 ≤ shape.height ∧ shape.height ≤ pointerSize
  pitch : 4 * shape.width ≤ pitch ∧ pitch < 4294967296

/-- The shape is not turned, or the columns and rows of the turned shape are inside. Above the range
of `LONG` the pitch counts as negative, and the columns go up. -/
def CurrentBddMode.CursorFits (mode : CurrentBddMode) (shape : PointerShape) (pitch : Nat) : Prop :=
  mode.rotation = .identity ∨
  (pitch ≤ 2147483648 ∧ 4 * shape.height ≤ pitch ∧
    (shape.width - 1) * pitch ≤ (shape.height - 1) * pitch % 4294967296) ∨
  (2147483648 < pitch ∧ (shape.height - 1) * pitch % 4294967296 +
    (shape.width - 1) * (4294967296 - pitch) + 4 * shape.height ≤ shape.height * pitch)

namespace BltCall

variable {c : BltCall}

/-- What `BltBits` accesses without a rotation, row by row. -/
theorem bltBits_rows (hdst : c.dst.bitsPerPel = 32 ∧ c.dst.rotation = .identity)
    (hsrc : c.src.bitsPerPel = 32 ∧ c.src.rotation = .identity) (source : Int → Byte) (b : Blt) :
    ∃ accesses, b.bltBits c.dst c.src source [c.rect] = b.after accesses ∧ ∀ a, a ∈ accesses ↔
      ∃ j : Nat, j < uint (c.rect.bottom - c.rect.top) ∧
        PixelAccess (u32 (uint (c.rect.right - c.rect.left) * 4)) id source
          (Blt.start32 c.dst c.rect + j * c.dst.pitch)
          (Blt.start32 c.src c.rect + j * c.src.pitch) a := by
  have hdoes : Blt.Does (Blt.copyMemory c.dst c.src source
      (u32 (uint (c.rect.right - c.rect.left) * 4)) (uint (c.rect.bottom - c.rect.top))
      (Blt.start32 c.dst c.rect) (Blt.start32 c.src c.rect) b) b _ := Blt.copyMemory_does _ _ _ b
  obtain ⟨accesses, hrows, hmem⟩ := hdoes
  refine ⟨accesses, ?_, hmem⟩
  have hfast : b.copyBits32_32 c.dst c.src source [c.rect] = .ok (b.after accesses) := by
    rw [Blt.copyBits32_32, List.foldlM_cons, hrows]
    rfl
  rw [Blt.bltBits, if_pos ⟨hdst.1, hsrc.1, hdst.2, hsrc.2⟩, hfast]

/-- What it accesses when the source is turned, pixel by pixel. -/
theorem bltBits_pixels (hdst : c.dst.bitsPerPel = 32) (hsrc : c.src.bitsPerPel = 32)
    (hturned : c.src.rotation ≠ .identity) {p q : Int} (hp : c.dst.getRowStart c.rect = some p)
    (hq : c.src.getRowStart c.rect = some q) (source : Int → Byte) (b : Blt) :
    ∃ accesses, b.bltBits c.dst c.src source [c.rect] = b.after accesses ∧ ∀ a, a ∈ accesses ↔
      ∃ j : Nat, j < uint (c.rect.bottom - c.rect.top) ∧
        ∃ i : Nat, i < uint (c.rect.right - c.rect.left) ∧ PixelAccess 4 id source
          (p + j * c.dst.getPitches.2 + i * c.dst.getPitches.1)
          (q + j * c.src.getPitches.2 + i * c.src.getPitches.1) a := by
  have hconv : conversion c.dst.bitsPerPel c.src.bitsPerPel = some (4, id) := by
    rw [hdst, hsrc]
    rfl
  have hdoes : Blt.Does (Blt.copyRows c.dst c.src source (uint (c.rect.right - c.rect.left))
      (uint (c.rect.bottom - c.rect.top)) (some p) (some q) b) b _ :=
    Blt.copyRows_does hconv _ _ p q b
  obtain ⟨accesses, hrows, hmem⟩ := hdoes
  refine ⟨accesses, ?_, hmem⟩
  have hgeneric : b.copyBitsGeneric c.dst c.src source [c.rect] = .ok (b.after accesses) := by
    rw [Blt.copyBitsGeneric, List.foldlM_cons, hp, hq, hrows]
    rfl
  rw [Blt.bltBits, if_neg fun h => hturned h.2.2.2, hgeneric]

end BltCall

namespace CurrentBddMode

variable {mode : CurrentBddMode} {shape : PointerShape} {pitch : Nat}

/-- The images and the rectangle of a colour shape. -/
theorem cursorBlit_eq (mode : CurrentBddMode) (hshape : shape.Advertised pitch) :
    mode.cursorBlit shape pitch =
      { dst := ⟨0, 256, 32, ⟨0, 0⟩, .identity, 64, 64⟩
        src := ⟨0, pitch, 32, ⟨0, 0⟩, mode.rotation, shape.width, shape.height⟩
        rect := ⟨0, 0, shape.width, shape.height⟩ } := by
  have hwidth : long shape.width = shape.width := by
    have hsmall : shape.width ≤ 64 := hshape.width.2
    exact long_eq (by omega) (by omega)
  have hheight : long shape.height = shape.height := by
    have hsmall : shape.height ≤ 64 := hshape.height.2
    exact long_eq (by omega) (by omega)
  rw [cursorBlit, hshape.color, hwidth, hheight]
  rfl

theorem uint_sub_zero {n : Nat} (h : n ≤ 64) : uint (n - 0 : Int) = n := by
  unfold uint
  omega

/-- What the blit accesses without a rotation. -/
theorem cursorBlit_rows (hshape : shape.Advertised pitch) (hid : mode.rotation = .identity)
    (source : Int → Byte) (b : Blt) :
    ∃ accesses, b.blitAll source [mode.cursorBlit shape pitch] = b.after accesses ∧
      ∀ a, a ∈ accesses ↔ ∃ j : Nat, j < shape.height ∧
        PixelAccess (shape.width * 4) id source (j * 256) (j * pitch) a := by
  rw [cursorBlit_eq mode hshape, hid]
  obtain ⟨accesses, hblit, hmem⟩ := BltCall.bltBits_rows
    (c := ⟨⟨0, 256, 32, ⟨0, 0⟩, .identity, 64, 64⟩,
      ⟨0, pitch, 32, ⟨0, 0⟩, .identity, shape.width, shape.height⟩,
      ⟨0, 0, shape.width, shape.height⟩⟩) ⟨rfl, rfl⟩ ⟨rfl, rfl⟩ source b
  refine ⟨accesses, hblit, fun a => ?_⟩
  have hstart : ∀ pitch width height, Blt.start32 ⟨0, pitch, 32, ⟨0, 0⟩, .identity, width, height⟩
      ⟨0, 0, shape.width, shape.height⟩ = 0 := by
    intro pitch width height
    have hzero : long 0 = 0 := by decide
    simp [Blt.start32, hzero, uint]
  have hwidth : u32 (shape.width * 4) = shape.width * 4 := by
    have hsmall : shape.width ≤ 64 := hshape.width.2
    unfold u32
    omega
  rw [hmem, hstart, hstart, uint_sub_zero hshape.height.2, uint_sub_zero hshape.width.2, hwidth]
  simp only [Int.zero_add, Nat.cast_ofNat]

/-- The pitch of the columns of a turned shape. -/
theorem long_neg_long_pitch (h : pitch < 4294967296) : long (-long pitch) =
    if pitch ≤ 2147483648 then -(pitch : Int) else 4294967296 - pitch := by
  unfold long
  rw [Int.bmod_def, Int.bmod_def]
  split_ifs <;> omega

/-- What the blit accesses of a shape that is turned by 90 degrees. -/
theorem cursorBlit_pixels (hshape : shape.Advertised pitch) (hturned : mode.rotation = .rotate90)
    (source : Int → Byte) (b : Blt) :
    ∃ accesses, b.blitAll source [mode.cursorBlit shape pitch] = b.after accesses ∧
      ∀ a, a ∈ accesses ↔ ∃ j : Nat, j < shape.height ∧ ∃ i : Nat, i < shape.width ∧
        PixelAccess 4 id source (j * 256 + i * 4)
          (((shape.height - 1) * pitch % 4294967296 : Nat) + j * 4 + i * long (-long pitch)) a := by
  rw [cursorBlit_eq mode hshape, hturned]
  have hzero : long 0 = 0 := by decide
  have hlast : uint (((shape.height : Int) - 1) * pitch) =
      (shape.height - 1) * pitch % 4294967296 := by
    have hpos := hshape.height.1
    have hcast : ((shape.height : Int) - 1) * pitch = ((shape.height - 1) * pitch : Nat) := by
      push_cast [Nat.cast_sub hpos]
      rfl
    rw [hcast]
    unfold uint
    omega
  obtain ⟨accesses, hblit, hmem⟩ := BltCall.bltBits_pixels
    (c := ⟨⟨0, 256, 32, ⟨0, 0⟩, .identity, 64, 64⟩,
      ⟨0, pitch, 32, ⟨0, 0⟩, .rotate90, shape.width, shape.height⟩,
      ⟨0, 0, shape.width, shape.height⟩⟩) rfl rfl (by simp) (p := 0)
    (q := ((shape.height - 1) * pitch % 4294967296 : Nat))
    (by simp [BltInfo.getRowStart, hzero, uint]) (by simp [BltInfo.getRowStart, hzero, hlast])
    source b
  refine ⟨accesses, hblit, fun a => ?_⟩
  have hfour : long (32 / 8 : Nat) = 4 := by decide
  have hrow : long (256 : Nat) = 256 := by decide
  rw [hmem, uint_sub_zero hshape.height.2, uint_sub_zero hshape.width.2]
  simp only [BltInfo.getPitches, hfour, hrow, Int.zero_add]

/-- Without a rotation nothing else is accessed. -/
theorem cursorBlit_inBounds (hshape : shape.Advertised pitch) (hid : mode.rotation = .identity)
    (source before : Int → Byte) :
    ((Blt.mk before []).blitAll source [mode.cursorBlit shape pitch]).InBounds
      (shape.height * pitch) cursorBytes := by
  obtain ⟨accesses, hblit, hmem⟩ := cursorBlit_rows hshape hid source (Blt.mk before [])
  have hwidth : shape.width ≤ 64 := hshape.width.2
  have hheight : shape.height ≤ 64 := hshape.height.2
  have hpitch := hshape.pitch.1
  have hroom : cursorBytes = 16384 := by decide
  rw [hblit, hroom]
  intro a ha k
  obtain ⟨j, hj, hrow⟩ := (hmem a).mp (by simpa [Blt.after] using ha)
  have hlast : j * pitch + pitch ≤ shape.height * pitch := by
    rw [← Nat.succ_mul]
    exact Nat.mul_le_mul_right _ hj
  constructor
  · intro hread
    obtain ⟨i, hi, rfl⟩ := hrow.reads hread
    rw [← Int.natCast_mul]
    omega
  · intro v hwrite
    obtain ⟨i, hi, rfl⟩ := PixelAccess.writes_iff.mp ⟨a, hrow, hwrite⟩
    have hlength : i < shape.width * 4 := by
      simpa using (List.getElem?_eq_some_iff.mp hi).1
    omega

/-- The bytes of a turned shape that are read are inside it. -/
def TurnedInside (width height pitch : Nat) : Prop :=
  ∀ j < height, ∀ i < width,
    0 ≤ (((height - 1) * pitch % 4294967296 : Nat) : Int) + j * 4 + i * long (-long pitch) ∧
      (((height - 1) * pitch % 4294967296 : Nat) : Int) + j * 4 + i * long (-long pitch) + 4 ≤
        height * pitch

/-- With a rotation by 90 degrees it depends on the reads. -/
theorem cursorBlit_inBounds_iff_turned (hshape : shape.Advertised pitch)
    (hturned : mode.rotation = .rotate90) (source before : Int → Byte) :
    ((Blt.mk before []).blitAll source [mode.cursorBlit shape pitch]).InBounds
      (shape.height * pitch) cursorBytes ↔ TurnedInside shape.width shape.height pitch := by
  obtain ⟨accesses, hblit, hmem⟩ := cursorBlit_pixels hshape hturned source (Blt.mk before [])
  have hwidth : shape.width ≤ 64 := hshape.width.2
  have hheight : shape.height ≤ 64 := hshape.height.2
  have hroom : cursorBytes = 16384 := by decide
  have hafter : ((Blt.mk before []).after accesses).accesses = accesses := List.nil_append _
  have hsize : ((shape.height * pitch : Nat) : Int) = shape.height * pitch := Int.natCast_mul _ _
  rw [hblit, hroom]
  constructor
  · intro hinside j hj i hi
    have hload := (hmem _).mpr ⟨j, hj, i, hi, .inl rfl⟩
    rw [← hafter] at hload
    rw [← hsize]
    exact hinside.load hload (by decide)
  · intro hinside a ha k
    rw [hafter] at ha
    obtain ⟨j, hj, i, hi, hpixel⟩ := (hmem a).mp ha
    obtain ⟨hlow, hhigh⟩ := hinside j hj i hi
    constructor
    · intro hread
      obtain ⟨n, hn, hk⟩ := hpixel.reads hread
      rw [hsize]
      omega
    · intro v hwrite
      obtain ⟨n, hn, rfl⟩ := PixelAccess.writes_iff.mp ⟨a, hpixel, hwrite⟩
      have hlength : n < 4 := by
        simpa using (List.getElem?_eq_some_iff.mp hn).1
      omega

/-- **The corners decide.** Up to the range of `LONG` the columns go down from the last row, and
above it up. -/
theorem turnedInside_iff {width height : Nat} (hwidth : 1 ≤ width)
    (hheight : 1 ≤ height ∧ height ≤ 64) (hpitch : pitch < 4294967296) :
    TurnedInside width height pitch ↔
      (pitch ≤ 2147483648 ∧ 4 * height ≤ pitch ∧
        (width - 1) * pitch ≤ (height - 1) * pitch % 4294967296) ∨
      (2147483648 < pitch ∧ (height - 1) * pitch % 4294967296 +
        (width - 1) * (4294967296 - pitch) + 4 * height ≤ height * pitch) := by
  have hrows : (height - 1) * pitch + pitch = height * pitch := by
    rw [← Nat.succ_mul, Nat.succ_eq_add_one, Nat.sub_add_cancel hheight.1]
  have hfew : (height - 1) * pitch ≤ 63 * pitch := Nat.mul_le_mul_right _ (by omega)
  have hstart : (height - 1) * pitch % 4294967296 ≤ (height - 1) * pitch := Nat.mod_le _ _
  have hsize : (height : Int) * pitch = (height * pitch : Nat) := (Int.natCast_mul _ _).symm
  unfold TurnedInside
  rw [long_neg_long_pitch hpitch, hsize]
  obtain hdown | hup := Nat.lt_or_ge 2147483648 pitch
  · have hcolumn : ∀ i : Nat, (i : Int) * (4294967296 - pitch) =
        (i * (4294967296 - pitch) : Nat) := by
      intro i
      rw [Int.natCast_mul, Nat.cast_sub hpitch.le]
      rfl
    simp only [if_neg (Nat.not_le.mpr hdown), hcolumn]
    constructor
    · intro hinside
      have hlast := (hinside (height - 1) (by omega) (width - 1) (by omega)).2
      exact .inr ⟨hdown, by omega⟩
    · intro hcases j hj i hi
      obtain ⟨hle, -⟩ | ⟨-, hfits⟩ := hcases
      · omega
      · have hmono : i * (4294967296 - pitch) ≤ (width - 1) * (4294967296 - pitch) :=
          Nat.mul_le_mul_right _ (by omega)
        exact ⟨by omega, by omega⟩
  · have hcolumn : ∀ i : Nat, (i : Int) * -(pitch : Int) = -(i * pitch : Nat) := by
      intro i
      rw [Int.natCast_mul, Int.mul_neg]
    simp only [if_pos hup, hcolumn]
    constructor
    · intro hinside
      have hfirst := (hinside 0 (by omega) (width - 1) (by omega)).1
      have hlast := (hinside (height - 1) (by omega) 0 (by omega)).2
      rw [Nat.zero_mul] at hlast
      exact .inl ⟨hup, by omega, by omega⟩
    · intro hcases j hj i hi
      obtain ⟨-, hlong, hfits⟩ | ⟨hlt, -⟩ := hcases
      · have hmono : i * pitch ≤ (width - 1) * pitch := Nat.mul_le_mul_right _ (by omega)
        exact ⟨by omega, by omega⟩
      · omega

/-- **The blit of a colour shape stays inside both images** exactly if the shape is not turned or
its corners are inside. -/
theorem cursorBlit_inBounds_iff (hshape : shape.Advertised pitch)
    (haccepted : mode.rotation = .identity ∨ mode.rotation = .rotate90)
    (source before : Int → Byte) :
    ((Blt.mk before []).blitAll source [mode.cursorBlit shape pitch]).InBounds
      (shape.height * pitch) cursorBytes ↔ mode.CursorFits shape pitch := by
  have hcorners : TurnedInside shape.width shape.height pitch ↔ _ :=
    turnedInside_iff hshape.width.1 hshape.height hshape.pitch.2
  obtain hid | hturned := haccepted
  · exact ⟨fun _ => .inl hid, fun _ => cursorBlit_inBounds hshape hid source before⟩
  · rw [cursorBlit_inBounds_iff_turned hshape hturned, hcorners, CursorFits, hturned]
    simp

/-- A path that is turned by 90 degrees. -/
def turnedMode : CurrentBddMode where
  dispInfo := ⟨1024, 768, 4096, .a8r8g8b8, 0⟩
  rotation := .rotate90
  scaling := .identity
  srcModeWidth := 1024
  srcModeHeight := 768
  fullscreenPresent := true
  frameBufferIsActive := true
  doNotMapOrUnmap := false
  ptr := some 0

theorem cursorBlit_inBounds_iff_square :
    ((Blt.mk (fun _ => 0) []).blitAll (fun _ => 0)
      [turnedMode.cursorBlit ⟨true, false, 32, 32, 0, 0⟩ 128]).InBounds (32 * 128) cursorBytes := by
  have hshape : PointerShape.Advertised ⟨true, false, 32, 32, 0, 0⟩ 128 :=
    ⟨rfl, by decide, by decide, by decide⟩
  exact (cursorBlit_inBounds_iff hshape (.inr rfl) (fun _ => 0) fun _ => 0).mpr
    (.inr (.inl (by decide)))

/-- A turned shape that is wider than high is read from below its first byte. -/
theorem not_always_inBounds : ¬∀ (mode : CurrentBddMode) (shape : PointerShape) (pitch : Nat)
    (source before : Int → Byte), shape.Advertised pitch →
      mode.rotation = .identity ∨ mode.rotation = .rotate90 →
        ((Blt.mk before []).blitAll source [mode.cursorBlit shape pitch]).InBounds
          (shape.height * pitch) cursorBytes := by
  intro h
  have hshape : PointerShape.Advertised ⟨true, false, 48, 32, 0, 0⟩ 192 :=
    ⟨rfl, by decide, by decide, by decide⟩
  have hinside := h turnedMode _ _ (fun _ => 0) (fun _ => 0) hshape (.inr rfl)
  rw [cursorBlit_inBounds_iff_turned hshape rfl] at hinside
  have hfirst := (hinside 0 (by decide) 47 (by decide)).1
  exact absurd hfirst (by decide)

/-- A shape whose pixels do not wrap is inside if it has as many rows as columns and its rows have
room for as many pixels as it has rows. -/
theorem cursorFits_iff_of_small (hturned : mode.rotation = .rotate90) (hwidth : 1 ≤ shape.width)
    (hheight : 1 ≤ shape.height) (hpitch : 1 ≤ pitch)
    (hsmall : shape.height * pitch < 2147483648) :
    mode.CursorFits shape pitch ↔ shape.width ≤ shape.height ∧ 4 * shape.height ≤ pitch := by
  have hlow : pitch ≤ shape.height * pitch := Nat.le_mul_of_pos_left _ hheight
  have hrows : (shape.height - 1) * pitch ≤ shape.height * pitch :=
    Nat.mul_le_mul_right _ (Nat.sub_le _ _)
  have hcolumns : (shape.width - 1) * pitch ≤ (shape.height - 1) * pitch ↔
      shape.width ≤ shape.height := by
    rw [Nat.mul_le_mul_right_iff hpitch]
    omega
  unfold CursorFits
  rw [Nat.mod_eq_of_lt (by omega), hcolumns, hturned]
  constructor
  · intro hcases
    obtain hid | ⟨-, hlong, hfits⟩ | ⟨hlt, -⟩ := hcases
    · cases hid
    · exact ⟨hfits, hlong⟩
    · omega
  · intro ⟨hfits, hlong⟩
    exact .inr (.inl ⟨by omega, hlong, hfits⟩)

end CurrentBddMode

end VioGpu.Device
