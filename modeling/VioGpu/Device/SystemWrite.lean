import VioGpu.Device.BlitPaths
import VioGpu.Device.PresentRuns
import VioGpu.Device.Vga

/-!
# What `SystemDisplayWrite` draws

`SystemDisplayWrite` does not clip what it draws to the screen, and the two paths of `BltBits` go
from row to row and count the pixels of a row differently where a pitch or a width is large. In
either case the pixels are stored row by row, each from its place in the source to its place in the
frame buffer (`SystemDisplayWrite.Puts`), and a byte of video memory that is zero is still zero
afterwards exactly if the last byte that is put there is zero (`systemDisplayWrite_zero_iff`).
-/

namespace VioGpu.Device

open Lib

namespace SystemDisplayWrite

/-- `BltBits` takes `CopyBits32_32`. -/
def Fast (mode : CurrentBddMode) : Prop := mode.dstBitPerPixel = 32 ∧ mode.rotation = .identity

instance (mode : CurrentBddMode) : Decidable (Fast mode) := inferInstanceAs (Decidable (_ ∧ _))

/-- How many rows are drawn. -/
def rows (w : SystemDisplayWrite) : Nat := u32 w.sourceHeight

/-- How many pixels of a row are drawn; `CopyBits32_32` counts their bytes in 32 bits. -/
def columns (w : SystemDisplayWrite) (mode : CurrentBddMode) : Nat :=
  if Fast mode then w.sourceWidth % 1073741824 else u32 w.sourceWidth

/-- The distance from a row to the next one in the frame buffer. -/
def rowStep (mode : CurrentBddMode) (base : Nat) : Int :=
  if Fast mode then mode.dispInfo.pitch else (dstBltInfo mode base).getPitches.2

/-- The distance from a row to the next one in the source. -/
def sourceStep (w : SystemDisplayWrite) (mode : CurrentBddMode) : Int :=
  if Fast mode then w.sourceStride else long w.sourceStride

/-- The pixel in row `j` and column `i` of the source, in the format of the frame buffer. -/
def pixel (w : SystemDisplayWrite) (mode : CurrentBddMode) (j i : Nat) : List Byte :=
  pixelBytes mode.dstBitPerPixel 32 fun t => w.source (j * w.sourceStep mode + i * 4 + t)

/-- The pixel in row `j` and column `i` puts the byte `value` at the address `k`. -/
def Puts (w : SystemDisplayWrite) (mode : CurrentBddMode) (base j i : Nat) (k : Int)
    (value : Byte) : Prop :=
  j < w.rows ∧ i < w.columns mode ∧
    ∃ start, (dstBltInfo mode base).getRowStart w.rect = some start ∧
      ∃ t : Nat, (w.pixel mode j i)[t]? = some value ∧
        k = start + j * rowStep mode base + i * (dstBltInfo mode base).getPitches.1 + t

end SystemDisplayWrite

/-! ## The stores of the loops -/

/-- The result is that of these stores. -/
def Blt.Leaves (result : Except Blt Blt) (b : Blt) (stores : List (Store Byte)) : Prop :=
  ∃ b', result = .ok b' ∧ b'.memory = applyAll stores b.memory

namespace Blt

variable (dst src : BltInfo) (memory : Int → Byte) {n : Nat} {convert : List Byte → List Byte}

theorem leaves_nothing (b : Blt) : Leaves (.ok b) b [] := ⟨b, rfl, rfl⟩

theorem Leaves.bind {result : Except Blt Blt} {b : Blt} {stores stores' : List (Store Byte)}
    {f : Blt → Except Blt Blt} (h : Leaves result b stores) (hf : ∀ b, Leaves (f b) b stores') :
    Leaves (result >>= f) b (stores ++ stores') := by
  obtain ⟨b₁, rfl, hmem⟩ := h
  obtain ⟨b₂, hresult, hmem'⟩ := hf b₁
  exact ⟨b₂, hresult, by rw [hmem', hmem, applyAll_append]⟩

/-- The store of a pixel. -/
theorem copyPixel_leaves (hconv : conversion dst.bitsPerPel src.bitsPerPel = some (n, convert))
    (p q : Int) (b : Blt) : Leaves (b.copyPixel dst src memory (some p) (some q)) b
      [⟨p, convert (readAt memory q n)⟩] := by
  refine ⟨b.after [.load q n, .store ⟨p, convert (readAt memory q n)⟩], ?_, rfl⟩
  simp only [copyPixel, hconv, load, store, bind, Except.bind, after_after]
  rfl

/-- The stores of a row, pixel by pixel. -/
theorem copyPixels_leaves (hconv : conversion dst.bitsPerPel src.bitsPerPel = some (n, convert))
    (N : Nat) (p q : Int) (b : Blt) : Leaves (copyPixels dst src memory N (some p) (some q) b) b
      ((List.range N).map fun i : Nat => ⟨p + i * dst.getPitches.1,
        convert (readAt memory (q + i * src.getPitches.1) n)⟩) := by
  induction N generalizing p q b with
  | zero => exact leaves_nothing b
  | succ N ih =>
    have hrest := (copyPixel_leaves dst src memory hconv p q b).bind fun b =>
      ih (p + dst.getPitches.1) (q + src.getPitches.1) b
    simp only [Copy.add_step] at hrest
    rw [List.range_succ_eq_map, List.map_cons, List.map_map, Int.natCast_zero, Int.zero_mul,
      Int.zero_mul, Int.add_zero, Int.add_zero]
    exact hrest

/-- The stores of a rectangle, row by row. -/
theorem copyRows_leaves (hconv : conversion dst.bitsPerPel src.bitsPerPel = some (n, convert))
    (N M : Nat) (p q : Int) (b : Blt) :
    Leaves (copyRows dst src memory N M (some p) (some q) b) b
      ((List.range M).flatMap fun j : Nat => (List.range N).map fun i : Nat =>
        ⟨p + j * dst.getPitches.2 + i * dst.getPitches.1,
          convert (readAt memory (q + j * src.getPitches.2 + i * src.getPitches.1) n)⟩) := by
  induction M generalizing p q b with
  | zero => exact leaves_nothing b
  | succ M ih =>
    have hrest := (copyPixels_leaves dst src memory hconv N p q b).bind fun b =>
      ih (p + dst.getPitches.2) (q + src.getPitches.2) b
    simp only [Copy.add_step] at hrest
    rw [List.range_succ_eq_map, List.flatMap_cons, List.flatMap_map, Int.natCast_zero,
      Int.zero_mul, Int.zero_mul, Int.add_zero, Int.add_zero]
    exact hrest

/-- `CopyBits32_32` stores a row at once, which is the same as pixel by pixel. -/
theorem copyMemory_leaves (N M : Nat) (p q : Int) (b : Blt) :
    Leaves (copyMemory dst src memory (N * 4) M p q b) b
      ((List.range M).flatMap fun j : Nat => (List.range N).map fun i : Nat =>
        ⟨p + j * dst.pitch + i * (4 : Nat),
          readAt memory (q + j * src.pitch + i * (4 : Nat)) 4⟩) := by
  obtain ⟨b', hresult, -, hmem⟩ := copyMemory_copies (N * 4) M p q b
  have hpixels : ∀ k, Copy.lastSource (Copy.rows p q dst.pitch src.pitch (N * 4) M) k =
      Copy.lastSource ((List.range M).flatMap fun j : Nat =>
        Copy.rows (p + j * dst.pitch) (q + j * src.pitch) (4 : Nat) (4 : Nat) 4 N) k := by
    intro k
    rw [Copy.rows, List.map_eq_flatMap]
    exact Copy.lastSource_flatMap_congr fun j _ => ((Copy.alike_rows _ _ 4 N).lastSource k).symm
  refine ⟨b', hresult, ?_⟩
  rw [hmem, Copy.applyAll_congr_lastSource hpixels, List.map_flatMap]
  simp only [Copy.rows, List.map_map]
  rfl

end Blt

/-! ## The formats of a frame buffer -/

/-- The depths to which a pixel of 32 bits is converted are listed. -/
theorem mem_depths_of_conversion {bits n : Nat} {convert : List Byte → List Byte}
    (h : conversion bits 32 = some (n, convert)) : (bits, 32) ∈ depths := by
  unfold depths
  by_cases h24 : bits = 24
  · subst h24
    simp
  by_cases h32 : bits = 32
  · subst h32
    simp
  by_cases h16 : bits = 16
  · subst h16
    simp
  by_cases h8 : bits = 8
  · subst h8
    simp
  simp [conversion, h24, h32, h16, h8] at h

/-- At other depths nothing is stored. -/
theorem pixelBytes_of_not_conversion {bits : Nat} (h : conversion bits 32 = none)
    (p : Nat → Byte) : pixelBytes bits 32 p = [] := by
  have h24 : bits ≠ 24 := by
    rintro rfl
    cases h
  have h32 : bits ≠ 32 := by
    rintro rfl
    cases h
  have h16 : bits ≠ 16 := by
    rintro rfl
    cases h
  have h8 : bits ≠ 8 := by
    rintro rfl
    cases h
  unfold pixelBytes
  split
  all_goals first | rfl | contradiction

namespace SystemDisplayWrite

/-- The rectangle starts at the first pixel of the source. -/
theorem source_start (w : SystemDisplayWrite) : w.srcBltInfo.getRowStart w.rect = some 0 := by
  simp [BltInfo.getRowStart, srcBltInfo, rect, long, uint]

theorem source_pitches (w : SystemDisplayWrite) :
    w.srcBltInfo.getPitches = (4, long w.sourceStride) := by
  have hfour : long (32 / 8 : Nat) = 4 := by decide
  simp only [BltInfo.getPitches, srcBltInfo, hfour]

theorem rect_height (w : SystemDisplayWrite) : uint (w.rect.bottom - w.rect.top) = w.rows := by
  have hmod : Int.bmod (w.positionY + w.sourceHeight) 4294967296 % (4294967296 : Nat) =
      (w.positionY + w.sourceHeight) % (4294967296 : Nat) := Int.bmod_emod
  simp only [uint, rect, rows, u32, long]
  omega

theorem rect_width (w : SystemDisplayWrite) :
    uint (w.rect.right - w.rect.left) = u32 w.sourceWidth := by
  have hmod : Int.bmod (w.positionX + w.sourceWidth) 4294967296 % (4294967296 : Nat) =
      (w.positionX + w.sourceWidth) % (4294967296 : Nat) := Int.bmod_emod
  simp only [uint, rect, u32, long]
  omega

variable {w : SystemDisplayWrite} {mode : CurrentBddMode} {base : Nat} {start : Int}

/-- The stores of the pixels, row by row. -/
def stores (w : SystemDisplayWrite) (mode : CurrentBddMode) (base : Nat) (start : Int) :
    List (Store Byte) :=
  (List.range w.rows).flatMap fun j : Nat => (List.range (w.columns mode)).map fun i : Nat =>
    ⟨start + j * rowStep mode base + i * (dstBltInfo mode base).getPitches.1, w.pixel mode j i⟩

theorem copyBits32_32_leaves (hfast : Fast mode)
    (hstart : (dstBltInfo mode base).getRowStart w.rect = some start) (b : Blt) :
    Blt.Leaves (b.copyBits32_32 (dstBltInfo mode base) w.srcBltInfo w.source [w.rect]) b
      (w.stores mode base start) := by
  obtain ⟨hbits, hrotation⟩ := hfast
  have hdst : Blt.start32 (dstBltInfo mode base) w.rect = start := by
    rw [← Option.some_inj, ← Blt.getRowStart_32 hrotation hbits, hstart]
  have hsrc : Blt.start32 w.srcBltInfo w.rect = 0 := by
    rw [← Option.some_inj, ← Blt.getRowStart_32 rfl rfl, source_start]
  have hcount : u32 (u32 w.sourceWidth * 4) = w.columns mode * 4 := by
    rw [columns, if_pos ⟨hbits, hrotation⟩]
    unfold u32
    omega
  have hpixel : (dstBltInfo mode base).getPitches.1 = (4 : Nat) := by
    have hfour : long (32 / 8 : Nat) = 4 := by decide
    change mode.dstBitPerPixel = 32 at hbits
    simp only [BltInfo.getPitches, dstBltInfo, hrotation, hbits, hfour]
    rfl
  have hbytes : ∀ j i : Nat,
      readAt w.source (0 + j * w.sourceStride + i * (4 : Nat)) 4 = w.pixel mode j i := by
    intro j i
    rw [pixel, sourceStep, if_pos ⟨hbits, hrotation⟩, hbits, Int.zero_add]
    rfl
  have hrows := Blt.copyMemory_leaves (dstBltInfo mode base) w.srcBltInfo w.source (w.columns mode)
    w.rows start 0 b
  have hstep : ((dstBltInfo mode base).pitch : Int) = rowStep mode base := by
    rw [rowStep, if_pos ⟨hbits, hrotation⟩]
    rfl
  have hstride : w.srcBltInfo.pitch = w.sourceStride := rfl
  simp only [hstep, hstride, hbytes] at hrows
  rw [stores, hpixel, Blt.copyBits32_32, List.foldlM_cons, rect_width, rect_height, hdst, hsrc,
    hcount]
  rw [← List.append_nil (List.flatMap _ _)]
  exact hrows.bind fun b => Blt.leaves_nothing b

/-- The same for `CopyBitsGeneric`, at the depths it converts to. -/
theorem copyBitsGeneric_leaves (hfast : ¬Fast mode)
    (hstart : (dstBltInfo mode base).getRowStart w.rect = some start) {n : Nat}
    {convert : List Byte → List Byte}
    (hconv : conversion mode.dstBitPerPixel 32 = some (n, convert)) (b : Blt) :
    Blt.Leaves (b.copyBitsGeneric (dstBltInfo mode base) w.srcBltInfo w.source [w.rect]) b
      (w.stores mode base start) := by
  obtain ⟨n', convert', hconv', -, hbytes⟩ := conversion_of_mem_depths
    (mem_depths_of_conversion hconv)
  obtain ⟨rfl, rfl⟩ : n' = n ∧ convert' = convert := by
    rw [hconv] at hconv'
    simpa [eq_comm] using hconv'
  have hcolumns : w.columns mode = u32 w.sourceWidth := if_neg hfast
  have hrows := Blt.copyRows_leaves (dstBltInfo mode base) w.srcBltInfo w.source hconv
    (w.columns mode) w.rows start 0 b
  have hpixel : ∀ j i : Nat, convert' (readAt w.source
      (0 + j * w.srcBltInfo.getPitches.2 + i * w.srcBltInfo.getPitches.1) n') =
        w.pixel mode j i := by
    intro j i
    rw [hbytes, source_pitches, Int.zero_add, pixel, sourceStep, if_neg hfast]
  have hstep : (dstBltInfo mode base).getPitches.2 = rowStep mode base := (if_neg hfast).symm
  simp only [hstep, hpixel] at hrows
  rw [stores, Blt.copyBitsGeneric, List.foldlM_cons, rect_width, rect_height, hstart, source_start,
    ← hcolumns]
  rw [← List.append_nil (List.flatMap _ _)]
  exact hrows.bind fun b => Blt.leaves_nothing b

/-- Where `BltBits` stores nothing, the frame buffer is as before. -/
theorem bltBits_unchanged (w : SystemDisplayWrite)
    (h : conversion mode.dstBitPerPixel 32 = none ∨ ¬(dstBltInfo mode base).Turned) (b : Blt) :
    (b.bltBits (dstBltInfo mode base) w.srcBltInfo w.source [w.rect]).memory = b.memory := by
  have hidle : ∃ accesses, (∀ a ∈ accesses, a.Silent) ∧
      b.bltBits (dstBltInfo mode base) w.srcBltInfo w.source [w.rect] = b.after accesses :=
    Blt.bltBits_idle w.source h [w.rect] b
  obtain ⟨accesses, hsilent, hresult⟩ := hidle
  rw [hresult]
  ext k : 1
  refine applyAll_of_not_writes (fun v hv => ?_) b.memory
  obtain ⟨a, ha, hwrites⟩ := writes_stores.mp hv
  exact hsilent a ha k v hwrites

/-- **`BltBits`** stores the pixels. -/
theorem bltBits_stores (hstart : (dstBltInfo mode base).getRowStart w.rect = some start) (b : Blt) :
    (b.bltBits (dstBltInfo mode base) w.srcBltInfo w.source [w.rect]).memory =
      applyAll (w.stores mode base start) b.memory := by
  by_cases hfast : Fast mode
  · obtain ⟨b', hresult, hmem⟩ := w.copyBits32_32_leaves hfast hstart b
    rw [Blt.bltBits, if_pos ⟨hfast.1, rfl, hfast.2, rfl⟩, hresult, hmem]
  · have hgeneric : ¬((dstBltInfo mode base).bitsPerPel = 32 ∧ w.srcBltInfo.bitsPerPel = 32 ∧
        (dstBltInfo mode base).rotation = .identity ∧ w.srcBltInfo.rotation = .identity) := by
      rintro ⟨hbits, -, hrotation, -⟩
      exact hfast ⟨hbits, hrotation⟩
    cases hconv : conversion mode.dstBitPerPixel 32 with
    | some c =>
      obtain ⟨b', hresult, hmem⟩ := w.copyBitsGeneric_leaves hfast hstart hconv b
      rw [Blt.bltBits, if_neg hgeneric, hresult, hmem]
    | none =>
      rw [w.bltBits_unchanged (.inl hconv)]
      ext k : 1
      refine (applyAll_of_not_writes (fun v hv => ?_) b.memory).symm
      obtain ⟨s, hs, t, ht, -⟩ := hv
      obtain ⟨j, -, hs⟩ := List.mem_flatMap.mp hs
      obtain ⟨i, -, rfl⟩ := List.mem_map.mp hs
      rw [pixel, pixelBytes_of_not_conversion hconv] at ht
      cases ht

end SystemDisplayWrite

/-- **A byte that is zero** stays zero exactly if the last byte that is put there is zero. -/
theorem Vga.systemDisplayWrite_zero_iff {v : Vga} (w : SystemDisplayWrite)
    (hptr : v.mode.ptr.isSome) {k : Int} (hk : v.memory k = 0) :
    (v.systemDisplayWrite w).memory k = 0 ↔ ∀ j i value, w.Puts v.mode v.base j i k value →
      (∀ j' i', j < j' ∨ j = j' ∧ i < i' → ∀ u, ¬w.Puts v.mode v.base j' i' k u) → value = 0 := by
  rw [Vga.systemDisplayWrite, Vga.draw, if_pos hptr]
  cases hstart : (SystemDisplayWrite.dstBltInfo v.mode v.base).getRowStart w.rect with
  | none =>
    have hturned : ¬(SystemDisplayWrite.dstBltInfo v.mode v.base).Turned := by
      intro hturned
      obtain ⟨p, hp⟩ := hturned.getRowStart w.rect
      rw [hstart] at hp
      cases hp
    have hsame := w.bltBits_unchanged (.inr hturned) ⟨v.memory, []⟩
    refine iff_of_true ((congrFun hsame k).trans hk) ?_
    rintro j i value ⟨-, -, start, hsome, -⟩ -
    rw [hstart] at hsome
    cases hsome
  | some start =>
    have hputs : ∀ j i u, w.Puts v.mode v.base j i k u ↔ j < w.rows ∧ i < w.columns v.mode ∧
        Store.Writes ⟨start + j * SystemDisplayWrite.rowStep v.mode v.base +
          i * (SystemDisplayWrite.dstBltInfo v.mode v.base).getPitches.1, w.pixel v.mode j i⟩
          k u := by
      intro j i u
      unfold SystemDisplayWrite.Puts Store.Writes
      simp only [hstart, Option.some.injEq, exists_eq_left']
    have hrows := applyAll_rows_eq_iff (fun j i : Nat => (⟨start +
      j * SystemDisplayWrite.rowStep v.mode v.base +
        i * (SystemDisplayWrite.dstBltInfo v.mode v.base).getPitches.1,
      w.pixel v.mode j i⟩ : Store Byte)) w.rows (w.columns v.mode) hk
    have hmem := congrFun (w.bltBits_stores hstart ⟨v.memory, []⟩) k
    refine (iff_of_eq (congrArg (· = 0) hmem)).trans (hrows.trans ?_)
    simp only [hputs]
    constructor
    · rintro h j i value ⟨hj, hi, hvalue⟩ hlater
      exact h j hj i hi value hvalue fun j' hj' i' hi' hafter u hu =>
        hlater j' i' hafter u ⟨hj', hi', hu⟩
    · intro h j hj i hi value hvalue hlater
      refine h j i value ⟨hj, hi, hvalue⟩ fun j' i' hafter u hu => ?_
      exact hlater j' hu.1 i' hu.2.1 hafter u hu.2.2

end VioGpu.Device
