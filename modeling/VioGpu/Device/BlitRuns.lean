import VioGpu.Device.PixelFormats
import Mathlib.Tactic.Linarith
import Mathlib.Tactic.Ring

/-!
# What `BltBits` copies

Where a pixel lies in an image is a matter of the rotation, and the start addresses and pitches of
`bitops.cpp` are three ways of writing one linear function of its coordinates (`address_add`). As
long as the rectangles lie inside both images, none of the 32-bit products wraps, and each loop
accesses what this function says: one lemma for each loop, in terms of which accesses there are,
so that `CopyBits32_32` with its whole rows and `CopyBitsGeneric` come to the same.
-/

namespace VioGpu.Device

open Lib

/-- The pixel `(x, y)` belongs to the rectangle. -/
structure Rect.Mem (r : Rect) (x y : Int) : Prop where
  left : r.left ≤ x
  right : x < r.right
  top : r.top ≤ y
  bottom : y < r.bottom

instance (r : Rect) (x y : Int) : Decidable (r.Mem x y) :=
  decidable_of_iff (r.left ≤ x ∧ x < r.right ∧ r.top ≤ y ∧ y < r.bottom)
    ⟨fun ⟨h₁, h₂, h₃, h₄⟩ => ⟨h₁, h₂, h₃, h₄⟩, fun ⟨h₁, h₂, h₃, h₄⟩ => ⟨h₁, h₂, h₃, h₄⟩⟩

namespace BltInfo

/-! ## Positions and addresses -/

/-- The row and the column of the pixel `(x, y)`. -/
def position (b : BltInfo) (x y : Int) : Int × Int :=
  match b.rotation with
  | .rotate90 => (b.height - 1 - (x + b.offset.x), y + b.offset.y)
  | .rotate180 => (b.height - 1 - (y + b.offset.y), b.width - 1 - (x + b.offset.x))
  | .rotate270 => (x + b.offset.x, b.width - 1 - (y + b.offset.y))
  | .identity | .uninitialized | .unpinned | .notSpecified => (y + b.offset.y, x + b.offset.x)

def bytesPerPixel (b : BltInfo) : Nat := b.bitsPerPel / 8

/-- Where the pixel `(x, y)` starts. -/
def address (b : BltInfo) (x y : Int) : Int :=
  b.bits + (b.position x y).1 * b.pitch + (b.position x y).2 * b.bytesPerPixel

/-- The position of `(x, y)` is inside the image. -/
def Contains (b : BltInfo) (x y : Int) : Prop :=
  (0 ≤ (b.position x y).1 ∧ (b.position x y).1 < b.height) ∧
    0 ≤ (b.position x y).2 ∧ (b.position x y).2 < b.width

instance (b : BltInfo) (x y : Int) : Decidable (b.Contains x y) :=
  inferInstanceAs (Decidable (_ ∧ _))

/-- `Rotation` is one of the four rotations. -/
def Turned (b : BltInfo) : Prop :=
  b.rotation = .identity ∨ b.rotation = .rotate90 ∨ b.rotation = .rotate180 ∨
    b.rotation = .rotate270

instance (b : BltInfo) : Decidable b.Turned := inferInstanceAs (Decidable (_ ∨ _))

/-- An image of less than 2 GiB, whose rows have room for its pixels. -/
structure Image (b : BltInfo) : Prop where
  turned : b.Turned
  pitch : b.width * b.bytesPerPixel ≤ b.pitch
  size : b.height * b.pitch < 2147483648

/-- An image no address of which wraps. -/
structure Addressable (b : BltInfo) : Prop where
  turned : b.Turned
  pitch : b.width * b.bytesPerPixel ≤ b.pitch
  narrow : b.pitch < 2147483648
  low : b.height < 2147483648
  size : b.height * b.pitch < 4294967296

/-- The distances from a pixel to the next one of its row in a rectangle, and to the next row. -/
def steps (b : BltInfo) : Int × Int :=
  match b.rotation with
  | .identity | .uninitialized | .unpinned | .notSpecified => (b.bytesPerPixel, b.pitch)
  | .rotate90 => (-b.pitch, b.bytesPerPixel)
  | .rotate180 => (-b.bytesPerPixel, -b.pitch)
  | .rotate270 => (b.pitch, -b.bytesPerPixel)

/-- **The address is linear** in the coordinates, for each rotation. -/
theorem address_add (b : BltInfo) (x y i j : Int) :
    b.address (x + i) (y + j) = b.address x y + j * b.steps.2 + i * b.steps.1 := by
  unfold address position steps
  cases b.rotation <;> ring

end BltInfo

theorem long_eq {i : Int} (hlow : -2147483648 ≤ i) (hhigh : i < 2147483648) : long i = i := by
  unfold long
  rw [Int.bmod_def]
  omega

theorem uint_eq {i : Int} (hlow : 0 ≤ i) (hhigh : i < 4294967296) : (uint i : Int) = i := by
  unfold uint
  omega

/-- A number below `p` beside a multiple of `p`. -/
theorem digits_unique (r r' : Int) {p u u' : Int} (hu : 0 ≤ u) (hup : u < p) (hu' : 0 ≤ u')
    (hup' : u' < p) (h : r * p + u = r' * p + u') : r = r' ∧ u = u' := by
  have hr : r = r' := by
    have h₁ : (r * p + u) / p = r := by
      rw [Int.add_comm, Int.add_mul_ediv_right _ _ (by omega), Int.ediv_eq_zero_of_lt hu hup]
      omega
    have h₂ : (r' * p + u') / p = r' := by
      rw [Int.add_comm, Int.add_mul_ediv_right _ _ (by omega), Int.ediv_eq_zero_of_lt hu' hup']
      omega
    rw [← h₁, ← h₂, h]
  subst hr
  exact ⟨rfl, by omega⟩

namespace BltInfo

variable {b : BltInfo} {x y : Int}

/-- An image that has a pixel is addressable. -/
theorem Image.addressable (h : b.Image) (hin : b.Contains x y) (hdepth : 0 < b.bytesPerPixel) :
    b.Addressable := by
  obtain ⟨⟨_, hrow⟩, _, hcol⟩ := hin
  have hheight : 0 < b.height := by omega
  have hwidth : 0 < b.width := by omega
  have hcols : b.width ≤ b.pitch := (Nat.le_mul_of_pos_right _ hdepth).trans h.pitch
  have hpitch : b.pitch ≤ b.height * b.pitch := Nat.le_mul_of_pos_left _ hheight
  have hrows : b.height ≤ b.height * b.pitch := Nat.le_mul_of_pos_right _ (by omega)
  have hsize := h.size
  exact ⟨h.turned, h.pitch, by omega, by omega, by omega⟩

namespace Addressable

/-- A byte of a pixel inside the image is in its row. -/
theorem column_lt (h : b.Addressable) (hin : b.Contains x y) {i : Int} (hi : i < b.bytesPerPixel) :
    (b.position x y).2 * b.bytesPerPixel + i < b.pitch := by
  obtain ⟨-, -, hcol⟩ := hin
  have hmul : ((b.position x y).2 + 1) * b.bytesPerPixel ≤ (b.width : Int) * b.bytesPerPixel :=
    Int.mul_le_mul_of_nonneg_right (by omega) (by omega)
  have hpitch : (b.width : Int) * b.bytesPerPixel ≤ b.pitch := by exact_mod_cast h.pitch
  rw [Int.add_mul] at hmul
  omega

/-- The bytes of a pixel inside the image are inside the image. -/
theorem address_bounds (h : b.Addressable) (hin : b.Contains x y) {i : Int} (hlow : 0 ≤ i)
    (hi : i < b.bytesPerPixel) :
    b.bits ≤ b.address x y + i ∧ b.address x y + i < b.bits + b.height * b.pitch := by
  have hcol := h.column_lt hin hi
  obtain ⟨⟨hr, hrow⟩, hc, -⟩ := hin
  have hr' : 0 ≤ (b.position x y).1 * (b.pitch : Int) := Int.mul_nonneg hr (by omega)
  have hc' : 0 ≤ (b.position x y).2 * (b.bytesPerPixel : Int) := Int.mul_nonneg hc (by omega)
  have hnext : ((b.position x y).1 + 1) * b.pitch ≤ (b.height : Int) * b.pitch :=
    Int.mul_le_mul_of_nonneg_right (by omega) (by omega)
  rw [Int.add_mul] at hnext
  unfold address
  omega

/-- **Different pixels have different bytes.** -/
theorem address_unique (h : b.Addressable) {x' y' i i' : Int} (hin : b.Contains x y)
    (hin' : b.Contains x' y') (hlow : 0 ≤ i) (hi : i < b.bytesPerPixel) (hlow' : 0 ≤ i')
    (hi' : i' < b.bytesPerPixel) (heq : b.address x y + i = b.address x' y' + i') :
    x = x' ∧ y = y' ∧ i = i' := by
  have hcol := h.column_lt hin hi
  have hcol' := h.column_lt hin' hi'
  obtain ⟨-, hc, -⟩ := hin
  obtain ⟨-, hc', -⟩ := hin'
  have hnonneg : 0 ≤ (b.position x y).2 * (b.bytesPerPixel : Int) := Int.mul_nonneg hc (by omega)
  have hnonneg' : 0 ≤ (b.position x' y').2 * (b.bytesPerPixel : Int) :=
    Int.mul_nonneg hc' (by omega)
  unfold address at heq
  obtain ⟨hrow, hrest⟩ := digits_unique (b.position x y).1 (b.position x' y').1
    (by omega) hcol (by omega) hcol' (by omega)
  obtain ⟨hcolumn, hbyte⟩ := digits_unique _ _ hlow hi hlow' hi' hrest
  unfold position at hrow hcolumn
  rcases h.turned with ht | ht | ht | ht
  all_goals
    simp only [ht] at hrow hcolumn
    refine ⟨by omega, by omega, hbyte⟩

/-- The products of `GetRowStart` do not wrap. -/
theorem products (h : b.Addressable) (hin : b.Contains x y) (hdepth : 0 < b.bytesPerPixel) :
    (uint ((b.position x y).1 * b.pitch) : Int) = (b.position x y).1 * b.pitch ∧
      (uint ((b.position x y).2 * b.bytesPerPixel) : Int) =
        (b.position x y).2 * b.bytesPerPixel ∧
      long ((b.position x y).2 * b.bytesPerPixel) = (b.position x y).2 * b.bytesPerPixel := by
  have hbounds := (h.address_bounds hin (i := 0) (by omega) (by omega)).2
  have hcol := h.column_lt hin (i := 0) (by omega)
  obtain ⟨⟨hr, -⟩, hc, -⟩ := hin
  have hr' : 0 ≤ (b.position x y).1 * (b.pitch : Int) := Int.mul_nonneg hr (by omega)
  have hc' : 0 ≤ (b.position x y).2 * (b.bytesPerPixel : Int) := Int.mul_nonneg hc (by omega)
  have hsize : (b.height : Int) * b.pitch < 4294967296 := by exact_mod_cast h.size
  have hnarrow := h.narrow
  unfold address at hbounds
  refine ⟨uint_eq hr' (by omega), uint_eq hc' (by omega), long_eq (by omega) (by omega)⟩

theorem bytesPerPixel_lt (h : b.Addressable) (hin : b.Contains x y) :
    b.bytesPerPixel < 2147483648 ∧ (0 < b.bytesPerPixel → b.width < 2147483648) := by
  obtain ⟨-, _, hcol⟩ := hin
  have hnarrow := h.narrow
  have hbytes : b.bytesPerPixel ≤ b.pitch :=
    (Nat.le_mul_of_pos_left _ (by omega)).trans h.pitch
  exact ⟨by omega, fun hpos => by have := (Nat.le_mul_of_pos_right b.width hpos).trans h.pitch
                                  omega⟩

/-- **`GetRowStart`** is the address of the top left pixel. -/
theorem getRowStart_eq (h : b.Addressable) {r : Rect} (hin : b.Contains r.left r.top)
    (hdepth : 0 < b.bytesPerPixel) : b.getRowStart r = some (b.address r.left r.top) := by
  obtain ⟨hbytes, hwidth⟩ := h.bytesPerPixel_lt hin
  replace hwidth := hwidth hdepth
  have hlow := h.low
  obtain ⟨hrow, hcol, hcol'⟩ := h.products hin hdepth
  have hB : long (b.bitsPerPel / 8 : Nat) = b.bytesPerPixel :=
    long_eq (by omega) (by unfold bytesPerPixel at hbytes; omega)
  obtain ⟨⟨hr, hr'⟩, hc, hc'⟩ := hin
  unfold getRowStart address
  unfold position at hr hr' hc hc' hrow hcol hcol' ⊢
  rcases h.turned with ht | ht | ht | ht
  all_goals
    simp only [ht] at hr hr' hc hc' hrow hcol hcol' ⊢
    simp only [long_eq (i := r.left + b.offset.x) (by omega) (by omega),
      long_eq (i := r.top + b.offset.y) (by omega) (by omega), hB, hrow, hcol, hcol']

/-- **`GetPitches`** are the steps. -/
theorem getPitches_eq (h : b.Addressable) (hin : b.Contains x y)
    (hbits : b.bitsPerPel < 2147483648) : b.getPitches = b.steps := by
  obtain ⟨hbytes, -⟩ := h.bytesPerPixel_lt hin
  have hpitch := h.narrow
  have hP : long b.pitch = b.pitch := long_eq (by omega) (by omega)
  have hP' : long (-b.pitch) = -b.pitch := long_eq (by omega) (by omega)
  have hB : long (b.bitsPerPel / 8 : Nat) = b.bytesPerPixel :=
    long_eq (by omega) (by unfold bytesPerPixel at hbytes; omega)
  have hB' : long (-(long b.bitsPerPel).tdiv 8) = -b.bytesPerPixel := by
    rw [long_eq (i := b.bitsPerPel) (by omega) (by omega),
      Int.tdiv_eq_ediv_of_nonneg (by omega), long_eq (by omega) (by omega)]
    simp [bytesPerPixel]
  unfold getPitches steps
  rcases h.turned with ht | ht | ht | ht
  all_goals simp only [ht, hP, hP', hB, hB']

/-- Pixels inside an image are not far from each other. -/
theorem distance (h : b.Addressable) (hdepth : 0 < b.bytesPerPixel) {x' y' : Int}
    (hin : b.Contains x y) (hin' : b.Contains x' y') :
    x' - x < 2147483648 ∧ y' - y < 2147483648 := by
  have hlow := h.low
  have hwidth := (h.bytesPerPixel_lt hin).2 hdepth
  obtain ⟨hr, hc⟩ := hin
  obtain ⟨hr', hc'⟩ := hin'
  unfold position at hr hc hr' hc'
  rcases h.turned with ht | ht | ht | ht
  all_goals
    simp only [ht] at hr hc hr' hc'
    omega

end Addressable

/-- Either way `GetRowStart` is not `NULL`. -/
theorem Turned.getRowStart (h : b.Turned) (r : Rect) : ∃ p, b.getRowStart r = some p := by
  unfold BltInfo.getRowStart
  rcases h with ht | ht | ht | ht
  all_goals
    rw [ht]
    exact ⟨_, rfl⟩

end BltInfo

/-! ## The loops -/

/-- The access to a pixel, which is at `p` in the destination and at `q` in the source. -/
def PixelAccess (n : Nat) (convert : List Byte → List Byte) (memory : Int → Byte) (p q : Int)
    (a : Access) : Prop :=
  a = .load q n ∨ a = .store ⟨p, convert (readAt memory q n)⟩

namespace Blt

theorem after_nil (b : Blt) : b.after [] = b := by
  simp [after, applyAll]

theorem after_after (b : Blt) (l l' : List Access) : (b.after l).after l' = b.after (l ++ l') := by
  simp [after, applyAll_append]

/-- The result is that of accesses which are those that satisfy `P`. -/
def Does (result : Except Blt Blt) (b : Blt) (P : Access → Prop) : Prop :=
  ∃ accesses, result = .ok (b.after accesses) ∧ ∀ a, a ∈ accesses ↔ P a

theorem Does.congr {result : Except Blt Blt} {b : Blt} {P Q : Access → Prop}
    (h : Does result b P) (hPQ : ∀ a, P a ↔ Q a) : Does result b Q := by
  obtain ⟨accesses, hresult, hmem⟩ := h
  exact ⟨accesses, hresult, fun a => (hmem a).trans (hPQ a)⟩

theorem does_nothing (b : Blt) : Does (.ok b) b fun _ => False :=
  ⟨[], by rw [after_nil], by simp⟩

theorem Does.bind {result : Except Blt Blt} {b : Blt} {P Q : Access → Prop}
    {f : Blt → Except Blt Blt} (h : Does result b P) (hf : ∀ b, Does (f b) b Q) :
    Does (result >>= f) b fun a => P a ∨ Q a := by
  obtain ⟨accesses, rfl, hmem⟩ := h
  obtain ⟨more, hmore, hmem'⟩ := hf (b.after accesses)
  refine ⟨accesses ++ more, ?_, fun a => ?_⟩
  · rw [← after_after]
    exact hmore
  · rw [List.mem_append, hmem, hmem']

variable {dst src : BltInfo} {memory : Int → Byte} {n : Nat} {convert : List Byte → List Byte}

theorem copyPixel_does (hconv : conversion dst.bitsPerPel src.bitsPerPel = some (n, convert))
    (p q : Int) (b : Blt) : Does (b.copyPixel dst src memory (some p) (some q)) b
      (PixelAccess n convert memory p q) := by
  refine ⟨[.load q n, .store ⟨p, convert (readAt memory q n)⟩], ?_, fun a => ?_⟩
  · simp only [copyPixel, hconv, load, store, bind, Except.bind, after_after]
    rfl
  · simp [PixelAccess]

/-- A condition for the first turn of a loop or for a later one. -/
theorem exists_lt_succ {N : Nat} {P : Int → Prop} :
    (P 0 ∨ ∃ i : Nat, i < N ∧ P (i + 1)) ↔ ∃ i : Nat, i < N + 1 ∧ P i := by
  constructor
  · rintro (h | ⟨i, hi, h⟩)
    · exact ⟨0, by omega, by simpa using h⟩
    · exact ⟨i + 1, by omega, by simpa using h⟩
  · rintro ⟨i, hi, h⟩
    cases i with
    | zero => exact .inl (by simpa using h)
    | succ i => exact .inr ⟨i, by omega, by simpa using h⟩

theorem copyPixels_does (hconv : conversion dst.bitsPerPel src.bitsPerPel = some (n, convert))
    (N : Nat) (p q : Int) (b : Blt) :
    Does (copyPixels dst src memory N (some p) (some q) b) b fun a => ∃ i : Nat, i < N ∧
      PixelAccess n convert memory (p + i * dst.getPitches.1) (q + i * src.getPitches.1) a := by
  induction N generalizing p q b with
  | zero => exact (does_nothing b).congr (by simp)
  | succ N ih =>
    refine ((copyPixel_does hconv p q b).bind fun b => ih _ _ b).congr fun a => ?_
    rw [← exists_lt_succ (P := fun i : Int => PixelAccess n convert memory
      (p + i * dst.getPitches.1) (q + i * src.getPitches.1) a)]
    simp only [Int.zero_mul, Int.add_zero, Int.add_mul, Int.one_mul]
    refine or_congr Iff.rfl (exists_congr fun i => and_congr Iff.rfl ?_)
    rw [Int.add_assoc, Int.add_assoc, Int.add_comm dst.getPitches.1,
      Int.add_comm src.getPitches.1]

theorem copyRows_does (hconv : conversion dst.bitsPerPel src.bitsPerPel = some (n, convert))
    (N M : Nat) (p q : Int) (b : Blt) :
    Does (copyRows dst src memory N M (some p) (some q) b) b fun a =>
      ∃ j : Nat, j < M ∧ ∃ i : Nat, i < N ∧ PixelAccess n convert memory
        (p + j * dst.getPitches.2 + i * dst.getPitches.1)
        (q + j * src.getPitches.2 + i * src.getPitches.1) a := by
  induction M generalizing p q b with
  | zero => exact (does_nothing b).congr (by simp)
  | succ M ih =>
    refine ((copyPixels_does hconv N p q b).bind fun b => ih _ _ b).congr fun a => ?_
    rw [← exists_lt_succ (P := fun j : Int => ∃ i : Nat, i < N ∧ PixelAccess n convert memory
      (p + j * dst.getPitches.2 + i * dst.getPitches.1)
      (q + j * src.getPitches.2 + i * src.getPitches.1) a)]
    simp only [Int.zero_mul, Int.add_zero, Int.add_mul, Int.one_mul]
    refine or_congr Iff.rfl (exists_congr fun j => and_congr Iff.rfl ?_)
    rw [Int.add_assoc p, Int.add_assoc q, Int.add_comm dst.getPitches.2,
      Int.add_comm src.getPitches.2]

theorem copyMemory_does (M : Nat) (p q : Int) (b : Blt) :
    Does (copyMemory dst src memory n M p q b) b fun a => ∃ j : Nat, j < M ∧
      PixelAccess n id memory (p + j * dst.pitch) (q + j * src.pitch) a := by
  induction M generalizing p q b with
  | zero => exact (does_nothing b).congr (by simp)
  | succ M ih =>
    have hrow : Does (.ok (b.after [.load q n, .store ⟨p, readAt memory q n⟩])) b
        (PixelAccess n id memory p q) := ⟨_, rfl, by simp [PixelAccess]⟩
    refine Does.congr (P := fun a => PixelAccess n id memory p q a ∨ ∃ j : Nat, j < M ∧
      PixelAccess n id memory (p + dst.pitch + j * dst.pitch) (q + src.pitch + j * src.pitch) a)
      ?_ fun a => ?_
    · have hrest := hrow.bind fun b => ih (p + dst.pitch) (q + src.pitch) b
      simpa only [copyMemory, load, store, bind, Except.bind, after_after, List.cons_append,
        List.nil_append] using hrest
    · rw [← exists_lt_succ (P := fun j : Int => PixelAccess n id memory (p + j * dst.pitch)
        (q + j * src.pitch) a)]
      simp only [Int.zero_mul, Int.add_zero, Int.add_mul, Int.one_mul]
      refine or_congr Iff.rfl (exists_congr fun j => and_congr Iff.rfl ?_)
      rw [Int.add_assoc, Int.add_assoc, Int.add_comm (dst.pitch : Int),
        Int.add_comm (src.pitch : Int)]

theorem foldlM_does {f : Blt → Rect → Except Blt Blt} {P : Rect → Access → Prop}
    (rects : List Rect) (h : ∀ r ∈ rects, ∀ b, Does (f b r) b (P r)) (b : Blt) :
    Does (rects.foldlM f b) b fun a => ∃ r ∈ rects, P r a := by
  induction rects generalizing b with
  | nil => exact (does_nothing b).congr (by simp)
  | cons r rects ih =>
    rw [List.foldlM_cons]
    have hrest := fun b => ih (fun r' hr' => h r' (List.mem_cons_of_mem r hr')) b
    exact ((h r List.mem_cons_self b).bind hrest).congr (by simp)

end Blt

/-! ## Rectangles -/

/-- The rectangle is in order, and its pixels are inside both images. -/
structure Rect.Fits (r : Rect) (dst src : BltInfo) : Prop where
  left : r.left ≤ r.right
  top : r.top ≤ r.bottom
  inside : ∀ x y, r.Mem x y → dst.Contains x y ∧ src.Contains x y

/-- The rectangle is in order, and its pixels are inside an image no address of which wraps. -/
structure Rect.Within (r : Rect) (b : BltInfo) : Prop where
  left : r.left ≤ r.right
  top : r.top ≤ r.bottom
  inside : ∀ x y, r.Mem x y → b.Contains x y ∧ b.Addressable

/-- Pixels of at least a byte. -/
structure BltInfo.Depth (b : BltInfo) : Prop where
  pos : 0 < b.bytesPerPixel
  small : b.bitsPerPel < 2147483648

theorem Rect.not_mem_of_empty {r : Rect} (hempty : ¬(r.left < r.right ∧ r.top < r.bottom))
    (x y : Int) : ¬r.Mem x y := by
  intro h
  have := h.left
  have := h.right
  have := h.top
  have := h.bottom
  omega

theorem Rect.mem_first {r : Rect} (hne : r.left < r.right ∧ r.top < r.bottom) :
    r.Mem r.left r.top := ⟨by omega, hne.1, by omega, hne.2⟩

theorem Rect.mem_last {r : Rect} (hne : r.left < r.right ∧ r.top < r.bottom) :
    r.Mem (r.right - 1) (r.bottom - 1) := ⟨by omega, by omega, by omega, by omega⟩

namespace Rect.Within

variable {r : Rect} {b : BltInfo}

/-- The turns of the loops, if there are any, are the rows and columns of the rectangle. -/
theorem turns (h : r.Within b) (hd : b.Depth) (hne : r.left < r.right ∧ r.top < r.bottom) :
    (uint (r.right - r.left) : Int) = r.right - r.left ∧
      (uint (r.bottom - r.top) : Int) = r.bottom - r.top := by
  obtain ⟨hfirst, haddr⟩ := h.inside _ _ (Rect.mem_first hne)
  obtain ⟨hlast, -⟩ := h.inside _ _ (Rect.mem_last hne)
  obtain ⟨hx, hy⟩ := haddr.distance hd.pos hfirst hlast
  exact ⟨uint_eq (by omega) (by omega), uint_eq (by omega) (by omega)⟩

theorem no_turns (h : r.Within b) (hne : ¬(r.left < r.right ∧ r.top < r.bottom)) :
    uint (r.right - r.left) = 0 ∨ uint (r.bottom - r.top) = 0 := by
  have := h.left
  have := h.top
  unfold uint
  omega

/-- **The pointers of the loops** are the addresses of the pixels. -/
theorem pointer (h : r.Within b) (hd : b.Depth) {p : Int} (hp : b.getRowStart r = some p)
    {x y : Int} (hmem : r.Mem x y) :
    p + (y - r.top) * b.getPitches.2 + (x - r.left) * b.getPitches.1 = b.address x y := by
  have hne : r.left < r.right ∧ r.top < r.bottom := by
    have := hmem.left
    have := hmem.right
    have := hmem.top
    have := hmem.bottom
    omega
  obtain ⟨hin, haddr⟩ := h.inside _ _ (Rect.mem_first hne)
  obtain rfl : b.address r.left r.top = p :=
    Option.some_inj.mp ((haddr.getRowStart_eq hin hd.pos).symm.trans hp)
  rw [haddr.getPitches_eq hin hd.small, ← BltInfo.address_add, add_sub_cancel, add_sub_cancel]

end Rect.Within

namespace Blt

variable {dst src : BltInfo} {memory : Int → Byte} {n : Nat} {convert : List Byte → List Byte}

/-- **A rectangle**, pixel by pixel. Only the destination matters for the number of turns. -/
theorem copyRect_does (hconv : conversion dst.bitsPerPel src.bitsPerPel = some (n, convert))
    (hd : dst.Depth) {r : Rect} (hr : r.Within dst) {p q : Int} (hp : dst.getRowStart r = some p)
    (hq : src.getRowStart r = some q) (b : Blt) :
    Does (copyRows dst src memory (uint (r.right - r.left)) (uint (r.bottom - r.top))
      (dst.getRowStart r) (src.getRowStart r) b) b fun a => ∃ x y, r.Mem x y ∧
        PixelAccess n convert memory (dst.address x y)
          (q + (y - r.top) * src.getPitches.2 + (x - r.left) * src.getPitches.1) a := by
  rw [hp, hq]
  refine (copyRows_does hconv _ _ p q b).congr fun a => ?_
  by_cases hne : r.left < r.right ∧ r.top < r.bottom
  · obtain ⟨hwidth, hheight⟩ := hr.turns hd hne
    constructor
    · rintro ⟨j, hj, i, hi, ha⟩
      have hmem : r.Mem (r.left + i) (r.top + j) := ⟨by omega, by omega, by omega, by omega⟩
      refine ⟨_, _, hmem, ?_⟩
      rwa [← hr.pointer hd hp hmem, add_sub_cancel_left, add_sub_cancel_left]
    · rintro ⟨x, y, hmem, ha⟩
      have hx := hmem.left
      have hx' := hmem.right
      have hy := hmem.top
      have hy' := hmem.bottom
      refine ⟨(y - r.top).toNat, by omega, (x - r.left).toNat, by omega, ?_⟩
      rwa [Int.toNat_of_nonneg (by omega), Int.toNat_of_nonneg (by omega), hr.pointer hd hp hmem]
  · have hzero := hr.no_turns hne
    constructor
    · rintro ⟨j, hj, i, hi, -⟩
      omega
    · rintro ⟨x, y, hmem, -⟩
      exact absurd hmem (Rect.not_mem_of_empty hne x y)

end Blt

/-! ## The bytes -/

/-- The access reads the byte at `k`. -/
def Access.Reads : Access → Int → Prop
  | .load p n, k => p ≤ k ∧ k < p + n
  | .store _, _ => False

/-- The access puts `v` at `k`. -/
def Access.Writes : Access → Int → Byte → Prop
  | .load .., _, _ => False
  | .store s, k, v => s.Writes k v

theorem PixelAccess.reads {n : Nat} {convert : List Byte → List Byte} {memory : Int → Byte}
    {p q k : Int} {a : Access} (h : PixelAccess n convert memory p q a) (hk : a.Reads k) :
    ∃ i : Nat, i < n ∧ k = q + i := by
  rcases h with rfl | rfl
  · obtain ⟨hlow, hhigh⟩ := hk
    exact ⟨(k - q).toNat, by omega, by omega⟩
  · exact absurd hk id

theorem PixelAccess.writes_iff {n : Nat} {convert : List Byte → List Byte} {memory : Int → Byte}
    {p q k : Int} {v : Byte} : (∃ a, PixelAccess n convert memory p q a ∧ a.Writes k v) ↔
      ∃ i : Nat, (convert (readAt memory q n))[i]? = some v ∧ k = p + i := by
  constructor
  · rintro ⟨a, rfl | rfl, ha⟩
    · exact absurd ha id
    · exact ha
  · intro h
    exact ⟨_, .inr rfl, h⟩

/-- The accesses that satisfy `P` are to the pixels of the rectangle, which are at `q` in the
source: they read no other byte of the source, and they put the converted pixels in their places
and nothing anywhere else. -/
structure Covers (dst : BltInfo) (q : Int → Int → Int) (memory : Int → Byte) (n : Nat)
    (convert : List Byte → List Byte) (r : Rect) (P : Access → Prop) : Prop where
  reads : ∀ a k, P a → a.Reads k → ∃ x y, r.Mem x y ∧ ∃ i : Nat, i < n ∧ k = q x y + i
  writes : ∀ k v, (∃ a, P a ∧ a.Writes k v) ↔ ∃ x y, r.Mem x y ∧
    ∃ i : Nat, (convert (readAt memory (q x y) n))[i]? = some v ∧ k = dst.address x y + i

section

variable {dst : BltInfo} {q : Int → Int → Int} {memory : Int → Byte} {n : Nat}
  {convert : List Byte → List Byte}

theorem covers_pixels (r : Rect) : Covers dst q memory n convert r fun a =>
    ∃ x y, r.Mem x y ∧ PixelAccess n convert memory (dst.address x y) (q x y) a := by
  constructor
  · rintro a k ⟨x, y, hmem, ha⟩ hk
    exact ⟨x, y, hmem, ha.reads hk⟩
  · intro k v
    simp only [← @PixelAccess.writes_iff n convert memory]
    constructor
    · rintro ⟨a, ⟨x, y, hmem, ha⟩, hv⟩
      exact ⟨x, y, hmem, a, ha, hv⟩
    · rintro ⟨x, y, hmem, a, ha, hv⟩
      exact ⟨a, ⟨x, y, hmem, ha⟩, hv⟩

/-- The byte number `i` of a row is byte `i % 4` of its pixel `i / 4`. -/
theorem row_byte {p : Int → Int} {left : Int} (hp : ∀ x, p x = p left + (x - left) * 4) (i : Nat) :
    p (left + (i / 4 : Nat)) + (i % 4 : Nat) = p left + i := by
  have hx := hp (left + (i / 4 : Nat))
  omega

/-- The rows of a rectangle, each in one piece, cover its pixels of four bytes. -/
theorem covers_rows (dst : BltInfo) (memory : Int → Byte) {r : Rect}
    (hd : ∀ x y, dst.address x y = dst.address r.left y + (x - r.left) * 4)
    (hq : ∀ x y, q x y = q r.left y + (x - r.left) * 4) (hr : r.left ≤ r.right) :
    Covers dst q memory 4 id r fun a => ∃ y, (r.top ≤ y ∧ y < r.bottom) ∧
      PixelAccess ((r.right - r.left).toNat * 4) id memory (dst.address r.left y)
        (q r.left y) a := by
  have hrow : ∀ {n i : Nat} {p : Int} {v}, (id (readAt memory p n))[i]? = some v →
      i < n ∧ memory (p + i) = v := by
    intro n i p v hi
    have hlt : i < n := by
      by_contra hge
      rw [id_eq, List.getElem?_eq_none (by rw [length_readAt]; omega)] at hi
      simp at hi
    rw [id_eq, getElem?_readAt hlt] at hi
    exact ⟨hlt, Option.some_inj.mp hi⟩
  constructor
  · rintro a k ⟨y, hy, ha⟩ hk
    obtain ⟨i, hi, rfl⟩ := ha.reads hk
    refine ⟨r.left + (i / 4 : Nat), y, ⟨by omega, by omega, hy.1, hy.2⟩, i % 4, by omega, ?_⟩
    exact (row_byte (hq · y) i).symm
  · intro k v
    constructor
    · rintro ⟨a, ⟨y, hy, ha⟩, hv⟩
      obtain ⟨i, hi, rfl⟩ := PixelAccess.writes_iff.mp ⟨a, ha, hv⟩
      obtain ⟨hlt, rfl⟩ := hrow hi
      refine ⟨r.left + (i / 4 : Nat), y, ⟨by omega, by omega, hy.1, hy.2⟩, i % 4, ?_, ?_⟩
      · rw [id_eq, getElem?_readAt (by omega), row_byte (hq · y) i]
      · exact (row_byte (hd · y) i).symm
    · rintro ⟨x, y, ⟨hx, hx', hy, hy'⟩, i, hi, rfl⟩
      obtain ⟨hlt, rfl⟩ := hrow hi
      have hsource : q x y + i = q r.left y + ((x - r.left).toNat * 4 + i : Nat) := by
        have hx := hq x y
        omega
      have hdest : dst.address x y + i =
          dst.address r.left y + ((x - r.left).toNat * 4 + i : Nat) := by
        have hx := hd x y
        omega
      obtain ⟨a, ha, hv⟩ := (@PixelAccess.writes_iff ((r.right - r.left).toNat * 4) id memory
        _ (q r.left y) _ _).mpr ⟨_, getElem?_readAt (by omega), hdest⟩
      rw [hsource]
      exact ⟨a, ⟨y, ⟨hy, hy'⟩, ha⟩, hv⟩

/-- Where no byte is accessed and there is no pixel. -/
theorem covers_empty {r : Rect} {P : Access → Prop} (hempty : ∀ x y, ¬r.Mem x y)
    (hreads : ∀ a k, P a → ¬a.Reads k) (hwrites : ∀ a k v, P a → ¬a.Writes k v) :
    Covers dst q memory n convert r P := by
  constructor
  · intro a k ha hk
    exact absurd hk (hreads a k ha)
  · intro k v
    constructor
    · rintro ⟨a, ha, hv⟩
      exact absurd hv (hwrites a k v ha)
    · rintro ⟨x, y, hmem, -⟩
      exact absurd hmem (hempty x y)

end

namespace Blt

variable {dst src : BltInfo} {memory : Int → Byte}

theorem getRowStart_32 {b : BltInfo} (ht : b.rotation = .identity) (hb : b.bitsPerPel = 32)
    (r : Rect) : b.getRowStart r = some (start32 b r) := by
  have hfour : long (32 / 8 : Nat) = 4 := by decide
  simp only [BltInfo.getRowStart, ht, hb, hfour, start32]

/-- With 32 bits per pixel and no rotation, the pixels of a row follow each other and the rows are
a pitch apart. -/
theorem address_32 {b : BltInfo} (ht : b.rotation = .identity) (hb : b.bitsPerPel = 32)
    (x y i j : Int) : b.address (x + i) (y + j) = b.address x y + j * b.pitch + i * 4 := by
  have hadd := b.address_add x y i j
  simpa [BltInfo.steps, ht, BltInfo.bytesPerPixel, hb] using hadd

/-- **A rectangle**, row by row. -/
theorem copyMemory_covers (ht : dst.rotation = .identity) (hb : dst.bitsPerPel = 32) {r : Rect}
    (hr : r.Within dst) :
    Covers dst (fun x y => start32 src r + (y - r.top) * src.pitch + (x - r.left) * 4) memory 4 id
      r fun a => ∃ j : Nat, j < uint (r.bottom - r.top) ∧
        PixelAccess (u32 (uint (r.right - r.left) * 4)) id memory
          (start32 dst r + j * dst.pitch) (start32 src r + j * src.pitch) a := by
  by_cases hne : r.left < r.right ∧ r.top < r.bottom
  · have hd : dst.Depth := ⟨by simp [BltInfo.bytesPerPixel, hb], by omega⟩
    obtain ⟨hwidth, hheight⟩ := hr.turns hd hne
    obtain ⟨hin, haddr⟩ := hr.inside _ _ (Rect.mem_first hne)
    have hstart : start32 dst r = dst.address r.left r.top := by
      rw [← Option.some_inj, ← getRowStart_32 ht hb, haddr.getRowStart_eq hin hd.pos]
    have hbytes : u32 (uint (r.right - r.left) * 4) = (r.right - r.left).toNat * 4 := by
      have hlast := (hr.inside (r.right - 1) r.top ⟨by omega, by omega, by omega, hne.2⟩).1
      have hcol := haddr.column_lt hlast (i := 0) (by have := hd.pos; omega)
      have hnarrow := haddr.narrow
      obtain ⟨-, hc, -⟩ := hin
      simp only [BltInfo.position, ht, BltInfo.bytesPerPixel, hb] at hc hcol
      unfold u32
      omega
    have hrows := covers_rows dst memory (r := r)
      (q := fun x y => start32 src r + (y - r.top) * src.pitch + (x - r.left) * 4)
      (fun x y => by simpa using address_32 ht hb r.left y (x - r.left) 0)
      (fun x y => by omega) hr.left
    rw [hbytes, hstart]
    convert hrows using 3 with a
    have hrow : ∀ j : Int, dst.address r.left r.top + j * dst.pitch =
        dst.address r.left (r.top + j) := fun j => by
      simpa using (address_32 ht hb r.left r.top 0 j).symm
    constructor
    · rintro ⟨j, hj, ha⟩
      refine ⟨r.top + j, ⟨by omega, by omega⟩, ?_⟩
      simpa only [hrow, add_sub_cancel_left, Int.sub_self, Int.zero_mul, Int.add_zero] using ha
    · rintro ⟨y, hy, ha⟩
      refine ⟨(y - r.top).toNat, by omega, ?_⟩
      rw [hrow, Int.toNat_of_nonneg (by omega), add_sub_cancel]
      simpa using ha
  · have hzero : u32 (uint (r.right - r.left) * 4) = 0 ∨ uint (r.bottom - r.top) = 0 := by
      have := hr.no_turns hne
      unfold u32
      omega
    refine covers_empty (Rect.not_mem_of_empty hne) ?_ ?_
    · rintro a k ⟨j, hj, ha⟩ hk
      obtain ⟨i, hi, -⟩ := ha.reads hk
      omega
    · rintro a k v ⟨j, hj, ha⟩ hv
      obtain ⟨i, hi, -⟩ := PixelAccess.writes_iff.mp ⟨a, ha, hv⟩
      have hn : u32 (uint (r.right - r.left) * 4) = 0 := by omega
      simp [hn, readAt] at hi

end Blt

/-! ## `BltBits` -/

/-- The source pixel `(x, y)` as an image of the destination's depth stores it. -/
def convertedPixel (dst src : BltInfo) (memory : Int → Byte) (x y : Int) : List Byte :=
  pixelBytes dst.bitsPerPel src.bitsPerPel fun i => memory (src.address x y + i)

theorem length_convertedPixel_le {dst src : BltInfo}
    (h : (dst.bitsPerPel, src.bitsPerPel) ∈ depths) (memory : Int → Byte) (x y : Int) :
    (convertedPixel dst src memory x y).length ≤ dst.bytesPerPixel :=
  length_pixelBytes_le h _

theorem depth_of_mem_depths {dst src : BltInfo} (h : (dst.bitsPerPel, src.bitsPerPel) ∈ depths) :
    dst.Depth ∧ src.Depth := by
  simp only [depths, List.mem_cons, Prod.mk.injEq, List.not_mem_nil, or_false] at h
  rcases h with ⟨hd, hs⟩ | ⟨hd, hs⟩ | ⟨hd, hs⟩ | ⟨hd, hs⟩ | ⟨hd, hs⟩ | ⟨hd, hs⟩ | ⟨hd, hs⟩
  all_goals
    refine ⟨⟨?_, by omega⟩, ?_, by omega⟩
    · simp [BltInfo.bytesPerPixel, hd]
    · simp [BltInfo.bytesPerPixel, hs]

/-- The byte at `k` is one of a pixel of one of the rectangles, where it becomes `v`. -/
def Copied (dst src : BltInfo) (memory : Int → Byte) (rects : List Rect) (k : Int) (v : Byte) :
    Prop :=
  ∃ r ∈ rects, ∃ x y, r.Mem x y ∧
    ∃ i : Nat, (convertedPixel dst src memory x y)[i]? = some v ∧ k = dst.address x y + i

namespace Blt

variable {dst src : BltInfo} {rects : List Rect}

/-- `f` treats the rectangles one by one and covers each, and `q` is where it takes the pixels of
the source from. -/
structure CoversAll (dst src : BltInfo) (memory : Int → Byte) (n : Nat)
    (convert : List Byte → List Byte) (rects : List Rect) (f : Blt → Rect → Except Blt Blt)
    (P : Rect → Access → Prop) (q : Rect → Int → Int → Int) : Prop where
  does : ∀ r ∈ rects, ∀ b, Does (f b r) b (P r)
  covers : ∀ r ∈ rects, Covers dst (q r) memory n convert r (P r)
  source : src.Depth → ∀ r ∈ rects, r.Within src → ∀ x y, r.Mem x y → q r x y = src.address x y

variable {memory : Int → Byte} {n : Nat} {convert : List Byte → List Byte}

theorem copyBits32_32_covers (ht : dst.rotation = .identity) (hb : dst.bitsPerPel = 32)
    (ht' : src.rotation = .identity) (hb' : src.bitsPerPel = 32)
    (hrects : ∀ r ∈ rects, r.Within dst) :
    CoversAll dst src memory 4 id rects
      (fun b r => copyMemory dst src memory (u32 (uint (r.right - r.left) * 4))
        (uint (r.bottom - r.top)) (start32 dst r) (start32 src r) b)
      (fun r a => ∃ j : Nat, j < uint (r.bottom - r.top) ∧
        PixelAccess (u32 (uint (r.right - r.left) * 4)) id memory
          (start32 dst r + j * dst.pitch) (start32 src r + j * src.pitch) a)
      (fun r x y => start32 src r + (y - r.top) * src.pitch + (x - r.left) * 4) where
  does r _ b := copyMemory_does _ _ _ b
  covers r hr := copyMemory_covers ht hb (hrects r hr)
  source hs r _ hwithin x y hmem := by
    obtain ⟨hin, haddr⟩ := hwithin.inside x y hmem
    rw [← hwithin.pointer hs (getRowStart_32 ht' hb' r) hmem, haddr.getPitches_eq hin hs.small]
    simp [BltInfo.steps, ht', BltInfo.bytesPerPixel, hb']

theorem copyBitsGeneric_covers (memory : Int → Byte)
    (hconv : conversion dst.bitsPerPel src.bitsPerPel = some (n, convert)) (hd : dst.Depth)
    (ht : dst.Turned) (ht' : src.Turned) (hrects : ∀ r ∈ rects, r.Within dst) :
    ∃ P q, CoversAll dst src memory n convert rects
      (fun b r => copyRows dst src memory (uint (r.right - r.left)) (uint (r.bottom - r.top))
        (dst.getRowStart r) (src.getRowStart r) b) P q := by
  refine ⟨_, fun r x y => (src.getRowStart r).getD 0 + (y - r.top) * src.getPitches.2 +
    (x - r.left) * src.getPitches.1, fun r hr b => ?_, fun r _ => covers_pixels r,
    fun hs r _ hwithin x y hmem => ?_⟩
  · obtain ⟨p, hp⟩ := ht.getRowStart r
    obtain ⟨q, hq⟩ := ht'.getRowStart r
    simpa only [hq, Option.getD_some] using copyRect_does hconv hd (hrects r hr) hp hq b
  · obtain ⟨q, hq⟩ := ht'.getRowStart r
    rw [hq, Option.getD_some]
    exact hwithin.pointer hs hq hmem

/-- **What `BltBits` accesses.** Only the destination matters for where the pixels are put. -/
theorem bltBits_accesses (memory : Int → Byte)
    (hconv : conversion dst.bitsPerPel src.bitsPerPel = some (n, convert)) (hd : dst.Depth)
    (ht : dst.Turned) (ht' : src.Turned) (hrects : ∀ r ∈ rects, r.Within dst) (b : Blt) :
    ∃ accesses, ∃ q : Rect → Int → Int → Int, b.bltBits dst src memory rects = b.after accesses ∧
      (src.Depth → ∀ r ∈ rects, r.Within src → ∀ x y, r.Mem x y → q r x y = src.address x y) ∧
      (∀ a ∈ accesses, ∀ k, a.Reads k → ∃ r ∈ rects, ∃ x y, r.Mem x y ∧
        ∃ i : Nat, i < n ∧ k = q r x y + i) ∧
      ∀ k v, (∃ a ∈ accesses, a.Writes k v) ↔ ∃ r ∈ rects, ∃ x y, r.Mem x y ∧
        ∃ i : Nat, (convert (readAt memory (q r x y) n))[i]? = some v ∧
          k = dst.address x y + i := by
  -- either of the two functions covers the rectangles one by one
  have hcovers : ∃ f P q, CoversAll dst src memory n convert rects f P q ∧
      ∀ c, rects.foldlM f b = .ok c → b.bltBits dst src memory rects = c := by
    by_cases h32 : dst.bitsPerPel = 32 ∧ src.bitsPerPel = 32 ∧ dst.rotation = .identity ∧
        src.rotation = .identity
    · obtain ⟨hb, hb', hid, hid'⟩ := h32
      have hfour : n = 4 ∧ convert = id := by
        rw [hb, hb'] at hconv
        cases hconv
        exact ⟨rfl, rfl⟩
      obtain ⟨rfl, rfl⟩ := hfour
      refine ⟨_, _, _, copyBits32_32_covers hid hb hid' hb' hrects, fun c hc => ?_⟩
      replace hc : b.copyBits32_32 dst src memory rects = .ok c := hc
      rw [bltBits, if_pos ⟨hb, hb', hid, hid'⟩, hc]
    · obtain ⟨P, q, hall⟩ := copyBitsGeneric_covers memory hconv hd ht ht' hrects
      refine ⟨_, P, q, hall, fun c hc => ?_⟩
      replace hc : b.copyBitsGeneric dst src memory rects = .ok c := hc
      rw [bltBits, if_neg h32, hc]
  obtain ⟨f, P, q, ⟨hdoes, hP, hq⟩, hresult⟩ := hcovers
  obtain ⟨accesses, hfold, hmem⟩ := foldlM_does rects hdoes b
  refine ⟨accesses, q, hresult _ hfold, hq, ?_, fun k v => ?_⟩
  · intro a ha k hk
    obtain ⟨r, hr, hPa⟩ := (hmem a).mp ha
    exact ⟨r, hr, (hP r hr).reads a k hPa hk⟩
  · constructor
    · rintro ⟨a, ha, hv⟩
      obtain ⟨r, hr, hPa⟩ := (hmem a).mp ha
      exact ⟨r, hr, ((hP r hr).writes k v).mp ⟨a, hPa, hv⟩⟩
    · rintro ⟨r, hr, hpixel⟩
      obtain ⟨a, hPa, hv⟩ := ((hP r hr).writes k v).mpr hpixel
      exact ⟨a, (hmem a).mpr ⟨r, hr, hPa⟩, hv⟩

end Blt

theorem writes_stores {accesses : List Access} {k : Int} {v : Byte} :
    Lib.Writes (accesses.filterMap Access.store?) k v ↔ ∃ a ∈ accesses, a.Writes k v := by
  constructor
  · rintro ⟨s, hs, hv⟩
    obtain ⟨a, ha, hstore⟩ := List.mem_filterMap.mp hs
    cases a with
    | load p n => simp [Access.store?] at hstore
    | store t =>
      cases hstore
      exact ⟨_, ha, hv⟩
  · rintro ⟨a, ha, hv⟩
    cases a with
    | load p n => exact absurd hv id
    | store s => exact ⟨s, List.mem_filterMap.mpr ⟨_, ha, rfl⟩, hv⟩

theorem BltInfo.Image.within {b : BltInfo} (h : b.Image) (hd : b.Depth) {r : Rect}
    (hleft : r.left ≤ r.right) (htop : r.top ≤ r.bottom)
    (hinside : ∀ x y, r.Mem x y → b.Contains x y) : r.Within b where
  left := hleft
  top := htop
  inside x y hmem := ⟨hinside x y hmem, h.addressable (hinside x y hmem) hd.pos⟩

namespace Blt

variable {dst src : BltInfo} {rects : List Rect}

/-- What `BltBits` accesses when the source is an image as well. -/
theorem bltBits_spec (hdepth : (dst.bitsPerPel, src.bitsPerPel) ∈ depths) (hdst : dst.Image)
    (hsrc : src.Image) (hrects : ∀ r ∈ rects, r.Fits dst src) (memory : Int → Byte) (b : Blt) :
    ∃ accesses, b.bltBits dst src memory rects = b.after accesses ∧
      (∀ a ∈ accesses, ∀ k, a.Reads k → ∃ r ∈ rects, ∃ x y, r.Mem x y ∧
        ∃ i : Nat, i < src.bytesPerPixel ∧ k = src.address x y + i) ∧
      ∀ k v, (∃ a ∈ accesses, a.Writes k v) ↔ Copied dst src memory rects k v := by
  obtain ⟨n, convert, hconv, hn, hconverted⟩ := conversion_of_mem_depths hdepth
  replace hn : n ≤ src.bytesPerPixel := hn
  obtain ⟨hd, hs⟩ := depth_of_mem_depths hdepth
  have hwithin : ∀ r ∈ rects, r.Within dst ∧ r.Within src := fun r hr =>
    ⟨hdst.within hd (hrects r hr).left (hrects r hr).top
        fun x y h => ((hrects r hr).inside x y h).1,
      hsrc.within hs (hrects r hr).left (hrects r hr).top
        fun x y h => ((hrects r hr).inside x y h).2⟩
  obtain ⟨accesses, q, hb, hq, hreads, hwrites⟩ := bltBits_accesses memory hconv hd
    hdst.turned hsrc.turned (fun r hr => (hwithin r hr).1) b
  replace hq := fun r hr => hq hs r hr (hwithin r hr).2
  refine ⟨accesses, hb, fun a ha k hk => ?_, fun k v => ?_⟩
  · obtain ⟨r, hr, x, y, hmem, i, hi, rfl⟩ := hreads a ha k hk
    rw [hq r hr x y hmem]
    exact ⟨r, hr, x, y, hmem, i, by omega, rfl⟩
  · rw [hwrites]
    unfold Copied convertedPixel
    refine exists_congr fun r => and_congr_right fun hr => exists_congr fun x =>
      exists_congr fun y => and_congr_right fun hmem => ?_
    rw [hq r hr x y hmem, hconverted]

/-- The rectangles agree on every byte: a byte belongs to one pixel only. -/
theorem copied_unique (hdepth : (dst.bitsPerPel, src.bitsPerPel) ∈ depths) (hdst : dst.Image)
    (hrects : ∀ r ∈ rects, r.Fits dst src) (memory : Int → Byte) :
    Relator.RightUnique (Copied dst src memory rects) := by
  have hbytes : ∀ {x y i v}, (convertedPixel dst src memory x y)[i]? = some v →
      i < dst.bytesPerPixel := fun {x y i v} hv =>
    Nat.lt_of_lt_of_le (List.getElem?_eq_some_iff.mp hv).1
      (length_convertedPixel_le hdepth memory x y)
  rintro k v w ⟨r, hr, x, y, hmem, i, hv, rfl⟩ ⟨r', hr', x', y', hmem', j, hw, heq⟩
  have hin := ((hrects r hr).inside x y hmem).1
  have hin' := ((hrects r' hr').inside x' y' hmem').1
  obtain ⟨rfl, rfl, hij⟩ := (hdst.addressable hin (depth_of_mem_depths hdepth).1.pos).address_unique
    hin hin' (by omega) (by exact_mod_cast hbytes hv) (by omega) (by exact_mod_cast hbytes hw) heq
  obtain rfl : i = j := by exact_mod_cast hij
  exact Option.some_inj.mp (hv.symm.trans hw)

/-- **`BltBits` copies the rectangles**: every pixel of a rectangle is converted and put in its
place, no other byte of the destination changes, no access leaves the two images, and only the set
of rectangles matters. -/
theorem bltBits_copies (hdepth : (dst.bitsPerPel, src.bitsPerPel) ∈ depths) (hdst : dst.Image)
    (hsrc : src.Image) (hrects : ∀ r ∈ rects, r.Fits dst src) (memory before : Int → Byte) :
    let b := (Blt.mk before []).bltBits dst src memory rects
    (∀ r ∈ rects, ∀ x y, r.Mem x y → ∀ (i : Nat) v,
      (convertedPixel dst src memory x y)[i]? = some v → b.memory (dst.address x y + i) = v) ∧
    (∀ k, (∀ r ∈ rects, ∀ x y, r.Mem x y → ∀ i : Nat,
      i < (convertedPixel dst src memory x y).length → k ≠ dst.address x y + i) →
        b.memory k = before k) ∧
    (∀ a ∈ b.accesses, ∀ k,
      (a.Reads k → src.bits ≤ k ∧ k < src.bits + src.height * src.pitch) ∧
      ∀ v, a.Writes k v → dst.bits ≤ k ∧ k < dst.bits + dst.height * dst.pitch) ∧
    ∀ rects', (∀ r, r ∈ rects' ↔ r ∈ rects) →
      ((Blt.mk before []).bltBits dst src memory rects').memory = b.memory := by
  obtain ⟨accesses, hb, hreads, hwrites⟩ :=
    bltBits_spec hdepth hdst hsrc hrects memory (Blt.mk before [])
  obtain ⟨hd, hs⟩ := depth_of_mem_depths hdepth
  have hunique := copied_unique hdepth hdst hrects memory
  have hstores : ∀ k v, Lib.Writes (accesses.filterMap Access.store?) k v ↔
      Copied dst src memory rects k v := fun k v => writes_stores.trans (hwrites k v)
  have hstores_unique : Relator.RightUnique (Lib.Writes (accesses.filterMap Access.store?)) :=
    fun k v w hv hw => hunique ((hstores k v).mp hv) ((hstores k w).mp hw)
  intro b
  rw [show b = (Blt.mk before []).after accesses from hb]
  refine ⟨fun r hr x y hmem i v hv => ?_, fun k hk => ?_, fun a ha k => ⟨fun hread => ?_,
    fun v hwrite => ?_⟩, fun rects' hsame => ?_⟩
  · exact applyAll_of_writes hstores_unique
      ((hstores _ v).mpr ⟨r, hr, x, y, hmem, i, hv, rfl⟩) before
  · refine applyAll_of_not_writes (fun v hv => ?_) before
    obtain ⟨r, hr, x, y, hmem, i, hi, heq⟩ := (hstores k v).mp hv
    exact hk r hr x y hmem i (List.getElem?_eq_some_iff.mp hi).1 heq
  · obtain ⟨r, hr, x, y, hmem, i, hi, rfl⟩ := hreads a (by simpa [after] using ha) k hread
    have hin := ((hrects r hr).inside x y hmem).2
    exact (hsrc.addressable hin hs.pos).address_bounds hin (by omega) (by omega)
  · obtain ⟨r, hr, x, y, hmem, i, hi, rfl⟩ :=
      (hwrites k v).mp ⟨a, by simpa [after] using ha, hwrite⟩
    have hin := ((hrects r hr).inside x y hmem).1
    have hlt : i < dst.bytesPerPixel := Nat.lt_of_lt_of_le (List.getElem?_eq_some_iff.mp hi).1
      (length_convertedPixel_le hdepth memory x y)
    exact (hdst.addressable hin hd.pos).address_bounds hin (by omega) (by omega)
  · obtain ⟨accesses', hb', -, hwrites'⟩ := bltBits_spec hdepth hdst hsrc
      (fun r hr => hrects r ((hsame r).mp hr)) memory (Blt.mk before [])
    rw [hb']
    refine (applyAll_congr hstores_unique (fun k v => ?_) before).symm
    rw [hstores, writes_stores, hwrites']
    unfold Copied
    simp only [hsame]

/-- An image of three columns and two rows with 16 bits per pixel, and the same turned by 90
degrees with 32. -/
def flatImage : BltInfo := ⟨0, 6, 16, ⟨0, 0⟩, .identity, 3, 2⟩

def turnedImage : BltInfo := ⟨0, 8, 32, ⟨0, 0⟩, .rotate90, 2, 3⟩

/-- Pixels that are red, as 16 bits. -/
def redPixels : Int → Byte := fun k => if k % 2 = 0 then 0 else 0xf8

theorem bltBits_copies_turnedImage :
    ((Blt.mk (fun _ => 0) []).bltBits turnedImage flatImage redPixels
      [⟨0, 0, 3, 2⟩]).memory 10 = 0xf8 := by
  have hdst : turnedImage.Image := ⟨by decide, by decide, by decide⟩
  have hsrc : flatImage.Image := ⟨by decide, by decide, by decide⟩
  have hrects : ∀ r ∈ [Rect.mk 0 0 3 2], r.Fits turnedImage flatImage := by
    intro r hr
    rw [List.mem_singleton] at hr
    subst hr
    refine ⟨by decide, by decide, fun x y ⟨hx, hx', hy, hy'⟩ => ?_⟩
    simp only [BltInfo.Contains, BltInfo.position, turnedImage, flatImage] at hx hx' hy hy' ⊢
    omega
  exact (bltBits_copies (by decide) hdst hsrc hrects redPixels fun _ => 0).1 ⟨0, 0, 3, 2⟩
    (by simp) 1 0 (by decide) 2 0xf8 (by decide)

end Blt

end VioGpu.Device
