import VioGpu.Device.Mode
import VioGpu.Lib.Overwrite

/-!
# Copying pixels (`bitops.cpp`)

`BltBits` copies rectangles from one image to another, each with its own rotation, offset and
pixel depth. The two images are in disjoint memories. A pointer is its distance from the start of
its memory, or `none` for `NULL`; what the copying loads and stores is kept as a list, in which
each pixel, or each row of `CopyBits32_32`, is one load and one store. `BltBits` catches the
exception that an access through `NULL` raises, and what was stored until then stays.
-/

namespace VioGpu.Device

open Lib

abbrev Byte := BitVec 8

/-- A signed value as a `LONG`. -/
def long (i : Int) : Int := Int.bmod i 4294967296

/-- `POINT` -/
structure Point where
  x : Int
  y : Int
  deriving DecidableEq, Repr

/-- `BLT_INFO`. `bits` is where `pBits` points to in the memory of the image. -/
structure BltInfo where
  bits : Int
  pitch : Nat
  bitsPerPel : Nat
  offset : Point
  rotation : Rotation
  width : Nat
  height : Nat
  deriving DecidableEq, Repr

namespace BltInfo

/-- `GetPitches`: the pixel pitch and the row pitch. -/
def getPitches (b : BltInfo) : Int × Int :=
  match b.rotation with
  | .identity => (long (b.bitsPerPel / 8 : Nat), long b.pitch)
  | .rotate90 => (long (-long b.pitch), long (b.bitsPerPel / 8 : Nat))
  | .rotate180 => (long (-(long b.bitsPerPel).tdiv 8), long (-long b.pitch))
  | .rotate270 => (long b.pitch, long (-(long b.bitsPerPel).tdiv 8))
  | .uninitialized | .unpinned | .notSpecified => (0, 0)

/-- `GetRowStart`. The products are unsigned where `Pitch`, `Width` or `Height` is a factor. -/
def getRowStart (b : BltInfo) (r : Rect) : Option Int :=
  let offLeft := long (r.left + b.offset.x)
  let offTop := long (r.top + b.offset.y)
  let bytesPerPixel := long (b.bitsPerPel / 8 : Nat)
  match b.rotation with
  | .identity => some (b.bits + uint (offTop * b.pitch) + long (offLeft * bytesPerPixel))
  | .rotate90 =>
    some (b.bits + uint ((b.height - 1 - offLeft) * b.pitch) + long (offTop * bytesPerPixel))
  | .rotate180 =>
    some (b.bits + uint ((b.height - 1 - offTop) * b.pitch) +
      uint ((b.width - 1 - offLeft) * bytesPerPixel))
  | .rotate270 =>
    some (b.bits + uint (offLeft * b.pitch) + uint ((b.width - 1 - offTop) * bytesPerPixel))
  | .uninitialized | .unpinned | .notSpecified => none

end BltInfo

/-! ## Pixel formats -/

/-- `UPPER_6_BITS` -/
def upper6Bits (c : Byte) : BitVec 32 := (c &&& 0xfc).setWidth 32 >>> 2

/-- `UPPER_5_BITS` -/
def upper5Bits (c : Byte) : BitVec 32 := (c &&& 0xf8).setWidth 32 >>> 3

/-- `LOWER_6_BITS` -/
def lower6Bits (c : BitVec 16) : BitVec 32 := (c.setWidth 8 &&& 0x3f).setWidth 32

/-- `LOWER_5_BITS` -/
def lower5Bits (c : BitVec 16) : BitVec 32 := (c.setWidth 8 &&& 0x1f).setWidth 32

/-- The bytes of a word in memory. -/
def wordBytes {w : Nat} (word : BitVec w) : List Byte :=
  (List.range (w / 8)).map fun i => (word >>> (8 * i)).setWidth 8

/-- `CONVERT_32BPP_TO_16BPP` -/
def convert32bppTo16bpp (pixel : List Byte) : BitVec 16 :=
  (upper5Bits (pixel.getD 2 0) <<< 11 ||| upper6Bits (pixel.getD 1 0) <<< 5 |||
    upper5Bits (pixel.getD 0 0)).setWidth 16

/-- `CONVERT_32BPP_TO_8BPP` -/
def convert32bppTo8bpp (pixel : List Byte) : Byte :=
  .ofNat 8 ((pixel.getD 2 0).toNat / 43 * 36 + (pixel.getD 1 0).toNat / 43 * 6 +
    (pixel.getD 0 0).toNat / 43)

/-- `CONVERT_16BPP_TO_32BPP` -/
def convert16bppTo32bpp (pixel : BitVec 16) : BitVec 32 :=
  lower5Bits (pixel >>> 11) <<< 19 ||| lower6Bits (pixel >>> 5) <<< 10 |||
    lower5Bits pixel <<< 3

/-- The branches of the inner loop of `CopyBitsGeneric`: how many bytes of a source pixel it reads,
and what it stores. `none` where it stores nothing. -/
def conversion (dstBitsPerPel srcBitsPerPel : Nat) : Option (Nat × (List Byte → List Byte)) :=
  if dstBitsPerPel = 24 ∨ srcBitsPerPel = 24 then some (3, id)
  else if dstBitsPerPel = 32 then
    if srcBitsPerPel = 32 then some (4, id)
    else if srcBitsPerPel = 16 then
      some (2, fun p => wordBytes (convert16bppTo32bpp (p.getD 1 0 ++ p.getD 0 0)))
    else none
  else if dstBitsPerPel = 16 then some (3, fun p => wordBytes (convert32bppTo16bpp p))
  else if dstBitsPerPel = 8 then some (3, fun p => [convert32bppTo8bpp p])
  else none

/-! ## The loops -/

inductive Access
  | load (start : Int) (count : Nat)
  | store (s : Store Byte)
  deriving DecidableEq, Repr

def Access.store? : Access → Option (Store Byte)
  | .load .. => none
  | .store s => some s

/-- The memory of the destination, and what has been accessed so far. -/
structure Blt where
  memory : Int → Byte
  accesses : List Access

namespace Blt

/-- The copying after these accesses. -/
def after (b : Blt) (accesses : List Access) : Blt where
  memory := applyAll (accesses.filterMap Access.store?) b.memory
  accesses := b.accesses ++ accesses

/-- Reads `n` bytes of the source; an error is an exception. -/
def load (b : Blt) (src : Int → Byte) (p : Option Int) (n : Nat) : Except Blt (List Byte × Blt) :=
  match p with
  | none => .error b
  | some p => .ok (readAt src p n, b.after [.load p n])

def store (b : Blt) (p : Option Int) (values : List Byte) : Except Blt Blt :=
  match p with
  | none => .error b
  | some p => .ok (b.after [.store ⟨p, values⟩])

/-- The body of the inner loop of `CopyBitsGeneric`. -/
def copyPixel (b : Blt) (dst src : BltInfo) (memory : Int → Byte) (pDst pSrc : Option Int) :
    Except Blt Blt :=
  match conversion dst.bitsPerPel src.bitsPerPel with
  | none => .ok b
  | some (n, convert) => do
    let (pixel, b) ← b.load memory pSrc n
    b.store pDst (convert pixel)

/-- The loop of `CopyBitsGeneric` over the pixels of a row. -/
def copyPixels (dst src : BltInfo) (memory : Int → Byte) : Nat → Option Int → Option Int → Blt →
    Except Blt Blt
  | 0, _, _, b => .ok b
  | n + 1, pDst, pSrc, b => do
    let b ← b.copyPixel dst src memory pDst pSrc
    copyPixels dst src memory n (pDst.map (· + dst.getPitches.1))
      (pSrc.map (· + src.getPitches.1)) b

/-- The loop of `CopyBitsGeneric` over the rows of a rectangle. -/
def copyRows (dst src : BltInfo) (memory : Int → Byte) (numPixels : Nat) : Nat → Option Int →
    Option Int → Blt → Except Blt Blt
  | 0, _, _, b => .ok b
  | n + 1, pDst, pSrc, b => do
    let b ← copyPixels dst src memory numPixels pDst pSrc b
    copyRows dst src memory numPixels n (pDst.map (· + dst.getPitches.2))
      (pSrc.map (· + src.getPitches.2)) b

/-- `CopyBitsGeneric` -/
def copyBitsGeneric (b : Blt) (dst src : BltInfo) (memory : Int → Byte) (rects : List Rect) :
    Except Blt Blt :=
  rects.foldlM (fun b r => copyRows dst src memory (uint (r.right - r.left))
    (uint (r.bottom - r.top)) (dst.getRowStart r) (src.getRowStart r) b) b

/-- The loop of `CopyBits32_32` over the rows of a rectangle. -/
def copyMemory (dst src : BltInfo) (memory : Int → Byte) (bytesToCopy : Nat) : Nat → Int → Int →
    Blt → Except Blt Blt
  | 0, _, _, b => .ok b
  | n + 1, pDst, pSrc, b => do
    let (bytes, b) ← b.load memory (some pSrc) bytesToCopy
    let b ← b.store (some pDst) bytes
    copyMemory dst src memory bytesToCopy n (pDst + dst.pitch) (pSrc + src.pitch) b

/-- The start of a rectangle in `CopyBits32_32`. -/
def start32 (b : BltInfo) (r : Rect) : Int :=
  b.bits + uint (long (r.top + b.offset.y) * b.pitch) + long (long (r.left + b.offset.x) * 4)

/-- `CopyBits32_32` -/
def copyBits32_32 (b : Blt) (dst src : BltInfo) (memory : Int → Byte) (rects : List Rect) :
    Except Blt Blt :=
  rects.foldlM (fun b r => copyMemory dst src memory (u32 (uint (r.right - r.left) * 4))
    (uint (r.bottom - r.top)) (start32 dst r) (start32 src r) b) b

/-- `BltBits` -/
def bltBits (b : Blt) (dst src : BltInfo) (memory : Int → Byte) (rects : List Rect) : Blt :=
  let result :=
    if dst.bitsPerPel = 32 ∧ src.bitsPerPel = 32 ∧ dst.rotation = .identity ∧
        src.rotation = .identity then
      b.copyBits32_32 dst src memory rects
    else b.copyBitsGeneric dst src memory rects
  match result with
  | .ok b => b
  | .error b => b

end Blt

end VioGpu.Device
