import VioGpu.Device.Blit
import VioGpu.Device.Gpu

/-!
# Presenting (`PresentDisplayOnly`)

`VioGpuDod::PresentDisplayOnly` decides where in the frame buffer the image starts and how it is
turned, `GpuDevice::ExecutePresentDisplayOnly` copies the rectangles there and sends the host the
rectangle of what has changed. The memory of the frame buffer is addressed from `FrameBuffer.Ptr`
on.
-/

namespace VioGpu.Device

open Lib

/-- `STATUS_INVALID_PARAMETER` -/
def Status.invalidParameter : Status := .os 0xc000000d

/-- `DXGKARG_PRESENT_DISPLAYONLY`; of a move only its `DestRect`, and of `Flags` only
`Rotate`. -/
structure PresentDisplayOnly where
  bytesPerPixel : Nat
  pitch : Int
  rotate : Bool
  moves : List Rect
  dirtyRects : List Rect
  deriving DecidableEq, Repr

namespace PresentDisplayOnly

/-- The rectangles, in the order in which they are copied. -/
def rects (p : PresentDisplayOnly) : List Rect := p.moves ++ p.dirtyRects

/-- `RotationNeededByFb` -/
def rotationNeededByFb (p : PresentDisplayOnly) (mode : CurrentBddMode) : Rotation :=
  if p.rotate then mode.rotation else .identity

end PresentDisplayOnly

namespace CurrentBddMode

/-- `DstBitPerPixel` -/
def dstBitPerPixel (mode : CurrentBddMode) : Nat := bppFromPixelFormat mode.dispInfo.colorFormat

/-- By how many bytes `PresentDisplayOnly` moves the image: half of `CenterShift` as an `int`. -/
def centerShift (mode : CurrentBddMode) : Int :=
  if mode.scaling = .centered then
    (long (u32 (sub32 mode.dispInfo.height mode.srcModeHeight * mode.dispInfo.pitch +
      u32 (sub32 mode.dispInfo.width mode.srcModeWidth * mode.dstBitPerPixel) / 8) : Nat)).tdiv 2
  else 0

/-- `DstBltInfo` -/
def dstBltInfo (mode : CurrentBddMode) (p : PresentDisplayOnly) : BltInfo where
  bits := mode.centerShift
  pitch := mode.dispInfo.pitch
  bitsPerPel := mode.dstBitPerPixel
  offset := ⟨0, 0⟩
  rotation := p.rotationNeededByFb mode
  width := mode.srcModeWidth
  height := mode.srcModeHeight

/-- The width and height of the presented source. -/
def sourceSize (mode : CurrentBddMode) (p : PresentDisplayOnly) : Nat × Nat :=
  match p.rotationNeededByFb mode with
  | .rotate90 | .rotate270 => (mode.srcModeHeight, mode.srcModeWidth)
  | .uninitialized | .identity | .rotate180 | .unpinned | .notSpecified =>
    (mode.srcModeWidth, mode.srcModeHeight)

/-- `SrcBltInfo` -/
def srcBltInfo (mode : CurrentBddMode) (p : PresentDisplayOnly) : BltInfo where
  bits := 0
  pitch := uint p.pitch
  bitsPerPel := u32 (p.bytesPerPixel * 8)
  offset := ⟨0, 0⟩
  rotation := .identity
  width := (mode.sourceSize p).1
  height := (mode.sourceSize p).2

end CurrentBddMode

/-- The loops of `ExecutePresentDisplayOnly`: one `BltBits` for each rectangle. -/
def Blt.presentRects (b : Blt) (dst src : BltInfo) (source : Int → Byte) (rects : List Rect) :
    Blt :=
  rects.foldl (fun b r => b.bltBits dst src source [r]) b

/-- `PresentDisplayOnly` with a `GpuDevice`. `screen` is the memory of the frame buffer, and
`hidden` says whether the monitor is off or `SourceNotVisible` is set. -/
def Gpu.presentDisplayOnly (g : Gpu) (screen : Blt) (source : Int → Byte) (hidden : Bool)
    (p : PresentDisplayOnly) : Option (Status × Blt × Gpu) :=
  if p.bytesPerPixel < 4 then some (.invalidParameter, screen, g)
  else if hidden then some (.success, screen, g)
  else do
    let screen := screen.presentRects (g.mode.dstBltInfo p) (g.mode.srcBltInfo p) source p.rects
    let g ← g.executePresentDisplayOnly g.mode.dstBitPerPixel p.moves p.dirtyRects
    some (.success, screen, g)

end VioGpu.Device
