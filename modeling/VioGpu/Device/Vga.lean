import VioGpu.Device.Commit
import VioGpu.Device.Present

/-!
# The VGA device (`VgaDevice` of `viogpudo.cpp`)

`VgaDevice` maps the frame buffer that the BIOS left in video memory. `BlackOutScreen` zeroes it,
and remembers in `ZeroedOutStart` and `ZeroedOutEnd` which physical addresses it has zeroed, so
that it need not zero them again. Video memory is addressed by physical addresses; what the BIOS
and `MmMapIoSpace` do is an input.
-/

namespace VioGpu.Device

open Lib

/-- The outcomes of the steps for one path: whether `MmMapIoSpace` maps the frame buffer, whether
`x86BiosCall` succeeds, and which bytes of video memory the BIOS clears. -/
structure VgaOutcomes where
  mapped : Bool
  biosCall : Bool
  cleared : Int → Bool

/-- `VgaDevice` and `m_CurrentModes[0]`. `FrameBuffer.Ptr` is the number of a mapping; `mappings`
counts them, and the last one starts at the physical address `base`. -/
structure Vga where
  mode : CurrentBddMode
  sourceNotVisible : Bool
  zeroedOutStart : Nat
  zeroedOutEnd : Nat
  mappings : Nat
  base : Nat
  memory : Int → Byte

/-- `RtlZeroMemory` of `n` bytes. -/
def zeroMemory (memory : Int → Byte) (start n : Nat) : Int → Byte :=
  fun k => if start ≤ k ∧ k < start + n then 0 else memory k

namespace Vga

/-- The length of the frame buffer, as `UINT`. -/
def length (v : Vga) : Nat := u32 (v.mode.dispInfo.height * v.mode.dispInfo.pitch)

/-- `AcquireFrameBuffer`, with `MapFrameBuffer`. -/
def acquireFrameBuffer (v : Vga) (o : VgaOutcomes) : Status × Vga :=
  if v.mode.doNotMapOrUnmap then (.unsuccessful, v)
  else if v.mode.dispInfo.physicAddress = 0 ∨ v.length = 0 then (.invalidParameter, v)
  else if o.mapped then
    (.success, { v with
      mode := { v.mode with ptr := some v.mappings, frameBufferIsActive := true }
      mappings := v.mappings + 1
      base := v.mode.dispInfo.physicAddress })
  else (.noMemory, { v with mode := { v.mode with ptr := none } })

/-- `ReleaseFrameBuffer`, with `UnmapFrameBuffer`. -/
def releaseFrameBuffer (v : Vga) : Status × Vga :=
  (if (v.mode.ptr = none ↔ v.length = 0) then .success else .invalidParameter,
    { v with mode := { v.mode with ptr := none, frameBufferIsActive := false } })

/-- `SetCurrentMode` -/
def setCurrentMode (v : Vga) (o : VgaOutcomes) : Status × Vga :=
  (if o.biosCall then .success else .unsuccessful,
    { v with memory := fun k => if o.cleared k then 0 else v.memory k })

/-- `RtlZeroMemory(MappedAddr, n)`; `none` if that is `NULL`. -/
def zeroMapped (v : Vga) (n : Nat) : Option Vga :=
  if n = 0 then some v
  else v.mode.ptr.map fun _ => { v with memory := zeroMemory v.memory v.base n }

/-- The part of `BlackOutScreen` for an active frame buffer. -/
def zeroUnzeroed (v : Vga) : Option Vga := do
  let newStart := v.mode.dispInfo.physicAddress
  let newEnd := newStart + v.length
  let v ← (if newStart < v.zeroedOutStart then
      if newEnd < v.zeroedOutStart then v.zeroMapped v.length
      else v.zeroMapped (u32 (v.zeroedOutStart - newStart))
    else some v)
  if v.zeroedOutEnd < newEnd then
    if v.zeroedOutEnd < newStart then v.zeroMapped v.length
    else v.zeroMapped (u32 (newEnd - v.zeroedOutEnd))
  else some v

/-- `BlackOutScreen` -/
def blackOutScreen (v : Vga) : Option Vga := do
  let v ← (if v.mode.frameBufferIsActive then v.zeroUnzeroed else some v)
  some { v with
    zeroedOutStart := v.mode.dispInfo.physicAddress
    zeroedOutEnd := v.mode.dispInfo.physicAddress + v.length }

end Vga

/-- The functions of `VgaDevice`. -/
def vgaDevice : HwDeviceInterface Vga VgaOutcomes where
  currentMode v := v.mode
  setMode v mode := { v with mode }
  acquireFrameBuffer v o := some (v.acquireFrameBuffer o)
  releaseFrameBuffer v _ := some v.releaseFrameBuffer
  setCurrentMode v _ _ o := some (v.setCurrentMode o)

/-! ## The callbacks that draw -/

/-- The arguments of `SystemDisplayWrite`. -/
structure SystemDisplayWrite where
  source : Int → Byte
  sourceWidth : Nat
  sourceHeight : Nat
  sourceStride : Nat
  positionX : Int
  positionY : Int

namespace SystemDisplayWrite

def rect (w : SystemDisplayWrite) : Rect where
  left := w.positionX
  top := w.positionY
  right := long (w.positionX + w.sourceWidth)
  bottom := long (w.positionY + w.sourceHeight)

def srcBltInfo (w : SystemDisplayWrite) : BltInfo where
  bits := 0
  pitch := w.sourceStride
  bitsPerPel := 32
  offset := ⟨-w.positionX, -w.positionY⟩
  rotation := .identity
  width := w.sourceWidth
  height := w.sourceHeight

/-- `DstBltInfo`, for a frame buffer mapped from `base` on. -/
def dstBltInfo (mode : CurrentBddMode) (base : Nat) : BltInfo where
  bits := base
  pitch := mode.dispInfo.pitch
  bitsPerPel := mode.dstBitPerPixel
  offset := ⟨0, 0⟩
  rotation := mode.rotation
  width := mode.dispInfo.width
  height := mode.dispInfo.height

end SystemDisplayWrite

namespace Vga

/-- Draws through `FrameBuffer.Ptr`; an access through `NULL` is an exception that `BltBits`
catches. -/
def draw (v : Vga) (blits : Blt → Blt) : Vga :=
  if v.mode.ptr.isSome then { v with memory := (blits ⟨v.memory, []⟩).memory } else v

/-- `PresentDisplayOnly` with a `VgaDevice`, while the monitor is on. -/
def presentDisplayOnly (v : Vga) (source : Int → Byte) (p : PresentDisplayOnly) : Vga :=
  if p.bytesPerPixel < 4 ∨ v.sourceNotVisible then v
  else
    { v with zeroedOutStart := 0, zeroedOutEnd := 0 }.draw fun b => b.presentRects
      { v.mode.dstBltInfo p with bits := v.base + v.mode.centerShift } (v.mode.srcBltInfo p)
      source p.rects

/-- `SetVidPnSourceVisibility` -/
def setVidPnSourceVisibility (v : Vga) (visible : Bool) : Option Vga := do
  let v ← (if visible then some { v with mode := { v.mode with fullscreenPresent := true } }
    else v.blackOutScreen)
  some { v with sourceNotVisible := !visible }

/-- `SystemDisplayWrite` -/
def systemDisplayWrite (v : Vga) (w : SystemDisplayWrite) : Vga :=
  v.draw fun b => b.bltBits (SystemDisplayWrite.dstBltInfo v.mode v.base) w.srcBltInfo w.source
    [w.rect]

/-- The state after `StartDevice`, with this content of video memory. -/
def start (mode : CurrentBddMode) (memory : Int → Byte) : Vga where
  mode := mode
  sourceNotVisible := false
  zeroedOutStart := 0
  zeroedOutEnd := 0
  mappings := 0
  base := 0
  memory := memory

end Vga

/-- The callbacks of `VioGpuDod` that draw or change what is drawn. -/
inductive VgaEvent
  | commitVidPn (c : CommitVidPn VgaOutcomes)
  | presentDisplayOnly (source : Int → Byte) (p : PresentDisplayOnly)
  | setVidPnSourceVisibility (visible : Bool)
  | systemDisplayWrite (w : SystemDisplayWrite)

/-- The driver on the `VgaDevice` path. -/
def Dod.vgaSystem (acquired : DispInfo) (physicAddress : Nat) (memory : Int → Byte) :
    System (Dod Vga) VgaEvent where
  init := ⟨.start (startDeviceMode acquired physicAddress) memory, 0⟩
  step d
    | .commitVidPn c => (fun r => r.2.2) <$> commitVidPn vgaDevice d c
    | .presentDisplayOnly source p => some { d with device := d.device.presentDisplayOnly source p }
    | .setVidPnSourceVisibility visible =>
      ({ d with device := · }) <$> d.device.setVidPnSourceVisibility visible
    | .systemDisplayWrite w => some { d with device := d.device.systemDisplayWrite w }

end VioGpu.Device
