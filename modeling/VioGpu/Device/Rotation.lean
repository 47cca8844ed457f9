import VioGpu.Device.BlitRuns
import VioGpu.Device.Vga

/-!
# The rotation of the path

`CommitVidPn` and `UpdateActiveVidPnPresentPath` store the rotation of a path in
`m_CurrentModes[0]`. `PresentDisplayOnly`, `SystemDisplayWrite` and `SetPointerShape` hand it over
to `BltBits`, which knows four rotations. What these three hand over is kept as a list of the calls
of `BltBits`; the `_blits` lemmas say that the callbacks make just these calls.
-/

namespace VioGpu.Device

open Lib

/-- A call of `BltBits`, which is always for one rectangle. -/
structure BltCall where
  dst : BltInfo
  src : BltInfo
  rect : Rect
  deriving DecidableEq, Repr

/-- `GetPitches` and `GetRowStart` have a case for the rotation of both images, so that
`GetRowStart` does not leave its result at `NULL`. -/
structure BltCall.Supported (c : BltCall) : Prop where
  dst : c.dst.Turned
  src : c.src.Turned
  dstStart : (c.dst.getRowStart c.rect).isSome
  srcStart : (c.src.getRowStart c.rect).isSome

/-- The calls of `BltBits`, one after the other. -/
def Blt.blitAll (b : Blt) (source : Int → Byte) (calls : List BltCall) : Blt :=
  calls.foldl (fun b c => b.bltBits c.dst c.src source [c.rect]) b

namespace CurrentBddMode

/-- What `PresentDisplayOnly` hands to `BltBits` while the source is visible; `FrameBuffer.Ptr` is
`base`. -/
def presentBlits (mode : CurrentBddMode) (base : Nat) (p : PresentDisplayOnly) : List BltCall :=
  if p.bytesPerPixel < 4 then []
  else p.rects.map fun r =>
    ⟨{ mode.dstBltInfo p with bits := base + mode.centerShift }, mode.srcBltInfo p, r⟩

/-- What `SystemDisplayWrite` hands to `BltBits`. -/
def systemBlits (mode : CurrentBddMode) (base : Nat) (w : SystemDisplayWrite) : List BltCall :=
  [⟨SystemDisplayWrite.dstBltInfo mode base, w.srcBltInfo, w.rect⟩]

/-- What `CreateCursor` hands to `BltBits`: the images of the cursor's object and of `pPixels`,
whose `Pitch` is `pitch`. -/
def cursorBlit (mode : CurrentBddMode) (shape : PointerShape) (pitch : Nat) : BltCall where
  dst :=
    { bits := 0
      pitch := pointerSize * 4
      bitsPerPel := bppFromPixelFormat .a8r8g8b8
      offset := ⟨0, 0⟩
      rotation := .identity
      width := pointerSize
      height := pointerSize }
  src :=
    { bits := 0
      pitch := pitch
      bitsPerPel := bppFromPixelFormat (if shape.color then .a8r8g8b8 else .a1)
      offset := ⟨0, 0⟩
      rotation := mode.rotation
      width := shape.width
      height := shape.height }
  rect := ⟨0, 0, long shape.width, long shape.height⟩

end CurrentBddMode

/-- The callbacks that draw. Of `SetPointerShape`, `pitch` is the pitch of its pixels and `a` the
outcomes of the allocations of `GpuDevice`; `screen` is the memory of the frame buffer of a
`GpuDevice`. The source is visible and the monitor is on, as `StartDevice` leaves them. -/
inductive Draw
  | presentDisplayOnly (screen : Blt) (source : Int → Byte) (p : PresentDisplayOnly)
  | systemDisplayWrite (w : SystemDisplayWrite)
  | setPointerShape (shape : PointerShape) (pitch : Nat) (a : Allocs)

namespace Gpu

/-- The device after a callback that draws; `SystemDisplayWrite` changes pixels only. -/
def drawn (g : Gpu) : Draw → Option Gpu
  | .presentDisplayOnly screen source p =>
    (fun r => r.2.2) <$> g.presentDisplayOnly screen source false p
  | .systemDisplayWrite _ => some g
  | .setPointerShape shape _ a => g.setPointerShape shape a

/-- What a callback hands to `BltBits`. `CreateCursor` comes to it just when it returns `TRUE`. -/
def blits (g : Gpu) : Draw → List BltCall
  | .presentDisplayOnly _ _ p => g.mode.presentBlits 0 p
  | .systemDisplayWrite w => g.mode.systemBlits 0 w
  | .setPointerShape shape pitch a =>
    match g.destroyCursor.bind (·.createCursor shape a) with
    | some (true, _) => [g.mode.cursorBlit shape pitch]
    | some (false, _) | none => []

/-- `PresentDisplayOnly` draws what its calls of `BltBits` draw. -/
theorem presentDisplayOnly_blits {g g' : Gpu} {screen screen' : Blt} {source : Int → Byte}
    {p : PresentDisplayOnly} {status : Status}
    (h : g.presentDisplayOnly screen source false p = some (status, screen', g')) :
    screen' = screen.blitAll source (g.mode.presentBlits 0 p) := by
  unfold presentDisplayOnly at h
  unfold CurrentBddMode.presentBlits
  simp only [Bool.false_eq_true, if_false] at h
  split_ifs at h ⊢
  · cases h
    rfl
  · obtain ⟨g₁, -, h⟩ := Option.bind_eq_some_iff.mp h
    cases h
    simp only [Blt.blitAll, Blt.presentRects, List.foldl_map, Int.natCast_zero, Int.zero_add]
    rfl

end Gpu

namespace Vga

/-- The device after a callback that draws; its `SetPointerShape` is not supported. -/
def drawn (v : Vga) : Draw → Option Vga
  | .presentDisplayOnly _ source p => some (v.presentDisplayOnly source p)
  | .systemDisplayWrite w => some (v.systemDisplayWrite w)
  | .setPointerShape .. => some v

/-- What a callback hands to `BltBits`. -/
def blits (v : Vga) : Draw → List BltCall
  | .presentDisplayOnly _ _ p => if v.sourceNotVisible then [] else v.mode.presentBlits v.base p
  | .systemDisplayWrite w => v.mode.systemBlits v.base w
  | .setPointerShape .. => []

/-- `PresentDisplayOnly` draws what its calls of `BltBits` draw. -/
theorem presentDisplayOnly_blits {v : Vga} (hvisible : v.sourceNotVisible = false)
    {p : PresentDisplayOnly} (hbpp : 4 ≤ p.bytesPerPixel) (source : Int → Byte) :
    v.presentDisplayOnly source p =
      { v with zeroedOutStart := 0, zeroedOutEnd := 0 }.draw fun b =>
        b.blitAll source (v.mode.presentBlits v.base p) := by
  have hdraws : ¬(p.bytesPerPixel < 4 ∨ v.sourceNotVisible = true) := by
    simp [hvisible, Nat.not_lt.mpr hbpp]
  unfold presentDisplayOnly CurrentBddMode.presentBlits
  rw [if_neg hdraws, if_neg (Nat.not_lt.mpr hbpp)]
  simp only [Blt.blitAll, List.foldl_map]
  rfl

theorem systemDisplayWrite_blits (v : Vga) (w : SystemDisplayWrite) :
    v.systemDisplayWrite w =
      v.draw fun b => b.blitAll w.source (v.mode.systemBlits v.base w) :=
  rfl

end Vga

/-! ## The callbacks in any order -/

/-- A callback that stores the rotation or draws. -/
inductive PathCall (ω : Type)
  | commitVidPn (c : CommitVidPn ω)
  | updateActiveVidPnPresentPath (path : VidPnPresentPath)
  | draw (k : Draw)

namespace Dod

variable {δ ω : Type} (hw : HwDeviceInterface δ ω)

/-- `UpdateActiveVidPnPresentPath` -/
def updateActiveVidPnPresentPath (d : Dod δ) (path : VidPnPresentPath) : Status × Dod δ :=
  if isVidPnPathFieldsValid path ≠ .success then (isVidPnPathFieldsValid path, d)
  else
    let mode :=
      { hw.currentMode d.device with fullscreenPresent := true, rotation := path.rotation }
    (.success, { d with device := hw.setMode d.device mode })

/-- The driver after a callback, on a device that draws like this. -/
def pathCall (drawn : δ → Draw → Option δ) (d : Dod δ) : PathCall ω → Option (Dod δ)
  | .commitVidPn c => (fun r => r.2.2) <$> commitVidPn hw d c
  | .updateActiveVidPnPresentPath path => some (updateActiveVidPnPresentPath hw d path).2
  | .draw k => ({ d with device := · }) <$> drawn d.device k

/-- The driver after a list of callbacks. -/
def pathCalls (drawn : δ → Draw → Option δ) (d : Dod δ) (calls : List (PathCall ω)) :
    Option (Dod δ) :=
  calls.foldlM (pathCall hw drawn) d

end Dod

end VioGpu.Device
