import VioGpu.Device.Idr
import VioGpu.Device.Mode
import VioGpu.Device.Object
import VioGpu.Lib.Transition

/-!
# The callbacks of `GpuDevice`

The functions of `viogpudo.cpp` that create and destroy the resources of the frame buffer and
of the cursor and that queue commands about them. None of them reads an answer of the host or
the result of `virtqueue_add_buf`, so that a callback is a function of the driver's state and
of the outcomes of its allocations; what it does to the queues, to the ids and to the memory
is a list of effects, in the order of the source. `none` stands for an access through `NULL`
or to freed memory, after which there is no state.
-/

namespace VioGpu.Device

open Lib Queue

/-- What a callback does, one by one. Commands carry the number of the object they are queued
for, and `delete` says whether `DestroyFrameBuffer` or `DestroyCursor` deletes the object or a
failure path of its creation. -/
inductive Effect
  | ctrl (obj : Nat) (c : CtrlCommand)
  | cursor (obj : Nat) (c : CursorCommand)
  | getId (id : Nat)
  | putId (id : Nat) (wasSet : Bool)
  | delete (obj : Nat) (destroyed : Bool)
  /-- the device is reset -/
  | reset
  /-- `m_pVirtQueue` of both queue objects is set or cleared -/
  | setQueues (up : Bool)
  deriving DecidableEq, Repr

/-- The object the effect is about. -/
def Effect.object? : Effect → Option Nat
  | .ctrl obj _ | .cursor obj _ | .delete obj _ => some obj
  | .getId _ | .putId .. | .reset | .setQueues _ => none

/-- The outcomes of the allocations of one creation: of the object, in its `Init`, and of the
entries for `AttachBacking`. -/
structure Allocs where
  object : Bool
  init : InitOutcome
  ents : Bool

/-- `GpuDevice` and `m_CurrentModes[0]`. `objects` counts the objects created so far. -/
structure Gpu where
  idr : VioGpuIdr
  frameBuf : Option VioGpuObj
  cursorBuf : Option VioGpuObj
  objects : Nat
  mode : CurrentBddMode
  effects : List Effect

/-- `DXGKARG_SETPOINTERSHAPE` -/
structure PointerShape where
  color : Bool
  monochrome : Bool
  width : Nat
  height : Nat
  xHot : Nat
  yHot : Nat

/-- `DXGKARG_SETPOINTERPOSITION` -/
structure PointerPosition where
  visible : Bool
  x : Int
  y : Int

/-- What comes of `GpuDeviceInit`. -/
inductive DeviceInit
  /-- `virtio_device_initialize` fails before its reset -/
  | notFound
  /-- a later step fails -/
  | failed
  | ready
  deriving DecidableEq, Repr

/-- `DEVICE_POWER_STATE` -/
inductive DevicePowerState
  | unspecified
  | d0
  | d1
  | d2
  | d3
  deriving DecidableEq, Repr

def pointerSize : Nat := 64

namespace Gpu

def emit (g : Gpu) (e : Effect) : Gpu := { g with effects := g.effects ++ [e] }

/-- `m_Idr.GetId` -/
def getId (g : Gpu) : Nat × Gpu :=
  (g.idr.getId.1, { g with idr := g.idr.getId.2 }.emit (.getId g.idr.getId.1))

/-- `m_Idr.PutId` -/
def putId (g : Gpu) (id : Nat) : Gpu :=
  { g with idr := g.idr.putId id }.emit (.putId id (g.idr.isSet id))

/-- `new VioGpuObj()`; its `Init` is called through the pointer it returns. -/
def newObj (g : Gpu) (allocated : Bool) : Option (VioGpuObj × Gpu) :=
  if allocated then some (.new g.objects, { g with objects := g.objects + 1 }) else none

/-- `delete obj` -/
def deleteObj (g : Gpu) (obj : VioGpuObj) (destroyed : Bool) : Option Gpu := do
  let _ ← obj.close
  some (g.emit (.delete obj.number destroyed))

/-- `GpuObjectAttach` -/
def gpuObjectAttach (g : Gpu) (resId : Nat) (obj : VioGpuObj) (ents : Bool) :
    Bool × VioGpuObj × Gpu :=
  if ents then
    (true, { obj with hwRes := resId },
      g.emit (.ctrl obj.number (.resourceAttachBacking resId obj.sgList)))
  else (false, obj, g)

/-- `CreateFrameBuffer` -/
def createFrameBuffer (g : Gpu) (modeInfo : VideoModeInformation) (a : Allocs) : Option Gpu := do
  let size := u32 (modeInfo.screenStride * modeInfo.visScreenHeight)
  let (width, height) := (modeInfo.visScreenWidth, modeInfo.visScreenHeight)
  let n := g.objects
  let (resid, g) := g.getId
  let g := g.emit (.ctrl n
    (.resourceCreate2d resid (colorFormat g.mode.dispInfo.colorFormat) width height))
  let (obj, g) ← g.newObj a.object
  let (ok, obj) ← obj.init size a.init
  if ok = false then g.deleteObj obj false
  else
    -- the result of `GpuObjectAttach` is not looked at
    let (_, obj, g) := g.gpuObjectAttach resid obj a.ents
    let g := g.emit (.ctrl n (.setScanout 0 resid width height 0 0))
    let g := g.emit (.ctrl n (.transferToHost2d resid 0 width height 0 0))
    let g := g.emit (.ctrl n (.resourceFlush resid width height 0 0))
    some { g with
      frameBuf := some obj
      mode := { g.mode with
        dispInfo := { g.mode.dispInfo with physicAddress := obj.physicalAddress }
        ptr := some obj.number
        frameBufferIsActive := true } }

/-- The common part of `DestroyFrameBuffer` and `DestroyCursor`. -/
def destroyObj (g : Gpu) (obj : VioGpuObj) : Option Gpu := do
  let id := obj.hwRes
  let g := g.emit (.ctrl obj.number (.resourceDetachBacking id))
  let g := g.emit (.ctrl obj.number (.resourceUnref id))
  let g ← g.deleteObj obj true
  some (g.putId id)

/-- `DestroyFrameBuffer` -/
def destroyFrameBuffer (g : Gpu) : Option Gpu :=
  match g.frameBuf with
  | none => some g
  | some obj => ({ · with frameBuf := none }) <$> g.destroyObj obj

/-- `DestroyCursor` -/
def destroyCursor (g : Gpu) : Option Gpu :=
  match g.cursorBuf with
  | none => some g
  | some obj => ({ · with cursorBuf := none }) <$> g.destroyObj obj

/-- `SetCurrentMode`; `false` for `STATUS_UNSUCCESSFUL`. -/
def setCurrentMode (g : Gpu) (modes : List VideoModeInformation) (mode : Nat) (a : Allocs) :
    Option (Bool × Gpu) :=
  match modes.find? (·.modeNumber = mode) with
  | none => some (false, g)
  | some modeInfo => do
    let g ← g.destroyFrameBuffer
    let g := { g with mode := { g.mode with
      frameBufferIsActive := false, dispInfo := { g.mode.dispInfo with physicAddress := 0 } } }
    let g ← g.createFrameBuffer modeInfo a
    some (true, g)

/-- `CreateCursor` -/
def createCursor (g : Gpu) (shape : PointerShape) (a : Allocs) : Option (Bool × Gpu) := do
  let size := pointerSize * pointerSize * 4
  let n := g.objects
  let (resid, g) := g.getId
  let g := g.emit (.ctrl n (.resourceCreate2d resid virtioGpuFormatB8G8R8A8 pointerSize pointerSize))
  let (obj, g) ← g.newObj a.object
  let (ok, obj) ← obj.init size a.init
  if ok = false then
    let g ← g.deleteObj obj false
    some (false, g)
  else
    let (attached, obj, g) := g.gpuObjectAttach resid obj a.ents
    if attached = false then
      let g ← g.deleteObj obj false
      some (false, g)
    else
      let g := { g with cursorBuf := some obj }
      if shape.color = false ∧ shape.monochrome = false then some (false, g)
      else some (true,
        g.emit (.ctrl n (.transferToHost2d resid 0 shape.width shape.height 0 0)))

/-- `SetPointerShape` -/
def setPointerShape (g : Gpu) (shape : PointerShape) (a : Allocs) : Option Gpu := do
  let g ← g.destroyCursor
  let (created, g) ← g.createCursor shape a
  if created then
    let obj ← g.cursorBuf
    some (g.emit (.cursor obj.number (.updateCursor obj.hwRes 0 0 shape.xHot shape.yHot)))
  else some g

/-- `SetPointerPosition` -/
def setPointerPosition (g : Gpu) (p : PointerPosition) : Option Gpu := do
  let obj ← g.cursorBuf
  let hidden := p.visible = false ∨ uint p.x > g.mode.srcModeWidth ∨
    uint p.y > g.mode.srcModeHeight ∨ p.x < 0 ∨ p.y < 0
  some (g.emit (.cursor obj.number
    (if hidden then .moveCursor obj.hwRes 0 0 else .moveCursor obj.hwRes (uint p.x) (uint p.y))))

/-- `ExecutePresentDisplayOnly`, without the blits. -/
def executePresentDisplayOnly (g : Gpu) (dstBitPerPixel : Nat) (moves dirtyRects : List Rect) :
    Option Gpu := do
  let u := (findUpdateRect moves dirtyRects).getD
    { left := 0, top := 0, right := g.mode.srcModeWidth, bottom := g.mode.srcModeHeight }
  let offset := u32 (uint u.top * g.mode.dispInfo.pitch + uint u.left * ((dstBitPerPixel + 7) / 8))
  let obj ← g.frameBuf
  let (resid, n) := (obj.hwRes, obj.number)
  let (width, height) := (uint (u.right - u.left), uint (u.bottom - u.top))
  let g := g.emit (.ctrl n (.transferToHost2d resid offset width height (uint u.left) (uint u.top)))
  some (g.emit (.ctrl n (.resourceFlush resid width height (uint u.left) (uint u.top))))

/-- `GpuDeviceInit`, as far as the resources are concerned. -/
def gpuDeviceInit (g : Gpu) : DeviceInit → Gpu
  | .notFound => g
  | .failed => g.emit .reset
  | .ready => (g.emit .reset).emit (.setQueues true)

/-- `GpuDeviceClose`, as far as the resources are concerned. -/
def gpuDeviceClose (g : Gpu) : Gpu := (g.emit .reset).emit (.setQueues false)

/-- `GpuDevice::SetPowerState`, which always returns `STATUS_SUCCESS`. -/
def setPowerState (g : Gpu) (state : DevicePowerState) (init : DeviceInit) : Gpu :=
  match state with
  | .unspecified | .d0 => g.gpuDeviceInit init
  | .d1 | .d2 | .d3 => g.gpuDeviceClose

/-- `m_pFrameBuf` and `m_pCursorBuf`. -/
def liveObjs (g : Gpu) : List VioGpuObj := g.frameBuf.toList ++ g.cursorBuf.toList

/-- The state after `m_Idr.Init(1)`, with no resources. -/
def start (mode : CurrentBddMode) : Gpu where
  idr := .init 1
  frameBuf := none
  cursorBuf := none
  objects := 0
  mode := mode
  effects := []

end Gpu

/-- A callback, with the outcomes of its steps. `VioGpuDod::SetPowerState` calls
`GpuDevice::SetPowerState` twice. -/
inductive Callback
  | setCurrentMode (modes : List VideoModeInformation) (mode : Nat) (a : Allocs)
  | setPointerShape (shape : PointerShape) (a : Allocs)
  | setPointerPosition (p : PointerPosition)
  | executePresentDisplayOnly (dstBitPerPixel : Nat) (moves dirtyRects : List Rect)
  | setPowerState (state : DevicePowerState) (first second : DeviceInit)

/-- The driver after a callback. -/
def Gpu.callback (g : Gpu) : Callback → Option Gpu
  | .setCurrentMode modes mode a => Prod.snd <$> g.setCurrentMode modes mode a
  | .setPointerShape shape a => g.setPointerShape shape a
  | .setPointerPosition p => g.setPointerPosition p
  | .executePresentDisplayOnly bpp moves dirtyRects =>
    g.executePresentDisplayOnly bpp moves dirtyRects
  | .setPowerState state first second =>
    some ((g.setPowerState state first).setPowerState state second)

/-- The driver, one callback after the other. -/
def Gpu.system (mode : CurrentBddMode) : System Gpu Callback where
  init := Gpu.start mode
  step := Gpu.callback

/-! ## A small configuration -/

def oneMode : List VideoModeInformation := [⟨0, 64, 16, 256⟩]

def firstMode : CurrentBddMode where
  dispInfo := ⟨64, 16, 256, .a8r8g8b8, 0⟩
  rotation := .uninitialized
  scaling := .uninitialized
  srcModeWidth := 64
  srcModeHeight := 16
  fullscreenPresent := false
  frameBufferIsActive := false
  doNotMapOrUnmap := false
  ptr := none

/-- Allocations that all succeed. -/
def allocated : Allocs := ⟨true, .done fun i => 4096 * (i + 1), true⟩

def arrow : PointerShape := ⟨true, false, 32, 32, 0, 0⟩

end VioGpu.Device
