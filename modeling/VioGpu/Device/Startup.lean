import VioGpu.Device.Mode
import VioGpu.Queue.Pool

/-!
# Starting and destroying a `GpuDevice`

`HWInit` sets up the sub-objects of the device one after the other, and hands its status to a
common tail that tells the device, starts the worker thread and asks for the display modes. The
destructor takes everything down again, whatever `HWInit` came to. The outcomes of the steps
are inputs; the model records which sub-objects are set up, and stops where one is used that is
not.
-/

namespace VioGpu.Device

open Lib Queue

/-- The sub-objects whose set-up the model follows. -/
inductive SubObject
  /-- `m_VioDev.device` -/
  | vioDevice
  /-- `m_pVirtQueue` of `m_CtrlQueue` -/
  | ctrlQueue
  /-- `m_pBuf` of `m_CtrlQueue` -/
  | gpuBuf
  /-- `m_FreeBufs` and its lock in `m_GpuBuf` -/
  | freeBufs
  /-- `m_IdBitMapMutex` in `m_Idr` -/
  | idrMutex
  /-- the buffer of `m_IdBitMap` in `m_Idr` -/
  | idrBitMap
  /-- `m_pWorkThread` -/
  | workThread
  deriving DecidableEq, Repr

/-- Where the code does not come to its end. -/
inductive Stop
  /-- a sub-object is used that was not set up -/
  | uninit (s : SubObject)
  /-- another access through `NULL` -/
  | null
  /-- a wait for an answer of the device that never comes -/
  | waits
  deriving DecidableEq, Repr

/-- `GpuDevice`, as far as it is set up, with `m_Flags.HardwareInit` of `VioGpuDod`. `freeBufs` is
the number of vbuffers in `m_FreeBufs`. -/
structure Parts where
  vioDevice : Bool
  ctrlQueue : Bool
  cursorQueue : Bool
  gpuBuf : Bool
  freeBufs : Option Nat
  idrMutex : Bool
  idrBitMap : Bool
  workThread : Bool
  hardwareInit : Bool
  numScanouts : Nat
  deriving DecidableEq, Repr

/-- What the driver finds when it asks for the display modes. -/
structure DisplayAnswer where
  /-- the allocation of the response -/
  respBuf : Bool
  /-- the device answers -/
  answered : Bool

/-- The outcomes of the steps of `HWInit`. -/
structure StartOutcomes where
  /-- `m_PciResources.Init` -/
  pciResources : Bool
  /-- `virtio_device_initialize` -/
  virtIoDevice : Except Nat Unit
  /-- the device offers `VIRTIO_F_VERSION_1` -/
  version1 : Bool
  /-- `virtio_set_features` -/
  setFeatures : Except Nat Unit
  /-- `virtio_find_queues` -/
  findQueues : Except Nat Unit
  /-- `vqs[0]` is not `NULL` -/
  ctrlQueue : Bool
  /-- `vqs[1]` is not `NULL` -/
  cursorQueue : Bool
  /-- `virtio_query_queue_allocation` of the control queue -/
  ctrlEntries : Except Nat Nat
  /-- `virtio_query_queue_allocation` of the cursor queue -/
  cursorEntries : Except Nat Nat
  /-- the allocation of the vbuffer of this number -/
  vbuffer : Nat → Bool
  /-- the allocation of the buffer of `m_IdBitMap` -/
  idrBitMap : Bool
  /-- `num_scanouts` of the device's configuration -/
  numScanouts : Nat
  /-- `PsCreateSystemThread` -/
  thread : Except Nat Unit
  /-- the allocation of `m_ModeInfo` -/
  modeInfo : Bool
  /-- the allocation of `m_ModeNumbers` -/
  modeNumbers : Bool
  /-- how many modes of `gpu_disp_modes` have a size that suits the display -/
  suitableModes : Nat
  display : DisplayAnswer

namespace Parts

/-- The state after the constructor. Not all fields are set there: `numScanouts` is whatever was
in the memory. -/
def new (numScanouts : Nat) : Parts where
  vioDevice := false
  ctrlQueue := false
  cursorQueue := false
  gpuBuf := false
  freeBufs := none
  idrMutex := false
  idrBitMap := false
  workThread := false
  hardwareInit := false
  numScanouts := numScanouts

def has (p : Parts) : SubObject → Bool
  | .vioDevice => p.vioDevice
  | .ctrlQueue => p.ctrlQueue
  | .gpuBuf => p.gpuBuf
  | .freeBufs => p.freeBufs.isSome
  | .idrMutex => p.idrMutex
  | .idrBitMap => p.idrBitMap
  | .workThread => p.workThread

def use (p : Parts) (s : SubObject) : Except Stop Unit :=
  if p.has s then .ok () else .error (.uninit s)

def stopIf (c : Prop) [Decidable c] (stop : Stop) : Except Stop Unit :=
  if c then .error stop else .ok ()

/-! ## Asking for the display modes -/

/-- `AllocCmd` or `AllocCmdResp`, the write to the command, and `QueueBuffer`. -/
def queueCommand (p : Parts) : Except Stop Unit := do
  p.use .gpuBuf
  p.use .freeBufs
  -- without a free vbuffer the command is written through `NULL`
  stopIf (p.freeBufs = some 0) .null
  p.use .ctrlQueue

/-- `AskDisplayInfo`: whether `*buf` is set. The answer comes through the interrupt, which is only
handled with `HardwareInit`. -/
def askDisplayInfo (p : Parts) (answer : DisplayAnswer) : Except Stop Bool := do
  if answer.respBuf = false then return false
  else
    p.queueCommand
    stopIf (answer.answered = false ∨ p.hardwareInit = false) .waits
    return true

/-- `GpuDevice::GetDisplayInfo`, without the custom mode it sets. -/
def getDisplayInfo (p : Parts) (answer : DisplayAnswer) : Except Stop Unit := do
  let vbuf ← p.askDisplayInfo answer
  -- the loop reads the answer in the vbuffer
  stopIf (vbuf = false ∧ p.numScanouts ≠ 0) .null
  p.use .gpuBuf
  stopIf (vbuf = false) .null
  p.use .freeBufs

/-- `GpuDevice::GetModeList`, without the modes. -/
def getModeList (p : Parts) (o : StartOutcomes) : Except Stop Status := do
  if o.modeInfo = false then return .noMemory
  else if o.modeNumbers = false then return .noMemory
  else
    p.getDisplayInfo o.display
    return if o.suitableModes = 0 then .unsuccessful else .success

/-- `ConfigChanged`; `display` says that the event is `VIRTIO_GPU_EVENT_DISPLAY`. -/
def configChanged (p : Parts) (display : Bool) (answer : DisplayAnswer) : Except Stop Unit := do
  p.use .vioDevice
  if display = false then return ()
  else
    p.getDisplayInfo answer
    p.use .vioDevice

/-! ## `HWInit` -/

/-- `VioGpuQueue::QueryAllocation` -/
def queryAllocation (entries : Except Nat Nat) : Nat := entries.toOption.getD 0

/-- How many vbuffers `VioGpuBuf::Init` puts into the list. -/
def vbuffers (o : StartOutcomes) : Nat :=
  let size := u32 (queryAllocation o.ctrlEntries + queryAllocation o.cursorEntries)
  (Pool.init ((List.range size).map o.vbuffer)).free.length

/-- `VioGpuIdr::Init`, which always returns `TRUE`. -/
def idrInit (p : Parts) (o : StartOutcomes) : Except Stop (Bool × Parts) := do
  let p := { p with idrMutex := true, idrBitMap := o.idrBitMap }
  p.use .idrMutex
  p.use .idrBitMap
  return (true, p)

/-- The loop of `HWInit` from the queue objects on. -/
def initQueues (p : Parts) (o : StartOutcomes) : Except Stop (Status × Parts) := do
  let p := { p with ctrlQueue := o.ctrlQueue }
  if o.ctrlQueue = false then return (.insufficientResources, p)
  else
    let p := { p with cursorQueue := o.cursorQueue }
    if o.cursorQueue = false then return (.insufficientResources, p)
    else
      p.use .vioDevice
      let p := { p with freeBufs := some (vbuffers o) }
      if vbuffers o = 0 then return (.insufficientResources, p)
      else
        let p := { p with gpuBuf := true }
        let (ok, p) ← p.idrInit o
        if ok = false then return (.insufficientResources, p)
        else
          p.use .vioDevice
          return (.success, { p with numScanouts := o.numScanouts })

/-- The loop of `HWInit` from `virtio_get_features` on. -/
def initFeatures (p : Parts) (o : StartOutcomes) : Except Stop (Status × Parts) := do
  p.use .vioDevice
  if o.version1 = false then return (.unsuccessful, p)
  else
    match o.setFeatures with
    | .error code => return (.os code, p)
    | .ok () =>
      match o.findQueues with
      | .error code => return (.os code, p)
      | .ok () => p.initQueues o

/-- The loop of `HWInit`. -/
def initSteps (p : Parts) (o : StartOutcomes) : Except Stop (Status × Parts) :=
  if o.pciResources = false then .ok (.insufficientResources, p)
  else
    match o.virtIoDevice with
    | .error code => .ok (.os code, { p with vioDevice := false })
    | .ok () => { p with vioDevice := true }.initFeatures o

/-- The tail of `HWInit`. The status of the loop is not looked at again. -/
def hwInitTail (p : Parts) (o : StartOutcomes) : Except Stop (Status × Parts) :=
  match o.thread with
  | .error code => .ok (.os code, p)
  | .ok () => do
    let p := { p with workThread := true }
    let status ← p.getModeList o
    return (status, p)

/-- `HWInit` -/
def hwInit (p : Parts) (o : StartOutcomes) : Except Stop (Status × Parts) := do
  let (status, p) ← p.initSteps o
  -- `virtio_device_ready` or `virtio_add_status`
  p.use .vioDevice
  let p := if status = .success then { p with hardwareInit := true } else p
  p.hwInitTail o

/-! ## The destructor -/

/-- `DestroyCursor` or `DestroyFrameBuffer` for an object. -/
def destroyObj (p : Parts) : Except Stop Unit := do
  p.queueCommand
  p.queueCommand
  p.use .idrMutex

/-- `GpuDeviceClose` -/
def gpuDeviceClose (p : Parts) : Except Stop Parts := do
  p.use .vioDevice
  return { p with hardwareInit := false, ctrlQueue := false, cursorQueue := false }

/-- `HWClose` -/
def hwClose (p : Parts) : Except Stop Parts := do
  p.use .workThread
  return { p with hardwareInit := false }

/-- `~GpuDevice` after `DestroyFrameBuffer`, with the destructors of `m_Idr` and `m_GpuBuf`, the
members that use what they hold. -/
def closeAll (p : Parts) : Except Stop Unit := do
  let p ← p.gpuDeviceClose
  let p ← p.hwClose
  p.use .idrMutex
  p.use .freeBufs

/-- `~GpuDevice`; `objects` is the number of objects that `DestroyCursor` and
`DestroyFrameBuffer` find. -/
def destructor (p : Parts) (objects : Nat) : Except Stop Unit := do
  (List.range objects).forM fun _ => p.destroyObj
  p.closeAll

end Parts

/-- What happens between `HWInit` and the destructor: the configuration changes that wake up the
worker thread, and the objects that are left. -/
structure Meanwhile where
  changes : List (Bool × DisplayAnswer)
  objects : Nat

/-- The worker thread. Configuration changes are only noticed with `HardwareInit`. -/
def Parts.threadWorkRoutine (p : Parts) (changes : List (Bool × DisplayAnswer)) :
    Except Stop Unit :=
  if p.workThread ∧ p.hardwareInit then changes.forM fun c => p.configChanged c.1 c.2 else .ok ()

/-- From `HWInit` to the destructor. Only after a successful `HWInit` are objects created. -/
def Parts.lifetime (p : Parts) (o : StartOutcomes) (m : Meanwhile) : Except Stop Unit := do
  let (status, p) ← p.hwInit o
  p.threadWorkRoutine m.changes
  p.destructor (if status = .success then m.objects else 0)

end VioGpu.Device
