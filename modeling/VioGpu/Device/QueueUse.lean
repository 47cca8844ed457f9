import VioGpu.Device.QueueMemory
import VioGpu.Queue.Ownership

/-!
# The use of the virtqueues

`m_CtrlQueue` and `m_CursorQueue` point to virtqueues that `GpuDeviceInit` sets up and
`GpuDeviceClose` deletes. The callbacks of the OS come one after the other; the worker thread,
which asks for the display information after a config change, and the DPC, which takes what the
device has completed off the rings, run next to them. The steps of all are operations on a queue
object, or pieces of `GpuDeviceInit`, `GpuDeviceClose` and `HWClose`, and interleave freely.
-/

namespace VioGpu.Device

open Lib Queue

/-- The operations of `VioGpuQueue` on its virtqueue. -/
inductive QueueOp
  | addBuf
  | kick
  | getBuf
  | numFree
  deriving DecidableEq, Repr

structure QueueUse where
  queue : QueueName
  op : QueueOp
  deriving DecidableEq, Repr

/-- What `QueueBufferLocked`, `QueueCursor` and the loops of `DpcRoutine` do on the queue after an
operation; `ok` tells whether `AddBuf` found room, and whether `GetBuf` returned a buffer. -/
def QueueUse.next (u : QueueUse) (ok : Bool) : List QueueUse :=
  match u.queue, u.op with
  | .ctrl, .addBuf => if ok then [⟨.ctrl, .kick⟩] else [⟨.ctrl, .numFree⟩]
  | .cursor, .addBuf => ⟨.cursor, .kick⟩ :: if ok then [⟨.cursor, .numFree⟩] else []
  | q, .getBuf => if ok then [⟨q, .getBuf⟩] else []
  | _, .kick | _, .numFree => []

/-- A step of the running callback. The pieces of a function follow each other. -/
inductive Task
  | use (u : QueueUse)
  /-- `GpuDeviceInit`, from its first step on -/
  | gpuDeviceInit (o : InitOutcomes)
  /-- `virtio_find_queues` -/
  | findQueues (o : InitOutcomes)
  /-- `m_CtrlQueue.Init` -/
  | setCtrl
  /-- `m_CursorQueue.Init` -/
  | setCursor
  /-- `SetHardwareInit(TRUE)` -/
  | ready
  /-- `GpuDeviceClose`, from its first step on -/
  | gpuDeviceClose
  /-- `virtio_device_reset` and `virtio_delete_queues` -/
  | deleteQueues
  /-- `m_CtrlQueue.Close` -/
  | closeCtrl
  /-- `m_CursorQueue.Close` -/
  | closeCursor
  /-- `m_bStopWorkThread = TRUE` of `HWClose` -/
  | stop
  deriving DecidableEq, Repr

/-- A callback. `CommitVidPn` comes to its queues through `SetCurrentMode`, which it calls for
each path. -/
inductive QueueCall
  | setCurrentMode (modes : List VideoModeInformation) (mode : Nat) (a : Allocs)
  | setPointerShape (shape : PointerShape) (a : Allocs)
  | setPointerPosition (p : PointerPosition)
  | executePresentDisplayOnly (dstBitPerPixel : Nat) (moves dirtyRects : List Rect)
  | setPowerState (state : DevicePowerState) (first second : InitOutcomes)
  /-- `~GpuDevice` -/
  | remove

/-- The queue that the effect uses. -/
def Effect.queue? : Effect → Option QueueName
  | .ctrl .. => some .ctrl
  | .cursor .. => some .cursor
  | .getId _ | .putId .. | .delete .. | .reset | .setQueues _ => none

/-- The commands among the effects that `g'` has after `g`, each of which begins with `AddBuf`. -/
def commandTasks (g g' : Gpu) : List Task :=
  (g'.effects.drop g.effects.length).filterMap fun e => e.queue?.map fun q => .use ⟨q, .addBuf⟩

/-- `GpuDevice::SetPowerState` -/
def powerTask (state : DevicePowerState) (o : InitOutcomes) : Task :=
  match state with
  | .unspecified | .d0 => .gpuDeviceInit o
  | .d1 | .d2 | .d3 => .gpuDeviceClose

/-- What the callback does to the resources, and its steps. -/
def QueueCall.run (g : Gpu) : QueueCall → Option (Gpu × List Task)
  | .setCurrentMode modes mode a => do
    let (_, g') ← g.setCurrentMode modes mode a
    some (g', commandTasks g g')
  | .setPointerShape shape a => do
    let g' ← g.setPointerShape shape a
    some (g', commandTasks g g')
  | .setPointerPosition p => do
    let g' ← g.setPointerPosition p
    some (g', commandTasks g g')
  | .executePresentDisplayOnly bpp moves dirtyRects => do
    let g' ← g.executePresentDisplayOnly bpp moves dirtyRects
    some (g', commandTasks g g')
  | .setPowerState state first second => some (g, [powerTask state first, powerTask state second])
  | .remove => do
    let g' ← g.destroyCursor
    let g' ← g'.destroyFrameBuffer
    some (g', commandTasks g g' ++ [.gpuDeviceClose, .stop])

/-- The driver with its threads. `ctrlQueue` and `cursorQueue` are the `m_pVirtQueue` of the queue
objects, `todo` are the steps of the running callback, and `others` what the worker and the DPC
have yet to do on the queues. `misused` says that a queue was used whose `m_pVirtQueue` was `NULL`
or deleted. -/
structure QueueDriver where
  gpu : Gpu
  memory : QueueMemory
  ctrlQueue : Option Nat
  cursorQueue : Option Nat
  hardwareInit : Bool
  removed : Bool
  stopped : Bool
  todo : List Task
  others : List (List QueueUse)
  misused : Bool

inductive QueueEvent
  | call (c : QueueCall)
  /-- the next step of the running callback -/
  | main (ok : Bool)
  /-- the worker finds that the display has changed and asks for the display information -/
  | configChanged
  /-- `DpcRoutine` is called and finds these reasons, `ISR_REASON_DISPLAY` and `ISR_REASON_CURSOR`,
  one round after the other -/
  | dpc (rounds : List (Bool × Bool))
  /-- the next operation of the worker or of a DPC -/
  | other (i : Nat) (ok : Bool)

namespace QueueDriver

def virtQueue (s : QueueDriver) : QueueName → Option Nat
  | .ctrl => s.ctrlQueue
  | .cursor => s.cursorQueue

/-- `m_pVirtQueue` is the virtqueue of the latest `Init`, and its control block is not freed. -/
def Open (s : QueueDriver) (q : QueueName) : Prop :=
  ∃ n ∈ s.virtQueue q, .control n ∈ s.memory.allocated

instance (s : QueueDriver) (q : QueueName) : Decidable (s.Open q) :=
  inferInstanceAs (Decidable (∃ n ∈ s.virtQueue q, _))

/-- An operation on the virtqueue of a queue object. -/
def operate (s : QueueDriver) (q : QueueName) : QueueDriver :=
  { s with misused := s.misused || !decide (s.Open q) }

/-- The next step of the running callback, which `todo` no longer lists. -/
def perform (s : QueueDriver) (ok : Bool) : Task → Option QueueDriver
  | .use u => some ({ s with todo := (u.next ok).map Task.use ++ s.todo }.operate u.queue)
  | .gpuDeviceInit o =>
    some { s with
      memory := s.memory.deviceInitialize o.initialized
      todo := (if o.initialized && o.features then [.findQueues o] else []) ++ s.todo }
  | .findQueues o =>
    let r := s.memory.findQueues o.ctrl o.cursor
    some { s with memory := r.2, todo := (if r.1 then [.setCtrl] else []) ++ s.todo }
  | .setCtrl =>
    some { s with ctrlQueue := (s.memory.info ctrlIndex).vq, todo := .setCursor :: s.todo }
  | .setCursor =>
    some { s with cursorQueue := (s.memory.info cursorIndex).vq, todo := .ready :: s.todo }
  | .ready => some { s with hardwareInit := true }
  | .gpuDeviceClose => some { s with hardwareInit := false, todo := .deleteQueues :: s.todo }
  | .deleteQueues => do
    let memory ← s.memory.gpuDeviceClose
    some { s with memory, todo := .closeCtrl :: s.todo }
  | .closeCtrl => some { s with ctrlQueue := none, todo := .closeCursor :: s.todo }
  | .closeCursor => some { s with cursorQueue := none }
  | .stop => some { s with stopped := true }

/-- The loops of `DpcRoutine` in a round. -/
def dpcUses (reason : Bool × Bool) : List QueueUse :=
  (if reason.1 then [⟨.ctrl, .getBuf⟩] else []) ++
    (if reason.2 then [⟨.cursor, .getBuf⟩] else [])

def step (s : QueueDriver) (e : QueueEvent) : Option QueueDriver :=
  if s.misused then none
  else
    match e with
    | .call c =>
      if s.removed ∨ s.todo ≠ [] then none
      else do
        let (gpu, todo) ← c.run s.gpu
        some { s with gpu, todo, removed := match c with | .remove => true | _ => false }
    | .main ok =>
      match s.todo with
      | [] => none
      | t :: todo => { s with todo }.perform ok t
    | .configChanged =>
      if s.stopped then none else some { s with others := s.others ++ [[⟨.ctrl, .addBuf⟩]] }
    | .dpc rounds =>
      -- `IsHardwareInit` is looked at before the first round only
      if s.hardwareInit then some { s with others := s.others ++ [rounds.flatMap dpcUses] }
      else none
    | .other i ok =>
      match s.others[i]? with
      | some (u :: uses) =>
        some ({ s with others := s.others.set i (u.next ok ++ uses) }.operate u.queue)
      | _ => none

/-- The state after a successful `HWInit`. -/
def start (mode : CurrentBddMode) : QueueDriver where
  gpu := .start mode
  memory := .afterHwInit
  ctrlQueue := (QueueMemory.afterHwInit.info ctrlIndex).vq
  cursorQueue := (QueueMemory.afterHwInit.info cursorIndex).vq
  hardwareInit := true
  removed := false
  stopped := false
  todo := []
  others := []
  misused := false

def system (mode : CurrentBddMode) : System QueueDriver QueueEvent where
  init := start mode
  step := step

end QueueDriver

end VioGpu.Device
