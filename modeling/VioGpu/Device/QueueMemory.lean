import Mathlib.Logic.Function.Basic
import VioGpu.Device.Gpu

/-!
# The memory of the queues

`vio_modern_setup_vq` allocates the pages of the ring and the control block of a queue, and
`virtio_delete_queues` frees what `m_VioDev.info` refers to. In between `VioGpuDod::SetPowerState`
lets the device be initialized anew, which begins with zeroing `m_VioDev`. Blocks are numbered in
the order of their allocation. There are no MSI-X vectors (`vdev_get_msix_vector`), and a legacy
device has no `VIRTIO_F_VERSION_1` and comes to no queue.
-/

namespace VioGpu.Device

open Lib

/-- A block of memory of a queue: the pages of a ring, or a control block. -/
inductive Block
  | ring (n : Nat)
  | control (n : Nat)
  deriving DecidableEq, Repr

/-- `VirtIOQueueInfo`: `queue` is the ring that the entry points to, `vq` the control block. -/
structure QueueInfo where
  queue : Option Nat
  vq : Option Nat
  deriving DecidableEq, Repr

/-- `MAX_QUEUES_PER_DEVICE_DEFAULT`, the length of `inline_info`. -/
def maxQueues : Nat := 8

/-- The index of the control queue. -/
def ctrlIndex : Fin maxQueues := ⟨0, by decide⟩

/-- The index of the cursor queue. -/
def cursorIndex : Fin maxQueues := ⟨1, by decide⟩

/-- `m_VioDev` with the memory of its queues: what is allocated and not freed, how many numbers have
been given, and whether something was freed that was not allocated. -/
structure QueueMemory where
  device : Bool
  info : Fin maxQueues → QueueInfo
  allocated : List Block
  count : Nat
  freedTwice : Bool

/-- How far `vio_modern_setup_vq` gets. -/
inductive SetupOutcome
  /-- `vio_modern_query_vq_alloc` fails -/
  | notQueried
  /-- no pages for the ring -/
  | noRing
  /-- no memory for the control block -/
  | noControl
  /-- `vring_new_virtqueue` or the notification address fails -/
  | notActivated
  | ready
  deriving DecidableEq, Repr

/-- The outcomes of the steps of `GpuDeviceInit`: `virtio_device_initialize` succeeds, the features
are accepted, and the two queues are set up. -/
structure InitOutcomes where
  initialized : Bool
  features : Bool
  ctrl : SetupOutcome
  cursor : SetupOutcome
  deriving DecidableEq, Repr

namespace QueueMemory

def setInfo (v : QueueMemory) (i : Fin maxQueues) (q : QueueInfo) : QueueMemory :=
  { v with info := Function.update v.info i q }

@[simp] theorem setInfo_self (v : QueueMemory) (i : Fin maxQueues) (q : QueueInfo) :
    (v.setInfo i q).info i = q := by
  simp only [setInfo, Function.update_self]

@[simp] theorem setInfo_of_ne (v : QueueMemory) {i j : Fin maxQueues} (q : QueueInfo)
    (hj : j ≠ i) : (v.setInfo i q).info j = v.info j := by
  simp only [setInfo, Function.update_of_ne hj]

/-- `mem_free_contiguous_pages` and `mem_free_nonpaged_block` -/
def free (v : QueueMemory) (b : Block) : QueueMemory :=
  if b ∈ v.allocated then { v with allocated := v.allocated.erase b }
  else { v with freedTwice := true }

@[simp] theorem free_info (v : QueueMemory) (b : Block) : (v.free b).info = v.info := by
  unfold free
  split <;> rfl

theorem free_setInfo (v : QueueMemory) (b : Block) (i : Fin maxQueues) (q : QueueInfo) :
    (v.free b).setInfo i q = (v.setInfo i q).free b := by
  unfold free setInfo
  by_cases hb : b ∈ v.allocated
  · rw [if_pos hb, if_pos hb]
  · rw [if_neg hb, if_neg hb]

/-- `mem_alloc_contiguous_pages` into `info[i].queue`. -/
def allocRing (v : QueueMemory) (i : Fin maxQueues) : QueueMemory :=
  { v with allocated := .ring v.count :: v.allocated, count := v.count + 1 }.setInfo i
    ⟨some v.count, (v.info i).vq⟩

@[simp] theorem allocRing_count (v : QueueMemory) (i : Fin maxQueues) :
    (v.allocRing i).count = v.count + 1 := rfl

theorem allocRing_self (v : QueueMemory) (i : Fin maxQueues) :
    (v.allocRing i).info i = ⟨some v.count, (v.info i).vq⟩ := by
  simp only [allocRing, setInfo_self]

theorem allocRing_of_ne (v : QueueMemory) {i j : Fin maxQueues} (hj : j ≠ i) :
    (v.allocRing i).info j = v.info j := by
  simp only [allocRing, setInfo_of_ne _ _ hj]

/-- `mem_alloc_nonpaged_block` -/
def allocControl (v : QueueMemory) : QueueMemory :=
  { v with allocated := .control v.count :: v.allocated, count := v.count + 1 }

@[simp] theorem allocControl_info (v : QueueMemory) : v.allocControl.info = v.info := rfl

/-- `vio_modern_setup_vq`, and `vp_setup_vq` for what it sets in `info[i]`. -/
def setupVq (v : QueueMemory) (i : Fin maxQueues) : SetupOutcome → Bool × QueueMemory
  | .notQueried => (false, v)
  | .noRing => (false, v.setInfo i ⟨none, (v.info i).vq⟩)
  | .noControl => (false, v.allocRing i)
  | .notActivated =>
    let w := (v.allocRing i).allocControl
    (false, (w.free (.control (v.count + 1))).free (.ring v.count))
  | .ready =>
    let w := (v.allocRing i).allocControl
    (true, w.setInfo i ⟨(w.info i).queue, some (v.count + 1)⟩)

/-- `vio_modern_del_vq` -/
def delVq (v : QueueMemory) (q : QueueInfo) (n : Nat) : QueueMemory :=
  let v := v.free (.control n)
  match q.queue with
  | none => v
  | some r => v.free (.ring r)

/-- One turn of the loop of `virtio_delete_queues`. -/
def deleteQueue (v : QueueMemory) (i : Fin maxQueues) : QueueMemory :=
  match (v.info i).vq with
  | none => v
  | some n => (v.delVq (v.info i) n).setInfo i ⟨(v.info i).queue, none⟩

/-- `virtio_delete_queues` -/
def deleteQueues (v : QueueMemory) : QueueMemory := (List.finRange maxQueues).foldl deleteQueue v

/-- `virtio_find_queues` for the control and the cursor queue. -/
def findQueues (v : QueueMemory) (ctrl cursor : SetupOutcome) : Bool × QueueMemory :=
  let (ok, v) := v.setupVq ctrlIndex ctrl
  if ok = false then (false, v.deleteQueues)
  else
    let (ok, v) := v.setupVq cursorIndex cursor
    if ok = false then (false, v.deleteQueues) else (true, v)

/-- `RtlZeroMemory` of `m_VioDev`. -/
def zero (v : QueueMemory) : QueueMemory :=
  { v with device := false, info := fun _ => ⟨none, none⟩ }

/-- `virtio_device_initialize` -/
def deviceInitialize (v : QueueMemory) (ok : Bool) : QueueMemory := { v.zero with device := ok }

/-- `GpuDeviceInit`, as far as the memory of the queues is concerned. -/
def gpuDeviceInit (v : QueueMemory) (o : InitOutcomes) : QueueMemory :=
  let v := v.deviceInitialize o.initialized
  if o.initialized = false then v
  else if o.features = false then v
  else (v.findQueues o.ctrl o.cursor).2

/-- `GpuDeviceClose`; `virtio_device_reset` goes through `vdev->device`. -/
def gpuDeviceClose (v : QueueMemory) : Option QueueMemory :=
  if v.device then some v.deleteQueues else none

/-- `GpuDevice::SetPowerState` -/
def gpuSetPowerState (v : QueueMemory) (state : DevicePowerState) (o : InitOutcomes) :
    Option QueueMemory :=
  match state with
  | .unspecified | .d0 => some (v.gpuDeviceInit o)
  | .d1 | .d2 | .d3 => v.gpuDeviceClose

/-- `VioGpuDod::SetPowerState` for the adapter, with the outcomes of the two calls of the device. -/
def setPowerState (v : QueueMemory) (state : DevicePowerState) (first second : InitOutcomes) :
    Option QueueMemory := do
  let v ← v.gpuSetPowerState state first
  v.gpuSetPowerState state second

/-- The state before `HWInit`. -/
def new : QueueMemory where
  device := false
  info := fun _ => ⟨none, none⟩
  allocated := []
  count := 0
  freedTwice := false

/-- The state after a successful `HWInit`, which initializes the device once. -/
def afterHwInit : QueueMemory := new.gpuDeviceInit ⟨true, true, .ready, .ready⟩

end QueueMemory

/-- A power callback with the outcomes of its steps, or the removal of the device. -/
inductive PowerEvent
  | setPowerState (state : DevicePowerState) (first second : InitOutcomes)
  | remove
  deriving DecidableEq, Repr

/-- The device, until it is removed. -/
structure PoweredDevice where
  memory : QueueMemory
  removed : Bool

/-- The callbacks after `HWInit`. -/
def PoweredDevice.system : System PoweredDevice PowerEvent where
  init := ⟨.afterHwInit, false⟩
  step s
    | .setPowerState state first second =>
      if s.removed then none else (⟨·, false⟩) <$> s.memory.setPowerState state first second
    | .remove => if s.removed then none else (⟨·, true⟩) <$> s.memory.gpuDeviceClose

end VioGpu.Device
