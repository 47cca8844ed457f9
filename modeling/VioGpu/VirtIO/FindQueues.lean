import VioGpu.Lib.Ledger
import VioGpu.VirtIO.Ring

/-!
# Setting up the queues of a modern device

`virtio_find_queues` of `VirtIOPCICommon.c` with the functions of `VirtIOPCIModern.c` that it calls.
What the registers of the device, the allocations and the OS answer is an input. A ring and a
control block are numbered when they are allocated, and the ledger of the device says which of
them were allocated and freed. No state follows where the code leaves the memory it has. What
`virtqueue_shutdown` does to a ring right before it is freed is left out.
-/

namespace VioGpu.VirtIO

open Lib

/-- The statuses of the functions below that `NT_SUCCESS` does not take. -/
inductive QueueStatus
  | notFound
  | invalidParameter
  | insufficientResources
  | deviceBusy
  deriving DecidableEq, Repr

/-- The memory of a queue: the pages of its ring, or its control block. -/
inductive QueueBlock
  | ring (n : Nat)
  | control (n : Nat)
  deriving DecidableEq, Repr

/-- `VirtIOQueueInfo`. `vq` is the number of the control block that begins with the `virtqueue`, and
`queue` that of the ring. -/
structure VirtIOQueueInfo where
  vq : Option Nat
  num : Nat
  queue : Option Nat
  deriving DecidableEq, Repr

/-- `virtio_get_queue_descriptor_size` -/
def virtioGetQueueDescriptorSize : Nat := 24

/-- `VIRTIO_MSI_NO_VECTOR` -/
def virtioMsiNoVector : BitVec 16 := 0xffff

/-- `VirtIODevice`, with the ledger of its queues. `info` has room for `infoSize` entries; it is
`inline_info` where `table` is `none`. -/
structure VirtIODevice where
  notifyBase : Option Nat
  notifyOffsetMultiplier : Nat
  notifyLen : Nat
  maxQueues : Nat
  table : Option Nat
  infoSize : Nat
  info : Nat → VirtIOQueueInfo
  blocks : Nat
  ledger : List (Entry QueueBlock)

/-- What is answered while a queue is set up. `rings` are the outcomes of the attempts to allocate
its ring, `notifyMapped` is what `vio_modern_map_capability` returns, and `queueVector` what the
device says of the vector it was given. -/
structure QueueAnswers where
  numQueues : BitVec 16
  queueSize : BitVec 16
  queueNotifyOff : BitVec 16
  rings : Nat → Bool
  control : Bool
  notifyMapped : Option Nat
  msixVector : BitVec 16
  queueVector : BitVec 16

/-- What is answered during `virtio_find_queues`; `table` is the outcome of the allocation of a new
table. -/
structure FindAnswers where
  table : Bool
  msixVector : BitVec 16
  configVector : BitVec 16
  queue : Nat → QueueAnswers

/-! ## One queue -/

/-- `vio_modern_query_vq_alloc`, which puts the size into `info->num`. -/
def vioModernQueryVqAlloc (index : Nat) (a : QueueAnswers) : Except QueueStatus Nat :=
  if index ≥ a.numQueues.toNat then .error .notFound
  else if a.queueSize.toNat = 0 then .error .notFound
  else if a.queueSize.toNat &&& (a.queueSize.toNat - 1) ≠ 0 then .error .invalidParameter
  else .ok a.queueSize.toNat

/-- The loop that allocates the ring, scaling `info->num` down: the number of entries of the ring
that is allocated. -/
def allocRing (rings : Nat → Bool) (attempt num : Nat) : Option Nat :=
  if rings attempt then some num
  else if 0 < num then allocRing rings (attempt + 1) (num / 2)
  else none
termination_by num
decreasing_by omega

namespace VirtIODevice

def setInfo (vdev : VirtIODevice) (i : Nat) (entry : VirtIOQueueInfo) : VirtIODevice :=
  { vdev with info := fun j => if j = i then entry else vdev.info j }

/-- `mem_alloc_contiguous_pages` and `mem_alloc_nonpaged_block` -/
def alloc (vdev : VirtIODevice) (b : QueueBlock) : VirtIODevice :=
  { vdev with blocks := vdev.blocks + 1, ledger := vdev.ledger ++ [.acquire b] }

/-- `mem_free_contiguous_pages` and `mem_free_nonpaged_block` -/
def free (vdev : VirtIODevice) (b : QueueBlock) : VirtIODevice :=
  { vdev with ledger := vdev.ledger ++ [.release b] }

/-- `vq->priv` -/
def notifyAddress (vdev : VirtIODevice) (a : QueueAnswers) : Except QueueStatus Nat :=
  match vdev.notifyBase with
  | some base =>
    if a.queueNotifyOff.toNat * vdev.notifyOffsetMultiplier + 2 > vdev.notifyLen then
      .error .invalidParameter
    else .ok (base + u32 (a.queueNotifyOff.toNat * vdev.notifyOffsetMultiplier))
  | none =>
    match a.notifyMapped with
    | some address => .ok address
    | none => .error .insufficientResources

/-- `vio_modern_setup_vq` from the allocation of the control block on; the ring is `ring`, with
`num` entries. -/
def setupControl (vdev : VirtIODevice) (index ring num : Nat) (a : QueueAnswers) :
    Option (Except QueueStatus Nat × VirtIODevice) :=
  if a.control = false then some (.error .insufficientResources, vdev)
  else
    let vqAddr := vdev.blocks
    let vdev := vdev.alloc (.control vqAddr)
    let freed := (vdev.free (.control vqAddr)).free (.ring ring)
    let vq : Result (Option (Virtqueue Unit)) :=
      vringNewVirtqueue index true 0 (Vring.zeroed num fun _ => [])
    match vq with
    | .error _ => none
    | .ok none => some (.error .insufficientResources, freed)
    | .ok (some _) =>
      match vdev.notifyAddress a with
      | .error status => some (.error status, freed)
      | .ok _ =>
        if a.msixVector ≠ virtioMsiNoVector ∧ a.queueVector = virtioMsiNoVector then
          some (.error .deviceBusy, freed)
        else some (.ok vqAddr, vdev)

/-- `vio_modern_setup_vq` -/
def vioModernSetupVq (vdev : VirtIODevice) (index : Nat) (a : QueueAnswers) :
    Option (Except QueueStatus Nat × VirtIODevice) :=
  match vioModernQueryVqAlloc index a with
  | .error status => some (.error status, vdev)
  | .ok num =>
    -- the entry is outside of the memory of the table
    if vdev.infoSize ≤ index then none
    else
      match allocRing a.rings 0 num with
      | none => some (.error .insufficientResources,
          vdev.setInfo index ⟨(vdev.info index).vq, 0, none⟩)
      | some num =>
        let ring := vdev.blocks
        let vdev := (vdev.alloc (.ring ring)).setInfo index
          ⟨(vdev.info index).vq, num, some ring⟩
        vdev.setupControl index ring num a

/-- `vp_setup_vq` -/
def vpSetupVq (vdev : VirtIODevice) (index : Nat) (a : QueueAnswers) :
    Option (Except QueueStatus Nat × VirtIODevice) := do
  let (result, vdev) ← vdev.vioModernSetupVq index a
  match result with
  | .error status => some (.error status, vdev)
  | .ok vq => some (.ok vq, vdev.setInfo index { vdev.info index with vq := some vq })

/-! ## All queues -/

/-- `vio_modern_del_vq` -/
def vioModernDelVq (vdev : VirtIODevice) (entry : VirtIOQueueInfo) (vq : Nat) : VirtIODevice :=
  let vdev := vdev.free (.control vq)
  match entry.queue with
  | some ring => vdev.free (.ring ring)
  | none => vdev

/-- One turn of the loop of `virtio_delete_queues`. -/
def deleteQueue (vdev : VirtIODevice) (i : Nat) : Option VirtIODevice :=
  if vdev.infoSize ≤ i then none
  else
    match (vdev.info i).vq with
    | none => some vdev
    | some vq => some ((vdev.vioModernDelVq (vdev.info i) vq).setInfo i
        { vdev.info i with vq := none })

/-- `virtio_delete_queues` -/
def virtioDeleteQueues (vdev : VirtIODevice) : Option VirtIODevice :=
  (List.range vdev.maxQueues).foldlM deleteQueue vdev

/-- `virtio_reserve_queue_memory`; `false` for a failure. The size of a new table is a `ULONG`. -/
def virtioReserveQueueMemory (vdev : VirtIODevice) (nvqs : Nat) (allocated : Bool) :
    Bool × VirtIODevice :=
  if nvqs > vdev.maxQueues then
    if allocated then
      (true, { vdev with
        table := some (vdev.table.elim 0 (· + 1))
        infoSize := u32 (nvqs * virtioGetQueueDescriptorSize) / virtioGetQueueDescriptorSize
        info := fun _ => ⟨none, 0, none⟩
        maxQueues := nvqs })
    else (false, vdev)
  else (true, vdev)

/-- The loop of `virtio_find_queues` after `n` turns: `vqs`, up to the first failure. -/
def setupQueues (vdev : VirtIODevice) (queue : Nat → QueueAnswers) :
    Nat → Option (Except QueueStatus (List Nat) × VirtIODevice)
  | 0 => some (.ok [], vdev)
  | n + 1 => do
    let (result, vdev) ← setupQueues vdev queue n
    match result with
    | .error status => some (.error status, vdev)
    | .ok vqs => do
      let (result, vdev) ← vdev.vpSetupVq n (queue n)
      match result with
      | .error status => some (.error status, vdev)
      | .ok vq => some (.ok (vqs ++ [vq]), vdev)

/-- The label `error_find` of `virtio_find_queues`. -/
def errorFind (vdev : VirtIODevice) (status : QueueStatus) :
    Option (Except QueueStatus (List Nat) × VirtIODevice) :=
  (fun vdev => (.error status, vdev)) <$> vdev.virtioDeleteQueues

/-- `virtio_find_queues` -/
def virtioFindQueues (vdev : VirtIODevice) (nvqs : Nat) (a : FindAnswers) :
    Option (Except QueueStatus (List Nat) × VirtIODevice) :=
  let (reserved, vdev) := vdev.virtioReserveQueueMemory nvqs a.table
  if reserved = false then some (.error .insufficientResources, vdev)
  else if a.msixVector ≠ virtioMsiNoVector ∧ a.configVector = virtioMsiNoVector then
    vdev.errorFind .deviceBusy
  else do
    let (result, vdev) ← vdev.setupQueues a.queue nvqs
    match result with
    | .error status => vdev.errorFind status
    | .ok vqs => some (.ok vqs, vdev)

/-- `MAX_QUEUES_PER_DEVICE_DEFAULT` -/
def maxQueuesPerDeviceDefault : Nat := 8

/-- The queues after `virtio_device_initialize`, which zeroes the device, and
`vio_modern_initialize`. -/
def initialized (notifyBase : Option Nat) (notifyOffsetMultiplier notifyLen : Nat) :
    VirtIODevice where
  notifyBase := notifyBase
  notifyOffsetMultiplier := notifyOffsetMultiplier
  notifyLen := notifyLen
  maxQueues := maxQueuesPerDeviceDefault
  table := none
  infoSize := maxQueuesPerDeviceDefault
  info := fun _ => ⟨none, 0, none⟩
  blocks := 0
  ledger := []

end VirtIODevice

end VioGpu.VirtIO
