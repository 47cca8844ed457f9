import VioGpu.Transport.Registers

/-!
# Setting up and tearing down a device

The functions of `VirtIOPCICommon.c` with the two sets of operations they dispatch to, for the
queues and for the life of the device, and above them what `GpuDevice` does with the transport in
`HWInit`, `GpuDeviceInit` and `GpuDeviceClose`. What the registers, the allocations and the system
answer comes from outside; the device structure is passed along.
-/

namespace VioGpu.Transport

open Lib VirtIO

/-! ## The device structure -/

/-- What the transport uses of a `virtqueue`: where its control block is, its index and its ring. -/
structure Virtq where
  address : BitVec 64
  index : BitVec 32
  vring : VringParts
  deriving DecidableEq, Repr

/-- `VirtIOQueueInfo` -/
structure VirtIOQueueInfo where
  vq : Option Virtq
  num : BitVec 16
  queue : BitVec 64
  deriving DecidableEq, Repr

/-- An entry of zeros. -/
def VirtIOQueueInfo.zero : VirtIOQueueInfo := ⟨none, 0, 0⟩

/-- Which `virtio_pci_device_ops` the member `device` points to. -/
inductive DeviceOps
  | modern
  | legacy
  deriving DecidableEq, Repr

/-- What the member `info` points to. -/
inductive InfoTable
  | inlineInfo
  | block (addr : BitVec 64)
  | null
  deriving DecidableEq, Repr

/-- `VirtIODevice`. The table `info` has room for `infoSize` entries. -/
structure VirtIODevice where
  device : Option DeviceOps
  addr : BitVec 64
  msixUsed : Bool
  notify : NotifyArea
  maxQueues : Nat
  infoTable : InfoTable
  infoSize : Nat
  info : Nat → VirtIOQueueInfo

namespace VirtIODevice

/-- The device structure after the first lines of `virtio_device_initialize`. -/
def zeroed (msixUsed : Bool) : VirtIODevice where
  device := none
  addr := 0
  msixUsed := msixUsed
  notify := ⟨0, 0, 0⟩
  maxQueues := VirtIO.VirtIODevice.maxQueuesPerDeviceDefault
  infoTable := .inlineInfo
  infoSize := VirtIO.VirtIODevice.maxQueuesPerDeviceDefault
  info := fun _ => .zero

def setInfo (vdev : VirtIODevice) (i : Nat) (entry : VirtIOQueueInfo) : VirtIODevice :=
  { vdev with info := fun j => if j = i then entry else vdev.info j }

/-! ## Operations of the device -/

/-- `virtio_get_status` -/
def virtioGetStatus (vdev : VirtIODevice) : TransportProgram (BitVec 8) :=
  match vdev.device with
  | none => .fault
  | some .modern => vioModernGetStatus
  | some .legacy => vioLegacyGetStatus

/-- `virtio_set_status` -/
def virtioSetStatus (vdev : VirtIODevice) (status : BitVec 8) : TransportProgram Unit :=
  match vdev.device with
  | none => .fault
  | some .modern => vioModernSetStatus status
  | some .legacy => vioLegacySetStatus status

/-- `virtio_add_status` -/
def virtioAddStatus (vdev : VirtIODevice) (status : BitVec 8) : TransportProgram Unit := do
  let old ← vdev.virtioGetStatus
  vdev.virtioSetStatus (old ||| status)

/-- `virtio_device_ready` -/
def virtioDeviceReady (vdev : VirtIODevice) : TransportProgram Unit :=
  vdev.virtioAddStatus virtioConfigSDriverOk

/-- `virtio_device_reset` -/
def virtioDeviceReset (vdev : VirtIODevice) (fuel : Nat) : TransportProgram Unit :=
  match vdev.device with
  | none => .fault
  | some .modern => vioModernReset fuel
  | some .legacy => vioLegacyReset

/-- `virtio_get_features` -/
def virtioGetFeatures (vdev : VirtIODevice) : TransportProgram (BitVec 64) :=
  match vdev.device with
  | none => .fault
  | some .modern => vioModernGetFeatures
  | some .legacy => vioLegacyGetFeatures

/-- `virtio_set_features` -/
def virtioSetFeatures (vdev : VirtIODevice) (features : BitVec 64) :
    TransportProgram (Except TransportStatus Unit) := do
  let result ← match vdev.device with
    | none => .fault
    | some .modern => vioModernSetFeatures features
    | some .legacy => vioLegacySetFeatures features
  match result with
  | .error status => return .error status
  | .ok () =>
    if Device.virtioIsFeatureEnabled features Device.virtioFVersion1 = false then return .ok ()
    else do
      vdev.virtioAddStatus virtioConfigSFeaturesOk
      let devStatus ← vdev.virtioGetStatus
      if devStatus &&& virtioConfigSFeaturesOk = 0 then return .error .invalidParameter
      else return .ok ()

/-- `virtio_set_config_vector` -/
def virtioSetConfigVector (vdev : VirtIODevice) (vector : BitVec 16) :
    TransportProgram (BitVec 16) :=
  match vdev.device with
  | none => .fault
  | some .modern => vioModernSetConfigVector vector
  | some .legacy => vioLegacySetConfigVector vector

/-- `virtio_set_queue_vector` -/
def virtioSetQueueVector (vdev : VirtIODevice) (vq : Virtq) (vector : BitVec 16) :
    TransportProgram (BitVec 16) :=
  match vdev.device with
  | none => .fault
  | some .modern => vioModernSetQueueVector vq.index vector
  | some .legacy => vioLegacySetQueueVector vq.index vector

/-- `virtio_query_queue_allocation` -/
def virtioQueryQueueAllocation (vdev : VirtIODevice) (index : BitVec 32) :
    TransportProgram (Except TransportStatus QueueAllocation) :=
  match vdev.device with
  | none => .fault
  | some .modern => vioModernQueryVqAlloc index
  | some .legacy => vioLegacyQueryVqAlloc index

/-! ## Rings -/

/-- `initialize_virtqueue`; without entries its loop does not stop. -/
def initializeVirtqueue (control : BitVec 64) (vring : VringParts) : TransportProgram Unit :=
  if vring.num = 0 then .fault else .call (.initializeVirtqueue control vring) .done

/-- `vring_new_virtqueue` -/
def vringNewVirtqueue (index num align : BitVec 32) (pages control : BitVec 64) :
    TransportProgram (Option Virtq) :=
  if num &&& (num - 1) ≠ 0 then return none
  else if control = 0 then return none
  else do
    initializeVirtqueue control (vringInit num pages align)
    return some ⟨control, index, vringInit num pages align⟩

/-- `virtqueue_shutdown` -/
def virtqueueShutdown (vdev : VirtIODevice) (vq : Virtq) : TransportProgram Unit :=
  let vringAlign := if vdev.addr ≠ 0 then 4096#32 else smpCacheBytes
  .call (.zeroMemory vq.vring.desc (vringSize vq.vring.num vringAlign)) fun () =>
    initializeVirtqueue vq.address (vringInit vq.vring.num vq.vring.desc vringAlign)

/-- `mem_free_nonpaged_block` and `mem_free_contiguous_pages` -/
def freeQueue (control queue : BitVec 64) : TransportProgram Unit :=
  .call (.freeNonpagedBlock control) fun () => .call (.freeContiguousPages queue) .done

/-- The loop of `vio_modern_setup_vq` that allocates the ring: `info->num` and `info->queue`. -/
def allocRing (num : BitVec 16) : TransportProgram (BitVec 16 × BitVec 64) :=
  .call (.allocContiguousPages (vringPciSize num)) fun queue =>
    if queue ≠ 0 then return (num, queue)
    else if h : 0 < num.toNat then allocRing (num / 2)
    else return (num, 0)
termination_by num.toNat
decreasing_by
  have hhalf : (num / 2).toNat = num.toNat / 2 := BitVec.toNat_udiv
  omega

/-- The address for the notifications of a queue, `vq->priv`. -/
def notifyAddress (vdev : VirtIODevice) (off : BitVec 16) :
    TransportProgram (Except TransportStatus (BitVec 64)) :=
  let offset := off.setWidth 32 * vdev.notify.notifyOffsetMultiplier
  if vdev.notify.notifyBase ≠ 0 then
    if off.toNat * vdev.notify.notifyOffsetMultiplier.toNat + 2 > vdev.notify.notifyLen then
      return .error .invalidParameter
    else return .ok (vdev.notify.notifyBase + offset.setWidth 64)
  else
    .call (.mapNotify offset) fun priv => return .ok priv

/-- `vio_modern_setup_vq` from the activation of the queue on, with the labels for its errors. -/
def activateQueue (vdev : VirtIODevice) (vq : Virtq) (queue : BitVec 64) (off msixVec : BitVec 16) :
    TransportProgram (Except TransportStatus Virtq) := do
  iowrite (vq.vring.num.setWidth 16) .queueSize
  .call (.getPhysicalAddress vq.vring.desc) fun pa =>
    iowrite64Twopart pa .queueDescLo .queueDescHi
  .call (.getPhysicalAddress vq.vring.avail) fun pa =>
    iowrite64Twopart pa .queueAvailLo .queueAvailHi
  .call (.getPhysicalAddress vq.vring.used) fun pa =>
    iowrite64Twopart pa .queueUsedLo .queueUsedHi
  let fail (status : TransportStatus) : TransportProgram (Except TransportStatus Virtq) := do
    vdev.virtqueueShutdown vq
    freeQueue vq.address queue
    return .error status
  match ← vdev.notifyAddress off with
  | .error status => fail status
  | .ok priv =>
    if priv = 0 then fail .insufficientResources
    else do
      let vector ← if msixVec ≠ virtioMsiNoVector then vdev.virtioSetQueueVector vq msixVec
        else pure 0
      if msixVec ≠ virtioMsiNoVector ∧ vector = virtioMsiNoVector then fail .deviceBusy
      else do
        iowrite 1 .queueEnable
        return .ok vq

/-- `vio_modern_setup_vq` -/
def vioModernSetupVq (vdev : VirtIODevice) (index : Nat) (msixVec : BitVec 16) :
    TransportProgram (Except TransportStatus Virtq × VirtIODevice) := do
  match ← vioModernQueryVqAlloc (BitVec.ofNat 32 index) with
  | .error status => return (.error status, vdev)
  | .ok a =>
    let off ← ioread .queueNotifyOff
    let (num, queue) ← allocRing a.numEntries
    let vdev := vdev.setInfo index ⟨(vdev.info index).vq, num, queue⟩
    if queue = 0 then return (.error .insufficientResources, vdev)
    else
      .call (.allocNonpagedBlock (a.heapSize.setWidth 64)) fun vqAddr =>
        if vqAddr = 0 then return (.error .insufficientResources, vdev)
        else do
          match ← vringNewVirtqueue (BitVec.ofNat 32 index) (num.setWidth 32) smpCacheBytes queue
              vqAddr with
          | none =>
            freeQueue vqAddr queue
            return (.error .insufficientResources, vdev)
          | some vq =>
            let result ← vdev.activateQueue vq queue off msixVec
            return (result, vdev)

/-- `vio_legacy_setup_vq` -/
def vioLegacySetupVq (vdev : VirtIODevice) (index : Nat) (msixVec : BitVec 16) :
    TransportProgram (Except TransportStatus Virtq × VirtIODevice) := do
  match ← vioLegacyQueryVqAlloc (BitVec.ofNat 32 index) with
  | .error status => return (.error status, vdev)
  | .ok a =>
    .call (.allocContiguousPages a.ringSize) fun queue =>
      let vdev := vdev.setInfo index ⟨(vdev.info index).vq, a.numEntries, queue⟩
      if queue = 0 then return (.error .insufficientResources, vdev)
      else
        .call (.getPhysicalAddress queue) fun pa => do
          iowrite ((pa >>> 12).setWidth 32) .pciQueuePfn
          let fail (status : TransportStatus) :
              TransportProgram (Except TransportStatus Virtq × VirtIODevice) := do
            iowrite 0 .pciQueuePfn
            .call (.freeContiguousPages queue) .done
            return (.error status, vdev)
          match ← vringNewVirtqueue (BitVec.ofNat 32 index) (a.numEntries.setWidth 32)
              virtioPciVringAlign queue (legacyControl a.numEntries queue) with
          | none => fail .insufficientResources
          | some vq => do
            let vector ← if msixVec ≠ virtioMsiNoVector then vdev.virtioSetQueueVector vq msixVec
              else pure 0
            if msixVec ≠ virtioMsiNoVector ∧ vector = virtioMsiNoVector then fail .deviceBusy
            else return (.ok vq, vdev)

/-- `vio_modern_del_vq` -/
def vioModernDelVq (vdev : VirtIODevice) (entry : VirtIOQueueInfo) (vq : Virtq) :
    TransportProgram Unit := do
  iowrite (vq.index.setWidth 16) .queueSelect
  if vdev.msixUsed then do
    iowrite virtioMsiNoVector .queueMsixVector
    let _ ← ioread .queueMsixVector
  vdev.virtqueueShutdown vq
  freeQueue vq.address entry.queue

/-- `vio_legacy_del_vq` -/
def vioLegacyDelVq (vdev : VirtIODevice) (entry : VirtIOQueueInfo) (vq : Virtq) :
    TransportProgram Unit := do
  iowrite (vq.index.setWidth 16) .pciQueueSel
  if vdev.msixUsed then do
    iowrite virtioMsiNoVector .msiQueueVector
    let _ ← ioread .pciIsr
  iowrite 0 .pciQueuePfn
  .call (.freeContiguousPages entry.queue) .done

/-! ## All queues -/

/-- `vp_setup_vq` -/
def vpSetupVq (vdev : VirtIODevice) (index : Nat) (msixVec : BitVec 16) :
    TransportProgram (Except TransportStatus Virtq × VirtIODevice) := do
  if vdev.infoSize ≤ index then .fault
  else do
    let (result, vdev) ← match vdev.device with
      | none => .fault
      | some .modern => vdev.vioModernSetupVq index msixVec
      | some .legacy => vdev.vioLegacySetupVq index msixVec
    match result with
    | .error status => return (.error status, vdev)
    | .ok vq => return (.ok vq, vdev.setInfo index { vdev.info index with vq := some vq })

/-- One turn of the loop of `virtio_delete_queues`. -/
def deleteQueue (vdev : VirtIODevice) (i : Nat) : TransportProgram VirtIODevice :=
  if vdev.infoSize ≤ i then .fault
  else
    match (vdev.info i).vq with
    | none => return vdev
    | some vq => do
      match vdev.device with
      | none => .fault
      | some .modern => vdev.vioModernDelVq (vdev.info i) vq
      | some .legacy => vdev.vioLegacyDelVq (vdev.info i) vq
      return vdev.setInfo i { vdev.info i with vq := none }

/-- `virtio_delete_queues` -/
def virtioDeleteQueues (vdev : VirtIODevice) : TransportProgram VirtIODevice :=
  if vdev.infoTable = .null then return vdev
  else (List.range vdev.maxQueues).foldlM deleteQueue vdev

/-- `virtio_reserve_queue_memory`. The size of a new table is a `ULONG`. -/
def virtioReserveQueueMemory (vdev : VirtIODevice) (nvqs : Nat) :
    TransportProgram (Except TransportStatus Unit × VirtIODevice) :=
  if nvqs > vdev.maxQueues then
    let size := u32 (nvqs * virtioGetQueueDescriptorSize)
    .call (.allocNonpagedBlock (BitVec.ofNat 64 size)) fun newInfo =>
      if newInfo = 0 then return (.error .insufficientResources, vdev)
      else do
        match vdev.infoTable with
        | .block addr => .call (.freeNonpagedBlock addr) .done
        | .inlineInfo | .null => pure ()
        return (.ok (), { vdev with
          infoTable := .block newInfo
          infoSize := size / virtioGetQueueDescriptorSize
          info := fun _ => .zero
          maxQueues := nvqs })
  else return (.ok (), vdev)

/-- The loop of `virtio_find_queues` for `n` queues from `i` on: `vqs`, up to the first failure. -/
def setupQueues (vdev : VirtIODevice) (i : Nat) :
    Nat → TransportProgram (Except TransportStatus (List Virtq) × VirtIODevice)
  | 0 => return (.ok [], vdev)
  | n + 1 =>
    .call (.getMsixVector (some i)) fun msixVec => do
      let (result, vdev) ← vdev.vpSetupVq i msixVec
      match result with
      | .error status => return (.error status, vdev)
      | .ok vq => do
        let (result, vdev) ← vdev.setupQueues (i + 1) n
        return (result.map (vq :: ·), vdev)

/-- The label `error_find` of `virtio_find_queues`. -/
def errorFind (vdev : VirtIODevice) (status : TransportStatus) :
    TransportProgram (Except TransportStatus (List Virtq) × VirtIODevice) := do
  let vdev ← vdev.virtioDeleteQueues
  return (.error status, vdev)

/-- The loop of `virtio_find_queues` with what follows it. -/
def setupOrUndo (vdev : VirtIODevice) (nvqs : Nat) :
    TransportProgram (Except TransportStatus (List Virtq) × VirtIODevice) := do
  let (result, vdev) ← vdev.setupQueues 0 nvqs
  match result with
  | .error status => vdev.errorFind status
  | .ok vqs => return (.ok vqs, vdev)

/-- `virtio_find_queues` -/
def virtioFindQueues (vdev : VirtIODevice) (nvqs : Nat) :
    TransportProgram (Except TransportStatus (List Virtq) × VirtIODevice) := do
  let (reserved, vdev) ← vdev.virtioReserveQueueMemory nvqs
  match reserved with
  | .error status => return (.error status, vdev)
  | .ok () =>
    .call (.getMsixVector none) fun msixVec => do
      let vector ← if msixVec ≠ virtioMsiNoVector then vdev.virtioSetConfigVector msixVec
        else pure 0
      if msixVec ≠ virtioMsiNoVector ∧ vector = virtioMsiNoVector then
        vdev.errorFind .deviceBusy
      else
        vdev.setupOrUndo nvqs

/-! ## The life of the device -/

/-- `vio_legacy_initialize` -/
def vioLegacyInitialize (vdev : VirtIODevice) :
    TransportProgram (Except TransportStatus Unit × VirtIODevice) :=
  .call .mapPorts fun addr =>
    if addr = 0 then return (.error .insufficientResources, { vdev with addr := addr })
    else return (.ok (), { vdev with addr := addr, device := some .legacy })

/-- The first part of `virtio_device_initialize`: the modern operations or else the legacy ones. -/
def findOperations (msixUsed : Bool) :
    TransportProgram (Except TransportStatus Unit × VirtIODevice) :=
  .call .modernInitialize fun
  | .ok notify =>
    return (.ok (), { zeroed msixUsed with notify := notify, device := some .modern })
  | .error .deviceNotConnected => vioLegacyInitialize (zeroed msixUsed)
  | .error status => return (.error status, zeroed msixUsed)

/-- `virtio_device_initialize`; the reset is cut off after `fuel` turns. -/
def virtioDeviceInitialize (msixUsed : Bool) (fuel : Nat) :
    TransportProgram (Except TransportStatus Unit × VirtIODevice) := do
  let (status, vdev) ← findOperations msixUsed
  match status with
  | .error status => return (.error status, vdev)
  | .ok () => do
    vdev.virtioDeviceReset fuel
    vdev.virtioAddStatus virtioConfigSAcknowledge
    vdev.virtioAddStatus virtioConfigSDriver
    return (.ok (), vdev)

/-- `virtio_device_shutdown` -/
def virtioDeviceShutdown (vdev : VirtIODevice) : TransportProgram VirtIODevice :=
  match vdev.infoTable with
  | .block addr =>
    .call (.freeNonpagedBlock addr) fun () => return { vdev with infoTable := .null, infoSize := 0 }
  | .inlineInfo | .null => return vdev

end VirtIODevice

/-! ## `GpuDevice` -/

/-- The members of `GpuDevice` for the transport: `m_VioDev`, `m_u64HostFeatures` and
`m_u64GuestFeatures`. -/
structure GpuTransport where
  vioDev : VirtIODevice
  hostFeatures : BitVec 64
  guestFeatures : BitVec 64

namespace GpuTransport

/-- `AckFeature` -/
def ackFeature (g : GpuTransport) (feature : Nat) : Bool × GpuTransport :=
  if Device.virtioIsFeatureEnabled g.hostFeatures feature then
    (true, { g with guestFeatures := Device.virtioFeatureEnable g.guestFeatures feature })
  else (false, g)

/-- What `HWInit` and `GpuDeviceInit` share once the device is initialized: from
`virtio_get_features` to `virtio_find_queues`. The queue objects take the two queues, which are
not `NULL`. -/
def negotiate (g : GpuTransport) : TransportProgram (Except TransportStatus Unit × GpuTransport) :=
  do
    let hostFeatures ← g.vioDev.virtioGetFeatures
    let (acked, g) := { g with hostFeatures := hostFeatures }.ackFeature Device.virtioFVersion1
    if acked = false then return (.error .unsuccessful, g)
    else do
      match ← g.vioDev.virtioSetFeatures g.guestFeatures with
      | .error status => return (.error status, g)
      | .ok () => do
        let (result, vioDev) ← g.vioDev.virtioFindQueues 2
        return (result.map fun _ => (), { g with vioDev := vioDev })

/-- The two reads of the configuration: `num_scanouts` and `num_capsets`. -/
def readConfig : TransportProgram Unit :=
  .call (.getConfig 8) fun _ => .call (.getConfig 12) fun _ => return ()

/-- The end of both: the device is ready, or has failed. -/
def finish (g : GpuTransport) (status : Except TransportStatus Unit) :
    TransportProgram (Except TransportStatus Unit × GpuTransport) := do
  match status with
  | .ok () => g.vioDev.virtioDeviceReady
  | .error _ => g.vioDev.virtioAddStatus virtioConfigSFailed
  return (status, g)

/-- `GpuDeviceInit` -/
def gpuDeviceInit (g : GpuTransport) (fuel : Nat) :
    TransportProgram (Except TransportStatus Unit × GpuTransport) := do
  let (status, vioDev) ← VirtIODevice.virtioDeviceInitialize false fuel
  let g := { g with vioDev := vioDev }
  match status with
  | .error status => return (.error status, g)
  | .ok () => do
    let (status, g) ← g.negotiate
    match status with
    | .error _ => g.finish status
    | .ok () => do
      readConfig
      g.finish (.ok ())

/-- `QueryAllocation` -/
def queryAllocation (g : GpuTransport) (index : BitVec 32) : TransportProgram Nat := do
  match ← g.vioDev.virtioQueryQueueAllocation index with
  | .error _ => return 0
  | .ok a => return a.numEntries.toNat

/-- `HWInit` until the device is ready or has failed; `pciResources` is the result of
`m_PciResources.Init`. -/
def hwInit (g : GpuTransport) (pciResources : Bool) (fuel : Nat) :
    TransportProgram (Except TransportStatus Unit × GpuTransport) :=
  if pciResources = false then g.finish (.error .insufficientResources)
  else do
    let (status, vioDev) ← VirtIODevice.virtioDeviceInitialize false fuel
    let g := { g with vioDev := vioDev }
    match status with
    | .error status => g.finish (.error status)
    | .ok () => do
      let (status, g) ← g.negotiate
      match status with
      | .error _ => g.finish status
      | .ok () => do
        let ctrl ← g.queryAllocation 0
        let cursor ← g.queryAllocation 1
        .call (.gpuBufInit (ctrl + cursor)) fun
          | false => g.finish (.error .insufficientResources)
          | true => .call .idrInit fun
            | false => g.finish (.error .insufficientResources)
            | true => do
              readConfig
              g.finish (.ok ())

/-- `GpuDeviceClose` -/
def gpuDeviceClose (g : GpuTransport) (fuel : Nat) : TransportProgram GpuTransport := do
  g.vioDev.virtioDeviceReset fuel
  let vioDev ← g.vioDev.virtioDeleteQueues
  let vioDev ← vioDev.virtioDeviceShutdown
  return { g with vioDev := vioDev }

end GpuTransport

end VioGpu.Transport
