import VioGpu.Device.Features
import VioGpu.Lib.Program
import VioGpu.VirtIO.RingLayout

/-!
# The registers of the transport

A virtio device on the PCI bus is driven through registers: those of the common configuration
structure (`VirtIOPCIModern.c`), or the I/O ports of a legacy device (`VirtIOPCILegacy.c`). Some of
them are windows: what `device_feature` shows depends on `device_feature_select`, and the registers
of a queue are those of the queue in `queue_select`.

The functions of the two files that only access registers are programs here. A program makes the
accesses and the calls of the system callbacks one by one, and is told what they answer.
-/

namespace VioGpu.Transport

open Lib VirtIO

/-! ## Accesses -/

/-- The registers, with their widths: those of `virtio_pci_common_cfg`, then the ports. -/
inductive Register : Nat → Type
  | deviceFeatureSelect : Register 32
  | deviceFeature : Register 32
  | guestFeatureSelect : Register 32
  | guestFeature : Register 32
  | msixConfig : Register 16
  | numQueues : Register 16
  | deviceStatus : Register 8
  | queueSelect : Register 16
  | queueSize : Register 16
  | queueMsixVector : Register 16
  | queueEnable : Register 16
  | queueNotifyOff : Register 16
  | queueDescLo : Register 32
  | queueDescHi : Register 32
  | queueAvailLo : Register 32
  | queueAvailHi : Register 32
  | queueUsedLo : Register 32
  | queueUsedHi : Register 32
  | pciHostFeatures : Register 32
  | pciGuestFeatures : Register 32
  | pciQueuePfn : Register 32
  | pciQueueNum : Register 16
  | pciQueueSel : Register 16
  | pciStatus : Register 8
  | pciIsr : Register 8
  | msiConfigVector : Register 16
  | msiQueueVector : Register 16

/-- The statuses that `NT_SUCCESS` does not take. -/
inductive TransportStatus
  | notFound
  | invalidParameter
  | insufficientResources
  | deviceBusy
  | deviceNotConnected
  | unsuccessful
  deriving DecidableEq, Repr

/-- What `vio_modern_initialize` leaves for the notifications of the queues. -/
structure NotifyArea where
  notifyBase : BitVec 64
  notifyOffsetMultiplier : BitVec 32
  notifyLen : Nat
  deriving DecidableEq, Repr

/-- The accesses and the calls. Pointers are addresses, and `NULL` is zero. `zeroMemory` and
`initializeVirtqueue` are what `virtqueue_shutdown` and `vring_new_virtqueue` do to memory. -/
inductive TransportCall
  | modernInitialize
  | mapPorts
  | read {w : Nat} (r : Register w)
  | write {w : Nat} (r : Register w) (v : BitVec w)
  | sleep
  | allocContiguousPages (size : BitVec 64)
  | freeContiguousPages (virt : BitVec 64)
  | getPhysicalAddress (virt : BitVec 64)
  | allocNonpagedBlock (size : BitVec 64)
  | freeNonpagedBlock (addr : BitVec 64)
  | getMsixVector (queue : Option Nat)
  | mapNotify (offset : BitVec 32)
  | zeroMemory (addr : BitVec 64) (size : BitVec 32)
  | initializeVirtqueue (control : BitVec 64) (vring : VringParts)
  | getConfig (offset : BitVec 32)
  | gpuBufInit (size : Nat)
  | idrInit

/-- The answer to a call. `modernInitialize` is answered as `vio_modern_initialize` returns. -/
@[reducible] def TransportCall.Ans : TransportCall → Type
  | .modernInitialize => Except TransportStatus NotifyArea
  | .mapPorts => BitVec 64
  | @TransportCall.read w _ => BitVec w
  | .write _ _ | .sleep => Unit
  | .allocContiguousPages _ | .getPhysicalAddress _ | .allocNonpagedBlock _ => BitVec 64
  | .freeContiguousPages _ | .freeNonpagedBlock _ => Unit
  | .getMsixVector _ => BitVec 16
  | .mapNotify _ => BitVec 64
  | .zeroMemory _ _ | .initializeVirtqueue _ _ => Unit
  | .getConfig _ => BitVec 32
  | .gpuBufInit _ | .idrInit => Bool

abbrev TransportProgram := Program TransportCall TransportCall.Ans

/-- `ioread8`, `ioread16` and `ioread32` -/
def ioread {w : Nat} (r : Register w) : TransportProgram (BitVec w) := .call (.read r) .done

/-- `iowrite8`, `iowrite16` and `iowrite32` -/
def iowrite {w : Nat} (v : BitVec w) (r : Register w) : TransportProgram Unit :=
  .call (.write r v) .done

/-- `vdev_sleep` -/
def vdevSleep : TransportProgram Unit := .call .sleep .done

/-- `iowrite64_twopart` -/
def iowrite64Twopart (v : BitVec 64) (lo hi : Register 32) : TransportProgram Unit := do
  iowrite (v.setWidth 32) lo
  iowrite ((v >>> 32).setWidth 32) hi

/-! ## Status bits -/

/-- `VIRTIO_CONFIG_S_ACKNOWLEDGE` -/
def virtioConfigSAcknowledge : BitVec 8 := 1

/-- `VIRTIO_CONFIG_S_DRIVER` -/
def virtioConfigSDriver : BitVec 8 := 2

/-- `VIRTIO_CONFIG_S_DRIVER_OK` -/
def virtioConfigSDriverOk : BitVec 8 := 4

/-- `VIRTIO_CONFIG_S_FEATURES_OK` -/
def virtioConfigSFeaturesOk : BitVec 8 := 8

/-- `VIRTIO_CONFIG_S_FAILED` -/
def virtioConfigSFailed : BitVec 8 := 0x80

/-! ## Feature words -/

/-- `VIRTIO_RING_F_INDIRECT_DESC` -/
def virtioRingFIndirectDesc : Nat := 28

/-- `VIRTIO_RING_F_EVENT_IDX` -/
def virtioRingFEventIdx : Nat := 29

/-- `virtio_feature_disable` -/
def virtioFeatureDisable (featuresList : BitVec 64) (feature : Nat) : BitVec 64 :=
  featuresList &&& ~~~(1#64 <<< feature)

/-- `vring_transport_features`: the loop from `VIRTIO_TRANSPORT_F_START` to
`VIRTIO_TRANSPORT_F_END`. -/
def vringTransportFeatures (features : BitVec 64) : BitVec 64 :=
  (List.range' 28 4).foldl (fun features i =>
    if i = virtioRingFIndirectDesc ∨ i = virtioRingFEventIdx ∨ i = Device.virtioFVersion1 then
      features
    else virtioFeatureDisable features i) features

/-! ## The modern device -/

/-- `vio_modern_get_status` -/
def vioModernGetStatus : TransportProgram (BitVec 8) := ioread .deviceStatus

/-- `vio_modern_set_status` -/
def vioModernSetStatus (status : BitVec 8) : TransportProgram Unit := iowrite status .deviceStatus

/-- The loop of `vio_modern_reset`, cut off after `fuel` turns. -/
def resetLoop : Nat → TransportProgram Unit
  | 0 => .unfinished
  | fuel + 1 => do
    let status ← ioread .deviceStatus
    if status = 0 then return ()
    else do
      vdevSleep
      resetLoop fuel

/-- `vio_modern_reset` -/
def vioModernReset (fuel : Nat) : TransportProgram Unit := do
  iowrite 0 .deviceStatus
  resetLoop fuel

/-- `vio_modern_get_features` -/
def vioModernGetFeatures : TransportProgram (BitVec 64) := do
  iowrite 0 .deviceFeatureSelect
  let low ← ioread .deviceFeature
  iowrite 1 .deviceFeatureSelect
  let high ← ioread .deviceFeature
  return low.setWidth 64 ||| high.setWidth 64 <<< 32

/-- `vio_modern_set_features` -/
def vioModernSetFeatures (features : BitVec 64) : TransportProgram (Except TransportStatus Unit) :=
  let features := vringTransportFeatures features
  if Device.virtioIsFeatureEnabled features Device.virtioFVersion1 = false then
    return .error .invalidParameter
  else do
    iowrite 0 .guestFeatureSelect
    iowrite (features.setWidth 32) .guestFeature
    iowrite 1 .guestFeatureSelect
    iowrite ((features >>> 32).setWidth 32) .guestFeature
    return .ok ()

/-- `vio_modern_set_config_vector` -/
def vioModernSetConfigVector (vector : BitVec 16) : TransportProgram (BitVec 16) := do
  iowrite vector .msixConfig
  ioread .msixConfig

/-- `vio_modern_set_queue_vector` -/
def vioModernSetQueueVector (index : BitVec 32) (vector : BitVec 16) :
    TransportProgram (BitVec 16) := do
  iowrite (index.setWidth 16) .queueSelect
  iowrite vector .queueMsixVector
  ioread .queueMsixVector

/-- What `query_queue_alloc` says of a queue. -/
structure QueueAllocation where
  numEntries : BitVec 16
  ringSize : BitVec 64
  heapSize : BitVec 32
  deriving DecidableEq, Repr

/-- `vio_modern_query_vq_alloc` -/
def vioModernQueryVqAlloc (index : BitVec 32) :
    TransportProgram (Except TransportStatus QueueAllocation) := do
  let numQueues ← ioread .numQueues
  if numQueues.setWidth 32 ≤ index then return .error .notFound
  else do
    iowrite (index.setWidth 16) .queueSelect
    let num ← ioread .queueSize
    if num = 0 then return .error .notFound
    else if num &&& (num - 1) ≠ 0 then return .error .invalidParameter
    else return .ok ⟨num, vringPciSize num, modernHeapSize num⟩

/-! ## The legacy device -/

/-- `vio_legacy_get_status` -/
def vioLegacyGetStatus : TransportProgram (BitVec 8) := ioread .pciStatus

/-- `vio_legacy_set_status` -/
def vioLegacySetStatus (status : BitVec 8) : TransportProgram Unit := iowrite status .pciStatus

/-- `vio_legacy_reset` -/
def vioLegacyReset : TransportProgram Unit := iowrite 0 .pciStatus

/-- `vio_legacy_get_features` -/
def vioLegacyGetFeatures : TransportProgram (BitVec 64) := do
  let features ← ioread .pciHostFeatures
  return features.setWidth 64

/-- `vio_legacy_set_features` -/
def vioLegacySetFeatures (features : BitVec 64) : TransportProgram (Except TransportStatus Unit) :=
  do
    iowrite ((vringTransportFeatures features).setWidth 32) .pciGuestFeatures
    return .ok ()

/-- `vio_legacy_set_config_vector` -/
def vioLegacySetConfigVector (vector : BitVec 16) : TransportProgram (BitVec 16) := do
  iowrite vector .msiConfigVector
  ioread .msiConfigVector

/-- `vio_legacy_set_queue_vector` -/
def vioLegacySetQueueVector (index : BitVec 32) (vector : BitVec 16) :
    TransportProgram (BitVec 16) := do
  iowrite (index.setWidth 16) .pciQueueSel
  iowrite vector .msiQueueVector
  ioread .msiQueueVector

/-- `vio_legacy_query_vq_alloc` with its accesses. -/
def vioLegacyQueryVqAlloc (index : BitVec 32) :
    TransportProgram (Except TransportStatus QueueAllocation) := do
  iowrite (index.setWidth 16) .pciQueueSel
  let num ← ioread .pciQueueNum
  if num = 0 then return .error .notFound
  else do
    let pfn ← ioread .pciQueuePfn
    match VirtIO.vioLegacyQueryVqAlloc num pfn with
    | .error _ => return .error .notFound
    | .ok (numEntries, ringSize, heapSize) =>
      return .ok ⟨numEntries, ringSize.setWidth 64, heapSize⟩

end VioGpu.Transport
