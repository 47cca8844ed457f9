import VioGpu.Device.PciResources
import VioGpu.Lib.Except

/-!
# The mapped structures of a modern device

`vio_modern_initialize` of `VirtIOPCIModern.c` looks for the vendor capabilities in the
configuration space of the device and maps the structures they describe; registers are accessed
through the pointers it keeps. A pointer is the BAR it goes into, the offset there and the address,
with the length that was recorded for it. `size_t` has 64 bits, so that a sum of a `u32` and one
does not wrap; sums of `u32` do.
-/

namespace VioGpu.VirtIO

open Lib Device

/-! ## The configuration space -/

/-- The configuration space, and which reads of it (`where`, `length`) fail. -/
structure ConfigSpace where
  content : Nat → BitVec 8
  fails : Nat → Nat → Bool

namespace ConfigSpace

variable (c : ConfigSpace)

/-- The two bytes from an address on. -/
def word (address : Nat) : BitVec 16 := c.content (address + 1) ++ c.content address

/-- The four bytes from an address on. -/
def dword (address : Nat) : BitVec 32 := c.word (address + 2) ++ c.word address

/-- `pci_read_config_byte`; `none` for a failure, which leaves the variable as it was. -/
def pciReadConfigByte (address : Nat) : Option (BitVec 8) :=
  if c.fails address 1 then none else some (c.content address)

/-- `pci_read_config_word` -/
def pciReadConfigWord (address : Nat) : Option (BitVec 16) :=
  if c.fails address 2 then none else some (c.word address)

/-- `pci_read_config_dword` -/
def pciReadConfigDword (address : Nat) : Option (BitVec 32) :=
  if c.fails address 4 then none else some (c.dword address)

/-- `PCI_CAPABILITY_ID_VENDOR_SPECIFIC` -/
def pciCapabilityIdVendorSpecific : BitVec 8 := 0x09

/-- The loop of `find_next_pci_vendor_capability`, with the iterations left. -/
def nextVendorLoop : Nat → BitVec 8 → BitVec 8
  | 0, _ => 0
  | iterations + 1, offset =>
    if offset < 0x40 then 0
    else
      let offset := offset &&& ~~~3#8
      match c.pciReadConfigByte offset.toNat with
      | none => 0
      | some id =>
        if id = 0xFF then 0
        else if id = pciCapabilityIdVendorSpecific then offset
        else
          match c.pciReadConfigByte (offset.toNat + 1) with
          | none => 0
          | some next => nextVendorLoop iterations next

/-- `find_next_pci_vendor_capability` -/
def findNextPciVendorCapability (offset : BitVec 8) : BitVec 8 :=
  match c.pciReadConfigByte offset.toNat with
  | none => 0
  | some offset => c.nextVendorLoop 48 offset

/-- Where `PCI_COMMON_HEADER` has its `CapabilitiesPtr`, for a type of header without
`PCI_MULTIFUNCTION`. -/
def capabilitiesPtr (hdrType : BitVec 8) : BitVec 8 :=
  -- `PCI_CARDBUS_BRIDGE_TYPE`; a bridge has it where a device has
  if hdrType = 0x02 then 0x14 else 0x34

/-- `find_first_pci_vendor_capability` -/
def findFirstPciVendorCapability : BitVec 8 :=
  match c.pciReadConfigByte 0x0E, c.pciReadConfigWord 0x06 with
  | some hdrType, some status =>
    -- `PCI_STATUS_CAPABILITIES_LIST`
    if status &&& 0x10 = 0 then 0
    else c.findNextPciVendorCapability (capabilitiesPtr (hdrType &&& ~~~0x80#8))
  | _, _ => 0

end ConfigSpace

/-! ## The capabilities -/

/-- Why `vio_modern_initialize` does not come to `STATUS_SUCCESS`. -/
inductive InitStop
  | deviceNotConnected
  | invalidParameter
  /-- A variable that no read has set is used, `m_Bars` is indexed past its end, or the list of the
  capabilities has no end. -/
  | noResult
  deriving DecidableEq, Repr

/-- `m_Bars` -/
abbrev Bars := Fin 6 → CPciBar

/-- `capabilities`; 0 where there is none. -/
abbrev Capabilities := Fin 5 → BitVec 8

/-- `VIRTIO_PCI_CAP_COMMON_CFG` -/
def virtioPciCapCommonCfg : Fin 5 := 1

/-- `VIRTIO_PCI_CAP_NOTIFY_CFG` -/
def virtioPciCapNotifyCfg : Fin 5 := 2

/-- `VIRTIO_PCI_CAP_ISR_CFG` -/
def virtioPciCapIsrCfg : Fin 5 := 3

/-- `VIRTIO_PCI_CAP_DEVICE_CFG` -/
def virtioPciCapDeviceCfg : Fin 5 := 4

/-- What the loop of `find_pci_vendor_capabilities` does with a capability. -/
def Capabilities.record (caps : Capabilities) (bars : Bars) (offset cfgType bar : BitVec 8) :
    Capabilities :=
  if hbar : bar.toNat < 6 then
    if htype : cfgType.toNat < 5 then
      if 0 < (bars ⟨bar.toNat, hbar⟩).size then
        Function.update caps ⟨cfgType.toNat, htype⟩ offset
      else caps
    else caps
  else caps

namespace ConfigSpace

variable (c : ConfigSpace) (bars : Bars)

/-- The loop of `find_pci_vendor_capabilities`, with the iterations it is followed for. -/
def vendorLoop : Nat → BitVec 8 → Capabilities → Except InitStop Capabilities
  | 0, offset, caps => if offset = 0 then .ok caps else .error .noResult
  | fuel + 1, offset, caps =>
    if offset = 0 then .ok caps
    else
      match c.pciReadConfigByte (offset.toNat + 3), c.pciReadConfigByte (offset.toNat + 4) with
      | some cfgType, some bar =>
        vendorLoop fuel (c.findNextPciVendorCapability (offset + 1))
          (caps.record bars offset cfgType bar)
      | _, _ => .error .noResult

/-- `find_pci_vendor_capabilities` -/
def findPciVendorCapabilities (fuel : Nat) : Except InitStop Capabilities :=
  c.vendorLoop bars fuel c.findFirstPciVendorCapability fun _ => 0

/-! The fields of a capability: `struct virtio_pci_cap`, and `notify_off_multiplier` behind it. -/

def capBar (cap : BitVec 8) : BitVec 8 := c.content (cap.toNat + 4)

def capOffset (cap : BitVec 8) : BitVec 32 := c.dword (cap.toNat + 8)

def capLength (cap : BitVec 8) : BitVec 32 := c.dword (cap.toNat + 12)

def readCapBar (cap : BitVec 8) : Option (BitVec 8) := c.pciReadConfigByte (cap.toNat + 4)

def readCapOffset (cap : BitVec 8) : Option (BitVec 32) := c.pciReadConfigDword (cap.toNat + 8)

def readCapLength (cap : BitVec 8) : Option (BitVec 32) := c.pciReadConfigDword (cap.toNat + 12)

def readCapMultiplier (cap : BitVec 8) : Option (BitVec 32) :=
  c.pciReadConfigDword (cap.toNat + 16)

end ConfigSpace

/-! ## Mapping -/

/-- A pointer into a BAR, with the length recorded for what is there. -/
structure MappedRange where
  bar : Fin 6
  offset : BitVec 32
  len : BitVec 32
  address : Nat
  deriving DecidableEq, Repr

/-- `pci_map_address_range`. `mapped` is what `DxgkCbMapMemory` comes to if it is called. -/
def pciMapAddressRange (bars : Bars) (bar : Fin 6) (offset maxlen : BitVec 32)
    (mapped : Option Nat) : Option MappedRange × Bars :=
  let (address, b, _) := (bars bar).getMappedAddress offset mapped
  (address.map fun address => ⟨bar, offset, maxlen, address⟩, Function.update bars bar b)

/-- `vio_modern_map_capability` once the fields of the capability are read. -/
def mapCapabilityFields (bars : Bars) (bar : BitVec 8) (barOffset barLength : BitVec 32)
    (minlen : Nat) (alignment start size : BitVec 32) (mapped : Option Nat) :
    Except InitStop (Option MappedRange × Bars) :=
  if start.toNat + minlen > barLength.toNat then .ok (none, bars)
  else
    let barLength := barLength - start
    let barOffset := barOffset + start
    if barOffset &&& (alignment - 1) ≠ 0 then .ok (none, bars)
    else
      let barLength := if barLength > size then size else barLength
      if hbar : bar.toNat < 6 then
        if barOffset.toNat + minlen > (bars ⟨bar.toNat, hbar⟩).size.toNat then .ok (none, bars)
        else .ok (pciMapAddressRange bars ⟨bar.toNat, hbar⟩ barOffset barLength mapped)
      else .error .noResult

/-- `vio_modern_map_capability` -/
def vioModernMapCapability (c : ConfigSpace) (bars : Bars) (cap : BitVec 8) (minlen : Nat)
    (alignment start size : BitVec 32) (mapped : Option Nat) :
    Except InitStop (Option MappedRange × Bars) :=
  match c.readCapBar cap, c.readCapOffset cap, c.readCapLength cap with
  | some bar, some barOffset, some barLength =>
    mapCapabilityFields bars bar barOffset barLength minlen alignment start size mapped
  | _, _, _ => .error .noResult

/-- `vio_modern_map_simple_capability` -/
def vioModernMapSimpleCapability (c : ConfigSpace) (bars : Bars) (cap : BitVec 8) (length : Nat)
    (alignment : BitVec 32) (mapped : Option Nat) : Except InitStop (Option MappedRange × Bars) :=
  vioModernMapCapability c bars cap length alignment 0 (BitVec.ofNat 32 length) mapped

/-- What `vio_modern_initialize` makes of a mapping it needs. -/
def orInvalidParameter : Option MappedRange × Bars → Except InitStop (MappedRange × Bars)
  | (none, _) => .error .invalidParameter
  | (some r, bars) => .ok (r, bars)

/-! ## The initialization -/

/-- `sizeof(struct virtio_pci_common_cfg)` -/
def sizeofVirtioPciCommonCfg : Nat := 56

/-- The members of `VirtIODevice` that `vio_modern_initialize` sets. `notify_len` and `config_len`
are the lengths of `notifyBase` and `config`. -/
structure ModernDevice where
  common : MappedRange
  isr : MappedRange
  notifyBase : Option MappedRange
  notifyMapCap : BitVec 8
  notifyOffsetMultiplier : BitVec 32
  config : Option MappedRange
  deriving DecidableEq, Repr

/-- The test whether the notify structure is mapped as a whole; otherwise each queue maps its
own part. -/
def MapsNotifyOnce (notifyLength notifyOffset : BitVec 32) : Prop :=
  notifyLength + notifyOffset % 4096#32 ≤ 4096#32

instance (notifyLength notifyOffset : BitVec 32) :
    Decidable (MapsNotifyOnce notifyLength notifyOffset) :=
  inferInstanceAs (Decidable (notifyLength + notifyOffset % 4096#32 ≤ 4096#32))

section

variable (c : ConfigSpace)

/-- The part of `vio_modern_initialize` for the notify structure. -/
def mapNotify (bars : Bars) (cap : BitVec 8) (mapped : Option Nat) :
    Except InitStop (Option MappedRange × Bars) :=
  match c.readCapLength cap, c.readCapOffset cap with
  | some notifyLength, some notifyOffset =>
    if MapsNotifyOnce notifyLength notifyOffset then do
      let (r, bars) ← vioModernMapCapability c bars cap 2 2 0 notifyLength mapped >>=
        orInvalidParameter
      return (some r, bars)
    else .ok (none, bars)
  | _, _ => .error .noResult

/-- The part of `vio_modern_initialize` for the configuration of the device. -/
def mapConfig (bars : Bars) (cap : BitVec 8) (mapped : Option Nat) :
    Except InitStop (Option MappedRange × Bars) :=
  if cap = 0 then .ok (none, bars)
  else do
    let (r, bars) ← vioModernMapCapability c bars cap 0 4 0 4096 mapped >>= orInvalidParameter
    return (some r, bars)

/-- `vio_modern_initialize` with the capabilities it has found. `mapped` is what `DxgkCbMapMemory`
comes to if it is called for the structure. -/
def initializeWith (bars : Bars) (mapped : Fin 5 → Option Nat) (caps : Capabilities) :
    Except InitStop (ModernDevice × Bars) :=
  if caps virtioPciCapCommonCfg = 0 then .error .deviceNotConnected
  else if caps virtioPciCapIsrCfg = 0 ∨ caps virtioPciCapNotifyCfg = 0 then
    .error .invalidParameter
  else do
    let (common, bars) ← vioModernMapSimpleCapability c bars (caps virtioPciCapCommonCfg)
      sizeofVirtioPciCommonCfg 4 (mapped virtioPciCapCommonCfg) >>= orInvalidParameter
    let (isr, bars) ← vioModernMapSimpleCapability c bars (caps virtioPciCapIsrCfg) 1 1
      (mapped virtioPciCapIsrCfg) >>= orInvalidParameter
    let (notifyBase, bars) ← mapNotify c bars (caps virtioPciCapNotifyCfg)
      (mapped virtioPciCapNotifyCfg)
    let (config, bars) ← mapConfig c bars (caps virtioPciCapDeviceCfg)
      (mapped virtioPciCapDeviceCfg)
    return ({
      common := common
      isr := isr
      notifyBase := notifyBase
      notifyMapCap := if notifyBase.isSome then 0 else caps virtioPciCapNotifyCfg
      -- the members start as zeros
      notifyOffsetMultiplier := (c.readCapMultiplier (caps virtioPciCapNotifyCfg)).getD 0
      config := config }, bars)

/-- `vio_modern_initialize`, following the list of the capabilities for `fuel` of them. -/
def vioModernInitialize (fuel : Nat) (bars : Bars) (mapped : Fin 5 → Option Nat) :
    Except InitStop (ModernDevice × Bars) := do
  let caps ← c.findPciVendorCapabilities bars fuel
  initializeWith c bars mapped caps

end

/-! ## Accesses to registers -/

/-- Bytes of a BAR. -/
structure BarSpan where
  bar : Fin 6
  first : Nat
  length : Nat
  deriving DecidableEq, Repr

/-- The bytes are bytes of the BAR. -/
def BarSpan.Inside (s : BarSpan) (bars : Bars) : Prop :=
  s.first + s.length ≤ (bars s.bar).size.toNat

/-- An access that is checked against a recorded length. -/
inductive RegisterAccess
  | getConfig (offset len : BitVec 32)
  | setConfig (offset len : BitVec 32)
  /-- `vio_modern_setup_vq` finds the address for the notifications of a queue, with the
  `queue_notify_off` read, and the driver writes its index there. -/
  | notify (off : BitVec 16) (mapped : Option Nat)
  deriving DecidableEq, Repr

namespace ModernDevice

variable (vdev : ModernDevice)

/-- The structures that are mapped, with their lengths. -/
def structures : List BarSpan :=
  [⟨vdev.common.bar, vdev.common.offset.toNat, sizeofVirtioPciCommonCfg⟩,
    ⟨vdev.isr.bar, vdev.isr.offset.toNat, 1⟩] ++
  (vdev.notifyBase.toList ++ vdev.config.toList).map fun r => ⟨r.bar, r.offset.toNat, r.len.toNat⟩

/-- The bytes that `vio_modern_get_config` reads and `vio_modern_set_config` writes, if any. -/
def configSpan (offset len : BitVec 32) : Option BarSpan :=
  match vdev.config with
  | none => none
  | some r =>
    if (offset + len).toNat > r.len.toNat then none
    else if len = 1 ∨ len = 2 ∨ len = 4 then
      some ⟨r.bar, r.offset.toNat + offset.toNat, len.toNat⟩
    else none

/-- The bytes of `vq->priv`, if there is such an address. -/
def notifySpan (c : ConfigSpace) (bars : Bars) (off : BitVec 16) (mapped : Option Nat) :
    Option BarSpan × Bars :=
  let start := off.setWidth 32 * vdev.notifyOffsetMultiplier
  match vdev.notifyBase with
  | some r =>
    -- the product of this test has 64 bits
    if off.toNat * vdev.notifyOffsetMultiplier.toNat + 2 > r.len.toNat then (none, bars)
    else (some ⟨r.bar, r.offset.toNat + start.toNat, 2⟩, bars)
  | none =>
    match vioModernMapCapability c bars vdev.notifyMapCap 2 2 start 2 mapped with
    | .ok (some r, bars) => (some ⟨r.bar, r.offset.toNat, 2⟩, bars)
    | .ok (none, bars) => (none, bars)
    | .error _ => (none, bars)

/-- The bytes that an access touches, and the BARs after it. -/
def access (c : ConfigSpace) (bars : Bars) : RegisterAccess → Option BarSpan × Bars
  | .getConfig offset len => (vdev.configSpan offset len, bars)
  | .setConfig offset len => (vdev.configSpan offset len, bars)
  | .notify off mapped => vdev.notifySpan c bars off mapped

/-- What a sequence of accesses touches. -/
def touched (c : ConfigSpace) : Bars → List RegisterAccess → List BarSpan
  | _, [] => []
  | bars, a :: as =>
    let (span, bars) := vdev.access c bars a
    span.toList ++ touched c bars as

/-- The mapped structures lie in their BARs, and the accesses touch bytes of them only. -/
def StaysInside (c : ConfigSpace) (bars : Bars) (accesses : List RegisterAccess) : Prop :=
  (∀ s ∈ vdev.structures, s.Inside bars) ∧ ∀ s ∈ vdev.touched c bars accesses, s.Inside bars

end ModernDevice

end VioGpu.VirtIO
