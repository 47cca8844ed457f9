import Mathlib.Data.BitVec
import VioGpu.Lib.Ledger

/-!
# The PCI resources of the device

`viogpu_pci.cpp`: `CPciResources::Init` walks the resource list, finds the BAR of each port and
memory range and constructs a `CPciBar` for it. A `CPciBar` maps its range at the first use and
undoes that in `Unmap`, which the destructor of `CPciResources` calls. A resource list has one
full descriptor, as the ones for PCI devices do.
-/

namespace VioGpu.Device

open Lib

/-- `PCI_COMMON_HEADER`: the base addresses, and the dword behind them. -/
structure PciHeader where
  baseAddresses : Fin 6 → BitVec 32
  cis : BitVec 32

/-- `BaseAddresses[++i]`; for the last BAR that is the dword behind the array. -/
def PciHeader.nextAddress (h : PciHeader) (i : Fin 6) : BitVec 32 :=
  if hi : i.val + 1 < 6 then h.baseAddresses ⟨i.val + 1, hi⟩ else h.cis

/-- The loop of `virtio_get_bar_index` over the slots left. `taken` says that the slot at hand is
the upper half of the one before. -/
def PciHeader.barIndexLoop (h : PciHeader) (basePA : BitVec 64) : Bool → List (Fin 6) →
    Option (Fin 6)
  | _, [] => none
  | true, _ :: slots => h.barIndexLoop basePA false slots
  | false, i :: slots =>
    let low := h.baseAddresses i
    if low &&& 0x01 ≠ 0 then
      -- I/O space
      if 0#32 ++ (low &&& 0xFFFFFFFC) = basePA then some i
      else h.barIndexLoop basePA false slots
    else if low &&& 0x06 = 0x04 then
      -- memory space 64-bit
      if h.nextAddress i ++ (low &&& 0xFFFFFFF0) = basePA then some i
      else h.barIndexLoop basePA true slots
    else
      -- memory space 32-bit
      if 0#32 ++ (low &&& 0xFFFFFFF0) = basePA then some i
      else h.barIndexLoop basePA false slots

/-- `virtio_get_bar_index`; `none` for -1. -/
def PciHeader.virtioGetBarIndex (h : PciHeader) (basePA : BitVec 64) : Option (Fin 6) :=
  h.barIndexLoop basePA false (List.finRange 6)

/-- `CPciBar`; `none` is the null pointer in `m_BaseVA`. -/
structure CPciBar where
  basePA : BitVec 64
  size : BitVec 32
  baseVA : Option Nat
  portSpace : Bool
  ioMapped : Bool

/-- The calls of `CPciBar` to the port driver, `DxgkCbMapMemory` with the address it comes to.
`DxgkCbUnmapMemory` is handed `&m_BaseVA`, the address of the member. -/
inductive MemoryCall
  | mapMemory (basePA : BitVec 64) (size : BitVec 32) (inIoSpace : Bool) (mapped : Option Nat)
  | unmapMemory
  deriving DecidableEq, Repr

namespace CPciBar

/-- The constructor. -/
def new (basePA : BitVec 64) (size : BitVec 32) (portSpace ioMapped : Bool) : CPciBar :=
  ⟨basePA, size, none, portSpace, ioMapped⟩

/-- The default constructor. -/
def default : CPciBar := new 0 0 false true

/-- `GetVA`: the bar with the `m_BaseVA` it returns, and the calls. `mapped` is what
`DxgkCbMapMemory` comes to, `none` for a failure. -/
def getVA (b : CPciBar) (mapped : Option Nat) : CPciBar × List MemoryCall :=
  match b.baseVA with
  | some _ => (b, [])
  | none =>
    if b.portSpace then
      if b.ioMapped then
        ({ b with baseVA := mapped }, [.mapMemory b.basePA b.size true mapped])
      else
        -- the physical address serves as the pointer
        ({ b with baseVA := if b.basePA = 0#64 then none else some b.basePA.toNat }, [])
    else
      ({ b with baseVA := mapped }, [.mapMemory b.basePA b.size false mapped])

/-- `CPciResources::GetMappedAddress`, for the bar it is about: the pointer it returns, the bar
and the calls. -/
def getMappedAddress (b : CPciBar) (offset : BitVec 32) (mapped : Option Nat) :
    Option Nat × CPciBar × List MemoryCall :=
  if offset < b.size then
    let (b, calls) := b.getVA mapped
    (b.baseVA.map fun va =>
      if b.portSpace then (b.basePA.setWidth 32).toNat + offset.toNat else va + offset.toNat,
      b, calls)
  else (none, b, [])

/-- `Unmap` -/
def unmap (b : CPciBar) : CPciBar × List MemoryCall :=
  ({ b with baseVA := none },
    if b.baseVA.isSome ∧ b.ioMapped = false then [.unmapMemory] else [])

end CPciBar

/-- `CM_PARTIAL_RESOURCE_DESCRIPTOR` by its `Type`. -/
inductive PartialDescriptor
  | port (start : BitVec 64) (length : BitVec 32) (flags : BitVec 16)
  | interrupt (flags : BitVec 16)
  | memory (start : BitVec 64) (length : BitVec 32)
  | other

/-- `CM_RESOURCE_PORT_IO` -/
def cmResourcePortIo : BitVec 16 := 1

/-- `CPciResources` with the two variables of the loop in `Init`. -/
structure CPciResources where
  interruptFlags : BitVec 16
  bars : Fin 6 → CPciBar
  /-- `bar`; `none` for -1 -/
  bar : Option (Fin 6)
  interruptFound : Bool

namespace CPciResources

/-- The members after the constructor, the variables at the head of the loop. -/
def start : CPciResources := ⟨0, fun _ => .default, none, false⟩

/-- `bar = virtio_get_bar_index(..)`, and the construction of the BAR if there is one. -/
def setBar (r : CPciResources) (bar : Option (Fin 6)) (b : CPciBar) : CPciResources :=
  match bar with
  | none => { r with bar := none }
  | some i => { r with bar := some i, bars := Function.update r.bars i b }

/-- The body of the loop in `Init`. -/
def descriptor (r : CPciResources) (h : PciHeader) : PartialDescriptor → CPciResources
  | .port start length flags =>
    let ioMapped := if flags &&& cmResourcePortIo ≠ 0 then false else true
    r.setBar (h.virtioGetBarIndex start) (.new start length true ioMapped)
  | .interrupt flags => { r with interruptFlags := flags, interruptFound := true }
  | .memory start length => r.setBar (h.virtioGetBarIndex start) (.new start length false true)
  | .other => r

/-- The loop of `Init`. -/
def descriptors (h : PciHeader) (list : List PartialDescriptor) : CPciResources :=
  list.foldl (fun r d => r.descriptor h d) start

/-- `Init`; `header` is what `DxgkCbReadDeviceSpace` read, if it read all of it. -/
def init (header : Option PciHeader) (list : List PartialDescriptor) : Bool × CPciResources :=
  match header with
  | none => (false, start)
  | some h =>
    let r := descriptors h list
    (if r.bar.isNone ∨ r.interruptFound = false then false else true, r)

end CPciResources

end VioGpu.Device
