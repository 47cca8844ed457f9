import VioGpu.Lib.Interface
import VioGpu.Transport.Queues

/-!
# The device behind the registers

What a conforming virtio device makes of the accesses, and what it asks of its driver. The device
is free wherever the virtio interface leaves it free: a reset takes as many reads of the status as
it likes, it may refuse the features, offers any sizes and any number of queues, and may refuse a
vector. Memory is part of the state as well: the pages and the blocks that are allocated.

The device reads and writes the rings of its enabled queues by itself, from `DRIVER_OK` on until a
reset is complete; a legacy device does so with every queue that has a page frame number. `SafeDma`
says that these rings are in allocated pages. It is kept by every call that the interface asks for,
in runs that fault or are cut off as well: these count up to there.
-/

namespace VioGpu.Transport

open Lib VirtIO

/-! ## The state -/

/-- The registers of one queue, those of a legacy device included. -/
structure HostQueue where
  size : BitVec 16
  enable : Bool
  desc : BitVec 64
  avail : BitVec 64
  used : BitVec 64
  pfn : BitVec 32

/-- Pages of `MmAllocateContiguousMemory`: `size` bytes in a row, for the driver from `virt` on and
for the device from `phys` on. -/
structure Pages where
  virt : BitVec 64
  phys : BitVec 64
  size : Nat

/-- A block of the nonpaged pool. -/
structure PoolBlock where
  addr : BitVec 64
  size : Nat

/-- The device and the memory. While `resetting` the device has not done its reset yet. -/
structure Host where
  status : BitVec 8
  resetting : Bool
  offered : BitVec 64
  deviceFeatureSelect : BitVec 32
  guestFeatureSelect : BitVec 32
  guestFeatures : BitVec 64
  select : BitVec 16
  queue : BitVec 16 → HostQueue
  pages : List Pages
  blocks : List PoolBlock

/-- The bytes of the pages as the driver sees them. -/
def Pages.bytes (p : Pages) : Set (BitVec 64) := (Region.mk p.virt p.size).bytes

/-- The bytes of the pages as the device sees them. -/
def Pages.dma (p : Pages) : Set (BitVec 64) := (Region.mk p.phys p.size).bytes

/-- The ring of a queue lies in the pages. -/
structure RingIn (p : Pages) (q : HostQueue) : Prop where
  desc : (Region.mk q.desc (16 * q.size.toNat)).bytes ⊆ p.dma
  avail : (Region.mk q.avail (4 + 2 * q.size.toNat + 2)).bytes ⊆ p.dma
  used : (Region.mk q.used (4 + 8 * q.size.toNat + 2)).bytes ⊆ p.dma

/-- The ring of a queue of a legacy device begins where the pages begin and lies in them. -/
structure LegacyRingIn (p : Pages) (q : HostQueue) : Prop where
  phys : q.pfn.setWidth 64 <<< 12 = p.phys
  size : (vringSize (q.size.setWidth 32) virtioPciVringAlign).toNat ≤ p.size

namespace Host

/-- A status bit is set. -/
def Has (h : Host) (bit : BitVec 8) : Prop := h.status &&& bit ≠ 0

instance (h : Host) (bit : BitVec 8) : Decidable (h.Has bit) :=
  inferInstanceAs (Decidable (_ ≠ _))

/-- The device uses the rings of its enabled queues. -/
def Live (h : Host) : Prop := h.Has virtioConfigSDriverOk

/-- Every enabled queue has its ring in allocated pages. -/
def Backed (h : Host) : Prop :=
  ∀ q, (h.queue q).enable = true → ∃ p ∈ h.pages, RingIn p (h.queue q)

/-- **The memory that the device uses is allocated.** -/
structure SafeDma (h : Host) : Prop where
  modern : h.Live → h.Backed
  legacy : ∀ q, (h.queue q).pfn ≠ 0 → ∃ p ∈ h.pages, LegacyRingIn p (h.queue q)

/-- The device uses the pages. -/
def Uses (h : Host) (p : Pages) : Prop :=
  (h.Live ∧ ∃ q, (h.queue q).enable = true ∧ RingIn p (h.queue q)) ∨
    ∃ q, (h.queue q).pfn ≠ 0 ∧ LegacyRingIn p (h.queue q)

/-! ## How the device answers -/

/-- The registers of the selected queue change. -/
def setQueue (h : Host) (f : HostQueue → HostQueue) : Host :=
  { h with queue := fun q => if q = h.select then f (h.queue q) else h.queue q }

/-- The lower half of a register of 64 bits is written. -/
def lowWritten (x : BitVec 64) (v : BitVec 32) : BitVec 64 := x.extractLsb' 32 32 ++ v

/-- The upper half is written. -/
def highWritten (x : BitVec 64) (v : BitVec 32) : BitVec 64 := v ++ x.extractLsb' 0 32

/-- A register other than the status is written. -/
def written (h : Host) : {w : Nat} → Register w → BitVec w → Host
  | _, .deviceFeatureSelect, v => { h with deviceFeatureSelect := v }
  | _, .guestFeatureSelect, v => { h with guestFeatureSelect := v }
  | _, .guestFeature, v =>
    if h.guestFeatureSelect = 0 then { h with guestFeatures := lowWritten h.guestFeatures v }
    else if h.guestFeatureSelect = 1 then
      { h with guestFeatures := highWritten h.guestFeatures v }
    else h
  | _, .queueSelect, v | _, .pciQueueSel, v => { h with select := v }
  | _, .queueSize, v => h.setQueue fun q => { q with size := v }
  | _, .queueEnable, v => h.setQueue fun q => { q with enable := v != 0 }
  | _, .queueDescLo, v => h.setQueue fun q => { q with desc := lowWritten q.desc v }
  | _, .queueDescHi, v => h.setQueue fun q => { q with desc := highWritten q.desc v }
  | _, .queueAvailLo, v => h.setQueue fun q => { q with avail := lowWritten q.avail v }
  | _, .queueAvailHi, v => h.setQueue fun q => { q with avail := highWritten q.avail v }
  | _, .queueUsedLo, v => h.setQueue fun q => { q with used := lowWritten q.used v }
  | _, .queueUsedHi, v => h.setQueue fun q => { q with used := highWritten q.used v }
  | _, .pciGuestFeatures, v => { h with guestFeatures := v.setWidth 64 }
  | _, .pciQueuePfn, v => h.setQueue fun q => { q with pfn := v }
  | _, _, _ => h

/-- A status other than zero is written. The device may leave `FEATURES_OK` clear. -/
def StatusWritten (h : Host) (v : BitVec 8) (h' : Host) : Prop :=
  h' = { h with status := v } ∨
    (¬h.Has virtioConfigSFeaturesOk ∧ h' = { h with status := v &&& ~~~virtioConfigSFeaturesOk })

/-- The device has done a reset. What it offers afterwards is open. -/
structure Reset (h h' : Host) : Prop where
  status : h'.status = 0
  resetting : h'.resetting = false
  enable : ∀ q, (h'.queue q).enable = false
  pfn : ∀ q, (h'.queue q).pfn = 0
  pages : h'.pages = h.pages
  blocks : h'.blocks = h.blocks

/-- What a read of the status shows; the device may ask for a reset. -/
def Shows (h : Host) (v : BitVec 8) : Prop := v = h.status ∨ v = h.status ||| 0x40

/-- A half of the word that `device_feature` shows. -/
def featureWindow (h : Host) : BitVec 32 :=
  if h.deviceFeatureSelect = 0 then h.offered.extractLsb' 0 32
  else if h.deviceFeatureSelect = 1 then h.offered.extractLsb' 32 32
  else 0

/-- A register is read. What is not said here may be anything. -/
def Read (h : Host) : {w : Nat} → Register w → BitVec w → Host → Prop
  | _, .deviceStatus, v, h' =>
    if h.resetting = true then (v ≠ 0 ∧ h' = h) ∨ (v = 0 ∧ h.Reset h') else h.Shows v ∧ h' = h
  | _, .pciStatus, v, h' => h.Shows v ∧ h' = h
  | _, .deviceFeature, v, h' => v = h.featureWindow ∧ h' = h
  | _, .pciHostFeatures, v, h' => v = h.offered.extractLsb' 0 32 ∧ h' = h
  | _, .queueSize, v, h' | _, .pciQueueNum, v, h' => v = (h.queue h.select).size ∧ h' = h
  | _, .pciQueuePfn, v, h' => v = (h.queue h.select).pfn ∧ h' = h
  | _, _, _, h' => h' = h

/-- A register is written. -/
def Written (h : Host) : {w : Nat} → Register w → BitVec w → Host → Prop
  | _, .deviceStatus, v, h' =>
    if v = 0 then h' = { h with resetting := true } else h.StatusWritten v h'
  | _, .pciStatus, v, h' => if v = 0 then h.Reset h' else h.StatusWritten v h'
  | _, r, v, h' => h' = h.written r v

/-- Pages that may be handed out. `HighestAcceptable` has 40 bits. -/
structure Fresh (h : Host) (p : Pages) : Prop where
  virt : p.virt ≠ 0
  aligned : p.virt.toNat % 4096 = 0
  phys_aligned : p.phys.toNat % 4096 = 0
  phys_pos : p.phys ≠ 0
  phys_lt : p.phys.toNat + p.size ≤ 2 ^ 40
  apart : ∀ p' ∈ h.pages, p.virt ≠ p'.virt ∧ p.phys ≠ p'.phys
  disjoint : ∀ p' ∈ h.pages, Disjoint p.bytes p'.bytes ∧ Disjoint p.dma p'.dma

/-- How a call may be answered. -/
def Answers (h : Host) : (c : TransportCall) → c.Ans → Host → Prop
  | .read r, v, h' => h.Read r v h'
  | .write r v, _, h' => h.Written r v h'
  | .allocContiguousPages size, virt, h' =>
    (virt = 0 ∧ h' = h) ∨
      ∃ phys, h.Fresh ⟨virt, phys, size.toNat⟩ ∧
        h' = { h with pages := ⟨virt, phys, size.toNat⟩ :: h.pages }
  | .freeContiguousPages virt, _, h' =>
    h' = { h with pages := h.pages.filter fun p => p.virt ≠ virt }
  | .getPhysicalAddress virt, phys, h' =>
    (∀ p ∈ h.pages, virt ∈ p.bytes → phys = p.phys + (virt - p.virt)) ∧ h' = h
  | .allocNonpagedBlock size, addr, h' =>
    (addr = 0 ∧ h' = h) ∨
      (addr ≠ 0 ∧ (∀ b ∈ h.blocks, b.addr ≠ addr) ∧
        h' = { h with blocks := ⟨addr, size.toNat⟩ :: h.blocks })
  | .freeNonpagedBlock addr, _, h' =>
    h' = { h with blocks := h.blocks.filter fun b => b.addr ≠ addr }
  | .modernInitialize, _, h' | .mapPorts, _, h' | .sleep, _, h' | .getMsixVector _, _, h'
  | .mapNotify _, _, h' | .zeroMemory _ _, _, h' | .initializeVirtqueue _ _, _, h'
  | .getConfig _, _, h' | .gpuBufInit _, _, h' | .idrInit, _, h' => h' = h

/-! ## What the device asks for -/

/-- A status other than zero may be written: no bit is taken back, the driver goes through the
bits in their order, and it says `DRIVER_OK` when the rings of the enabled queues are there. -/
structure StatusAsked (h : Host) (v : BitVec 8) : Prop where
  idle : h.resetting = false
  keeps : h.status &&& ~~~v = 0
  driver : v &&& virtioConfigSDriver ≠ 0 → v &&& virtioConfigSAcknowledge ≠ 0
  featuresOk : v &&& virtioConfigSFeaturesOk ≠ 0 → v &&& virtioConfigSDriver ≠ 0
  driverOk : v &&& virtioConfigSDriverOk ≠ 0 →
    h.Live ∨ (h.status &&& virtioConfigSFailed = 0 ∧ h.Backed)

/-- The features may be written. -/
structure Negotiating (h : Host) : Prop where
  idle : h.resetting = false
  driver : h.Has virtioConfigSDriver
  featuresOk : ¬h.Has virtioConfigSFeaturesOk

/-- The queues of a modern device may be set up. -/
structure Configuring (h : Host) : Prop where
  idle : h.resetting = false
  driver : h.Has virtioConfigSDriver
  featuresOk : h.Has virtioConfigSFeaturesOk
  driverOk : ¬h.Live

/-- The selected queue is not in use. -/
def SelectedIdle (h : Host) : Prop :=
  (h.queue h.select).enable = false ∧ (h.queue h.select).pfn = 0

/-- Which writes are asked for. -/
def WriteAsked (h : Host) : {w : Nat} → Register w → BitVec w → Prop
  | _, .deviceStatus, v =>
    v = 0 ∨ (h.StatusAsked v ∧
      (v &&& virtioConfigSDriverOk ≠ 0 → h.Has virtioConfigSFeaturesOk))
  | _, .pciStatus, v => v = 0 ∨ h.StatusAsked v
  | _, .guestFeatureSelect, _ | _, .guestFeature, _ | _, .pciGuestFeatures, _ => h.Negotiating
  | _, .queueSize, _ | _, .queueDescLo, _ | _, .queueDescHi, _ | _, .queueAvailLo, _
  | _, .queueAvailHi, _ | _, .queueUsedLo, _ | _, .queueUsedHi, _ =>
    h.Configuring ∧ h.SelectedIdle
  | _, .queueEnable, v =>
    v = 1 ∧ h.Configuring ∧ h.SelectedIdle ∧ ∃ p ∈ h.pages, RingIn p (h.queue h.select)
  | _, .pciQueuePfn, v =>
    h.resetting = false ∧ (v ≠ 0 → h.SelectedIdle ∧
      ∃ p ∈ h.pages, LegacyRingIn p { h.queue h.select with pfn := v })
  | _, _, _ => h.resetting = false

/-- Which calls are asked for: accesses in their order, and memory that is allocated. Pages that the
device uses are not freed, and their bytes are left alone once the driver has said `DRIVER_OK`. -/
def Requires (h : Host) : TransportCall → Prop
  | .read .deviceStatus => True
  | .read _ | .getConfig _ => h.resetting = false
  | .write r v => h.WriteAsked r v
  | .freeContiguousPages virt =>
    (∃ p ∈ h.pages, p.virt = virt) ∧ ∀ p ∈ h.pages, p.virt = virt → ¬h.Uses p
  | .getPhysicalAddress virt => ∃ p ∈ h.pages, virt ∈ p.bytes
  | .freeNonpagedBlock addr => ∃ b ∈ h.blocks, b.addr = addr
  | .zeroMemory addr size =>
    ∃ p ∈ h.pages, p.virt = addr ∧ size.toNat ≤ p.size ∧ ¬(h.Live ∧ h.Uses p)
  | .initializeVirtqueue control vring =>
    (∃ p ∈ h.pages, vring.descRegion.bytes ⊆ p.bytes ∧ vring.availRegion.bytes ⊆ p.bytes ∧
      vring.usedRegion.bytes ⊆ p.bytes ∧ ¬(h.Live ∧ h.Uses p)) ∧
    ((∃ b ∈ h.blocks, b.addr = control ∧ 80 + 8 * vring.num.toNat ≤ b.size) ∨
      ∃ p ∈ h.pages, (controlRegion (vring.num.setWidth 16) control).bytes ⊆ p.bytes)
  | .modernInitialize | .mapPorts | .sleep | .allocContiguousPages _ | .allocNonpagedBlock _
  | .getMsixVector _ | .mapNotify _ | .gpuBufInit _ | .idrInit => True

/-! ## The rules are safe -/

theorem SafeDma.congr {h h' : Host} (hs : h.SafeDma) (hlive : h'.Live → h.Live)
    (hqueue : h'.queue = h.queue) (hpages : h'.pages = h.pages) : h'.SafeDma where
  modern hl q hq := by
    rw [hqueue] at hq ⊢
    rw [hpages]
    exact hs.modern (hlive hl) q hq
  legacy q hq := by
    rw [hqueue] at hq ⊢
    rw [hpages]
    exact hs.legacy q hq

/-- The selected queue, not in use, changes and stays out of use. -/
theorem SafeDma.setQueue {h : Host} (hs : h.SafeDma) (hidle : h.SelectedIdle)
    {f : HostQueue → HostQueue} (henable : ∀ q, (f q).enable = q.enable)
    (hpfn : ∀ q, (f q).pfn = q.pfn) : (h.setQueue f).SafeDma where
  modern hl q hq := by
    by_cases hsel : q = h.select
    · subst hsel
      simp only [Host.setQueue, if_pos, henable, hidle.1, Bool.false_eq_true] at hq
    · simp only [Host.setQueue, if_neg hsel] at hq ⊢
      exact hs.modern hl q hq
  legacy q hq := by
    by_cases hsel : q = h.select
    · subst hsel
      simp only [Host.setQueue, if_pos, hpfn, hidle.2, ne_eq, not_true_eq_false] at hq
    · simp only [Host.setQueue, if_neg hsel] at hq ⊢
      exact hs.legacy q hq

theorem SafeDma.statusWritten {h h' : Host} (hs : h.SafeDma) {v : BitVec 8}
    (hasked : h.StatusAsked v) (hw : h.StatusWritten v h') : h'.SafeDma := by
  have hlive : ∀ s : BitVec 8, s &&& virtioConfigSDriverOk ≠ 0 → v &&& virtioConfigSDriverOk ≠ 0 →
      ({ h with status := s } : Host).SafeDma := by
    intro s _ hv
    obtain hlive | ⟨-, hbacked⟩ := hasked.driverOk hv
    · exact hs.congr (fun _ => hlive) rfl rfl
    · exact ⟨fun _ => hbacked, hs.legacy⟩
  have hdead : ∀ s : BitVec 8, s &&& virtioConfigSDriverOk = 0 →
      ({ h with status := s } : Host).SafeDma := fun s hsOk =>
    hs.congr (fun hl => absurd hsOk hl) rfl rfl
  have hmask : ~~~virtioConfigSFeaturesOk &&& virtioConfigSDriverOk = virtioConfigSDriverOk := by
    decide
  obtain rfl | ⟨-, rfl⟩ := hw
  · by_cases hv : v &&& virtioConfigSDriverOk = 0
    · exact hdead v hv
    · exact hlive v hv hv
  · by_cases hv : v &&& virtioConfigSDriverOk = 0
    · refine hdead _ ?_
      rw [BitVec.and_assoc, hmask, hv]
    · refine hlive _ ?_ hv
      rw [BitVec.and_assoc, hmask]
      exact hv

theorem SafeDma.reset {h h' : Host} (hreset : h.Reset h') : h'.SafeDma where
  modern _ q hq := by rw [hreset.enable q] at hq; cases hq
  legacy q hq := absurd (hreset.pfn q) hq

theorem SafeDma.written {h h' : Host} (hs : h.SafeDma) {w : Nat} {r : Register w} {v : BitVec w}
    (hasked : h.WriteAsked r v) (hw : h.Written r v h') : h'.SafeDma := by
  cases r
  case deviceStatus =>
    simp only [Written] at hw
    split_ifs at hw with hv
    · rw [hw]
      exact hs.congr id rfl rfl
    · obtain hzero | ⟨hasked, -⟩ := hasked
      · exact absurd hzero hv
      · exact hs.statusWritten hasked hw
  case pciStatus =>
    simp only [Written] at hw
    split_ifs at hw with hv
    · exact .reset hw
    · exact hs.statusWritten (hasked.resolve_left hv) hw
  case queueEnable =>
    obtain ⟨-, hconf, -⟩ := hasked
    rw [show h' = _ from hw]
    refine ⟨fun hl => absurd hl hconf.driverOk, fun q hq => ?_⟩
    by_cases hsel : q = h.select
    · subst hsel
      simp only [Host.written, Host.setQueue, if_pos] at hq ⊢
      obtain ⟨p, hp, hring⟩ := hs.legacy _ hq
      exact ⟨p, hp, hring.phys, hring.size⟩
    · simp only [Host.written, Host.setQueue, if_neg hsel] at hq ⊢
      exact hs.legacy q hq
  case pciQueuePfn =>
    rw [show h' = _ from hw]
    refine ⟨fun hl q hq => ?_, fun q hq => ?_⟩
    · by_cases hsel : q = h.select
      · subst hsel
        simp only [Host.written, Host.setQueue, if_pos] at hq ⊢
        obtain ⟨p, hp, hring⟩ := hs.modern hl _ hq
        exact ⟨p, hp, hring.desc, hring.avail, hring.used⟩
      · simp only [Host.written, Host.setQueue, if_neg hsel] at hq ⊢
        exact hs.modern hl q hq
    · by_cases hsel : q = h.select
      · subst hsel
        simp only [Host.written, Host.setQueue, if_pos] at hq ⊢
        exact (hasked.2 hq).2
      · simp only [Host.written, Host.setQueue, if_neg hsel] at hq ⊢
        exact hs.legacy q hq
  case guestFeature =>
    rw [show h' = _ from hw]
    simp only [Host.written]
    split_ifs
    · exact hs.congr id rfl rfl
    · exact hs.congr id rfl rfl
    · exact hs
  case queueSize | queueDescLo | queueDescHi | queueAvailLo | queueAvailHi | queueUsedLo |
      queueUsedHi =>
    rw [show h' = _ from hw]
    simp only [Host.written]
    refine hs.setQueue hasked.2 ?_ ?_
    · exact fun _ => rfl
    · exact fun _ => rfl
  all_goals
    rw [show h' = _ from hw]
    exact hs.congr id rfl rfl

theorem SafeDma.read {h h' : Host} (hs : h.SafeDma) {w : Nat} {r : Register w} {v : BitVec w}
    (hr : h.Read r v h') : h'.SafeDma := by
  cases r
  case deviceStatus =>
    simp only [Read] at hr
    split_ifs at hr
    · obtain ⟨-, rfl⟩ | ⟨-, hreset⟩ := hr
      · exact hs
      · exact .reset hreset
    · rw [hr.2]
      exact hs
  case deviceFeature | queueSize | pciHostFeatures | pciQueuePfn | pciQueueNum | pciStatus =>
    rw [hr.2]
    exact hs
  all_goals
    rw [show h' = h from hr]
    exact hs

/-- Freed pages were not in use. -/
theorem SafeDma.free {h : Host} (hs : h.SafeDma) {virt : BitVec 64}
    (hunused : ∀ p ∈ h.pages, p.virt = virt → ¬h.Uses p) :
    ({ h with pages := h.pages.filter fun p => p.virt ≠ virt } : Host).SafeDma where
  modern hl q hq := by
    obtain ⟨p, hp, hring⟩ := hs.modern hl q hq
    refine ⟨p, List.mem_filter.mpr ⟨hp, ?_⟩, hring⟩
    simp only [ne_eq, decide_not, Bool.not_eq_eq_eq_not, Bool.not_true, decide_eq_false_iff_not]
    exact fun hvirt => hunused p hp hvirt (.inl ⟨hl, q, hq, hring⟩)
  legacy q hq := by
    obtain ⟨p, hp, hring⟩ := hs.legacy q hq
    refine ⟨p, List.mem_filter.mpr ⟨hp, ?_⟩, hring⟩
    simp only [ne_eq, decide_not, Bool.not_eq_eq_eq_not, Bool.not_true, decide_eq_false_iff_not]
    exact fun hvirt => hunused p hp hvirt (.inr ⟨q, hq, hring⟩)

theorem SafeDma.grow {h h' : Host} (hs : h.SafeDma) (hstatus : h'.status = h.status)
    (hqueue : h'.queue = h.queue) (hpages : ∀ p ∈ h.pages, p ∈ h'.pages) : h'.SafeDma where
  modern hl q hq := by
    rw [hqueue] at hq ⊢
    have hl' : h.Live := by rwa [Live, Has, ← hstatus]
    obtain ⟨p, hp, hring⟩ := hs.modern hl' q hq
    exact ⟨p, hpages p hp, hring⟩
  legacy q hq := by
    rw [hqueue] at hq ⊢
    obtain ⟨p, hp, hring⟩ := hs.legacy q hq
    exact ⟨p, hpages p hp, hring⟩

/-- **What is asked for is safe**: no call that the device asks for takes away memory it uses, or
makes it use memory that is not allocated. -/
theorem SafeDma.answers {h h' : Host} (hs : h.SafeDma) {c : TransportCall} {answer : c.Ans}
    (hasked : h.Requires c) (hanswer : h.Answers c answer h') : h'.SafeDma := by
  cases c
  case read => exact hs.read hanswer
  case write => exact hs.written hasked hanswer
  case allocContiguousPages =>
    obtain ⟨-, rfl⟩ | ⟨phys, -, rfl⟩ := hanswer
    · exact hs
    · exact hs.grow rfl rfl fun p hp => List.mem_cons_of_mem _ hp
  case allocNonpagedBlock =>
    obtain ⟨-, rfl⟩ | ⟨-, -, rfl⟩ := hanswer
    · exact hs
    · exact hs.grow rfl rfl fun p hp => hp
  case freeContiguousPages =>
    rw [show h' = _ from hanswer]
    exact hs.free hasked.2
  case freeNonpagedBlock =>
    rw [show h' = _ from hanswer]
    exact hs.grow rfl rfl fun p hp => hp
  case getPhysicalAddress =>
    rw [hanswer.2]
    exact hs
  all_goals
    rw [show h' = h from hanswer]
    exact hs

/-- A device after power-on with `VIRTIO_F_VERSION_1`, whose queues may have 64 entries. -/
def poweredOn : Host where
  status := 0
  resetting := false
  offered := 1#64 <<< 32
  deviceFeatureSelect := 0
  guestFeatureSelect := 0
  guestFeatures := 0
  select := 0
  queue := fun _ => ⟨64, false, 0, 0, 0, 0⟩
  pages := []
  blocks := []

end Host

/-- **The interface of a virtio device.** -/
def hostInterface : Interface Host TransportCall TransportCall.Ans where
  Requires := Host.Requires
  Answers := Host.Answers

end VioGpu.Transport
