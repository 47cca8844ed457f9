import VioGpu.Transport.Negotiation
import VioGpu.VirtIO.RingCreation

/-!
# The memory of the queues

A queue that is set up owns the pages of its ring and a control block. `Table` says that everything
the device structure names as owned is allocated, once each. As long as the device uses no ring,
the functions that shut down a queue and free its memory only touch and free what is allocated.
-/

namespace VioGpu.Transport

open Lib VirtIO

/-! ## Rings in pages -/

/-- The parts of a ring lie in the pages. -/
structure VringIn (p : Pages) (vring : VringParts) : Prop where
  desc : vring.descRegion.bytes ⊆ p.bytes
  avail : vring.availRegion.bytes ⊆ p.bytes
  used : vring.usedRegion.bytes ⊆ p.bytes

/-- The pages that `vio_modern_setup_vq` allocates have room for the ring. -/
theorem vringIn_modern {p : Pages} {num : BitVec 16} (haligned : p.virt.toNat % 4096 = 0)
    (hsize : (vringPciSize num).toNat ≤ p.size) :
    VringIn p (vringInit (num.setWidth 32) p.virt smpCacheBytes) := by
  have halign : smpCacheBytes = BitVec.twoPow 32 6 := by decide
  have hsixtyFour : p.virt.toNat % 2 ^ 6 = 0 := by omega
  have hlaid := vringInit_laidOut (num_le num) (show 2 ≤ 6 by decide) (show 6 < 32 by decide)
    hsixtyFour
  have hroom := vringSize_le_vringPciSize num
  rw [← halign] at hlaid
  have hinside : (Region.mk p.virt (vringSize (num.setWidth 32) smpCacheBytes).toNat).bytes ⊆
      p.bytes := by
    intro a ha
    have hlt : (a - p.virt).toNat < (vringSize (num.setWidth 32) smpCacheBytes).toNat := ha
    show (a - p.virt).toNat < p.size
    omega
  exact ⟨hlaid.desc_inside.trans hinside, hlaid.avail_inside.trans hinside,
    hlaid.used_inside.trans hinside⟩

/-- The queue of the device has the ring that the driver has in the pages. -/
structure Programmed (p : Pages) (vring : VringParts) (q : HostQueue) : Prop where
  size : q.size = vring.num.setWidth 16
  desc : q.desc = p.phys + (vring.desc - p.virt)
  avail : q.avail = p.phys + (vring.avail - p.virt)
  used : q.used = p.phys + (vring.used - p.virt)

theorem Programmed.ringIn {p : Pages} {vring : VringParts} {q : HostQueue}
    (hq : Programmed p vring q) (hnum : vring.num.toNat < 65536) (hring : VringIn p vring) :
    RingIn p q := by
  have hsize : q.size.toNat = vring.num.toNat := by
    rw [hq.size, BitVec.toNat_setWidth, Nat.mod_eq_of_lt hnum]
  constructor
  · rw [hq.desc, hsize]
    exact bytes_subset_shift hring.desc p.phys
  · rw [hq.avail, hsize]
    exact bytes_subset_shift hring.avail p.phys
  · rw [hq.used, hsize]
    exact bytes_subset_shift hring.used p.phys

/-! ## Owned memory -/

/-- The device uses no ring. -/
structure Unused (h : Host) : Prop where
  live : ¬h.Live
  pfn : ∀ q, (h.queue q).pfn = 0

theorem Unused.not_uses {h : Host} (hu : Unused h) (p : Pages) : ¬h.Uses p := by
  intro huses
  obtain ⟨hlive, -⟩ | ⟨q, hq, -⟩ := huses
  · exact hu.live hlive
  · exact hq (hu.pfn q)

/-- The pages and the control block of a queue of a modern device are allocated. -/
structure Owned (h : Host) (entry : VirtIOQueueInfo) (vq : Virtq) : Prop where
  vring : vq.vring = vringInit (entry.num.setWidth 32) entry.queue smpCacheBytes
  aligned : entry.queue.toNat % 4096 = 0
  pages : ∃ p ∈ h.pages, p.virt = entry.queue ∧ p.size = (vringPciSize entry.num).toNat
  control : ∃ b ∈ h.blocks, b.addr = vq.address ∧ 80 + 8 * entry.num.toNat ≤ b.size

theorem Owned.congr {h h' : Host} {entry : VirtIOQueueInfo} {vq : Virtq} (ho : Owned h entry vq)
    (hpages : ∀ p ∈ h.pages, p.virt = entry.queue → p ∈ h'.pages)
    (hblocks : ∀ b ∈ h.blocks, b.addr = vq.address → b ∈ h'.blocks) : Owned h' entry vq where
  vring := ho.vring
  aligned := ho.aligned
  pages := by
    obtain ⟨p, hp, hvirt, hsize⟩ := ho.pages
    exact ⟨p, hpages p hp hvirt, hvirt, hsize⟩
  control := by
    obtain ⟨b, hb, haddr, hsize⟩ := ho.control
    exact ⟨b, hblocks b hb haddr, haddr, hsize⟩

/-- What the device structure names as owned is allocated, and nothing is owned twice. -/
structure Table (vdev : VirtIODevice) (h : Host) : Prop where
  owned : ∀ i vq, (vdev.info i).vq = some vq → Owned h (vdev.info i) vq
  apart : ∀ i j vq vq', i ≠ j → (vdev.info i).vq = some vq → (vdev.info j).vq = some vq' →
    (vdev.info i).queue ≠ (vdev.info j).queue ∧ vq.address ≠ vq'.address

theorem Table.kept {vdev : VirtIODevice} {h k : Host} (ht : Table vdev h) (hk : Kept h k) :
    Table vdev k where
  owned i vq hvq := by
    refine (ht.owned i vq hvq).congr (fun p hp _ => ?_) (fun b hb _ => ?_)
    · rw [hk.pages]
      exact hp
    · rw [hk.blocks]
      exact hb
  apart := ht.apart

@[simp] theorem VirtIODevice.setInfo_self (vdev : VirtIODevice) (i : Nat)
    (entry : VirtIOQueueInfo) : (vdev.setInfo i entry).info i = entry := by
  simp only [VirtIODevice.setInfo, if_pos]

@[simp] theorem VirtIODevice.setInfo_of_ne (vdev : VirtIODevice) {i j : Nat}
    (entry : VirtIOQueueInfo) (hij : j ≠ i) : (vdev.setInfo i entry).info j = vdev.info j := by
  simp only [VirtIODevice.setInfo, if_neg hij]

/-- The memory of a queue is freed. -/
def Host.freed (h : Host) (control queue : BitVec 64) : Host :=
  { h with
    pages := h.pages.filter fun p => p.virt ≠ queue
    blocks := h.blocks.filter fun b => b.addr ≠ control }

/-- An entry that owns nothing takes the place of one. -/
theorem Table.drop {vdev : VirtIODevice} {h : Host} (ht : Table vdev h) (i : Nat)
    {entry : VirtIOQueueInfo} (hentry : entry.vq = none) : Table (vdev.setInfo i entry) h where
  owned j vq hvq := by
    by_cases hij : j = i
    · subst hij
      rw [VirtIODevice.setInfo_self, hentry] at hvq
      cases hvq
    · rw [VirtIODevice.setInfo_of_ne vdev entry hij] at hvq ⊢
      exact ht.owned j vq hvq
  apart j k vqj vqk hjk hj hk := by
    have hne : ∀ {l : Nat} {vq' : Virtq}, ((vdev.setInfo i entry).info l).vq = some vq' →
        l ≠ i := by
      intro l vq' hl hli
      subst hli
      rw [VirtIODevice.setInfo_self, hentry] at hl
      cases hl
    have hji := hne hj
    have hki := hne hk
    rw [VirtIODevice.setInfo_of_ne vdev entry hji] at hj ⊢
    rw [VirtIODevice.setInfo_of_ne vdev entry hki] at hk ⊢
    exact ht.apart j k vqj vqk hjk hj hk

/-- What a queue owns is freed and no longer named; the others keep theirs. -/
theorem Table.freed {vdev : VirtIODevice} {h : Host} (ht : Table vdev h) {i : Nat} {vq : Virtq}
    (hvq : (vdev.info i).vq = some vq) {entry : VirtIOQueueInfo} (hentry : entry.vq = none) :
    Table (vdev.setInfo i entry) (Host.freed h vq.address (vdev.info i).queue) where
  owned j vq' hvq' := by
    by_cases hij : j = i
    · subst hij
      rw [VirtIODevice.setInfo_self, hentry] at hvq'
      cases hvq'
    · rw [VirtIODevice.setInfo_of_ne vdev entry hij] at hvq' ⊢
      obtain ⟨hqueue, haddress⟩ := ht.apart j i vq' vq hij hvq' hvq
      refine (ht.owned j vq' hvq').congr (fun p hp hvirt => ?_) (fun b hb haddr => ?_)
      · refine List.mem_filter.mpr ⟨hp, decide_eq_true ?_⟩
        rw [hvirt]
        exact hqueue
      · refine List.mem_filter.mpr ⟨hb, decide_eq_true ?_⟩
        rw [haddr]
        exact haddress
  apart := (ht.drop i hentry).apart

namespace VirtIODevice

variable {vdev : VirtIODevice} {h : Host}

/-- A device structure as `virtio_device_initialize` makes it for a modern device; the entries of
its table may be anything. -/
structure Modern (vdev : VirtIODevice) : Prop where
  device : vdev.device = some .modern
  addr : vdev.addr = 0
  infoTable : vdev.infoTable = .inlineInfo
  infoSize : vdev.infoSize = VirtIO.VirtIODevice.maxQueuesPerDeviceDefault
  maxQueues : vdev.maxQueues = VirtIO.VirtIODevice.maxQueuesPerDeviceDefault

theorem Modern.setInfo (hm : vdev.Modern) (i : Nat) (entry : VirtIOQueueInfo) :
    (vdev.setInfo i entry).Modern :=
  ⟨hm.device, hm.addr, hm.infoTable, hm.infoSize, hm.maxQueues⟩

theorem Made.modern (hm : Made vdev .modern) : vdev.Modern :=
  ⟨hm.device, hm.addr rfl, hm.infoTable, hm.infoSize, hm.maxQueues⟩

/-! ## Shutting down and freeing -/

/-- **`virtqueue_shutdown`** of a queue of a modern device. -/
theorem ensures_virtqueueShutdown (hm : vdev.Modern) (hu : Unused h) {entry : VirtIOQueueInfo}
    {vq : Virtq} (ho : Owned h entry vq) :
    hostInterface.Ensures (vdev.virtqueueShutdown vq) (fun _ h' => h' = h) h := by
  obtain ⟨p, hp, hvirt, hsize⟩ := ho.pages
  obtain ⟨b, hb, haddr, hblock⟩ := ho.control
  have hnum : vq.vring.num = entry.num.setWidth 32 := by rw [ho.vring]; rfl
  have hdesc : vq.vring.desc = entry.queue := by rw [ho.vring]; rfl
  have hring : VringIn p (vringInit vq.vring.num vq.vring.desc smpCacheBytes) := by
    rw [hnum, hdesc, ← hvirt]
    exact vringIn_modern (by rw [hvirt]; exact ho.aligned) hsize.ge
  have hroom := vringSize_le_vringPciSize entry.num
  unfold virtqueueShutdown
  rw [hm.addr]
  simp only [ne_eq, not_true_eq_false, if_false]
  refine ensures_call_of ⟨p, hp, hvirt.trans hdesc.symm, ?_, fun huse => hu.live huse.1⟩
    fun _ h₁ hzero => ?_
  · rw [hnum, hsize]
    exact hroom
  · obtain rfl : h₁ = h := hzero
    unfold initializeVirtqueue
    split
    · trivial
    · refine ensures_call_of ⟨⟨p, hp, hring.desc, hring.avail, hring.used,
        fun huse => hu.live huse.1⟩,
        .inl ⟨b, hb, haddr, ?_⟩⟩ fun _ h₂ hinit => hinit
      show 80 + 8 * vq.vring.num.toNat ≤ b.size
      rw [hnum, toNat_setWidth_num]
      exact hblock

/-- `mem_free_nonpaged_block` and `mem_free_contiguous_pages` for a queue. -/
theorem ensures_freeQueue (hu : Unused h) {entry : VirtIOQueueInfo} {vq : Virtq}
    (ho : Owned h entry vq) :
    hostInterface.Ensures (freeQueue vq.address entry.queue)
      (fun _ h' => h' = Host.freed h vq.address entry.queue) h := by
  obtain ⟨p, hp, hvirt, -⟩ := ho.pages
  obtain ⟨b, hb, haddr, -⟩ := ho.control
  refine ensures_call_of ⟨b, hb, haddr⟩ fun _ h₁ hfree => ?_
  obtain rfl : h₁ = { h with blocks := h.blocks.filter fun b => b.addr ≠ vq.address } := hfree
  exact ensures_call_of ⟨⟨p, hp, hvirt⟩, fun p' _ _ => Unused.not_uses ⟨hu.live, hu.pfn⟩ p'⟩
    fun _ h₂ hfree => hfree

/-- One turn of `virtio_delete_queues`. -/
theorem ensures_deleteQueue (hm : vdev.Modern) (hidle : h.resetting = false) (hu : Unused h)
    (ht : Table vdev h) (i : Nat) :
    hostInterface.Ensures (vdev.deleteQueue i) (fun vdev' h' => vdev'.Modern ∧ Table vdev' h' ∧
      h'.status = h.status ∧ h'.resetting = h.resetting ∧ h'.queue = h.queue ∧
      (vdev'.info i).vq = none ∧ ∀ j, (vdev.info j).vq = none → (vdev'.info j).vq = none) h := by
  unfold deleteQueue
  split
  · trivial
  · cases hvq : (vdev.info i).vq with
    | none => exact ⟨hm, ht, rfl, rfl, rfl, hvq, fun _ hj => hj⟩
    | some vq =>
      simp only [hm.device]
      have ho := ht.owned i vq hvq
      have hdel : hostInterface.Ensures (vdev.vioModernDelVq (vdev.info i) vq)
          (fun _ h' => ∃ sel, h' = Host.freed { h with select := sel } vq.address
            (vdev.info i).queue) h := by
        unfold vioModernDelVq
        refine ensures_write_bind hidle fun h₁ hw => ?_
        obtain rfl : h₁ = { h with select := vq.index.setWidth 16 } := hw
        have hu₁ : Unused { h with select := vq.index.setWidth 16 } := ⟨hu.live, hu.pfn⟩
        have ho₁ : Owned { h with select := vq.index.setWidth 16 } (vdev.info i) vq :=
          ho.congr (fun _ hp _ => hp) (fun _ hb _ => hb)
        have hrest : hostInterface.Ensures (do
            vdev.virtqueueShutdown vq
            freeQueue vq.address (vdev.info i).queue) (fun _ h' => ∃ sel, h' = Host.freed
              { h with select := sel } vq.address (vdev.info i).queue)
            { h with select := vq.index.setWidth 16 } := by
          refine (ensures_virtqueueShutdown hm hu₁ ho₁).bind fun _ h₂ hsame => ?_
          subst hsame
          exact (ensures_freeQueue hu₁ ho₁).mono fun _ h' hfreed => ⟨_, hfreed⟩
        split
        · refine ensures_write_bind hidle fun h₂ hw => ?_
          obtain rfl : h₂ = { h with select := vq.index.setWidth 16 } := hw
          refine ensures_read_bind hidle fun v h₃ hread => ?_
          obtain rfl : h₃ = { h with select := vq.index.setWidth 16 } := hread
          exact hrest
        · exact hrest
      refine hdel.bind fun _ h' hfreed => ?_
      obtain ⟨sel, rfl⟩ := hfreed
      refine ⟨hm.setInfo _ _, ?_, rfl, rfl, rfl, ?_, fun j hj => ?_⟩
      · exact (ht.kept (k := { h with select := sel }) ⟨rfl, rfl, rfl⟩).freed hvq rfl
      · rw [setInfo_self]
      · by_cases hji : j = i
        · subst hji
          rw [setInfo_self]
        · rw [setInfo_of_ne vdev _ hji]
          exact hj

end VirtIODevice

end VioGpu.Transport
