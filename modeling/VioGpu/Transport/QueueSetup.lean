import VioGpu.Transport.RingMemory

/-!
# The queues of a modern device

`vio_modern_setup_vq` programs the selected queue of the device with the ring it has allocated and
enables it at its end. `Serving word vdev h n` is what holds when `n` queues are set up: exactly
these are enabled, each with the ring that the device structure names for it, and all the memory is
allocated. A setup that fails leaves the memory of the other queues alone.
-/

namespace VioGpu.Transport

open Lib VirtIO

/-! ## Programming a queue -/

theorem setQueue_setQueue (h : Host) (f g : HostQueue → HostQueue) :
    (h.setQueue f).setQueue g = h.setQueue fun q => g (f q) := by
  simp only [Host.setQueue, Host.mk.injEq, true_and, and_true]
  ext q : 1
  split <;> rfl

theorem setQueue_select (h : Host) (f : HostQueue → HostQueue) :
    (h.setQueue f).queue h.select = f (h.queue h.select) := by
  simp only [Host.setQueue, if_pos]

theorem setQueue_of_ne (h : Host) (f : HostQueue → HostQueue) {q : BitVec 16}
    (hq : q ≠ h.select) : (h.setQueue f).queue q = h.queue q := by
  simp only [Host.setQueue, if_neg hq]

/-- Nothing but the registers of the selected queue changes, and it stays out of use. -/
structure Tunes (f : HostQueue → HostQueue) : Prop where
  enable : ∀ q, (f q).enable = q.enable
  pfn : ∀ q, (f q).pfn = q.pfn

/-- The selected queue may be programmed. -/
structure Tunable (h : Host) : Prop where
  configuring : h.Configuring
  selected : h.SelectedIdle

theorem Tunable.setQueue {h : Host} (ht : Tunable h) {f : HostQueue → HostQueue} (hf : Tunes f) :
    Tunable (h.setQueue f) where
  configuring := ⟨ht.configuring.idle, ht.configuring.driver, ht.configuring.featuresOk,
    ht.configuring.driverOk⟩
  selected := by
    refine ⟨?_, ?_⟩
    · rw [show (h.setQueue f).select = h.select from rfl, setQueue_select, hf.enable]
      exact ht.selected.1
    · rw [show (h.setQueue f).select = h.select from rfl, setQueue_select, hf.pfn]
      exact ht.selected.2

theorem Unused.setQueue {h : Host} (hu : Unused h) {f : HostQueue → HostQueue} (hf : Tunes f) :
    Unused (h.setQueue f) where
  live := hu.live
  pfn q := by
    by_cases hq : q = h.select
    · subst hq
      rw [setQueue_select, hf.pfn]
      exact hu.pfn _
    · rw [setQueue_of_ne h f hq]
      exact hu.pfn q

/-- Two registers hold the halves of one address of the selected queue. -/
structure Halves (lo hi : Register 32) (put : BitVec 64 → HostQueue → HostQueue)
    (get : HostQueue → BitVec 64) : Prop where
  asked_lo : ∀ h : Host, Tunable h → ∀ v, h.WriteAsked lo v
  asked_hi : ∀ h : Host, Tunable h → ∀ v, h.WriteAsked hi v
  written_lo : ∀ (h h' : Host) v, h.Written lo v h' →
    h' = h.setQueue fun q => put (Host.lowWritten (get q) v) q
  written_hi : ∀ (h h' : Host) v, h.Written hi v h' →
    h' = h.setQueue fun q => put (Host.highWritten (get q) v) q
  get_put : ∀ x q, get (put x q) = x
  put_put : ∀ x y q, put y (put x q) = put y q
  tunes : ∀ get' : HostQueue → BitVec 64, Tunes fun q => put (get' q) q

def putDesc (x : BitVec 64) (q : HostQueue) : HostQueue := { q with desc := x }

def putAvail (x : BitVec 64) (q : HostQueue) : HostQueue := { q with avail := x }

def putUsed (x : BitVec 64) (q : HostQueue) : HostQueue := { q with used := x }

theorem halves_desc : Halves .queueDescLo .queueDescHi putDesc HostQueue.desc :=
  ⟨fun _ ht _ => ⟨ht.configuring, ht.selected⟩, fun _ ht _ => ⟨ht.configuring, ht.selected⟩,
    fun _ _ _ hw => hw, fun _ _ _ hw => hw, fun _ _ => rfl, fun _ _ _ => rfl,
    fun _ => ⟨fun _ => rfl, fun _ => rfl⟩⟩

theorem halves_avail : Halves .queueAvailLo .queueAvailHi putAvail HostQueue.avail :=
  ⟨fun _ ht _ => ⟨ht.configuring, ht.selected⟩, fun _ ht _ => ⟨ht.configuring, ht.selected⟩,
    fun _ _ _ hw => hw, fun _ _ _ hw => hw, fun _ _ => rfl, fun _ _ _ => rfl,
    fun _ => ⟨fun _ => rfl, fun _ => rfl⟩⟩

theorem halves_used : Halves .queueUsedLo .queueUsedHi putUsed HostQueue.used :=
  ⟨fun _ ht _ => ⟨ht.configuring, ht.selected⟩, fun _ ht _ => ⟨ht.configuring, ht.selected⟩,
    fun _ _ _ hw => hw, fun _ _ _ hw => hw, fun _ _ => rfl, fun _ _ _ => rfl,
    fun _ => ⟨fun _ => rfl, fun _ => rfl⟩⟩

theorem Tunes.comp {f g : HostQueue → HostQueue} (hg : Tunes g) (hf : Tunes f) :
    Tunes fun q => g (f q) where
  enable q := (hg.enable _).trans (hf.enable q)
  pfn q := (hg.pfn _).trans (hf.pfn q)

/-- The device is told where in the pages a part of the ring is. -/
theorem ensures_place {lo hi : Register 32} {put : BitVec 64 → HostQueue → HostQueue}
    {get : HostQueue → BitVec 64} (hh : Halves lo hi put get) {h : Host} (ht : Tunable h)
    {f : HostQueue → HostQueue} (hf : Tunes f) {p : Pages} (hp : p ∈ h.pages) {a : BitVec 64}
    (ha : a ∈ p.bytes) :
    hostInterface.Ensures
      (.call (.getPhysicalAddress a) fun pa => iowrite64Twopart pa lo hi : TransportProgram Unit)
      (fun _ h' => h' = h.setQueue fun q => put (p.phys + (a - p.virt)) (f q)) (h.setQueue f) := by
  have ht' := ht.setQueue hf
  refine ensures_call_of ⟨p, hp, ha⟩ fun pa h₁ hpa => ?_
  obtain ⟨hpa, rfl⟩ := hpa
  obtain rfl := hpa p hp ha
  refine ensures_write_bind (hh.asked_lo _ ht' _) fun h₂ hw => ?_
  obtain rfl := hh.written_lo _ _ _ hw
  refine ensures_write (hh.asked_hi _ (ht'.setQueue (hh.tunes _)) _) fun h₃ hw => ?_
  rw [hh.written_hi _ _ _ hw, setQueue_setQueue, setQueue_setQueue]
  congr 1
  ext q : 1
  rw [hh.get_put, hh.put_put, highWritten_lowWritten]

/-! ## Rings are allocated -/

/-- Pages of a size are allocated, or the attempt fails. -/
def Allocated (h : Host) (num : BitVec 16) (queue : BitVec 64) (h' : Host) : Prop :=
  (queue = 0 ∧ h' = h) ∨
    (queue ≠ 0 ∧ ∃ p, h.Fresh p ∧ p.virt = queue ∧ p.size = (vringPciSize num).toNat ∧
      h' = { h with pages := p :: h.pages })

/-- **The loop that allocates the ring**: the pages are those for the size that it returns. -/
theorem ensures_allocRing (h : Host) (num : BitVec 16) :
    hostInterface.Ensures (VirtIODevice.allocRing num)
      (fun r h' => r.1.toNat ≤ num.toNat ∧ Allocated h r.1 r.2 h') h := by
  induction num using VirtIODevice.allocRing.induct with
  | case1 num ih =>
    rw [VirtIODevice.allocRing]
    refine ensures_call_of trivial fun queue h₁ halloc => ?_
    split
    · rename_i hqueue
      obtain ⟨hzero, -⟩ | ⟨phys, hfresh, rfl⟩ := halloc
      · exact absurd hzero hqueue
      · exact ⟨le_rfl, .inr ⟨hqueue, _, hfresh, rfl, rfl, rfl⟩⟩
    · rename_i hqueue
      rw [not_not] at hqueue
      have hsame : h₁ = h := by
        obtain ⟨-, rfl⟩ | ⟨phys, hfresh, -⟩ := halloc
        · rfl
        · exact absurd hqueue hfresh.virt
      subst hsame
      split
      · rename_i hpos
        refine (ih hpos).mono fun r h' hr => ⟨?_, hr.2⟩
        have hhalf : (num / 2).toNat = num.toNat / 2 := BitVec.toNat_udiv
        have hle := hr.1
        omega
      · exact ⟨le_rfl, .inl ⟨rfl, rfl⟩⟩

/-! ## The table grows -/

theorem Table.grow {vdev : VirtIODevice} {h h' : Host} (ht : Table vdev h)
    (hpages : ∀ p ∈ h.pages, p ∈ h'.pages) (hblocks : ∀ b ∈ h.blocks, b ∈ h'.blocks) :
    Table vdev h' where
  owned i vq hvq :=
    (ht.owned i vq hvq).congr (fun p hp _ => hpages p hp) (fun b hb _ => hblocks b hb)
  apart := ht.apart

/-- The memory of a new queue is recorded. -/
theorem Table.record {vdev : VirtIODevice} {h : Host} (ht : Table vdev h) (i : Nat) {p : Pages}
    {b : PoolBlock} {vq : Virtq} {num : BitVec 16} (hp : h.Fresh p)
    (hb : ∀ b' ∈ h.blocks, b'.addr ≠ b.addr) (hsize : p.size = (vringPciSize num).toNat)
    (haddress : vq.address = b.addr) (hcontrol : 80 + 8 * num.toNat ≤ b.size)
    (hvring : vq.vring = vringInit (num.setWidth 32) p.virt smpCacheBytes) :
    Table (vdev.setInfo i ⟨some vq, num, p.virt⟩)
      { h with pages := p :: h.pages, blocks := b :: h.blocks } where
  owned j vq' hvq' := by
    by_cases hij : j = i
    · subst hij
      rw [VirtIODevice.setInfo_self] at hvq' ⊢
      obtain rfl := Option.some.inj hvq'
      exact ⟨hvring, hp.aligned, ⟨p, List.mem_cons_self, rfl, hsize⟩,
        ⟨b, List.mem_cons_self, haddress.symm, hcontrol⟩⟩
    · rw [VirtIODevice.setInfo_of_ne vdev _ hij] at hvq' ⊢
      exact (ht.owned j vq' hvq').congr (fun p' hp' _ => List.mem_cons_of_mem _ hp')
        (fun b' hb' _ => List.mem_cons_of_mem _ hb')
  apart j k vqj vqk hjk hj hk := by
    have hother : ∀ {l : Nat} {vq' : Virtq}, (vdev.info l).vq = some vq' →
        (vdev.info l).queue ≠ p.virt ∧ vq'.address ≠ vq.address := by
      intro l vq' hl
      have ho := ht.owned l vq' hl
      obtain ⟨p', hp', hvirt, -⟩ := ho.pages
      obtain ⟨b', hb', haddr, -⟩ := ho.control
      rw [← hvirt, ← haddr, haddress]
      exact ⟨(hp.apart p' hp').1.symm, hb b' hb'⟩
    by_cases hji : j = i
    · have hki : k ≠ i := fun hki => hjk (hji.trans hki.symm)
      subst hji
      rw [VirtIODevice.setInfo_of_ne vdev _ hki] at hk ⊢
      rw [VirtIODevice.setInfo_self] at hj ⊢
      obtain rfl := Option.some.inj hj
      exact ⟨(hother hk).1.symm, (hother hk).2.symm⟩
    · rw [VirtIODevice.setInfo_of_ne vdev _ hji] at hj ⊢
      by_cases hki : k = i
      · subst hki
        rw [VirtIODevice.setInfo_self] at hk ⊢
        obtain rfl := Option.some.inj hk
        exact hother hj
      · rw [VirtIODevice.setInfo_of_ne vdev _ hki] at hk ⊢
        exact ht.apart j k vqj vqk hjk hj hk

/-! ## Queues in service -/

/-- `n` queues of a device with the features `word` are set up, with `FEATURES_OK` and without
`DRIVER_OK`. -/
structure Serving (word : BitVec 64) (vdev : VirtIODevice) (h : Host) (n : Nat) : Prop where
  phase : Phase h 0xb
  features : h.guestFeatures = word
  pfn : ∀ q, (h.queue q).pfn = 0
  table : Table vdev h
  programmed : ∀ i < n, (h.queue (BitVec.ofNat 16 i)).enable = true ∧
    ∃ vq p, (vdev.info i).vq = some vq ∧ p ∈ h.pages ∧ VringIn p vq.vring ∧
      Programmed p vq.vring (h.queue (BitVec.ofNat 16 i))
  enabled : ∀ q, (h.queue q).enable = true → q.toNat < n
  blank : ∀ i, n ≤ i → (vdev.info i).vq = none

section

variable {word : BitVec 64} {vdev : VirtIODevice} {h : Host} {n : Nat}

/-- Rings of at most 65535 entries. -/
theorem Owned.num_lt {h : Host} {entry : VirtIOQueueInfo} {vq : Virtq} (ho : Owned h entry vq) :
    vq.vring.num.toNat < 65536 := by
  have hle := num_le entry.num
  rw [ho.vring]
  exact Nat.lt_of_le_of_lt hle (by decide)

theorem Serving.backed (hs : Serving word vdev h n) :
    h.Backed := by
  intro q hq
  obtain ⟨-, vq, p, hvq, hp, hring, hprog⟩ := hs.programmed q.toNat (hs.enabled q hq)
  rw [BitVec.ofNat_toNat, BitVec.setWidth_eq] at hprog
  exact ⟨p, hp, hprog.ringIn (hs.table.owned _ vq hvq).num_lt hring⟩

theorem Phase.unused {h : Host} {bits : BitVec 8} (hp : Phase h bits)
    (hbits : bits &&& virtioConfigSDriverOk = 0) (hpfn : ∀ q, (h.queue q).pfn = 0) :
    Unused h where
  live hl := hp.live_iff.mp hl hbits
  pfn := hpfn

/-- The state between the queues, with any queue selected and more memory allocated. -/
theorem Serving.grow {k : Host} (hs : Serving word vdev h n)
    (hstatus : k.status = h.status) (hresetting : k.resetting = h.resetting)
    (hfeatures : k.guestFeatures = h.guestFeatures) (hqueue : k.queue = h.queue)
    (hpages : ∀ p ∈ h.pages, p ∈ k.pages)
    (hblocks : ∀ b ∈ h.blocks, b ∈ k.blocks) : Serving word vdev k n where
  phase := ⟨hresetting.trans hs.phase.idle, by rw [hstatus]; exact hs.phase.status⟩
  features := hfeatures.trans hs.features
  pfn q := by
    rw [hqueue]
    exact hs.pfn q
  table := hs.table.grow hpages hblocks
  programmed i hi := by
    rw [hqueue]
    obtain ⟨henable, vq, p, hvq, hp, hrest⟩ := hs.programmed i hi
    exact ⟨henable, vq, p, hvq, hpages p hp, hrest⟩
  enabled q := by
    rw [hqueue]
    exact hs.enabled q
  blank := hs.blank

theorem VirtIODevice.setInfo_setInfo (vdev : VirtIODevice) (i : Nat)
    (entry entry' : VirtIOQueueInfo) :
    (vdev.setInfo i entry).setInfo i entry' = vdev.setInfo i entry' := by
  simp only [VirtIODevice.setInfo, VirtIODevice.mk.injEq, true_and]
  ext j : 1
  split <;> rfl

theorem VirtIODevice.setInfo_same (vdev : VirtIODevice) (i : Nat) :
    vdev.setInfo i (vdev.info i) = vdev := by
  have hinfo : (fun j => if j = i then vdev.info i else vdev.info j) = vdev.info := by
    ext j : 1
    split
    · rename_i hj
      rw [hj]
    · rfl
  rw [VirtIODevice.setInfo, hinfo]

/-- The queue has its registers, and is not enabled yet. -/
structure Configured (word : BitVec 64) (vdev : VirtIODevice) (h : Host) (n : Nat) (vq : Virtq)
    (p : Pages) : Prop where
  serving : Serving word vdev h n
  select : h.select = BitVec.ofNat 16 n
  pages : p ∈ h.pages
  ring : VringIn p vq.vring
  programmed : Programmed p vq.vring (h.queue (BitVec.ofNat 16 n))
  table : Table (vdev.setInfo n { vdev.info n with vq := some vq }) h

theorem ofNat_ne {i n : Nat} (hi : i < n) (hn : n < 65536) :
    BitVec.ofNat 16 i ≠ BitVec.ofNat 16 n := by
  intro heq
  have hnat := congrArg BitVec.toNat heq
  rw [BitVec.toNat_ofNat, BitVec.toNat_ofNat, Nat.mod_eq_of_lt (by omega),
    Nat.mod_eq_of_lt (by omega)] at hnat
  omega

/-- The next queue is not in use. -/
theorem Serving.selectedIdle (hs : Serving word vdev h n)
    (hn : n < 65536) (hsel : h.select = BitVec.ofNat 16 n) : h.SelectedIdle := by
  refine ⟨?_, hs.pfn _⟩
  by_contra henable
  have hlt := hs.enabled h.select (Bool.not_eq_false _ ▸ henable)
  rw [hsel, BitVec.toNat_ofNat, Nat.mod_eq_of_lt hn] at hlt
  omega

theorem Serving.configuring (hs : Serving word vdev h n) :
    h.Configuring where
  idle := hs.phase.idle
  driver := (hs.phase.has_iff (by decide)).mpr (by decide)
  featuresOk := (hs.phase.has_iff (by decide)).mpr (by decide)
  driverOk hl := absurd (hs.phase.live_iff.mp hl) (by decide)

/-- The registers of the next queue are not those of a queue in service. -/
theorem Serving.tune (hs : Serving word vdev h n)
    (hn : n < 65536) (hsel : h.select = BitVec.ofNat 16 n) {f : HostQueue → HostQueue}
    (hf : Tunes f) : Serving word vdev (h.setQueue f) n where
  phase := ⟨hs.phase.idle, hs.phase.status⟩
  features := hs.features
  pfn := (Unused.setQueue (hs.phase.unused (by decide) hs.pfn) hf).pfn
  table := hs.table.grow (fun _ hp => hp) fun _ hb => hb
  programmed i hi := by
    have hne : BitVec.ofNat 16 i ≠ h.select := by
      rw [hsel]
      exact ofNat_ne hi hn
    rw [setQueue_of_ne h f hne]
    exact hs.programmed i hi
  enabled q hq := by
    by_cases hqs : q = h.select
    · subst hqs
      rw [setQueue_select, hf.enable, (hs.selectedIdle hn hsel).1] at hq
      cases hq
    · rw [setQueue_of_ne h f hqs] at hq
      exact hs.enabled q hq
  blank := hs.blank

/-- The device is told of the ring of the queue. -/
theorem Serving.configured {vq : Virtq} {p : Pages} (hs : Serving word vdev h n) (hn : n < 65536)
    (hsel : h.select = BitVec.ofNat 16 n) (hp : p ∈ h.pages) (hring : VringIn p vq.vring)
    (ht : Table (vdev.setInfo n { vdev.info n with vq := some vq }) h) {f : HostQueue → HostQueue}
    (hf : Tunes f) (hprog : ∀ q, Programmed p vq.vring (f q)) :
    Configured word vdev (h.setQueue f) n vq p where
  serving := hs.tune hn hsel hf
  select := hsel
  pages := hp
  ring := hring
  programmed := by
    rw [← hsel, setQueue_select]
    exact hprog _
  table := ht.grow (fun _ hp => hp) fun _ hb => hb

/-- The next queue, programmed, is enabled and recorded. -/
theorem Configured.enable {vq : Virtq} {p : Pages}
    (hc : Configured word vdev h n vq p) (hn : n < 65536) :
    Serving word (vdev.setInfo n { vdev.info n with vq := some vq })
      (h.setQueue fun q => { q with enable := true }) (n + 1) where
  phase := ⟨hc.serving.phase.idle, hc.serving.phase.status⟩
  features := hc.serving.features
  pfn q := by
    by_cases hq : q = h.select
    · subst hq
      rw [setQueue_select]
      exact hc.serving.pfn _
    · rw [setQueue_of_ne h _ hq]
      exact hc.serving.pfn q
  table := hc.table.grow (fun _ hp => hp) fun _ hb => hb
  programmed i hi := by
    by_cases hin : i = n
    · subst hin
      rw [← hc.select, setQueue_select, VirtIODevice.setInfo_self]
      have hprog := hc.programmed
      rw [← hc.select] at hprog
      exact ⟨rfl, vq, p, rfl, hc.pages, hc.ring, hprog.size, hprog.desc, hprog.avail, hprog.used⟩
    · have hlt : i < n := by omega
      have hne : BitVec.ofNat 16 i ≠ h.select := by
        rw [hc.select]
        exact ofNat_ne hlt hn
      rw [setQueue_of_ne h _ hne, VirtIODevice.setInfo_of_ne vdev _ hin]
      exact hc.serving.programmed i hlt
  enabled q hq := by
    by_cases hqs : q = h.select
    · rw [hqs, hc.select, BitVec.toNat_ofNat, Nat.mod_eq_of_lt hn]
      exact Nat.lt_succ_self n
    · rw [setQueue_of_ne h _ hqs] at hq
      exact Nat.lt_succ_of_lt (hc.serving.enabled q hq)
  blank i hi := by
    rw [VirtIODevice.setInfo_of_ne vdev _ (show i ≠ n by omega)]
    exact hc.serving.blank i (by omega)

theorem Serving.selected (hs : Serving word vdev h n)
    (sel : BitVec 16) : Serving word vdev { h with select := sel } n :=
  hs.grow (k := { h with select := sel }) rfl rfl rfl rfl (fun _ hp => hp) fun _ hb => hb

/-- What the entry of the next queue says does not matter. -/
theorem Serving.setInfo (hs : Serving word vdev h n) {entry : VirtIOQueueInfo}
    (hentry : entry.vq = none) : Serving word (vdev.setInfo n entry) h n where
  phase := hs.phase
  features := hs.features
  pfn := hs.pfn
  table := hs.table.drop n hentry
  programmed i hi := by
    rw [VirtIODevice.setInfo_of_ne vdev entry (Nat.ne_of_lt hi)]
    exact hs.programmed i hi
  enabled := hs.enabled
  blank i hi := by
    by_cases hin : i = n
    · rw [hin, VirtIODevice.setInfo_self, hentry]
    · rw [VirtIODevice.setInfo_of_ne vdev entry hin]
      exact hs.blank i hi

/-- Nothing is in service any more, but the memory is still accounted for. -/
structure Holding (vdev : VirtIODevice) (h : Host) (bits : BitVec 8) : Prop where
  phase : Phase h bits
  pfn : ∀ q, (h.queue q).pfn = 0
  table : Table vdev h

theorem Serving.holding (hs : Serving word vdev h n) :
    Holding vdev h 0xb := ⟨hs.phase, hs.pfn, hs.table⟩

theorem Holding.unused (hh : Holding vdev h 0xb) : Unused h :=
  hh.phase.unused (by decide) hh.pfn

end

namespace VirtIODevice

variable {word : BitVec 64} {vdev : VirtIODevice} {h : Host} {n : Nat}

/-! ## One queue -/

/-- What `vio_modern_query_vq_alloc` leaves: with an allocation, the queue is selected. -/
theorem ensures_modernQueryVqAlloc (hidle : h.resetting = false) (n : Nat) :
    hostInterface.Ensures (vioModernQueryVqAlloc (BitVec.ofNat 32 n)) (fun r h' =>
      (∃ sel, h' = { h with select := sel }) ∧
      ∀ a, r = .ok a → h' = { h with select := BitVec.ofNat 16 n } ∧
        a.heapSize = modernHeapSize a.numEntries) h := by
  have hsel : (BitVec.ofNat 32 n).setWidth 16 = BitVec.ofNat 16 n :=
    BitVec.setWidth_ofNat_of_le (by decide) n
  unfold vioModernQueryVqAlloc
  refine ensures_read_bind hidle fun numQueues h₁ hread => ?_
  obtain rfl : h₁ = h := hread
  split
  · exact ⟨⟨h₁.select, rfl⟩, fun a ha => by cases ha⟩
  · refine ensures_write_bind hidle fun h₂ hw => ?_
    obtain rfl : h₂ = { h₁ with select := (BitVec.ofNat 32 n).setWidth 16 } := hw
    rw [hsel]
    refine ensures_read_bind hidle fun num h₃ hread => ?_
    obtain ⟨-, rfl⟩ := hread
    split
    · exact ⟨⟨_, rfl⟩, fun a ha => by cases ha⟩
    · split
      · exact ⟨⟨_, rfl⟩, fun a ha => by cases ha⟩
      · refine ⟨⟨_, rfl⟩, fun a ha => ?_⟩
        obtain rfl := Except.ok.inj ha
        exact ⟨rfl, rfl⟩

/-- What `vio_modern_setup_vq` is to leave: with the queue recorded one more is in service; where
it fails, the memory is still accounted for. -/
structure SetUp (word : BitVec 64) (n : Nat) (r : Except TransportStatus Virtq × VirtIODevice)
    (h' : Host) : Prop where
  modern : r.2.Modern
  ok : ∀ vq, r.1 = .ok vq →
    Serving word (r.2.setInfo n { r.2.info n with vq := some vq }) h' (n + 1)
  error : ∀ status, r.1 = .error status → Holding r.2 h' 0xb

/-- `vring_new_virtqueue` in the memory of the queue. -/
theorem ensures_newVirtqueue (hu : Unused h) {entry : VirtIOQueueInfo} {control : BitVec 64}
    (ho : Owned h entry ⟨control, BitVec.ofNat 32 n,
      vringInit (entry.num.setWidth 32) entry.queue smpCacheBytes⟩) :
    hostInterface.Ensures (vringNewVirtqueue (BitVec.ofNat 32 n) (entry.num.setWidth 32)
        smpCacheBytes entry.queue control)
      (fun r h' => h' = h ∧ (r = none ∨ r = some ⟨control, BitVec.ofNat 32 n,
        vringInit (entry.num.setWidth 32) entry.queue smpCacheBytes⟩)) h := by
  obtain ⟨p, hp, hvirt, hsize⟩ := ho.pages
  obtain ⟨b, hb, haddr, hblock⟩ := ho.control
  have hring : VringIn p (vringInit (entry.num.setWidth 32) entry.queue smpCacheBytes) := by
    rw [← hvirt]
    exact vringIn_modern (by rw [hvirt]; exact ho.aligned) hsize.ge
  unfold vringNewVirtqueue initializeVirtqueue
  split
  · exact ⟨rfl, .inl rfl⟩
  · split
    · exact ⟨rfl, .inl rfl⟩
    · split
      · trivial
      · refine ensures_call_of ⟨⟨p, hp, hring.desc, hring.avail, hring.used,
          fun huse => hu.live huse.1⟩,
          .inl ⟨b, hb, haddr, ?_⟩⟩ fun _ h₁ hinit => ?_
        · show 80 + 8 * (entry.num.setWidth 32).toNat ≤ b.size
          rw [toNat_setWidth_num]
          exact hblock
        · obtain rfl : h₁ = h := hinit
          exact ⟨rfl, .inr rfl⟩

/-- Where the setup of a queue gives up after its memory was allocated. -/
theorem ensures_abandon {vq : Virtq} (hm : vdev.Modern) (hs : Serving word vdev h n)
    (ht : Table (vdev.setInfo n { vdev.info n with vq := some vq }) h) (status : TransportStatus) :
    hostInterface.Ensures (do
      vdev.virtqueueShutdown vq
      freeQueue vq.address (vdev.info n).queue
      return .error status : TransportProgram (Except TransportStatus Virtq))
      (fun r h' => r = .error status ∧ Holding vdev h' 0xb) h := by
  have hu : Unused h := hs.holding.unused
  have ho : Owned h (vdev.info n) vq := by
    have howned := ht.owned n vq (by rw [setInfo_self])
    rw [setInfo_self] at howned
    exact ⟨howned.vring, howned.aligned, howned.pages, howned.control⟩
  have htable : Table vdev (Host.freed h vq.address (vdev.info n).queue) := by
    have hfreed := ht.freed (i := n) (by rw [setInfo_self]) (hs.blank n le_rfl)
    have hback : (vdev.setInfo n { vdev.info n with vq := some vq }).setInfo n (vdev.info n) =
        vdev := by
      rw [setInfo_setInfo, setInfo_same]
    rwa [hback, setInfo_self] at hfreed
  refine (ensures_virtqueueShutdown hm hu ho).bind fun _ h₁ hsame => ?_
  subst hsame
  refine (ensures_freeQueue hu ho).bind fun _ h₂ hfreed => ?_
  subst hfreed
  exact ⟨rfl, ⟨hs.phase.idle, hs.phase.status⟩, hs.pfn, htable⟩

theorem ensures_setQueueVector {vq : Virtq} {p : Pages} (hm : vdev.Modern)
    (hc : Configured word vdev h n vq p) (hindex : vq.index = BitVec.ofNat 32 n)
    (msixVec : BitVec 16) :
    hostInterface.Ensures (vdev.virtioSetQueueVector vq msixVec) (fun _ h' => h' = h) h := by
  have hsel : vq.index.setWidth 16 = h.select := by
    rw [hindex, hc.select]
    exact BitVec.setWidth_ofNat_of_le (by decide) n
  unfold virtioSetQueueVector vioModernSetQueueVector
  rw [hm.device]
  refine ensures_write_bind hc.serving.phase.idle fun h₁ hw => ?_
  obtain rfl : h₁ = h := by
    rw [hsel] at hw
    exact hw
  refine ensures_write_bind hc.serving.phase.idle fun h₂ hw => ?_
  obtain rfl : h₂ = h₁ := hw
  exact ensures_read hc.serving.phase.idle fun v h₃ hread => hread

theorem ensures_enable {vq : Virtq} {p : Pages} (hc : Configured word vdev h n vq p)
    (hn : n < 65536) :
    hostInterface.Ensures (do
      iowrite 1 .queueEnable
      return .ok vq : TransportProgram (Except TransportStatus Virtq)) (fun r h' =>
        (r = .ok vq ∧ Serving word (vdev.setInfo n { vdev.info n with vq := some vq }) h' (n + 1)) ∨
        ((∃ status, r = .error status) ∧ Holding vdev h' 0xb)) h := by
  have ho : Owned h { vdev.info n with vq := some vq } vq := by
    have howned := hc.table.owned n vq (by rw [setInfo_self])
    rwa [setInfo_self] at howned
  have hin : RingIn p (h.queue h.select) := by
    rw [hc.select]
    exact hc.programmed.ringIn ho.num_lt hc.ring
  refine ensures_write_bind ⟨rfl, hc.serving.configuring, hc.serving.selectedIdle hn hc.select,
    p, hc.pages, hin⟩ fun h₁ hw => ?_
  obtain rfl : h₁ = h.setQueue fun q => { q with enable := true } := hw
  exact .inl ⟨rfl, hc.enable hn⟩

/-- **The activation of a queue.** -/
theorem ensures_activateQueue {vq : Virtq} {p : Pages} (hm : vdev.Modern)
    (hs : Serving word vdev h n) (hn : n < 65536) (hsel : h.select = BitVec.ofNat 16 n)
    (hindex : vq.index = BitVec.ofNat 32 n)
    (hp : p ∈ h.pages) (hdesc : vq.vring.desc = p.virt) (hring : VringIn p vq.vring)
    (ht : Table (vdev.setInfo n { vdev.info n with vq := some vq }) h) (off msixVec : BitVec 16) :
    hostInterface.Ensures (vdev.activateQueue vq (vdev.info n).queue off msixVec) (fun r h' =>
      (r = .ok vq ∧ Serving word (vdev.setInfo n { vdev.info n with vq := some vq }) h' (n + 1)) ∨
      ((∃ status, r = .error status) ∧ Holding vdev h' 0xb)) h := by
  have htune : Tunable h := ⟨hs.configuring, hs.selectedIdle hn hsel⟩
  have havail : vq.vring.avail ∈ p.bytes := hring.avail (address_mem_bytes (by omega))
  have hused : vq.vring.used ∈ p.bytes := hring.used (address_mem_bytes (by omega))
  have hstart : vq.vring.desc ∈ p.bytes := by
    have hlt : (vq.vring.avail - p.virt).toNat < p.size := havail
    rw [hdesc]
    exact address_mem_bytes (by omega)
  have hsize : Tunes fun q : HostQueue => { q with size := vq.vring.num.setWidth 16 } :=
    ⟨fun _ => rfl, fun _ => rfl⟩
  have hput {lo hi : Register 32} {put get} (hh : Halves lo hi put get) (x : BitVec 64) :
      Tunes (put x) := hh.tunes fun _ => x
  unfold activateQueue
  refine ensures_write_bind ⟨htune.configuring, htune.selected⟩ fun h₁ hw => ?_
  obtain rfl : h₁ = h.setQueue fun q => { q with size := vq.vring.num.setWidth 16 } := hw
  refine (ensures_place halves_desc htune hsize hp hstart).bind fun _ h₂ hplaced => ?_
  subst hplaced
  have hdescs := (hput halves_desc (p.phys + (vq.vring.desc - p.virt))).comp hsize
  refine (ensures_place halves_avail htune hdescs hp havail).bind fun _ h₃ hplaced => ?_
  subst hplaced
  have havails := (hput halves_avail (p.phys + (vq.vring.avail - p.virt))).comp hdescs
  refine (ensures_place halves_used htune havails hp hused).bind fun _ h₄ hplaced => ?_
  have huseds := (hput halves_used (p.phys + (vq.vring.used - p.virt))).comp havails
  have hc : Configured word vdev h₄ n vq p := by
    rw [hplaced]
    exact hs.configured hn hsel hp hring ht huseds fun q => ⟨rfl, rfl, rfl, rfl⟩
  clear hplaced
  have hfail : ∀ status, hostInterface.Ensures (do
      vdev.virtqueueShutdown vq
      freeQueue vq.address (vdev.info n).queue
      return .error status : TransportProgram (Except TransportStatus Virtq)) (fun r h' =>
        (r = .ok vq ∧ Serving word (vdev.setInfo n { vdev.info n with vq := some vq }) h' (n + 1)) ∨
        ((∃ status, r = .error status) ∧ Holding vdev h' 0xb)) h₄ := fun status =>
    (ensures_abandon hm hc.serving hc.table status).mono fun r h' hr => .inr ⟨⟨status, hr.1⟩, hr.2⟩
  have hnotify : hostInterface.Ensures (vdev.notifyAddress off) (fun _ h' => h' = h₄) h₄ := by
    unfold notifyAddress
    split
    · split
      · rfl
      · rfl
    · exact ensures_call_of trivial fun priv h₅ hmap => hmap
  refine hnotify.bind fun r h₅ hsame => ?_
  subst hsame
  split
  · exact hfail _
  · split
    · exact hfail _
    · have henable := ensures_enable hc hn
      dsimp only
      split
      · refine (ensures_setQueueVector hm hc hindex msixVec).bind fun vector h₆ hsame => ?_
        subst hsame
        split
        · exact hfail _
        · exact henable
      · have hzero : hostInterface.Ensures (pure 0 : TransportProgram (BitVec 16))
            (fun _ h' => h' = h₅) h₅ := rfl
        refine hzero.bind fun vector h₆ hsame => ?_
        subst hsame
        split
        · exact hfail _
        · exact henable

/-- `vio_modern_setup_vq` from the point on where all the memory is allocated. -/
theorem ensures_ringInMemory {p : Pages} {num : BitVec 16} {control : BitVec 64} (hm : vdev.Modern)
    (hs : Serving word vdev h n) (hn : n < 65536) (hsel : h.select = BitVec.ofNat 16 n)
    (hp : p ∈ h.pages) (hsize : p.size = (vringPciSize num).toNat)
    (hentry : vdev.info n = ⟨none, num, p.virt⟩)
    (ht : Table (vdev.setInfo n ⟨some ⟨control, BitVec.ofNat 32 n,
      vringInit (num.setWidth 32) p.virt smpCacheBytes⟩, num, p.virt⟩) h)
    (off msixVec : BitVec 16) :
    hostInterface.Ensures (do
      match ← vringNewVirtqueue (BitVec.ofNat 32 n) (num.setWidth 32) smpCacheBytes p.virt
          control with
      | none =>
        freeQueue control p.virt
        return (.error .insufficientResources, vdev)
      | some vq =>
        let result ← vdev.activateQueue vq p.virt off msixVec
        return (result, vdev)) (SetUp word n) h := by
  have hu : Unused h := hs.holding.unused
  have howned := ht.owned n _ (by rw [setInfo_self])
  rw [setInfo_self] at howned
  refine (ensures_newVirtqueue (n := n) hu howned).bind fun r h₁ hr => ?_
  obtain ⟨rfl, rfl | rfl⟩ := hr
  · refine (ensures_freeQueue hu howned).bind fun _ h₂ hfreed => ?_
    subst hfreed
    refine ⟨hm, fun vq hvq => (by cases hvq), fun _ _ => ⟨?_, hs.pfn, ?_⟩⟩
    · exact ⟨hs.phase.idle, hs.phase.status⟩
    · have hfreed := ht.freed (i := n) (by rw [setInfo_self]) (hs.blank n le_rfl)
      rwa [setInfo_setInfo, setInfo_same, setInfo_self] at hfreed
  · have hrecorded : ({ vdev.info n with vq := some ⟨control, BitVec.ofNat 32 n,
        vringInit (num.setWidth 32) p.virt smpCacheBytes⟩ } : VirtIOQueueInfo) =
        ⟨some ⟨control, BitVec.ofNat 32 n, vringInit (num.setWidth 32) p.virt smpCacheBytes⟩,
          num, p.virt⟩ := by rw [hentry]
    have hring := vringIn_modern howned.aligned hsize.ge
    have hactivate := ensures_activateQueue hm hs hn hsel rfl hp rfl hring
      (by rw [hrecorded]; exact ht) off msixVec
    rw [hentry] at hactivate
    refine hactivate.bind fun result h₂ hresult => ?_
    obtain ⟨rfl, hserving⟩ | ⟨⟨status, rfl⟩, hholding⟩ := hresult
    · refine ⟨hm, fun vq hvq => ?_, fun status hstatus => (by cases hstatus)⟩
      obtain rfl := Except.ok.inj hvq
      dsimp only
      rw [hrecorded]
      exact hserving
    · exact ⟨hm, fun vq hvq => (by cases hvq), fun _ _ => hholding⟩

/-- **`vio_modern_setup_vq`** for the next queue. -/
theorem ensures_modernSetupVq (hm : vdev.Modern) (hs : Serving word vdev h n) (hn : n < 65536)
    (msixVec : BitVec 16) :
    hostInterface.Ensures (vdev.vioModernSetupVq n msixVec) (SetUp word n) h := by
  unfold vioModernSetupVq
  refine (ensures_modernQueryVqAlloc hs.phase.idle n).bind fun r h₁ hr => ?_
  obtain ⟨⟨sel, hsel⟩, halloc⟩ := hr
  cases r with
  | error status =>
    subst hsel
    exact ⟨hm, fun vq hvq => (by cases hvq), fun _ _ => (hs.selected sel).holding⟩
  | ok a =>
    obtain ⟨rfl, hheap⟩ := halloc a rfl
    clear hsel
    have hs₁ := hs.selected (BitVec.ofNat 16 n)
    generalize hhost : { h with select := BitVec.ofNat 16 n } = h₁ at hs₁ ⊢
    have hsel : h₁.select = BitVec.ofNat 16 n := by rw [← hhost]
    refine ensures_read_bind hs₁.phase.idle fun off h₂ hread => ?_
    obtain rfl : h₂ = h₁ := hread
    refine (ensures_allocRing h₂ a.numEntries).bind fun r h₃ hr => ?_
    obtain ⟨num, queue⟩ := r
    obtain ⟨hnum, halloc⟩ := hr
    have hblank := hs₁.blank n le_rfl
    have hs₂ : Serving word (vdev.setInfo n ⟨(vdev.info n).vq, num, queue⟩) h₂ n :=
      hs₁.setInfo hblank
    have hm₂ := hm.setInfo n ⟨(vdev.info n).vq, num, queue⟩
    generalize hvdev : vdev.setInfo n ⟨(vdev.info n).vq, num, queue⟩ = vdev₂ at hs₂ hm₂
    have hentry : vdev₂.info n = ⟨none, num, queue⟩ := by rw [← hvdev, setInfo_self, hblank]
    dsimp only
    rw [hvdev]
    obtain ⟨rfl, rfl⟩ | ⟨hqueue, p, hp, rfl, hsize, rfl⟩ := halloc
    · rw [if_pos rfl]
      exact ⟨hm₂, fun vq hvq => (by cases hvq), fun _ _ => hs₂.holding⟩
    · rw [if_neg hqueue]
      have hs₃ : Serving word vdev₂ { h₂ with pages := p :: h₂.pages } n :=
        hs₂.grow rfl rfl rfl rfl (fun _ hp' => List.mem_cons_of_mem _ hp') fun _ hb => hb
      refine ensures_call_of trivial fun control h₄ hcontrol => ?_
      obtain ⟨rfl, rfl⟩ | ⟨hcontrol, hother, rfl⟩ := hcontrol
      · exact ⟨hm₂, fun vq hvq => (by cases hvq), fun _ _ => hs₃.holding⟩
      · dsimp only
        rw [if_neg hcontrol]
        have hheapSize : (a.heapSize.setWidth 64).toNat = 80 + 8 * a.numEntries.toNat := by
          rw [hheap, BitVec.toNat_setWidth_of_le (by decide), modernHeapSize_eq]
          rfl
        dsimp only at hnum hsize
        have hs₄ := hs₃.grow (k := { h₂ with
            pages := p :: h₂.pages
            blocks := ⟨control, (a.heapSize.setWidth 64).toNat⟩ :: h₂.blocks }) rfl rfl rfl rfl
          (fun _ hp' => hp') fun _ hb => List.mem_cons_of_mem _ hb
        refine ensures_ringInMemory hm₂ hs₄ hn hsel List.mem_cons_self hsize hentry ?_ off msixVec
        have hroom : 80 + 8 * num.toNat ≤ (a.heapSize.setWidth 64).toNat := by omega
        exact hs₂.table.record n hp hother hsize rfl hroom rfl

/-! ## All queues -/

/-- What the setup of queues is to leave, with `n` queues where it succeeds. -/
structure AllSetUp {α : Type} (word : BitVec 64) (n : Nat)
    (r : Except TransportStatus α × VirtIODevice) (h' : Host) : Prop where
  modern : r.2.Modern
  ok : ∀ a, r.1 = .ok a → Serving word r.2 h' n
  error : ∀ status, r.1 = .error status → Holding r.2 h' 0xb

/-- **`vp_setup_vq`.** -/
theorem ensures_vpSetupVq (hm : vdev.Modern) (hs : Serving word vdev h n) (hn : n < 65536)
    (msixVec : BitVec 16) :
    hostInterface.Ensures (vdev.vpSetupVq n msixVec) (AllSetUp word (n + 1)) h := by
  unfold vpSetupVq
  split
  · trivial
  · simp only [hm.device]
    refine (ensures_modernSetupVq hm hs hn msixVec).bind fun r h₁ hr => ?_
    obtain ⟨result, vdev₁⟩ := r
    cases result with
    | error status => exact ⟨hr.modern, fun a ha => (by cases ha), fun _ _ => hr.error status rfl⟩
    | ok vq =>
      exact ⟨hr.modern.setInfo n _, fun _ _ => hr.ok vq rfl, fun status ha => (by cases ha)⟩

/-- **The loop of `virtio_find_queues`**, by induction on the number of queues that are left. -/
theorem ensures_setupQueues {i : Nat} (hm : vdev.Modern) (hs : Serving word vdev h i)
    (hin : i + n ≤ 65536) :
    hostInterface.Ensures (vdev.setupQueues i n) (AllSetUp word (i + n)) h := by
  induction n generalizing vdev h i with
  | zero => exact ⟨hm, fun _ _ => hs, fun status hstatus => (by cases hstatus)⟩
  | succ n ih =>
    refine ensures_call_of trivial fun msixVec h₁ hvector => ?_
    obtain rfl : h₁ = h := hvector
    refine (ensures_vpSetupVq hm hs (by omega) msixVec).bind fun r h₂ hr => ?_
    obtain ⟨result, vdev₁⟩ := r
    cases result with
    | error status => exact ⟨hr.modern, fun a ha => (by cases ha), fun _ _ => hr.error status rfl⟩
    | ok vq =>
      refine (ih hr.modern (hr.ok vq rfl) (by omega)).bind fun r h₃ hr' => ?_
      obtain ⟨result, vdev₂⟩ := r
      have hcount : i + 1 + n = i + (n + 1) := by omega
      rw [hcount] at hr'
      cases result with
      | error status =>
        exact ⟨hr'.modern, fun a ha => (by cases ha), fun _ _ => hr'.error status rfl⟩
      | ok vqs => exact ⟨hr'.modern, fun _ _ => hr'.ok vqs rfl, fun status ha => (by cases ha)⟩

/-- **`virtio_delete_queues`** where the device uses no ring. -/
theorem ensures_deleteQueues {bits : BitVec 8} (hm : vdev.Modern) (hh : Holding vdev h bits)
    (hbits : bits &&& virtioConfigSDriverOk = 0) :
    hostInterface.Ensures vdev.virtioDeleteQueues
      (fun vdev' h' => vdev'.Modern ∧ Holding vdev' h' bits) h := by
  unfold virtioDeleteQueues
  split
  · exact ⟨hm, hh⟩
  · refine Interface.Ensures.foldlM (P := fun vdev' h' => vdev'.Modern ∧ Holding vdev' h' bits)
      (fun vdev' i h' hinv => ?_) ⟨hm, hh⟩
    obtain ⟨hm', hh'⟩ := hinv
    have hu : Unused h' := hh'.phase.unused hbits hh'.pfn
    refine (ensures_deleteQueue hm' hh'.phase.idle hu hh'.table i).mono fun vdev'' h'' hpost => ?_
    obtain ⟨hm'', ht, hstatus, hresetting, hqueue, -⟩ := hpost
    refine ⟨hm'', ⟨hresetting.trans hh'.phase.idle, ?_⟩, fun q => ?_, ht⟩
    · rw [hstatus]
      exact hh'.phase.status
    · rw [hqueue]
      exact hh'.pfn q

theorem ensures_setConfigVector (hm : vdev.Modern) (hidle : h.resetting = false)
    (vector : BitVec 16) :
    hostInterface.Ensures (vdev.virtioSetConfigVector vector) (fun _ h' => h' = h) h := by
  unfold virtioSetConfigVector vioModernSetConfigVector
  rw [hm.device]
  refine ensures_write_bind hidle fun h₁ hw => ?_
  obtain rfl : h₁ = h := hw
  exact ensures_read hidle fun v h₂ hread => hread

/-- **`virtio_find_queues`** for queues that fit into the table of the device structure. -/
theorem ensures_findQueues (hm : vdev.Modern) (hs : Serving word vdev h 0)
    (hn : n ≤ VirtIO.VirtIODevice.maxQueuesPerDeviceDefault) :
    hostInterface.Ensures (vdev.virtioFindQueues n) (AllSetUp word n) h := by
  have hfit : ¬n > vdev.maxQueues := by
    rw [hm.maxQueues]
    exact not_lt.mpr hn
  have hsmall : 0 + n ≤ 65536 := by
    have hmax : VirtIO.VirtIODevice.maxQueuesPerDeviceDefault = 8 := rfl
    omega
  have herror : ∀ {vdev' : VirtIODevice} {h' : Host} (status : TransportStatus), vdev'.Modern →
      Holding vdev' h' 0xb →
      hostInterface.Ensures (vdev'.errorFind status) (AllSetUp word n) h' := by
    intro vdev' h' status hm' hh'
    refine (ensures_deleteQueues hm' hh' (by decide)).bind fun vdev'' h'' hpost => ?_
    exact ⟨hpost.1, fun a ha => (by cases ha), fun _ _ => hpost.2⟩
  have hsetup : ∀ h', h' = h →
      hostInterface.Ensures (vdev.setupOrUndo n) (AllSetUp word n) h' := by
    intro h' hsame
    subst hsame
    refine (ensures_setupQueues hm hs hsmall).bind fun r h₁ hr => ?_
    obtain ⟨result, vdev₁⟩ := r
    rw [Nat.zero_add] at hr
    cases result with
    | error status => exact herror status hr.modern (hr.error status rfl)
    | ok vqs => exact ⟨hr.modern, fun _ _ => hr.ok vqs rfl, fun status ha => (by cases ha)⟩
  unfold virtioFindQueues virtioReserveQueueMemory
  rw [if_neg hfit]
  refine ensures_call_of trivial fun msixVec h₁ hvector => ?_
  obtain rfl : h₁ = h := hvector
  dsimp only
  split
  · refine (ensures_setConfigVector hm hs.phase.idle msixVec).bind fun vector h₂ hsame => ?_
    split
    · subst hsame
      exact herror _ hm hs.holding
    · exact hsetup h₂ hsame
  · have hzero : hostInterface.Ensures (pure 0 : TransportProgram (BitVec 16))
        (fun _ h' => h' = h₁) h₁ := rfl
    refine hzero.bind fun vector h₂ hsame => ?_
    split
    · subst hsame
      exact herror _ hm hs.holding
    · exact hsetup h₂ hsame

end VirtIODevice

end VioGpu.Transport
