import VioGpu.Transport.QueueSetup

/-!
# The memory of the queues of a legacy device

A legacy device has the rings of all queues with a page frame number, from the write of the number
on, so that no free may come before the number is taken back. `LegacyTable` says that exactly the
recorded queues have a number, each that of its own pages. It is kept when a queue is recorded with
new pages, and when a number is taken back and the pages are freed.
-/

namespace VioGpu.Transport

open Lib VirtIO

/-! ## Page frame numbers -/

theorem toNat_pfn_shift (x : BitVec 32) : (x.setWidth 64 <<< 12).toNat = x.toNat * 4096 := by
  have hlt := x.isLt
  rw [BitVec.toNat_shiftLeft, BitVec.toNat_setWidth_of_le (by decide), Nat.shiftLeft_eq,
    Nat.mod_eq_of_lt (by omega)]

theorem pfn_injective {x y : BitVec 32} (h : x.setWidth 64 <<< 12 = y.setWidth 64 <<< 12) :
    x = y := by
  have hnat := congrArg BitVec.toNat h
  rw [toNat_pfn_shift, toNat_pfn_shift] at hnat
  exact BitVec.eq_of_toNat_eq (by omega)

/-- The device structure of a legacy device; the entries of its table may be anything. -/
structure LegacyDevice (vdev : VirtIODevice) : Prop where
  device : vdev.device = some .legacy
  infoTable : vdev.infoTable ≠ .null
  infoSize : vdev.infoSize = vdev.maxQueues
  maxQueues : vdev.maxQueues ≤ 65536

theorem LegacyDevice.setInfo {vdev : VirtIODevice} (hl : LegacyDevice vdev) (i : Nat)
    (entry : VirtIOQueueInfo) : LegacyDevice (vdev.setInfo i entry) :=
  ⟨hl.device, hl.infoTable, hl.infoSize, hl.maxQueues⟩

/-- The pages of a recorded queue are allocated, the device has them as its ring, and the virtqueue
has laid the ring out in them. -/
structure LegacyOwned (h : Host) (i : Nat) (entry : VirtIOQueueInfo) (vq : Virtq) : Prop where
  index : vq.index = BitVec.ofNat 32 i
  vring : vq.vring = vringInit ((h.queue (BitVec.ofNat 16 i)).size.setWidth 32) entry.queue
    virtioPciVringAlign
  pages : ∃ p ∈ h.pages, p.virt = entry.queue ∧ LegacyRingIn p (h.queue (BitVec.ofNat 16 i)) ∧
    ∀ p' ∈ h.pages, p'.virt = p.virt → p' = p

/-- The pages that no entry of the table has. -/
def unowned (vdev : VirtIODevice) (p : Pages) : Bool :=
  decide (∀ i < vdev.maxQueues, (vdev.info i).vq ≠ none → (vdev.info i).queue ≠ p.virt)

/-- The queues of a legacy device that does not run yet: those with a page frame number are the
recorded ones, each with pages of its own, and the other pages are `base`. -/
structure LegacyTable (base : List Pages) (vdev : VirtIODevice) (h : Host) : Prop where
  idle : h.resetting = false
  live : ¬h.Live
  enable : ∀ q, (h.queue q).enable = false
  pfn : ∀ q, (h.queue q).pfn ≠ 0 → (vdev.info q.toNat).vq ≠ none
  count : vdev.maxQueues ≤ 65536
  bound : ∀ i, (vdev.info i).vq ≠ none → i < vdev.maxQueues
  owned : ∀ i vq, (vdev.info i).vq = some vq → LegacyOwned h i (vdev.info i) vq
  apart : ∀ i j vq vq', i ≠ j → (vdev.info i).vq = some vq → (vdev.info j).vq = some vq' →
    (vdev.info i).queue ≠ (vdev.info j).queue ∧
      (h.queue (BitVec.ofNat 16 i)).pfn ≠ (h.queue (BitVec.ofNat 16 j)).pfn
  base : h.pages.filter (unowned vdev) = base

theorem ofNat_toNat_16 (q : BitVec 16) : BitVec.ofNat 16 q.toNat = q := by
  rw [BitVec.ofNat_toNat, BitVec.setWidth_eq]

theorem ofNat_ne_ofNat {i j : Nat} (hi : i < 65536) (hj : j < 65536) (hij : i ≠ j) :
    BitVec.ofNat 16 i ≠ BitVec.ofNat 16 j := by
  intro heq
  have hnat := congrArg BitVec.toNat heq
  rw [BitVec.toNat_ofNat, BitVec.toNat_ofNat, Nat.mod_eq_of_lt hi, Nat.mod_eq_of_lt hj] at hnat
  exact hij hnat

section

variable {base : List Pages} {vdev : VirtIODevice} {h : Host} {i : Nat}

theorem LegacyTable.selected (ht : LegacyTable base vdev h) (sel : BitVec 16) :
    LegacyTable base vdev { h with select := sel } :=
  ⟨ht.idle, ht.live, ht.enable, ht.pfn, ht.count, ht.bound,
    fun i vq hvq => ⟨(ht.owned i vq hvq).index, (ht.owned i vq hvq).vring,
      (ht.owned i vq hvq).pages⟩, ht.apart, ht.base⟩

theorem LegacyTable.small (ht : LegacyTable base vdev h) {vq : Virtq}
    (hvq : (vdev.info i).vq = some vq) : i < 65536 := by
  have hlt := ht.bound i (by rw [hvq]; exact Option.some_ne_none vq)
  exact Nat.lt_of_lt_of_le hlt ht.count

/-- The page frame number is written. -/
def putPfn (pfn : BitVec 32) (q : HostQueue) : HostQueue := { q with pfn := pfn }

theorem setQueue_enable (h : Host) {f : HostQueue → HostQueue} (hf : ∀ q, (f q).enable = q.enable)
    (q : BitVec 16) : ((h.setQueue f).queue q).enable = (h.queue q).enable := by
  by_cases hq : q = h.select
  · rw [hq, setQueue_select, hf]
  · rw [setQueue_of_ne h f hq]

/-- What a new queue of pages shares with those that are recorded: nothing. -/
theorem LegacyTable.fresh_ne (ht : LegacyTable base vdev h) {p : Pages} (hp : h.Fresh p)
    {pfn : BitVec 32} (hpfn : pfn.setWidth 64 <<< 12 = p.phys) {j : Nat} {vq : Virtq}
    (hj : (vdev.info j).vq = some vq) :
    (vdev.info j).queue ≠ p.virt ∧ (h.queue (BitVec.ofNat 16 j)).pfn ≠ pfn := by
  obtain ⟨p', hp', hvirt, hring, -⟩ := (ht.owned j vq hj).pages
  obtain ⟨hvirts, hphys⟩ := hp.apart p' hp'
  refine ⟨fun hsame => hvirts ?_, fun hsame => hphys ?_⟩
  · rw [hvirt, hsame]
  · rw [← hring.phys, hsame, hpfn]

/-- The new pages are the only ones that a new entry makes owned. -/
theorem LegacyTable.unowned_record (hi : i < vdev.maxQueues)
    (hblank : (vdev.info i).vq = none) {p : Pages} (hp : h.Fresh p) (vq : Virtq) (num : BitVec 16) :
    (p :: h.pages).filter (unowned (vdev.setInfo i ⟨some vq, num, p.virt⟩)) =
      h.pages.filter (unowned vdev) := by
  have hself : unowned (vdev.setInfo i ⟨some vq, num, p.virt⟩) p = false := by
    refine decide_eq_false fun hall => ?_
    have hne := hall i hi
    rw [VirtIODevice.setInfo_self] at hne
    exact hne (Option.some_ne_none vq) rfl
  rw [List.filter_cons_of_neg (by rw [hself]; exact Bool.false_ne_true)]
  refine List.filter_congr fun p' hp' => ?_
  simp only [unowned, decide_eq_decide]
  refine forall_congr' fun j => forall_congr' fun _ => ?_
  by_cases hji : j = i
  · subst hji
    rw [VirtIODevice.setInfo_self, hblank]
    have hvirts := (hp.apart p' hp').1
    exact ⟨fun _ hnone => absurd rfl hnone, fun _ _ => hvirts⟩
  · rw [VirtIODevice.setInfo_of_ne vdev _ hji]

/-- The page frame number of new pages is written, and the queue is recorded. -/
theorem LegacyTable.record (ht : LegacyTable base vdev h)
    (hi : i < vdev.maxQueues) (hblank : (vdev.info i).vq = none)
    (hsel : h.select = BitVec.ofNat 16 i) {p : Pages} (hp : h.Fresh p) {pfn : BitVec 32}
    (hpfn : pfn.setWidth 64 <<< 12 = p.phys)
    (hsize : (vringSize ((h.queue h.select).size.setWidth 32) virtioPciVringAlign).toNat ≤ p.size)
    {v : Virtq} (hindex : v.index = BitVec.ofNat 32 i)
    (hvring : v.vring =
      vringInit ((h.queue h.select).size.setWidth 32) p.virt virtioPciVringAlign)
    (num : BitVec 16) :
    LegacyTable base (vdev.setInfo i ⟨some v, num, p.virt⟩)
      (({ h with pages := p :: h.pages } : Host).setQueue (putPfn pfn)) := by
  have hi16 : i < 65536 := Nat.lt_of_lt_of_le hi ht.count
  generalize hhost : ({ h with pages := p :: h.pages } : Host) = h₁
  have hsel₁ : h₁.select = BitVec.ofNat 16 i := by rw [← hhost]; exact hsel
  have hqueue₁ : h₁.queue = h.queue := by rw [← hhost]
  have hpages₁ : h₁.pages = p :: h.pages := by rw [← hhost]
  have hself : ((h₁.setQueue (putPfn pfn)).queue (BitVec.ofNat 16 i)) =
      putPfn pfn (h.queue h.select) := by
    rw [← hsel₁, setQueue_select, hqueue₁, hsel₁, hsel]
  have hother : ∀ {j : Nat}, j < 65536 → j ≠ i →
      (h₁.setQueue (putPfn pfn)).queue (BitVec.ofNat 16 j) =
        h.queue (BitVec.ofNat 16 j) := by
    intro j hj hji
    rw [setQueue_of_ne h₁ _ (by rw [hsel₁]; exact ofNat_ne_ofNat hj hi16 hji), hqueue₁]
  have hinfo : ∀ {j : Nat}, j ≠ i →
      (vdev.setInfo i ⟨some v, num, p.virt⟩).info j = vdev.info j := by
    intro j hji
    exact VirtIODevice.setInfo_of_ne vdev _ hji
  refine ⟨by rw [← hhost]; exact ht.idle, by rw [← hhost]; exact ht.live, fun q => ?_,
    fun q hq => ?_, ht.count, fun j hj => ?_, fun j vqj hj => ?_,
    fun j k vqj vqk hjk hj hk => ?_, ?_⟩
  · rw [setQueue_enable h₁ (f := putPfn pfn) (fun _ => rfl), hqueue₁]
    exact ht.enable q
  · by_cases hqi : q.toNat = i
    · rw [hqi, VirtIODevice.setInfo_self]
      exact Option.some_ne_none v
    · rw [hinfo hqi]
      have hq' := hother q.isLt hqi
      rw [ofNat_toNat_16] at hq'
      rw [hq'] at hq
      exact ht.pfn q hq
  · by_cases hji : j = i
    · rw [hji]
      exact hi
    · rw [hinfo hji] at hj
      exact ht.bound j hj
  · by_cases hji : j = i
    · subst hji
      rw [VirtIODevice.setInfo_self] at hj ⊢
      obtain rfl := Option.some.inj hj
      refine ⟨hindex, by rw [hself]; exact hvring, p, ?_, rfl, ?_, fun p' hp' hvirt => ?_⟩
      · exact hpages₁ ▸ List.mem_cons_self
      · rw [hself]
        exact ⟨hpfn, hsize⟩
      · obtain rfl | hold := List.mem_cons.mp (hpages₁ ▸ hp')
        · rfl
        · exact absurd hvirt.symm (hp.apart p' hold).1
    · rw [hinfo hji] at hj ⊢
      have ho := ht.owned j vqj hj
      obtain ⟨p', hp', hvirt, hring, honly⟩ := ho.pages
      refine ⟨ho.index, ?_, p', ?_, hvirt, ?_, fun p'' hp'' hvirt' => ?_⟩
      · rw [hother (ht.small hj) hji]
        exact ho.vring
      · exact hpages₁ ▸ List.mem_cons_of_mem _ hp'
      · rw [hother (ht.small hj) hji]
        exact hring
      · obtain rfl | hold := List.mem_cons.mp (hpages₁ ▸ hp'')
        · exact absurd hvirt' (hp.apart p' hp').1
        · exact honly p'' hold hvirt'
  · by_cases hji : j = i
    · have hki : k ≠ i := fun hki => hjk (hji.trans hki.symm)
      subst hji
      rw [hinfo hki] at hk ⊢
      obtain ⟨hqueues, hpfns⟩ := ht.fresh_ne hp hpfn hk
      rw [VirtIODevice.setInfo_self, hself, hother (ht.small hk) hki]
      exact ⟨hqueues.symm, hpfns.symm⟩
    · rw [hinfo hji] at hj ⊢
      by_cases hki : k = i
      · subst hki
        obtain ⟨hqueues, hpfns⟩ := ht.fresh_ne hp hpfn hj
        rw [VirtIODevice.setInfo_self, hself, hother (ht.small hj) hji]
        exact ⟨hqueues, hpfns⟩
      · rw [hinfo hki] at hk ⊢
        rw [hother (ht.small hj) hji, hother (ht.small hk) hki]
        exact ht.apart j k vqj vqk hjk hj hk
  · show h₁.pages.filter _ = base
    rw [hpages₁, LegacyTable.unowned_record hi hblank hp v num]
    exact ht.base

theorem LegacyTable.unowned_release (ht : LegacyTable base vdev h) {vq : Virtq}
    (hvq : (vdev.info i).vq = some vq) {entry : VirtIOQueueInfo} (hentry : entry.vq = none) :
    (h.pages.filter fun p => p.virt ≠ (vdev.info i).queue).filter
      (unowned (vdev.setInfo i entry)) = h.pages.filter (unowned vdev) := by
  have hi := ht.bound i (by rw [hvq]; exact Option.some_ne_none vq)
  rw [List.filter_filter]
  refine List.filter_congr fun p _ => ?_
  rw [Bool.eq_iff_iff, Bool.and_eq_true, unowned, unowned, decide_eq_true_iff, decide_eq_true_iff,
    decide_eq_true_iff]
  constructor
  · intro hboth j hj hsome
    obtain ⟨hall, hne⟩ := hboth
    by_cases hji : j = i
    · rw [hji]
      exact hne.symm
    · have hnotOwned := hall j hj
      rw [VirtIODevice.setInfo_of_ne vdev entry hji] at hnotOwned
      exact hnotOwned hsome
  · intro hall
    refine ⟨fun j hj hsome => ?_, ?_⟩
    · by_cases hji : j = i
      · rw [hji, VirtIODevice.setInfo_self] at hsome
        exact absurd hentry hsome
      · rw [VirtIODevice.setInfo_of_ne vdev entry hji] at hsome ⊢
        exact hall j hj hsome
    · exact (hall i hi (by rw [hvq]; exact Option.some_ne_none vq)).symm

/-- The page frame number is taken back, the pages are freed, and the entry owns nothing. -/
theorem LegacyTable.release (ht : LegacyTable base vdev h) {vq : Virtq}
    (hvq : (vdev.info i).vq = some vq) (hsel : h.select = BitVec.ofNat 16 i)
    {entry : VirtIOQueueInfo} (hentry : entry.vq = none) :
    LegacyTable base (vdev.setInfo i entry)
      { h.setQueue (putPfn 0) with
        pages := h.pages.filter fun p => p.virt ≠ (vdev.info i).queue } := by
  have hi16 := ht.small hvq
  have hother : ∀ {j : Nat}, j < 65536 → j ≠ i →
      (h.setQueue (putPfn 0)).queue (BitVec.ofNat 16 j) = h.queue (BitVec.ofNat 16 j) := by
    intro j hj hji
    rw [setQueue_of_ne h _ (by rw [hsel]; exact ofNat_ne_ofNat hj hi16 hji)]
  have hinfo : ∀ {j : Nat}, j ≠ i → (vdev.setInfo i entry).info j = vdev.info j := by
    intro j hji
    exact VirtIODevice.setInfo_of_ne vdev _ hji
  have hne : ∀ {j : Nat}, ((vdev.setInfo i entry).info j).vq ≠ none → j ≠ i := by
    intro j hj hji
    rw [hji, VirtIODevice.setInfo_self] at hj
    exact hj hentry
  have hneSome : ∀ {j : Nat} {vq' : Virtq}, ((vdev.setInfo i entry).info j).vq = some vq' →
      j ≠ i := by
    intro j vq' hj
    exact hne (by rw [hj]; exact Option.some_ne_none vq')
  refine ⟨ht.idle, ht.live, fun q => ?_, fun q hq => ?_, ht.count, fun j hj => ?_,
    fun j vqj hj => ?_, fun j k vqj vqk hjk hj hk => ?_,
    (ht.unowned_release hvq hentry).trans ht.base⟩
  · have henable := setQueue_enable h (f := putPfn 0) (fun _ => rfl) q
    exact henable.trans (ht.enable q)
  · have hqi : q.toNat ≠ i := by
      intro hqi
      have hq' : q = h.select := by rw [hsel, ← hqi, ofNat_toNat_16]
      refine hq ?_
      show ((h.setQueue (putPfn 0)).queue q).pfn = 0
      rw [hq', setQueue_select]
      rfl
    rw [hinfo hqi]
    have hq' := hother q.isLt hqi
    rw [ofNat_toNat_16] at hq'
    refine ht.pfn q fun hzero => hq ?_
    show ((h.setQueue (putPfn 0)).queue q).pfn = 0
    rw [hq', hzero]
  · rw [hinfo (hne hj)] at hj
    exact ht.bound j hj
  · have hji := hneSome hj
    rw [hinfo hji] at hj ⊢
    have ho := ht.owned j vqj hj
    obtain ⟨p', hp', hvirt, hring, honly⟩ := ho.pages
    refine ⟨ho.index, ?_, p', ?_, hvirt, ?_, fun p'' hp'' hvirt' => ?_⟩
    · show vqj.vring = vringInit
        (((h.setQueue (putPfn 0)).queue (BitVec.ofNat 16 j)).size.setWidth 32) _ _
      rw [hother (ht.small hj) hji]
      exact ho.vring
    · refine List.mem_filter.mpr ⟨hp', decide_eq_true ?_⟩
      rw [hvirt]
      exact (ht.apart j i vqj vq hji hj hvq).1
    · show LegacyRingIn p' ((h.setQueue (putPfn 0)).queue (BitVec.ofNat 16 j))
      rw [hother (ht.small hj) hji]
      exact hring
    · exact honly p'' (List.mem_filter.mp hp'').1 hvirt'
  · have hji := hneSome hj
    have hki := hneSome hk
    rw [hinfo hji] at hj ⊢
    rw [hinfo hki] at hk ⊢
    show _ ∧ ((h.setQueue (putPfn 0)).queue (BitVec.ofNat 16 j)).pfn ≠
      ((h.setQueue (putPfn 0)).queue (BitVec.ofNat 16 k)).pfn
    rw [hother (ht.small hj) hji, hother (ht.small hk) hki]
    exact ht.apart j k vqj vqk hjk hj hk

/-- The pages of a queue are not in use any more once its page frame number is taken back. -/
theorem LegacyTable.not_uses (ht : LegacyTable base vdev h) {vq : Virtq}
    (hvq : (vdev.info i).vq = some vq) (hsel : h.select = BitVec.ofNat 16 i) :
    (∃ p ∈ h.pages, p.virt = (vdev.info i).queue) ∧
      ∀ p ∈ h.pages, p.virt = (vdev.info i).queue → ¬(h.setQueue (putPfn 0)).Uses p := by
  obtain ⟨p, hp, hvirt, hring, honly⟩ := (ht.owned i vq hvq).pages
  refine ⟨⟨p, hp, hvirt⟩, fun p' hp' hvirt' huses => ?_⟩
  obtain rfl := honly p' hp' (hvirt'.trans hvirt.symm)
  obtain ⟨-, q, henable, -⟩ | ⟨q, hpfn, hring'⟩ := huses
  · rw [setQueue_enable h (f := putPfn 0) (fun _ => rfl), ht.enable q] at henable
    cases henable
  · by_cases hq : q = h.select
    · rw [hq, setQueue_select] at hpfn
      exact hpfn rfl
    · rw [setQueue_of_ne h _ hq] at hpfn hring'
      obtain ⟨vq', hvq'⟩ := Option.ne_none_iff_exists'.mp (ht.pfn q hpfn)
      have hqi : q.toNat ≠ i := by
        intro hqi
        exact hq (by rw [hsel, ← hqi, ofNat_toNat_16])
      have hpfns := (ht.apart _ _ vq' vq hqi hvq' hvq).2
      rw [ofNat_toNat_16] at hpfns
      exact hpfns (pfn_injective (hring'.phys.trans hring.phys.symm))

end

end VioGpu.Transport
