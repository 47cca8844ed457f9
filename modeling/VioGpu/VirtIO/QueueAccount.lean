import VioGpu.VirtIO.FindQueues
import VioGpu.VirtIO.RingRuns

/-!
# The account of the queues of a device

While queues are set up, what was allocated and not freed is what the table refers to, and `left`,
which nothing refers to. `vp_setup_vq` records what it allocated, frees it, or leaves a ring behind;
`virtio_delete_queues` frees what the table refers to.
-/

namespace VioGpu.VirtIO

open Lib

/-! ## The ring of a queue -/

/-- The number of entries of the ring that is allocated for the queue. -/
def QueueAnswers.entries (index : Nat) (a : QueueAnswers) : Option Nat :=
  match vioModernQueryVqAlloc index a with
  | .error _ => none
  | .ok num => allocRing a.rings 0 num

/-- A ring that has been scaled down has a power of 2 or no entries. -/
theorem allocRing_spec {rings : Nat → Bool} {attempt num n : Nat}
    (h : allocRing rings attempt num = some n) (hnum : num = 0 ∨ ∃ k ≤ 15, num = 2 ^ k) :
    n = 0 ∨ ∃ k ≤ 15, n = 2 ^ k := by
  fun_induction allocRing rings attempt num with
  | case1 attempt num hrings =>
    obtain rfl := Option.some_inj.mp h
    exact hnum
  | case2 attempt num hrings hpos ih =>
    apply ih h
    rcases hnum with rfl | ⟨_ | k, hk, rfl⟩
    · exact .inl rfl
    · exact .inl rfl
    · refine .inr ⟨k, by omega, ?_⟩
      rw [Nat.pow_succ, Nat.mul_div_cancel _ (by omega)]
  | case3 attempt num hrings hpos => cases h

/-- The size that `vio_modern_query_vq_alloc` accepts. -/
theorem vioModernQueryVqAlloc_ok {index num : Nat} {a : QueueAnswers}
    (h : vioModernQueryVqAlloc index a = .ok num) :
    index < a.numQueues.toNat ∧ ∃ k ≤ 15, num = 2 ^ k := by
  unfold vioModernQueryVqAlloc at h
  by_cases hindex : index ≥ a.numQueues.toNat
  · rw [if_pos hindex] at h
    cases h
  by_cases hzero : a.queueSize.toNat = 0
  · rw [if_neg hindex, if_pos hzero] at h
    cases h
  by_cases hpower : a.queueSize.toNat &&& (a.queueSize.toNat - 1) ≠ 0
  · rw [if_neg hindex, if_neg hzero, if_pos hpower] at h
    cases h
  rw [if_neg hindex, if_neg hzero, if_neg hpower] at h
  obtain rfl := Except.ok.inj h
  refine ⟨Nat.not_le.mp hindex, ?_⟩
  obtain ⟨k, hk⟩ := (Nat.and_sub_one_eq_zero_iff_isPowerOfTwo hzero).mp (not_not.mp hpower)
  refine ⟨k, ?_, hk⟩
  have hlt : 2 ^ k < 2 ^ 16 := by
    rw [← hk]
    exact a.queueSize.isLt
  have := (Nat.pow_lt_pow_iff_right (by omega : 1 < 2)).mp hlt
  omega

theorem QueueAnswers.entries_spec {index num : Nat} {a : QueueAnswers}
    (h : a.entries index = some num) : num = 0 ∨ ∃ k ≤ 15, num = 2 ^ k := by
  unfold entries at h
  cases hquery : vioModernQueryVqAlloc index a with
  | error status =>
    rw [hquery] at h
    cases h
  | ok size =>
    rw [hquery] at h
    exact allocRing_spec h (.inr (vioModernQueryVqAlloc_ok hquery).2)

/-- `vring_new_virtqueue` makes the ring, unless it has no entries. -/
theorem vringNewVirtqueue_entries {num : Nat} (h : num = 0 ∨ ∃ k ≤ 15, num = 2 ^ k)
    (index : Nat) : if num = 0 then
      ∃ fault, (vringNewVirtqueue index true 0 (Vring.zeroed num fun _ => []) :
        Result (Option (Virtqueue Unit))) = .error fault
    else ∃ vq : Virtqueue Unit,
      vringNewVirtqueue index true 0 (Vring.zeroed num fun _ => []) = .ok (some vq) := by
  rcases h with rfl | ⟨k, hk, rfl⟩
  · exact ⟨.outOfRange 0, rfl⟩
  · rw [if_neg (Nat.two_pow_pos k).ne']
    obtain ⟨vq, hnew, -⟩ := vringNewVirtqueue_spec (τ := Unit) hk index true 0 fun _ => []
    exact ⟨vq, hnew⟩

namespace VirtIOQueueInfo

/-- The memory that an entry with a queue refers to. -/
def blocks (entry : VirtIOQueueInfo) : List QueueBlock :=
  match entry.vq, entry.queue with
  | none, _ => []
  | some vq, none => [.control vq]
  | some vq, some ring => [.control vq, .ring ring]

theorem blocks_of_none {entry : VirtIOQueueInfo} (h : entry.vq = none) : entry.blocks = [] := by
  unfold blocks
  rw [h]

end VirtIOQueueInfo

namespace VirtIODevice

@[simp] theorem setInfo_self (vdev : VirtIODevice) (i : Nat) (entry : VirtIOQueueInfo) :
    (vdev.setInfo i entry).info i = entry :=
  if_pos rfl

@[simp] theorem setInfo_of_ne (vdev : VirtIODevice) {i j : Nat} (entry : VirtIOQueueInfo)
    (hj : j ≠ i) : (vdev.setInfo i entry).info j = vdev.info j :=
  if_neg hj

/-- The memory that the table refers to. -/
def liveBlocks (vdev : VirtIODevice) : List QueueBlock :=
  (List.range vdev.maxQueues).flatMap fun i => (vdev.info i).blocks

/-- An entry that had no queue. -/
theorem liveBlocks_perm (vdev vdev' : VirtIODevice) {n : Nat}
    (hmax : vdev'.maxQueues = vdev.maxQueues) (hn : n < vdev.maxQueues)
    (hsame : ∀ i, i ≠ n → vdev'.info i = vdev.info i) (hnone : (vdev.info n).vq = none) :
    vdev'.liveBlocks.Perm ((vdev'.info n).blocks ++ vdev.liveBlocks) := by
  have hperm := List.perm_cons_erase (List.mem_range.mpr hn)
  have hrest : ((List.range vdev.maxQueues).erase n).flatMap (fun i => (vdev'.info i).blocks) =
      ((List.range vdev.maxQueues).erase n).flatMap fun i => (vdev.info i).blocks := by
    refine List.flatMap_congr fun i hi => ?_
    rw [hsame i (List.nodup_range.mem_erase_iff.mp hi).1]
  have hold : vdev.liveBlocks.Perm
      (((List.range vdev.maxQueues).erase n).flatMap fun i => (vdev.info i).blocks) := by
    have hcons := hperm.flatMap_right fun i => (vdev.info i).blocks
    rwa [List.flatMap_cons, VirtIOQueueInfo.blocks_of_none hnone] at hcons
  unfold liveBlocks
  rw [hmax]
  apply (hperm.flatMap_right _).trans
  rw [List.flatMap_cons, hrest]
  exact hold.symm.append_left _

/-! ## The account -/

/-- What has been allocated since `start` and not freed is the memory of the table and `left`. -/
structure Owes (start vdev : VirtIODevice) (left : List QueueBlock) : Prop where
  maxQueues : vdev.maxQueues = start.maxQueues
  infoSize : vdev.infoSize = start.infoSize
  notify : ∀ a, vdev.notifyAddress a = start.notifyAddress a
  ledger : ∃ l hs, vdev.ledger = start.ledger ++ l ∧ held [] l = some hs ∧
    hs.Perm (left ++ vdev.liveBlocks)

/-- A step that adds these lines to the ledger. -/
theorem Owes.step {start vdev vdev' : VirtIODevice} {left left' : List QueueBlock}
    {l : List (Entry QueueBlock)} (h : start.Owes vdev left)
    (hmax : vdev'.maxQueues = vdev.maxQueues) (hsize : vdev'.infoSize = vdev.infoSize)
    (hnotify : ∀ a, vdev'.notifyAddress a = vdev.notifyAddress a)
    (hledger : vdev'.ledger = vdev.ledger ++ l)
    (hheld : ∀ hs, hs.Perm (left ++ vdev.liveBlocks) →
      ∃ hs', held hs l = some hs' ∧ hs'.Perm (left' ++ vdev'.liveBlocks)) :
    start.Owes vdev' left' := by
  obtain ⟨l₀, hs, hledger₀, hheld₀, hperm₀⟩ := h.ledger
  obtain ⟨hs', hheld', hperm'⟩ := hheld hs hperm₀
  refine ⟨hmax.trans h.maxQueues, hsize.trans h.infoSize,
    fun a => (hnotify a).trans (h.notify a), l₀ ++ l, hs', ?_, ?_, hperm'⟩
  · rw [hledger, hledger₀, List.append_assoc]
  · rw [held_append, hheld₀, Option.bind_some, hheld']

end VirtIODevice

/-! ## Setting up one queue -/

/-- A ring is allocated, but its control block is not, or the ring has no entries. -/
def QueueAnswers.Mishap (index : Nat) (a : QueueAnswers) : Prop :=
  ∃ num, a.entries index = some num ∧ (a.control = false ∨ num = 0)

theorem QueueAnswers.mishap_iff {index num : Nat} {a : QueueAnswers}
    (h : a.entries index = some num) : a.Mishap index ↔ a.control = false ∨ num = 0 := by
  constructor
  · rintro ⟨num', hentries, hmishap⟩
    obtain rfl := Option.some_inj.mp (h.symm.trans hentries)
    exact hmishap
  · exact fun hmishap => ⟨num, h, hmishap⟩

theorem QueueAnswers.not_mishap {index : Nat} {a : QueueAnswers} (h : a.entries index = none) :
    ¬a.Mishap index := by
  rintro ⟨num, hentries, -⟩
  rw [h] at hentries
  cases hentries

/-- The device takes the vector for configuration changes, if it is given one. -/
def FindAnswers.Configured (a : FindAnswers) : Prop :=
  ¬(a.msixVector ≠ virtioMsiNoVector ∧ a.configVector = virtioMsiNoVector)

namespace VirtIODevice

/-- The queue is set up. -/
structure Ready (vdev : VirtIODevice) (index : Nat) (a : QueueAnswers) : Prop where
  entries : ∃ num, a.entries index = some num ∧ num ≠ 0
  control : a.control = true
  notify : ∃ address, vdev.notifyAddress a = .ok address
  vector : ¬(a.msixVector ≠ virtioMsiNoVector ∧ a.queueVector = virtioMsiNoVector)

variable {start vdev : VirtIODevice} {index ring num : Nat} {a : QueueAnswers}

theorem Ready.not_mishap (h : start.Ready index a) : ¬a.Mishap index := by
  obtain ⟨num, hentries, hpos⟩ := h.entries
  rw [QueueAnswers.mishap_iff hentries]
  rintro (hcontrol | hzero)
  · rw [h.control] at hcontrol
    cases hcontrol
  · exact hpos hzero

theorem not_ready (h : a.entries index = none) : ¬start.Ready index a := by
  intro hready
  obtain ⟨num, hentries, -⟩ := hready.entries
  rw [h] at hentries
  cases hentries

/-- The control block is allocated, and the ring has entries. -/
theorem setupControl_cases (vdev : VirtIODevice) (index ring : Nat) (hcontrol : a.control = true)
    (hzero : num ≠ 0) (hnum : num = 0 ∨ ∃ k ≤ 15, num = 2 ^ k) :
    ((∃ address, vdev.notifyAddress a = .ok address) ∧
      ¬(a.msixVector ≠ virtioMsiNoVector ∧ a.queueVector = virtioMsiNoVector) ∧
      vdev.setupControl index ring num a =
        some (.ok vdev.blocks, vdev.alloc (.control vdev.blocks))) ∨
    (¬((∃ address, vdev.notifyAddress a = .ok address) ∧
      ¬(a.msixVector ≠ virtioMsiNoVector ∧ a.queueVector = virtioMsiNoVector)) ∧
      ∃ status, vdev.setupControl index ring num a = some (.error status,
        ((vdev.alloc (.control vdev.blocks)).free (.control vdev.blocks)).free (.ring ring))) := by
  have hnew := vringNewVirtqueue_entries hnum index
  rw [if_neg hzero] at hnew
  obtain ⟨vq, hnew⟩ := hnew
  unfold setupControl
  rw [if_neg (by simp [hcontrol])]
  simp only [hnew]
  have hsame : (vdev.alloc (.control vdev.blocks)).notifyAddress a = vdev.notifyAddress a := rfl
  rw [hsame]
  cases hnotify : vdev.notifyAddress a with
  | error status =>
    refine .inr ⟨?_, status, rfl⟩
    rintro ⟨⟨address, haddress⟩, -⟩
    cases haddress
  | ok address =>
    by_cases hvector : a.msixVector ≠ virtioMsiNoVector ∧ a.queueVector = virtioMsiNoVector
    · refine .inr ⟨fun hboth => hboth.2 hvector, .deviceBusy, ?_⟩
      simp only [if_pos hvector]
    · refine .inl ⟨⟨address, rfl⟩, hvector, ?_⟩
      simp only [if_neg hvector]

/-- The ring is allocated and entered into the table. -/
def withRing (vdev : VirtIODevice) (index num : Nat) : VirtIODevice :=
  (vdev.alloc (.ring vdev.blocks)).setInfo index
    ⟨(vdev.info index).vq, num, some vdev.blocks⟩

/-- `vp_setup_vq` as far as the ring. -/
theorem vpSetupVq_cases (hsize : index < vdev.infoSize) :
    (a.entries index = none ∧ ∃ status, vdev.vpSetupVq index a = some (.error status, vdev) ∨
      vdev.vpSetupVq index a = some (.error status,
        vdev.setInfo index ⟨(vdev.info index).vq, 0, none⟩)) ∨
    ∃ num, a.entries index = some num ∧ vdev.vpSetupVq index a = (do
      let (result, vdev) ← (vdev.withRing index num).setupControl index vdev.blocks num a
      match result with
      | .error status => some (.error status, vdev)
      | .ok vq => some (.ok vq, vdev.setInfo index { vdev.info index with vq := some vq })) := by
  unfold vpSetupVq vioModernSetupVq QueueAnswers.entries
  cases hquery : vioModernQueryVqAlloc index a with
  | error status => exact .inl ⟨rfl, status, .inl rfl⟩
  | ok size =>
    simp only [if_neg (Nat.not_le.mpr hsize)]
    cases hring : allocRing a.rings 0 size with
    | none => exact .inl ⟨rfl, .insufficientResources, .inr rfl⟩
    | some num => exact .inr ⟨num, rfl, rfl⟩

/-- A new entry takes the place of one without a queue. -/
theorem liveBlocks_setInfo (vdev : VirtIODevice) (entry : VirtIOQueueInfo)
    (hmax : index < vdev.maxQueues) (hnone : (vdev.info index).vq = none) :
    (vdev.setInfo index entry).liveBlocks.Perm (entry.blocks ++ vdev.liveBlocks) := by
  have hperm := liveBlocks_perm vdev (vdev.setInfo index entry) rfl hmax
    (fun i hi => setInfo_of_ne _ _ hi) hnone
  rwa [setInfo_self] at hperm

/-- The new entry has no queue either. -/
theorem liveBlocks_setInfo_none (vdev : VirtIODevice) (entry : VirtIOQueueInfo)
    (hmax : index < vdev.maxQueues) (hnone : (vdev.info index).vq = none)
    (hentry : entry.vq = none) :
    (vdev.setInfo index entry).liveBlocks.Perm vdev.liveBlocks := by
  have hperm := liveBlocks_setInfo vdev entry hmax hnone
  rwa [VirtIOQueueInfo.blocks_of_none hentry] at hperm

theorem Owes.withRing (h : start.Owes vdev []) (hmax : index < vdev.maxQueues)
    (hnone : (vdev.info index).vq = none) (num : Nat) :
    start.Owes (vdev.withRing index num) [.ring vdev.blocks] := by
  refine h.step (l := [.acquire (.ring vdev.blocks)]) rfl rfl (fun _ => rfl) rfl ?_
  intro hs hperm
  have hlive := liveBlocks_setInfo_none (vdev.alloc (.ring vdev.blocks))
    ⟨(vdev.info index).vq, num, some vdev.blocks⟩ hmax hnone hnone
  exact ⟨_, rfl, (hperm.trans hlive.symm).cons _⟩

theorem Owes.freed (h : start.Owes vdev [.ring ring]) (control : Nat) :
    start.Owes (((vdev.alloc (.control control)).free (.control control)).free (.ring ring))
      [] := by
  refine h.step (l := [.acquire (.control control), .release (.control control),
    .release (.ring ring)]) rfl rfl (fun _ => rfl) (by simp [free, alloc]) ?_
  intro hs hperm
  exact held_releases (l := [QueueBlock.control control, QueueBlock.ring ring]) (hperm.cons _)

theorem Owes.recorded (h : start.Owes vdev [.ring ring]) (hmax : index < vdev.maxQueues)
    (hnone : (vdev.info index).vq = none) (hring : (vdev.info index).queue = some ring)
    (control : Nat) :
    start.Owes ((vdev.alloc (.control control)).setInfo index
      { vdev.info index with vq := some control }) [] := by
  refine h.step (l := [.acquire (.control control)]) rfl rfl (fun _ => rfl) rfl ?_
  intro hs hperm
  have hlive := liveBlocks_setInfo (vdev.alloc (.control control))
    { vdev.info index with vq := some control } hmax hnone
  have hblocks : ({ vdev.info index with vq := some control } : VirtIOQueueInfo).blocks =
      [.control control, .ring ring] := by
    simp only [VirtIOQueueInfo.blocks, hring]
  rw [hblocks] at hlive
  exact ⟨_, rfl, (hperm.cons _).trans hlive.symm⟩

/-- What a call of `vp_setup_vq` comes to. -/
inductive SetUp (start vdev : VirtIODevice) (n : Nat) (a : QueueAnswers) : Prop
  | ready (vq ring num : Nat) (vdev' : VirtIODevice) (ready : start.Ready n a)
      (result : vdev.vpSetupVq n a = some (.ok vq, vdev')) (owes : start.Owes vdev' [])
      (entry : vdev'.info n = ⟨some vq, num, some ring⟩) (pos : num ≠ 0)
      (others : ∀ i, i ≠ n → vdev'.info i = vdev.info i)
  | undone (status : QueueStatus) (vdev' : VirtIODevice) (notReady : ¬start.Ready n a)
      (noMishap : ¬a.Mishap n) (result : vdev.vpSetupVq n a = some (.error status, vdev'))
      (owes : start.Owes vdev' [])
  | leak (status : QueueStatus) (vdev' : VirtIODevice) (ring : Nat) (notReady : ¬start.Ready n a)
      (mishap : a.Mishap n) (result : vdev.vpSetupVq n a = some (.error status, vdev'))
      (owes : start.Owes vdev' [.ring ring])
  | lost (notReady : ¬start.Ready n a) (mishap : a.Mishap n) (result : vdev.vpSetupVq n a = none)

/-- **Setting up a queue** whose entry in the table is free. -/
theorem Owes.setUp (h : start.Owes vdev []) (hmax : index < vdev.maxQueues)
    (hsize : index < vdev.infoSize) (hnone : (vdev.info index).vq = none) (a : QueueAnswers) :
    SetUp start vdev index a := by
  rcases vpSetupVq_cases (a := a) hsize with
    ⟨hentries, hrefused⟩ | ⟨num, hentries, hresult⟩
  · have hnoMishap : ¬a.Mishap index := a.not_mishap hentries
    obtain ⟨status, hresult | hresult⟩ := hrefused
    · exact .undone status vdev (not_ready hentries) hnoMishap hresult h
    · refine .undone status _ (not_ready hentries) hnoMishap hresult ?_
      refine h.step (l := []) rfl rfl (fun _ => rfl) (List.append_nil _).symm ?_
      intro hs hperm
      have hlive := liveBlocks_setInfo_none vdev ⟨(vdev.info index).vq, 0, none⟩ hmax hnone hnone
      exact ⟨hs, rfl, hperm.trans hlive.symm⟩
  have howes : start.Owes (vdev.withRing index num) [.ring vdev.blocks] :=
    h.withRing hmax hnone num
  by_cases hcontrol : a.control = false
  · have hmishap : a.Mishap index := (QueueAnswers.mishap_iff hentries).mpr (.inl hcontrol)
    refine .leak .insufficientResources _ vdev.blocks (fun hready => hready.not_mishap hmishap)
      hmishap ?_ howes
    rw [hresult, setupControl, if_pos hcontrol]
    rfl
  by_cases hzero : num = 0
  · have hmishap : a.Mishap index := (QueueAnswers.mishap_iff hentries).mpr (.inr hzero)
    refine .lost (fun hready => hready.not_mishap hmishap) hmishap ?_
    have hnew := vringNewVirtqueue_entries (.inl hzero) index
    rw [if_pos hzero] at hnew
    obtain ⟨fault, hnew⟩ := hnew
    rw [hresult, setupControl, if_neg hcontrol]
    simp only [hnew]
    rfl
  have hnoMishap : ¬a.Mishap index := by
    rw [QueueAnswers.mishap_iff hentries]
    exact not_or.mpr ⟨hcontrol, hzero⟩
  rcases setupControl_cases (vdev.withRing index num) index vdev.blocks
    (Bool.eq_true_of_not_eq_false hcontrol) hzero (QueueAnswers.entries_spec hentries) with
    ⟨hnotify, hvector, hcall⟩ | ⟨hnot, status, hcall⟩
  · have hentry : (vdev.withRing index num).info index =
        ⟨(vdev.info index).vq, num, some vdev.blocks⟩ := setInfo_self _ _ _
    have hrecorded := howes.recorded hmax (by rw [hentry, hnone]) (by rw [hentry])
      (vdev.withRing index num).blocks
    have hready : start.Ready index a := by
      refine ⟨⟨num, hentries, hzero⟩, by simpa using hcontrol, ?_, hvector⟩
      rw [← howes.notify a]
      exact hnotify
    refine .ready (vdev.withRing index num).blocks vdev.blocks num _ hready ?_ hrecorded ?_ hzero ?_
    · rw [hresult, hcall]
      rfl
    · rw [setInfo_self, hentry]
    · intro i hi
      rw [setInfo_of_ne _ _ hi]
      exact setInfo_of_ne _ _ hi
  · refine .undone status _ ?_ hnoMishap ?_ (howes.freed (vdev.withRing index num).blocks)
    · intro hready
      refine hnot ⟨?_, hready.vector⟩
      rw [howes.notify a]
      exact hready.notify
    · rw [hresult, hcall]
      rfl

/-! ## Deleting the queues -/

theorem vioModernDelVq_eq (vdev : VirtIODevice) {entry : VirtIOQueueInfo} {vq : Nat}
    (h : entry.vq = some vq) : vdev.vioModernDelVq entry vq =
      { vdev with ledger := vdev.ledger ++ entry.blocks.map .release } := by
  unfold vioModernDelVq VirtIOQueueInfo.blocks
  rw [h]
  cases entry.queue <;> simp [free]

/-- What is freed is what the entry refers to. -/
theorem Owes.deleteQueue {left : List QueueBlock} (h : start.Owes vdev left)
    (hmax : index < vdev.maxQueues) (hsize : index < vdev.infoSize) :
    ∃ vdev', vdev.deleteQueue index = some vdev' ∧ start.Owes vdev' left ∧
      (vdev'.info index).vq = none ∧ ∀ i, i ≠ index → vdev'.info i = vdev.info i := by
  unfold VirtIODevice.deleteQueue
  rw [if_neg (Nat.not_le.mpr hsize)]
  cases hvq : (vdev.info index).vq with
  | none => exact ⟨vdev, rfl, h, hvq, fun _ _ => rfl⟩
  | some vq =>
    refine ⟨_, rfl, ?_, by rw [setInfo_self], fun i hi => ?_⟩
    · rw [vioModernDelVq_eq vdev hvq]
      refine h.step (l := (vdev.info index).blocks.map .release) rfl rfl (fun _ => rfl) rfl ?_
      intro hs hperm
      have hlive := liveBlocks_perm (setInfo { vdev with
        ledger := vdev.ledger ++ (vdev.info index).blocks.map .release } index
        { vdev.info index with vq := none }) vdev rfl hmax
        (fun i hi => (setInfo_of_ne _ _ hi).symm) (by rw [setInfo_self])
      have hblocks := (hperm.trans (hlive.append_left left)).trans
        (List.perm_append_comm_assoc _ _ _)
      exact held_releases hblocks
    · rw [setInfo_of_ne _ _ hi, vioModernDelVq_eq vdev hvq]

/-- **`virtio_delete_queues`** frees what the table refers to, and leaves what is owed besides. -/
theorem Owes.delete {left : List QueueBlock} (h : start.Owes vdev left)
    (hsize : vdev.maxQueues ≤ vdev.infoSize) :
    ∃ vdev', vdev.virtioDeleteQueues = some vdev' ∧ start.Owes vdev' left ∧
      ∀ i < vdev'.maxQueues, (vdev'.info i).vq = none := by
  have hturns : ∀ n ≤ vdev.maxQueues, ∃ vdev',
      (List.range n).foldlM VirtIODevice.deleteQueue vdev = some vdev' ∧
        start.Owes vdev' left ∧ ∀ i < n, (vdev'.info i).vq = none := by
    intro n
    induction n with
    | zero => exact fun _ => ⟨vdev, rfl, h, fun i hi => absurd hi (Nat.not_lt_zero i)⟩
    | succ n ih =>
      intro hn
      obtain ⟨vdev₁, hturn, howes, hnone⟩ := ih (Nat.le_of_succ_le hn)
      have hmax₁ : vdev₁.maxQueues = vdev.maxQueues := howes.maxQueues.trans h.maxQueues.symm
      have hsize₁ : vdev₁.infoSize = vdev.infoSize := howes.infoSize.trans h.infoSize.symm
      obtain ⟨vdev₂, hdelete, howes₂, hself, hothers⟩ :=
        howes.deleteQueue (show n < vdev₁.maxQueues by omega) (by omega)
      refine ⟨vdev₂, ?_, howes₂, fun i hi => ?_⟩
      · rw [List.range_succ, List.foldlM_append, hturn]
        simp [hdelete]
      · by_cases heq : i = n
        · rw [heq, hself]
        · rw [hothers i heq]
          exact hnone i (by omega)
  obtain ⟨vdev', hdelete, howes, hnone⟩ := hturns vdev.maxQueues (Nat.le_refl _)
  refine ⟨vdev', hdelete, howes, fun i hi => hnone i ?_⟩
  rw [howes.maxQueues, ← h.maxQueues] at hi
  exact hi

end VirtIODevice

end VioGpu.VirtIO
