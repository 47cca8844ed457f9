import Mathlib.Order.BooleanAlgebra.Set
import VioGpu.Device.QueueMemory

/-!
# Nothing is lost, nothing is freed twice

A block is referenced as long as an entry with a control block points to it. What is allocated but
not referenced is lost. `Tracks v lost` says which blocks these are; each step of the set-up and of
the deletion moves a block from one side to the other, and zeroing `m_VioDev` loses all that are
referenced. So a power callback keeps everything accounted for exactly if it zeroes an empty table
and no set-up loses a ring (`setPowerState_accounted_iff`).
-/

namespace VioGpu.Device

open Lib

/-- The number of a block. -/
def Block.number : Block → Nat
  | .ring n | .control n => n

/-- The entry has this block, which it frees when it is deleted. -/
def QueueInfo.Owns (q : QueueInfo) : Block → Prop
  | .ring r => q.vq ≠ none ∧ q.queue = some r
  | .control n => q.vq = some n

instance (q : QueueInfo) (b : Block) : Decidable (q.Owns b) :=
  match b with
  | .ring r => inferInstanceAs (Decidable (q.vq ≠ none ∧ q.queue = some r))
  | .control n => inferInstanceAs (Decidable (q.vq = some n))

theorem QueueInfo.not_owns {q : QueueInfo} (hq : q.vq = none) (b : Block) : ¬q.Owns b := by
  cases b with
  | ring r => exact fun hb => hb.1 hq
  | control n =>
    intro hb
    have hsome : q.vq = some n := hb
    rw [hq] at hsome
    cases hsome

theorem QueueInfo.owns_some (r n : Nat) (b : Block) :
    QueueInfo.Owns ⟨some r, some n⟩ b ↔ b = .ring r ∨ b = .control n := by
  cases b <;> simp [QueueInfo.Owns, eq_comm]

/-- Both queues are set up, so the table of the queues is not empty afterwards. -/
def InitOutcomes.SetsUp (o : InitOutcomes) : Prop :=
  o.initialized = true ∧ o.features = true ∧ o.ctrl = .ready ∧ o.cursor = .ready

/-- The memory for a control block runs out, which loses the ring. -/
def InitOutcomes.LosesRing (o : InitOutcomes) : Prop :=
  o.initialized = true ∧ o.features = true ∧
    (o.ctrl = .noControl ∨ o.ctrl = .ready ∧ o.cursor = .noControl)

instance (o : InitOutcomes) : Decidable o.SetsUp :=
  inferInstanceAs (Decidable (_ = true ∧ _ = true ∧ _ = _ ∧ _ = _))

instance (o : InitOutcomes) : Decidable o.LosesRing :=
  inferInstanceAs (Decidable (_ = true ∧ _ = true ∧ (_ = _ ∨ _ = _ ∧ _ = _)))

namespace QueueMemory

/-- The block is referenced by an entry whose `vq` is not `NULL`. -/
def Referenced (v : QueueMemory) (b : Block) : Prop := ∃ i, (v.info i).Owns b

instance (v : QueueMemory) (b : Block) : Decidable (v.Referenced b) :=
  inferInstanceAs (Decidable (∃ i, (v.info i).Owns b))

/-- What is allocated and not freed is exactly what is referenced, and nothing has been freed
twice. -/
structure Accounted (v : QueueMemory) : Prop where
  exact : ∀ b, b ∈ v.allocated ↔ v.Referenced b
  once : v.freedTwice = false

/-- The blocks that are allocated but not referenced are these. -/
structure Tracks (v : QueueMemory) (lost : Set Block) : Prop where
  exact : ∀ b, b ∈ v.allocated ↔ v.Referenced b ∨ b ∈ lost
  lost : ∀ b ∈ lost, ¬v.Referenced b
  fresh : ∀ b ∈ v.allocated, b.number < v.count
  nodup : v.allocated.Nodup
  single : ∀ i j b, (v.info i).Owns b → (v.info j).Owns b → i = j
  whole : ∀ i, (v.info i).vq ≠ none → (v.info i).queue ≠ none
  once : v.freedTwice = false

variable {v : QueueMemory} {lost : Set Block}

theorem Tracks.accounted_iff (h : v.Tracks lost) : v.Accounted ↔ lost = ∅ := by
  constructor
  · intro hacc
    refine Set.eq_empty_iff_forall_notMem.mpr fun b hb => h.lost b hb ?_
    exact (hacc.exact b).mp ((h.exact b).mpr (.inr hb))
  · rintro rfl
    exact ⟨fun b => (h.exact b).trans (or_iff_left (Set.notMem_empty b)), h.once⟩

theorem Tracks.lost_lt (h : v.Tracks lost) {b : Block} (hb : b ∈ lost) : b.number < v.count :=
  h.fresh b ((h.exact b).mpr (.inr hb))

theorem Tracks.referenced_lt (h : v.Tracks lost) {b : Block} (hb : v.Referenced b) :
    b.number < v.count :=
  h.fresh b ((h.exact b).mpr (.inl hb))

/-- No entry has a control block. -/
def Empty (v : QueueMemory) : Prop := ∀ i, (v.info i).vq = none

instance (v : QueueMemory) : Decidable v.Empty :=
  inferInstanceAs (Decidable (∀ i, (v.info i).vq = none))

theorem Empty.not_referenced (h : v.Empty) (b : Block) : ¬v.Referenced b := by
  rintro ⟨i, hi⟩
  exact QueueInfo.not_owns (h i) b hi

theorem empty_iff (v : QueueMemory) : v.Empty ↔ ∀ b, ¬v.Referenced b := by
  refine ⟨Empty.not_referenced, fun h i => ?_⟩
  cases hvq : (v.info i).vq with
  | none => rfl
  | some n => exact absurd ⟨i, hvq⟩ (h (.control n))

/-! ## Moving blocks -/

/-- Zeroing loses what is referenced. -/
theorem Tracks.zero (h : v.Tracks lost) : v.zero.Tracks (lost ∪ {b | v.Referenced b}) := by
  have hnone : ∀ b, ¬v.zero.Referenced b := Empty.not_referenced fun _ => rfl
  refine ⟨fun b => ?_, fun b _ => hnone b, h.fresh, h.nodup, fun i j b hi => ?_, fun i hi => ?_,
    h.once⟩
  · rw [or_iff_right (hnone b)]
    exact (h.exact b).trans or_comm
  · exact absurd ⟨i, hi⟩ (hnone b)
  · exact absurd rfl hi

theorem Tracks.congr_device (h : v.Tracks lost) (device : Bool) :
    { v with device }.Tracks lost :=
  ⟨h.exact, h.lost, h.fresh, h.nodup, h.single, h.whole, h.once⟩

/-- Another entry gives up what the old one owned, and takes what it owns from what is lost. -/
theorem Tracks.setInfo (h : v.Tracks lost) (i : Fin maxQueues) (q : QueueInfo)
    (hq : ∀ b, q.Owns b → b ∈ lost ∨ (v.info i).Owns b) (hwhole : q.vq ≠ none → q.queue ≠ none) :
    (v.setInfo i q).Tracks ((lost ∪ {b | (v.info i).Owns b}) \ {b | q.Owns b}) := by
  have hself : (v.setInfo i q).info i = q := v.setInfo_self i q
  have hother : ∀ {j}, j ≠ i → (v.setInfo i q).info j = v.info j := v.setInfo_of_ne q
  -- what another entry owns, `q` does not own
  have hdisjoint : ∀ {j b}, j ≠ i → (v.info j).Owns b → ¬(b ∈ lost ∨ (v.info i).Owns b) := by
    intro j b hj hb hor
    rcases hor with hlost | hi
    · exact h.lost b hlost ⟨j, hb⟩
    · exact hj (h.single j i b hb hi)
  refine ⟨fun b => ?_, fun b hb => ?_, h.fresh, h.nodup, fun j k b hj hk => ?_, fun j hj => ?_,
    h.once⟩
  · refine (h.exact b).trans ⟨fun hb => ?_, fun hb => ?_⟩
    · by_cases hown : q.Owns b
      · exact .inl ⟨i, hself.symm ▸ hown⟩
      · rcases hb with ⟨j, hj⟩ | hlost
        · by_cases hji : j = i
          · exact .inr ⟨.inr (hji ▸ hj), hown⟩
          · exact .inl ⟨j, (hother hji).symm ▸ hj⟩
        · exact .inr ⟨.inl hlost, hown⟩
    · rcases hb with ⟨j, hj⟩ | ⟨hlost | hi, -⟩
      · by_cases hji : j = i
        · rw [hji, hself] at hj
          exact (hq b hj).symm.imp (fun hi => ⟨i, hi⟩) id
        · rw [hother hji] at hj
          exact .inl ⟨j, hj⟩
      · exact .inr hlost
      · exact .inl ⟨i, hi⟩
  · rintro ⟨j, hj⟩
    by_cases hji : j = i
    · rw [hji, hself] at hj
      exact hb.2 hj
    · rw [hother hji] at hj
      exact hdisjoint hji hj hb.1
  · by_cases hji : j = i <;> by_cases hki : k = i
    · exact hji.trans hki.symm
    · rw [hji, hself] at hj
      rw [hother hki] at hk
      exact absurd (hq b hj) (hdisjoint hki hk)
    · rw [hki, hself] at hk
      rw [hother hji] at hj
      exact absurd (hq b hk) (hdisjoint hji hj)
    · rw [hother hji] at hj
      rw [hother hki] at hk
      exact h.single j k b hj hk
  · by_cases hji : j = i
    · rw [hji, hself] at hj ⊢
      exact hwhole hj
    · rw [hother hji] at hj ⊢
      exact h.whole j hj

/-- An entry without a control block owns nothing, wherever it points. -/
theorem Tracks.setInfo_none (h : v.Tracks lost) {i : Fin maxQueues} (hi : (v.info i).vq = none)
    (r : Option Nat) : (v.setInfo i ⟨r, (v.info i).vq⟩).Tracks lost := by
  have hnot : ∀ b, ¬QueueInfo.Owns ⟨r, (v.info i).vq⟩ b := QueueInfo.not_owns hi
  have hset := h.setInfo i ⟨r, (v.info i).vq⟩ (fun b hb => absurd hb (hnot b))
    (fun hvq => absurd hi hvq)
  have hold : {b | (v.info i).Owns b} = ∅ :=
    Set.eq_empty_iff_forall_notMem.mpr (QueueInfo.not_owns hi)
  have hnew : {b | QueueInfo.Owns ⟨r, (v.info i).vq⟩ b} = ∅ :=
    Set.eq_empty_iff_forall_notMem.mpr hnot
  rwa [hold, hnew, Set.union_empty, Set.sdiff_empty] at hset

/-- A new block is lost until an entry refers to it. -/
theorem Tracks.alloc (h : v.Tracks lost) (b : Block) (hb : b.number = v.count) :
    { v with allocated := b :: v.allocated, count := v.count + 1 }.Tracks (insert b lost) := by
  have hnew : ¬v.Referenced b := fun hb' => by
    have hlt := h.referenced_lt hb'
    omega
  refine ⟨fun c => ?_, fun c hc => ?_, fun c hc => ?_, ?_, h.single, h.whole, h.once⟩
  · rw [List.mem_cons, h.exact c, Set.mem_insert_iff]
    exact or_left_comm
  · rcases Set.mem_insert_iff.mp hc with rfl | hc
    · exact hnew
    · exact h.lost c hc
  · change c.number < v.count + 1
    rcases List.mem_cons.mp hc with rfl | hc
    · omega
    · have hlt := h.fresh c hc
      omega
  · refine List.nodup_cons.mpr ⟨fun hmem => ?_, h.nodup⟩
    have hlt := h.fresh b hmem
    omega

/-- What is freed must have been lost. -/
theorem Tracks.free {b : Block} (h : v.Tracks (insert b lost)) (hb : b ∉ lost) :
    (v.free b).Tracks lost := by
  have hnot : ¬v.Referenced b := h.lost b (Set.mem_insert b lost)
  have hmem : b ∈ v.allocated := (h.exact b).mpr (.inr (Set.mem_insert b lost))
  unfold QueueMemory.free
  rw [if_pos hmem]
  refine ⟨fun c => ?_, fun c hc => h.lost c (Set.mem_insert_of_mem b hc), fun c hc => ?_,
    h.nodup.erase b, h.single, h.whole, h.once⟩
  · rw [h.nodup.mem_erase_iff, h.exact c, Set.mem_insert_iff]
    constructor
    · rintro ⟨hne, href | heq | hc⟩
      · exact .inl href
      · exact absurd heq hne
      · exact .inr hc
    · rintro (href | hc)
      · exact ⟨fun heq => hnot (heq ▸ href), .inl href⟩
      · exact ⟨fun heq => hb (heq ▸ hc), .inr (.inr hc)⟩
  · exact h.fresh c (List.mem_of_mem_erase hc)

/-! ## The set-up of a queue -/

theorem Tracks.allocRing (h : v.Tracks lost) {i : Fin maxQueues} (hi : (v.info i).vq = none) :
    (v.allocRing i).Tracks (insert (.ring v.count) lost) :=
  (h.alloc (.ring v.count) rfl).setInfo_none hi (some v.count)

theorem Tracks.allocControl (h : v.Tracks lost) :
    v.allocControl.Tracks (insert (.control v.count) lost) :=
  h.alloc (.control v.count) rfl

theorem Tracks.fresh_notMem (h : v.Tracks lost) {b : Block} (hb : v.count ≤ b.number) :
    b ∉ lost := by
  intro hmem
  have hlt := h.lost_lt hmem
  omega

/-- Only a set-up that fails at the control block loses something: the ring. -/
theorem Tracks.setupVq (h : v.Tracks lost) {i : Fin maxQueues} (hi : (v.info i).vq = none)
    (o : SetupOutcome) :
    (v.setupVq i o).2.Tracks (lost ∪ {b | o = .noControl ∧ b = .ring v.count}) := by
  have hring : Block.ring v.count ∉ lost := h.fresh_notMem (Nat.le_refl v.count)
  have hcontrol : Block.control (v.count + 1) ∉ lost := h.fresh_notMem (Nat.le_succ v.count)
  have hboth := (h.allocRing hi).allocControl
  rw [allocRing_count] at hboth
  cases o with
  | notQueried => simpa [QueueMemory.setupVq] using h
  | noRing => simpa [QueueMemory.setupVq] using h.setInfo_none hi none
  | noControl => simpa [QueueMemory.setupVq] using h.allocRing hi
  | notActivated =>
    have hfree := (hboth.free (by simpa using hcontrol)).free hring
    simpa [QueueMemory.setupVq] using hfree
  | ready =>
    have hinfo : ((v.allocRing i).allocControl).info i = ⟨some v.count, none⟩ := by
      rw [allocControl_info, allocRing_self, hi]
    have hset := hboth.setInfo i ⟨some v.count, some (v.count + 1)⟩ (fun b hb => ?_) (by simp)
    · have hlost : lost = (insert (.control (v.count + 1)) (insert (.ring v.count) lost) ∪
          {b | ((v.allocRing i).allocControl.info i).Owns b}) \
          {b | QueueInfo.Owns ⟨some v.count, some (v.count + 1)⟩ b} := by
        ext b
        have hnot : ¬QueueInfo.Owns ⟨some v.count, none⟩ b := QueueInfo.not_owns rfl b
        simp only [Set.mem_sdiff, Set.mem_union, Set.mem_insert_iff, Set.mem_ofPred_eq, hinfo,
          QueueInfo.owns_some]
        grind
      rw [← hlost] at hset
      simpa [QueueMemory.setupVq, hinfo] using hset
    · rcases (QueueInfo.owns_some _ _ b).mp hb with rfl | rfl
      · exact .inl (Set.mem_insert_of_mem _ (Set.mem_insert _ _))
      · exact .inl (Set.mem_insert _ _)

theorem setupVq_of_ne (v : QueueMemory) {i j : Fin maxQueues} (hj : j ≠ i) (o : SetupOutcome) :
    (v.setupVq i o).2.info j = v.info j := by
  cases o <;> simp [setupVq, hj, allocRing_of_ne]

theorem setupVq_ready_self (v : QueueMemory) (i : Fin maxQueues) :
    ((v.setupVq i .ready).2.info i).vq = some (v.count + 1) := by
  simp [setupVq]

/-! ## The deletion of the queues -/

theorem Tracks.deleteQueue (h : v.Tracks lost) (i : Fin maxQueues) :
    (v.deleteQueue i).Tracks lost := by
  unfold QueueMemory.deleteQueue
  cases hvq : (v.info i).vq with
  | none => exact h
  | some n =>
    obtain ⟨r, hr⟩ := Option.ne_none_iff_exists'.mp (h.whole i (by simp [hvq]))
    have hinfo : v.info i = ⟨some r, some n⟩ := by rw [← hr, ← hvq]
    have hring : Block.ring r ∉ lost := fun hb =>
      h.lost _ hb ⟨i, by rw [hinfo]; exact (QueueInfo.owns_some r n _).mpr (.inl rfl)⟩
    have hcontrol : Block.control n ∉ lost := fun hb =>
      h.lost _ hb ⟨i, by rw [hinfo]; exact (QueueInfo.owns_some r n _).mpr (.inr rfl)⟩
    have hset := h.setInfo i ⟨some r, none⟩ (fun b hb => absurd hb (QueueInfo.not_owns rfl b))
      (by simp)
    have hlost : (lost ∪ {b | (v.info i).Owns b}) \ {b | QueueInfo.Owns ⟨some r, none⟩ b} =
        insert (.control n) (insert (.ring r) lost) := by
      ext b
      have hnot : ¬QueueInfo.Owns ⟨some r, none⟩ b := QueueInfo.not_owns rfl b
      simp only [Set.mem_sdiff, Set.mem_union, Set.mem_ofPred_eq, hinfo, QueueInfo.owns_some,
        Set.mem_insert_iff, hnot]
      grind
    rw [hlost] at hset
    simp only [delVq, hinfo, free_setInfo]
    exact (hset.free (by simpa using hcontrol)).free hring

theorem deleteQueue_self (v : QueueMemory) (i : Fin maxQueues) :
    ((v.deleteQueue i).info i).vq = none := by
  unfold deleteQueue
  cases hvq : (v.info i).vq with
  | none => exact hvq
  | some n => simp

theorem delVq_info (v : QueueMemory) (q : QueueInfo) (n : Nat) : (v.delVq q n).info = v.info := by
  unfold delVq
  cases q.queue <;> simp

theorem deleteQueue_of_ne (v : QueueMemory) {i j : Fin maxQueues} (hj : j ≠ i) :
    (v.deleteQueue i).info j = v.info j := by
  unfold deleteQueue
  cases (v.info i).vq with
  | none => rfl
  | some n => simp [hj, delVq_info]

theorem Tracks.deleteQueues (h : v.Tracks lost) : v.deleteQueues.Tracks lost := by
  unfold QueueMemory.deleteQueues
  induction List.finRange maxQueues generalizing v with
  | nil => exact h
  | cons i is ih => exact ih (h.deleteQueue i)

/-- A queue that is gone stays gone, and each has its turn. -/
theorem foldl_deleteQueue_vq (is : List (Fin maxQueues)) (v : QueueMemory) (j : Fin maxQueues)
    (hj : j ∈ is ∨ (v.info j).vq = none) : ((is.foldl deleteQueue v).info j).vq = none := by
  induction is generalizing v with
  | nil => exact hj.resolve_left List.not_mem_nil
  | cons i is ih =>
    apply ih (v.deleteQueue i)
    by_cases hji : j = i
    · exact .inr (hji ▸ v.deleteQueue_self i)
    · rw [v.deleteQueue_of_ne hji]
      exact hj.imp_left fun hmem => (List.mem_cons.mp hmem).resolve_left hji

theorem deleteQueues_empty (v : QueueMemory) : v.deleteQueues.Empty := fun j =>
  foldl_deleteQueue_vq _ v j (.inl (List.mem_finRange j))

/-! ## The set-up of the device -/

theorem findQueues_snd (v : QueueMemory) (ctrl cursor : SetupOutcome) :
    (v.findQueues ctrl cursor).2 =
      if ctrl = .ready then
        if cursor = .ready then ((v.setupVq ctrlIndex ctrl).2.setupVq cursorIndex cursor).2
        else ((v.setupVq ctrlIndex ctrl).2.setupVq cursorIndex cursor).2.deleteQueues
      else (v.setupVq ctrlIndex ctrl).2.deleteQueues := by
  unfold findQueues
  cases ctrl <;> cases cursor <;> rfl

/-- What `virtio_find_queues` adds to what is lost. -/
theorem Tracks.findQueues (h : v.Tracks lost) (hempty : v.Empty) (ctrl cursor : SetupOutcome) :
    ∃ more : Set Block, (v.findQueues ctrl cursor).2.Tracks (lost ∪ more) ∧
      (more = ∅ ↔ ¬(ctrl = .noControl ∨ ctrl = .ready ∧ cursor = .noControl)) ∧
      ((v.findQueues ctrl cursor).2.Empty ↔ ¬(ctrl = .ready ∧ cursor = .ready)) := by
  have hfirst := h.setupVq (hempty ctrlIndex) ctrl
  rw [findQueues_snd]
  by_cases hctrl : ctrl = .ready
  · subst hctrl
    have hne : cursorIndex ≠ ctrlIndex := by decide
    have hnone : ((v.setupVq ctrlIndex .ready).2.info cursorIndex).vq = none := by
      rw [v.setupVq_of_ne hne]
      exact hempty _
    have hsecond := hfirst.setupVq hnone cursor
    by_cases hcursor : cursor = .ready
    · subst hcursor
      refine ⟨∅, by simpa using hsecond, by simp, ?_⟩
      have hsome := setupVq_ready_self (v.setupVq ctrlIndex .ready).2 cursorIndex
      simp only [if_true, and_self, not_true_eq_false, iff_false]
      intro hcontra
      rw [hcontra cursorIndex] at hsome
      cases hsome
    · rw [if_pos rfl, if_neg hcursor]
      refine ⟨_, by simpa using hsecond.deleteQueues, ?_, ?_⟩
      · simp [Set.eq_empty_iff_forall_notMem]
      · simpa [hcursor] using deleteQueues_empty _
  · rw [if_neg hctrl]
    refine ⟨_, hfirst.deleteQueues, ?_, ?_⟩
    · simp [Set.eq_empty_iff_forall_notMem, hctrl]
    · simpa [hctrl] using deleteQueues_empty _

/-- `GpuDeviceInit` loses what the table referred to, and the rings without a control block. -/
theorem Tracks.gpuDeviceInit (h : v.Tracks lost) (o : InitOutcomes) :
    ∃ more : Set Block, (v.gpuDeviceInit o).Tracks (lost ∪ more) ∧
      (more = ∅ ↔ v.Empty ∧ ¬o.LosesRing) ∧ ((v.gpuDeviceInit o).Empty ↔ ¬o.SetsUp) := by
  have hzero : (v.deviceInitialize o.initialized).Tracks (lost ∪ {b | v.Referenced b}) :=
    h.zero.congr_device o.initialized
  have hempty : (v.deviceInitialize o.initialized).Empty := fun _ => rfl
  have hrefs : {b | v.Referenced b} = ∅ ↔ v.Empty := by
    rw [empty_iff, Set.eq_empty_iff_forall_notMem]
    rfl
  unfold QueueMemory.gpuDeviceInit InitOutcomes.LosesRing InitOutcomes.SetsUp
  by_cases hinit : o.initialized = false
  · refine ⟨{b | v.Referenced b}, ?_, ?_, ?_⟩ <;> simp_all
  · by_cases hfeat : o.features = false
    · refine ⟨{b | v.Referenced b}, ?_, ?_, ?_⟩ <;> simp_all
    · obtain ⟨more, htracks, hmore, hdone⟩ := hzero.findQueues hempty o.ctrl o.cursor
      refine ⟨{b | v.Referenced b} ∪ more, ?_, ?_, ?_⟩
      · simpa [hinit, hfeat, Set.union_assoc] using htracks
      · rw [Set.union_empty_iff, hrefs, hmore]
        simp [hinit, hfeat]
      · simpa [hinit, hfeat] using hdone

theorem Tracks.gpuDeviceClose (h : v.Tracks lost) {w : QueueMemory}
    (hw : v.gpuDeviceClose = some w) : w.Tracks lost ∧ w.Empty := by
  unfold QueueMemory.gpuDeviceClose at hw
  split at hw
  · cases hw
    exact ⟨h.deleteQueues, deleteQueues_empty v⟩
  · cases hw

/-! ## The power callback -/

/-- What has to hold before `SetPowerState`, which initializes the device twice. -/
def PowerFits (v : QueueMemory) (state : DevicePowerState) (first second : InitOutcomes) : Prop :=
  match state with
  | .unspecified | .d0 =>
    v.Empty ∧ ¬first.SetsUp ∧ ¬first.LosesRing ∧ ¬second.LosesRing
  | .d1 | .d2 | .d3 => True

instance (v : QueueMemory) (state : DevicePowerState) (first second : InitOutcomes) :
    Decidable (v.PowerFits state first second) :=
  match state with
  | .unspecified | .d0 =>
    inferInstanceAs (Decidable (v.Empty ∧ ¬first.SetsUp ∧ ¬first.LosesRing ∧ ¬second.LosesRing))
  | .d1 | .d2 | .d3 => isTrue trivial

theorem Tracks.setPowerState (h : v.Tracks lost) {state : DevicePowerState}
    {first second : InitOutcomes} {w : QueueMemory}
    (hw : v.setPowerState state first second = some w) :
    ∃ more : Set Block, w.Tracks (lost ∪ more) ∧ (more = ∅ ↔ v.PowerFits state first second) := by
  obtain ⟨u, hu, hw⟩ := Option.bind_eq_some_iff.mp hw
  have hinits : some (v.gpuDeviceInit first) = some u →
      some (u.gpuDeviceInit second) = some w → ∃ more : Set Block, w.Tracks (lost ∪ more) ∧
      (more = ∅ ↔ v.Empty ∧ ¬first.SetsUp ∧ ¬first.LosesRing ∧ ¬second.LosesRing) := by
    intro hu hw
    cases hu
    cases hw
    obtain ⟨once, hfirst, honce, hbetween⟩ := h.gpuDeviceInit first
    obtain ⟨twice, hsecond, htwice, -⟩ := hfirst.gpuDeviceInit second
    refine ⟨once ∪ twice, Set.union_assoc lost once twice ▸ hsecond, ?_⟩
    rw [Set.union_empty_iff, honce, htwice, hbetween]
    tauto
  have hcloses : v.gpuDeviceClose = some u → u.gpuDeviceClose = some w →
      ∃ more : Set Block, w.Tracks (lost ∪ more) ∧ (more = ∅ ↔ True) := by
    intro hu hw
    refine ⟨∅, ?_, by simp⟩
    rw [Set.union_empty]
    exact ((h.gpuDeviceClose hu).1.gpuDeviceClose hw).1
  cases state with
  | unspecified | d0 => exact hinits hu hw
  | d1 | d2 | d3 => exact hcloses hu hw

/-- What the callback leaves accounted for was accounted for, and it does so exactly then. -/
theorem Tracks.setPowerState_accounted_iff (h : v.Tracks lost) {state : DevicePowerState}
    {first second : InitOutcomes} {w : QueueMemory}
    (hw : v.setPowerState state first second = some w) :
    w.Accounted ↔ v.Accounted ∧ v.PowerFits state first second := by
  obtain ⟨more, htracks, hmore⟩ := h.setPowerState hw
  rw [htracks.accounted_iff, Set.union_empty_iff, h.accounted_iff, hmore]

theorem Tracks.new : QueueMemory.new.Tracks ∅ := by
  have hnone : ∀ b, ¬QueueMemory.new.Referenced b := Empty.not_referenced fun _ => rfl
  refine ⟨fun b => ?_, fun b hb => ?_, fun b hb => ?_, List.nodup_nil, fun i j b hi => ?_,
    fun i hi => absurd rfl hi, rfl⟩
  · exact ⟨fun hb => absurd hb List.not_mem_nil, fun hb => absurd hb (by simpa using hnone b)⟩
  · exact absurd hb (Set.notMem_empty b)
  · exact absurd hb List.not_mem_nil
  · exact absurd ⟨i, hi⟩ (hnone b)

theorem Tracks.afterHwInit : QueueMemory.afterHwInit.Tracks ∅ := by
  obtain ⟨more, htracks, hmore, -⟩ := Tracks.new.gpuDeviceInit ⟨true, true, .ready, .ready⟩
  have hnone : more = ∅ := hmore.mpr ⟨fun _ => rfl, by decide⟩
  rwa [hnone, Set.union_empty] at htracks

end QueueMemory

/-! ## Runs -/

/-- The condition on a callback; the removal closes the device, which always fits. -/
def PoweredDevice.Fits (s : PoweredDevice) : PowerEvent → Prop
  | .setPowerState state first second => s.memory.PowerFits state first second
  | .remove => True

instance (s : PoweredDevice) (e : PowerEvent) : Decidable (s.Fits e) :=
  match e with
  | .setPowerState state first second =>
    inferInstanceAs (Decidable (s.memory.PowerFits state first second))
  | .remove => isTrue trivial

namespace PoweredDevice

/-- One callback: what is lost stays lost, and nothing more is lost exactly if it fits. -/
theorem step_accounted_iff {s s' : PoweredDevice} {e : PowerEvent} {lost : Set Block}
    (h : s.memory.Tracks lost) (hstep : system.step s e = some s') :
    (∃ lost', s'.memory.Tracks lost') ∧
      (s'.memory.Accounted ↔ s.memory.Accounted ∧ s.Fits e) := by
  cases e with
  | setPowerState state first second =>
    simp only [system] at hstep
    split at hstep
    · cases hstep
    · obtain ⟨w, hw, rfl⟩ := Option.map_eq_some_iff.mp hstep
      obtain ⟨more, htracks, -⟩ := h.setPowerState hw
      exact ⟨⟨_, htracks⟩, h.setPowerState_accounted_iff hw⟩
  | remove =>
    simp only [system] at hstep
    split at hstep
    · cases hstep
    · obtain ⟨w, hw, rfl⟩ := Option.map_eq_some_iff.mp hstep
      have htracks := (h.gpuDeviceClose hw).1
      refine ⟨⟨_, htracks⟩, ?_⟩
      rw [htracks.accounted_iff, h.accounted_iff]
      exact (and_iff_left trivial).symm

theorem tracks {s : PoweredDevice} (h : system.Reachable s) : ∃ lost, s.memory.Tracks lost := by
  refine h.induct (fun s => ∃ lost, s.memory.Tracks lost) ⟨∅, .afterHwInit⟩ ?_
  intro s e s' ⟨lost, htracks⟩ _ hstep
  exact (step_accounted_iff htracks hstep).1

theorem accounted_of_fits {s : PoweredDevice} (h : system.ReachableUnder Fits s) :
    s.memory.Accounted := by
  induction h with
  | init => exact QueueMemory.Tracks.afterHwInit.accounted_iff.mpr rfl
  | step hreach hfits hstep ih =>
    obtain ⟨lost, htracks⟩ := tracks hreach.reachable
    exact (step_accounted_iff htracks hstep).2.mpr ⟨ih, hfits⟩

/-- The memory of the queues is accounted for exactly where callbacks lead each of which
initializes the device, if at all, from an empty table, sets up the queues the second time at most
and loses no ring on the way. -/
theorem queueMemory_accounted_iff {s : PoweredDevice} (h : system.Reachable s) :
    s.memory.Accounted ↔ system.ReachableUnder Fits s := by
  refine ⟨fun hacc => ?_, accounted_of_fits⟩
  induction h with
  | init => exact .init
  | step hreach _ hstep ih =>
    obtain ⟨lost, htracks⟩ := tracks hreach
    obtain ⟨hbefore, hfits⟩ := (step_accounted_iff htracks hstep).2.mp hacc
    exact .step (ih hbefore) hfits hstep

/-- Both queues are set up. -/
def setUp : InitOutcomes := ⟨true, true, .ready, .ready⟩

/-- The features are refused. -/
def refused : InitOutcomes := ⟨true, false, .ready, .ready⟩

/-- The device sleeps, wakes up at the second attempt only, and is removed. -/
theorem queueMemory_accounted_iff_secondAttempt :
    ∃ s, system.runUnder Fits
        [.setPowerState .d3 setUp setUp, .setPowerState .d0 refused setUp, .remove] = some s ∧
      s.memory.Accounted := by
  have hrun : (system.runUnder Fits
      [.setPowerState .d3 setUp setUp, .setPowerState .d0 refused setUp, .remove]).isSome :=
    by decide
  obtain ⟨s, hs⟩ := Option.isSome_iff_exists.mp hrun
  have hreach := System.reachable_of_run hs
  exact ⟨s, hs, (queueMemory_accounted_iff hreach.reachable).mpr hreach⟩

/-- The device sleeps and wakes up: the second attempt forgets the ring that the first has set
up. -/
theorem not_always_referenced : ¬∀ s, system.Reachable s → s.memory.Accounted := by
  have hrun : ∃ s, system.run [.setPowerState .d3 setUp setUp, .setPowerState .d0 setUp setUp] =
      some s ∧ .ring 4 ∈ s.memory.allocated ∧ ¬s.memory.Referenced (.ring 4) :=
    ⟨_, rfl, by decide, by decide⟩
  intro hall
  obtain ⟨s, hs, hallocated, hnot⟩ := hrun
  exact hnot (((hall s (System.reachable_of_run hs)).exact _).mp hallocated)

end PoweredDevice

end VioGpu.Device
