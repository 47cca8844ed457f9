import VioGpu.VirtIO.QueueAccount

/-!
# What a failed `virtio_find_queues` leaves allocated

The loop keeps the account of the queues: what nothing refers to is in `left`.
`virtio_delete_queues` frees the rest, so that a failure is undone just when `left` is empty. It
is, except where a ring is allocated and its control block is not.
-/

namespace VioGpu.VirtIO

open Lib

namespace VirtIODevice

variable {start vdev : VirtIODevice} {index ring num : Nat} {a : QueueAnswers}

/-! ## The loop -/

/-- No queue has been found yet, and the table has room for `maxQueues` entries. -/
structure Idle (vdev : VirtIODevice) : Prop where
  room : vdev.maxQueues ≤ vdev.infoSize
  free : ∀ i < vdev.maxQueues, (vdev.info i).vq = none

theorem initialized_idle (notifyBase : Option Nat) (notifyOffsetMultiplier notifyLen : Nat) :
    (initialized notifyBase notifyOffsetMultiplier notifyLen).Idle where
  room := Nat.le_refl _
  free _ _ := rfl

/-- Nothing is owed before the call. -/
theorem owes_start (hfree : ∀ i < start.maxQueues, (start.info i).vq = none) :
    start.Owes start [] := by
  refine ⟨rfl, rfl, fun _ => rfl, [], [], (List.append_nil _).symm, rfl, ?_⟩
  have hnil : start.liveBlocks = [] := by
    apply List.flatMap_eq_nil_iff.mpr
    intro i hi
    exact VirtIOQueueInfo.blocks_of_none (hfree i (List.mem_range.mp hi))
  rw [hnil]
  exact List.Perm.refl []

/-- The queues before `n` are set up, and `vqs` are their control blocks. -/
structure Recorded (vdev : VirtIODevice) (n : Nat) (vqs : List Nat) : Prop where
  length : vqs.length = n
  entries : ∀ i < n, ∃ vq num ring, vqs[i]? = some vq ∧
    vdev.info i = ⟨some vq, num, some ring⟩ ∧ num ≠ 0

/-- The first queue that is not set up. -/
structure FirstFailure (start : VirtIODevice) (queue : Nat → QueueAnswers) (n i : Nat) : Prop where
  lt : i < n
  before : ∀ j < i, start.Ready j (queue j)
  notReady : ¬start.Ready i (queue i)

/-- What the loop comes to after `n` turns. -/
inductive LoopEnd (start : VirtIODevice) (queue : Nat → QueueAnswers) (n : Nat) : Prop
  | finished (vqs : List Nat) (vdev : VirtIODevice) (ready : ∀ i < n, start.Ready i (queue i))
      (result : start.setupQueues queue n = some (.ok vqs, vdev)) (owes : start.Owes vdev [])
      (recorded : vdev.Recorded n vqs) (rest : ∀ i, n ≤ i → vdev.info i = start.info i)
  | undone (status : QueueStatus) (vdev : VirtIODevice) (i : Nat)
      (first : FirstFailure start queue n i) (noMishap : ¬(queue i).Mishap i)
      (result : start.setupQueues queue n = some (.error status, vdev)) (owes : start.Owes vdev [])
  | leak (status : QueueStatus) (vdev : VirtIODevice) (i ring : Nat)
      (first : FirstFailure start queue n i) (mishap : (queue i).Mishap i)
      (result : start.setupQueues queue n = some (.error status, vdev))
      (owes : start.Owes vdev [.ring ring])
  | lost (i : Nat) (first : FirstFailure start queue n i) (mishap : (queue i).Mishap i)
      (result : start.setupQueues queue n = none)

theorem FirstFailure.succ {queue : Nat → QueueAnswers} {n i : Nat}
    (h : FirstFailure start queue n i) : FirstFailure start queue (n + 1) i :=
  ⟨Nat.lt_succ_of_lt h.lt, h.before, h.notReady⟩

/-- A queue is recorded after the others. -/
theorem Recorded.concat {vdev' : VirtIODevice} {n vq : Nat} {vqs : List Nat}
    (h : vdev.Recorded n vqs) (hentry : vdev'.info n = ⟨some vq, num, some ring⟩)
    (hpos : num ≠ 0) (hothers : ∀ i, i ≠ n → vdev'.info i = vdev.info i) :
    vdev'.Recorded (n + 1) (vqs ++ [vq]) := by
  refine ⟨by simp [h.length], fun i hi => ?_⟩
  by_cases heq : i = n
  · subst heq
    refine ⟨vq, num, ring, ?_, hentry, hpos⟩
    rw [← h.length, List.getElem?_concat_length]
  · have hlt : i < n := by omega
    obtain ⟨vq', num', ring', hget, hinfo, hpos'⟩ := h.entries i hlt
    refine ⟨vq', num', ring', ?_, (hothers i heq).trans hinfo, hpos'⟩
    rw [List.getElem?_append_left (by rw [h.length]; exact hlt)]
    exact hget

/-- **The loop over the queues**, while the table has room for them. -/
theorem Idle.setupQueues (h : start.Idle) (queue : Nat → QueueAnswers) {n : Nat}
    (hn : n ≤ start.maxQueues) : LoopEnd start queue n := by
  induction n with
  | zero =>
    exact .finished [] start (fun i hi => absurd hi (Nat.not_lt_zero i)) rfl (owes_start h.free)
      ⟨rfl, fun i hi => absurd hi (Nat.not_lt_zero i)⟩ fun _ _ => rfl
  | succ n ih =>
    cases ih (Nat.le_of_succ_le hn) with
    | finished vqs vdev hready hresult howes hrecorded hrest =>
      have hmax : n < vdev.maxQueues := by
        rw [howes.maxQueues]
        omega
      have hsize : n < vdev.infoSize := by
        rw [howes.infoSize]
        exact Nat.lt_of_lt_of_le hn h.room
      have hnone : (vdev.info n).vq = none := by
        rw [hrest n (Nat.le_refl n)]
        exact h.free n hn
      cases howes.setUp hmax hsize hnone (queue n) with
      | ready vq ring num vdev' hreadyn hcall howes' hentry hpos hothers =>
        refine .finished (vqs ++ [vq]) vdev' ?_ ?_ howes' (hrecorded.concat hentry hpos hothers) ?_
        · intro i hi
          rcases Nat.lt_succ_iff_lt_or_eq.mp hi with hlt | rfl
          · exact hready i hlt
          · exact hreadyn
        · simp [VirtIODevice.setupQueues, hresult, hcall]
        · intro i hi
          rw [hothers i (by omega)]
          exact hrest i (by omega)
      | undone status vdev' hnot hnoMishap hcall howes' =>
        refine .undone status vdev' n ⟨Nat.lt_succ_self n, hready, hnot⟩ hnoMishap ?_ howes'
        simp [VirtIODevice.setupQueues, hresult, hcall]
      | leak status vdev' ring hnot hmishap hcall howes' =>
        refine .leak status vdev' n ring ⟨Nat.lt_succ_self n, hready, hnot⟩ hmishap ?_ howes'
        simp [VirtIODevice.setupQueues, hresult, hcall]
      | lost hnot hmishap hcall =>
        refine .lost n ⟨Nat.lt_succ_self n, hready, hnot⟩ hmishap ?_
        simp [VirtIODevice.setupQueues, hresult, hcall]
    | undone status vdev i hfirst hnoMishap hresult howes =>
      refine .undone status vdev i hfirst.succ hnoMishap ?_ howes
      simp [VirtIODevice.setupQueues, hresult]
    | leak status vdev i ring hfirst hmishap hresult howes =>
      refine .leak status vdev i ring hfirst.succ hmishap ?_ howes
      simp [VirtIODevice.setupQueues, hresult]
    | lost i hfirst hmishap hresult =>
      refine .lost i hfirst.succ hmishap ?_
      simp [VirtIODevice.setupQueues, hresult]

/-! ## A table without room -/

theorem virtioDeleteQueues_room {vdev' : VirtIODevice} (h : vdev.virtioDeleteQueues = some vdev') :
    vdev.maxQueues ≤ vdev.infoSize := by
  have hturns : ∀ n vdev', (List.range n).foldlM VirtIODevice.deleteQueue vdev = some vdev' →
      vdev'.infoSize = vdev.infoSize ∧ n ≤ vdev.infoSize := by
    intro n
    induction n with
    | zero =>
      intro vdev' hturn
      cases hturn
      exact ⟨rfl, Nat.zero_le _⟩
    | succ n ih =>
      intro vdev' hturn
      rw [List.range_succ, List.foldlM_append] at hturn
      obtain ⟨vdev₁, hturn₁, hlast⟩ := Option.bind_eq_some_iff.mp hturn
      obtain ⟨hsize, -⟩ := ih vdev₁ hturn₁
      rw [List.foldlM_cons] at hlast
      obtain ⟨vdev₂, hdelete, hlast⟩ := Option.bind_eq_some_iff.mp hlast
      cases hlast
      unfold VirtIODevice.deleteQueue at hdelete
      split_ifs at hdelete with hroom
      rw [← hsize]
      refine ⟨?_, Nat.not_le.mp hroom⟩
      cases hvq : (vdev₁.info n).vq with
      | none =>
        rw [hvq] at hdelete
        cases hdelete
        rfl
      | some vq =>
        rw [hvq] at hdelete
        cases hdelete
        rw [vioModernDelVq_eq vdev₁ hvq]
        rfl
  exact (hturns vdev.maxQueues vdev' h).2

theorem setupControl_sizes {result : Except QueueStatus Nat} {vdev' : VirtIODevice}
    (h : vdev.setupControl index ring num a = some (result, vdev')) :
    vdev'.maxQueues = vdev.maxQueues ∧ vdev'.infoSize = vdev.infoSize := by
  unfold setupControl at h
  by_cases hcontrol : a.control = false
  · rw [if_pos hcontrol] at h
    cases h
    exact ⟨rfl, rfl⟩
  rw [if_neg hcontrol] at h
  simp only at h
  split at h
  · cases h
  · cases h
    exact ⟨rfl, rfl⟩
  · split at h
    · cases h
      exact ⟨rfl, rfl⟩
    · split at h
      · cases h
        exact ⟨rfl, rfl⟩
      · cases h
        exact ⟨rfl, rfl⟩

theorem vpSetupVq_sizes {result : Except QueueStatus Nat} {vdev' : VirtIODevice}
    (h : vdev.vpSetupVq index a = some (result, vdev')) :
    (vdev'.maxQueues = vdev.maxQueues ∧ vdev'.infoSize = vdev.infoSize) ∧
      ∀ vq, result = .ok vq → index < vdev.infoSize := by
  by_cases hsize : index < vdev.infoSize
  · refine ⟨?_, fun _ _ => hsize⟩
    rcases vpSetupVq_cases (a := a) hsize with ⟨-, status, hcall | hcall⟩ | ⟨num, -, hcall⟩
    · rw [hcall] at h
      cases h
      exact ⟨rfl, rfl⟩
    · rw [hcall] at h
      cases h
      exact ⟨rfl, rfl⟩
    · rw [hcall] at h
      obtain ⟨⟨made, vdev₁⟩, hcontrol, h⟩ := Option.bind_eq_some_iff.mp h
      obtain ⟨hmax₁, hsize₁⟩ := setupControl_sizes hcontrol
      cases made with
      | error status =>
        cases h
        exact ⟨hmax₁, hsize₁⟩
      | ok vq =>
        cases h
        exact ⟨hmax₁, hsize₁⟩
  · unfold vpSetupVq vioModernSetupVq at h
    cases hquery : vioModernQueryVqAlloc index a with
    | error status =>
      rw [hquery] at h
      cases h
      exact ⟨⟨rfl, rfl⟩, nofun⟩
    | ok size =>
      simp only [hquery, if_pos (Nat.not_lt.mp hsize)] at h
      cases h

theorem setupQueues_sizes {queue : Nat → QueueAnswers} {n : Nat}
    {result : Except QueueStatus (List Nat)} {vdev' : VirtIODevice}
    (h : vdev.setupQueues queue n = some (result, vdev')) :
    (vdev'.maxQueues = vdev.maxQueues ∧ vdev'.infoSize = vdev.infoSize) ∧
      ∀ vqs, result = .ok vqs → n ≤ vdev.infoSize := by
  induction n generalizing result vdev' with
  | zero =>
    cases h
    exact ⟨⟨rfl, rfl⟩, fun _ _ => Nat.zero_le _⟩
  | succ n ih =>
    obtain ⟨⟨made, vdev₁⟩, hturns, h⟩ := Option.bind_eq_some_iff.mp h
    obtain ⟨⟨hmax, hsize⟩, hroom⟩ := ih hturns
    cases made with
    | error status =>
      cases h
      exact ⟨⟨hmax, hsize⟩, nofun⟩
    | ok vqs =>
      obtain ⟨⟨made, vdev₂⟩, hcall, h⟩ := Option.bind_eq_some_iff.mp h
      obtain ⟨⟨hmax', hsize'⟩, hroom'⟩ := vpSetupVq_sizes hcall
      cases made with
      | error status =>
        cases h
        exact ⟨⟨hmax'.trans hmax, hsize'.trans hsize⟩, nofun⟩
      | ok vq =>
        cases h
        refine ⟨⟨hmax'.trans hmax, hsize'.trans hsize⟩, fun _ _ => ?_⟩
        rw [← hsize]
        exact hroom' vq rfl

/-! ## The whole call -/

/-- All queues are created and recorded, and what the call has allocated and not freed is the memory
of the queues. -/
structure Found (vdev vdev' : VirtIODevice) (nvqs : Nat) (vqs : List Nat) : Prop where
  recorded : vdev'.Recorded nvqs vqs
  owned : ∃ l hs, vdev'.ledger = vdev.ledger ++ l ∧ held [] l = some hs ∧ hs.Perm vdev'.liveBlocks

/-- No queue is recorded, and every ring and control block that the call has allocated has been
freed exactly once. -/
structure Undone (vdev vdev' : VirtIODevice) : Prop where
  cleared : ∀ i < vdev'.maxQueues, (vdev'.info i).vq = none
  freed : ∃ l, vdev'.ledger = vdev.ledger ++ l ∧ Settled l

/-- `virtio_find_queues` returns, with all queues or with none. -/
def FoundOrUndone (vdev : VirtIODevice) (nvqs : Nat) (a : FindAnswers) : Prop :=
  (∃ vqs vdev', vdev.virtioFindQueues nvqs a = some (.ok vqs, vdev') ∧
    vdev.Found vdev' nvqs vqs) ∨
  ∃ status vdev', vdev.virtioFindQueues nvqs a = some (.error status, vdev') ∧
    vdev.Undone vdev'

/-- `virtio_find_queues` after the table is reserved. -/
def afterReserve (start : VirtIODevice) (nvqs : Nat) (a : FindAnswers) :
    Option (Except QueueStatus (List Nat) × VirtIODevice) :=
  if a.msixVector ≠ virtioMsiNoVector ∧ a.configVector = virtioMsiNoVector then
    start.errorFind .deviceBusy
  else do
    let (result, vdev) ← start.setupQueues a.queue nvqs
    match result with
    | .error status => vdev.errorFind status
    | .ok vqs => some (.ok vqs, vdev)

theorem virtioFindQueues_eq (vdev : VirtIODevice) (nvqs : Nat) (a : FindAnswers) :
    vdev.virtioFindQueues nvqs a =
      if (vdev.virtioReserveQueueMemory nvqs a.table).1 = false then
        some (.error .insufficientResources, (vdev.virtioReserveQueueMemory nvqs a.table).2)
      else (vdev.virtioReserveQueueMemory nvqs a.table).2.afterReserve nvqs a :=
  rfl

/-- Where nothing is owed and no queue is recorded, the call is undone. -/
theorem Owes.undone (h : start.Owes vdev [])
    (hcleared : ∀ i < vdev.maxQueues, (vdev.info i).vq = none) : start.Undone vdev := by
  obtain ⟨l, hs, hledger, hheld, hperm⟩ := h.ledger
  refine ⟨hcleared, l, hledger, ?_⟩
  have hnil : vdev.liveBlocks = [] := by
    apply List.flatMap_eq_nil_iff.mpr
    intro i hi
    exact VirtIOQueueInfo.blocks_of_none (hcleared i (List.mem_range.mp hi))
  rw [hnil] at hperm
  rw [Settled, hheld, hperm.eq_nil]

/-- Where a ring is owed, it is not. -/
theorem Owes.not_undone (h : start.Owes vdev [.ring ring]) : ¬start.Undone vdev := by
  rintro ⟨-, l', hledger', hsettled⟩
  obtain ⟨l, hs, hledger, hheld, hperm⟩ := h.ledger
  obtain rfl : l' = l := List.append_cancel_left (hledger'.symm.trans hledger)
  rw [Settled, hheld, Option.some_inj] at hsettled
  rw [hsettled] at hperm
  exact absurd hperm.symm.eq_nil (List.cons_ne_nil _ _)

/-- The first failure decides. -/
theorem FirstFailure.mishap_iff {queue : Nat → QueueAnswers} {n i : Nat}
    (h : FirstFailure start queue n i) :
    (∀ k < n, (∀ j < k, start.Ready j (queue j)) → ¬(queue k).Mishap k) ↔ ¬(queue i).Mishap i := by
  constructor
  · intro hall
    exact hall i h.lt h.before
  · intro hnot k hk hbefore
    rcases Nat.lt_trichotomy k i with hlt | rfl | hgt
    · exact (h.before k hlt).not_mishap
    · exact hnot
    · exact absurd (hbefore i hgt) h.notReady

/-- The way out of a failure deletes the queues and leaves what nothing refers to. -/
theorem Idle.errorFind (h : start.Idle) {left : List QueueBlock} (howes : start.Owes vdev left)
    (status : QueueStatus) :
    ∃ vdev', vdev.errorFind status = some (.error status, vdev') ∧ start.Owes vdev' left ∧
      ∀ i < vdev'.maxQueues, (vdev'.info i).vq = none := by
  have hroom : vdev.maxQueues ≤ vdev.infoSize := by
    rw [howes.maxQueues, howes.infoSize]
    exact h.room
  obtain ⟨vdev', hdelete, howes', hcleared⟩ := howes.delete hroom
  refine ⟨vdev', ?_, howes', hcleared⟩
  rw [VirtIODevice.errorFind, hdelete]
  rfl

/-- **After the table is reserved.** -/
theorem Idle.afterReserve_iff {nvqs : Nat} {a : FindAnswers} (h : start.Idle)
    (hn : nvqs ≤ start.maxQueues) (hcall : vdev.virtioFindQueues nvqs a = start.afterReserve nvqs a)
    (hledger : start.ledger = vdev.ledger) :
    vdev.FoundOrUndone nvqs a ↔ (a.Configured →
      ∀ i < nvqs, (∀ j < i, start.Ready j (a.queue j)) → ¬(a.queue i).Mishap i) := by
  have hundone : ∀ vdev', start.Undone vdev' → vdev.Undone vdev' := by
    rintro vdev' ⟨hcleared, hfreed⟩
    rw [hledger] at hfreed
    exact ⟨hcleared, hfreed⟩
  unfold FoundOrUndone
  rw [hcall]
  unfold afterReserve
  by_cases hconfigured : a.Configured
  swap
  · rw [if_pos (not_not.mp hconfigured)]
    obtain ⟨vdev', hresult, howes, hcleared⟩ := h.errorFind (owes_start h.free) .deviceBusy
    refine iff_of_true (.inr ⟨_, vdev', hresult, hundone _ (howes.undone hcleared)⟩) ?_
    exact fun hyes => absurd hyes hconfigured
  rw [if_neg hconfigured, imp_iff_right hconfigured]
  cases h.setupQueues a.queue hn with
  | finished vqs vdev' hready hresult howes hrecorded hrest =>
    refine iff_of_true (.inl ⟨vqs, vdev', ?_, hrecorded, ?_⟩) fun i hi _ => (hready i hi).not_mishap
    · rw [hresult]
      rfl
    · obtain ⟨l, hs, hledger', hheld, hperm⟩ := howes.ledger
      exact ⟨l, hs, hledger ▸ hledger', hheld, hperm⟩
  | undone status vdev' i hfirst hnoMishap hresult howes =>
    obtain ⟨vdev'', hdelete, howes', hcleared⟩ := h.errorFind howes status
    refine iff_of_true (.inr ⟨status, vdev'', ?_, hundone _ (howes'.undone hcleared)⟩)
      (hfirst.mishap_iff.mpr hnoMishap)
    rw [hresult]
    exact hdelete
  | leak status vdev' i ring hfirst hmishap hresult howes =>
    obtain ⟨vdev'', hdelete, howes', hcleared⟩ := h.errorFind howes status
    refine iff_of_false ?_ fun hall => hfirst.mishap_iff.mp hall hmishap
    have hall : (start.setupQueues a.queue nvqs >>= fun r => match r.1 with
        | .error status => r.2.errorFind status
        | .ok vqs => some (.ok vqs, r.2)) = some (.error status, vdev'') := by
      rw [hresult]
      exact hdelete
    rintro (⟨vqs, vdev₁, hfound, -⟩ | ⟨status₁, vdev₁, hfailed, hun⟩)
    · cases hall.symm.trans hfound
    · cases hall.symm.trans hfailed
      refine howes'.not_undone ⟨hun.cleared, ?_⟩
      rw [hledger]
      exact hun.freed
  | lost i hfirst hmishap hresult =>
    refine iff_of_false ?_ fun hall => hfirst.mishap_iff.mp hall hmishap
    rw [hresult]
    rintro (⟨vqs, vdev₁, hfound, -⟩ | ⟨status₁, vdev₁, hfailed, -⟩)
    · cases hfound
    · cases hfailed

/-- In a table without room for its queues the call leaves the table. -/
theorem afterReserve_none {nvqs : Nat} (hmax : start.maxQueues = nvqs)
    (hroom : start.infoSize < nvqs) (a : FindAnswers) : start.afterReserve nvqs a = none := by
  have hexit : ∀ (vdev : VirtIODevice) status, vdev.maxQueues = start.maxQueues →
      vdev.infoSize = start.infoSize → vdev.errorFind status = none := by
    intro vdev status hmax' hsize'
    unfold errorFind
    cases hdelete : vdev.virtioDeleteQueues with
    | none => rfl
    | some vdev' =>
      have hle := virtioDeleteQueues_room hdelete
      omega
  unfold afterReserve
  split_ifs
  · exact hexit start _ rfl rfl
  · cases hturns : start.setupQueues a.queue nvqs with
    | none => rfl
    | some r =>
      obtain ⟨made, vdev⟩ := r
      obtain ⟨⟨hmax', hsize'⟩, hok⟩ := setupQueues_sizes hturns
      cases made with
      | error status => exact hexit vdev status hmax' hsize'
      | ok vqs =>
        have hle := hok vqs rfl
        omega

/-- A new table has room for its queues, and no queue that the call comes to has a mishap. -/
structure EndsWell (vdev : VirtIODevice) (nvqs : Nat) (a : FindAnswers) : Prop where
  table : vdev.maxQueues < nvqs → a.table = true →
    nvqs * virtioGetQueueDescriptorSize < 4294967296
  queues : (vdev.maxQueues < nvqs → a.table = true) → a.Configured →
    ∀ i < nvqs, (∀ j < i, vdev.Ready j (a.queue j)) → ¬(a.queue i).Mishap i

/-- The device with a new table. -/
def withTable (vdev : VirtIODevice) (nvqs : Nat) : VirtIODevice :=
  { vdev with
    table := some (vdev.table.elim 0 (· + 1))
    infoSize := u32 (nvqs * virtioGetQueueDescriptorSize) / virtioGetQueueDescriptorSize
    info := fun _ => ⟨none, 0, none⟩
    maxQueues := nvqs }

theorem virtioReserveQueueMemory_withTable {nvqs : Nat} (hmax : vdev.maxQueues < nvqs) :
    vdev.virtioReserveQueueMemory nvqs true = (true, vdev.withTable nvqs) := by
  rw [virtioReserveQueueMemory, if_pos hmax]
  rfl

theorem withTable_idle (vdev : VirtIODevice) {nvqs : Nat}
    (hfits : nvqs * virtioGetQueueDescriptorSize < 4294967296) : (vdev.withTable nvqs).Idle := by
  constructor
  · show nvqs ≤ u32 (nvqs * virtioGetQueueDescriptorSize) / virtioGetQueueDescriptorSize
    rw [u32, Nat.mod_eq_of_lt hfits,
      Nat.mul_div_cancel _ (by decide : 0 < virtioGetQueueDescriptorSize)]
  · intro i _
    rfl

theorem withTable_ready (vdev : VirtIODevice) (nvqs j : Nat) (b : QueueAnswers) :
    (vdev.withTable nvqs).Ready j b ↔ vdev.Ready j b := by
  constructor
  · rintro ⟨hring, hcontrol, hnotify, hvector⟩
    exact ⟨hring, hcontrol, hnotify, hvector⟩
  · rintro ⟨hring, hcontrol, hnotify, hvector⟩
    exact ⟨hring, hcontrol, hnotify, hvector⟩

/-- A table whose size wraps has no room for the queues. -/
theorem withTable_room (vdev : VirtIODevice) {nvqs : Nat}
    (hfits : ¬nvqs * virtioGetQueueDescriptorSize < 4294967296) :
    (vdev.withTable nvqs).infoSize < nvqs := by
  show u32 (nvqs * virtioGetQueueDescriptorSize) / virtioGetQueueDescriptorSize < nvqs
  rw [Nat.div_lt_iff_lt_mul (by decide : 0 < virtioGetQueueDescriptorSize)]
  have hlt : u32 (nvqs * virtioGetQueueDescriptorSize) < 4294967296 := Nat.mod_lt _ (by decide)
  omega

/-- **When `virtio_find_queues` finds all queues or undoes the call.** It does just when each queue
up to the first that is not set up gets its control block once it has its ring, and the ring
has entries; and the size of a new table does not wrap. -/
theorem virtioFindQueues_iff (h : vdev.Idle) (nvqs : Nat) (a : FindAnswers) :
    vdev.FoundOrUndone nvqs a ↔ vdev.EndsWell nvqs a := by
  by_cases hmax : vdev.maxQueues < nvqs
  swap
  · have hreserve : vdev.virtioReserveQueueMemory nvqs a.table = (true, vdev) := if_neg hmax
    have hcall : vdev.virtioFindQueues nvqs a = vdev.afterReserve nvqs a := by
      rw [virtioFindQueues_eq, hreserve]
      rfl
    rw [h.afterReserve_iff (Nat.not_lt.mp hmax) hcall rfl]
    constructor
    · exact fun hqueues => ⟨fun hlt => absurd hlt hmax, fun _ => hqueues⟩
    · exact fun hwell => hwell.queues fun hlt => absurd hlt hmax
  cases htable : a.table with
  | false =>
    have hreserve : vdev.virtioReserveQueueMemory nvqs a.table = (false, vdev) := by
      rw [virtioReserveQueueMemory, if_pos hmax, htable]
      rfl
    refine iff_of_true (.inr ⟨.insufficientResources, vdev, ?_, (owes_start h.free).undone h.free⟩)
      ⟨fun _ hyes => ?_, fun hyes => ?_⟩
    · rw [virtioFindQueues_eq, hreserve]
      rfl
    · rw [htable] at hyes
      cases hyes
    · rw [htable] at hyes
      cases hyes hmax
  | true =>
    have hcall : vdev.virtioFindQueues nvqs a = (vdev.withTable nvqs).afterReserve nvqs a := by
      rw [virtioFindQueues_eq, htable, virtioReserveQueueMemory_withTable hmax]
      rfl
    by_cases hfits : nvqs * virtioGetQueueDescriptorSize < 4294967296
    · rw [(vdev.withTable_idle hfits).afterReserve_iff (Nat.le_refl nvqs) hcall rfl]
      simp only [withTable_ready]
      constructor
      · exact fun hqueues => ⟨fun _ _ => hfits, fun _ => hqueues⟩
      · exact fun hwell => hwell.queues fun _ => htable
    · have hnone := hcall.trans (afterReserve_none rfl (vdev.withTable_room hfits) a)
      refine iff_of_false ?_ fun hwell => hfits (hwell.table hmax htable)
      rintro (⟨vqs, vdev', hfound, -⟩ | ⟨status, vdev', hfailed, -⟩)
      · rw [hnone] at hfound
        cases hfound
      · rw [hnone] at hfailed
        cases hfailed

/-- The answers for a queue of 64 entries, whose control block is allocated or not. -/
def queue64 (control : Bool) : QueueAnswers where
  numQueues := 2
  queueSize := 64
  queueNotifyOff := 0
  rings := fun _ => true
  control := control
  notifyMapped := some 4096
  msixVector := virtioMsiNoVector
  queueVector := virtioMsiNoVector

theorem queue64_entries (control : Bool) {index : Nat} (h : index < 2) :
    (queue64 control).entries index = some 64 := by
  have hquery : vioModernQueryVqAlloc index (queue64 control) = .ok 64 := by
    have hindex : ¬index ≥ (queue64 control).numQueues.toNat := Nat.not_le.mpr h
    have hsize : (queue64 control).queueSize.toNat = 64 := rfl
    unfold vioModernQueryVqAlloc
    rw [if_neg hindex, hsize]
    rfl
  unfold QueueAnswers.entries
  rw [hquery]
  simp [allocRing, queue64]

/-- The control and the cursor queue, while there are no vectors. -/
def twoQueues (control : Bool) : FindAnswers :=
  ⟨true, virtioMsiNoVector, virtioMsiNoVector, fun _ => queue64 control⟩

theorem virtioFindQueues_iff_twoQueues :
    (initialized none 4 0).FoundOrUndone 2 (twoQueues true) := by
  refine (virtioFindQueues_iff (initialized_idle none 4 0) 2 (twoQueues true)).mpr ⟨?_, ?_⟩
  · exact fun hlt => absurd hlt (by decide)
  · rintro - - i hi - ⟨num, hentries, hmishap⟩
    rw [show (twoQueues true).queue i = queue64 true from rfl, queue64_entries true hi] at hentries
    obtain rfl := Option.some_inj.mp hentries
    rcases hmishap with hcontrol | hzero
    · cases hcontrol
    · cases hzero

/-- There is no memory for the control block of the first queue. -/
theorem not_always_foundOrUndone : ¬∀ vdev : VirtIODevice, vdev.Idle →
    ∀ nvqs a, vdev.FoundOrUndone nvqs a := by
  intro hall
  have hfound := hall _ (initialized_idle none 4 0) 2 (twoQueues false)
  rw [(initialized_idle none 4 0).afterReserve_iff (by decide) rfl rfl] at hfound
  refine hfound (fun hvector => hvector.1 rfl) 0 (by decide) (fun j hj => ?_)
    ⟨64, queue64_entries false (by decide), .inl rfl⟩
  exact absurd hj (Nat.not_lt_zero j)

end VirtIODevice

end VioGpu.VirtIO
