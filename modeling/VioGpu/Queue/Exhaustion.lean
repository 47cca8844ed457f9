import VioGpu.Queue.OwnershipRuns

/-!
# When the pool runs out

`HWInit` makes as many vbuffers as the two rings have entries together. A command takes one
vbuffer and, on the control ring, at least two descriptors, on the cursor ring at least one. So
however far the host lags, half as many vbuffers as the control ring has entries are not queued,
and `GetBuf` finds one of them unless they are in the hands of functions or lost: a failed add
loses a vbuffer, and a power cycle loses all that are queued on the rings it frees, besides setting
up rings whose sizes the pool does not know (`handed_iff`).
-/

namespace VioGpu.VirtIO.Channel

variable {τ : Type}

/-- The number of entries of the ring. -/
def size (ch : Channel τ) : Nat := ch.numFree + ch.inUse

/-- Each outstanding chain has at least `least` descriptors. -/
def AtLeast (least : Nat) (ch : Channel τ) : Prop := ∀ e ∈ ch.pending ++ ch.used, least ≤ e.2

theorem AtLeast.new (least num : Nat) : (Channel.new num : Channel τ).AtLeast least :=
  fun _ he => absurd he List.not_mem_nil

theorem AtLeast.addBuf {least n : Nat} {ch ch' : Channel τ} {t : τ} (h : ch.AtLeast least)
    (hn : least ≤ n) (hadd : ch.addBuf t n = some ch') : ch'.AtLeast least := by
  obtain ⟨-, rfl⟩ := addBuf_eq_some hadd
  intro e he
  have hcases : e ∈ ch.pending ++ ch.used ∨ e = (t, n) := by
    simp only [List.mem_append, List.mem_singleton] at he ⊢
    tauto
  rcases hcases with hold | rfl
  · exact h e hold
  · exact hn

theorem AtLeast.complete {least i : Nat} {ch ch' : Channel τ} (h : ch.AtLeast least)
    (hcomplete : ch.complete i = some ch') : ch'.AtLeast least := by
  obtain ⟨d, l, m, hpending, rfl⟩ := complete_eq_some hcomplete
  intro e he
  apply h e
  rw [hpending]
  simp only [List.mem_append, List.mem_cons] at he ⊢
  tauto

theorem AtLeast.getBuf {least : Nat} {ch ch' : Channel τ} {t : τ} (h : ch.AtLeast least)
    (hget : ch.getBuf = some (t, ch')) : ch'.AtLeast least := by
  obtain ⟨n, used, hused, rfl⟩ := getBuf_eq_some hget
  intro e he
  apply h e
  rw [hused]
  simp only [List.mem_append, List.mem_cons] at he ⊢
  tauto

/-- So many tokens take so many descriptors. -/
theorem AtLeast.length_le {least : Nat} {ch : Channel τ} (h : ch.AtLeast least) :
    least * ch.tokens.length ≤ ch.size := by
  have hsum : ∀ chains : List (τ × Nat), (∀ e ∈ chains, least ≤ e.2) →
      least * chains.length ≤ (chains.map Prod.snd).sum := by
    intro chains hleast
    induction chains with
    | nil => exact Nat.le_refl 0
    | cons e chains ih =>
      have hhead := hleast e List.mem_cons_self
      have htail := ih fun d hd => hleast d (List.mem_cons_of_mem e hd)
      rw [List.length_cons, List.map_cons, List.sum_cons, Nat.mul_succ]
      omega
  have hinUse : least * (ch.pending ++ ch.used).length ≤ ch.inUse := hsum _ h
  rw [tokens, List.length_map, size]
  omega

end VioGpu.VirtIO.Channel

namespace VioGpu.Queue

open Lib VirtIO

/-- The least number of descriptors of a command on the queue. -/
def QueueName.least : QueueName → Nat
  | .ctrl => 2
  | .cursor => 1

/-- The sizes of the vbuffer are those of a command for the queue. -/
def VBuffer.Sized (q : QueueName) (v : VBuffer) : Prop :=
  v.size ≠ 0 ∧ (q = .ctrl → v.respSize ≠ 0)

theorem VBuffer.Sized.least_le {q : QueueName} {v : VBuffer} (h : v.Sized q) :
    q.least ≤ v.sgCount := by
  unfold sgCount
  rw [if_pos h.1]
  generalize (v.dataSize + pageSize - 1) / pageSize = pages
  cases q with
  | ctrl =>
    rw [if_pos (h.2 rfl)]
    simp only [QueueName.least]
    omega
  | cursor =>
    simp only [QueueName.least]
    omega

namespace Pool

theorem freeBuf_sized {p : Pool} {b i : Nat} {q : QueueName} (h : (p.bufs i).Sized q) :
    ((p.freeBuf b).bufs i).Sized q := by
  by_cases hi : i = b
  · subst hi
    simpa [freeBuf, setBuf, VBuffer.Sized] using h
  · rw [freeBuf_bufs hi]
    exact h

theorem fill_sized {p p' : Pool} {c : Command} {size respSize b : Nat} {respBuf : Option Nat}
    {fields : VBuffer → VBuffer} (h : p.fill c size respSize respBuf fields = some (b, p'))
    (hfields : ∀ v, (fields v).size = v.size ∧ (fields v).respSize = v.respSize)
    {q : QueueName} (hsize : size ≠ 0) (hresp : q = .ctrl → respSize ≠ 0) :
    (p'.bufs b).Sized q := by
  unfold fill getBuf at h
  split at h
  · cases h
  · next hget =>
    split at hget <;> cases hget
    cases h
    simp only [setBuf, if_true, VBuffer.Sized, hfields]
    exact ⟨hsize, hresp⟩

theorem build_sized {p p' : Pool} {c : Command} {b : Nat} (h : p.build c = some (b, p')) :
    (p'.bufs b).Sized c.queue := by
  unfold build at h
  split at h
  · exact fill_sized h (fun v => ⟨rfl, rfl⟩) (by decide) (fun _ => by decide)
  · exact fill_sized h (fun v => ⟨rfl, rfl⟩) (by simp [CtrlCommand.size]) (fun _ => by decide)
  · next cmd _ _ =>
    refine fill_sized h (fun v => ⟨rfl, rfl⟩) ?_ (fun _ => by decide)
    cases cmd <;> simp [CtrlCommand.size, ctrlHdrSize]
  · exact fill_sized h (fun v => ⟨rfl, rfl⟩) (by decide) (fun hq => by cases hq)

theorem fill_isSome_iff {p : Pool} {c : Command} {size respSize : Nat} {respBuf : Option Nat}
    {fields : VBuffer → VBuffer} :
    (p.fill c size respSize respBuf fields).isSome ↔ p.free ≠ [] := by
  unfold fill getBuf
  cases p.free <;> simp

/-- A command is handed a vbuffer exactly if one is free. -/
theorem build_isSome_iff (p : Pool) (c : Command) : (p.build c).isSome ↔ p.free ≠ [] := by
  unfold build
  split <;> exact fill_isSome_iff

end Pool

/-! ## Power cycles -/

/-- A step of the driver or of the device, or a power cycle. -/
inductive CycleEvent
  | owner (e : OwnerEvent)
  | powerCycle (ctrlNum cursorNum : Nat)

namespace Owners

/-- `GpuDeviceClose` and `GpuDeviceInit`. The rings are freed with what is queued on them, which
nobody returns to the pool. The sizes of the new rings are read from the device and halved while
there is no memory for a ring. -/
def powerCycle (s : Owners) (ctrlNum cursorNum : Nat) : Owners :=
  { s with
    ctrl := .new ctrlNum
    cursor := .new cursorNum
    unreturned := s.unreturned ++ s.ctrl.tokens ++ s.cursor.tokens }

/-- The vbuffers with power cycles; `call` is no step when the command is handed `NULL`. -/
def cyclingSystem (allocations : List Bool) (ctrlNum cursorNum : Nat) :
    System Owners CycleEvent where
  init := start allocations ctrlNum cursorNum
  step s
    | .owner e => s.step e
    | .powerCycle ctrlNum cursorNum => some (s.powerCycle ctrlNum cursorNum)

/-- The vbuffers that are queued on a ring. -/
def queued (s : Owners) : Nat := s.ctrl.tokens.length + s.cursor.tokens.length

/-- The vbuffers in the hands of functions, and those that are lost. -/
def away (s : Owners) : Nat := (s.threads.flatMap Thread.holds).length + s.unreturned.length

/-! ## Where the vbuffers are -/

theorem Inv.powerCycle {n : Nat} {s : Owners} (hI : Inv n s) (ctrlNum cursorNum : Nat) :
    Inv n (s.powerCycle ctrlNum cursorNum) := by
  refine ⟨fun b => ?_, hI.building, fun b hb => ?_, hI.freedOnce⟩
  · rw [← hI.tally b]
    simp only [Owners.tally, Owners.powerCycle, Channel.new_tokens, List.count_append,
      List.count_nil]
    omega
  · rcases hb with hb | hb
    · exact absurd hb List.not_mem_nil
    · exact hI.waits b (.inr hb)

variable {allocations : List Bool} {ctrlNum cursorNum : Nat}

theorem inv_of_cycling {s : Owners}
    (hs : (cyclingSystem allocations ctrlNum cursorNum).Reachable s) :
    Inv (allocations.count true) s := by
  refine hs.induct (Inv _) (Inv.start _ _ _) fun s e s' hI _ hstep => ?_
  cases e with
  | owner e => exact hI.step hstep
  | powerCycle ctrlNum cursorNum =>
    cases hstep
    exact hI.powerCycle ctrlNum cursorNum

/-- Every vbuffer is free, queued, in the hands of a function or lost. -/
theorem Inv.length_eq {n : Nat} {s : Owners} (hI : Inv n s) :
    s.pool.free.length + s.queued + s.away = n := by
  have hperm : (s.pool.free ++ s.threads.flatMap Thread.holds ++ s.ctrl.tokens ++
      s.cursor.tokens ++ s.unreturned).Perm (List.range n) := by
    refine List.perm_iff_count.mpr fun b => ?_
    have htally := hI.tally b
    simp only [Owners.tally, held] at htally
    simp only [List.count_append, List.count_flatMap, List.nodup_range.count, List.mem_range]
    exact htally
  have hlength := hperm.length_eq
  simp only [List.length_append, List.length_range] at hlength
  unfold queued away
  omega

/-! ## How many are queued -/

/-- Each ring holds commands for it, and what is being built is a command for the ring it will be
queued on. -/
structure Sized (s : Owners) : Prop where
  building : ∀ q b, .building q b ∈ s.threads → (s.pool.bufs b).Sized q
  rings : ∀ q, (s.ring q).AtLeast q.least

variable {s s' : Owners}

theorem Sized.start (allocations : List Bool) (ctrlNum cursorNum : Nat) :
    Sized (start allocations ctrlNum cursorNum) := by
  refine ⟨fun q b hb => absurd hb List.not_mem_nil, fun q => ?_⟩
  cases q with
  | ctrl => exact .new 2 ctrlNum
  | cursor => exact .new 1 cursorNum

theorem Sized.powerCycle (h : Sized s) (ctrlNum cursorNum : Nat) :
    Sized (s.powerCycle ctrlNum cursorNum) :=
  ⟨h.building, (Sized.start [] ctrlNum cursorNum).rings⟩

/-- A step that builds nothing new and clears no vbuffer matters through the rings only. -/
theorem Sized.advance (h : Sized s)
    (hthreads : ∀ q b, .building q b ∈ s'.threads → .building q b ∈ s.threads)
    (hbufs : ∀ b q, (s.pool.bufs b).Sized q → (s'.pool.bufs b).Sized q)
    (hrings : ∀ q, (s'.ring q).AtLeast q.least) : Sized s' :=
  ⟨fun q b hb => hbufs b q (h.building q b (hthreads q b hb)), hrings⟩

theorem Sized.setRing (h : Sized s) {q : QueueName} {ch : Channel Nat}
    (hch : ch.AtLeast q.least) (r : QueueName) :
    ((s.setRing q ch).ring r).AtLeast r.least := by
  cases q <;> cases r <;> first | exact hch | exact h.rings _

theorem Sized.call {n : Nat} (h : Sized s) (hI : Inv n s) {c : Command} {b : Nat} {pool : Pool}
    (hbuild : s.pool.build c = some (b, pool)) :
    Sized { s with pool := pool, threads := s.threads ++ [.building c.queue b] } := by
  obtain ⟨hfree, -, -, hbufs⟩ := Pool.build_spec hbuild
  have hmem : b ∈ s.pool.free := by
    rw [hfree]
    exact List.mem_cons_self
  refine ⟨fun q a ha => ?_, h.rings⟩
  rcases List.mem_append.mp ha with hold | hnew
  · obtain ⟨i, hi⟩ := List.mem_iff_getElem?.mp hold
    have hne : a ≠ b := by
      rintro rfl
      exact (hI.unique hi rfl).1 hmem
    simp only [hbufs a hne]
    exact h.building q a hold
  · simp only [List.mem_singleton, Thread.building.injEq] at hnew
    obtain ⟨rfl, rfl⟩ := hnew
    exact Pool.build_sized hbuild

theorem Sized.queueBuffer (h : Sized s) {i : Nat} {q : QueueName} {b : Nat}
    (hi : s.threads[i]? = some (.building q b)) : Sized (s.queueBuffer i q b) := by
  have hleast : q.least ≤ (s.pool.bufs b).sgCount :=
    (h.building q b (List.mem_of_getElem? hi)).least_le
  have hsplice : ∀ new : List Thread, (∀ r a, .building r a ∉ new) → ∀ r a,
      .building r a ∈ splice s.threads i new → .building r a ∈ s.threads :=
    fun new hnew r a ha => (mem_of_mem_splice ha).resolve_right (hnew r a)
  unfold Owners.queueBuffer
  dsimp only
  cases hadd : (s.ring q).addBuf b (s.pool.bufs b).sgCount with
  | some ch =>
    have hring := h.setRing ((h.rings q).addBuf hleast hadd)
    dsimp only
    split_ifs
    · refine h.advance (hsplice _ (by simp)) ?_ hring
      cases q <;> exact fun _ _ hb => hb
    · refine h.advance (hsplice _ (by simp)) ?_ hring
      cases q <;> exact fun _ _ hb => hb
  | none =>
    dsimp only
    split_ifs
    all_goals exact h.advance (hsplice _ (by simp)) (fun _ _ hb => hb) h.rings

theorem Sized.releaseBuffer (h : Sized s) (b : Nat) : Sized (s.releaseBuffer b) :=
  h.advance (fun _ _ hb => hb) (fun _ _ hb => Pool.freeBuf_sized hb) h.rings

theorem building_setEvent {threads : List Thread} {b a : Nat} {q : QueueName}
    (h : .building q a ∈ setEvent threads b) : .building q a ∈ threads := by
  unfold setEvent at h
  split at h
  · exact (mem_of_mem_splice h).resolve_right (by simp)
  · exact h

theorem Sized.dpcStep (h : Sized s) (i : Nat) (d : Dpc) : Sized (s.dpcStep i d) := by
  have hsplice : ∀ new : List Thread, (∀ r a, .building r a ∉ new) →
      Sized { s with threads := splice s.threads i new } := fun new hnew =>
    h.advance (fun r a ha => (mem_of_mem_splice ha).resolve_right (hnew r a)) (fun _ _ hb => hb)
      h.rings
  cases d with
  | ctrlLoop cursor =>
    simp only [Owners.dpcStep]
    cases hget : s.ctrl.getBuf with
    | none => exact hsplice _ (by split_ifs <;> simp)
    | some r =>
      have hring := (hsplice [.dpc (.ctrlHolds r.1 cursor)] (by simp)).setRing (q := .ctrl)
        ((h.rings .ctrl).getBuf hget)
      exact ⟨(hsplice [.dpc (.ctrlHolds r.1 cursor)] (by simp)).building, hring⟩
  | ctrlHolds b cursor =>
    have hloop := hsplice [.dpc (.ctrlLoop cursor)] (by simp)
    simp only [Owners.dpcStep]
    split_ifs
    · exact hloop.releaseBuffer b
    · exact hloop.advance (fun _ _ ha => building_setEvent ha) (fun _ _ hb => hb) hloop.rings
    · exact hloop
  | cursorLoop =>
    simp only [Owners.dpcStep]
    cases hget : s.cursor.getBuf with
    | none => exact hsplice [] (by simp)
    | some r =>
      have hring := (hsplice [.dpc (.cursorHolds r.1)] (by simp)).setRing (q := .cursor)
        ((h.rings .cursor).getBuf hget)
      exact ⟨(hsplice [.dpc (.cursorHolds r.1)] (by simp)).building, hring⟩
  | cursorHolds b => exact (hsplice [.dpc .cursorLoop] (by simp)).releaseBuffer b

theorem Sized.step {n : Nat} {e : OwnerEvent} (h : Sized s) (hI : Inv n s)
    (hstep : s.step e = some s') : Sized s' := by
  cases e with
  | call c =>
    simp only [Owners.step] at hstep
    cases hbuild : s.pool.build c with
    | none => simp [hbuild] at hstep
    | some r =>
      rw [hbuild] at hstep
      cases hstep
      exact h.call hI hbuild
  | queue i =>
    simp only [Owners.step] at hstep
    split at hstep
    · next q b hi =>
      cases hstep
      exact h.queueBuffer hi
    · cases hstep
  | release i =>
    simp only [Owners.step] at hstep
    split at hstep
    · next b hi =>
      cases hstep
      have hdone : Sized { s with threads := splice s.threads i [] } :=
        h.advance (fun r a ha => (mem_of_mem_splice ha).resolve_right List.not_mem_nil)
          (fun _ _ hb => hb) h.rings
      exact hdone.releaseBuffer b
    · cases hstep
  | complete q j =>
    simp only [Owners.step] at hstep
    obtain ⟨ch, hcomplete, rfl⟩ := Option.map_eq_some_iff.mp hstep
    refine h.advance ?_ ?_ (h.setRing ((h.rings q).complete hcomplete))
    · cases q <;> exact fun _ _ hb => hb
    · cases q <;> exact fun _ _ hb => hb
  | dpcStart display cursor =>
    simp only [Owners.step] at hstep
    cases hstep
    refine h.advance (fun r a ha => (List.mem_append.mp ha).resolve_right ?_) (fun _ _ hb => hb)
      h.rings
    split_ifs <;> simp
  | dpcStep i =>
    simp only [Owners.step] at hstep
    split at hstep
    · next d hi =>
      cases hstep
      exact h.dpcStep i d
    · cases hstep

theorem sized_of_cycling {s : Owners}
    (hs : (cyclingSystem allocations ctrlNum cursorNum).Reachable s) : Sized s := by
  have hboth : Inv (allocations.count true) s ∧ Sized s := by
    refine hs.induct (fun s => Inv _ s ∧ Sized s) ⟨Inv.start _ _ _, Sized.start _ _ _⟩ ?_
    intro s e s' ⟨hI, h⟩ _ hstep
    cases e with
    | owner e => exact ⟨hI.step hstep, h.step hI hstep⟩
    | powerCycle ctrlNum cursorNum =>
      cases hstep
      exact ⟨hI.powerCycle ctrlNum cursorNum, h.powerCycle ctrlNum cursorNum⟩
  exact hboth.2

/-- However far the host lags, a control ring holds half as many vbuffers as it has entries. -/
theorem Sized.queued_le (h : Sized s) : 2 * s.queued ≤ s.ctrl.size + 2 * s.cursor.size := by
  have hctrl : 2 * s.ctrl.tokens.length ≤ s.ctrl.size := (h.rings .ctrl).length_le
  have hcursor : 1 * s.cursor.tokens.length ≤ s.cursor.size := (h.rings .cursor).length_le
  unfold queued
  omega

/-! ## Runs -/

/-- **When a command is handed a vbuffer.** In every state of every run, exactly if the vbuffers
that are queued, in the hands of functions or lost are not all. With the rings for which the pool
was made it is enough that those in hands or lost are less than half the entries of the control
ring. -/
theorem handed_iff {s : Owners}
    (hs : (cyclingSystem allocations ctrlNum cursorNum).Reachable s) (c : Command) :
    ((s.pool.build c).isSome ↔ s.queued + s.away < allocations.count true) ∧
      (s.ctrl.size + 2 * s.cursor.size + 2 * s.away < 2 * allocations.count true →
        (s.pool.build c).isSome) := by
  have hlength := (inv_of_cycling hs).length_eq
  have hqueued := (sized_of_cycling hs).queued_le
  have hiff : (s.pool.build c).isSome ↔ s.queued + s.away < allocations.count true := by
    rw [Pool.build_isSome_iff, ← List.length_pos_iff]
    omega
  refine ⟨hiff, fun haway => hiff.mpr ?_⟩
  omega

/-- A command is queued and a power cycle loses it, four times. -/
def fourCycles : List CycleEvent :=
  (List.replicate 4
    [.owner (.call (.ctrl (.resourceUnref 1))), .owner (.queue 0), .powerCycle 2 2]).flatten

/-- Four vbuffers for two rings of two entries. -/
abbrev smallSystem : System Owners CycleEvent := cyclingSystem (List.replicate 4 true) 2 2

/-- After one cycle one vbuffer is lost, and the next command is handed one. -/
theorem handed_iff_oneCycle : ∃ s, smallSystem.run (fourCycles.take 3) = some s ∧ s.away = 1 ∧
    (s.pool.build (.ctrl (.resourceUnref 1))).isSome := by
  have hhanded : ∀ s, smallSystem.run (fourCycles.take 3) = some s →
      s.queued + s.away < 4 → (s.pool.build (.ctrl (.resourceUnref 1))).isSome := fun s hs =>
    (handed_iff (System.reachable_of_run hs) _).1.mpr
  exact ⟨_, rfl, rfl, hhanded _ rfl (by decide)⟩

/-- After four cycles the next command is handed `NULL`. -/
theorem not_always_handed :
    ¬∀ s, smallSystem.Reachable s → ∀ c, (s.pool.build c).isSome := by
  have hrun : ∃ s, smallSystem.run fourCycles = some s ∧
      (s.pool.build (.ctrl (.resourceUnref 1))).isSome = false := ⟨_, rfl, rfl⟩
  intro hall
  obtain ⟨s, hs, hnone⟩ := hrun
  have hsome := hall s (System.reachable_of_run hs) (.ctrl (.resourceUnref 1))
  rw [hnone] at hsome
  cases hsome

end Owners

end VioGpu.Queue
