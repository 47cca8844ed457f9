import VioGpu.Queue.Ownership

/-!
# Every vbuffer is accounted for

The number of places a vbuffer is in (`tally`) is one in every state, counting the vbuffers
that failed adds have lost. A run in which every add finds room loses none (`accounted`); a
vbuffer that is lost stays lost (`lost_forever`).
-/

namespace VioGpu.Queue

open Lib VirtIO

namespace Owners

/-- The vbuffers in the hands of threads, counted. -/
def held (threads : List Thread) (b : Nat) : Nat := (threads.map fun t => t.holds.count b).sum

/-- The number of places in which the vbuffer is. -/
def tally (s : Owners) (b : Nat) : Nat :=
  s.pool.free.count b + held s.threads b + s.ctrl.tokens.count b + s.cursor.tokens.count b +
    s.unreturned.count b

/-- A vbuffer on its way through the control ring, up to the DPC that has taken it off. -/
def InCtrl (s : Owners) (b : Nat) : Prop :=
  b ∈ s.ctrl.tokens ∨ ∃ c, .dpc (.ctrlHolds b c) ∈ s.threads

/-- Every vbuffer is in one place, and whoever waits for an event is there when it is set. -/
structure Inv (n : Nat) (s : Owners) : Prop where
  tally : ∀ b, s.tally b = if b < n then 1 else 0
  building : ∀ b, .building .ctrl b ∈ s.threads → (s.pool.bufs b).event = true →
    (s.pool.bufs b).cmd = some (.ctrl .getDisplayInfo)
  waits : ∀ b, s.InCtrl b → (s.pool.bufs b).event = true →
    (s.pool.bufs b).cmd = some (.ctrl .getDisplayInfo) ∧ .waiting b ∈ s.threads
  freedOnce : s.freedTwice = false

theorem Inv.tally_le {n : Nat} {s : Owners} (hI : Inv n s) (b : Nat) : s.tally b ≤ 1 := by
  rw [hI.tally b]
  split <;> omega

theorem held_append (l m : List Thread) (b : Nat) : held (l ++ m) b = held l b + held m b := by
  simp [held]

/-- A thread that goes on as `new` hands over the difference. -/
theorem held_splice {threads : List Thread} {i : Nat} {t : Thread}
    (h : threads[i]? = some t) (new : List Thread) (b : Nat) :
    held (splice threads i new) b + t.holds.count b = held threads b + held new b :=
  sum_map_splice h new fun t => t.holds.count b

theorem held_setEvent (threads : List Thread) (a b : Nat) :
    held (setEvent threads a) b =
      held threads b + if .waiting a ∈ threads then [a].count b else 0 := by
  unfold setEvent
  split
  · next hmem =>
    have hidx : threads[threads.idxOf (Thread.waiting a)]? = some (.waiting a) := by
      rw [List.getElem?_eq_getElem (List.idxOf_lt_length_of_mem hmem), List.getElem_idxOf]
    have hsum := held_splice hidx [.reading a] b
    simp only [Thread.holds, List.count_nil, Nat.add_zero] at hsum
    rw [hsum]
    simp [held, Thread.holds]
  · rfl

/-! ## Steps -/

theorem Inv.start (allocations : List Bool) (ctrlNum cursorNum : Nat) :
    Inv (allocations.count true) (start allocations ctrlNum cursorNum) := by
  refine ⟨fun b => ?_, fun b hb => by simp [Owners.start] at hb, fun b hb => ?_, rfl⟩
  · simp only [Owners.tally, Owners.start, Pool.init, held, Channel.new_tokens, List.map_nil,
      List.sum_nil, List.count_nil, Nat.add_zero]
    rw [List.nodup_range.count]
    simp only [List.mem_range]
  · simp [InCtrl, Owners.start] at hb

theorem count_of_perm_cons {l l' : List Nat} {b : Nat} (h : l.Perm (b :: l')) (a : Nat) :
    l.count a = [b].count a + l'.count a := by
  rw [h.count_eq, ← List.count_append]
  rfl

/-- A vbuffer in the hands of the DPC, if the threads that come new do not hold it. -/
theorem inCtrl_of_mem_splice {s : Owners} {i : Nat} {new : List Thread} {a : Nat} {c : Bool}
    (hnew : ∀ c, .dpc (.ctrlHolds a c) ∉ new)
    (h : .dpc (.ctrlHolds a c) ∈ splice s.threads i new) : s.InCtrl a :=
  Or.inr ⟨c, (mem_of_mem_splice h).resolve_right (hnew c)⟩

/-- A vbuffer in the hands of a thread is nowhere else. -/
theorem Inv.unique {n : Nat} {s : Owners} (hI : Inv n s) {i : Nat} {t : Thread} {b : Nat}
    (hi : s.threads[i]? = some t) (hb : t.holds = [b]) :
    b ∉ s.pool.free ∧ b ∉ s.ctrl.tokens ∧ ∀ u ∈ s.threads, u ≠ t → u.holds ≠ [b] := by
  have hle := hI.tally_le b
  have hheld := held_splice hi [] b
  simp only [hb, List.count_singleton_self, held, List.map_nil, List.sum_nil] at hheld
  simp only [Owners.tally, held] at hle
  refine ⟨fun h => ?_, fun h => ?_, fun u hu hne hub => ?_⟩
  · have := List.count_pos_iff.mpr h
    omega
  · have := List.count_pos_iff.mpr h
    omega
  · have hmem : u ∈ splice s.threads i [] := mem_splice_of_ne hi hu hne
    have hone := le_sum_map hmem fun t => t.holds.count b
    rw [hub, List.count_singleton_self] at hone
    omega

/-- A vbuffer on its way through the control ring is not free. -/
theorem Inv.not_free_of_inCtrl {n : Nat} {s : Owners} (hI : Inv n s) {b : Nat}
    (hb : s.InCtrl b) : b ∉ s.pool.free := by
  obtain hb | ⟨c, hb⟩ := hb
  · intro hfree
    have hle := hI.tally_le b
    have := List.count_pos_iff.mpr hb
    have := List.count_pos_iff.mpr hfree
    simp only [Owners.tally] at hle
    omega
  · obtain ⟨i, hi⟩ := List.mem_iff_getElem?.mp hb
    exact (hI.unique hi rfl).1

/-- Once a thread has let go of a vbuffer, no thread holds it. -/
theorem Inv.letGo {n : Nat} {s : Owners} (hI : Inv n s) {i : Nat} {t : Thread} {b : Nat}
    (hi : s.threads[i]? = some t) (hb : t.holds = [b]) {new : List Thread}
    (hnew : ∀ u ∈ new, u.holds = []) {u : Thread} {a : Nat} (hu : u ∈ splice s.threads i new)
    (hua : u.holds = [a]) : u ∈ s.threads ∧ a ≠ b := by
  refine ⟨(mem_of_mem_splice hu).resolve_right fun h => by simp [hnew u h] at hua, ?_⟩
  rintro rfl
  have hle := hI.tally_le a
  have hsum := held_splice hi new a
  have hone : u.holds.count a ≤ held (splice s.threads i new) a :=
    le_sum_map hu fun t => t.holds.count a
  have hzero : held new a = 0 := List.sum_eq_zero fun k hk => by
    obtain ⟨v, hv, rfl⟩ := List.mem_map.mp hk
    simp [hnew v hv]
  simp only [Owners.tally] at hle
  rw [hb, hzero] at hsum
  rw [hua] at hone
  rw [List.count_singleton_self] at hone hsum
  omega

/-- Releasing the vbuffer a thread holds: it becomes free, and the thread goes on as `new`. -/
theorem Inv.releaseBuffer {n : Nat} {s : Owners} (hI : Inv n s) {i : Nat} {t : Thread} {b : Nat}
    (hi : s.threads[i]? = some t) (hb : t.holds = [b]) (htb : t ≠ .building .ctrl b)
    (htw : ∀ a, t ≠ .waiting a) {new : List Thread} (hnew : ∀ u ∈ new, u.holds = [])
    (hbuild : ∀ a, .building .ctrl a ∉ new) :
    Inv n ({ s with threads := splice s.threads i new }.releaseBuffer b) := by
  obtain ⟨hfree, htok, hother⟩ := hI.unique hi hb
  have hheldNew : ∀ a, held new a = 0 := fun a =>
    List.sum_eq_zero fun k hk => by
      obtain ⟨u, hu, rfl⟩ := List.mem_map.mp hk
      simp [hnew u hu]
  have hctrl : ∀ a, ({ s with threads := splice s.threads i new } : Owners).InCtrl a →
      s.InCtrl a ∧ a ≠ b := by
    rintro a (ha | ⟨c, ha⟩)
    · exact ⟨Or.inl ha, fun h => htok (h ▸ ha)⟩
    · obtain ⟨hmem, hne⟩ := hI.letGo hi hb hnew ha rfl
      exact ⟨Or.inr ⟨c, hmem⟩, hne⟩
  refine ⟨fun a => ?_, fun a ha => ?_, fun a ha => ?_, ?_⟩
  · have hsum := held_splice hi new a
    have htally := hI.tally a
    rw [hb, hheldNew] at hsum
    simp only [Owners.tally, Owners.releaseBuffer, Pool.freeBuf_free, List.count_append] at htally ⊢
    omega
  · have hold : Thread.building .ctrl a ∈ s.threads :=
      (mem_of_mem_splice ha).resolve_right (hbuild a)
    have hne : a ≠ b := by
      rintro rfl
      exact hother _ hold (Ne.symm htb) rfl
    simp only [Owners.releaseBuffer, Pool.freeBuf_bufs hne]
    exact hI.building a hold
  · obtain ⟨hin, hne⟩ := hctrl a ha
    simp only [Owners.releaseBuffer, Pool.freeBuf_bufs hne]
    intro hev
    obtain ⟨hcmd, hwait⟩ := hI.waits a hin hev
    exact ⟨hcmd, mem_splice_of_ne hi hwait (Ne.symm (htw a))⟩
  · simp [Owners.releaseBuffer, hI.freedOnce, hfree]

theorem Inv.call {n : Nat} {s : Owners} (hI : Inv n s) {c : Command} {b : Nat} {pool : Pool}
    (hbuild : s.pool.build c = some (b, pool)) :
    Inv n { s with pool := pool, threads := s.threads ++ [.building c.queue b] } := by
  obtain ⟨hfree, hcmd, hevent, hbufs⟩ := Pool.build_spec hbuild
  have hmem : b ∈ s.pool.free := by rw [hfree]; exact List.mem_cons_self
  refine ⟨fun a => ?_, fun a ha => ?_, fun a ha => ?_, hI.freedOnce⟩
  · have htally := hI.tally a
    have hcount := count_of_perm_cons (List.Perm.of_eq hfree) a
    simp only [Owners.tally, held_append] at htally ⊢
    rw [show held [Thread.building c.queue b] a = [b].count a by simp [held, Thread.holds]]
    omega
  · obtain ha | ha := List.mem_append.mp ha
    · obtain ⟨j, hj⟩ := List.mem_iff_getElem?.mp ha
      have hne : a ≠ b := fun h => (hI.unique hj rfl).1 (h ▸ hmem)
      simp only [hbufs a hne]
      exact hI.building a ha
    · simp only [List.mem_singleton, Thread.building.injEq] at ha
      obtain ⟨-, rfl⟩ := ha
      intro hev
      rw [hcmd, hevent.mp hev]
  · have hold : s.InCtrl a := by
      obtain ha | ⟨d, ha⟩ := ha
      · exact Or.inl ha
      · simp only [List.mem_append, List.mem_singleton, reduceCtorEq, or_false] at ha
        exact Or.inr ⟨d, ha⟩
    have hne : a ≠ b := fun h => hI.not_free_of_inCtrl hold (h ▸ hmem)
    simp only [hbufs a hne]
    intro hev
    obtain ⟨hc, hw⟩ := hI.waits a hold hev
    exact ⟨hc, List.mem_append_left _ hw⟩

/-- Threads other than those of the control path come and go freely, as long as the counts
agree. -/
theorem Inv.advance {n : Nat} {s s' : Owners} (hI : Inv n s) {i : Nat} {t : Thread}
    {new : List Thread} (hi : s.threads[i]? = some t)
    (hthreads : s'.threads = splice s.threads i new)
    (hpool : s'.pool = s.pool) (hfreed : s'.freedTwice = s.freedTwice)
    (hcount : ∀ a, s'.tally a = s.tally a) (hbuild : ∀ a, .building .ctrl a ∉ new)
    (hctrl : ∀ a, s'.InCtrl a → s.InCtrl a ∨ (.building .ctrl a = t ∧
      ((s.pool.bufs a).event = true → .waiting a ∈ new)))
    (htw : ∀ a, t ≠ .waiting a) : Inv n s' := by
  refine ⟨fun a => (hcount a).trans (hI.tally a), fun a ha => ?_, fun a ha hev => ?_,
    hfreed.trans hI.freedOnce⟩
  · rw [hthreads] at ha
    rw [hpool]
    exact hI.building a ((mem_of_mem_splice ha).resolve_right (hbuild a))
  · rw [hpool] at hev ⊢
    rw [hthreads]
    obtain hold | ⟨ht, hnew⟩ := hctrl a ha
    · obtain ⟨hc, hw⟩ := hI.waits a hold hev
      exact ⟨hc, mem_splice_of_ne hi hw (Ne.symm (htw a))⟩
    · exact ⟨hI.building a (ht ▸ List.mem_of_getElem? hi) hev, mem_splice_new (hnew hev)⟩

theorem Inv.queueBuffer {n : Nat} {s : Owners} (hI : Inv n s) {i : Nat} {q : QueueName} {b : Nat}
    (hi : s.threads[i]? = some (.building q b)) : Inv n (s.queueBuffer i q b) := by
  obtain ⟨hfree, -, -⟩ := hI.unique hi rfl
  have hheld : ∀ new a, held (splice s.threads i new) a + [b].count a =
      held s.threads a + held new a := fun new a => held_splice hi new a
  have hone : ∀ t : Thread, t.holds = [b] → ∀ a, held [t] a = [b].count a := fun t ht a => by
    simp [held, ht]
  unfold Owners.queueBuffer
  dsimp only
  cases hadd : (s.ring q).addBuf b (s.pool.bufs b).sgCount with
  | some ch =>
    have htok := Channel.tokens_addBuf hadd
    dsimp only
    split_ifs with hwait
    · obtain ⟨rfl, hev⟩ := hwait
      refine hI.advance hi rfl rfl rfl (fun a => ?_) (by simp) ?_ (by simp)
      · have h₁ := hheld [.waiting b] a
        have h₂ := count_of_perm_cons htok a
        rw [show held [Thread.waiting b] a = 0 by simp [held, Thread.holds]] at h₁
        simp only [Owners.tally, setRing, ring] at h₂ ⊢
        omega
      · rintro a (ha | ⟨c, ha⟩)
        · rw [show (Owners.setRing s .ctrl ch).ctrl = ch from rfl, htok.mem_iff,
            List.mem_cons] at ha
          obtain rfl | ha := ha
          · exact Or.inr ⟨rfl, fun _ => List.mem_cons_self⟩
          · exact Or.inl (Or.inl ha)
        · exact Or.inl (inCtrl_of_mem_splice (by simp) ha)
    · refine hI.advance hi rfl (by cases q <;> rfl) (by cases q <;> rfl) (fun a => ?_) (by simp) ?_
        (by simp)
      · have h₁ := hheld [] a
        have h₂ := count_of_perm_cons htok a
        rw [show held [] a = 0 from rfl] at h₁
        cases q <;> simp only [Owners.tally, setRing, ring] at h₂ ⊢ <;> omega
      · rintro a (ha | ⟨c, ha⟩)
        · cases q with
          | ctrl =>
            rw [show (Owners.setRing s .ctrl ch).ctrl = ch from rfl, htok.mem_iff,
              List.mem_cons] at ha
            obtain rfl | ha := ha
            · exact Or.inr ⟨rfl, fun hev => absurd ⟨rfl, hev⟩ hwait⟩
            · exact Or.inl (Or.inl ha)
          | cursor => exact Or.inl (Or.inl ha)
        · exact Or.inl (inCtrl_of_mem_splice (by simp) ha)
  | none =>
    dsimp only
    split_ifs with hwait hback
    · refine hI.advance hi rfl rfl rfl (fun a => ?_) (by simp) ?_ (by simp)
      · have h₁ := hheld [.stuck b] a
        rw [hone _ rfl] at h₁
        simp only [Owners.tally]
        omega
      · rintro a (ha | ⟨c, ha⟩)
        · exact Or.inl (Or.inl ha)
        · exact Or.inl (inCtrl_of_mem_splice (by simp) ha)
    · exact absurd hback.1 hfree
    · refine hI.advance hi rfl rfl rfl (fun a => ?_) (by simp) ?_ (by simp)
      · have h₁ := hheld [] a
        rw [show held [] a = 0 from rfl] at h₁
        simp only [Owners.tally, List.count_append]
        omega
      · rintro a (ha | ⟨c, ha⟩)
        · exact Or.inl (Or.inl ha)
        · exact Or.inl (inCtrl_of_mem_splice (by simp) ha)

/-- Setting the event of the vbuffer the DPC holds: it goes to the thread that waits for it. -/
theorem Inv.setEvent {n : Nat} {s : Owners} (hI : Inv n s) {i : Nat} {b : Nat} {cursor : Bool}
    (hi : s.threads[i]? = some (.dpc (.ctrlHolds b cursor)))
    (hev : (s.pool.bufs b).event = true) :
    Inv n { s with
      threads := Owners.setEvent (splice s.threads i [.dpc (.ctrlLoop cursor)]) b } := by
  let threads := splice s.threads i [.dpc (.ctrlLoop cursor)]
  obtain ⟨hfree, htok, hother⟩ := hI.unique hi rfl
  obtain ⟨hcmd, hwait⟩ := hI.waits b (Or.inr ⟨cursor, List.mem_of_getElem? hi⟩) hev
  have hwait' : .waiting b ∈ threads := mem_splice_of_ne hi hwait (by simp)
  have hidx : threads[threads.idxOf (Thread.waiting b)]? = some (.waiting b) := by
    rw [List.getElem?_eq_getElem (List.idxOf_lt_length_of_mem hwait'), List.getElem_idxOf]
  have hset : Owners.setEvent threads b =
      splice threads (threads.idxOf (.waiting b)) [.reading b] := if_pos hwait'
  have hheld : ∀ a, held threads a + [b].count a = held s.threads a := fun a => by
    have := held_splice hi [.dpc (.ctrlLoop cursor)] a
    simpa [held, Thread.holds] using this
  refine ⟨fun a => ?_, fun a ha => ?_, fun a ha hev' => ?_, hI.freedOnce⟩
  · rw [← hI.tally a]
    have h₁ := hheld a
    have h₂ := held_setEvent threads b a
    rw [if_pos hwait'] at h₂
    change s.pool.free.count a + held (Owners.setEvent threads b) a + _ + _ + _ = _
    simp only [Owners.tally]
    omega
  · change _ ∈ Owners.setEvent threads b at ha
    rw [hset] at ha
    have ha' : .building .ctrl a ∈ threads := (mem_of_mem_splice ha).resolve_right (by simp)
    exact hI.building a ((mem_of_mem_splice ha').resolve_right (by simp))
  · have hin : s.InCtrl a ∧ a ≠ b := by
      obtain h | ⟨c, h⟩ := ha
      · exact ⟨Or.inl h, fun hab => htok (hab ▸ h)⟩
      · have h' : .dpc (.ctrlHolds a c) ∈ threads := by
          change _ ∈ Owners.setEvent threads b at h
          rw [hset] at h
          exact (mem_of_mem_splice h).resolve_right (by simp)
        obtain ⟨hmem', hne⟩ := hI.letGo hi rfl (by simp [Thread.holds]) h' rfl
        exact ⟨Or.inr ⟨c, hmem'⟩, hne⟩
    obtain ⟨hc, hw⟩ := hI.waits a hin.1 hev'
    refine ⟨hc, ?_⟩
    change _ ∈ Owners.setEvent threads b
    rw [hset]
    exact mem_splice_of_ne hidx (mem_splice_of_ne hi hw (by simp)) (by simpa using hin.2)

theorem Inv.dpcStep {n : Nat} {s : Owners} (hI : Inv n s) {i : Nat} {d : Dpc}
    (hi : s.threads[i]? = some (.dpc d)) : Inv n (s.dpcStep i d) := by
  have hheld : ∀ new a, held (splice s.threads i new) a + (Thread.dpc d).holds.count a =
      held s.threads a + held new a := fun new a => held_splice hi new a
  have hnone : ∀ new, (∀ u ∈ new, u = Thread.dpc .cursorLoop) → (Thread.dpc d).holds = [] →
      Inv n { s with threads := splice s.threads i new } := by
    intro new hnew hd
    have hzero : ∀ a, held new a = 0 := fun a => List.sum_eq_zero fun k hk => by
      obtain ⟨u, hu, rfl⟩ := List.mem_map.mp hk
      simp [hnew u hu, Thread.holds]
    refine hI.advance hi rfl rfl rfl (fun a => ?_) (fun a ha => by cases hnew _ ha) ?_ (by simp)
    · have h₁ := hheld new a
      rw [hd, hzero] at h₁
      simp only [List.count_nil, Nat.add_zero] at h₁
      simp only [Owners.tally, h₁]
    · rintro a (ha | ⟨c, ha⟩)
      · exact Or.inl (Or.inl ha)
      · exact Or.inl (inCtrl_of_mem_splice (fun c hc => by cases hnew _ hc) ha)
  cases d with
  | ctrlLoop cursor =>
    simp only [Owners.dpcStep]
    cases hget : s.ctrl.getBuf with
    | none => exact hnone _ (by split_ifs <;> simp) rfl
    | some r =>
      obtain ⟨b, ch⟩ := r
      have htok := Channel.tokens_getBuf hget
      refine hI.advance hi rfl rfl rfl (fun a => ?_) (by simp) ?_ (by simp)
      · have h₁ := hheld [.dpc (.ctrlHolds b cursor)] a
        have h₂ := count_of_perm_cons htok a
        rw [show held [Thread.dpc (.ctrlHolds b cursor)] a = [b].count a by
          simp [held, Thread.holds]] at h₁
        simp only [Thread.holds, List.count_nil] at h₁
        simp only [Owners.tally]
        omega
      · rintro a (ha | ⟨c, ha⟩)
        · exact Or.inl (Or.inl (htok.mem_iff.mpr (List.mem_cons_of_mem _ ha)))
        · obtain ha | ha := mem_of_mem_splice ha
          · exact Or.inl (Or.inr ⟨c, ha⟩)
          · simp only [List.mem_singleton, Thread.dpc.injEq, Dpc.ctrlHolds.injEq] at ha
            obtain ⟨rfl, -⟩ := ha
            exact Or.inl (Or.inl (htok.mem_iff.mpr List.mem_cons_self))
  | ctrlHolds b cursor =>
    have hin : s.InCtrl b := Or.inr ⟨cursor, List.mem_of_getElem? hi⟩
    simp only [Owners.dpcStep]
    split_ifs with hev hcmd
    · exact hI.releaseBuffer hi rfl (by simp) (by simp) (by simp [Thread.holds]) (by simp)
    · exact hI.setEvent hi (by simpa using hev)
    · exact absurd (hI.waits b hin (by simpa using hev)).1 hcmd
  | cursorLoop =>
    simp only [Owners.dpcStep]
    cases hget : s.cursor.getBuf with
    | none => exact hnone [] (by simp) rfl
    | some r =>
      obtain ⟨b, ch⟩ := r
      have htok := Channel.tokens_getBuf hget
      refine hI.advance hi rfl rfl rfl (fun a => ?_) (by simp) ?_ (by simp)
      · have h₁ := hheld [.dpc (.cursorHolds b)] a
        have h₂ := count_of_perm_cons htok a
        rw [show held [Thread.dpc (.cursorHolds b)] a = [b].count a by
          simp [held, Thread.holds]] at h₁
        simp only [Thread.holds, List.count_nil] at h₁
        simp only [Owners.tally]
        omega
      · rintro a (ha | ⟨c, ha⟩)
        · exact Or.inl (Or.inl ha)
        · exact Or.inl (inCtrl_of_mem_splice (by simp) ha)
  | cursorHolds b =>
    exact hI.releaseBuffer hi rfl (by simp) (by simp) (by simp [Thread.holds]) (by simp)

/-- **One step** keeps every vbuffer accounted for. -/
theorem Inv.step {n : Nat} {s s' : Owners} {e : OwnerEvent} (hI : Inv n s)
    (hstep : s.step e = some s') : Inv n s' := by
  cases e with
  | call c =>
    simp only [Owners.step] at hstep
    cases hbuild : s.pool.build c with
    | none => simp [hbuild] at hstep
    | some r =>
      rw [hbuild] at hstep
      cases hstep
      exact hI.call hbuild
  | queue i =>
    simp only [Owners.step] at hstep
    split at hstep
    · next q b hi =>
      cases hstep
      exact hI.queueBuffer hi
    · cases hstep
  | release i =>
    simp only [Owners.step] at hstep
    split at hstep
    · next b hi =>
      cases hstep
      exact hI.releaseBuffer hi rfl (by simp) (by simp) (by simp) (by simp)
    · cases hstep
  | complete q j =>
    simp only [Owners.step] at hstep
    cases hcomp : (s.ring q).complete j with
    | none => simp [hcomp] at hstep
    | some ch =>
      rw [hcomp] at hstep
      cases hstep
      have htok := Channel.tokens_complete hcomp
      refine ⟨fun a => ?_, ?_, ?_, ?_⟩
      · rw [← hI.tally a]
        have hcount := htok.count_eq a
        cases q <;> simp only [Owners.tally, setRing, ring] at hcount ⊢ <;> rw [hcount]
      · cases q <;> exact hI.building
      · intro a ha
        have hin : s.InCtrl a := by
          cases q with
          | ctrl => exact ha.imp_left htok.mem_iff.mp
          | cursor => exact ha
        cases q <;> exact hI.waits a hin
      · cases q <;> exact hI.freedOnce
  | dpcStart display cursor =>
    simp only [Owners.step] at hstep
    cases hstep
    refine ⟨fun a => ?_, fun a ha => ?_, fun a ha hev => ?_, hI.freedOnce⟩
    · rw [← hI.tally a]
      simp only [Owners.tally, held_append]
      cases display <;> cases cursor <;> simp [held, Thread.holds]
    · cases display <;> cases cursor <;> simp at ha <;> exact hI.building a ha
    · have hin : s.InCtrl a := by
        obtain ha | ⟨c, ha⟩ := ha
        · exact Or.inl ha
        · cases display <;> cases cursor <;> simp at ha <;> exact Or.inr ⟨c, ha⟩
      obtain ⟨hc, hw⟩ := hI.waits a hin hev
      exact ⟨hc, List.mem_append_left _ hw⟩
  | dpcStep i =>
    simp only [Owners.step] at hstep
    split at hstep
    · next d hi =>
      cases hstep
      exact hI.dpcStep hi
    · cases hstep

/-! ## Runs -/

/-- Every vbuffer that is queued finds room in its ring. A condition on the state before the
step. -/
def RoomForAdd (s : Owners) : OwnerEvent → Prop
  | .queue i =>
    match s.threads[i]? with
    | some (.building q b) => (s.ring q).HasRoom (s.pool.bufs b).sgCount
    | _ => True
  | _ => True

instance (s : Owners) (e : OwnerEvent) : Decidable (RoomForAdd s e) := by
  unfold RoomForAdd
  split
  · split <;> infer_instance
  · infer_instance

theorem dpcStep_unreturned (s : Owners) (i : Nat) (d : Dpc) :
    (s.dpcStep i d).unreturned = s.unreturned := by
  cases d with
  | ctrlLoop cursor =>
    simp only [Owners.dpcStep]
    split <;> rfl
  | ctrlHolds b cursor =>
    simp only [Owners.dpcStep]
    split_ifs <;> rfl
  | cursorLoop =>
    simp only [Owners.dpcStep]
    split <;> rfl
  | cursorHolds b => rfl

/-- Only an add that finds no room loses a vbuffer. -/
theorem step_unreturned {s s' : Owners} {e : OwnerEvent} (hstep : s.step e = some s') :
    s'.unreturned = s.unreturned ∨ ∃ i q b, e = .queue i ∧
      s.threads[i]? = some (.building q b) ∧ ¬ (s.ring q).HasRoom (s.pool.bufs b).sgCount ∧
      s'.unreturned = s.unreturned ++ [b] := by
  cases e with
  | call c =>
    simp only [Owners.step] at hstep
    split at hstep <;> cases hstep
    exact Or.inl rfl
  | queue i =>
    simp only [Owners.step] at hstep
    split at hstep
    · next q b hi =>
      cases hstep
      simp only [Owners.queueBuffer]
      cases hadd : (s.ring q).addBuf b (s.pool.bufs b).sgCount with
      | some ch =>
        dsimp only
        split_ifs <;> cases q <;> exact Or.inl rfl
      | none =>
        have hroom : ¬ (s.ring q).HasRoom (s.pool.bufs b).sgCount := by
          rw [← Channel.addBuf_isSome_iff (t := b), hadd]
          simp
        dsimp only
        split_ifs
        · exact Or.inl rfl
        · exact Or.inl rfl
        · exact Or.inr ⟨i, q, b, rfl, hi, hroom, rfl⟩
    · cases hstep
  | release i =>
    simp only [Owners.step] at hstep
    split at hstep <;> cases hstep
    exact Or.inl rfl
  | complete q j =>
    simp only [Owners.step] at hstep
    cases hcomp : (s.ring q).complete j with
    | none => simp [hcomp] at hstep
    | some ch =>
      rw [hcomp] at hstep
      cases hstep
      cases q <;> exact Or.inl rfl
  | dpcStart display cursor =>
    simp only [Owners.step] at hstep
    cases hstep
    exact Or.inl rfl
  | dpcStep i =>
    simp only [Owners.step] at hstep
    split at hstep <;> cases hstep
    exact Or.inl (dpcStep_unreturned s i _)

variable {allocations : List Bool} {ctrlNum cursorNum : Nat}

theorem inv_of_reachable {s : Owners}
    (hs : (system allocations ctrlNum cursorNum).Reachable s) :
    Inv (allocations.count true) s :=
  hs.induct (Inv _) (Inv.start _ _ _) fun _ _ _ hI _ hstep => hI.step hstep

/-- **Accounting for the vbuffers.** In every run in which each add finds room for its
buffer, in every state: when no function is at work each vbuffer is once in the free list or
the token of one outstanding chain, every command has given up its vbuffer, and no free
vbuffer was ever freed. -/
theorem accounted {s : Owners}
    (hs : (system allocations ctrlNum cursorNum).ReachableUnder RoomForAdd s) :
    Accounted (allocations.count true) s := by
  have hI := inv_of_reachable hs.reachable
  have hnone : s.unreturned = [] := by
    refine hs.induct (fun s => s.unreturned = []) rfl fun s e s' h hroom hstep => ?_
    obtain heq | ⟨i, q, b, he, hi, hfull, -⟩ := step_unreturned hstep
    · rw [heq, h]
    · subst he
      simp only [RoomForAdd, hi] at hroom
      exact absurd hroom hfull
  refine ⟨fun hidle b => ?_, hnone, hI.freedOnce⟩
  rw [← hI.tally b, Owners.tally, hidle, hnone, List.count_append, List.count_append,
    List.count_nil]
  rfl

/-- A command that is queued, completed and released. -/
def oneCommand : List OwnerEvent :=
  [.call (.ctrl (.resourceUnref 1)), .queue 0, .complete .ctrl 0, .dpcStart true false,
    .dpcStep 0, .dpcStep 0, .dpcStep 0]

theorem accounted_one : ∃ s, (system [true, true] 4 4).runUnder RoomForAdd oneCommand = some s ∧
    s.threads = [] ∧ s.pool.free = [1, 0] ∧ Accounted 2 s := by
  have haccounted : ∀ s, (system [true, true] 4 4).runUnder RoomForAdd oneCommand = some s →
      Accounted 2 s := fun s hs => accounted (System.reachable_of_run hs)
  exact ⟨_, rfl, rfl, rfl, haccounted _ rfl⟩

/-- A vbuffer lost in a failed add is never seen again. -/
theorem lost_forever {s t : Owners} (hs : (system allocations ctrlNum cursorNum).Reachable s)
    {b : Nat} (hb : b ∈ s.unreturned) (hst : (system allocations ctrlNum cursorNum).Steps s t) :
    b ∉ t.pool.free ∧ b ∉ t.ctrl.tokens ∧ b ∉ t.cursor.tokens := by
  have hlost : b ∈ t.unreturned := by
    refine System.Steps.stable (fun s => b ∈ s.unreturned) (fun s e s' _ h hstep => ?_) hs hb hst
    obtain heq | ⟨i, q, a, -, -, -, heq⟩ := step_unreturned hstep
    · rw [heq]
      exact h
    · rw [heq]
      exact List.mem_append_left _ h
  have hle := (inv_of_reachable (System.Reachable.steps hs hst)).tally_le b
  have hone := List.count_pos_iff.mpr hlost
  simp only [Owners.tally] at hle
  refine ⟨fun h => ?_, fun h => ?_, fun h => ?_⟩ <;>
    · have := List.count_pos_iff.mpr h
      omega

/-- Two vbuffers and a control ring of two: the second command is queued before the first one
is completed. -/
def fullRing : List OwnerEvent :=
  [.call (.ctrl (.transferToHost2d 1 0 1024 768 0 0)), .queue 0,
    .call (.ctrl (.resourceFlush 1 1024 768 0 0)), .queue 0, .complete .ctrl 0,
    .dpcStart true true, .dpcStep 0, .dpcStep 0, .dpcStep 0, .dpcStep 0]

/-- The property does not hold of every run: the vbuffer of the command that found the ring
full is in neither the pool nor a ring when no function is at work any more. -/
theorem not_always_accounted :
    ¬ ∀ s, (system [true, true] 2 2).Reachable s → Accounted 2 s := by
  intro h
  have hrun : ∃ s, (system [true, true] 2 2).run fullRing = some s ∧ s.threads = [] ∧
      (s.pool.free ++ s.ctrl.tokens ++ s.cursor.tokens).count 1 = 0 :=
    ⟨_, rfl, rfl, rfl⟩
  obtain ⟨s, hs, hidle, hcount⟩ := hrun
  have howned := (h s (System.reachable_of_run hs)).owned hidle 1
  rw [hcount] at howned
  simp at howned

end Owners

end VioGpu.Queue
