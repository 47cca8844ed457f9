import Mathlib.Data.Finset.Card
import Mathlib.Data.Finset.Range
import VioGpu.VirtIO.RingRuns
import VioGpu.VirtIO.Session

/-!
# Every session is correct

The invariant of a session has three parts. `Flight` ties the buffers that are added and not
yet returned to the descriptors: each has its own chain and its token. It bounds their
number by the size of the ring (`Flight.bound`). `Counters` says which histories the 16-bit
counters count. `Slots` says that the entries of both rings that the other side has not read
are in their slots; it is kept because, by the bound, a window is never longer than the
ring. `session_correct` draws the conclusion for every reachable state.
-/

namespace VioGpu.VirtIO

open Lib Virtqueue

variable {τ : Type}

/-! ## Buffers in flight -/

/-- The buffer's token is in place and its chain holds its elements. -/
def InFlight (vq : Virtqueue τ) (a : AddedBuf τ) : Prop :=
  vq.data a.head = some a.token ∧ ∃ c, IsChain vq.vring.desc a.head c ∧
    List.Forall₂ (fun x e => DescHolds (vq.vring.desc x) e) c (sgElems a.out a.inn)

theorem InFlight.congr {vq vq' : Virtqueue τ} {a : AddedBuf τ} (h : InFlight vq a)
    (hdata : vq'.data a.head = vq.data a.head)
    (hdesc : ∀ c, IsChain vq.vring.desc a.head c → ∀ x ∈ c, vq'.vring.desc x = vq.vring.desc x) :
    InFlight vq' a := by
  obtain ⟨htok, c, hc, hholds⟩ := h
  refine ⟨hdata.trans htok, c, hc.congr (hdesc c hc), ?_⟩
  refine ((List.forall₂_and_left c _).mpr ⟨fun x hx => hx, hholds⟩).imp fun x e hx => ?_
  rw [hdesc c hc x hx.1]
  exact hx.2

theorem InFlight.chain_mem {vq : Virtqueue τ} {a : AddedBuf τ} {free : List Nat}
    {chains : List (List Nat)} (h : InFlight vq a) (hP : Partition vq free chains) {c : List Nat}
    (hc : IsChain vq.vring.desc a.head c) : c ∈ chains := by
  obtain ⟨c', hc', hch⟩ := hP.token _ _ h.1
  rwa [hc.unique hch]

/-- Preparing another chain from the free list leaves a buffer in flight. -/
theorem InFlight.prepare {vq vq' : Virtqueue τ} {a : AddedBuf τ} {l rest : List Nat}
    {chains : List (List Nat)} {h : Nat} {t : τ} (ha : InFlight vq a)
    (hP : Partition vq (l ++ rest) chains) (hl : h ∈ l) (hE : Prepared vq vq' h l t) :
    a.head ≠ h ∧ InFlight vq' a := by
  have hoff : ∀ c, IsChain vq.vring.desc a.head c → ∀ x ∈ c, x ∉ l := fun c hc x hx hxl =>
    hP.not_mem_free (ha.chain_mem hP hc) (List.mem_append_left rest hxl) hx
  have hne : a.head ≠ h := by
    obtain ⟨-, c, hc, -⟩ := id ha
    rintro rfl
    exact hoff c hc _ hc.head_mem hl
  refine ⟨hne, ha.congr ?_ fun c hc x hx => hE.desc x (hoff c hc x hx)⟩
  rw [hE.data]
  exact if_neg hne

/-- Detaching the chain of another head leaves a buffer in flight. -/
theorem InFlight.detach {vq vq' : Virtqueue τ} {a : AddedBuf τ} {free : List Nat}
    {chains : List (List Nat)} {h : Nat} {c : List Nat} (ha : InFlight vq a)
    (hP : Partition vq free chains) (hc : c ∈ chains) (hch : IsChain vq.vring.desc h c)
    (hD : Detached vq vq' h c) (hne : a.head ≠ h) : InFlight vq' a := by
  refine ha.congr ?_ fun c' hc' x hx => hD.desc x fun hxc => hne ?_
  · rw [hD.data]
    exact if_neg hne
  · have hEq : c' = c := hP.chain_unique (ha.chain_mem hP hc') hc hx hxc
    subst hEq
    exact Option.some.inj (hc'.head?.symm.trans hch.head?)

namespace Session

/-- The buffers added, the one at its write barrier included. -/
def allAdded (s : Session τ) : List (AddedBuf τ) := s.added ++ s.adding.toList

/-- The completions, the one being written included. -/
def allCompleted (s : Session τ) : List Completion := s.completed ++ s.completing.toList

/-- The `j`-th buffer is added and its completion not yet returned. -/
def Outstanding (s : Session τ) (j : Nat) (a : AddedBuf τ) : Prop :=
  s.allAdded[j]? = some a ∧ j ∉ (s.completed.take s.returned.length).map Completion.index

/-- The outstanding buffers are in flight, with heads of their own. -/
structure Flight (s : Session τ) : Prop where
  part : ∃ free chains, Partition s.vq free chains
  inFlight : ∀ j a, s.Outstanding j a → InFlight s.vq a
  heads : ∀ i j a b, s.Outstanding i a → s.Outstanding j b → i ≠ j → a.head ≠ b.head

/-- No more buffers are outstanding than the ring has descriptors. -/
theorem Flight.bound {s : Session τ} (hF : s.Flight) :
    s.allAdded.length ≤ s.returned.length + s.vq.vring.num := by
  let back := ((s.completed.take s.returned.length).map Completion.index).toFinset
  let out := Finset.range s.allAdded.length \ back
  let head : Nat → Nat := fun j => (s.allAdded[j]?).elim 0 AddedBuf.head
  have hout : ∀ j ∈ out, ∃ a, s.Outstanding j a ∧ head j = a.head := by
    intro j hj
    rw [Finset.mem_sdiff, Finset.mem_range, List.mem_toFinset] at hj
    exact ⟨s.allAdded.get ⟨j, hj.1⟩, ⟨List.getElem?_eq_getElem hj.1, hj.2⟩,
      by simp [head, List.getElem?_eq_getElem hj.1]⟩
  have hmaps : ∀ j ∈ out, head j ∈ Finset.range s.vq.vring.num := by
    intro j hj
    obtain ⟨a, ha, heq⟩ := hout j hj
    obtain ⟨free, chains, hP⟩ := hF.part
    obtain ⟨c, hc, hch⟩ := hP.token _ _ (hF.inFlight j a ha).1
    rw [heq, Finset.mem_range]
    exact hP.lt_of_chain hc hch.head_mem
  have hinj : Set.InjOn head out := by
    intro i hi j hj heq
    obtain ⟨a, ha, hia⟩ := hout i hi
    obtain ⟨b, hb, hjb⟩ := hout j hj
    by_contra hne
    exact hF.heads i j a b ha hb hne (by rw [← hia, ← hjb, heq])
  have hcard : out.card ≤ s.vq.vring.num := by
    simpa using Finset.card_le_card_of_injOn head hmaps hinj
  have hback : back.card ≤ s.returned.length := by
    apply (List.toFinset_card_le _).trans
    rw [List.length_map, List.length_take]
    exact Nat.min_le_left _ _
  have hdiff : s.allAdded.length - back.card ≤ out.card := by
    simpa using Finset.le_card_sdiff back (Finset.range s.allAdded.length)
  omega

/-! ## The invariant -/

/-- The counters of the code count the history. -/
structure Counters (k : Nat) (s : Session τ) : Prop where
  num : s.vq.vring.num = 2 ^ k
  broken : s.vq.broken = false
  shadow : s.vq.availIdxShadow = u16 s.added.length
  idx : s.vq.vring.avail.idx = u16 s.added.length
  nextAvail : s.nextAvail = u16 s.taken.length
  usedIdx : s.vq.vring.used.idx = u16 s.completed.length
  lastUsed : s.vq.lastUsedIdx = u16 s.returned.length

/-- The entries the other side has not read are in their slots. -/
structure Slots (s : Session τ) : Prop where
  avail : Window s.vq.vring.avail.ring s.vq.vring.num s.taken.length
    (s.allAdded.map AddedBuf.head)
  used : Window s.vq.vring.used.ring s.vq.vring.num s.returned.length
    (s.allCompleted.map Completion.elem)

/-- The history is that of a correct run. -/
structure History (s : Session τ) : Prop where
  noFault : s.fault = none
  takenLe : s.taken.length ≤ s.added.length
  takenInOrder : s.taken = (s.added.take s.taken.length).map AddedBuf.head
  claimed : ∀ c ∈ s.allCompleted, s.taken[c.index]? = some c.elem.id
  distinct : (s.allCompleted.map Completion.index).Nodup
  returnedLe : s.returned.length ≤ s.completed.length
  returnedInOrder : s.returned = (s.completed.take s.returned.length).map s.resultOf
  getting : s.getting = true → s.returned.length < s.completed.length
  nulls : ∀ n ∈ s.waitingAtNull, n = 0

structure Inv (k : Nat) (s : Session τ) : Prop where
  flight : Flight s
  counters : Counters k s
  slots : Slots s
  history : History s

theorem Counters.slot {k : Nat} {s : Session τ} (hC : Counters k s) (hk : k ≤ 15) (n : Nat) :
    u16 n &&& (s.vq.vring.num - 1) = n % s.vq.vring.num := by
  rw [hC.num]
  exact mask_counter (w := 16) (by omega)

theorem Counters.num_le {k : Nat} {s : Session τ} (hC : Counters k s) (hk : k ≤ 15) :
    s.vq.vring.num ≤ 32768 := by
  rw [hC.num]
  exact Nat.pow_le_pow_right (n := 2) (by omega) hk

theorem u16_succ (n : Nat) : u16 (u16 n + 1) = u16 (n + 1) := Nat.mod_add_mod n 65536 1

/-- The head that was completed is the head of the buffer of the same number. -/
theorem History.claimed_head {s : Session τ} (hH : History s) {c : Completion}
    (hc : c ∈ s.allCompleted) : ∃ a, s.added[c.index]? = some a ∧ a.head = c.elem.id := by
  have htaken := hH.claimed c hc
  rw [hH.takenInOrder, List.getElem?_map, Option.map_eq_some_iff] at htaken
  obtain ⟨a, ha, hid⟩ := htaken
  rw [List.getElem?_take] at ha
  split at ha
  · exact ⟨a, ha, hid⟩
  · cases ha

/-- No more completions than heads taken. -/
theorem History.completed_le {s : Session τ} (hH : History s) :
    s.allCompleted.length ≤ s.taken.length := by
  have hsub : (s.allCompleted.map Completion.index).Subperm (List.range s.taken.length) := by
    refine List.subperm_of_subset hH.distinct fun i hi => ?_
    obtain ⟨c, hc, rfl⟩ := List.mem_map.mp hi
    exact List.mem_range.mpr (List.getElem?_eq_some_iff.mp (hH.claimed c hc)).1
  simpa using hsub.length_le

/-- The histories are nested, and the widest gap is at most the size of the ring. -/
theorem Inv.lengths {k : Nat} {s : Session τ} (hI : Inv k s) :
    s.returned.length ≤ s.completed.length ∧ s.completed.length ≤ s.allCompleted.length ∧
      s.allCompleted.length ≤ s.taken.length ∧ s.taken.length ≤ s.added.length ∧
      s.added.length ≤ s.allAdded.length ∧
      s.allAdded.length ≤ s.returned.length + s.vq.vring.num :=
  ⟨hI.history.returnedLe, by simp [allCompleted], hI.history.completed_le, hI.history.takenLe,
    by simp [allAdded], hI.flight.bound⟩

theorem Inv.moreUsed_iff {k : Nat} {s : Session τ} (hI : Inv k s) (hk : k ≤ 15) :
    moreUsed s.vq = true ↔ s.returned.length < s.completed.length := by
  have hlen := hI.lengths
  have hnum := hI.counters.num_le hk
  have hiff := counter_eq_iff (i := s.returned.length) (j := s.completed.length) (m := 65536)
    hlen.1 (by omega)
  unfold moreUsed
  rw [hI.counters.lastUsed, hI.counters.usedIdx, bne_iff_ne, Ne, u16, u16, hiff]
  omega

/-! ## Steps -/

theorem Flight.congr {s s' : Session τ} (hF : s.Flight) (hvq : SameDescs s.vq s'.vq)
    (hadd : s'.allAdded = s.allAdded) (hback : s'.completed.take s'.returned.length =
      s.completed.take s.returned.length) : s'.Flight := by
  have hout : ∀ j a, s'.Outstanding j a → s.Outstanding j a := by
    intro j a ha
    unfold Outstanding at ha ⊢
    rwa [hadd, hback] at ha
  obtain ⟨free, chains, hP⟩ := hF.part
  refine ⟨⟨free, chains, hP.congr hvq⟩, fun j a ha => ?_, fun i j a b ha hb =>
    hF.heads i j a b (hout i a ha) (hout j b hb)⟩
  exact (hF.inFlight j a (hout j a ha)).congr (by rw [hvq.data]) fun c _ x _ => by rw [hvq.desc]

theorem Inv.notify {k : Nat} {s : Session τ} (hI : Inv k s) (n : Nat) :
    Inv k { s with vq := { s.vq with notified := n } } := by
  refine ⟨hI.flight.congr ⟨rfl, rfl, rfl, rfl, rfl⟩ rfl rfl, ?_, ?_, ?_⟩
  · obtain ⟨h₁, h₂, h₃, h₄, h₅, h₆, h₇⟩ := hI.counters
    exact ⟨h₁, h₂, h₃, h₄, h₅, h₆, h₇⟩
  · exact ⟨hI.slots.avail, hI.slots.used⟩
  · obtain ⟨h₁, h₂, h₃, h₄, h₅, h₆, h₇, h₈, h₉⟩ := hI.history
    exact ⟨h₁, h₂, h₃, h₄, h₅, h₆, h₇, h₈, h₉⟩

/-- An add up to its write barrier: the new buffer is in flight beside the others, and its
head is in the next available slot, which no unread entry uses. -/
theorem Inv.prepare {k : Nat} {s : Session τ} (hI : Inv k s) (hk : k ≤ 15)
    (hidle : s.adding = none) {out inn : List Scatterlist} {t : τ}
    (hpos : 0 < out.length + inn.length) (hu : out.length + inn.length < 4294967296)
    (hroom : out.length + inn.length ≤ s.vq.numFree) :
    ∃ head vq, prepareDirect s.vq out inn t = .ok (head, vq) ∧
      Inv k { s with vq := vq, adding := some ⟨head, out, inn, t⟩ } := by
  obtain ⟨free, chains, hP⟩ := hI.flight.part
  obtain ⟨l, rest, vq, rfl, -, hrun, hE, hchain, hholds, hP'⟩ :=
    prepareDirect_spec hP hpos hu hroom t
  let a : AddedBuf τ := ⟨s.vq.freeHead, out, inn, t⟩
  let s' : Session τ := { s with vq := vq, adding := some a }
  have hadded : s.allAdded = s.added := by simp [allAdded, hidle]
  have hadded' : s'.allAdded = s.added ++ [a] := rfl
  have hhead : s.vq.freeHead ∈ l := hchain.head_mem
  have hnew : InFlight vq a := ⟨by rw [hE.data]; exact if_pos rfl, l, hchain, hholds⟩
  have hold : ∀ j b, s'.Outstanding j b → s.Outstanding j b ∨ j = s.added.length ∧ b = a := by
    rintro j b ⟨hj, hback⟩
    rw [hadded'] at hj
    rcases Nat.lt_or_ge j s.added.length with hlt | hge
    · rw [List.getElem?_append_left hlt] at hj
      exact Or.inl ⟨by rw [hadded]; exact hj, hback⟩
    · rw [List.getElem?_append_right hge, List.getElem?_singleton] at hj
      split at hj
      · exact Or.inr ⟨by omega, (Option.some.inj hj).symm⟩
      · cases hj
  have hflight : s'.Flight := by
    refine ⟨⟨rest, l :: chains, hP'⟩, fun j b hb => ?_, fun i j b c hb hc hne => ?_⟩
    · rcases hold j b hb with hb | ⟨-, rfl⟩
      · exact ((hI.flight.inFlight j b hb).prepare hP hhead hE).2
      · exact hnew
    · rcases hold i b hb with hb | ⟨hi, rfl⟩ <;> rcases hold j c hc with hc | ⟨hj, rfl⟩
      · exact hI.flight.heads i j b c hb hc hne
      · exact ((hI.flight.inFlight i b hb).prepare hP hhead hE).1
      · exact (((hI.flight.inFlight j c hc).prepare hP hhead hE).1).symm
      · omega
  have hlen := hI.lengths
  have hbound : s.added.length + 1 ≤ s.returned.length + s.vq.vring.num := by
    have := hflight.bound
    rw [hadded', List.length_append, show s'.vq.vring.num = _ from hE.num] at this
    exact this
  obtain ⟨h₁, h₂, h₃, h₄, h₅, h₆, h₇⟩ := hI.counters
  refine ⟨s.vq.freeHead, vq, hrun, hflight, ?_, ⟨?_, ?_⟩, ?_⟩
  · exact ⟨hE.num.trans h₁, hE.broken.trans h₂, hE.shadow.trans h₃, hE.idx.trans h₄, h₅,
      (by rw [← h₆]; exact congrArg VringUsed.idx hE.used), hE.lastUsed.trans h₇⟩
  · have hfree : u16 s.vq.freeHead = s.vq.freeHead :=
      Nat.mod_eq_of_lt (by have := hP.freeHead_lt; have := hI.counters.num_le hk; omega)
    have hwrite := (hadded ▸ hI.slots.avail).write (by rw [List.length_map]; omega) s.vq.freeHead
    have hring := hE.ring
    rw [h₃, hI.counters.slot hk, hfree] at hring
    rw [List.length_map] at hwrite
    change Window vq.vring.avail.ring vq.vring.num _ _
    rw [hring, hE.num, hadded', List.map_append]
    exact hwrite
  · change Window vq.vring.used.ring vq.vring.num _ _
    rw [hE.used, hE.num]
    exact hI.slots.used
  · obtain ⟨h₁, h₂, h₃, h₄, h₅, h₆, h₇, h₈, h₉⟩ := hI.history
    exact ⟨h₁, h₂, h₃, h₄, h₅, h₆, h₇, h₈, h₉⟩

theorem Inv.expose {k : Nat} {s : Session τ} (hI : Inv k s) {a : AddedBuf τ}
    (hadding : s.adding = some a) :
    Inv k { s with vq := publishHead s.vq, adding := none, added := s.added ++ [a] } := by
  have hlen := hI.lengths
  obtain ⟨numAdded, notified, heq⟩ := publishHead_fields s.vq
  have hadd : (s.added ++ [a]) ++ [] = s.allAdded := by simp [allAdded, hadding]
  obtain ⟨h₁, h₂, h₃, h₄, h₅, h₆, h₇⟩ := hI.counters
  rw [heq]
  refine ⟨hI.flight.congr ⟨rfl, rfl, rfl, rfl, rfl⟩ hadd rfl, ⟨h₁, h₂, ?_, ?_, h₅, h₆, h₇⟩,
    ⟨?_, hI.slots.used⟩, ?_⟩
  · change u16 (s.vq.availIdxShadow + 1) = u16 (s.added ++ [a]).length
    rw [h₃, u16_succ, List.length_append, List.length_singleton]
  · change u16 (s.vq.availIdxShadow + 1) = u16 (s.added ++ [a]).length
    rw [h₃, u16_succ, List.length_append, List.length_singleton]
  · change Window s.vq.vring.avail.ring s.vq.vring.num s.taken.length
      (((s.added ++ [a]) ++ []).map AddedBuf.head)
    rw [hadd]
    exact hI.slots.avail
  · obtain ⟨h₁, h₂, h₃, h₄, h₅, h₆, h₇, h₈, h₉⟩ := hI.history
    refine ⟨h₁, ?_, ?_, h₄, h₅, h₆, ?_, h₈, h₉⟩
    · change s.taken.length ≤ (s.added ++ [a]).length
      rw [List.length_append]
      omega
    · change s.taken = ((s.added ++ [a]).take s.taken.length).map AddedBuf.head
      rw [List.take_append_of_le_length h₂]
      exact h₃
    · refine h₇.trans (List.map_congr_left fun c hc => ?_)
      obtain ⟨b, hb, -⟩ := hI.history.claimed_head (c := c)
        (List.mem_append_left _ (List.mem_of_mem_take hc))
      have hlt := (List.getElem?_eq_some_iff.mp hb).1
      change GetResult.mk _ _ = GetResult.mk (((s.added ++ [a])[c.index]?).map _) _
      rw [List.getElem?_append_left hlt]

/-- The completion that is returned next. -/
theorem Inv.nextUsed_eq {k : Nat} {s : Session τ} (hI : Inv k s) (hk : k ≤ 15)
    (hlt : s.returned.length < s.completed.length) :
    nextUsed s.vq = s.completed[s.returned.length].elem := by
  unfold nextUsed
  rw [hI.counters.lastUsed, hI.counters.slot hk]
  apply hI.slots.used _ _ (Nat.le_refl _)
  rw [List.getElem?_map, allCompleted, List.getElem?_append_left hlt,
    List.getElem?_eq_getElem hlt]
  rfl

theorem take_succ_eq {α : Type} {l : List α} {n : Nat} (h : n < l.length) :
    l.take (n + 1) = l.take n ++ [l[n]] := by
  rw [List.take_add_one, List.getElem?_eq_getElem h, Option.toList_some]

/-- The buffer of that completion is still outstanding. -/
theorem Inv.nextReturned {k : Nat} {s : Session τ} (hI : Inv k s)
    (hlt : s.returned.length < s.completed.length) :
    ∃ a, s.added[s.completed[s.returned.length].index]? = some a ∧
      a.head = s.completed[s.returned.length].elem.id ∧
      s.Outstanding s.completed[s.returned.length].index a := by
  obtain ⟨a, ha, hhead⟩ :=
    hI.history.claimed_head (List.mem_append_left _ (List.getElem_mem hlt))
  refine ⟨a, ha, hhead, ?_, ?_⟩
  · rw [allAdded, List.getElem?_append_left (List.getElem?_eq_some_iff.mp ha).1, ha]
  · have hnd := hI.history.distinct
    rw [allCompleted, List.map_append] at hnd
    have hsub : ((s.completed.take (s.returned.length + 1)).map Completion.index).Nodup :=
      (List.nodup_append.mp hnd).1.sublist ((List.take_sublist _ _).map _)
    rw [take_succ_eq hlt, List.map_append] at hsub
    exact fun hmem => (List.nodup_append.mp hsub).2.2 _ hmem _ (by simp) rfl

/-- A get behind its read barrier returns the token of the next completion. -/
theorem Inv.take {k : Nat} {s : Session τ} (hI : Inv k s) (hk : k ≤ 15)
    (hlt : s.returned.length < s.completed.length) :
    ∃ r vq, VirtIO.takeUsed s.vq = .ok (r, vq) ∧ r.ret.isSome ∧
      Inv k { s with vq := vq, getting := false, returned := s.returned ++ [r] } := by
  obtain ⟨free, chains, hP⟩ := hI.flight.part
  have hnum := hI.counters.num_le hk
  let c := s.completed[s.returned.length]
  obtain ⟨a, ha, hhead, hout⟩ := hI.nextReturned hlt
  have hnext : nextUsed s.vq = c.elem := hI.nextUsed_eq hk hlt
  have htok : s.vq.data (nextUsed s.vq).id = some a.token := by
    rw [hnext, ← hhead]
    exact (hI.flight.inFlight _ a hout).1
  obtain ⟨ch, chains', vq, hch, hchain, -, hrun, hT, hP'⟩ := takeUsed_take hP hnum htok
  rw [hnext] at hrun hT hchain
  let r : GetResult τ := ⟨some a.token, some c.elem.len⟩
  let s' : Session τ := { s with vq := vq, getting := false, returned := s.returned ++ [r] }
  have htake : s'.completed.take s'.returned.length =
      s.completed.take s.returned.length ++ [c] := by
    rw [show s'.returned.length = s.returned.length + 1 from List.length_append]
    exact take_succ_eq hlt
  have hold : ∀ j b, s'.Outstanding j b → s.Outstanding j b ∧ j ≠ c.index := by
    rintro j b ⟨hj, hnot⟩
    rw [htake, List.map_append, List.mem_append, not_or] at hnot
    exact ⟨⟨hj, hnot.1⟩, by simpa using hnot.2⟩
  obtain ⟨h₁, h₂, h₃, h₄, h₅, h₆, h₇⟩ := hI.counters
  refine ⟨r, vq, hrun, rfl, ⟨⟨_, _, hP'⟩, fun j b hb => ?_, fun i j b b' hb hb' =>
      hI.flight.heads i j b b' (hold i b hb).1 (hold j b' hb').1⟩,
    ⟨hT.num.trans h₁, hT.broken.trans h₂, hT.shadow.trans h₃, hT.idx.trans h₄, h₅, ?_, ?_⟩,
    ⟨?_, ?_⟩, ?_⟩
  · obtain ⟨hb, hne⟩ := hold j b hb
    apply (hI.flight.inFlight j b hb).detach hP hch hchain hT.toDetached
    rw [← hhead]
    exact hI.flight.heads _ _ b a hb hout hne
  · rw [← h₆]
    exact congrArg VringUsed.idx hT.used
  · change vq.lastUsedIdx = u16 (s.returned ++ [r]).length
    rw [hT.lastUsed, h₇, u16_succ, List.length_append, List.length_singleton]
  · change Window vq.vring.avail.ring vq.vring.num _ _
    rw [hT.ring, hT.num]
    exact hI.slots.avail
  · change Window vq.vring.used.ring vq.vring.num (s.returned ++ [r]).length _
    rw [hT.used, hT.num, List.length_append]
    exact hI.slots.used.mono (Nat.le_add_right _ _)
  · obtain ⟨h₁, h₂, h₃, h₄, h₅, h₆, h₇, h₈, h₉⟩ := hI.history
    refine ⟨h₁, h₂, h₃, h₄, h₅, ?_, ?_, (fun hg => by cases hg), h₉⟩
    · change (s.returned ++ [r]).length ≤ s.completed.length
      rw [List.length_append]
      exact hlt
    · change s.returned ++ [r] = (s'.completed.take s'.returned.length).map s.resultOf
      rw [htake, List.map_append, ← h₇, List.map_singleton]
      rw [show s.resultOf c = r by unfold resultOf; rw [ha]; rfl]

/-- The head the device takes next is that of the next buffer added. -/
theorem Inv.deviceTake {k : Nat} {s : Session τ} (hI : Inv k s) (hk : k ≤ 15)
    (hmore : s.nextAvail ≠ s.vq.vring.avail.idx) :
    Inv k { s with
      nextAvail := u16 (s.nextAvail + 1)
      taken := s.taken ++ [s.vq.vring.avail.ring (s.nextAvail &&& (s.vq.vring.num - 1))] } := by
  have hlen := hI.lengths
  have hlt : s.taken.length < s.added.length := by
    rcases Nat.lt_or_ge s.taken.length s.added.length with h | h
    · exact h
    · have heq : s.taken.length = s.added.length := by omega
      rw [hI.counters.nextAvail, hI.counters.idx, heq] at hmore
      exact absurd rfl hmore
  have hhead : s.vq.vring.avail.ring (s.nextAvail &&& (s.vq.vring.num - 1)) =
      s.added[s.taken.length].head := by
    rw [hI.counters.nextAvail, hI.counters.slot hk]
    apply hI.slots.avail _ _ (Nat.le_refl _)
    rw [List.getElem?_map, allAdded, List.getElem?_append_left hlt, List.getElem?_eq_getElem hlt]
    rfl
  rw [hhead]
  obtain ⟨h₁, h₂, h₃, h₄, h₅, h₆, h₇⟩ := hI.counters
  refine ⟨hI.flight.congr (.refl _) rfl rfl, ⟨h₁, h₂, h₃, h₄, ?_, h₆, h₇⟩,
    ⟨hI.slots.avail.mono ?_, hI.slots.used⟩, ?_⟩
  · change u16 (s.nextAvail + 1) = u16 (s.taken ++ [_]).length
    rw [h₅, u16_succ, List.length_append, List.length_singleton]
  · change s.taken.length ≤ (s.taken ++ [_]).length
    rw [List.length_append]
    exact Nat.le_add_right _ _
  · obtain ⟨h₁, h₂, h₃, h₄, h₅, h₆, h₇, h₈, h₉⟩ := hI.history
    refine ⟨h₁, ?_, ?_, fun c hc => ?_, h₅, h₆, h₇, h₈, h₉⟩
    · change (s.taken ++ [_]).length ≤ s.added.length
      rw [List.length_append]
      exact hlt
    · change s.taken ++ [_] = (s.added.take (s.taken ++ [_]).length).map AddedBuf.head
      rw [List.length_append, List.length_singleton, take_succ_eq hlt, List.map_append, ← h₃,
        List.map_singleton]
    · change (s.taken ++ [_])[c.index]? = some c.elem.id
      have htaken := h₄ c hc
      rw [List.getElem?_append_left (List.getElem?_eq_some_iff.mp htaken).1]
      exact htaken

/-- A used entry is written into a slot whose entry has been returned. -/
theorem Inv.deviceWrite {k : Nat} {s : Session τ} (hI : Inv k s) (hk : k ≤ 15)
    {index id len : Nat} (hnone : s.completing = none)
    (hnew : index ∉ s.completed.map Completion.index) (htaken : s.taken[index]? = some id) :
    Inv k { s with vq := s.writeUsed ⟨id, len⟩, completing := some ⟨index, ⟨id, len⟩⟩ } := by
  have hlen := hI.lengths
  have hall : s.allCompleted = s.completed := by simp [allCompleted, hnone]
  have hhist : History { s with
      vq := s.writeUsed ⟨id, len⟩, completing := some ⟨index, ⟨id, len⟩⟩ } := by
    obtain ⟨h₁, h₂, h₃, h₄, h₅, h₆, h₇, h₈, h₉⟩ := hI.history
    rw [hall] at h₄ h₅
    refine ⟨h₁, h₂, h₃, fun c hc => ?_, ?_, h₆, h₇, h₈, h₉⟩
    · rcases List.mem_append.mp hc with hc | hc
      · exact h₄ c hc
      · rw [List.mem_singleton.mp hc]
        exact htaken
    · change ((s.completed ++ [_]).map Completion.index).Nodup
      rw [List.map_append, List.nodup_append]
      refine ⟨h₅, List.nodup_singleton _, fun i hi j hj => ?_⟩
      rw [List.map_singleton, List.mem_singleton] at hj
      rintro rfl
      exact hnew (by rw [show index = i from hj.symm]; exact hi)
  have hroom : s.completed.length + 1 ≤ s.taken.length := by
    have := hhist.completed_le
    rwa [show Session.allCompleted _ = s.completed ++ [_] from rfl, List.length_append] at this
  obtain ⟨h₁, h₂, h₃, h₄, h₅, h₆, h₇⟩ := hI.counters
  refine ⟨hI.flight.congr ⟨rfl, rfl, rfl, rfl, rfl⟩ rfl rfl, ⟨h₁, h₂, h₃, h₄, h₅, h₆, h₇⟩,
    ⟨hI.slots.avail, ?_⟩, hhist⟩
  have hwrite := (hall ▸ hI.slots.used).write (by rw [List.length_map]; omega)
    (⟨id, len⟩ : VringUsedElem)
  rw [List.length_map, ← hI.counters.slot hk, ← h₆] at hwrite
  change Window _ _ _ ((s.completed ++ [_]).map Completion.elem)
  rw [List.map_append]
  exact hwrite

theorem Inv.devicePublish {k : Nat} {s : Session τ} (hI : Inv k s) {c : Completion}
    (hc : s.completing = some c) :
    Inv k { s with
      vq := s.vq.withUsed { s.vq.vring.used with idx := u16 (s.vq.vring.used.idx + 1) }
      completing := none, completed := s.completed ++ [c] } := by
  have hall : (s.completed ++ [c]) ++ [] = s.allCompleted := by simp [allCompleted, hc]
  have hlen := hI.lengths
  obtain ⟨h₁, h₂, h₃, h₄, h₅, h₆, h₇⟩ := hI.counters
  refine ⟨hI.flight.congr ⟨rfl, rfl, rfl, rfl, rfl⟩ rfl
      (List.take_append_of_le_length hlen.1), ⟨h₁, h₂, h₃, h₄, h₅, ?_, h₇⟩,
    ⟨hI.slots.avail, ?_⟩, ?_⟩
  · change u16 (s.vq.vring.used.idx + 1) = u16 (s.completed ++ [c]).length
    rw [h₆, u16_succ, List.length_append, List.length_singleton]
  · change Window _ _ _ (((s.completed ++ [c]) ++ []).map Completion.elem)
    rw [hall]
    exact hI.slots.used
  · obtain ⟨h₁, h₂, h₃, h₄, h₅, h₆, h₇, h₈, h₉⟩ := hI.history
    refine ⟨h₁, h₂, h₃, ?_, ?_, ?_, ?_, fun hg => ?_, h₉⟩
    · change ∀ c' ∈ (s.completed ++ [c]) ++ [], _
      rw [hall]
      exact h₄
    · change (((s.completed ++ [c]) ++ []).map Completion.index).Nodup
      rw [hall]
      exact h₅
    · change s.returned.length ≤ (s.completed ++ [c]).length
      rw [List.length_append]
      omega
    · change s.returned = ((s.completed ++ [c]).take s.returned.length).map s.resultOf
      rw [List.take_append_of_le_length h₆]
      exact h₇
    · have := h₈ hg
      change s.returned.length < (s.completed ++ [c]).length
      rw [List.length_append]
      omega

theorem Inv.deviceFlags {k : Nat} {s : Session τ} (hI : Inv k s) (flags : UInt16)
    (availEvent : Nat) :
    Inv k { s with vq := s.vq.withUsed { s.vq.vring.used with flags, availEvent } } := by
  obtain ⟨h₁, h₂, h₃, h₄, h₅, h₆, h₇⟩ := hI.counters
  obtain ⟨g₁, g₂, g₃, g₄, g₅, g₆, g₇, g₈, g₉⟩ := hI.history
  exact ⟨hI.flight.congr ⟨rfl, rfl, rfl, rfl, rfl⟩ rfl rfl, ⟨h₁, h₂, h₃, h₄, h₅, h₆, h₇⟩,
    ⟨hI.slots.avail, hI.slots.used⟩, ⟨g₁, g₂, g₃, g₄, g₅, g₆, g₇, g₈, g₉⟩⟩

/-- **One step** of the driver or of the device keeps the invariant. -/
theorem Inv.step {k : Nat} {s s' : Session τ} {e : SessionEvent τ} (hI : Inv k s) (hk : k ≤ 15)
    (hstep : s.step e = some s') : Inv k s' := by
  cases e with
  | addBuf out inn data =>
    simp only [Session.step] at hstep
    split_ifs at hstep with hadm hroom hout
    · cases hstep
      exact hI.notify _
    · cases hstep
      exact hI.notify s.vq.notified
    · obtain ⟨⟨-, hidle, -⟩, hpos, hu⟩ := hadm
      have htotal : outPlusIn out inn = out.length + inn.length := Nat.mod_eq_of_lt hu
      obtain ⟨head, vq, hrun, hI'⟩ :=
        hI.prepare hk (Option.isNone_iff_eq_none.mp hidle) (t := data) hpos hu (by omega)
      rw [hrun] at hstep
      cases hstep
      exact hI'
  | exposeBuf =>
    cases hadding : s.adding with
    | none => simp [Session.step, hadding] at hstep
    | some a =>
      simp only [Session.step, hadding] at hstep
      cases hstep
      exact hI.expose hadding
  | getBuf =>
    simp only [Session.step] at hstep
    split_ifs at hstep with hidle hnull
    · cases hstep
      have hnone : ¬ s.returned.length < s.completed.length := by
        rw [← hI.moreUsed_iff hk]
        simpa [hI.counters.broken] using hnull
      obtain ⟨h₁, h₂, h₃, h₄, h₅, h₆, h₇⟩ := hI.counters
      obtain ⟨g₁, g₂, g₃, g₄, g₅, g₆, g₇, g₈, g₉⟩ := hI.history
      refine ⟨hI.flight.congr (.refl _) rfl rfl, ⟨h₁, h₂, h₃, h₄, h₅, h₆, h₇⟩,
        ⟨hI.slots.avail, hI.slots.used⟩, ⟨g₁, g₂, g₃, g₄, g₅, g₆, g₇, g₈, fun n hn => ?_⟩⟩
      rcases List.mem_append.mp hn with hn | hn
      · exact g₉ n hn
      · rw [List.mem_singleton.mp hn]
        omega
    · cases hstep
      have hlt : s.returned.length < s.completed.length := by
        rw [← hI.moreUsed_iff hk]
        simpa [hI.counters.broken] using hnull
      obtain ⟨h₁, h₂, h₃, h₄, h₅, h₆, h₇⟩ := hI.counters
      obtain ⟨g₁, g₂, g₃, g₄, g₅, g₆, g₇, -, g₉⟩ := hI.history
      exact ⟨hI.flight.congr (.refl _) rfl rfl, ⟨h₁, h₂, h₃, h₄, h₅, h₆, h₇⟩,
        ⟨hI.slots.avail, hI.slots.used⟩, ⟨g₁, g₂, g₃, g₄, g₅, g₆, g₇, fun _ => hlt, g₉⟩⟩
  | takeUsed =>
    simp only [Session.step] at hstep
    split_ifs at hstep with hget
    obtain ⟨r, vq, hrun, hsome, hI'⟩ := hI.take hk (hI.history.getting hget)
    rw [hrun] at hstep
    cases hstep
    unfold answer
    rw [if_pos hsome]
    exact hI'
  | deviceTake =>
    simp only [Session.step] at hstep
    split_ifs at hstep with hmore
    cases hstep
    exact hI.deviceTake hk hmore
  | deviceWrite index len =>
    simp only [Session.step] at hstep
    split_ifs at hstep with hnew
    cases hid : s.taken[index]? with
    | none => simp [hid] at hstep
    | some id =>
      rw [hid] at hstep
      cases hstep
      exact hI.deviceWrite hk (Option.isNone_iff_eq_none.mp hnew.1) hnew.2 hid
  | devicePublish =>
    cases hc : s.completing with
    | none => simp [Session.step, hc] at hstep
    | some c =>
      simp only [Session.step, hc] at hstep
      cases hstep
      exact hI.devicePublish hc
  | deviceFlags flags availEvent =>
    simp only [Session.step] at hstep
    cases hstep
    exact hI.deviceFlags flags availEvent

/-! ## Runs -/

/-- A queue fresh from `vring_new_virtqueue` starts a session that satisfies the invariant. -/
theorem inv_start {k : Nat} (hk : k ≤ 15) {index : Nat} {event : Bool} {notified : Nat}
    {indirect : Nat → List VringDesc} {vq : Virtqueue τ}
    (hnew : vringNewVirtqueue index event notified (Vring.zeroed (2 ^ k) indirect) =
      .ok (some vq)) : Inv k (start vq) := by
  obtain ⟨hP, hnum, havail, hused, hshadow, hlast, hbroken⟩ := vringNewVirtqueue_fresh hk hnew
  refine ⟨⟨⟨_, _, hP⟩, ?_, ?_⟩, ⟨hnum, hbroken, hshadow, havail, rfl, hused, hlast⟩, ⟨?_, ?_⟩, ?_⟩
  · rintro j a ⟨hj, -⟩
    simp [allAdded, start] at hj
  · rintro i j a b ⟨hi, -⟩
    simp [allAdded, start] at hi
  · exact window_nil _ _ _
  · exact window_nil _ _ _
  · constructor <;> simp [start, allCompleted]

/-- **A session is correct in every state.** On a ring of `2 ^ k` entries fresh from
`vring_new_virtqueue`, for runs of any length and any interleaving of the driver's calls with
a conforming device, the device takes the buffers in the order they were added and finds
their elements, the driver gets the completions in the order they were published with the
lengths the device wrote, and it gets `NULL` only when none waits. -/
theorem session_correct {k : Nat} (hk : k ≤ 15) {index : Nat} {event : Bool} {notified : Nat}
    {indirect : Nat → List VringDesc} {vq : Virtqueue τ}
    (hnew : vringNewVirtqueue index event notified (Vring.zeroed (2 ^ k) indirect) =
      .ok (some vq)) {s : Session τ} (hs : (system vq).Reachable s) : Correct s := by
  have hI : Inv k s :=
    hs.induct (Inv k) (inv_start hk hnew) fun _ _ _ hI _ hstep => hI.step hk hstep
  obtain ⟨h₁, h₂, h₃, h₄, h₅, h₆, h₇, h₈, h₉⟩ := hI.history
  refine ⟨h₁, h₂, h₃, fun j a hj ha hnot => ?_, fun c hc => h₄ c (List.mem_append_left _ hc), ?_,
    h₆, h₇, h₉⟩
  · have hout : s.Outstanding j a := by
      refine ⟨?_, fun hmem => hnot ?_⟩
      · rw [allAdded, List.getElem?_append_left (List.getElem?_eq_some_iff.mp ha).1, ha]
      · exact (List.take_sublist _ _).map _ |>.subset hmem
    exact (hI.flight.inFlight j a hout).2
  · rw [allCompleted, List.map_append] at h₅
    exact (List.nodup_append.mp h₅).1

/-- Two buffers are added and completed in reverse order. -/
def reverseRun : List (SessionEvent Nat) :=
  [.addBuf [⟨4096, 24⟩] [] 7, .exposeBuf, .addBuf [] [⟨8192, 40⟩] 8, .exposeBuf, .deviceTake,
    .deviceTake, .deviceWrite 1 40, .devicePublish, .deviceWrite 0 0, .getBuf, .takeUsed, .getBuf]

theorem session_correct_two :
    ∃ (vq : Virtqueue Nat) (s : Session Nat),
      vringNewVirtqueue 0 false 0 (Vring.zeroed (2 ^ 1) fun _ => []) = .ok (some vq) ∧
      (system vq).run reverseRun = some s ∧
      s.returned = [⟨some 8, some 40⟩] ∧ s.waitingAtNull = [0] ∧ Correct s := by
  have hcorrect : ∀ vq s,
      vringNewVirtqueue 0 false 0 (Vring.zeroed (2 ^ 1) fun _ => []) = .ok (some vq) →
      (system vq).run reverseRun = some s → Correct s :=
    fun _ _ hnew hrun => session_correct (by decide) hnew (System.reachable_of_run hrun)
  exact ⟨_, _, rfl, rfl, rfl, rfl, hcorrect _ _ rfl rfl⟩

end Session

end VioGpu.VirtIO
