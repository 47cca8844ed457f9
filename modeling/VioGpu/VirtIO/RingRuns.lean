import Mathlib.Data.Nat.Bitwise
import VioGpu.VirtIO.Calls

/-!
# Runs of the ring driver

A run is any sequence of driver calls and device writes after `vring_new_virtqueue` on
zeroed pages; the device may write anything at all into the used ring. The main result is
`ringRun_wellFormed`: every call of such a run returns, and in every state reached the free
list and the chains of the heads with a token share out the descriptors of the ring
(`WellFormed`), so that a call that refuses its work has nothing to undo.
-/

namespace VioGpu.VirtIO

open Lib Virtqueue

variable {τ : Type}

/-! ## The events of a run -/

/-- A call of the driver, or a write of the device to the used ring between two calls. -/
inductive RingEvent (τ : Type)
  | addBuf (out inn : List Scatterlist) (data : τ) (indirect : Option Nat)
  | getBuf
  | detachUnusedBuf
  | shutdown
  | deviceWrites (used : VringUsed)

/-- The queue after an event. -/
def RingEvent.apply (vq : Virtqueue τ) : RingEvent τ → Result (Virtqueue τ)
  | .addBuf out inn data indirect => Prod.snd <$> virtqueueAddBuf vq out inn data indirect
  | .getBuf => Prod.snd <$> virtqueueGetBuf vq
  | .detachUnusedBuf => Prod.snd <$> virtqueueDetachUnusedBuf vq
  | .shutdown => virtqueueShutdown vq
  | .deviceWrites used => .ok (vq.withUsed used)

/-- A buffer that is added has an element, and `out + in` is the number of its elements. The
driver's callers pass at most 16. -/
def RingEvent.Admissible : RingEvent τ → Prop
  | .addBuf out inn _ _ => 0 < out.length + inn.length ∧ out.length + inn.length < 4294967296
  | _ => True

def runRing (vq : Virtqueue τ) (events : List (RingEvent τ)) : Result (Virtqueue τ) :=
  events.foldlM RingEvent.apply vq

/-! ## What holds in every state -/

/-- The descriptors met in `num_free` steps along `next` from `free_head`. -/
def freeList (vq : Virtqueue τ) : List Nat :=
  (List.range vq.numFree).map fun k => (fun i => (vq.vring.desc i).next)^[k] vq.freeHead

/-- The free list and the chains of the heads with a token are without repetition and
pairwise disjoint, and together they are the descriptors below `num`. -/
structure WellFormed (vq : Virtqueue τ) : Prop where
  free : (freeList vq).Nodup
  chain : ∀ h t, vq.data h = some t → ∃ c, IsChain vq.vring.desc h c ∧ c.Nodup
  freeDisjoint : ∀ h t c, vq.data h = some t → IsChain vq.vring.desc h c →
    (freeList vq).Disjoint c
  chainDisjoint : ∀ h t c h' t' c', vq.data h = some t → IsChain vq.vring.desc h c →
    vq.data h' = some t' → IsChain vq.vring.desc h' c' → h ≠ h' → c.Disjoint c'
  cover : ∀ x, x < vq.vring.num ↔ x ∈ freeList vq ∨
    ∃ h t c, vq.data h = some t ∧ IsChain vq.vring.desc h c ∧ x ∈ c

/-- A head has one chain: the walk along the flags is determined. -/
theorem IsChain.unique {desc : Nat → VringDesc} {h : Nat} {c c' : List Nat}
    (hc : IsChain desc h c) (hc' : IsChain desc h c') : c = c' := by
  obtain ⟨body, last, rfl, hf, hnext, hend⟩ := hc
  obtain ⟨body', last', rfl, hf', hnext', hend'⟩ := hc'
  induction body generalizing h body' with
  | nil =>
    obtain rfl : h = last := hf
    cases body' with
    | nil => rw [show h = last' from hf']
    | cons x body' => exact absurd (hf'.1 ▸ hnext' x (by simp)) hend
  | cons x body ih =>
    obtain ⟨rfl, hf⟩ := hf
    cases body' with
    | nil =>
      obtain rfl : x = last' := hf'
      exact absurd (hnext x (by simp)) hend'
    | cons y body' =>
      obtain ⟨rfl, hf'⟩ := hf'
      have htail := ih hf (fun z hz => hnext z (by simp [hz])) body' hf'
        (fun z hz => hnext' z (by simp [hz]))
      rw [List.cons_append, htail, List.cons_append]

/-- The free list of a partition is the one the driver would walk. -/
theorem Partition.freeList_eq {vq : Virtqueue τ} {free : List Nat} {chains : List (List Nat)}
    (hP : Partition vq free chains) : freeList vq = free := by
  obtain ⟨stop, -, hf⟩ := hP.walk
  unfold freeList
  rw [← hP.count]
  exact hf.eq_map_iterate.symm

theorem Partition.wellFormed {vq : Virtqueue τ} {free : List Nat} {chains : List (List Nat)}
    (hP : Partition vq free chains) : WellFormed vq := by
  have hchain : ∀ h t c, vq.data h = some t → IsChain vq.vring.desc h c → c ∈ chains := by
    intro h t c ht hc
    obtain ⟨c', hc', hch⟩ := hP.token h t ht
    rwa [hc.unique hch]
  constructor
  · rw [hP.freeList_eq]
    exact (List.nodup_append.mp hP.nodup).1
  · intro h t ht
    obtain ⟨c, hc, hch⟩ := hP.token h t ht
    exact ⟨c, hch, hP.nodup_chain hc⟩
  · intro h t c ht hc x hx hxc
    rw [hP.freeList_eq] at hx
    exact hP.not_mem_free (hchain h t c ht hc) hx hxc
  · intro h t c h' t' c' ht hc ht' hc' hne x hx hx'
    have hEq : c = c' := hP.chain_unique (hchain h t c ht hc) (hchain h' t' c' ht' hc') hx hx'
    subst hEq
    exact hne (Option.some.inj (hc.head?.symm.trans hc'.head?))
  · intro x
    rw [hP.freeList_eq, ← List.mem_range, ← hP.cover.mem_iff, List.mem_append]
    refine or_congr_right ⟨fun hx => ?_, fun ⟨h, t, c, ht, hc, hx⟩ => ?_⟩
    · obtain ⟨c, hc, hxc⟩ := List.mem_flatten.mp hx
      obtain ⟨h, t, hch, ht⟩ := hP.chain c hc
      exact ⟨h, t, c, ht, hch, hxc⟩
    · exact List.mem_flatten.mpr ⟨c, hchain h t c ht hc, hx⟩

/-! ## Steps and runs -/

/-- A ring of at most 32768 descriptors with some partition of them. -/
def Partitioned (num : Nat) (vq : Virtqueue τ) : Prop :=
  vq.vring.num = num ∧ 0 < num ∧ num ≤ 32768 ∧ ∃ free chains, Partition vq free chains

/-- **One event** is carried out and keeps the partition. -/
theorem Partitioned.apply {num : Nat} {vq : Virtqueue τ} (h : Partitioned num vq)
    {e : RingEvent τ} (he : e.Admissible) :
    ∃ vq', e.apply vq = .ok vq' ∧ Partitioned num vq' := by
  obtain ⟨hnum, hpos, hle, free, chains, hP⟩ := h
  have hle' : vq.vring.num ≤ 32768 := by omega
  cases e with
  | addBuf out inn data indirect =>
    obtain ⟨n, hrun⟩ | ⟨l, rest, vq', -, hrun, hE, hP'⟩ :=
      virtqueueAddBuf_spec hP he.1 he.2 data indirect
    · exact ⟨{ vq with notified := n }, by rw [RingEvent.apply, hrun]; rfl, hnum, hpos, hle, free,
        chains, hP.congr ⟨rfl, rfl, rfl, rfl, rfl⟩⟩
    · have hsame := publishHead_sameDescs vq'
      exact ⟨publishHead vq', by rw [RingEvent.apply, hrun]; rfl,
        hsame.num.trans (hE.num.trans hnum), hpos, hle, rest, l :: chains, hP'.congr hsame⟩
  | getBuf =>
    obtain ⟨len, hrun⟩ | ⟨h, t, len, c, chains', vq', hrun, hT, hP'⟩ :=
      virtqueueGetBuf_spec hP hle'
    · exact ⟨vq, by rw [RingEvent.apply, hrun]; rfl, hnum, hpos, hle, free, chains, hP⟩
    · exact ⟨vq', by rw [RingEvent.apply, hrun]; rfl, hT.num.trans hnum, hpos, hle, c ++ free,
        chains', hP'⟩
  | detachUnusedBuf =>
    obtain hrun | ⟨t, c, chains', vq', hrun, hnum', hP'⟩ := virtqueueDetachUnusedBuf_spec hP hle'
    · exact ⟨vq, by rw [RingEvent.apply, hrun]; rfl, hnum, hpos, hle, free, chains, hP⟩
    · exact ⟨vq', by rw [RingEvent.apply, hrun]; rfl, hnum'.trans hnum, hpos, hle, c ++ free,
        chains', hP'⟩
  | shutdown =>
    obtain ⟨vq', hrun, hP', hnum'⟩ := virtqueueShutdown_spec vq (by omega) hle'
    exact ⟨vq', hrun, hnum'.trans hnum, hpos, hle, _, _, hP'⟩
  | deviceWrites used =>
    exact ⟨vq.withUsed used, rfl, hnum, hpos, hle, free, chains,
      hP.congr ⟨rfl, rfl, rfl, rfl, rfl⟩⟩

theorem Partitioned.run {num : Nat} {events : List (RingEvent τ)} {vq : Virtqueue τ}
    (h : Partitioned num vq) (hev : ∀ e ∈ events, e.Admissible) :
    ∃ vq', runRing vq events = .ok vq' ∧ Partitioned num vq' := by
  induction events generalizing vq with
  | nil => exact ⟨vq, rfl, h⟩
  | cons e events ih =>
    obtain ⟨vq₁, hstep, h₁⟩ := h.apply (hev e (by simp))
    obtain ⟨vq₂, hrun, h₂⟩ := ih h₁ fun e' he' => hev e' (by simp [he'])
    refine ⟨vq₂, ?_, h₂⟩
    unfold runRing at hrun ⊢
    rw [List.foldlM_cons, hstep, ok_bind, hrun]

theorem vringNewVirtqueue_spec {k : Nat} (hk : k ≤ 15) (index : Nat) (event : Bool)
    (notified : Nat) (indirect : Nat → List VringDesc) :
    ∃ vq : Virtqueue τ, vringNewVirtqueue index event notified (Vring.zeroed (2 ^ k) indirect) =
      .ok (some vq) ∧ Partitioned (2 ^ k) vq := by
  have hpos : 0 < 2 ^ k := Nat.two_pow_pos k
  have hle : 2 ^ k ≤ 32768 := Nat.pow_le_pow_right (n := 2) (by omega) hk
  have hmask : 2 ^ k &&& sub32 (2 ^ k) 1 = 0 := by
    rw [show sub32 (2 ^ k) 1 = 2 ^ k - 1 by unfold sub32; omega, Nat.and_two_pow_sub_one_eq_mod,
      Nat.mod_self]
  obtain ⟨vq, hrun, hP, hnum, -⟩ := initializeVirtqueue_spec (τ := τ) index event notified
    (Vring.zeroed (2 ^ k) indirect) hpos hle hpos
  refine ⟨vq, ?_, hnum, hpos, hle, _, _, hP⟩
  unfold vringNewVirtqueue
  rw [if_neg (by simpa [Vring.zeroed] using hmask), hrun]
  rfl

theorem vringNewVirtqueue_eq_some {index : Nat} {event : Bool} {notified : Nat} {pages : Vring}
    {vq : Virtqueue τ} (h : vringNewVirtqueue index event notified pages = .ok (some vq)) :
    initializeVirtqueue index event notified pages = .ok vq := by
  unfold vringNewVirtqueue at h
  split at h
  · cases h
  · cases hinit : initializeVirtqueue (τ := τ) index event notified pages with
    | error f =>
      rw [hinit] at h
      cases h
    | ok vq' =>
      rw [hinit] at h
      cases h
      rfl

/-- A fresh ring: all descriptors are free and nothing has been counted. -/
theorem vringNewVirtqueue_fresh {k : Nat} (hk : k ≤ 15) {index : Nat} {event : Bool}
    {notified : Nat} {indirect : Nat → List VringDesc} {vq : Virtqueue τ}
    (hnew : vringNewVirtqueue index event notified (Vring.zeroed (2 ^ k) indirect) =
      .ok (some vq)) :
    Partition vq (List.range (2 ^ k)) [] ∧ vq.vring.num = 2 ^ k ∧ vq.vring.avail.idx = 0 ∧
      vq.vring.used.idx = 0 ∧ vq.availIdxShadow = 0 ∧ vq.lastUsedIdx = 0 ∧ vq.broken = false := by
  have hpos : 0 < 2 ^ k := Nat.two_pow_pos k
  have hle : 2 ^ k ≤ 32768 := Nat.pow_le_pow_right (n := 2) (by omega) hk
  obtain ⟨vq', hrun, hP, hnum, havail, hused, -, hshadow, hlast, hbroken⟩ :=
    initializeVirtqueue_spec (τ := τ) index event notified (Vring.zeroed (2 ^ k) indirect) hpos hle
      hpos
  obtain rfl : vq = vq' := by
    have hinit := vringNewVirtqueue_eq_some hnew
    rw [hrun] at hinit
    exact (Except.ok.inj hinit).symm
  refine ⟨hP, hnum, ?_, ?_, hshadow, hlast, hbroken⟩
  · rw [havail]
    rfl
  · rw [hused]
    rfl

/-- **The descriptors of a ring of `2 ^ k` entries are shared out in every state of a run.**
From `vring_new_virtqueue` on zeroed pages every sequence of calls, with any writes of the
device to the used ring between them, is carried out without leaving an array and without an
endless `detach_buf`. In the state it ends in the ring is well formed, an add that finds no
room changes the notification count only, and a get that returns `NULL` changes nothing. -/
theorem ringRun_wellFormed {k : Nat} (hk : k ≤ 15) (index : Nat) (event : Bool) (notified : Nat)
    (indirect : Nat → List VringDesc) (events : List (RingEvent τ))
    (hev : ∀ e ∈ events, e.Admissible) :
    ∃ vq₀ vq : Virtqueue τ,
      vringNewVirtqueue index event notified (Vring.zeroed (2 ^ k) indirect) = .ok (some vq₀) ∧
      runRing vq₀ events = .ok vq ∧ vq.vring.num = 2 ^ k ∧ WellFormed vq ∧
      (∀ out inn data table vq', (RingEvent.addBuf out inn data table).Admissible →
        virtqueueAddBuf vq out inn data table = .ok (.enospc, vq') →
        vq' = { vq with notified := vq'.notified }) ∧
      (∀ len vq', virtqueueGetBuf vq = .ok (⟨none, len⟩, vq') → vq' = vq) := by
  obtain ⟨vq₀, hnew, h₀⟩ := vringNewVirtqueue_spec (τ := τ) hk index event notified indirect
  obtain ⟨vq, hrun, hnum, -, hle, free, chains, hP⟩ := h₀.run hev
  refine ⟨vq₀, vq, hnew, hrun, hnum, hP.wellFormed, ?_, ?_⟩
  · intro out inn data table vq' hadm hadd
    obtain ⟨n, hspec⟩ | ⟨l, rest, vq'', -, hspec, -⟩ :=
      virtqueueAddBuf_spec hP hadm.1 hadm.2 data table
    · obtain ⟨-, rfl⟩ := Prod.mk.inj (Except.ok.inj (hspec.symm.trans hadd))
      rfl
    · have hret := hspec.symm.trans hadd
      simp at hret
  · intro len vq' hget
    obtain ⟨len', hspec⟩ | ⟨h, t, len', c, chains', vq'', hspec, -⟩ :=
      virtqueueGetBuf_spec hP (by omega)
    · obtain ⟨-, rfl⟩ := Prod.mk.inj (Except.ok.inj (hspec.symm.trans hget))
      rfl
    · have hret := hspec.symm.trans hget
      simp at hret

/-- The same run on a ring of four: two buffers added, a hostile used entry, a shutdown. -/
theorem ringRun_wellFormed_four :
    ∃ vq₀ vq : Virtqueue Nat,
      vringNewVirtqueue 0 false 0 (Vring.zeroed (2 ^ 2) fun _ => []) = .ok (some vq₀) ∧
      runRing vq₀ [.addBuf [⟨4096, 24⟩] [⟨8192, 24⟩] 1 none, .addBuf [⟨4096, 8⟩] [] 2 (some 64),
        .deviceWrites ⟨0, 7, fun _ => ⟨9, 0⟩, 0⟩, .getBuf, .detachUnusedBuf, .shutdown] = .ok vq ∧
      vq.vring.num = 2 ^ 2 ∧ WellFormed vq ∧
      (∀ out inn data table vq', (RingEvent.addBuf out inn data table).Admissible →
        virtqueueAddBuf vq out inn data table = .ok (.enospc, vq') →
        vq' = { vq with notified := vq'.notified }) ∧
      (∀ len vq', virtqueueGetBuf vq = .ok (⟨none, len⟩, vq') → vq' = vq) :=
  ringRun_wellFormed (by decide) 0 false 0 (fun _ => []) _ (by simp [RingEvent.Admissible])

end VioGpu.VirtIO
