import VioGpu.VirtIO.Channel
import VioGpu.VirtIO.SessionRuns

/-!
# A session refines the channel

What the users of a queue see of a session is a `Channel` (`Session.view`): the buffers the
device has not completed, those it has completed and the driver has not got back, and the
number of free descriptors. An add is seen when it is prepared, a completion when it is
published and a get when it takes the used entry; every other step leaves the view as it is
(`Inv.view_step`). So in every run a session is seen as a state of the channel.
-/

namespace VioGpu.VirtIO

open Lib Virtqueue

variable {τ : Type}

/-! ## The view -/

/-- The buffer's token and the number of its descriptors. -/
def AddedBuf.entry (a : AddedBuf τ) : τ × Nat := (a.token, a.out.length + a.inn.length)

/-- The entries of the buffers of these numbers. -/
def entries (bufs : List (AddedBuf τ)) (l : List Nat) : List (τ × Nat) :=
  l.filterMap fun j => (bufs[j]?).map AddedBuf.entry

/-- The numbers of the first `n` buffers without those that are completed. -/
def notCompleted (n : Nat) (completed : List Completion) : List Nat :=
  (List.range n).filter fun j => j ∉ completed.map Completion.index

/-- What the users of the queue see. -/
def Session.view (s : Session τ) : Channel τ where
  numFree := s.vq.numFree
  pending := entries s.allAdded (notCompleted s.allAdded.length s.completed)
  used := entries s.allAdded ((s.completed.drop s.returned.length).map Completion.index)

theorem entries_append {bufs : List (AddedBuf τ)} {l m : List Nat} :
    entries bufs (l ++ m) = entries bufs l ++ entries bufs m := List.filterMap_append

theorem entries_cons {bufs : List (AddedBuf τ)} {j : Nat} {l : List Nat} {a : AddedBuf τ}
    (h : bufs[j]? = some a) : entries bufs (j :: l) = a.entry :: entries bufs l := by
  simp [entries, h]

/-- A further buffer leaves the entries as they are. -/
theorem entries_snoc {bufs : List (AddedBuf τ)} {l : List Nat} (a : AddedBuf τ)
    (h : ∀ j ∈ l, j < bufs.length) : entries (bufs ++ [a]) l = entries bufs l := by
  refine List.filterMap_congr fun j hj => ?_
  rw [List.getElem?_append_left (h j hj)]

theorem lt_of_mem_notCompleted {n j : Nat} {completed : List Completion}
    (h : j ∈ notCompleted n completed) : j < n := List.mem_range.mp (List.mem_filter.mp h).1

/-- A further buffer is not completed. -/
theorem notCompleted_succ {n : Nat} {completed : List Completion}
    (h : ∀ c ∈ completed, c.index < n) :
    notCompleted (n + 1) completed = notCompleted n completed ++ [n] := by
  have hnot : n ∉ completed.map Completion.index := by
    intro hn
    obtain ⟨c, hc, hcn⟩ := List.mem_map.mp hn
    have := h c hc
    omega
  unfold notCompleted
  rw [List.range_succ, List.filter_append]
  simpa using hnot

/-- A further completion takes its number out. -/
theorem notCompleted_concat {n : Nat} {completed : List Completion} {c : Completion}
    (hlt : c.index < n) (hnew : c.index ∉ completed.map Completion.index) :
    ∃ l m, notCompleted n completed = l ++ c.index :: m ∧
      notCompleted n (completed ++ [c]) = l ++ m := by
  have hmem : c.index ∈ notCompleted n completed :=
    List.mem_filter.mpr ⟨List.mem_range.mpr hlt, decide_eq_true hnew⟩
  obtain ⟨l, m, hsplit⟩ := List.append_of_mem hmem
  have hnodup : (l ++ c.index :: m).Nodup := hsplit ▸ List.nodup_range.filter _
  have hnot := (List.nodup_cons.mp (List.nodup_middle.mp hnodup)).1
  refine ⟨l, m, hsplit, ?_⟩
  calc
    notCompleted n (completed ++ [c]) = (notCompleted n completed).filter (· ≠ c.index) := by
      unfold notCompleted
      rw [List.filter_filter]
      refine List.filter_congr fun j _ => ?_
      simp only [List.map_append, List.mem_append, List.map_singleton, List.mem_singleton, not_or,
        Bool.decide_and, Bool.and_comm]
    _ = l ++ m := by
      rw [hsplit, List.filter_append, List.filter_cons_of_neg (by simp), ← List.filter_append]
      exact List.filter_eq_self.mpr fun j hj => decide_eq_true (ne_of_mem_of_not_mem hj hnot)

/-- The chain of a buffer in flight has a descriptor for each of its elements. -/
theorem InFlight.chain_length {vq : Virtqueue τ} {a : AddedBuf τ} (h : InFlight vq a)
    {c : List Nat} (hc : IsChain vq.vring.desc a.head c) : c.length = a.entry.2 := by
  obtain ⟨-, c', hc', hholds⟩ := h
  rw [hc.unique hc', hholds.length_eq, sgElems_length]
  rfl

namespace Session

theorem History.index_lt {s : Session τ} (hH : History s) {c : Completion}
    (hc : c ∈ s.allCompleted) : c.index < s.added.length := by
  obtain ⟨a, ha, -⟩ := hH.claimed_head hc
  exact (List.getElem?_eq_some_iff.mp ha).1

theorem view_congr {s s' : Session τ} (hfree : s'.vq.numFree = s.vq.numFree)
    (hadded : s'.allAdded = s.allAdded) (hcompleted : s'.completed = s.completed)
    (hreturned : s'.returned = s.returned) : s'.view = s.view := by
  simp only [view, hfree, hadded, hcompleted, hreturned]

/-! ## Steps -/

variable {k : Nat} {s s' : Session τ}

/-- A prepared buffer is pending. -/
theorem Inv.view_prepare (hI : Inv k s) (hidle : s.adding = none) {out inn : List Scatterlist}
    {t : τ} (hpos : 0 < out.length + inn.length) (hu : out.length + inn.length < 4294967296)
    (hroom : out.length + inn.length ≤ s.vq.numFree) {head : Nat} {vq : Virtqueue τ}
    (hrun : prepareDirect s.vq out inn t = .ok (head, vq)) :
    s.view.addBuf t (out.length + inn.length) =
      some { s with vq := vq, adding := some ⟨head, out, inn, t⟩ : Session τ }.view := by
  let a : AddedBuf τ := ⟨head, out, inn, t⟩
  have hadded : s.allAdded = s.added := by simp [allAdded, hidle]
  have hindex : ∀ c ∈ s.completed, c.index < s.added.length := fun c hc =>
    hI.history.index_lt (List.mem_append_left _ hc)
  have hfree : vq.numFree = s.vq.numFree - (out.length + inn.length) := by
    obtain ⟨free, chains, hP⟩ := hI.flight.part
    obtain ⟨l, rest, vq', rfl, hlen, hrun', -, -, -, hP'⟩ := prepareDirect_spec hP hpos hu hroom t
    obtain rfl : vq' = vq := by
      rw [hrun'] at hrun
      exact (Prod.mk.inj (Except.ok.inj hrun)).2
    have hcount := hP.count
    rw [List.length_append] at hcount
    have := hP'.count
    omega
  have hpending : entries (s.added ++ [a]) (notCompleted (s.added ++ [a]).length s.completed) =
      entries s.added (notCompleted s.added.length s.completed) ++ [a.entry] := by
    rw [List.length_append, List.length_singleton, notCompleted_succ hindex, entries_append,
      entries_snoc a fun j => lt_of_mem_notCompleted, entries_cons (a := a) (by simp)]
    rfl
  have hused : entries (s.added ++ [a])
      ((s.completed.drop s.returned.length).map Completion.index) =
      entries s.added ((s.completed.drop s.returned.length).map Completion.index) := by
    refine entries_snoc a fun j hj => ?_
    obtain ⟨c, hc, rfl⟩ := List.mem_map.mp hj
    exact hindex c (List.mem_of_mem_drop hc)
  rw [Channel.addBuf, if_pos (show s.view.HasRoom _ from hroom)]
  apply congrArg some
  simp only [view, hadded]
  change Channel.mk _ _ _ = Channel.mk vq.numFree (entries (s.added ++ [a]) _)
    (entries (s.added ++ [a]) _)
  rw [hfree, hused]
  exact congrArg (Channel.mk _ · _) hpending.symm

/-- A published completion is used. -/
theorem Inv.view_publish (hI : Inv k s) {c : Completion} (hc : s.completing = some c) :
    ∃ i, s.view.complete i = some { s with
      vq := s.vq.withUsed { s.vq.vring.used with idx := u16 (s.vq.vring.used.idx + 1) }
      completing := none, completed := s.completed ++ [c] : Session τ }.view := by
  have hlen := hI.lengths
  have hall : s.allCompleted = s.completed ++ [c] := by simp [allCompleted, hc]
  obtain ⟨a, ha, -⟩ := hI.history.claimed_head (c := c) (by simp [hall])
  have hget : s.allAdded[c.index]? = some a := by
    rw [allAdded, List.getElem?_append_left (List.getElem?_eq_some_iff.mp ha).1, ha]
  have hnew : c.index ∉ s.completed.map Completion.index := by
    have hnd := hI.history.distinct
    rw [hall, List.map_append] at hnd
    exact fun h => (List.nodup_append.mp hnd).2.2 _ h c.index (by simp) rfl
  obtain ⟨l, m, hsplit, hsplit'⟩ :=
    notCompleted_concat (List.getElem?_eq_some_iff.mp hget).1 hnew
  refine ⟨(entries s.allAdded l).length, ?_⟩
  have hpending : s.view.pending = entries s.allAdded l ++ a.entry :: entries s.allAdded m := by
    rw [← entries_cons hget, ← entries_append, ← hsplit]
    rfl
  rw [Channel.complete_eq hpending]
  apply congrArg some
  change Channel.mk _ _ _ = Channel.mk _ (entries s.allAdded (notCompleted _ (s.completed ++ [c])))
    (entries s.allAdded (((s.completed ++ [c]).drop s.returned.length).map Completion.index))
  rw [List.drop_append_of_le_length hlen.1, List.map_append, entries_append, List.map_singleton,
    entries_cons hget]
  change Channel.mk _ _ _ = Channel.mk _ (entries s.allAdded (notCompleted s.allAdded.length _)) _
  rw [hsplit', entries_append]
  rfl

/-- The buffer of the next completion is used first. -/
theorem Inv.view_used_eq (hI : Inv k s) (hlt : s.returned.length < s.completed.length) :
    ∃ a, a.head = s.completed[s.returned.length].elem.id ∧ InFlight s.vq a ∧
      s.view.used = a.entry :: entries s.allAdded
        ((s.completed.drop (s.returned.length + 1)).map Completion.index) := by
  obtain ⟨a, -, hhead, hout⟩ := hI.nextReturned hlt
  refine ⟨a, hhead, hI.flight.inFlight _ a hout, ?_⟩
  change entries _ ((s.completed.drop s.returned.length).map Completion.index) = _
  rw [List.drop_eq_getElem_cons hlt, List.map_cons, entries_cons hout.1]

theorem Inv.view_used_ne_nil (hI : Inv k s) :
    s.view.used ≠ [] ↔ s.returned.length < s.completed.length := by
  constructor
  · intro hused
    by_contra hge
    apply hused
    simp [view, entries, List.drop_eq_nil_of_le (Nat.not_lt.mp hge)]
  · intro hlt
    obtain ⟨a, -, -, hused⟩ := hI.view_used_eq hlt
    simp [hused]

/-- A get returns the token that is used first. -/
theorem Inv.view_take (hI : Inv k s) (hk : k ≤ 15)
    (hlt : s.returned.length < s.completed.length) {r : GetResult τ} {vq : Virtqueue τ}
    (hrun : VirtIO.takeUsed s.vq = .ok (r, vq)) :
    ∃ t, r.ret = some t ∧ s.view.getBuf = some (t,
      { s with vq := vq, getting := false, returned := s.returned ++ [r] : Session τ }.view) := by
  obtain ⟨free, chains, hP⟩ := hI.flight.part
  obtain ⟨a, hhead, hflight, hused⟩ := hI.view_used_eq hlt
  have hnext := hI.nextUsed_eq hk hlt
  have htok : s.vq.data (nextUsed s.vq).id = some a.token := by
    rw [hnext, ← hhead]
    exact hflight.1
  obtain ⟨ch, chains', vq', -, hchain, -, hrun', -, hP'⟩ :=
    takeUsed_take hP (hI.counters.num_le hk) htok
  obtain ⟨rfl, rfl⟩ : ⟨some a.token, some (nextUsed s.vq).len⟩ = r ∧ vq' = vq := by
    rw [hrun'] at hrun
    exact Prod.mk.inj (Except.ok.inj hrun)
  have hfree : vq'.numFree = s.vq.numFree + a.entry.2 := by
    rw [hnext, ← hhead] at hchain
    have hlen := hflight.chain_length hchain
    have hcount := hP'.count
    have := hP.count
    rw [List.length_append] at hcount
    omega
  refine ⟨a.token, rfl, ?_⟩
  rw [Channel.getBuf, hused]
  refine congrArg some (Prod.ext rfl ?_)
  change Channel.mk _ _ _ = Channel.mk vq'.numFree _
    (entries s.allAdded ((s.completed.drop (s.returned ++ [_]).length).map Completion.index))
  rw [hfree, List.length_append]
  rfl

theorem view_not_hasRoom {out inn : List Scatterlist}
    (hu : out.length + inn.length < 4294967296) (hroom : s.vq.numFree < outPlusIn out inn) :
    ¬ s.view.HasRoom (out.length + inn.length) := by
  have htotal : outPlusIn out inn = out.length + inn.length := Nat.mod_eq_of_lt hu
  change ¬ _ ≤ s.vq.numFree
  omega

/-- An add is refused when the channel has no room, and is an add of the channel otherwise. -/
theorem Inv.view_addBuf (hI : Inv k s) (hk : k ≤ 15) {out inn : List Scatterlist} {t : τ}
    (hstep : s.step (.addBuf out inn t) = some s') :
    (s.view.addBuf t (out.length + inn.length) = none ∧ s'.view = s.view) ∨
      s.view.addBuf t (out.length + inn.length) = some s'.view := by
  simp only [Session.step] at hstep
  split_ifs at hstep with hadm hroom hout
  · have hfull := view_not_hasRoom hadm.2.2 hroom
    cases hstep
    exact Or.inl ⟨if_neg hfull, view_congr rfl rfl rfl rfl⟩
  · have hfull := view_not_hasRoom hadm.2.2 hroom
    cases hstep
    exact Or.inl ⟨if_neg hfull, rfl⟩
  · obtain ⟨⟨-, hidle, -⟩, hpos, hu⟩ := hadm
    have hnone : s.adding = none := Option.isNone_iff_eq_none.mp hidle
    have htotal : outPlusIn out inn = out.length + inn.length := Nat.mod_eq_of_lt hu
    obtain ⟨head, vq, hrun, -⟩ := hI.prepare (t := t) hk hnone hpos hu (by omega)
    rw [hrun] at hstep
    cases hstep
    exact Or.inr (hI.view_prepare hnone hpos hu (by omega) hrun)

/-- A get returns `NULL` exactly when the channel has nothing to return. -/
theorem Inv.view_getBuf (hI : Inv k s) (hk : k ≤ 15) (hstep : s.step .getBuf = some s') :
    s'.view = s.view ∧ (s'.getting = false ↔ s.view.getBuf = none) := by
  rw [Channel.getBuf_eq_none_iff]
  simp only [Session.step] at hstep
  split_ifs at hstep with hidle hnull
  · cases hstep
    have hnone : s.view.used = [] := by
      by_contra hne
      have hmore := (hI.moreUsed_iff hk).mpr (hI.view_used_ne_nil.mp hne)
      simp [hI.counters.broken, hmore] at hnull
    exact ⟨view_congr rfl rfl rfl rfl, iff_of_true hidle.2.2 hnone⟩
  · cases hstep
    have hmore : moreUsed s.vq = true := by simpa [hI.counters.broken] using hnull
    have hne := hI.view_used_ne_nil.mpr ((hI.moreUsed_iff hk).mp hmore)
    exact ⟨view_congr rfl rfl rfl rfl, iff_of_false (by simp) hne⟩

/-- **One step** of the driver or of the device is a step of the channel or is not seen. -/
theorem Inv.view_step {e : SessionEvent τ} (hI : Inv k s) (hk : k ≤ 15)
    (hstep : s.step e = some s') :
    s'.view = s.view ∨ ∃ d, s.view.step d = some s'.view := by
  cases e with
  | addBuf out inn data =>
    rcases hI.view_addBuf hk hstep with ⟨-, hsame⟩ | hadd
    · exact Or.inl hsame
    · exact Or.inr ⟨.addBuf data (out.length + inn.length), hadd⟩
  | exposeBuf =>
    cases hadding : s.adding with
    | none => simp [Session.step, hadding] at hstep
    | some a =>
      simp only [Session.step, hadding] at hstep
      cases hstep
      obtain ⟨numAdded, notified, heq⟩ := publishHead_fields s.vq
      rw [heq]
      exact Or.inl (view_congr rfl (by simp [allAdded, hadding]) rfl rfl)
  | getBuf => exact Or.inl (hI.view_getBuf hk hstep).1
  | takeUsed =>
    simp only [Session.step] at hstep
    split_ifs at hstep with hget
    have hlt := hI.history.getting hget
    obtain ⟨r, vq, hrun, hsome, -⟩ := hI.take hk hlt
    obtain ⟨t, -, hview⟩ := hI.view_take hk hlt hrun
    rw [hrun] at hstep
    cases hstep
    unfold answer
    rw [if_pos hsome]
    refine Or.inr ⟨.getBuf, ?_⟩
    rw [Channel.step, hview]
    rfl
  | deviceTake =>
    simp only [Session.step] at hstep
    split_ifs at hstep
    cases hstep
    exact Or.inl (view_congr rfl rfl rfl rfl)
  | deviceWrite index len =>
    simp only [Session.step] at hstep
    split_ifs at hstep
    cases hid : s.taken[index]? with
    | none => simp [hid] at hstep
    | some id =>
      rw [hid] at hstep
      cases hstep
      exact Or.inl (view_congr rfl rfl rfl rfl)
  | devicePublish =>
    cases hc : s.completing with
    | none => simp [Session.step, hc] at hstep
    | some c =>
      simp only [Session.step, hc] at hstep
      cases hstep
      obtain ⟨i, hi⟩ := hI.view_publish hc
      exact Or.inr ⟨.complete i, hi⟩
  | deviceFlags flags availEvent =>
    simp only [Session.step] at hstep
    cases hstep
    exact Or.inl (view_congr rfl rfl rfl rfl)

/-! ## Runs -/

section Runs

variable {index notified : Nat} {event : Bool} {indirect : Nat → List VringDesc}
  {vq : Virtqueue τ} (hk : k ≤ 15)
  (hnew : vringNewVirtqueue index event notified (Vring.zeroed (2 ^ k) indirect) = .ok (some vq))

include hk hnew

theorem view_start : (start vq).view = .new (2 ^ k) := by
  obtain ⟨hP, -⟩ := vringNewVirtqueue_fresh hk hnew
  have hfree : vq.numFree = 2 ^ k := by
    rw [← hP.count, List.length_range]
  rw [Channel.new, ← hfree]
  rfl

/-- The channel simulates the sessions on a fresh ring. -/
theorem simulates_channel :
    Simulates (system vq) (Channel.system (2 ^ k)) fun s ch => Inv k s ∧ s.view = ch where
  init := ⟨inv_start hk hnew, view_start hk hnew⟩
  step s e s' ch := by
    rintro ⟨hI, rfl⟩ hstep
    have hI' := hI.step hk hstep
    rcases hI.view_step hk hstep with hsame | ⟨d, hd⟩
    · exact Or.inl ⟨hI', hsame⟩
    · exact Or.inr ⟨d, s'.view, hd, hI', rfl⟩

/-- **A session is seen as a state of the channel** in every run. -/
theorem view_reachable {s : Session τ} (hs : (system vq).Reachable s) :
    (Channel.system (2 ^ k)).Reachable s.view := by
  obtain ⟨ch, hch, -, rfl⟩ := (simulates_channel hk hnew).reachable hs
  exact hch

/-- **No descriptor is lost**: those that are free and those of the outstanding buffers make
up the ring. -/
theorem numFree_add_inUse {s : Session τ} (hs : (system vq).Reachable s) :
    s.vq.numFree + s.view.inUse = 2 ^ k := Channel.room (view_reachable hk hnew hs)

end Runs

end Session

end VioGpu.VirtIO
