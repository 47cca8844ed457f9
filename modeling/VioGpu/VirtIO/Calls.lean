import VioGpu.VirtIO.Partition

/-!
# The calls of the ring driver

One theorem for each function a user of the ring calls: on a partitioned ring it ends, it
stays inside its arrays, and it leaves the ring partitioned (`virtqueueAddBuf_spec`,
`virtqueueGetBuf_spec`, `virtqueueDetachUnusedBuf_spec`, `initializeVirtqueue_spec`). A call
that refuses its work (no room for the buffer, a used entry that names no head) changes
nothing the ring is made of.
-/

namespace VioGpu.VirtIO

open Lib Virtqueue

variable {τ : Type} {vq : Virtqueue τ} {free : List Nat} {chains : List (List Nat)}

/-! ## Adding -/

theorem virtqueueKick_fields (vq : Virtqueue τ) :
    ∃ notified, virtqueueKick vq = { vq with numAdded := 0, notified := notified } := by
  have hkick : virtqueueKick vq = if (virtqueueKickPrepare vq).1 then
      virtqueueNotify { vq with numAdded := 0 } else { vq with numAdded := 0 } := rfl
  rw [hkick]
  split
  · exact ⟨vq.notified + 1, rfl⟩
  · exact ⟨vq.notified, rfl⟩

/-- Exposing a head changes the two copies of `avail->idx` and the notification counters. -/
theorem publishHead_fields (vq : Virtqueue τ) :
    ∃ numAdded notified, publishHead vq =
      { vq.writeAvailIdx (u16 (vq.availIdxShadow + 1)) with
        availIdxShadow := u16 (vq.availIdxShadow + 1)
        numAdded := numAdded, notified := notified } := by
  unfold publishHead
  dsimp only
  split_ifs
  · obtain ⟨n, hn⟩ := virtqueueKick_fields { vq.writeAvailIdx (u16 (vq.availIdxShadow + 1)) with
      availIdxShadow := u16 (vq.availIdxShadow + 1), numAdded := vq.numAdded + 1 }
    exact ⟨0, n, hn⟩
  · exact ⟨vq.numAdded + 1, vq.notified, rfl⟩

/-- Exposing a head leaves the descriptors and the tokens as they are. -/
theorem publishHead_sameDescs (vq : Virtqueue τ) : SameDescs vq (publishHead vq) := by
  obtain ⟨numAdded, notified, heq⟩ := publishHead_fields vq
  rw [heq]
  exact ⟨rfl, rfl, rfl, rfl, rfl⟩

/-- The code at `add_head:` on a head of the ring, once the descriptors of `l` have been
written. -/
theorem prepareHead_spec (vq : Virtqueue τ) (desc' : Nat → VringDesc)
    (indirect : Nat → List VringDesc) (numFree freeHead : Nat) {h : Nat} {l : List Nat}
    (hh : h < vq.vring.num) (t : τ) (hoff : ∀ x, x ∉ l → desc' x = vq.vring.desc x) :
    ∃ vq', prepareHead { vq with
        vring := { vq.vring with desc := desc', indirect := indirect }
        numFree := numFree, freeHead := freeHead } h t = .ok vq' ∧
      Prepared vq vq' h l t ∧ vq'.vring.desc = desc' ∧ vq'.numFree = numFree ∧
      vq'.freeHead = freeHead := by
  have hslot : vq.availIdxShadow &&& (vq.vring.num - 1) < vq.vring.num := by
    have : vq.availIdxShadow &&& (vq.vring.num - 1) ≤ vq.vring.num - 1 := Nat.and_le_right
    omega
  let ring := fun j =>
    if j = vq.availIdxShadow &&& (vq.vring.num - 1) then u16 h else vq.vring.avail.ring j
  refine ⟨{ vq with
    vring := { vq.vring with
      desc := desc', indirect := indirect, avail := { vq.vring.avail with ring := ring } }
    data := fun j => if j = h then some t else vq.data j
    numFree := numFree, freeHead := freeHead }, ?_,
    ⟨rfl, hoff, rfl, rfl, rfl, rfl, rfl, rfl, rfl⟩, rfl, rfl, rfl⟩
  unfold prepareHead writeData writeAvail
  rw [if_pos (by exact hh), ok_bind]
  dsimp only
  rw [if_pos hslot]

/-- **Adding on the direct path.** With room for the buffer, as many descriptors as it has
elements are taken from the free list and become a chain that holds these elements. -/
theorem prepareDirect_spec {out inn : List Scatterlist} (hP : Partition vq free chains)
    (hpos : 0 < out.length + inn.length) (hu : out.length + inn.length < 4294967296)
    (hroom : out.length + inn.length ≤ vq.numFree) (t : τ) :
    ∃ l rest vq', free = l ++ rest ∧ l.length = out.length + inn.length ∧
      prepareDirect vq out inn t = .ok (vq.freeHead, vq') ∧
      Prepared vq vq' vq.freeHead l t ∧ IsChain vq'.vring.desc vq.freeHead l ∧
      List.Forall₂ (fun x e => DescHolds (vq'.vring.desc x) e) l (sgElems out inn) ∧
      Partition vq' rest (l :: chains) := by
  have htotal : outPlusIn out inn = out.length + inn.length := Nat.mod_eq_of_lt hu
  obtain ⟨l, rest, rfl, hlen⟩ : ∃ l rest, free = l ++ rest ∧
      l.length = out.length + inn.length :=
    ⟨free.take (out.length + inn.length), free.drop (out.length + inn.length), by simp,
      by rw [List.length_take, hP.count]; omega⟩
  obtain ⟨stop, hstop, hwalk⟩ := hP.walk
  obtain ⟨j, hl, hrest⟩ := follows_append.mp hwalk
  have hlt : ∀ x ∈ l, x < vq.vring.num := fun x hx => hP.lt_of_mem (by simp [hx])
  obtain ⟨desc', hrun, hoff, hchain, hholds⟩ := addDirect_spec out inn hl hlen
    (by rintro rfl; simp at hlen; omega)
    (List.nodup_append.mp (List.nodup_append.mp hP.nodup).1).1 hlt
  obtain ⟨vq', hprep, hE, hdesc, hfree, hhead⟩ :=
    prepareHead_spec vq desc' vq.vring.indirect (vq.numFree - outPlusIn out inn) j hP.freeHead_lt
      t hoff
  have hprep' : prepareHead { vq.withDesc desc' with
      numFree := vq.numFree - outPlusIn out inn, freeHead := j } vq.freeHead t = .ok vq' := hprep
  refine ⟨l, rest, vq', rfl, hlen, ?_, hE, ?_, ?_, ?_⟩
  · rw [prepareDirect, hrun, ok_bind]
    dsimp only
    rw [hprep', ok_bind]
    rfl
  · rw [hdesc]
    exact hchain
  · rw [hdesc]
    exact hholds
  · refine hP.prepare (by rw [hdesc]; exact hchain) hE ⟨stop, hstop, ?_⟩ ?_
    · rw [hhead]
      exact hrest
    · rw [hfree, hlen, ← htotal]

/-- **Adding with an indirect table.** The whole buffer takes one descriptor. -/
theorem prepareIndirect_spec (out inn : List Scatterlist) (hP : Partition vq free chains)
    (hroom : vq.numFree ≠ 0) (t : τ) (phys : Nat) :
    ∃ l rest vq', free = l ++ rest ∧
      prepareIndirect vq out inn t phys = .ok (vq.freeHead, vq') ∧
      Prepared vq vq' vq.freeHead l t ∧ Partition vq' rest (l :: chains) := by
  obtain ⟨x, rest, rfl⟩ : ∃ x rest, free = x :: rest := by
    cases free with
    | nil => exact absurd hP.count.symm hroom
    | cons x rest => exact ⟨x, rest, rfl⟩
  obtain ⟨stop, hstop, rfl, hrest⟩ := hP.walk
  have hx : vq.freeHead < vq.vring.num := hP.freeHead_lt
  let table := indirectTable out inn
  let d : VringDesc := { vq.vring.desc vq.freeHead with
    flags := vringDescFIndirect, addr := phys, len := u32 (table.length * 16) }
  let desc' := fun j => if j = vq.freeHead then d else vq.vring.desc j
  let indirect := fun p => if p = phys then table else vq.vring.indirect p
  have hrun : vringAddIndirect vq out inn phys = .ok (vq.freeHead, { vq with
      vring := { vq.vring with desc := desc', indirect := indirect }
      numFree := vq.numFree - 1, freeHead := (vq.vring.desc vq.freeHead).next }) := by
    unfold vringAddIndirect
    dsimp only
    rw [modifyDesc_of_lt (by exact hx), ok_bind, readDesc_of_lt (by exact hx), ok_bind]
    simp only [pure_eq_ok, withDesc_desc, if_true]
    rfl
  obtain ⟨vq', hprep, hE, hdesc, hfree, hhead⟩ :=
    prepareHead_spec vq desc' indirect (vq.numFree - 1) (vq.vring.desc vq.freeHead).next
      (l := [vq.freeHead]) hx t fun y hy => if_neg (by simpa using hy)
  have hflag : ¬ (desc' vq.freeHead).hasNext := by
    rw [show desc' vq.freeHead = d from if_pos rfl]
    exact show ¬ (vringDescFIndirect &&& vringDescFNext ≠ 0) by decide
  refine ⟨[vq.freeHead], rest, vq', rfl, ?_, hE, ?_⟩
  · rw [prepareIndirect, hrun, ok_bind]
    dsimp only
    rw [hprep, ok_bind]
    rfl
  · refine Partition.prepare (l := [vq.freeHead]) hP
      ⟨[], vq.freeHead, rfl, rfl, by simp, by rw [hdesc]; exact hflag⟩ hE ⟨stop, hstop, ?_⟩ ?_
    · rw [hhead]
      exact hrest
    · rw [hfree]
      rfl

/-- **`virtqueue_add_buf`.** Either there is no room and only the notification counter may
change, or a chain from the front of the free list is prepared and exposed. -/
theorem virtqueueAddBuf_spec {out inn : List Scatterlist} (hP : Partition vq free chains)
    (hpos : 0 < out.length + inn.length) (hu : out.length + inn.length < 4294967296) (t : τ)
    (indirect : Option Nat) :
    (∃ n, virtqueueAddBuf vq out inn t indirect = .ok (.enospc, { vq with notified := n })) ∨
      ∃ l rest vq', free = l ++ rest ∧
        virtqueueAddBuf vq out inn t indirect = .ok (.ok, publishHead vq') ∧
        Prepared vq vq' vq.freeHead l t ∧ Partition vq' rest (l :: chains) := by
  have hdirect : (∃ n, addDirectBuf vq out inn t = .ok (.enospc, { vq with notified := n })) ∨
      ∃ l rest vq', free = l ++ rest ∧ addDirectBuf vq out inn t = .ok (.ok, publishHead vq') ∧
        Prepared vq vq' vq.freeHead l t ∧ Partition vq' rest (l :: chains) := by
    have htotal : outPlusIn out inn = out.length + inn.length := Nat.mod_eq_of_lt hu
    by_cases hroom : out.length + inn.length ≤ vq.numFree
    · obtain ⟨l, rest, vq', hf, -, hrun, hE, -, -, hP'⟩ := prepareDirect_spec hP hpos hu hroom t
      refine Or.inr ⟨l, rest, vq', hf, ?_, hE, hP'⟩
      rw [addDirectBuf, if_neg (by omega), hrun]
      rfl
    · rw [addDirectBuf, if_pos (by omega)]
      by_cases hout : out.length ≠ 0
      · exact Or.inl ⟨vq.notified + 1, by rw [if_pos hout]; rfl⟩
      · exact Or.inl ⟨vq.notified, by rw [if_neg hout]; rfl⟩
  cases indirect with
  | none => exact hdirect
  | some phys =>
    unfold virtqueueAddBuf
    by_cases hind : 1 < outPlusIn out inn ∧ vq.numFree ≠ 0
    · obtain ⟨l, rest, vq', hf, hrun, hE, hP'⟩ := prepareIndirect_spec out inn hP hind.2 t phys
      refine Or.inr ⟨l, rest, vq', hf, ?_, hE, hP'⟩
      dsimp only
      rw [if_pos hind, hrun]
      rfl
    · dsimp only
      rw [if_neg hind]
      exact hdirect

/-! ## Taking back -/

theorem advanceUsed_fields (vq : Virtqueue τ) :
    ∃ usedEvent, advanceUsed vq = { vq.writeUsedEvent usedEvent with
      lastUsedIdx := u16 (vq.lastUsedIdx + 1) } := by
  unfold advanceUsed
  dsimp only
  split
  · exact ⟨u16 (vq.lastUsedIdx + 1), rfl⟩
  · exact ⟨vq.vring.avail.usedEvent, rfl⟩

/-- What `virtqueue_get_buf` leaves as it is when it returns the token of `h`. -/
structure Taken (vq vq' : Virtqueue τ) (h : Nat) (c : List Nat) : Prop
    extends Detached vq vq' h c where
  lastUsed : vq'.lastUsedIdx = u16 (vq.lastUsedIdx + 1)
  shadow : vq'.availIdxShadow = vq.availIdxShadow
  idx : vq'.vring.avail.idx = vq.vring.avail.idx
  ring : vq'.vring.avail.ring = vq.vring.avail.ring
  used : vq'.vring.used = vq.vring.used
  broken : vq'.broken = vq.broken

/-- The used entry `virtqueue_get_buf` reads next. -/
def nextUsed (vq : Virtqueue τ) : VringUsedElem :=
  vq.vring.used.ring (vq.lastUsedIdx &&& (vq.vring.num - 1))

/-- The read of the next used entry stays inside the used ring. -/
theorem takeUsed_eq (hpos : 0 < vq.vring.num) :
    takeUsed vq =
      if vq.vring.num ≤ (nextUsed vq).id then .ok (⟨none, some (nextUsed vq).len⟩, vq)
      else match vq.data (nextUsed vq).id with
        | none => .ok (⟨none, some (nextUsed vq).len⟩, vq)
        | some ret => detachBuf vq (nextUsed vq).id >>= fun vq' =>
          .ok (⟨some ret, some (nextUsed vq).len⟩, advanceUsed vq') := by
  have hslot : vq.lastUsedIdx &&& (vq.vring.num - 1) < vq.vring.num := by
    have : vq.lastUsedIdx &&& (vq.vring.num - 1) ≤ vq.vring.num - 1 := Nat.and_le_right
    omega
  have hread : vq.readUsed (vq.lastUsedIdx &&& (vq.vring.num - 1)) = .ok (nextUsed vq) :=
    if_pos hslot
  unfold takeUsed
  dsimp only
  rw [hread, ok_bind]
  by_cases hid : vq.vring.num ≤ (nextUsed vq).id
  · rw [if_pos hid, if_pos hid]
    rfl
  · have hdata : vq.readData (nextUsed vq).id = .ok (vq.data (nextUsed vq).id) :=
      if_pos (by omega)
    rw [if_neg hid, if_neg hid, hdata, ok_bind]
    rfl

/-- **Getting a buffer.** When the next used entry names a head with a token, that token is
returned with the entry's length and the chain of the head becomes free. -/
theorem takeUsed_take (hP : Partition vq free chains) (hnum : vq.vring.num ≤ 32768)
    {t : τ} (ht : vq.data (nextUsed vq).id = some t) :
    ∃ c chains' vq', c ∈ chains ∧ IsChain vq.vring.desc (nextUsed vq).id c ∧
      chains.Perm (c :: chains') ∧
      takeUsed vq = .ok (⟨some t, some (nextUsed vq).len⟩, vq') ∧
      Taken vq vq' (nextUsed vq).id c ∧ Partition vq' (c ++ free) chains' := by
  obtain ⟨c, hc, hch⟩ := hP.token _ _ ht
  obtain ⟨desc', chains', hperm, hrun, hD, hP'⟩ := hP.detach hnum hc hch
  have hid : (nextUsed vq).id < vq.vring.num := hP.lt_of_chain hc hch.head_mem
  obtain ⟨usedEvent, hadv⟩ := advanceUsed_fields { vq.withDesc desc' with
    data := fun j => if j = (nextUsed vq).id then none else vq.data j
    freeHead := (nextUsed vq).id, numFree := vq.numFree + c.length }
  let vq₁ : Virtqueue τ := { vq.withDesc desc' with
    data := fun j => if j = (nextUsed vq).id then none else vq.data j
    freeHead := (nextUsed vq).id, numFree := vq.numFree + c.length }
  let vq₂ : Virtqueue τ :=
    { vq₁.writeUsedEvent usedEvent with lastUsedIdx := u16 (vq.lastUsedIdx + 1) }
  refine ⟨c, chains', vq₂, hc, hch, hperm, ?_,
    ⟨⟨hD.num, hD.desc, hD.data⟩, rfl, rfl, rfl, rfl, rfl, rfl⟩,
    ⟨hP'.walk, hP'.count, hP'.chain, hP'.token, hP'.cover⟩⟩
  rw [takeUsed_eq (by omega), if_neg (by omega), ht]
  dsimp only
  rw [hrun, ok_bind]
  exact congrArg (fun q => Except.ok (_, q)) hadv

/-- Whatever the next used entry holds, either nothing changes and `NULL` is returned, or the
token of a head is returned and its chain becomes free. -/
theorem takeUsed_spec (hP : Partition vq free chains) (hnum : vq.vring.num ≤ 32768) :
    (∃ len, takeUsed vq = .ok (⟨none, len⟩, vq)) ∨
      ∃ h t len c chains' vq', takeUsed vq = .ok (⟨some t, some len⟩, vq') ∧
        Taken vq vq' h c ∧ Partition vq' (c ++ free) chains' := by
  cases ht : vq.data (nextUsed vq).id with
  | some t =>
    obtain ⟨c, chains', vq', -, -, -, hrun, hT, hP'⟩ := takeUsed_take hP hnum ht
    exact Or.inr ⟨_, t, _, c, chains', vq', hrun, hT, hP'⟩
  | none =>
    refine Or.inl ⟨some (nextUsed vq).len, ?_⟩
    have hpos := hP.freeHead_lt
    rw [takeUsed_eq (by omega), ht]
    split_ifs <;> rfl

/-- **`virtqueue_get_buf`** refuses with `NULL` and changes nothing, or takes a used entry. -/
theorem virtqueueGetBuf_spec (hP : Partition vq free chains) (hnum : vq.vring.num ≤ 32768) :
    (∃ len, virtqueueGetBuf vq = .ok (⟨none, len⟩, vq)) ∨
      ∃ h t len c chains' vq', virtqueueGetBuf vq = .ok (⟨some t, some len⟩, vq') ∧
        Taken vq vq' h c ∧ Partition vq' (c ++ free) chains' := by
  unfold virtqueueGetBuf
  split_ifs
  · exact Or.inl ⟨none, rfl⟩
  · exact Or.inl ⟨none, rfl⟩
  · exact takeUsed_spec hP hnum

/-- **`virtqueue_detach_unused_buf`.** A head with a token, if there is one, gives its
descriptors back. -/
theorem virtqueueDetachUnusedBuf_spec (hP : Partition vq free chains)
    (hnum : vq.vring.num ≤ 32768) :
    virtqueueDetachUnusedBuf vq = .ok (none, vq) ∨
      ∃ t c chains' vq', virtqueueDetachUnusedBuf vq = .ok (some t, vq') ∧
        vq'.vring.num = vq.vring.num ∧ Partition vq' (c ++ free) chains' := by
  unfold virtqueueDetachUnusedBuf
  cases hfind : (List.range vq.vring.num).find? fun i => (vq.data i).isSome with
  | none => exact Or.inl rfl
  | some h =>
    have hsome : (vq.data h).isSome = true := by simpa using List.find?_some hfind
    obtain ⟨t, ht⟩ := Option.isSome_iff_exists.mp hsome
    obtain ⟨c, hc, hch⟩ := hP.token h t ht
    obtain ⟨desc', chains', -, hrun, -, hP'⟩ := hP.detach hnum hc hch
    let vq₁ : Virtqueue τ := { vq.withDesc desc' with
      data := fun j => if j = h then none else vq.data j
      freeHead := h, numFree := vq.numFree + c.length }
    let idx := sub16 vq.availIdxShadow 1
    refine Or.inr ⟨t, c, chains', { vq₁ with availIdxShadow := idx }.writeAvailIdx idx, ?_, rfl,
      ⟨hP'.walk, hP'.count, hP'.chain, hP'.token, hP'.cover⟩⟩
    dsimp only
    rw [hrun, ok_bind, ht]
    rfl

/-! ## Initialization -/

theorem writeData_none {vq : Virtqueue τ} {i : Nat} (hi : i < vq.vring.num)
    (hdata : vq.data = fun _ => none) : vq.writeData i none = .ok vq := by
  have hsame : (fun j => if j = i then none else vq.data j) = vq.data := by
    ext j : 1
    simp [hdata]
  unfold writeData
  rw [if_pos hi, hsame]

/-- The loop of `initialize_virtqueue` ends at `num - 1` with every descriptor before it
linked to the next one. -/
theorem linkFree_spec (vq : Virtqueue τ) (fuel : Nat) {num i : Nat} (hnum : vq.vring.num = num)
    (hle : num ≤ 32768) (hi : i < num) (hfuel : num ≤ i + fuel)
    (hdata : vq.data = fun _ => none) :
    ∃ desc', linkFree num fuel i vq = .ok (num - 1, vq.withDesc desc') ∧
      (∀ x, i ≤ x → x < num - 1 → (desc' x).next = x + 1) ∧
      (∀ x, x < i ∨ num - 1 ≤ x → desc' x = vq.vring.desc x) := by
  have hbound : sub32 num 1 = num - 1 := by unfold sub32; omega
  induction fuel generalizing vq i with
  | zero => omega
  | succ fuel ih =>
    rw [linkFree, hbound]
    by_cases hlast : i < num - 1
    · have hlt : i < vq.vring.num := by omega
      have hu : u16 (i + 1) = i + 1 := Nat.mod_eq_of_lt (by omega)
      let desc₁ := fun j => if j = i then { vq.vring.desc i with next := u16 (i + 1) }
        else vq.vring.desc j
      have hwrite : (vq.withDesc desc₁).writeData i none = .ok (vq.withDesc desc₁) :=
        writeData_none hlt hdata
      rw [if_pos hlast, modifyDesc_of_lt hlt, ok_bind, hwrite, ok_bind, hu]
      obtain ⟨desc', hrun, hin, hout⟩ :=
        ih (vq.withDesc desc₁) (i := i + 1) hnum (by omega) (by omega) hdata
      refine ⟨desc', hrun, fun x hx hlt => ?_, fun x hx => ?_⟩
      · by_cases hxi : x = i
        · rw [hout x (by omega)]
          simp [desc₁, hxi, hu]
        · exact hin x (by omega) hlt
      · have hne : x ≠ i := by omega
        rw [hout x (by omega)]
        simp [desc₁, hne]
    · rw [if_neg hlast]
      refine ⟨vq.vring.desc, ?_, fun x hx hlt => by omega, fun _ _ => rfl⟩
      rw [show i = num - 1 by omega]
      rfl

/-- **`initialize_virtqueue`** puts every descriptor on the free list. The last one keeps
the link the pages hold, which is in range for zeroed pages. -/
theorem initializeVirtqueue_spec (index : Nat) (event : Bool) (notified : Nat) (pages : Vring)
    (hpos : 0 < pages.num) (hle : pages.num ≤ 32768)
    (hstale : (pages.desc (pages.num - 1)).next < pages.num) :
    ∃ vq : Virtqueue τ, initializeVirtqueue index event notified pages = .ok vq ∧
      Partition vq (List.range pages.num) [] ∧ vq.vring.num = pages.num ∧
      vq.vring.avail = pages.avail ∧ vq.vring.used = pages.used ∧ vq.data = (fun _ => none) ∧
      vq.availIdxShadow = 0 ∧ vq.lastUsedIdx = 0 ∧ vq.broken = false := by
  let vq₀ : Virtqueue τ :=
    { vring := pages, index, numFree := pages.num, broken := false, event, freeHead := 0,
      numAdded := 0, lastUsedIdx := 0, availFlagsShadow := 0, availIdxShadow := 0,
      data := fun _ => none, notified }
  obtain ⟨desc', hrun, hin, hout⟩ := linkFree_spec vq₀ (pages.num + 1) (i := 0)
    (show vq₀.vring.num = pages.num from rfl) hle hpos (by omega) rfl
  have hwrite : (vq₀.withDesc desc').writeData (pages.num - 1) none = .ok (vq₀.withDesc desc') :=
    writeData_none (show pages.num - 1 < pages.num by omega) rfl
  refine ⟨vq₀.withDesc desc', ?_, ⟨?_, ?_, ?_, ?_, ?_⟩, rfl, rfl, rfl, rfl, rfl, rfl, rfl⟩
  · unfold initializeVirtqueue
    dsimp only
    rw [hrun, ok_bind]
    exact hwrite
  · refine ⟨(pages.desc (pages.num - 1)).next, hstale, ?_⟩
    obtain ⟨n, hn⟩ : ∃ n, pages.num = n + 1 := ⟨pages.num - 1, by omega⟩
    rw [hn, List.range_succ, follows_snoc, List.range_eq_range']
    refine ⟨?_, ?_⟩
    · have hw := follows_range' (fun i => (desc' i).next) (a := 0) (n := n)
        fun k _ hk => hin k (Nat.zero_le k) (by omega)
      rwa [Nat.zero_add] at hw
    · change (desc' n).next = _
      rw [hout n (by omega)]
      rfl
  · simp [vq₀, withDesc]
  · simp
  · intro h t ht
    cases ht
  · simp [vq₀]

/-- `virtqueue_shutdown` leaves an empty ring of the same size. -/
theorem virtqueueShutdown_spec (vq : Virtqueue τ) (hpos : 0 < vq.vring.num)
    (hle : vq.vring.num ≤ 32768) :
    ∃ vq' : Virtqueue τ, virtqueueShutdown vq = .ok vq' ∧
      Partition vq' (List.range vq.vring.num) [] ∧ vq'.vring.num = vq.vring.num := by
  obtain ⟨vq', hrun, hP, hnum, -⟩ := initializeVirtqueue_spec (τ := τ) vq.index vq.event
    vq.notified (Vring.zeroed vq.vring.num vq.vring.indirect) hpos hle hpos
  exact ⟨vq', hrun, hP, hnum⟩

end VioGpu.VirtIO
