import VioGpu.Queue.Delivery
import VioGpu.VirtIO.Outstanding

/-!
# The device gets the commands, and the driver the answers

Each outstanding vbuffer has its bytes to itself (`Apart`), its elements stand for them, the
readable ones hold the command, and the others what the device has stored (`Delivered`). Steps on
the ring leave the memory alone, a command is written where no other vbuffer is, and the device
stores through the chain of a head it has taken, which leads to the response of that vbuffer.

So what the device reads for a head that it has taken is the command that was queued, in the order
of the queue (`command_received`), and when the driver gets a vbuffer back it finds the answer to
that command in it (`answer_returned`).
-/

namespace VioGpu.Queue

open Lib VirtIO

/-! ## Chains -/

section Chains

variable {desc : Nat → VringDesc}

/-- The device finds the chain. -/
theorem walkChain_of_isChain {head fuel : Nat} {c : List Nat} (h : IsChain desc head c)
    (hfuel : c.length ≤ fuel) : walkChain desc fuel head = some (c.map desc) := by
  obtain ⟨body, last, rfl, hfollows, hnext, hlast⟩ := h
  induction body generalizing head fuel with
  | nil =>
    obtain rfl : head = last := hfollows
    obtain ⟨fuel, rfl⟩ := Nat.exists_eq_add_of_le' hfuel
    exact if_neg hlast
  | cons x body ih =>
    obtain ⟨rfl, hfollows⟩ := hfollows
    obtain ⟨fuel, rfl⟩ := Nat.exists_eq_add_of_le' (Nat.le_of_add_left_le hfuel)
    have hrest : walkChain desc fuel (desc x).next = some ((body ++ [last]).map desc) :=
      ih (Nat.le_of_succ_le_succ hfuel) hfollows fun y hy => hnext y (List.mem_cons_of_mem x hy)
    rw [walkChain, if_pos (hnext x List.mem_cons_self), hrest]
    rfl

/-- The bytes behind descriptors that hold these elements. -/
theorem descBytes_of_holds (write : Bool) {c : List Nat} {elems : List (Scatterlist × Bool)}
    (h : List.Forall₂ (fun x e => DescHolds (desc x) e) c elems) :
    descBytes write (c.map desc) =
      elems.flatMap fun e => if e.2 = write then elementBytes e.1 else [] := by
  induction h with
  | nil => rfl
  | @cons x e c elems hx _ ih =>
    obtain ⟨haddr, hlen, hflags, -⟩ := hx
    have hwrite : decide ((desc x).flags &&& vringDescFWrite ≠ 0) = e.2 := by
      rw [Bool.eq_iff_iff, decide_eq_true_iff]
      exact hflags
    rw [descBytes] at ih ⊢
    rw [List.map_cons, List.flatMap_cons, List.flatMap_cons, ih, hwrite, haddr, hlen]

theorem sgElems_bytes (write : Bool) (out inn : List Scatterlist) :
    ((sgElems out inn).flatMap fun e => if e.2 = write then elementBytes e.1 else []) =
      (if write then inn else out).flatMap elementBytes := by
  cases write <;> simp [sgElems, List.flatMap_map]

end Chains

/-- **The chain of an outstanding buffer** leads to the bytes of its elements. -/
theorem chainBytes_of_outstanding {τ : Type} {s : Session τ} (hflight : s.Flight) {j : Nat}
    {a : AddedBuf τ} (h : s.Outstanding j a) (write : Bool) :
    chainBytes s.vq write a.head = some ((if write then a.inn else a.out).flatMap elementBytes) := by
  obtain ⟨free, chains, hP⟩ := hflight.part
  have hinflight := hflight.inFlight j a h
  obtain ⟨c, hchain, hholds⟩ := hinflight.2
  have hlength := hP.chain_length_le (hinflight.chain_mem hP hchain)
  rw [chainBytes, walkChain_of_isChain hchain hlength]
  change some (descBytes write (c.map s.vq.vring.desc)) = _
  rw [descBytes_of_holds write hholds, sgElems_bytes]

/-! ## Elements -/

namespace AddressSpace

variable {m : AddressSpace}

/-- What `QueueBufferLocked` makes of a proper vbuffer. -/
theorem queueBufferLocked_elements {p : PlacedVBuffer} (h : p.Proper m) : ∃ a,
    m.queueBufferLocked (dataPages p.vbuf.dataSize) p = .ok a ∧
      a.out.flatMap elementBytes = p.outBytes m ∧ a.inn.flatMap elementBytes = p.respBytes m := by
  obtain ⟨a₀, hbuilt, hout₀, hcnt₀, hin₀⟩ := command_built h
  have hroom := room_of_proper h
  obtain ⟨a₁, es, hloop, hout₁, hes, hcnt₁, hin₁⟩ :=
    dataLoop_standFor rfl h.valid.2.1 h.data (a := a₀.countOut) (by omega) hin₀
  rw [hcnt₀] at hcnt₁
  obtain ⟨a, hresp, hout, hinn⟩ := response_built h hin₁ (by rwa [hcnt₁])
  refine ⟨a, ?_, ?_, hinn.bytes⟩
  · rw [queueBufferLocked, hbuilt]
    simp only [ok_bind, if_true, queueData_eq, hloop _ (Nat.le_refl _)]
    exact hresp
  · have hcmd := StandFor.single (m := m) h.size_pos h.buf
    rw [hout, hout₁, hout₀, List.flatMap_append, hcmd.bytes, hes.bytes]
    rfl

theorem length_bytes (va size : Nat) : (m.bytes va size).length = size := by
  rw [bytes, List.length_map, List.length_range]

end AddressSpace

/-! ## The invariant -/

namespace Delivery

variable {m : AddressSpace} {k : Nat} {s s' : Delivery}

/-- The vbuffer of the command number `j` is as it should be. -/
structure Delivered (m : AddressSpace) (s : Delivery) (j : Nat) (a : AddedBuf PlacedVBuffer) :
    Prop where
  out : a.out.flatMap elementBytes = a.token.outBytes m
  inn : a.inn.flatMap elementBytes = a.token.respBytes m
  nodup : (a.token.footprint m).Nodup
  command : ∃ c, a.token.vbuf.Carries c ∧ (a.token.outBytes m).map s.memory = c.wire
  answer : (a.token.respBytes m).map s.memory =
    (List.range a.token.vbuf.respSize).map (s.answers j)

structure Inv (m : AddressSpace) (k : Nat) (s : Delivery) : Prop where
  session : s.session.Inv k
  delivered : ∀ j a, s.session.Outstanding j a → Delivered m s j a
  apart : ∀ i j a b, s.session.Outstanding i a → s.session.Outstanding j b → i ≠ j →
    (a.token.footprint m).Disjoint (b.token.footprint m)

/-- A vbuffer whose memory stays. -/
theorem Delivered.congr {j : Nat} {a : AddedBuf PlacedVBuffer} (h : Delivered m s j a)
    (hmemory : (a.token.footprint m).map s'.memory = (a.token.footprint m).map s.memory)
    (hanswers : s'.answers j = s.answers j) : Delivered m s' j a := by
  rw [PlacedVBuffer.footprint, List.map_append, List.map_append] at hmemory
  obtain ⟨hout, hresp⟩ := List.append_inj hmemory (by rw [List.length_map, List.length_map])
  refine ⟨h.out, h.inn, h.nodup, ?_, ?_⟩
  · rw [hout]
    exact h.command
  · rw [hresp, hanswers]
    exact h.answer

/-! ## A command is queued -/

theorem length_outBytes {p : PlacedVBuffer} {c : Command} (h : p.vbuf.Carries c) :
    (p.outBytes m).length = c.wire.length := by
  obtain ⟨-, hsize, hdata⟩ := h
  rw [PlacedVBuffer.outBytes, List.length_append, AddressSpace.length_bytes,
    AddressSpace.length_bytes, Command.wire, List.length_append, Command.length_bytes, hsize, hdata]

theorem queueBuffer_memory {p : PlacedVBuffer} {c : Command} {session : Session PlacedVBuffer}
    {places : List Nat} (h : (p.footprint m).Disjoint places) :
    places.map (s.queueBuffer m p c session).memory = places.map s.memory :=
  map_scatter_of_disjoint s.memory c.wire (List.disjoint_of_disjoint_append_left_left h)

theorem queueBuffer_answers_self {p : PlacedVBuffer} {c : Command}
    {session : Session PlacedVBuffer} :
    (s.queueBuffer m p c session).answers s.session.added.length = fun i =>
      scatter s.memory (p.outBytes m) c.wire (m.mmGetPhysicalAddress (p.respBuf + i)) :=
  Function.update_self ..

/-- The vbuffer that is queued. -/
theorem delivered_queueBuffer {p : PlacedVBuffer} {c : Command} {session : Session PlacedVBuffer}
    (hcarries : p.vbuf.Carries c) (hnodup : (p.footprint m).Nodup)
    {a : AddedBuf PlacedVBuffer} (htoken : a.token = p)
    (hout : a.out.flatMap elementBytes = p.outBytes m)
    (hinn : a.inn.flatMap elementBytes = p.respBytes m) :
    Delivered m (s.queueBuffer m p c session) s.session.added.length a := by
  subst htoken
  refine ⟨hout, hinn, hnodup, ⟨c, hcarries, ?_⟩, ?_⟩
  · exact map_scatter s.memory hnodup.of_append_left (length_outBytes hcarries)
  · rw [PlacedVBuffer.respBytes, AddressSpace.bytes, List.map_map, queueBuffer_answers_self]
    rfl

theorem Inv.queueBuffer (hi : s.Inv m k) (hk : k ≤ 15) {p : PlacedVBuffer}
    (horderly : s.Orderly m (.queueBuffer p)) (hs : s.step m (.queueBuffer p) = some s') :
    s'.Inv m k := by
  obtain ⟨hproper, ⟨c, hcarries⟩, hnodup, hapart⟩ := horderly
  obtain ⟨els, hels, hout, hinn⟩ := AddressSpace.queueBufferLocked_elements hproper
  simp only [Delivery.step, hcarries.1, hels, Option.bind_eq_bind, Option.bind_some] at hs
  obtain ⟨session, hsession, hs⟩ := Option.bind_eq_some_iff.mp hs
  cases hs
  have hold : ∀ j a, s.session.Outstanding j a → j ≠ s.session.added.length →
      Delivered m (s.queueBuffer m p c session) j a := by
    intro j a ha hne
    exact (hi.delivered j a ha).congr (queueBuffer_memory (hapart j a ha))
      (Function.update_of_ne hne _ _)
  have hnew : ∀ a : AddedBuf PlacedVBuffer, a.out = els.out → a.inn = els.inn → a.token = p →
      Delivered m (s.queueBuffer m p c session) s.session.added.length a := by
    intro a haout hainn htoken
    exact delivered_queueBuffer hcarries hnodup htoken (by rw [haout, hout]) (by rw [hainn, hinn])
  refine ⟨hi.session.step hk hsession, fun j a ha => ?_, fun i j a b ha hb hne => ?_⟩
  · obtain ⟨hne, ha⟩ | ⟨rfl, haout, hainn, htoken⟩ := Session.outstanding_of_addBuf hsession ha
    · exact hold j a ha hne
    · exact hnew a haout hainn htoken
  · obtain ⟨-, ha⟩ | ⟨rfl, -, -, ha⟩ := Session.outstanding_of_addBuf hsession ha
    · obtain ⟨-, hb⟩ | ⟨rfl, -, -, hb⟩ := Session.outstanding_of_addBuf hsession hb
      · exact hi.apart i j a b ha hb hne
      · rw [hb]
        exact (hapart i a ha).symm
    · obtain ⟨-, hb⟩ | ⟨rfl, -, -, -⟩ := Session.outstanding_of_addBuf hsession hb
      · rw [ha]
        exact hapart j b hb
      · exact absurd rfl hne

/-! ## The device stores a byte -/

/-- The place of byte `i` of the response. -/
theorem getElem?_respBytes {p : PlacedVBuffer} {i place : Nat}
    (h : (p.respBytes m)[i]? = some place) : (List.range p.vbuf.respSize)[i]? = some i := by
  have hlt := (List.getElem?_eq_some_iff.mp h).1
  rw [PlacedVBuffer.respBytes, AddressSpace.length_bytes] at hlt
  rw [List.getElem?_range hlt]

/-- A store to the response of another vbuffer. -/
theorem Delivered.store_other {j index i place : Nat} {byte : UInt8}
    {a : AddedBuf PlacedVBuffer} (h : Delivered m s j a) (hne : j ≠ index)
    (hplace : place ∉ a.token.footprint m) :
    Delivered m (s.storeByte index i place byte) j a :=
  h.congr (map_update_of_notMem s.memory byte hplace) (Function.update_of_ne hne _ _)

/-- A store to the response of the vbuffer itself. -/
theorem Delivered.store_self {j i place : Nat} {byte : UInt8} {a : AddedBuf PlacedVBuffer}
    (h : Delivered m s j a) (hplace : (a.token.respBytes m)[i]? = some place) :
    Delivered m (s.storeByte j i place byte) j a := by
  have hmem := List.mem_of_getElem? hplace
  have hnotout : place ∉ a.token.outBytes m := fun hout =>
    List.disjoint_of_nodup_append h.nodup hout hmem
  refine ⟨h.out, h.inn, h.nodup, ?_, ?_⟩
  · rw [storeByte, map_update_of_notMem s.memory byte hnotout]
    exact h.command
  · have hanswers : (s.storeByte j i place byte).answers j =
        Function.update (s.answers j) i byte := Function.update_self ..
    rw [hanswers, map_update_of_getElem? _ byte List.nodup_range (getElem?_respBytes hplace),
      ← h.answer]
    exact map_update_of_getElem? s.memory byte h.nodup.of_append_right hplace

theorem Inv.store (hi : s.Inv m k) {index i : Nat} {byte : UInt8}
    (hs : s.step m (.store index i byte) = some s') : s'.Inv m k := by
  simp only [Delivery.step] at hs
  split_ifs at hs with hcompleted
  obtain ⟨head, htaken, hs⟩ := Option.bind_eq_some_iff.mp hs
  obtain ⟨places, hplaces, hs⟩ := Option.bind_eq_some_iff.mp hs
  obtain ⟨place, hplace, hs⟩ := Option.bind_eq_some_iff.mp hs
  obtain rfl := Option.some.inj hs
  obtain ⟨a, -, rfl, ha⟩ := Session.outstanding_of_taken hi.session htaken hcompleted
  have hdelivered := hi.delivered index a ha
  rw [chainBytes_of_outstanding hi.session.flight ha, if_pos rfl, hdelivered.inn] at hplaces
  obtain rfl := Option.some.inj hplaces
  refine ⟨hi.session, fun j b hb => ?_, hi.apart⟩
  by_cases hne : j = index
  · subst hne
    obtain rfl : a = b := Option.some.inj (ha.1.symm.trans hb.1)
    exact hdelivered.store_self hplace
  · refine (hi.delivered j b hb).store_other hne fun hmem => ?_
    exact hi.apart j index b a hb ha hne hmem
      (List.mem_append_right _ (List.mem_of_getElem? hplace))

/-! ## Runs -/

/-- What another step on the ring does. -/
theorem step_ring {e : SessionEvent PlacedVBuffer} (hs : s.step m (.ring e) = some s') :
    (∀ out inn t, e ≠ .addBuf out inn t) ∧
      ∃ session, s.session.step e = some session ∧ s' = { s with session } := by
  cases e with
  | addBuf out inn t => cases hs
  | _ =>
    simp only [Delivery.step, Option.bind_eq_bind] at hs
    obtain ⟨session, hsession, hs⟩ := Option.bind_eq_some_iff.mp hs
    exact ⟨fun _ _ _ h => (by cases h), session, hsession, (Option.some.inj hs).symm⟩

theorem Inv.ring (hi : s.Inv m k) (hk : k ≤ 15) {e : SessionEvent PlacedVBuffer}
    (hs : s.step m (.ring e) = some s') : s'.Inv m k := by
  obtain ⟨he, session, hsession, rfl⟩ := step_ring hs
  have hold : ∀ j a, session.Outstanding j a → s.session.Outstanding j a := fun j a ha =>
    Session.outstanding_of_step hi.session he hsession ha
  refine ⟨hi.session.step hk hsession, fun j a ha => ?_, fun i j a b ha hb => ?_⟩
  · exact (hi.delivered j a (hold j a ha)).congr rfl rfl
  · exact hi.apart i j a b (hold i a ha) (hold j b hb)

theorem Inv.step (hi : s.Inv m k) (hk : k ≤ 15) {e : DeliveryEvent} (horderly : s.Orderly m e)
    (hs : s.step m e = some s') : s'.Inv m k := by
  cases e with
  | queueBuffer p => exact hi.queueBuffer hk horderly hs
  | store index i byte => exact hi.store hs
  | ring e => exact hi.ring hk hs

/-- The event queues no vbuffer. -/
def QueuesNothing : DeliveryEvent → Prop
  | .queueBuffer _ => False
  | .store .. | .ring _ => True

/-- Steps that queue no vbuffer are orderly. -/
theorem reachable_of_noQueue {vq : Virtqueue PlacedVBuffer} {memory : Nat → UInt8}
    {events : List DeliveryEvent} (hevents : ∀ e ∈ events, QueuesNothing e)
    (hr : (system m vq memory).ReachableUnder (Orderly m) s)
    (hrun : events.foldlM (step m) s = some s') :
    (system m vq memory).ReachableUnder (Orderly m) s' := by
  induction events generalizing s with
  | nil =>
    cases hrun
    exact hr
  | cons e events ih =>
    rw [List.foldlM_cons] at hrun
    obtain ⟨t, ht, hrun⟩ := Option.bind_eq_some_iff.mp hrun
    have horderly : s.Orderly m e := by
      cases e with
      | queueBuffer p => exact absurd (hevents _ List.mem_cons_self) id
      | store index i byte => trivial
      | ring e => trivial
    exact ih (fun e he => hevents e (List.mem_cons_of_mem _ he)) (.step hr horderly ht) hrun

/-! ## A command in flat memory -/

/-- Memory where the pages follow each other. -/
def flat : AddressSpace := ⟨fun _ => true, id⟩

theorem flat_bytes (va size : Nat) : flat.bytes va size = List.range' va size := by
  rw [List.range'_eq_map_range]
  apply List.map_congr_left
  intro i _
  change (va + i) / pageSize * pageSize + (va + i) % pageSize = va + i
  rw [Nat.mul_comm, Nat.div_add_mod]

/-- `ResFlush` of a resource of 640 by 480. -/
def flush : CtrlCommand := .resourceFlush 1 640 480 0 0

/-- A vbuffer with this command, and with its response behind it. -/
def flushBuffer : PlacedVBuffer where
  vbuf := ⟨some (.ctrl flush), 48, none, 0, none, 24, false⟩
  buf := 8192
  dataBuf := 0
  respBuf := 8240

/-- A first command without data, with the response somewhere behind it. -/
theorem orderly_of_flat {p : PlacedVBuffer} {c : Command} (hproper : p.Proper flat)
    (hcarries : p.vbuf.Carries c) (hdata : p.vbuf.dataSize = 0)
    (hresp : p.buf + p.vbuf.size ≤ p.respBuf) {vq : Virtqueue PlacedVBuffer}
    {memory : Nat → UInt8} :
    Orderly flat ⟨Session.start vq, memory, fun _ _ => 0⟩ (.queueBuffer p) := by
  refine ⟨hproper, ⟨c, hcarries⟩, ?_, fun j a ha => (by cases ha.1)⟩
  rw [PlacedVBuffer.footprint, PlacedVBuffer.outBytes, PlacedVBuffer.respBytes, hdata,
    AddressSpace.bytes_zero, List.append_nil, flat_bytes, flat_bytes]
  refine List.nodup_append.mpr ⟨List.nodup_range', List.nodup_range', fun x hx y hy => ?_⟩
  rw [List.mem_range'_1] at hx hy
  omega

theorem flushBuffer_proper : flushBuffer.Proper flat :=
  ⟨by decide, by decide, by decide, by decide, by unfold WithinPage; decide,
    by unfold WithinPage; decide, .inl rfl, fun _ _ => rfl, fun _ _ => rfl, fun _ _ => rfl⟩

theorem flushBuffer_orderly {vq : Virtqueue PlacedVBuffer} {memory : Nat → UInt8} :
    Orderly flat ⟨Session.start vq, memory, fun _ _ => 0⟩ (.queueBuffer flushBuffer) :=
  orderly_of_flat flushBuffer_proper (c := .ctrl flush) ⟨rfl, rfl, rfl⟩ rfl (by decide)

/-! ## What comes over -/

/-- What comes back with a vbuffer. -/
theorem Inv.answer (hi : s.Inv m k) (hk : k ≤ 15) (hs : s.step m (.ring .takeUsed) = some s') :
    ∃ c a, s.session.completed[s.session.returned.length]? = some c ∧
      s.session.added[c.index]? = some a ∧
      s'.session.returned = s.session.returned ++ [⟨some a.token, some c.elem.len⟩] ∧
      (a.token.respBytes m).map s'.memory =
        (List.range a.token.vbuf.respSize).map (s.answers c.index) := by
  obtain ⟨-, session, hsession, rfl⟩ := step_ring hs
  obtain ⟨c, a, hcompleted, hadded, hout, hreturned⟩ :=
    hi.session.returned_of_takeUsed hk hsession
  exact ⟨c, a, hcompleted, hadded, hreturned, (hi.delivered c.index a hout).answer⟩

section Runs

variable {index notified : Nat} {event : Bool} {indirect : Nat → List VringDesc}
  {vq : Virtqueue PlacedVBuffer} {memory : Nat → UInt8} (hk : k ≤ 15)
  (hnew : vringNewVirtqueue index event notified (Vring.zeroed (2 ^ k) indirect) = .ok (some vq))
  (hr : (system m vq memory).ReachableUnder (Orderly m) s)
include hk hnew hr

theorem inv_of_reachable : s.Inv m k := by
  refine hr.induct (Inv m k) ⟨Session.inv_start hk hnew, ?_, ?_⟩
    fun _ _ _ hi horderly hs => hi.step hk horderly hs
  · intro j a ha
    cases ha.1
  · intro i j a b ha
    cases ha.1

/-- **The device gets the commands** in the order they were queued: what it reads for a head that
it has taken and not completed is the command that the vbuffer of this number was queued with. -/
theorem command_received {j : Nat} (htaken : j < s.session.taken.length)
    (hnot : j ∉ s.session.completed.map Completion.index) :
    ∃ a c, s.session.added[j]? = some a ∧ a.token.vbuf.Carries c ∧
      (s.received j).bind c.queue.parse = some c.stored := by
  have hi := inv_of_reachable hk hnew hr
  have hhead := List.getElem?_eq_getElem htaken
  obtain ⟨a, hadded, hid, ha⟩ := Session.outstanding_of_taken hi.session hhead hnot
  have hdelivered := hi.delivered j a ha
  obtain ⟨c, hcarries, hwire⟩ := hdelivered.command
  refine ⟨a, c, hadded, hcarries, ?_⟩
  have hreceived : s.received j = some c.wire := by
    rw [received, hhead, ← hid]
    simp only [Option.bind_eq_bind, Option.bind_some]
    rw [chainBytes_of_outstanding hi.session.flight ha, if_neg Bool.false_ne_true,
      hdelivered.out, Option.bind_some, hwire]
  rw [hreceived]
  exact c.parse_wire

end Runs

/-- The command is queued, and the device takes its head. -/
theorem command_received_flush : ∃ vq s,
    vringNewVirtqueue 0 false 0 (Vring.zeroed (2 ^ 2) fun _ => []) = .ok (some vq) ∧
    (system flat vq fun _ => 0).ReachableUnder (Orderly flat) s ∧
    (s.received 0).bind QueueName.ctrl.parse = some (.ctrl flush) := by
  obtain ⟨vq, s₁, s, hnew, h₁, hrun, htaken, hcompleted, htoken⟩ : ∃ vq s₁ s,
      vringNewVirtqueue 0 false 0 (Vring.zeroed (2 ^ 2) fun _ => []) = .ok (some vq) ∧
      step flat ⟨Session.start vq, fun _ => 0, fun _ _ => 0⟩ (.queueBuffer flushBuffer) =
        some s₁ ∧
      [.ring .exposeBuf, .ring .deviceTake].foldlM (step flat) s₁ = some s ∧
      s.session.taken = [0] ∧ s.session.completed = [] ∧
      (s.session.added[0]?).map AddedBuf.token = some flushBuffer :=
    ⟨_, _, _, rfl, rfl, rfl, rfl, rfl, rfl⟩
  have hr : (system flat vq fun _ => 0).ReachableUnder (Orderly flat) s :=
    reachable_of_noQueue (by simp [QueuesNothing]) (.step .init flushBuffer_orderly h₁) hrun
  obtain ⟨a, c, hadded, hcarries, hreceived⟩ := command_received (j := 0) (by decide) hnew hr
    (by rw [htaken]; decide) (by rw [hcompleted]; exact List.not_mem_nil)
  rw [hadded] at htoken
  obtain rfl : Command.ctrl flush = c := by
    have hcmd := hcarries.1
    rw [Option.some.inj htoken] at hcmd
    exact Option.some.inj hcmd
  exact ⟨vq, s, hnew, hr, hreceived⟩

section Runs

variable {index notified : Nat} {event : Bool} {indirect : Nat → List VringDesc}
  {vq : Virtqueue PlacedVBuffer} {memory : Nat → UInt8} (hk : k ≤ 15)
  (hnew : vringNewVirtqueue index event notified (Vring.zeroed (2 ^ k) indirect) = .ok (some vq))
  (hr : (system m vq memory).ReachableUnder (Orderly m) s)
include hk hnew hr

/-- **The driver gets the answers**: a vbuffer that comes back holds the response that the device
has stored for its command. -/
theorem answer_returned (hs : s.step m (.ring .takeUsed) = some s') :
    ∃ c a, s.session.completed[s.session.returned.length]? = some c ∧
      s.session.added[c.index]? = some a ∧
      s'.session.returned = s.session.returned ++ [⟨some a.token, some c.elem.len⟩] ∧
      (a.token.respBytes m).map s'.memory =
        (List.range a.token.vbuf.respSize).map (s.answers c.index) := by
  exact (inv_of_reachable hk hnew hr).answer hk hs

end Runs

/-- The device answers `VIRTIO_GPU_RESP_OK_NODATA`, and the driver gets the vbuffer back. -/
theorem answer_returned_flush : ∃ vq s s',
    vringNewVirtqueue 0 false 0 (Vring.zeroed (2 ^ 2) fun _ => []) = .ok (some vq) ∧
    (system flat vq fun _ => 0).ReachableUnder (Orderly flat) s ∧
    s.step flat (.ring .takeUsed) = some s' ∧
    s'.session.returned = [⟨some flushBuffer, some 24⟩] ∧
    wordOf (((flushBuffer.respBytes flat).map s'.memory).take 4) = 0x1100 := by
  obtain ⟨vq, s₁, s, s', hnew, h₁, hrun, hs, hcompleted, hreturned, htoken, hanswer⟩ :
      ∃ vq s₁ s s',
      vringNewVirtqueue 0 false 0 (Vring.zeroed (2 ^ 2) fun _ => []) = .ok (some vq) ∧
      step flat ⟨Session.start vq, fun _ => 0, fun _ _ => 0⟩ (.queueBuffer flushBuffer) =
        some s₁ ∧
      [.ring .exposeBuf, .ring .deviceTake, .store 0 1 0x11, .ring (.deviceWrite 0 24),
        .ring .devicePublish, .ring .getBuf].foldlM (step flat) s₁ = some s ∧
      step flat s (.ring .takeUsed) = some s' ∧
      s.session.completed[s.session.returned.length]? = some ⟨0, ⟨0, 24⟩⟩ ∧
      s.session.returned = [] ∧
      (s.session.added[0]?).map AddedBuf.token = some flushBuffer ∧
      wordOf (((List.range 24).map (s.answers 0)).take 4) = 0x1100 :=
    ⟨_, _, _, _, rfl, rfl, rfl, rfl, rfl, rfl, rfl, rfl⟩
  have hr : (system flat vq fun _ => 0).ReachableUnder (Orderly flat) s :=
    reachable_of_noQueue (by simp [QueuesNothing]) (.step .init flushBuffer_orderly h₁) hrun
  obtain ⟨c, a, hc, hadded, hback, hmemory⟩ := answer_returned (by decide) hnew hr hs
  rw [hcompleted] at hc
  cases hc
  rw [hadded] at htoken
  have ha : a.token = flushBuffer := Option.some.inj htoken
  rw [ha] at hback hmemory
  rw [hreturned] at hback
  refine ⟨vq, s, s', hnew, hr, hs, hback, ?_⟩
  rw [hmemory]
  exact hanswer

end Delivery

end VioGpu.Queue
