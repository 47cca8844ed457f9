import Mathlib.Data.List.Pairwise
import VioGpu.Lib.Except
import VioGpu.Lib.Links
import VioGpu.VirtIO.Ring

/-!
# The descriptors of a ring: free list and chains

`Partition vq free chains` says that every descriptor of the ring is either on the free
list, which is the first `num_free` descriptors met from `free_head` along `next`, or on
exactly one chain of a head that has a token. The links of free and of chained descriptors
lie in the same field, and a link or a flag that is no longer needed stays behind: nothing
is said about the flags of a free descriptor, nor about the link of the last one.

Each function of the driver is described by one theorem (`addDirect_spec`,
`detachBuf_spec`, ...), and `Partition` is preserved because adding takes a chain from the
front of the free list and detaching puts a chain back there.
-/

namespace VioGpu.VirtIO

open Lib Virtqueue

variable {τ : Type}

/-! ## Chains of descriptors -/

/-- `c` is the chain of the head `h`: the walk from `h` goes on as long as the flag
`VRING_DESC_F_NEXT` is set and ends at the first descriptor without it. -/
def IsChain (desc : Nat → VringDesc) (h : Nat) (c : List Nat) : Prop :=
  ∃ body last, c = body ++ [last] ∧ Follows (fun i => (desc i).next) h body last ∧
    (∀ x ∈ body, (desc x).hasNext) ∧ ¬ (desc last).hasNext

theorem IsChain.head? {desc : Nat → VringDesc} {h : Nat} {c : List Nat}
    (hc : IsChain desc h c) : c.head? = some h := by
  obtain ⟨body, last, rfl, hf, -, -⟩ := hc
  cases body with
  | nil => simp only [List.nil_append, List.head?_cons]; rw [show h = last from hf]
  | cons x body => simp only [List.cons_append, List.head?_cons]; rw [hf.1]

theorem IsChain.head_mem {desc : Nat → VringDesc} {h : Nat} {c : List Nat}
    (hc : IsChain desc h c) : h ∈ c := List.mem_of_mem_head? hc.head?

/-- A chain is read off its own descriptors. -/
theorem IsChain.congr {desc desc' : Nat → VringDesc} {h : Nat} {c : List Nat}
    (hc : IsChain desc h c) (hEq : ∀ x ∈ c, desc' x = desc x) : IsChain desc' h c := by
  obtain ⟨body, last, rfl, hf, hnext, hlast⟩ := hc
  refine ⟨body, last, rfl, hf.congr fun x hx => by rw [hEq x (by simp [hx])], ?_, ?_⟩
  · intro x hx
    rw [hEq x (by simp [hx])]
    exact hnext x hx
  · rwa [hEq last (by simp)]

/-! ## The functions on descriptors -/

@[simp] theorem withDesc_withDesc (vq : Virtqueue τ) (d d' : Nat → VringDesc) :
    (vq.withDesc d).withDesc d' = vq.withDesc d' := rfl

@[simp] theorem withDesc_desc (vq : Virtqueue τ) (d : Nat → VringDesc) :
    (vq.withDesc d).vring.desc = d := rfl

@[simp] theorem withDesc_num (vq : Virtqueue τ) (d : Nat → VringDesc) :
    (vq.withDesc d).vring.num = vq.vring.num := rfl

theorem readDesc_of_lt {vq : Virtqueue τ} {i : Nat} (h : i < vq.vring.num) :
    vq.readDesc i = .ok (vq.vring.desc i) := if_pos h

theorem modifyDesc_of_lt {vq : Virtqueue τ} {i : Nat} (h : i < vq.vring.num)
    (f : VringDesc → VringDesc) :
    vq.modifyDesc i f =
      .ok (vq.withDesc fun j => if j = i then f (vq.vring.desc i) else vq.vring.desc j) :=
  if_pos h

/-- What the loops of `virtqueue_add_buf` store in a descriptor of the walk. -/
def holdsSg (desc desc' : Nat → VringDesc) (flags : UInt16) (x : Nat) (sg : Scatterlist) :
    Prop :=
  desc' x = ⟨sg.physAddr, sg.length, flags, (desc x).next⟩

/-- The elements of `sg` go, in order, into the descriptors of the walk from `i`; the links
and every other descriptor stay. -/
theorem fillDescs_spec (flags : UInt16) {sgs : List Scatterlist} (vq : Virtqueue τ) (prev : Nat)
    {i j : Nat} {l : List Nat}
    (hl : Follows (fun i => (vq.vring.desc i).next) i l j) (hlen : l.length = sgs.length)
    (hnd : l.Nodup) (hlt : ∀ x ∈ l, x < vq.vring.num) :
    ∃ desc', fillDescs flags sgs vq i prev = .ok (vq.withDesc desc', j, l.getLastD prev) ∧
      (∀ x, x ∉ l → desc' x = vq.vring.desc x) ∧
      (∀ x, (desc' x).next = (vq.vring.desc x).next) ∧
      List.Forall₂ (holdsSg vq.vring.desc desc' flags) l sgs := by
  induction sgs generalizing vq i prev l with
  | nil =>
    obtain rfl : l = [] := List.length_eq_zero_iff.mp hlen
    exact ⟨vq.vring.desc, by rw [show j = i from hl.symm]; rfl, fun _ _ => rfl, fun _ => rfl, .nil⟩
  | cons sg rest ih =>
    obtain ⟨x, l, rfl⟩ : ∃ x l', l = x :: l' := List.exists_cons_of_length_eq_add_one hlen
    obtain ⟨rfl, hrest⟩ := hl
    have hx : x < vq.vring.num := hlt x (by simp)
    rw [List.nodup_cons] at hnd
    let d : VringDesc :=
      { vq.vring.desc x with flags := flags, addr := sg.physAddr, len := sg.length }
    let desc₁ := fun j => if j = x then d else vq.vring.desc j
    have hnext : ∀ y, (desc₁ y).next = (vq.vring.desc y).next := by
      intro y
      by_cases hy : y = x
      · subst hy; simp [desc₁, d]
      · simp [desc₁, hy]
    obtain ⟨desc', hrun, hout, hlinks, hin⟩ :=
      ih (vq.withDesc desc₁) x (hrest.congr fun y _ => hnext y)
        (by simpa using hlen) hnd.2 fun y hy => hlt y (by simp [hy])
    refine ⟨desc', ?_, ?_, ?_, ?_⟩
    · rw [fillDescs, modifyDesc_of_lt hx, ok_bind, readDesc_of_lt (by simpa using hx), ok_bind]
      rw [List.getLastD_cons, ← withDesc_withDesc vq desc₁ desc', ← hrun]
      simp [desc₁, d]
    · intro y hy
      rw [List.mem_cons, not_or] at hy
      rw [hout y hy.2]
      simp [desc₁, hy.1]
    · intro y
      rw [hlinks y]
      exact hnext y
    · refine .cons ?_ (hin.imp fun y s hy => ?_)
      · change desc' x = _
        rw [hout x hnd.1]
        simp [desc₁, d]
      · change desc' y = _
        rw [show desc' y = _ from hy, withDesc_desc, hnext y]

/-- The elements of `sg` in order, with `true` for the writable ones. -/
def sgElems (out inn : List Scatterlist) : List (Scatterlist × Bool) :=
  out.map (·, false) ++ inn.map (·, true)

@[simp] theorem sgElems_length (out inn : List Scatterlist) :
    (sgElems out inn).length = out.length + inn.length := by simp [sgElems]

def elemFlags (write : Bool) : UInt16 :=
  if write then vringDescFNext ||| vringDescFWrite else vringDescFNext

/-- A descriptor holds an element of `sg`: its address, its length, and the write flag
exactly when the element is writable. It is no table of descriptors. -/
def DescHolds (d : VringDesc) (e : Scatterlist × Bool) : Prop :=
  d.addr = e.1.physAddr ∧ d.len = e.1.length ∧
    (d.flags &&& vringDescFWrite ≠ 0 ↔ e.2 = true) ∧ d.flags &&& vringDescFIndirect = 0

theorem elemFlags_hasNext (w : Bool) : elemFlags w &&& vringDescFNext ≠ 0 := by
  cases w <;> decide

theorem elemFlags_cleared (w : Bool) :
    elemFlags w &&& ~~~vringDescFNext &&& vringDescFNext = 0 := by
  cases w <;> decide

theorem elemFlags_write (w : Bool) :
    (elemFlags w &&& vringDescFWrite ≠ 0 ↔ w = true) ∧
      (elemFlags w &&& ~~~vringDescFNext &&& vringDescFWrite ≠ 0 ↔ w = true) := by
  cases w <;> decide

theorem elemFlags_indirect (w : Bool) : elemFlags w &&& vringDescFIndirect = 0 ∧
    elemFlags w &&& ~~~vringDescFNext &&& vringDescFIndirect = 0 := by
  cases w <;> decide

/-- Both loops of `virtqueue_add_buf` together, before the flag of the last descriptor is
cleared. -/
theorem fillBoth_spec {out inn : List Scatterlist} (vq : Virtqueue τ) {i j : Nat}
    {l : List Nat} (hl : Follows (fun i => (vq.vring.desc i).next) i l j)
    (hlen : l.length = out.length + inn.length) (hnd : l.Nodup)
    (hlt : ∀ x ∈ l, x < vq.vring.num) :
    ∃ desc', (∀ k : Virtqueue τ × Nat × Nat → Result (Nat × Virtqueue τ),
        (fillDescs vringDescFNext out vq i 0 >>= fun s =>
          fillDescs (vringDescFNext ||| vringDescFWrite) inn s.1 s.2.1 s.2.2 >>= k) =
            k (vq.withDesc desc', j, l.getLastD 0)) ∧
      (∀ x, x ∉ l → desc' x = vq.vring.desc x) ∧
      List.Forall₂ (fun x e => desc' x =
        ⟨e.1.physAddr, e.1.length, elemFlags e.2, (vq.vring.desc x).next⟩) l (sgElems out inn) := by
  obtain ⟨l₁, l₂, rfl, hlen₁⟩ : ∃ l₁ l₂, l = l₁ ++ l₂ ∧ l₁.length = out.length :=
    ⟨l.take out.length, l.drop out.length, by simp, by simp [hlen]⟩
  obtain ⟨m, hl₁, hl₂⟩ := follows_append.mp hl
  rw [List.nodup_append] at hnd
  obtain ⟨hnd₁, hnd₂, hdisj⟩ := hnd
  obtain ⟨desc₁, hrun₁, hout₁, hlinks₁, hin₁⟩ := fillDescs_spec vringDescFNext vq 0
    hl₁ hlen₁ hnd₁ fun x hx => hlt x (by simp [hx])
  obtain ⟨desc₂, hrun₂, hout₂, hlinks₂, hin₂⟩ :=
    fillDescs_spec (vringDescFNext ||| vringDescFWrite) (vq.withDesc desc₁) (l₁.getLastD 0)
    (hl₂.congr fun x _ => hlinks₁ x) (show l₂.length = inn.length by simp at hlen; omega) hnd₂
    fun x hx => hlt x (by simp [hx])
  refine ⟨desc₂, ?_, ?_, ?_⟩
  · intro k
    rw [hrun₁, ok_bind, hrun₂, withDesc_withDesc, ok_bind]
    congr 3
    rcases List.eq_nil_or_concat' l₂ with rfl | ⟨b, e, rfl⟩
    · simp
    · simp [← List.append_assoc]
  · intro x hx
    rw [List.mem_append, not_or] at hx
    rw [hout₂ x hx.2, withDesc_desc, hout₁ x hx.1]
  · refine List.rel_append (R := fun x (e : Scatterlist × Bool) => desc₂ x =
      ⟨e.1.physAddr, e.1.length, elemFlags e.2, (vq.vring.desc x).next⟩) ?_ ?_
    · rw [List.forall₂_map_right_iff]
      refine List.Forall₂.imp (fun x sg h => ?_)
        (List.forall₂_and_left l₁ out |>.mpr ⟨fun x hx => hx, hin₁⟩)
      obtain ⟨hx, hd⟩ := h
      have hx₂ : x ∉ l₂ := fun h₂ => hdisj x hx x h₂ rfl
      rw [hout₂ x hx₂, withDesc_desc]
      exact hd
    · rw [List.forall₂_map_right_iff]
      refine hin₂.imp fun x sg hd => ?_
      rw [show desc₂ x = _ from hd, withDesc_desc, hlinks₁ x]
      rfl

/-- **The direct path.** The first `out + in` descriptors of the free list become the chain
of the new head and hold the elements of `sg` in order. -/
theorem addDirect_spec (out inn : List Scatterlist) {vq : Virtqueue τ} {j : Nat}
    {l : List Nat} (hl : Follows (fun i => (vq.vring.desc i).next) vq.freeHead l j)
    (hlen : l.length = out.length + inn.length) (hpos : l ≠ []) (hnd : l.Nodup)
    (hlt : ∀ x ∈ l, x < vq.vring.num) :
    ∃ desc', addDirect vq out inn = .ok (vq.freeHead,
        { vq.withDesc desc' with numFree := vq.numFree - outPlusIn out inn, freeHead := j }) ∧
      (∀ x, x ∉ l → desc' x = vq.vring.desc x) ∧
      IsChain desc' vq.freeHead l ∧
      List.Forall₂ (fun x e => DescHolds (desc' x) e) l (sgElems out inn) := by
  obtain ⟨desc₁, hrun, hout, hin⟩ :=
    fillBoth_spec { vq with numFree := vq.numFree - outPlusIn out inn } hl hlen hnd hlt
  obtain ⟨body, last, rfl⟩ := (List.eq_nil_or_concat' l).resolve_left hpos
  have hlast : last < vq.vring.num := hlt last (by simp)
  let desc₂ := fun x => if x = last then
    { desc₁ last with flags := (desc₁ last).flags &&& ~~~vringDescFNext } else desc₁ x
  have hbody : ∀ x ∈ body, desc₂ x = desc₁ x := by
    intro x hx
    have hne : x ≠ last := by
      rintro rfl
      simp only [List.nodup_append, List.mem_singleton] at hnd
      exact hnd.2.2 x hx x rfl rfl
    exact if_neg hne
  have hval : ∀ x ∈ body ++ [last], ∃ e ∈ sgElems out inn, desc₁ x =
      ⟨e.1.physAddr, e.1.length, elemFlags e.2, (vq.vring.desc x).next⟩ := by
    intro x hx
    obtain ⟨i, hi, rfl⟩ := List.mem_iff_getElem.mp hx
    have hi' : i < (sgElems out inn).length := by rw [← hin.length_eq]; exact hi
    exact ⟨_, List.getElem_mem hi', (List.forall₂_iff_get.mp hin).2 i hi hi'⟩
  refine ⟨desc₂, ?_, ?_, ?_, ?_⟩
  · unfold addDirect
    apply (hrun _).trans
    simp only [List.getLastD_concat]
    rw [modifyDesc_of_lt (by simpa using hlast), ok_bind]
    rfl
  · intro x hx
    have hne : x ≠ last := by rintro rfl; simp at hx
    exact (if_neg hne).trans (hout x hx)
  · refine ⟨body, last, rfl, ?_, ?_, ?_⟩
    · refine ((follows_snoc.mp hl).1).congr fun x hx => ?_
      obtain ⟨e, -, he⟩ := hval x (by simp [hx])
      rw [hbody x hx, he]
    · intro x hx
      obtain ⟨e, -, he⟩ := hval x (by simp [hx])
      unfold VringDesc.hasNext
      rw [hbody x hx, he]
      exact elemFlags_hasNext e.2
    · obtain ⟨e, -, he⟩ := hval last (by simp)
      unfold VringDesc.hasNext
      simp only [desc₂, if_true, he]
      simpa using elemFlags_cleared e.2
  · refine hin.imp fun x e he => ?_
    by_cases hx : x = last
    · subst hx
      simp only [desc₂, if_true, he]
      exact ⟨rfl, rfl, (elemFlags_write e.2).2, (elemFlags_indirect e.2).2⟩
    · simp only [desc₂, hx, if_false, he]
      exact ⟨rfl, rfl, (elemFlags_write e.2).1, (elemFlags_indirect e.2).1⟩

/-- The walk of `detach_buf` ends at the last descriptor of the chain and counts the
others. -/
theorem detachWalk_spec (vq : Virtqueue τ) {body : List Nat} {h last : Nat} (fuel : Nat)
    (hf : Follows (fun i => (vq.vring.desc i).next) h body last)
    (hnext : ∀ x ∈ body, (vq.vring.desc x).hasNext) (hend : ¬ (vq.vring.desc last).hasNext)
    (hlt : ∀ x ∈ body ++ [last], x < vq.vring.num) (hfuel : body.length < fuel) :
    detachWalk vq fuel h = .ok ({ vq with numFree := vq.numFree + body.length }, last) := by
  induction body generalizing vq h fuel with
  | nil =>
    obtain ⟨fuel, rfl⟩ : ∃ f, fuel = f + 1 := ⟨fuel - 1, by simp at hfuel; omega⟩
    obtain rfl : h = last := hf
    rw [detachWalk, readDesc_of_lt (hlt h (by simp)), ok_bind, if_neg hend]
    rfl
  | cons x body ih =>
    obtain ⟨fuel, rfl⟩ : ∃ f, fuel = f + 1 := ⟨fuel - 1, by simp at hfuel; omega⟩
    obtain ⟨rfl, hrest⟩ := hf
    rw [detachWalk, readDesc_of_lt (hlt x (by simp)), ok_bind, if_pos (hnext x (by simp))]
    rw [ih { vq with numFree := vq.numFree + 1 } fuel hrest
      (fun y hy => hnext y (by simp [hy])) hend
      (fun y hy => hlt y (by simp at hy ⊢; tauto)) (by simpa using hfuel)]
    simp only [List.length_cons]
    congr 3
    omega

/-- **Putting a chain back.** `detach_buf` terminates on a chain of the ring, clears the
token of its head, links its last descriptor to the free list and counts all of it. -/
theorem detachBuf_spec {vq : Virtqueue τ} {h : Nat} {c : List Nat}
    (hc : IsChain vq.vring.desc h c) (hnd : c.Nodup) (hlt : ∀ x ∈ c, x < vq.vring.num)
    (hlen : c.length ≤ vq.vring.num) :
    ∃ desc', detachBuf vq h = .ok
        { vq.withDesc desc' with
          data := fun j => if j = h then none else vq.data j
          freeHead := h, numFree := vq.numFree + c.length } ∧
      (∀ x, x ∉ c → desc' x = vq.vring.desc x) ∧
      (∀ {free stop}, (∀ x ∈ free, x ∉ c) →
        Follows (fun i => (vq.vring.desc i).next) (u16 vq.freeHead) free stop →
        Follows (fun i => (desc' i).next) h (c ++ free) stop) := by
  have hh : h < vq.vring.num := hlt h hc.head_mem
  obtain ⟨body, last, rfl, hf, hnext, hend⟩ := hc
  have hlast : last < vq.vring.num := hlt last (by simp)
  let desc' := fun x => if x = last then
    { vq.vring.desc last with next := u16 vq.freeHead } else vq.vring.desc x
  refine ⟨desc', ?_, ?_, ?_⟩
  · let vq₁ : Virtqueue τ := { vq with data := fun j => if j = h then none else vq.data j }
    have hwalk := detachWalk_spec vq₁ vq.vring.num hf hnext hend hlt
      (by simp at hlen; omega)
    have hwrite : vq.writeData h none = .ok vq₁ := if_pos hh
    rw [detachBuf, hwrite, ok_bind, show vq₁.vring.num = vq.vring.num from rfl, hwalk, ok_bind]
    dsimp only
    rw [modifyDesc_of_lt (by exact hlast), ok_bind, List.length_append, ← Nat.add_assoc]
    rfl
  · intro x hx
    have hne : x ≠ last := by rintro rfl; simp at hx
    exact if_neg hne
  · intro free stop hdisj hfree
    refine hf.join hfree (by simp [desc']) fun x hx => ?_
    have hne : x ≠ last := by
      rintro rfl
      rcases List.mem_append.mp hx with hx | hx
      · simp only [List.nodup_append, List.mem_singleton] at hnd
        exact hnd.2.2 x hx x rfl rfl
      · exact hdisj x hx (by simp)
    simp [desc', hne]

/-! ## The partition -/

/-- Every descriptor is on the free list or on exactly one chain, and the tokens mark the
heads of the chains. -/
structure Partition (vq : Virtqueue τ) (free : List Nat) (chains : List (List Nat)) : Prop where
  walk : ∃ stop, stop < vq.vring.num ∧
    Follows (fun i => (vq.vring.desc i).next) vq.freeHead free stop
  count : free.length = vq.numFree
  chain : ∀ c ∈ chains, ∃ h t, IsChain vq.vring.desc h c ∧ vq.data h = some t
  token : ∀ h t, vq.data h = some t → ∃ c ∈ chains, IsChain vq.vring.desc h c
  cover : (free ++ chains.flatten).Perm (List.range vq.vring.num)

namespace Partition

variable {vq vq' : Virtqueue τ} {free : List Nat} {chains : List (List Nat)}

theorem nodup (hP : Partition vq free chains) : (free ++ chains.flatten).Nodup :=
  hP.cover.nodup_iff.mpr List.nodup_range

theorem lt_of_mem (hP : Partition vq free chains) {x : Nat} (hx : x ∈ free ++ chains.flatten) :
    x < vq.vring.num := List.mem_range.mp (hP.cover.mem_iff.mp hx)

theorem lt_of_chain (hP : Partition vq free chains) {c : List Nat} (hc : c ∈ chains) {x : Nat}
    (hx : x ∈ c) : x < vq.vring.num :=
  hP.lt_of_mem (List.mem_append_right _ (List.mem_flatten.mpr ⟨c, hc, hx⟩))

theorem nodup_chain (hP : Partition vq free chains) {c : List Nat} (hc : c ∈ chains) :
    c.Nodup := (List.nodup_flatten.mp (List.nodup_append.mp hP.nodup).2.1).1 c hc

theorem chain_length_le (hP : Partition vq free chains) {c : List Nat} (hc : c ∈ chains) :
    c.length ≤ vq.vring.num := by
  have hsub : c.Subperm (List.range vq.vring.num) :=
    List.subperm_of_subset (hP.nodup_chain hc) fun x hx => List.mem_range.mpr (hP.lt_of_chain hc hx)
  simpa using hsub.length_le

theorem not_mem_free (hP : Partition vq free chains) {c : List Nat} (hc : c ∈ chains) {x : Nat}
    (hx : x ∈ free) : x ∉ c := fun hxc =>
  (List.nodup_append.mp hP.nodup).2.2 x hx x (List.mem_flatten.mpr ⟨c, hc, hxc⟩) rfl

/-- `free_head` is an index of the table, also when it is stale because the list is
empty. -/
theorem freeHead_lt (hP : Partition vq free chains) : vq.freeHead < vq.vring.num := by
  obtain ⟨stop, hstop, hf⟩ := hP.walk
  cases free with
  | nil => rw [show vq.freeHead = stop from hf]; exact hstop
  | cons x free => rw [← hf.1]; exact hP.lt_of_mem (by simp)

/-- A chain determines its head, and a head with a token its chain. -/
theorem chain_unique (hP : Partition vq free chains) {c c' : List Nat} {h : Nat}
    (hc : c ∈ chains) (hc' : c' ∈ chains) (hh : h ∈ c) (hh' : h ∈ c') : c = c' := by
  by_contra hne
  have hpw := (List.nodup_flatten.mp (List.nodup_append.mp hP.nodup).2.1).2
  have : Std.Symm (@List.Disjoint Nat) := ⟨fun _ _ h _ hy hx => h hx hy⟩
  exact hpw.forall hc hc' hne hh hh'

end Partition

/-- Two queues with the same descriptors, tokens and free list. -/
structure SameDescs (vq vq' : Virtqueue τ) : Prop where
  num : vq'.vring.num = vq.vring.num
  desc : vq'.vring.desc = vq.vring.desc
  data : vq'.data = vq.data
  numFree : vq'.numFree = vq.numFree
  freeHead : vq'.freeHead = vq.freeHead

theorem SameDescs.refl (vq : Virtqueue τ) : SameDescs vq vq := ⟨rfl, rfl, rfl, rfl, rfl⟩

theorem Partition.congr {vq vq' : Virtqueue τ} {free : List Nat} {chains : List (List Nat)}
    (hP : Partition vq free chains) (h : SameDescs vq vq') : Partition vq' free chains := by
  obtain ⟨hnum, hdesc, hdata, hfree, hhead⟩ := h
  refine ⟨?_, by rw [hfree]; exact hP.count, ?_, ?_, by rw [hnum]; exact hP.cover⟩
  · rw [hnum, hdesc, hhead]
    exact hP.walk
  · rw [hdesc, hdata]
    exact hP.chain
  · rw [hdesc, hdata]
    exact hP.token

/-- What preparing a chain `l` of head `h` with token `t` changes in the ring, next to the
descriptors on `l`: the token and the next available slot. -/
structure Prepared (vq vq' : Virtqueue τ) (h : Nat) (l : List Nat) (t : τ) : Prop where
  num : vq'.vring.num = vq.vring.num
  desc : ∀ x, x ∉ l → vq'.vring.desc x = vq.vring.desc x
  data : vq'.data = fun j => if j = h then some t else vq.data j
  shadow : vq'.availIdxShadow = vq.availIdxShadow
  idx : vq'.vring.avail.idx = vq.vring.avail.idx
  ring : vq'.vring.avail.ring = fun j =>
    if j = vq.availIdxShadow &&& (vq.vring.num - 1) then u16 h else vq.vring.avail.ring j
  used : vq'.vring.used = vq.vring.used
  lastUsed : vq'.lastUsedIdx = vq.lastUsedIdx
  broken : vq'.broken = vq.broken

/-- A chain taken from the front of the free list keeps the partition. -/
theorem Partition.prepare {vq vq' : Virtqueue τ} {l rest : List Nat} {chains : List (List Nat)}
    {h : Nat} {t : τ} (hP : Partition vq (l ++ rest) chains) (hl : IsChain vq'.vring.desc h l)
    (hE : Prepared vq vq' h l t) (hwalk : ∃ stop, stop < vq.vring.num ∧
      Follows (fun i => (vq.vring.desc i).next) vq'.freeHead rest stop)
    (hcount : vq'.numFree = vq.numFree - l.length) :
    Partition vq' rest (l :: chains) := by
  have hnd := hP.nodup
  rw [List.append_assoc, List.nodup_append] at hnd
  have hoff : ∀ x ∈ rest ++ chains.flatten, vq'.vring.desc x = vq.vring.desc x := fun x hx =>
    hE.desc x fun hxl => hnd.2.2 x hxl x hx rfl
  have hchain : ∀ c ∈ chains, ∀ x ∈ c, x ∈ rest ++ chains.flatten := fun c hc x hx =>
    List.mem_append_right _ (List.mem_flatten.mpr ⟨c, hc, hx⟩)
  refine ⟨?_, ?_, ?_, ?_, ?_⟩
  · obtain ⟨stop, hstop, hf⟩ := hwalk
    exact ⟨stop, by rw [hE.num]; exact hstop,
      hf.congr fun x hx => by rw [hoff x (List.mem_append_left _ hx)]⟩
  · have := hP.count
    rw [List.length_append] at this
    omega
  · intro c hc
    rcases List.mem_cons.mp hc with rfl | hc
    · exact ⟨h, t, hl, by rw [hE.data]; exact if_pos rfl⟩
    · obtain ⟨h', t', hc', ht'⟩ := hP.chain c hc
      refine ⟨h', t', hc'.congr fun x hx => hoff x (hchain c hc x hx), ?_⟩
      have hne : h' ≠ h := by
        rintro rfl
        exact hnd.2.2 h' hl.head_mem h' (hchain c hc h' hc'.head_mem) rfl
      rw [hE.data]
      exact (if_neg hne).trans ht'
  · intro h' t' ht'
    rw [hE.data] at ht'
    by_cases hh : h' = h
    · exact ⟨l, by simp, hh ▸ hl⟩
    · obtain ⟨c, hc, hch⟩ := hP.token h' t' (by simpa [hh] using ht')
      exact ⟨c, by simp [hc], hch.congr fun x hx => hoff x (hchain c hc x hx)⟩
  · rw [hE.num, List.flatten_cons]
    refine List.Perm.trans ?_ hP.cover
    rw [← List.append_assoc]
    exact List.perm_append_comm.append_right _

/-- What taking back the chain of `h` changes in the driver's own fields, next to the
descriptors on the chain. -/
structure Detached (vq vq' : Virtqueue τ) (h : Nat) (c : List Nat) : Prop where
  num : vq'.vring.num = vq.vring.num
  desc : ∀ x, x ∉ c → vq'.vring.desc x = vq.vring.desc x
  data : vq'.data = fun j => if j = h then none else vq.data j

/-- **Detaching a head with a token** ends, stays in range and keeps the partition: its
chain goes to the front of the free list. -/
theorem Partition.detach {vq : Virtqueue τ} {free : List Nat} {chains : List (List Nat)}
    (hP : Partition vq free chains) (hnum : vq.vring.num ≤ 32768) {h : Nat} {c : List Nat}
    (hc : c ∈ chains) (hch : IsChain vq.vring.desc h c) :
    ∃ desc' chains', chains.Perm (c :: chains') ∧
      let vq' := { vq.withDesc desc' with
        data := fun j => if j = h then none else vq.data j
        freeHead := h, numFree := vq.numFree + c.length }
      detachBuf vq h = .ok vq' ∧ Detached vq vq' h c ∧ Partition vq' (c ++ free) chains' := by
  classical
  obtain ⟨desc', hrun, hoff, hjoin⟩ := detachBuf_spec hch (hP.nodup_chain hc)
    (fun x hx => hP.lt_of_chain hc hx) (hP.chain_length_le hc)
  obtain ⟨chains', hperm⟩ : ∃ chains', chains.Perm (c :: chains') :=
    ⟨chains.erase c, List.perm_cons_erase hc⟩
  have hmem : ∀ c', c' ∈ chains ↔ c' = c ∨ c' ∈ chains' := fun c' => by
    rw [hperm.mem_iff, List.mem_cons]
  have hcover : (c ++ free ++ chains'.flatten).Perm (List.range vq.vring.num) := by
    refine List.Perm.trans ?_ hP.cover
    refine List.Perm.trans ?_ ((hperm.flatten).symm.append_left free)
    rw [List.flatten_cons, ← List.append_assoc]
    exact List.perm_append_comm.append_right _
  have hnd : (c ++ free ++ chains'.flatten).Nodup := hcover.nodup_iff.mpr List.nodup_range
  have hdisj : ∀ c' ∈ chains', ∀ x ∈ c', x ∉ c := fun c' hc' x hx hxc =>
    (List.nodup_append.mp hnd).2.2 x (List.mem_append_left _ hxc) x
      (List.mem_flatten.mpr ⟨c', hc', hx⟩) rfl
  refine ⟨desc', chains', hperm, hrun, ⟨rfl, hoff, rfl⟩, ?_, ?_, ?_, ?_, hcover⟩
  · obtain ⟨stop, hstop, hf⟩ := hP.walk
    have hu : u16 vq.freeHead = vq.freeHead :=
      Nat.mod_eq_of_lt (by have := hP.freeHead_lt; omega)
    exact ⟨stop, hstop, hjoin (fun x hx => hP.not_mem_free hc hx) (by rw [hu]; exact hf)⟩
  · change (c ++ free).length = vq.numFree + c.length
    rw [List.length_append, hP.count, Nat.add_comm]
  · intro c' hc'
    obtain ⟨h', t', hch', ht'⟩ := hP.chain c' ((hmem c').mpr (Or.inr hc'))
    refine ⟨h', t', hch'.congr fun x hx => hoff x (hdisj c' hc' x hx), ?_⟩
    have hne : h' ≠ h := by
      rintro rfl
      exact hdisj c' hc' h' hch'.head_mem hch.head_mem
    exact (if_neg hne).trans ht'
  · intro h' t' ht'
    have hne : h' ≠ h := by
      rintro rfl
      simp at ht'
    obtain ⟨c', hc', hch'⟩ := hP.token h' t' (by simpa [hne] using ht')
    have hc'' : c' ∈ chains' := by
      rcases (hmem c').mp hc' with rfl | hc''
      · have := hch'.head?.symm.trans hch.head?
        exact absurd (Option.some.inj this) hne
      · exact hc''
    exact ⟨c', hc'', hch'.congr fun x hx => hoff x (hdisj c' hc'' x hx)⟩

end VioGpu.VirtIO
