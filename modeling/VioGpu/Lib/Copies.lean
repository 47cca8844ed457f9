import Mathlib.Algebra.Order.BigOperators.Group.List
import Mathlib.Algebra.Order.Group.Nat
import Mathlib.Logic.Nontrivial.Basic
import VioGpu.Lib.Overwrite

/-!
# Copies between two memories

A list of copies reads the addresses of one memory in a certain order and stores what it reads into
another one. The last copy to an address decides what is there afterwards (`applyAll_stores`), so
two lists of copies leave the same memory, whatever is in both memories before, exactly if the
last copies to every address read the same address (`same_stores_iff`).
-/

namespace VioGpu.Lib

/-- Two lists of pieces, of which the ones are never shorter than the others, are the same together
exactly if they are the same one by one. -/
theorem flatMap_eq_flatMap_iff {ι β : Type} {l : List ι} {f g : ι → List β}
    (h : ∀ x ∈ l, (f x).length ≤ (g x).length) :
    l.flatMap f = l.flatMap g ↔ ∀ x ∈ l, f x = g x := by
  constructor
  · intro heq
    induction l with
    | nil => simp
    | cons x l ih =>
      have hrest : ∀ y ∈ l, (f y).length ≤ (g y).length :=
        fun y hy => h y (List.mem_cons_of_mem x hy)
      have hle : (l.flatMap f).length ≤ (l.flatMap g).length := by
        rw [List.length_flatMap, List.length_flatMap]
        exact List.sum_le_sum hrest
      rw [List.flatMap_cons, List.flatMap_cons] at heq
      have hlength := congrArg List.length heq
      rw [List.length_append, List.length_append] at hlength
      have hfirst := h x List.mem_cons_self
      obtain ⟨hx, hl⟩ := List.append_inj heq (by omega)
      exact List.forall_mem_cons.mpr ⟨hx, ih hrest hl⟩
  · intro heq
    rw [List.flatMap_def, List.flatMap_def, List.map_congr_left heq]

/-- `count` values, from address `src` on to address `dst` on. -/
structure Copy where
  dst : Int
  src : Int
  count : Nat
  deriving DecidableEq, Repr

namespace Copy

variable {α : Type}

/-- The addresses that are read, in order. -/
def reads (c : Copy) : List Int := (List.range c.count).map fun i : Nat => c.src + i

def store (memory : Int → α) (c : Copy) : Store α := ⟨c.dst, readAt memory c.src c.count⟩

/-- The address that is read for `k`, if `k` is stored to. -/
def source (c : Copy) (k : Int) : Option Int :=
  if c.dst ≤ k ∧ k < c.dst + c.count then some (c.src + (k - c.dst)) else none

/-- The address that the last copy to `k` reads. -/
def lastSource (copies : List Copy) (k : Int) : Option Int :=
  copies.foldl (fun last c => (c.source k).or last) none

/-- The copies store to the same addresses from the same ones. -/
def Same (c d : Copy) : Prop := c.count = d.count ∧ (c.count = 0 ∨ c = d)

theorem store_apply (memory m : Int → α) (c : Copy) (k : Int) :
    (c.store memory).apply m k = (c.source k).elim (m k) memory := by
  unfold source
  split_ifs with hk
  · apply Store.apply_of_writes
    have hoffset : ((k - c.dst).toNat : Int) = k - c.dst := Int.toNat_of_nonneg (by omega)
    refine ⟨(k - c.dst).toNat, ?_, ?_⟩
    · rw [store, getElem?_readAt (by omega), hoffset]
      rfl
    · change k = c.dst + _
      omega
  · apply Store.apply_of_not_writes
    rintro v ⟨i, hi, heq⟩
    have hlt : i < c.count := by
      have hlt := (List.getElem?_eq_some_iff.mp hi).1
      rwa [store, length_readAt] at hlt
    change k = c.dst + i at heq
    exact hk ⟨by omega, by omega⟩

theorem foldl_source (copies : List Copy) (k : Int) (last : Option Int) :
    copies.foldl (fun last c => (c.source k).or last) last = (lastSource copies k).or last := by
  induction copies using List.reverseRecOn with
  | nil => rfl
  | append_singleton copies c ih =>
    rw [lastSource, List.foldl_append, List.foldl_append, ih]
    exact Option.or_assoc.symm

theorem lastSource_append (a b : List Copy) (k : Int) :
    lastSource (a ++ b) k = (lastSource b k).or (lastSource a k) := by
  rw [lastSource, List.foldl_append, foldl_source]
  rfl

theorem lastSource_cons (c : Copy) (copies : List Copy) (k : Int) :
    lastSource (c :: copies) k = (lastSource copies k).or (c.source k) := by
  rw [← List.singleton_append, lastSource_append]
  simp [lastSource]

theorem lastSource_eq_none_iff {copies : List Copy} {k : Int} :
    lastSource copies k = none ↔ ∀ c ∈ copies, c.source k = none := by
  induction copies with
  | nil => simp [lastSource]
  | cons c copies ih => simp [lastSource_cons, ih, and_comm]

theorem source_eq_none_iff {c : Copy} {k : Int} :
    c.source k = none ↔ ¬(c.dst ≤ k ∧ k < c.dst + c.count) := by
  unfold source
  split <;> simp_all

/-- **The last copy to an address** decides what is there. -/
theorem applyAll_stores (memory m : Int → α) (copies : List Copy) (k : Int) :
    applyAll (copies.map (store memory)) m k = (lastSource copies k).elim (m k) memory := by
  induction copies generalizing m with
  | nil => rfl
  | cons c copies ih =>
    rw [List.map_cons, ← List.singleton_append, applyAll_append, ih, lastSource_cons]
    cases lastSource copies k with
    | none => exact store_apply memory m c k
    | some a => rfl

theorem applyAll_congr_lastSource {a b : List Copy} (h : ∀ k, lastSource a k = lastSource b k)
    (memory m : Int → α) :
    applyAll (a.map (store memory)) m = applyAll (b.map (store memory)) m := by
  ext k
  rw [applyAll_stores, applyAll_stores, h]

/-- **Two lists of copies** leave the same memory exactly if the last copies to every address read
the same one. -/
theorem same_stores_iff [Nontrivial α] {a b : List Copy} :
    (∀ memory m : Int → α, applyAll (a.map (store memory)) m = applyAll (b.map (store memory)) m) ↔
      ∀ k, lastSource a k = lastSource b k := by
  constructor
  · intro h k
    obtain ⟨x, y, hne⟩ := exists_pair_ne α
    have hvalues : ∀ memory m : Int → α,
        (lastSource a k).elim (m k) memory = (lastSource b k).elim (m k) memory := by
      intro memory m
      rw [← applyAll_stores, ← applyAll_stores, h]
    cases ha : lastSource a k with
    | none =>
      cases hb : lastSource b k with
      | none => rfl
      | some j =>
        have hxy := hvalues (fun _ => y) fun _ => x
        rw [ha, hb] at hxy
        exact absurd hxy hne
    | some i =>
      -- a memory that has another value at `i` than anywhere else
      have hxy := hvalues (fun j => if j = i then x else y) fun _ => y
      rw [ha, Option.elim_some, if_pos rfl] at hxy
      cases hb : lastSource b k with
      | none =>
        rw [hb] at hxy
        exact absurd hxy hne
      | some j =>
        rw [hb, Option.elim_some] at hxy
        split_ifs at hxy with hij
        · rw [hij]
        · exact absurd hxy hne
  · intro h memory m
    exact applyAll_congr_lastSource h memory m

theorem Same.source_eq {c d : Copy} (h : c.Same d) (k : Int) : c.source k = d.source k := by
  obtain ⟨hcount, hzero | rfl⟩ := h
  · have hempty : d.count = 0 := hcount ▸ hzero
    unfold source
    rw [if_neg (by omega), if_neg (by omega)]
  · rfl

theorem lastSource_map_congr {ι : Type} {l : List ι} {f g : ι → Copy}
    (h : ∀ x ∈ l, (f x).Same (g x)) (k : Int) :
    lastSource (l.map f) k = lastSource (l.map g) k := by
  induction l with
  | nil => rfl
  | cons x l ih =>
    rw [List.map_cons, List.map_cons, lastSource_cons, lastSource_cons,
      (h x List.mem_cons_self).source_eq, ih fun y hy => h y (List.mem_cons_of_mem x hy)]

theorem lastSource_flatMap_congr {ι : Type} {l : List ι} {f g : ι → List Copy} {k : Int}
    (h : ∀ x ∈ l, lastSource (f x) k = lastSource (g x) k) :
    lastSource (l.flatMap f) k = lastSource (l.flatMap g) k := by
  induction l with
  | nil => rfl
  | cons x l ih =>
    rw [List.flatMap_cons, List.flatMap_cons, lastSource_append, lastSource_append,
      h x List.mem_cons_self, ih fun y hy => h y (List.mem_cons_of_mem x hy)]

/-! ## Rows of copies -/

/-- The copies read the same addresses in the same order and leave the same memory. -/
structure Alike (a b : List Copy) : Prop where
  reads : a.flatMap reads = b.flatMap reads
  lastSource : ∀ k, lastSource a k = lastSource b k

theorem Alike.trans {a b c : List Copy} (hab : Alike a b) (hbc : Alike b c) : Alike a c :=
  ⟨hab.reads.trans hbc.reads, fun k => (hab.lastSource k).trans (hbc.lastSource k)⟩

theorem Alike.cons (c : Copy) {a b : List Copy} (h : Alike a b) : Alike (c :: a) (c :: b) := by
  refine ⟨?_, fun k => ?_⟩
  · rw [List.flatMap_cons, List.flatMap_cons, h.reads]
  · rw [lastSource_cons, lastSource_cons, h.lastSource]

/-- An address is stored to by the first piece of a copy, or by the second, or by none. -/
theorem source_split (p q : Int) (n k : Nat) (x : Int) :
    (source ⟨p + n, q + n, k⟩ x).or (source ⟨p, q, n⟩ x) = source ⟨p, q, n + k⟩ x := by
  unfold source
  simp only [Int.natCast_add]
  by_cases hfirst : p ≤ x ∧ x < p + n
  · rw [if_neg (by omega), if_pos hfirst, if_pos (by omega), Option.none_or]
  · rw [if_neg hfirst, Option.or_none]
    by_cases hsecond : p + n ≤ x ∧ x < p + n + k
    · have hsrc : q + n + (x - (p + n)) = q + (x - p) := by omega
      rw [if_pos hsecond, if_pos (by omega), hsrc]
    · rw [if_neg hsecond, if_neg (by omega)]

/-- A copy in two pieces. -/
theorem alike_split (p q : Int) (n k : Nat) :
    Alike [⟨p, q, n⟩, ⟨p + n, q + n, k⟩] [⟨p, q, n + k⟩] := by
  constructor
  · have hshift : (List.range k).map (fun i : Nat => q + n + i) =
        ((List.range k).map (n + ·)).map fun i : Nat => q + (i : Int) := by
      rw [List.map_map]
      apply List.map_congr_left
      intro i _
      rw [Function.comp_apply, Int.natCast_add, Int.add_assoc]
    simp only [List.flatMap_cons, List.flatMap_nil, List.append_nil, reads, List.range_add,
      List.map_append, hshift]
  · intro x
    rw [lastSource_cons, lastSource_cons, lastSource_cons, ← source_split]
    rfl

/-- `m` copies of `n` values, each so many addresses after the one before. -/
def rows (p q : Int) (dstStep srcStep : Int) (n m : Nat) : List Copy :=
  (List.range m).map fun j : Nat => ⟨p + j * dstStep, q + j * srcStep, n⟩

/-- The next place of so many steps is one more step away. -/
theorem add_step (x step : Int) (j : Nat) : x + step + j * step = x + (j + 1 : Nat) * step := by
  rw [Int.natCast_add, Int.natCast_one, Int.add_mul, Int.one_mul, Int.add_assoc, Int.add_comm step]

theorem rows_succ (p q dstStep srcStep : Int) (n m : Nat) :
    rows p q dstStep srcStep n (m + 1) =
      ⟨p, q, n⟩ :: rows (p + dstStep) (q + srcStep) dstStep srcStep n m := by
  rw [rows, List.range_succ_eq_map, List.map_cons, List.map_map, Int.natCast_zero, Int.zero_mul,
    Int.zero_mul, Int.add_zero, Int.add_zero, rows]
  congr 1
  apply List.map_congr_left
  intro j _
  rw [Function.comp_apply, add_step, add_step]

/-- Copies that follow each other are one copy. -/
theorem alike_rows (p q : Int) (n m : Nat) : Alike (rows p q n n n m) [⟨p, q, m * n⟩] := by
  induction m generalizing p q with
  | zero =>
    rw [Nat.zero_mul]
    refine ⟨rfl, fun k => ?_⟩
    rw [lastSource_cons, source, if_neg (by simp)]
    rfl
  | succ m ih =>
    rw [rows_succ, Nat.succ_mul, Nat.add_comm]
    exact ((ih _ _).cons _).trans (alike_split p q n (m * n))

theorem reads_eq_iff {c d : Copy} :
    c.reads = d.reads ↔ c.count = d.count ∧ (d.count = 0 ∨ c.src = d.src) := by
  constructor
  · intro h
    have hcount : c.count = d.count := by simpa [reads] using congrArg List.length h
    refine ⟨hcount, ?_⟩
    by_cases hzero : d.count = 0
    · exact .inl hzero
    · have hfirst := congrArg (·[0]?) h
      simp only [reads, List.getElem?_map, List.getElem?_range (Nat.pos_of_ne_zero hzero),
        List.getElem?_range (hcount ▸ Nat.pos_of_ne_zero hzero)] at hfirst
      right
      simpa using hfirst
  · rintro ⟨hcount, hzero | hsrc⟩
    · rw [reads, reads, hcount, hzero]
      rfl
    · rw [reads, reads, hcount, hsrc]

/-- Rows that are never longer than others read the same if each does. -/
theorem rows_reads_eq_iff {p p' q d d' s s' : Int} {n n' m : Nat} (h : n ≤ n') :
    (rows p q d s n m).flatMap reads = (rows p' q d' s' n' m).flatMap reads ↔
      ∀ j < m, n = n' ∧ (n' = 0 ∨ (j : Int) * s = j * s') := by
  rw [rows, rows, List.flatMap_map, List.flatMap_map, flatMap_eq_flatMap_iff]
  · simp only [List.mem_range, reads_eq_iff, Int.add_right_inj]
  · intro j _
    simpa [reads] using h

theorem length_rows_reads (p q d s : Int) (n m : Nat) :
    ((rows p q d s n m).flatMap reads).length = m * n := by
  rw [rows, List.flatMap_map, List.length_flatMap]
  simp [reads]

end Copy

end VioGpu.Lib
