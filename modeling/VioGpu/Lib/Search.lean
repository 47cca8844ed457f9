import Mathlib.Data.Finset.Card
import VioGpu.Lib.Iterate
import VioGpu.Lib.Links

/-!
# Searching linked cells

Cells that hold a link to another cell each, with a cell `stop` for the end, are searched for those
of a kind `P`: `search` goes on for a bounded number of cells, and the search is taken up again
behind what it has found. With a bound for the number of cells the search sees each cell there is,
and the searches come to the end unless a cell of the kind is linked back to itself.
-/

namespace VioGpu.Lib

variable {α : Type} [DecidableEq α] {next : α → α} {P : α → Prop} [DecidablePred P] {stop : α}

/-- The first cell of the kind among `n` cells from one on, `stop` if there is none. -/
def search (next : α → α) (P : α → Prop) [DecidablePred P] (stop : α) : Nat → α → α
  | 0, _ => stop
  | n + 1, a => if a = stop then stop else if P a then a else search next P stop n (next a)

/-- The links lead from a cell of the kind back to it, on the way that starts with `a`. -/
def Loops (next : α → α) (P : α → Prop) (a : α) : Prop :=
  ∃ k m, 0 < m ∧ P (next^[k] a) ∧ next^[m] (next^[k] a) = next^[k] a

omit [DecidableEq α] [DecidablePred P] in
theorem iterate_stop (hstop : next stop = stop) {a : α} {i j : Nat} (hij : i ≤ j)
    (h : next^[i] a = stop) : next^[j] a = stop := by
  obtain ⟨d, rfl⟩ := Nat.exists_eq_add_of_le hij
  rw [Nat.add_comm, Function.iterate_add_apply, h]
  exact Function.iterate_fixed hstop d

variable (next P stop) in
/-- What has been found is of the kind, and what was passed is not. -/
theorem search_cases (n : Nat) (a : α) :
    search next P stop n a = stop ∨
      ∃ k, search next P stop n a = next^[k] a ∧ P (next^[k] a) ∧ next^[k] a ≠ stop := by
  induction n generalizing a with
  | zero => exact .inl rfl
  | succ n ih =>
    rw [search]
    split_ifs with hend hkind
    · exact .inl rfl
    · exact .inr ⟨0, rfl, hkind, hend⟩
    · obtain h | ⟨k, hk, hrest⟩ := ih (next a)
      · exact .inl h
      · exact .inr ⟨k + 1, hk, hrest⟩

/-- The first cell of the kind is found, if it is near enough. -/
theorem search_eq_iterate {n k : Nat} {a : α} (hk : k < n) (hkind : P (next^[k] a))
    (hfirst : ∀ j < k, ¬ P (next^[j] a)) (hstop : ∀ j ≤ k, next^[j] a ≠ stop) :
    search next P stop n a = next^[k] a := by
  induction n generalizing k a with
  | zero => omega
  | succ n ih =>
    have hne : a ≠ stop := hstop 0 (Nat.zero_le k)
    rw [search, if_neg hne]
    cases k with
    | zero => exact if_pos hkind
    | succ k =>
      have hpass : ¬ P a := hfirst 0 (by omega)
      rw [if_neg hpass]
      exact ih (a := next a) (by omega) hkind (fun j hj => hfirst (j + 1) (by omega))
        fun j hj => hstop (j + 1) (by omega)

section Bounded

variable {cells : Finset α} (hstop : next stop = stop) (hkindStop : ¬ P stop)

include hstop hkindStop

omit [DecidableEq α] [DecidablePred P] in
/-- The first cell of the kind comes before as many steps as there are cells: the cells up to it
are different from each other. -/
theorem first_lt_card {k : Nat} {a : α} (hcells : ∀ j, next^[j] a ∈ cells ∨ next^[j] a = stop)
    (hkind : P (next^[k] a)) (hfirst : ∀ j < k, ¬ P (next^[j] a)) : k < cells.card := by
  have hin : ∀ j ≤ k, next^[j] a ∈ cells := by
    intro j hj
    refine (hcells j).resolve_right fun h => hkindStop ?_
    rwa [iterate_stop hstop hj h] at hkind
  have hinj : ∀ i j, i < j → j ≤ k → next^[i] a ≠ next^[j] a := by
    intro i j hij hjk h
    have hskip := iterate_skip hij.le hjk h
    rw [← hskip] at hkind
    exact hfirst _ (by omega) hkind
  have hcard := Finset.card_le_card_of_injOn (s := Finset.range (k + 1)) (t := cells)
    (fun j => next^[j] a) (fun j hj => hin j (by simpa [Nat.lt_succ_iff] using hj)) (by
      intro i hi j hj h
      have hi : i < k + 1 := Finset.mem_range.mp (Finset.mem_coe.mp hi)
      have hj : j < k + 1 := Finset.mem_range.mp (Finset.mem_coe.mp hj)
      obtain hlt | heq | hgt := Nat.lt_trichotomy i j
      · exact absurd h (hinj i j hlt (by omega))
      · exact heq
      · exact absurd h.symm (hinj j i hgt (by omega)))
  rw [Finset.card_range] at hcard
  omega

/-- A search over all the cells comes to one of the kind if there is one, not behind it. -/
theorem exists_search_eq {n k : Nat} {a : α} (hn : cells.card ≤ n)
    (hcells : ∀ j, next^[j] a ∈ cells ∨ next^[j] a = stop) (hkind : P (next^[k] a)) :
    ∃ j ≤ k, search next P stop n a = next^[j] a := by
  classical
  have hex : ∃ j, P (next^[j] a) := ⟨k, hkind⟩
  have hfirst : ∀ j < Nat.find hex, ¬ P (next^[j] a) := fun j hj => Nat.find_min hex hj
  have hlt := first_lt_card hstop hkindStop hcells (Nat.find_spec hex) hfirst
  refine ⟨Nat.find hex, Nat.find_min' hex hkind, ?_⟩
  refine search_eq_iterate (by omega) (Nat.find_spec hex) hfirst fun j hj h => hkindStop ?_
  rw [← iterate_stop hstop hj h]
  exact Nat.find_spec hex

variable {n : Nat} {f : α → α} (hn : cells.card ≤ n)
  (hnext : ∀ a, next a ∈ cells ∨ next a = stop)
  (hf : ∀ v, v ≠ stop → f v = search next P stop n (next v))

include hn hnext hf

omit [DecidableEq α] [DecidablePred P] hstop hkindStop hn hf in
theorem iterate_mem {a : α} (ha : a ∈ cells ∨ a = stop) (j : Nat) :
    next^[j] a ∈ cells ∨ next^[j] a = stop := by
  cases j with
  | zero => exact ha
  | succ j =>
    rw [Function.iterate_succ_apply']
    exact hnext _

/-- A cell of the kind that is linked back to itself is never passed. -/
theorem searches_loop {a v : α} {m i : Nat} (ha : a ∈ cells ∨ a = stop) (hkind : P v) (hm : 0 < m)
    (hloop : next^[m] v = v) {k : Nat} (hk : next^[k] a = v) :
    f^[i] (search next P stop n a) ≠ stop ∧ ∃ j, next^[j] (f^[i] (search next P stop n a)) = v := by
  have hpass : ∀ {b : α} {k : Nat}, (b ∈ cells ∨ b = stop) → next^[k] b = v →
      search next P stop n b ≠ stop ∧ ∃ j, next^[j] (search next P stop n b) = v := by
    intro b k hb hk
    obtain ⟨j, hjk, hj⟩ := exists_search_eq hstop hkindStop hn (iterate_mem hnext hb)
      (k := k) (by rwa [hk])
    rw [hj]
    have hrest : next^[k - j] (next^[j] b) = v := by
      rw [← Function.iterate_add_apply, Nat.sub_add_cancel hjk, hk]
    refine ⟨fun h => hkindStop ?_, k - j, hrest⟩
    rw [h, Function.iterate_fixed hstop] at hrest
    rwa [hrest]
  induction i with
  | zero => exact hpass ha hk
  | succ i ih =>
    obtain ⟨hne, j, hj⟩ := ih
    rw [Function.iterate_succ_apply', hf _ hne]
    -- once more round, so that there is a step to take
    refine hpass (k := j + (m - 1)) (hnext _) ?_
    rw [← Function.iterate_succ_apply, show (j + (m - 1)).succ = m + j by omega,
      Function.iterate_add_apply, hj, hloop]

omit hstop hkindStop hn hnext in
/-- The search goes on in one direction. -/
theorem searches_forward {b : α} {i d : Nat} (h : f^[i + (d + 1)] b ≠ stop)
    (hne : ∀ j ≤ i + d, f^[j] b ≠ stop) :
    ∃ m, 0 < m ∧ f^[i + (d + 1)] b = next^[m] (f^[i] b) := by
  induction d with
  | zero =>
    rw [Function.iterate_succ_apply', hf _ (hne i (by omega))] at h ⊢
    obtain hend | ⟨k, hk, -⟩ := search_cases next P stop n
      (next (f^[i] b))
    · exact absurd hend h
    · exact ⟨k + 1, by omega, hk⟩
  | succ d ih =>
    obtain ⟨m, hm, heq⟩ := ih (hne _ (by omega)) fun j hj => hne j (by omega)
    have hi : i + (d + 1 + 1) = (i + (d + 1)) + 1 := by omega
    rw [hi, Function.iterate_succ_apply', hf _ (hne _ (by omega))] at h ⊢
    obtain hend | ⟨k, hk, -⟩ := search_cases next P stop n
      (next (f^[i + (d + 1)] b))
    · exact absurd hend h
    · refine ⟨k + 1 + m, by omega, ?_⟩
      rw [hk, heq, Function.iterate_add_apply]
      rfl

omit hstop hkindStop hn hnext in
/-- What the searches find is of the kind, and on the way. -/
theorem searches_found {a : α} (hne : ∀ i, f^[i] (search next P stop n a) ≠ stop) (i : Nat) :
    ∃ k, f^[i] (search next P stop n a) = next^[k] a ∧ P (next^[k] a) := by
  induction i with
  | zero =>
    obtain hend | ⟨k, hk, hkind, -⟩ := search_cases next P stop n a
    · exact absurd hend (hne 0)
    · exact ⟨k, hk, hkind⟩
  | succ i ih =>
    obtain ⟨k, hk, -⟩ := ih
    have hstep := hne (i + 1)
    rw [Function.iterate_succ_apply', hf _ (hne i), hk] at hstep
    rw [Function.iterate_succ_apply', hf _ (hne i), hk]
    obtain hend | ⟨k', hk', hkind, -⟩ := search_cases next P stop n
      (next (next^[k] a))
    · exact absurd hend hstep
    · rw [← Function.iterate_succ_apply' next, ← Function.iterate_add_apply] at hk' hkind
      exact ⟨k' + k.succ, by rw [← hk', Function.iterate_succ_apply'], hkind⟩

/-- The searches, each behind what the last one has found, come to the end unless a cell of the
kind is linked back to itself. -/
theorem searches_end_iff [Fintype α] {a : α} (ha : a ∈ cells ∨ a = stop) :
    (∃ k, f^[k] (search next P stop n a) = stop) ↔ ¬ Loops next P a := by
  constructor
  · intro hends hloops
    obtain ⟨i, hi⟩ := hends
    obtain ⟨k, m, hm, hkind, hloop⟩ := hloops
    exact (searches_loop hstop hkindStop hn hnext hf ha hkind hm hloop rfl).1 hi
  · intro hloops
    by_contra hnever
    have hne : ∀ i, f^[i] (search next P stop n a) ≠ stop := fun i hi => hnever ⟨i, hi⟩
    -- two of the cells found are the same one
    obtain ⟨i, j, hij, heq⟩ := Fintype.exists_ne_map_eq_of_card_lt
      (fun k : Fin (Fintype.card α + 1) => f^[k] (search next P stop n a)) (by simp)
    wlog hlt : i < j generalizing i j
    · exact this j i hij.symm heq.symm (lt_of_le_of_ne (not_lt.mp hlt) hij.symm)
    have hd : (j : Nat) = i + ((j - i - 1) + 1) := by
      have : (i : Nat) < j := hlt
      omega
    obtain ⟨m, hm, hback⟩ : ∃ m, 0 < m ∧ f^[i + ((j - i - 1) + 1)] (search next P stop n a) =
        next^[m] (f^[i] (search next P stop n a)) :=
      searches_forward hf (hd ▸ hne j) fun k _ => hne k
    rw [← hd] at hback
    obtain ⟨k, hk, hkind⟩ := searches_found (a := a) hf hne i
    refine hloops ⟨k, m, hm, hk ▸ hkind, ?_⟩
    rw [← hk, ← hback]
    exact heq.symm

end Bounded

/-! ## Cells that are walked to the end -/

omit [DecidableEq α] [DecidablePred P] in
theorem Follows.iterate_length {a b : α} {l : List α} (h : Follows next a l b) :
    next^[l.length] a = b := by
  induction l generalizing a with
  | nil => exact h
  | cons x l ih =>
    obtain ⟨rfl, hrest⟩ := h
    exact ih hrest

omit [DecidableEq α] [DecidablePred P] in
theorem Follows.mem_iff {a b x : α} {l : List α} (h : Follows next a l b) :
    x ∈ l ↔ ∃ k < l.length, next^[k] a = x := by
  rw [h.eq_map_iterate]
  simp only [List.mem_map, List.mem_range, List.length_map, List.length_range]

omit [DecidableEq α] [DecidablePred P] in
/-- A walk to the end meets no cell twice. -/
theorem Follows.nodup {a : α} {l : List α} (h : Follows next a l stop) (hnot : stop ∉ l) :
    l.Nodup := by
  have hinj : ∀ i j, i < j → j < l.length → next^[i] a ≠ next^[j] a := by
    intro i j hij hj heq
    have hend := iterate_skip hij.le hj.le heq
    rw [h.iterate_length] at hend
    exact hnot (h.mem_iff.mpr ⟨_, by omega, hend⟩)
  rw [h.eq_map_iterate]
  refine List.Nodup.map_on ?_ List.nodup_range
  intro i hi j hj heq
  rw [List.mem_range] at hi hj
  obtain hlt | rfl | hgt := Nat.lt_trichotomy i j
  · exact absurd heq (hinj i j hlt hj)
  · rfl
  · exact absurd heq.symm (hinj j i hgt hi)

omit [DecidablePred P] in
/-- It has as many as there are at most. -/
theorem Follows.length_le {a : α} {l : List α} {cells : Finset α} (h : Follows next a l stop)
    (hnot : stop ∉ l) (hcells : ∀ j, next^[j] a ∈ cells ∨ next^[j] a = stop) :
    l.length ≤ cells.card := by
  rw [← List.toFinset_card_of_nodup (h.nodup hnot)]
  refine Finset.card_le_card fun x hx => ?_
  rw [List.mem_toFinset] at hx
  obtain ⟨k, -, rfl⟩ := h.mem_iff.mp hx
  exact (hcells k).resolve_right fun hend => hnot (hend ▸ hx)

/-- A search finds the first cell of the kind of a walk to the end, with the rest of the walk
behind it. -/
theorem search_follows {n : Nat} {a : α} {l : List α} (h : Follows next a l stop)
    (hnot : stop ∉ l) (hn : l.length ≤ n) :
    (search next P stop n a = stop ∧ l.filter P = []) ∨
      ∃ v l', search next P stop n a = v ∧ v ≠ stop ∧ l.filter P = v :: l'.filter P ∧
        Follows next (next v) l' stop ∧ stop ∉ l' ∧ l'.length < l.length := by
  induction l generalizing n a with
  | nil =>
    obtain rfl : a = stop := h
    refine .inl ⟨?_, rfl⟩
    cases n with
    | zero => rfl
    | succ n => exact if_pos rfl
  | cons x l ih =>
    obtain ⟨rfl, hrest⟩ := h
    obtain ⟨hne, hnot⟩ := not_or.mp (mt List.mem_cons.mpr hnot)
    obtain ⟨n, rfl⟩ : ∃ n', n = n' + 1 := ⟨n - 1, by simp at hn; omega⟩
    rw [search, if_neg (Ne.symm hne)]
    by_cases hkind : P x
    · rw [if_pos hkind]
      refine .inr ⟨x, l, rfl, Ne.symm hne, ?_, hrest, hnot, Nat.lt_succ_self _⟩
      exact List.filter_cons_of_pos (by simpa using hkind)
    · rw [if_neg hkind, List.filter_cons_of_neg (by simpa using hkind)]
      obtain hnone | ⟨v, l', hv, hstop, hfilter, hwalk, hnot', hlt⟩ :=
        ih hrest hnot (Nat.le_of_succ_le_succ hn)
      · exact .inl hnone
      · exact .inr ⟨v, l', hv, hstop, hfilter, hwalk, hnot', Nat.lt_succ_of_lt hlt⟩

end VioGpu.Lib
