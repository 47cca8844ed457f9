import Mathlib.Logic.Relator
import Mathlib.Data.List.Range
import Mathlib.Tactic.Common

/-!
# Stores to a memory

A memory gives a value to every address. A `Store` puts values at consecutive addresses, and a
list of stores is carried out from its head on. If no two of them put different values at one
address, the memory afterwards depends only on which value is put where
(`applyAll_of_writes`, `applyAll_of_not_writes`), so neither the order of the stores nor a
repetition matters (`applyAll_congr`). Otherwise the last store to an address decides
(`applyAll_map_eq_iff`).
-/

namespace VioGpu.Lib

variable {α : Type}

/-- Values for the addresses from `start` on. -/
structure Store (α : Type) where
  start : Int
  values : List α
  deriving DecidableEq, Repr

/-- The values at `n` addresses from `p` on. -/
def readAt (m : Int → α) (p : Int) (n : Nat) : List α := (List.range n).map fun i : Nat => m (p + i)

@[simp] theorem length_readAt (m : Int → α) (p : Int) (n : Nat) : (readAt m p n).length = n := by
  simp [readAt]

theorem getElem?_readAt {m : Int → α} {p : Int} {n i : Nat} (h : i < n) :
    (readAt m p n)[i]? = some (m (p + i)) := by
  simp [readAt, h]

namespace Store

/-- The memory after a store. -/
def apply (s : Store α) (m : Int → α) : Int → α := fun k =>
  if s.start ≤ k then (s.values[(k - s.start).toNat]?).getD (m k) else m k

/-- The store puts `v` at address `k`. -/
def Writes (s : Store α) (k : Int) (v : α) : Prop :=
  ∃ i : Nat, s.values[i]? = some v ∧ k = s.start + i

theorem apply_of_writes {s : Store α} {k : Int} {v : α} (h : s.Writes k v) (m : Int → α) :
    s.apply m k = v := by
  obtain ⟨i, hv, rfl⟩ := h
  have hi : (s.start + i - s.start).toNat = i := by omega
  rw [apply, if_pos (by omega), hi, hv, Option.getD_some]

theorem apply_of_not_writes {s : Store α} {k : Int} (h : ∀ v, ¬s.Writes k v) (m : Int → α) :
    s.apply m k = m k := by
  unfold apply
  split_ifs with hk
  · cases hv : s.values[(k - s.start).toNat]? with
    | none => rfl
    | some v => exact absurd ⟨_, hv, by omega⟩ (h v)
  · rfl

end Store

/-- The memory after a list of stores. -/
def applyAll (stores : List (Store α)) (m : Int → α) : Int → α :=
  stores.foldl (fun m s => s.apply m) m

/-- One of the stores puts `v` at address `k`. -/
def Writes (stores : List (Store α)) (k : Int) (v : α) : Prop := ∃ s ∈ stores, s.Writes k v

theorem applyAll_append (a b : List (Store α)) (m : Int → α) :
    applyAll (a ++ b) m = applyAll b (applyAll a m) := List.foldl_append

theorem applyAll_of_not_writes {stores : List (Store α)} {k : Int}
    (h : ∀ v, ¬Writes stores k v) (m : Int → α) : applyAll stores m k = m k := by
  induction stores generalizing m with
  | nil => rfl
  | cons s stores ih =>
    have hs : s.apply m k = m k :=
      s.apply_of_not_writes (fun v hv => h v ⟨s, by simp, hv⟩) m
    have hrest : ∀ v, ¬Writes stores k v :=
      fun v ⟨t, ht, hv⟩ => h v ⟨t, List.mem_cons_of_mem s ht, hv⟩
    exact (ih hrest (s.apply m)).trans hs

/-- Where the stores agree, the memory has the value they agree on. -/
theorem applyAll_of_writes {stores : List (Store α)} (hunique : Relator.RightUnique (Writes stores))
    {k : Int} {v : α} (h : Writes stores k v) (m : Int → α) : applyAll stores m k = v := by
  induction stores using List.reverseRecOn with
  | nil => simp [Writes] at h
  | append_singleton stores s ih =>
    rw [applyAll_append]
    by_cases hlast : ∃ w, s.Writes k w
    · obtain ⟨w, hw⟩ := hlast
      obtain rfl : v = w := hunique h ⟨s, by simp, hw⟩
      exact s.apply_of_writes hw _
    · obtain ⟨t, ht, hv⟩ := h
      have hmem : t ∈ stores := by
        rcases List.mem_append.mp ht with ht | ht
        · exact ht
        · rw [List.mem_singleton.mp ht] at hv
          exact absurd ⟨v, hv⟩ hlast
      have hsub : ∀ {k w}, Writes stores k w → Writes (stores ++ [s]) k w :=
        fun ⟨t, ht, hw⟩ => ⟨t, List.mem_append_left [s] ht, hw⟩
      have hrest := ih (fun a b c hb hc => hunique (hsub hb) (hsub hc)) ⟨t, hmem, hv⟩
      exact (s.apply_of_not_writes (fun w hw => hlast ⟨w, hw⟩) _).trans hrest

/-- **Only what is written where matters.** -/
theorem applyAll_congr {a b : List (Store α)} (hunique : Relator.RightUnique (Writes a))
    (h : ∀ k v, Writes a k v ↔ Writes b k v) (m : Int → α) : applyAll a m = applyAll b m := by
  have hb : Relator.RightUnique (Writes b) :=
    fun k v w hv hw => hunique ((h k v).mpr hv) ((h k w).mpr hw)
  ext k : 1
  by_cases hk : ∃ v, Writes a k v
  · obtain ⟨v, hv⟩ := hk
    rw [applyAll_of_writes hunique hv, applyAll_of_writes hb ((h k v).mp hv)]
  · have hnone : ∀ v, ¬Writes a k v := fun v hv => hk ⟨v, hv⟩
    rw [applyAll_of_not_writes hnone,
      applyAll_of_not_writes fun v hv => hnone v ((h k v).mpr hv)]

/-! ## Stores in an order -/

/-- **The last store to an address** decides what is there: a value is kept exactly if whatever is
put there, and not replaced by a later store, is that value. -/
theorem applyAll_map_eq_iff {ι : Type} {r : ι → ι → Prop} {l : List ι} (hl : l.Pairwise r)
    (hr : ∀ x y, r x y → ¬r y x) (f : ι → Store α) {m : Int → α} {k : Int} {v : α}
    (hm : m k = v) :
    applyAll (l.map f) m k = v ↔ ∀ x ∈ l, ∀ w, (f x).Writes k w →
      (∀ y ∈ l, r x y → ∀ u, ¬(f y).Writes k u) → w = v := by
  induction l using List.reverseRecOn with
  | nil => simp [applyAll, hm]
  | append_singleton l a ih =>
    obtain ⟨hl, -, hlast⟩ := List.pairwise_append.mp hl
    have hafter : ∀ x ∈ l, r x a := fun x hx => hlast x hx a (List.mem_singleton_self a)
    have hself : ¬r a a := fun h => hr a a h h
    rw [List.map_append, applyAll_append]
    by_cases ha : ∃ w, (f a).Writes k w
    · obtain ⟨w, hw⟩ := ha
      have hvalue : applyAll [f a] (applyAll (l.map f) m) k = w := (f a).apply_of_writes hw _
      rw [List.map_singleton, hvalue]
      constructor
      · rintro rfl x hx u hu hnone
        rcases List.mem_append.mp hx with hx | hx
        · exact absurd hw (hnone a (by simp) (hafter x hx) w)
        · rw [List.mem_singleton.mp hx] at hu
          exact ((f a).apply_of_writes hu m).symm.trans ((f a).apply_of_writes hw m)
      · intro h
        refine h a (by simp) w hw fun y hy hay => ?_
        rcases List.mem_append.mp hy with hy | hy
        · exact absurd hay (hr y a (hafter y hy))
        · rw [List.mem_singleton.mp hy] at hay
          exact absurd hay hself
    · have hnone : ∀ w, ¬(f a).Writes k w := fun w hw => ha ⟨w, hw⟩
      have hvalue : applyAll [f a] (applyAll (l.map f) m) k = applyAll (l.map f) m k :=
        (f a).apply_of_not_writes hnone _
      rw [List.map_singleton, hvalue, ih hl]
      constructor
      · intro h x hx w hw hlater
        rcases List.mem_append.mp hx with hx | hx
        · exact h x hx w hw fun y hy => hlater y (List.mem_append_left [a] hy)
        · rw [List.mem_singleton.mp hx] at hw
          exact absurd hw (hnone w)
      · intro h x hx w hw hlater
        refine h x (List.mem_append_left [a] hx) w hw fun y hy hxy => ?_
        rcases List.mem_append.mp hy with hy | hy
        · exact hlater y hy hxy
        · rw [List.mem_singleton.mp hy]
          exact hnone

/-- The stores of a table, row by row. -/
theorem applyAll_rows_eq_iff (f : Nat → Nat → Store α) (rows columns : Nat) {m : Int → α} {k : Int}
    {v : α} (hm : m k = v) :
    applyAll ((List.range rows).flatMap fun j => (List.range columns).map (f j)) m k = v ↔
      ∀ j < rows, ∀ i < columns, ∀ w, (f j i).Writes k w →
        (∀ j' < rows, ∀ i' < columns, j < j' ∨ j = j' ∧ i < i' → ∀ u, ¬(f j' i').Writes k u) →
          w = v := by
  have htable : ((List.range rows).flatMap fun j => (List.range columns).map (f j)) =
      ((List.range rows).flatMap fun j => (List.range columns).map (Prod.mk j)).map
        fun p => f p.1 p.2 := by
    rw [List.map_flatMap]
    simp only [List.map_map]
    rfl
  have hpairwise : ((List.range rows).flatMap fun j => (List.range columns).map
      (Prod.mk j)).Pairwise fun p q => p.1 < q.1 ∨ p.1 = q.1 ∧ p.2 < q.2 := by
    refine List.pairwise_flatMap.mpr ⟨fun j _ => ?_, ?_⟩
    · refine List.pairwise_map.mpr ?_
      exact List.pairwise_lt_range.imp fun h => .inr ⟨rfl, h⟩
    · refine List.pairwise_lt_range.imp fun h p hp q hq => ?_
      obtain ⟨_, -, rfl⟩ := List.mem_map.mp hp
      obtain ⟨_, -, rfl⟩ := List.mem_map.mp hq
      exact .inl h
  rw [htable, applyAll_map_eq_iff hpairwise (by omega) _ hm]
  simp only [List.mem_flatMap, List.mem_map, List.mem_range, forall_exists_index, and_imp,
    Prod.forall, Prod.mk.injEq]
  constructor
  · intro h j hj i hi w hw hlater
    refine h j i j hj i hi rfl rfl w hw fun j' i' x hx y hy hxj hyi => ?_
    subst hxj hyi
    exact hlater x hx y hy
  · intro h j i x hx y hy hxj hyi w hw hlater
    subst hxj hyi
    exact h x hx y hy w hw fun j' hj' i' hi' => hlater j' i' j' hj' i' hi' rfl rfl

end VioGpu.Lib
