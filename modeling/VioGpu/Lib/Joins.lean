import Mathlib.Data.List.Induction
import Mathlib.Order.Bounds.Basic
import Mathlib.Order.MinMax
import Mathlib.Tactic.Common

/-!
# The join of a list

A loop that joins the elements of a list one after the other and takes the first one as it is:
what it comes to is the least upper bound of the elements, whatever their order, and it is none
just when there are none.
-/

namespace VioGpu.Lib

variable {α β : Type}

section

variable [SemilatticeSup α] [SemilatticeSup β] {l l' : List α} {u : α}

/-- One turn: `acc` is `none` before the first element. -/
def joinNext (acc : Option α) (x : α) : Option α :=
  match acc with
  | none => some x
  | some a => some (x ⊔ a)

def joinAll (l : List α) : Option α := l.foldl joinNext none

theorem joinAll_concat (l : List α) (x : α) : joinAll (l ++ [x]) = joinNext (joinAll l) x := by
  rw [joinAll, List.foldl_append]
  rfl

theorem joinAll_eq_none_iff : joinAll l = none ↔ l = [] := by
  induction l using List.reverseRecOn with
  | nil => exact iff_of_true rfl rfl
  | append_singleton l x _ =>
    rw [joinAll_concat]
    refine iff_of_false ?_ (by simp)
    cases joinAll l with
    | none => exact Option.some_ne_none _
    | some a => exact Option.some_ne_none _

theorem isLUB_joinAll (h : joinAll l = some u) : IsLUB {x | x ∈ l} u := by
  induction l using List.reverseRecOn generalizing u with
  | nil => cases h
  | append_singleton l x ih =>
    have hmem : {y | y ∈ l ++ [x]} = insert x {y | y ∈ l} := by
      ext y
      simp [or_comm]
    rw [joinAll_concat] at h
    rw [hmem]
    cases hl : joinAll l with
    | none =>
      rw [hl] at h
      cases h
      obtain rfl := joinAll_eq_none_iff.mp hl
      simp
    | some a =>
      rw [hl] at h
      cases h
      exact (ih hl).insert x

/-- **The order does not matter**, nor how often an element is in the list. -/
theorem joinAll_congr (h : ∀ x, x ∈ l ↔ x ∈ l') : joinAll l = joinAll l' := by
  have hset : {x | x ∈ l} = {x | x ∈ l'} := Set.ext h
  cases hl : joinAll l with
  | none =>
    obtain rfl := joinAll_eq_none_iff.mp hl
    refine (joinAll_eq_none_iff.mpr ?_).symm
    exact List.eq_nil_iff_forall_not_mem.mpr fun x hx => List.not_mem_nil ((h x).mpr hx)
  | some u =>
    cases hl' : joinAll l' with
    | none =>
      obtain rfl := joinAll_eq_none_iff.mp hl'
      have hnil : l = [] :=
        List.eq_nil_iff_forall_not_mem.mpr fun x hx => List.not_mem_nil ((h x).mp hx)
      rw [hnil] at hl
      cases hl
    | some u' =>
      have hu := isLUB_joinAll hl
      rw [hset] at hu
      rw [hu.unique (isLUB_joinAll hl')]

/-- A map that keeps joins. -/
theorem joinAll_map {f : α → β} (hf : ∀ a b, f (a ⊔ b) = f a ⊔ f b) (l : List α) :
    joinAll (l.map f) = (joinAll l).map f := by
  induction l using List.reverseRecOn with
  | nil => rfl
  | append_singleton l x ih =>
    rw [List.map_append, List.map_singleton, joinAll_concat, joinAll_concat, ih]
    cases joinAll l with
    | none => rfl
    | some a => exact congrArg some (hf x a).symm

end

/-- In a linear order the join is one of the elements. -/
theorem isGreatest_joinAll [LinearOrder α] {l : List α} {u : α} (h : joinAll l = some u) :
    IsGreatest {x | x ∈ l} u := by
  refine ⟨?_, (isLUB_joinAll h).1⟩
  induction l using List.reverseRecOn generalizing u with
  | nil => cases h
  | append_singleton l x ih =>
    rw [joinAll_concat] at h
    cases hl : joinAll l with
    | none =>
      rw [hl] at h
      cases h
      simp
    | some a =>
      rw [hl] at h
      cases h
      obtain hmax | hmax := max_choice x a
      · exact List.mem_append_right _ (by simp [hmax])
      · refine List.mem_append_left _ ?_
        show max x a ∈ l
        rw [hmax]
        exact ih hl

section

variable [SemilatticeSup α] [LinearOrder β] {f : α → β} {l : List α} {u : α}

/-- A value that joins turn into the greater one. -/
theorem isGreatest_of_joinAll (hf : ∀ a b, f (a ⊔ b) = f a ⊔ f b) (h : joinAll l = some u) :
    IsGreatest {y | ∃ x ∈ l, f x = y} (f u) := by
  have hjoin : joinAll (l.map f) = some (f u) := by
    rw [joinAll_map hf, h, Option.map_some]
  have hgreatest := isGreatest_joinAll hjoin
  simp only [List.mem_map] at hgreatest
  exact hgreatest

/-- A value that joins turn into the less one. -/
theorem isLeast_of_joinAll (hf : ∀ a b, f (a ⊔ b) = f a ⊓ f b) (h : joinAll l = some u) :
    IsLeast {y | ∃ x ∈ l, f x = y} (f u) := by
  have hgreatest : IsGreatest {y : βᵒᵈ | ∃ x ∈ l, OrderDual.toDual (f x) = y}
      (OrderDual.toDual (f u)) :=
    isGreatest_of_joinAll (fun a b => congrArg OrderDual.toDual (hf a b)) h
  exact hgreatest

end

end VioGpu.Lib
