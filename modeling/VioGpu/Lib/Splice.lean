import Mathlib.Algebra.BigOperators.Group.List.Basic
import Mathlib.Algebra.Ring.Nat
import Mathlib.Tactic.Common

/-!
# Replacing one element of a list

`splice l i new` is `l` with its element number `i` replaced by the elements of `new`. A sum
over the list changes by the difference between the old and the new elements.
-/

namespace VioGpu.Lib

variable {α : Type}

/-- `l` with its element number `i` replaced by those of `new`. -/
def splice (l : List α) (i : Nat) (new : List α) : List α := l.take i ++ new ++ l.drop (i + 1)

theorem eq_take_cons_drop {l : List α} {i : Nat} {x : α} (h : l[i]? = some x) :
    l = l.take i ++ x :: l.drop (i + 1) := by
  obtain ⟨hi, rfl⟩ := List.getElem?_eq_some_iff.mp h
  rw [List.cons_getElem_drop_succ, List.take_append_drop]

theorem sum_map_splice {l : List α} {i : Nat} {x : α} (h : l[i]? = some x) (new : List α)
    (f : α → Nat) :
    ((splice l i new).map f).sum + f x = (l.map f).sum + (new.map f).sum := by
  have hl : (l.map f).sum = ((l.take i).map f).sum + (f x + ((l.drop (i + 1)).map f).sum) := by
    conv_lhs => rw [eq_take_cons_drop h]
    simp
  rw [hl]
  simp only [splice, List.map_append, List.sum_append]
  omega

theorem le_sum_map {l : List α} {x : α} (h : x ∈ l) (f : α → Nat) : f x ≤ (l.map f).sum := by
  obtain ⟨i, hi⟩ := List.mem_iff_getElem?.mp h
  have hsum := sum_map_splice hi [] f
  simp only [List.map_nil, List.sum_nil] at hsum
  omega

theorem mem_of_mem_splice {l new : List α} {i : Nat} {y : α} (h : y ∈ splice l i new) :
    y ∈ l ∨ y ∈ new := by
  simp only [splice, List.mem_append] at h
  obtain (h | h) | h := h
  · exact Or.inl (List.mem_of_mem_take h)
  · exact Or.inr h
  · exact Or.inl (List.mem_of_mem_drop h)

theorem mem_splice_of_ne {l new : List α} {i : Nat} {x y : α} (h : l[i]? = some x) (hy : y ∈ l)
    (hne : y ≠ x) : y ∈ splice l i new := by
  rw [eq_take_cons_drop h, List.mem_append, List.mem_cons] at hy
  simp only [splice, List.mem_append]
  tauto

theorem mem_splice_new {l new : List α} {i : Nat} {y : α} (h : y ∈ new) : y ∈ splice l i new := by
  simp [splice, h]

end VioGpu.Lib
