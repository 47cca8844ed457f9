import Mathlib.Logic.Function.Basic
import Mathlib.Data.List.Basic

/-!
# Values at places of a memory

`scatter m places values` is the memory `m` with the values stored at the places, one after the
other. If the places differ, the values are there afterwards (`map_scatter`); every other place
is as before (`scatter_of_notMem`).
-/

namespace VioGpu.Lib

variable {ι α : Type} [DecidableEq ι]

def scatter (m : ι → α) : List ι → List α → ι → α
  | place :: places, value :: values => scatter (Function.update m place value) places values
  | _, _ => m

theorem scatter_of_notMem (m : ι → α) {places : List ι} (values : List α) {i : ι}
    (h : i ∉ places) : scatter m places values i = m i := by
  induction places generalizing m values with
  | nil => rfl
  | cons place places ih =>
    rw [List.mem_cons, not_or] at h
    cases values with
    | nil => rfl
    | cons value values =>
      rw [scatter, ih _ values h.2, Function.update_of_ne h.1]

/-- Other places are as before. -/
theorem map_scatter_of_disjoint (m : ι → α) {places others : List ι} (values : List α)
    (h : places.Disjoint others) : others.map (scatter m places values) = others.map m := by
  apply List.map_congr_left
  intro i hi
  exact scatter_of_notMem m values fun hmem => h hmem hi

/-- **The values are at their places.** -/
theorem map_scatter (m : ι → α) {places : List ι} {values : List α} (hnodup : places.Nodup)
    (hlength : places.length = values.length) :
    places.map (scatter m places values) = values := by
  induction places generalizing m values with
  | nil => exact (List.length_eq_zero_iff.mp hlength.symm).symm
  | cons place places ih =>
    cases values with
    | nil => cases hlength
    | cons value values =>
      obtain ⟨hnew, hnodup⟩ := List.nodup_cons.mp hnodup
      rw [List.map_cons, scatter, scatter_of_notMem _ values hnew, Function.update_self,
        ih _ hnodup (Nat.succ.inj hlength)]

/-- A store leaves other places as they are. -/
theorem map_update_of_notMem (m : ι → α) {places : List ι} {i : ι} (value : α)
    (h : i ∉ places) : places.map (Function.update m i value) = places.map m := by
  apply List.map_congr_left
  intro j hj
  exact Function.update_of_ne (ne_of_mem_of_not_mem hj h) _ _

/-- A store to one of the places. -/
theorem map_update_of_getElem? (m : ι → α) {places : List ι} {i : Nat} {place : ι} (value : α)
    (hnodup : places.Nodup) (h : places[i]? = some place) :
    places.map (Function.update m place value) = (places.map m).set i value := by
  induction places generalizing i with
  | nil => cases h
  | cons first places ih =>
    obtain ⟨hnew, hnodup⟩ := List.nodup_cons.mp hnodup
    cases i with
    | zero =>
      obtain rfl : first = place := Option.some.inj h
      rw [List.map_cons, Function.update_self, map_update_of_notMem m value hnew]
      rfl
    | succ i =>
      have hne : first ≠ place := by
        rintro rfl
        exact hnew (List.mem_of_getElem? h)
      rw [List.map_cons, Function.update_of_ne hne, ih hnodup h]
      rfl

end VioGpu.Lib
