import Mathlib.Data.List.Basic
import Mathlib.Tactic.Common

/-!
# Reading into one variable

A loop reads a value for each key into one variable, and takes the keys at which the variable passes
a test. A read that fails leaves the variable as it is. What is taken contains the keys whose own
value was read and passes, in their order, and it is the same just when no failed read leaves a
value that passes (`taken_eq_wanted_iff`).
-/

namespace VioGpu.Lib

variable {K α : Type}

/-- A key, and its value if that could be read. -/
structure Reading (K α : Type) where
  key : K
  value : Option α
  deriving DecidableEq, Repr

/-- The variable after the readings. -/
def leftover (old : α) (rs : List (Reading K α)) : α :=
  rs.foldl (fun old r => r.value.getD old) old

/-- A read fails while the variable has a value that passes. -/
def TakesLeftover (passes : α → Prop) (old : α) (rs : List (Reading K α)) : Prop :=
  ∃ a r b, rs = a ++ r :: b ∧ r.value = none ∧ passes (leftover old a)

section

variable {passes : α → Prop} {old : α} {r : Reading K α} {rs : List (Reading K α)}

theorem takesLeftover_nil : ¬TakesLeftover passes old ([] : List (Reading K α)) := by
  intro h
  obtain ⟨a, r, b, hnil, -⟩ := h
  simp at hnil

theorem takesLeftover_cons : TakesLeftover passes old (r :: rs) ↔
    (r.value = none ∧ passes old) ∨ TakesLeftover passes (r.value.getD old) rs := by
  constructor
  · intro h
    obtain ⟨a, s, b, hsplit, hfails, hpasses⟩ := h
    cases a with
    | nil =>
      obtain ⟨rfl, -⟩ := List.cons.inj hsplit
      exact .inl ⟨hfails, hpasses⟩
    | cons t a =>
      obtain ⟨rfl, rfl⟩ := List.cons.inj hsplit
      exact .inr ⟨a, s, b, rfl, hfails, hpasses⟩
  · intro h
    obtain ⟨hfails, hpasses⟩ | ⟨a, s, b, rfl, hfails, hpasses⟩ := h
    · exact ⟨[], r, rs, rfl, hfails, hpasses⟩
    · exact ⟨r :: a, s, b, rfl, hfails, hpasses⟩

end

variable (passes : α → Prop) [DecidablePred passes]

/-- What the loop takes: each key with the variable. -/
def taken : α → List (Reading K α) → List (K × α)
  | _, [] => []
  | old, r :: rs =>
    let value := r.value.getD old
    if passes value then (r.key, value) :: taken value rs else taken value rs

/-- The keys whose own value passes, with this value. -/
def wanted (rs : List (Reading K α)) : List (K × α) :=
  rs.filterMap fun r => r.value.bind fun value => if passes value then some (r.key, value) else none

variable {passes} {old : α} {r : Reading K α} {rs : List (Reading K α)}

theorem taken_cons : taken passes old (r :: rs) =
    (if passes (r.value.getD old) then [(r.key, r.value.getD old)] else []) ++
      taken passes (r.value.getD old) rs := by
  rw [taken]
  split_ifs <;> rfl

theorem wanted_cons : wanted passes (r :: rs) =
    (r.value.bind fun value => if passes value then some (r.key, value) else none).toList ++
      wanted passes rs := by
  unfold wanted
  rw [List.filterMap_cons]
  split <;> simp [*]

variable (passes) in
/-- What passes on its own is taken, in order. -/
theorem wanted_sublist_taken (old : α) (rs : List (Reading K α)) :
    (wanted passes rs).Sublist (taken passes old rs) := by
  induction rs generalizing old with
  | nil => exact List.Sublist.refl _
  | cons r rs ih =>
    rw [wanted_cons, taken_cons]
    refine List.Sublist.append ?_ (ih _)
    cases r.value with
    | none => exact List.nil_sublist _
    | some value =>
      rw [Option.bind_some, Option.getD_some]
      split_ifs
      · exact List.Sublist.refl _
      · exact List.Sublist.refl _

/-- **Nothing else is taken** just when no failed read leaves a value that passes. -/
theorem taken_eq_wanted_iff (old : α) (rs : List (Reading K α)) :
    taken passes old rs = wanted passes rs ↔ ¬TakesLeftover passes old rs := by
  induction rs generalizing old with
  | nil => exact iff_of_true rfl takesLeftover_nil
  | cons r rs ih =>
    rw [taken_cons, wanted_cons, takesLeftover_cons, not_or, ← ih]
    cases r.value with
    | none =>
      rw [Option.getD_none, Option.bind_none, Option.toList_none, List.nil_append]
      by_cases hpasses : passes old
      · -- one more is taken than passes on its own
        rw [if_pos hpasses]
        refine iff_of_false (fun heq => ?_) fun h => h.1 ⟨rfl, hpasses⟩
        have hlength := (wanted_sublist_taken passes old rs).length_le
        rw [← heq] at hlength
        simp only [List.singleton_append, List.length_cons] at hlength
        omega
      · rw [if_neg hpasses, List.nil_append]
        exact (and_iff_right fun h => hpasses h.2).symm
    | some value =>
      rw [Option.getD_some, Option.bind_some]
      split_ifs
      · simp
      · simp

end VioGpu.Lib
