import Mathlib.Data.List.Count
import Mathlib.Tactic.Common

/-!
# Ledgers

A ledger says what was acquired and what was released, in order. `held` replays it: a release
of what is not held has no result. A ledger is settled when its replay from nothing ends with
nothing, so that everything acquired was released exactly once and nothing else was.
-/

namespace VioGpu.Lib

/-- One line of a ledger. -/
inductive Entry (α : Type)
  | acquire (a : α)
  | release (a : α)
  deriving DecidableEq, Repr

variable {α : Type} [DecidableEq α]

/-- What is held after one more line. -/
def Entry.post (held : List α) : Entry α → Option (List α)
  | .acquire a => some (a :: held)
  | .release a => if a ∈ held then some (held.erase a) else none

/-- What is held after a ledger. -/
def held (before : List α) (ledger : List (Entry α)) : Option (List α) :=
  ledger.foldlM Entry.post before

/-- Everything acquired was released exactly once, and nothing else was released. -/
def Settled (ledger : List (Entry α)) : Prop := held [] ledger = some []

instance (ledger : List (Entry α)) : Decidable (Settled ledger) :=
  inferInstanceAs (Decidable (held [] ledger = some []))

@[simp] theorem held_nil (before : List α) : held before [] = some before := rfl

@[simp] theorem held_acquire (before : List α) (a : α) (ledger : List (Entry α)) :
    held before (.acquire a :: ledger) = held (a :: before) ledger := rfl

@[simp] theorem held_release (before : List α) (a : α) (ledger : List (Entry α)) :
    held before (.release a :: ledger) =
      if a ∈ before then held (before.erase a) ledger else none := by
  simp only [held, List.foldlM_cons, Entry.post]
  split <;> rfl

theorem held_append (before : List α) (l m : List (Entry α)) :
    held before (l ++ m) = (held before l).bind fun mid => held mid m := by
  simp [held, List.foldlM_append]

/-- What is held can be released, in any order. -/
theorem held_releases {l rest before : List α} (h : before.Perm (l ++ rest)) :
    ∃ after, held before (l.map .release) = some after ∧ after.Perm rest := by
  induction l generalizing before with
  | nil => exact ⟨before, rfl, h⟩
  | cons a l ih =>
    have hmem : a ∈ before := h.mem_iff.mpr List.mem_cons_self
    have herase : (before.erase a).Perm (l ++ rest) := by
      simpa using h.erase a
    rw [List.map_cons, held_release, if_pos hmem]
    exact ih herase

/-- Releasing everything leaves nothing exactly when it is what was held. -/
theorem held_releases_eq_nil {l before : List α} :
    held before (l.map .release) = some [] ↔ before.Perm l := by
  constructor
  · intro h
    induction l generalizing before with
    | nil =>
      cases h
      exact .nil
    | cons a l ih =>
      rw [List.map_cons, held_release] at h
      split_ifs at h with hmem
      exact (List.perm_cons_erase hmem).trans ((ih h).cons a)
  · intro hperm
    obtain ⟨after, hafter, hnil⟩ := held_releases (show before.Perm (l ++ []) by simpa using hperm)
    rw [hafter, hnil.eq_nil]

/-- What is held at the end and what was released, together, are what was held at the start
and what was acquired. -/
theorem count_of_held {ledger : List (Entry α)} {before after : List α}
    (h : held before ledger = some after) (a : α) :
    before.count a + ledger.count (.acquire a) = ledger.count (.release a) + after.count a := by
  induction ledger generalizing before with
  | nil =>
    rw [held_nil, Option.some.injEq] at h
    simp [h]
  | cons e ledger ih =>
    cases e with
    | acquire b =>
      have hcount := ih h
      by_cases hb : b = a
      · subst hb
        simp only [List.count_cons_self, List.count_cons_of_ne, ne_eq, reduceCtorEq,
          not_false_eq_true] at hcount ⊢
        omega
      · have hne : Entry.acquire b ≠ .acquire a := fun heq => hb (Entry.acquire.inj heq)
        simp only [List.count_cons_of_ne hb, List.count_cons_of_ne hne, List.count_cons_of_ne,
          ne_eq, reduceCtorEq, not_false_eq_true] at hcount ⊢
        exact hcount
    | release b =>
      rw [held_release] at h
      split_ifs at h with hmem
      have hcount := ih h
      by_cases hb : b = a
      · subst hb
        have hpos : 0 < before.count b := List.count_pos_iff.mpr hmem
        simp only [List.count_erase_self, List.count_cons_self, List.count_cons_of_ne, ne_eq,
          reduceCtorEq, not_false_eq_true] at hcount ⊢
        omega
      · have hne : Entry.release b ≠ .release a := fun heq => hb (Entry.release.inj heq)
        simp only [List.count_erase_of_ne (Ne.symm hb), List.count_cons_of_ne hne,
          List.count_cons_of_ne, ne_eq, reduceCtorEq, not_false_eq_true] at hcount ⊢
        exact hcount

theorem Settled.count_eq {ledger : List (Entry α)} (h : Settled ledger) (a : α) :
    ledger.count (.acquire a) = ledger.count (.release a) := by
  have hcount := count_of_held h a
  simpa using hcount

/-- A ledger without releases is settled when it is without acquisitions. -/
theorem settled_iff_of_no_release {ledger : List (Entry α)} (h : ∀ a, .release a ∉ ledger) :
    Settled ledger ↔ ∀ a, .acquire a ∉ ledger := by
  constructor
  · intro hs a
    rw [← List.count_eq_zero, hs.count_eq a, List.count_eq_zero]
    exact h a
  · intro hacq
    have hnil : ledger = [] := by
      apply List.eq_nil_iff_forall_not_mem.mpr
      intro e he
      cases e with
      | acquire a => exact hacq a he
      | release a => exact h a he
    rw [hnil]
    exact held_nil []

/-- A ledger without acquisitions is settled when it is without releases. -/
theorem settled_iff_of_no_acquire {ledger : List (Entry α)} (h : ∀ a, .acquire a ∉ ledger) :
    Settled ledger ↔ ∀ a, .release a ∉ ledger := by
  constructor
  · intro hs a
    rw [← List.count_eq_zero, ← hs.count_eq a, List.count_eq_zero]
    exact h a
  · intro hrel
    exact (settled_iff_of_no_release hrel).mpr h

end VioGpu.Lib
