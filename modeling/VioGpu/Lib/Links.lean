import Mathlib.Data.List.Nodup
import Mathlib.Data.List.Perm.Basic
import Mathlib.Logic.Function.Iterate
import Mathlib.Tactic.Common

/-!
# Linked cells

Cells of a type `α` that hold a link to another cell each, given as a function
`next : α → α`. `Follows next a l b` says that a walk along the links starts at `a`, visits
the cells of `l` in order and then stands at `b`. A link may be stale: nothing is said about
the link of a cell outside `l`, and `b` is any cell.
-/

namespace VioGpu.Lib

variable {α : Type} {next next' : α → α}

/-- The walk from `a` along `next` visits the cells of `l` in order and then stands at `b`. -/
def Follows (next : α → α) : α → List α → α → Prop
  | a, [], b => a = b
  | a, x :: l, b => x = a ∧ Follows next (next x) l b

@[simp] theorem follows_nil {a b : α} : Follows next a [] b ↔ a = b := Iff.rfl

@[simp] theorem follows_cons {a b x : α} {l : List α} :
    Follows next a (x :: l) b ↔ x = a ∧ Follows next (next x) l b := Iff.rfl

theorem follows_append {a c : α} {l m : List α} :
    Follows next a (l ++ m) c ↔ ∃ b, Follows next a l b ∧ Follows next b m c := by
  induction l generalizing a with
  | nil => simp
  | cons x l ih => simp [ih, and_assoc]

theorem follows_snoc {a b e : α} {l : List α} :
    Follows next a (l ++ [e]) b ↔ Follows next a l e ∧ next e = b := by
  rw [follows_append]
  constructor
  · rintro ⟨c, hl, rfl, hb⟩
    exact ⟨hl, hb⟩
  · rintro ⟨hl, hb⟩
    exact ⟨e, hl, rfl, hb⟩

/-- A walk reads only the links of the cells it visits. -/
theorem Follows.congr {a b : α} {l : List α} (h : Follows next a l b)
    (hEq : ∀ x ∈ l, next' x = next x) : Follows next' a l b := by
  induction l generalizing a with
  | nil => exact h
  | cons x l ih =>
    obtain ⟨hx, hrest⟩ := h
    refine ⟨hx, ?_⟩
    rw [hEq x (by simp)]
    exact ih hrest fun y hy => hEq y (by simp [hy])

/-- The cells of a walk are the iterates of the link from its start. -/
theorem Follows.eq_map_iterate {a b : α} {l : List α} (h : Follows next a l b) :
    l = (List.range l.length).map fun k => next^[k] a := by
  induction l generalizing a with
  | nil => rfl
  | cons x l ih =>
    obtain ⟨rfl, hrest⟩ := h
    rw [List.length_cons, List.range_succ_eq_map, List.map_cons, List.map_map]
    simpa [Function.comp_def] using ih hrest

/-- Cells each linked to the next number are walked in order. -/
theorem follows_range' (next : Nat → Nat) {a n : Nat}
    (h : ∀ k, a ≤ k → k < a + n → next k = k + 1) :
    Follows next a (List.range' a n) (a + n) := by
  induction n generalizing a with
  | zero => rfl
  | succ n ih =>
    rw [List.range'_succ, follows_cons, h a (Nat.le_refl a) (by omega)]
    have hrest := ih (a := a + 1) fun k hk hlt => h k (by omega) (by omega)
    exact ⟨rfl, by rwa [show a + 1 + n = a + (n + 1) by omega] at hrest⟩

/-- **Putting a walk back.** When the link of the last cell `e` of a walk is set to the
start `b` of a second walk, and no other link changes, the two walks become one. -/
theorem Follows.join {a b c e : α} {l m : List α} (hl : Follows next a l e)
    (hm : Follows next b m c) (he : next' e = b) (hEq : ∀ x ∈ l ++ m, next' x = next x) :
    Follows next' a ((l ++ [e]) ++ m) c := by
  rw [follows_append]
  refine ⟨b, ?_, hm.congr fun x hx => hEq x (by simp [hx])⟩
  rw [follows_snoc]
  exact ⟨hl.congr fun x hx => hEq x (by simp [hx]), he⟩

end VioGpu.Lib
