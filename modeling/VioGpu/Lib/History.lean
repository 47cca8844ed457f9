import Mathlib.Data.List.Induction
import Mathlib.Tactic.Common

/-!
# Histories

A list read as a history, the oldest entry first. `Since p q l` is the past-time operator: some
entry satisfies `p`, and none after it satisfies `q`. `forall_split_concat` extends a property
that relates each entry to the history before it.
-/

namespace VioGpu.Lib

variable {α : Type} {p q : α → Prop} {l : List α} {c : α}

/-- An entry that satisfies `p` occurs, and none that satisfies `q` comes after it. -/
def Since (p q : α → Prop) (l : List α) : Prop :=
  ∃ before c after, l = before ++ c :: after ∧ p c ∧ ∀ e ∈ after, ¬q e

/-- An entry of a longer history is the last one or is in the shorter history. -/
theorem concat_eq_append_cons {before after : List α} {d : α}
    (h : l ++ [c] = before ++ d :: after) :
    (l = before ∧ c = d) ∨ ∃ after', after = after' ++ [c] ∧ l = before ++ d :: after' := by
  rcases List.eq_nil_or_concat after with rfl | ⟨after', e, rfl⟩
  · obtain ⟨hl, hc⟩ := List.append_inj' h rfl
    exact .inl ⟨hl, List.singleton_inj.mp hc⟩
  · rw [List.concat_eq_append, ← List.cons_append, ← List.append_assoc] at h
    obtain ⟨hl, hc⟩ := List.append_inj' h rfl
    exact .inr ⟨after', by rw [List.concat_eq_append, hc], hl⟩

theorem not_since_nil : ¬Since p q [] := by
  rintro ⟨before, c, after, heq, -⟩
  simp at heq

theorem since_concat : Since p q (l ++ [c]) ↔ p c ∨ (¬q c ∧ Since p q l) := by
  constructor
  · rintro ⟨before, d, after, heq, hp, hq⟩
    rcases concat_eq_append_cons heq with ⟨-, rfl⟩ | ⟨after, rfl, hl⟩
    · exact .inl hp
    · exact .inr ⟨hq c (by simp), before, d, after, hl, hp, fun e he => hq e (by simp [he])⟩
  · rintro (hp | ⟨hq, before, d, after, rfl, hp, hafter⟩)
    · exact ⟨l, c, [], rfl, hp, by simp⟩
    · refine ⟨before, d, after ++ [c], by simp, hp, fun e he => ?_⟩
      rcases List.mem_append.mp he with he | he
      · exact hafter e he
      · rwa [List.mem_singleton.mp he]

/-- `P` holds of each entry of a longer history and what came before it when it does so in the
shorter one and for the last entry. -/
theorem forall_split_concat {P : List α → α → Prop} :
    (∀ before d after, l ++ [c] = before ++ d :: after → P before d) ↔
      (∀ before d after, l = before ++ d :: after → P before d) ∧ P l c := by
  constructor
  · intro hall
    refine ⟨fun before d after heq => hall before d (after ++ [c]) (by simp [heq]), ?_⟩
    exact hall l c [] rfl
  · rintro ⟨hl, hc⟩ before d after heq
    rcases concat_eq_append_cons heq with ⟨rfl, rfl⟩ | ⟨after, rfl, hl'⟩
    · exact hc
    · exact hl before d after hl'

end VioGpu.Lib
