import Mathlib.Tactic.Common

/-!
# Code that can fail

Rules for `Except`: how a failure goes through a sequence, and when a computation avoids
failures of a kind. `Avoids bad x` is proved along the structure of `x`.
-/

namespace VioGpu.Lib

variable {ε α β : Type}

@[simp] theorem ok_bind (a : α) (f : α → Except ε β) : ((Except.ok a : Except ε α) >>= f) = f a :=
  rfl

@[simp] theorem error_bind (e : ε) (f : α → Except ε β) :
    ((Except.error e : Except ε α) >>= f) = .error e := rfl

@[simp] theorem pure_eq_ok (a : α) : (pure a : Except ε α) = .ok a := rfl

/-- The result of a sequence comes from the results of its parts. -/
theorem bind_eq_ok {x : Except ε α} {f : α → Except ε β} {b : β} (h : x >>= f = .ok b) :
    ∃ a, x = .ok a ∧ f a = .ok b := by
  cases x with
  | error e => cases h
  | ok a => exact ⟨a, rfl, h⟩

/-- The computation does not fail with an error of this kind. -/
def Avoids (bad : ε → Prop) (x : Except ε α) : Prop := ∀ e, x = .error e → ¬bad e

namespace Avoids

variable {bad : ε → Prop}

theorem ok (a : α) : Avoids bad (.ok a : Except ε α) := nofun

theorem error {e : ε} (h : ¬bad e) : Avoids bad (.error e : Except ε α) := by
  rintro _ ⟨⟩
  exact h

theorem bind {x : Except ε α} {f : α → Except ε β} (h : Avoids bad x)
    (hf : ∀ a, x = .ok a → Avoids bad (f a)) : Avoids bad (x >>= f) := by
  cases x with
  | error e =>
    rintro _ ⟨⟩
    exact h e rfl
  | ok a => exact hf a rfl

theorem forM {l : List α} {f : α → Except ε Unit} (h : ∀ a, Avoids bad (f a)) :
    Avoids bad (l.forM f) := by
  induction l with
  | nil => exact ok ()
  | cons a l ih => exact (h a).bind fun _ _ => ih

end Avoids

end VioGpu.Lib
