import Mathlib.Logic.Relation
import VioGpu.Lib.Program

/-!
# Programs against an interface

The other side of an interface has a state. In each state the interface asks for some calls and
not for others, and a call may be answered in several ways, each with the state that follows.
A program keeps to the interface when every call that any of its runs comes to is one that is
asked for, whatever the answers before it were.

`Ensures` is the condition for it, along the structure of the program: it is proved for each part
of a program with what holds after it, and composed by `Ensures.bind`. What the interface itself
promises as long as its user keeps to it is an invariant of its answers (`Keeps.always`).
-/

namespace VioGpu.Lib

/-- `Requires s c`: in the state `s` the call `c` is asked for. `Answers s c a s'`: it may be
answered by `a`, and the state then is `s'`. -/
structure Interface (S C : Type) (Ans : C → Type) where
  Requires : S → C → Prop
  Answers : S → (c : C) → Ans c → S → Prop

namespace Interface

variable {S C : Type} {Ans : C → Type} {α β : Type} (i : Interface S C Ans)

/-- One call is made and answered. -/
inductive Step : Program C Ans α × S → Program C Ans α × S → Prop
  | call {c : C} {next : Ans c → Program C Ans α} {s s' : S} {answer : Ans c} :
      i.Answers s c answer s' → Step (.call c next, s) (next answer, s')

/-- What is left of a program, and the state, after some of its calls. -/
abbrev Reaches (p : Program C Ans α) (s : S) (p' : Program C Ans α) (s' : S) : Prop :=
  Relation.ReflTransGen i.Step (p, s) (p', s')

/-- Every call that a run comes to is one that the interface asks for. -/
def Keeps (p : Program C Ans α) (s : S) : Prop :=
  ∀ c next s', i.Reaches p s (.call c next) s' → i.Requires s' c

/-- What holds of the result and the state where a run ends with one. -/
def Yields (p : Program C Ans α) (post : α → S → Prop) (s : S) : Prop :=
  ∀ a s', i.Reaches p s (.done a) s' → post a s'

/-- Every call is one that is asked for, and `post` holds of the result. A run that faults or is
cut off has no result, but its calls up to there are asked for. -/
def Ensures : Program C Ans α → (α → S → Prop) → S → Prop
  | .done a, post, s => post a s
  | .call c next, post, s => i.Requires s c ∧
      ∀ answer s', i.Answers s c answer s' → Ensures (next answer) post s'
  | .fault, _, _ => True
  | .unfinished, _, _ => True

variable {i} {post : α → S → Prop}

@[simp] theorem ensures_done {a : α} {s : S} : i.Ensures (.done a) post s ↔ post a s := Iff.rfl

@[simp] theorem ensures_call {c : C} {next : Ans c → Program C Ans α} {s : S} :
    i.Ensures (.call c next) post s ↔ i.Requires s c ∧
      ∀ answer s', i.Answers s c answer s' → i.Ensures (next answer) post s' := Iff.rfl

@[simp] theorem ensures_ask {c : C} {post : Ans c → S → Prop} {s : S} :
    i.Ensures (Program.ask c) post s ↔ i.Requires s c ∧
      ∀ answer s', i.Answers s c answer s' → post answer s' := Iff.rfl

theorem Ensures.mono {p : Program C Ans α} {post' : α → S → Prop} {s : S}
    (h : i.Ensures p post s) (himp : ∀ a s, post a s → post' a s) : i.Ensures p post' s := by
  induction p generalizing s with
  | done a => exact himp a s h
  | call c next ih => exact ⟨h.1, fun answer s' hs' => ih answer (h.2 answer s' hs')⟩
  | fault => trivial
  | unfinished => trivial

theorem Ensures.bind {p : Program C Ans α} {f : α → Program C Ans β} {post' : β → S → Prop} {s : S}
    (h : i.Ensures p post s) (hf : ∀ a s, post a s → i.Ensures (f a) post' s) :
    i.Ensures (p >>= f) post' s := by
  induction p generalizing s with
  | done a => exact hf a s h
  | call c next ih => exact ⟨h.1, fun answer s' hs' => ih answer (h.2 answer s' hs')⟩
  | fault => trivial
  | unfinished => trivial

/-- The condition goes on to hold of what is left of the program. -/
theorem Ensures.reaches {p p' : Program C Ans α} {s s' : S} (h : i.Ensures p post s)
    (hreach : i.Reaches p s p' s') : i.Ensures p' post s' := by
  have hall : ∀ q : Program C Ans α × S, Relation.ReflTransGen i.Step (p, s) q →
      i.Ensures q.1 post q.2 := by
    intro q hq
    induction hq with
    | refl => exact h
    | tail _ hstep ih =>
      cases hstep with
      | call hanswer => exact ih.2 _ _ hanswer
  exact hall _ hreach

/-- **Soundness**: the program keeps to the interface. -/
theorem Ensures.keeps {p : Program C Ans α} {s : S} (h : i.Ensures p post s) : i.Keeps p s :=
  fun _ _ _ hreach => (h.reaches hreach).1

theorem Ensures.yields {p : Program C Ans α} {s : S} (h : i.Ensures p post s) :
    i.Yields p post s :=
  fun _ _ hreach => h.reaches hreach

/-- A loop over a list keeps what each of its turns keeps. -/
theorem Ensures.foldlM {σ ε : Type} {f : σ → ε → Program C Ans σ} {P : σ → S → Prop}
    (hturn : ∀ x e s, P x s → i.Ensures (f x e) P s) {l : List ε} {x : σ} {s : S}
    (h : P x s) : i.Ensures (l.foldlM f x) P s := by
  induction l generalizing x s with
  | nil => exact h
  | cons e l ih =>
    rw [List.foldlM_cons]
    exact (hturn x e s h).bind fun y s' hy => ih hy

end Interface

end VioGpu.Lib
