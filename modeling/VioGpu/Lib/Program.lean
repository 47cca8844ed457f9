import Mathlib.Tactic.Common

/-!
# Programs that call

A program is a tree of calls: each call is answered, and what follows depends on the answer. It
ends with a result, with a fault (an access that has no meaning), or unfinished, where a loop
was cut off.

A `Run` lets any answers come, and `exec` lets one environment answer. `Meets` is the condition
under which no run faults and every call is one that a monitor accepts; it is proved along the
structure of the program, and `Run.meets` says what it is worth.
-/

namespace VioGpu.Lib

inductive Program (C : Type) (Ans : C → Type) (α : Type)
  | done (a : α)
  | call (c : C) (next : Ans c → Program C Ans α)
  | fault
  | unfinished

/-- A call with its answer. -/
structure Answered (C : Type) (Ans : C → Type) where
  call : C
  answer : Ans call

inductive Outcome (α : Type)
  | done (a : α)
  | fault
  | unfinished
  deriving DecidableEq, Repr

namespace Program

variable {C : Type} {Ans : C → Type} {α β : Type}

protected def bind : Program C Ans α → (α → Program C Ans β) → Program C Ans β
  | done a, f => f a
  | call c next, f => call c fun answer => (next answer).bind f
  | fault, _ => fault
  | unfinished, _ => unfinished

instance : Monad (Program C Ans) where
  pure := done
  bind := Program.bind

/-- The program that is one call. -/
def ask (c : C) : Program C Ans (Ans c) := call c done

@[simp] theorem pure_eq_done (a : α) : (pure a : Program C Ans α) = done a := rfl

@[simp] theorem done_bind (a : α) (f : α → Program C Ans β) : done a >>= f = f a := rfl

@[simp] theorem call_bind (c : C) (next : Ans c → Program C Ans α) (f : α → Program C Ans β) :
    call c next >>= f = call c fun answer => next answer >>= f := rfl

@[simp] theorem fault_bind (f : α → Program C Ans β) : (fault : Program C Ans α) >>= f = fault :=
  rfl

@[simp] theorem unfinished_bind (f : α → Program C Ans β) :
    (unfinished : Program C Ans α) >>= f = unfinished := rfl

@[simp] theorem ask_bind (c : C) (f : Ans c → Program C Ans β) : ask c >>= f = call c f := rfl

/-! ## Runs -/

/-- The runs of a program: the calls made, with their answers, and the outcome. -/
inductive Run : Program C Ans α → List (Answered C Ans) → Outcome α → Prop
  | done (a : α) : Run (done a) [] (.done a)
  | call {c : C} {next : Ans c → Program C Ans α} (answer : Ans c) {events : List (Answered C Ans)}
      {outcome : Outcome α} : Run (next answer) events outcome →
        Run (call c next) (⟨c, answer⟩ :: events) outcome
  | fault : Run fault [] .fault
  | unfinished : Run unfinished [] .unfinished

theorem Run.of_call {c : C} {next : Ans c → Program C Ans α} {events : List (Answered C Ans)}
    {outcome : Outcome α} (h : Run (Program.call c next) events outcome) :
    ∃ answer rest, events = ⟨c, answer⟩ :: rest ∧ Run (next answer) rest outcome := by
  cases h with
  | call answer h => exact ⟨answer, _, rfl, h⟩

/-- A run of a sequence ends in its first part, or goes through both. -/
theorem Run.of_bind {p : Program C Ans α} {f : α → Program C Ans β} {events : List (Answered C Ans)}
    {outcome : Outcome β} (h : Run (p >>= f) events outcome) :
    (∃ a first second, events = first ++ second ∧ Run p first (.done a) ∧
      Run (f a) second outcome) ∨
    (Run p events .fault ∧ outcome = .fault) ∨
    (Run p events .unfinished ∧ outcome = .unfinished) := by
  induction p generalizing events with
  | done a => exact .inl ⟨a, [], events, rfl, .done a, h⟩
  | call c next ih =>
    rw [call_bind] at h
    cases h with
    | call answer h =>
      obtain ⟨a, first, second, rfl, hfirst, hsecond⟩ | ⟨hp, rfl⟩ | ⟨hp, rfl⟩ := ih answer h
      · exact .inl ⟨a, _ :: first, second, rfl, .call answer hfirst, hsecond⟩
      · exact .inr (.inl ⟨.call answer hp, rfl⟩)
      · exact .inr (.inr ⟨.call answer hp, rfl⟩)
  | fault =>
    cases h
    exact .inr (.inl ⟨.fault, rfl⟩)
  | unfinished =>
    cases h
    exact .inr (.inr ⟨.unfinished, rfl⟩)

/-- A run that ends with a result goes through both parts. -/
theorem Run.of_bind_done {p : Program C Ans α} {f : α → Program C Ans β}
    {events : List (Answered C Ans)} {b : β} (h : Run (p >>= f) events (.done b)) :
    ∃ a first second, events = first ++ second ∧ Run p first (.done a) ∧
      Run (f a) second (.done b) := by
  obtain hboth | ⟨-, hfault⟩ | ⟨-, hunfinished⟩ := h.of_bind
  · exact hboth
  · cases hfault
  · cases hunfinished

theorem Run.of_done {a b : α} {events : List (Answered C Ans)}
    (h : Run (Program.done a) events (.done b)) : events = [] ∧ a = b := by
  cases h
  exact ⟨rfl, rfl⟩

/-- Nothing in the program is cut off. -/
def Total : Program C Ans α → Prop
  | done _ => True
  | call _ next => ∀ answer, Total (next answer)
  | fault => True
  | unfinished => False

theorem Total.bind {p : Program C Ans α} {f : α → Program C Ans β} (h : p.Total)
    (hf : ∀ a, (f a).Total) : (p >>= f).Total := by
  induction p with
  | done a => exact hf a
  | call c next ih => exact fun answer => ih answer (h answer)
  | fault => trivial
  | unfinished => exact h.elim

theorem Run.ne_unfinished {p : Program C Ans α} {events : List (Answered C Ans)}
    {outcome : Outcome α} (hrun : Run p events outcome) (h : p.Total) :
    outcome ≠ .unfinished := by
  induction hrun with
  | done a => simp
  | call answer _ ih => exact ih (h answer)
  | fault => simp
  | unfinished => exact h.elim

/-! ## One environment -/

variable {S : Type} (answerOf : S → (c : C) → Ans c × S)

/-- The outcome where every call is answered by an environment with a state. -/
def exec : Program C Ans α → S → Outcome α × S
  | done a, s => (.done a, s)
  | call c next, s => exec (next (answerOf s c).1) (answerOf s c).2
  | fault, s => (.fault, s)
  | unfinished, s => (.unfinished, s)

/-- The calls made meanwhile. -/
def events : Program C Ans α → S → List (Answered C Ans)
  | done _, _ => []
  | call c next, s => ⟨c, (answerOf s c).1⟩ :: events (next (answerOf s c).1) (answerOf s c).2
  | fault, _ => []
  | unfinished, _ => []

theorem run_exec (p : Program C Ans α) (s : S) :
    Run p (p.events answerOf s) (p.exec answerOf s).1 := by
  induction p generalizing s with
  | done a => exact .done a
  | call c next ih => exact .call _ (ih _ _)
  | fault => exact .fault
  | unfinished => exact .unfinished

@[simp] theorem exec_done (a : α) (s : S) :
    (done a : Program C Ans α).exec answerOf s = (.done a, s) := rfl

@[simp] theorem exec_call (c : C) (next : Ans c → Program C Ans α) (s : S) :
    (call c next).exec answerOf s =
      (next (answerOf s c).1).exec answerOf (answerOf s c).2 := rfl

theorem exec_call_of_eq {answerOf : S → (c : C) → Ans c × S} {c : C} {s s' : S} {answer : Ans c}
    (h : answerOf s c = (answer, s')) (next : Ans c → Program C Ans α) :
    (call c next).exec answerOf s = (next answer).exec answerOf s' := by
  rw [exec_call, h]

theorem exec_bind_of_done {answerOf : S → (c : C) → Ans c × S} {p : Program C Ans α} {s s' : S}
    {a : α} (h : p.exec answerOf s = (.done a, s')) (f : α → Program C Ans β) :
    (p >>= f).exec answerOf s = (f a).exec answerOf s' := by
  induction p generalizing s with
  | done b =>
    obtain ⟨⟨⟩, rfl⟩ := Prod.mk.inj h
    rfl
  | call c next ih => exact ih _ h
  | fault => cases (Prod.mk.inj h).1
  | unfinished => cases (Prod.mk.inj h).1

theorem events_bind_of_done {answerOf : S → (c : C) → Ans c × S} {p : Program C Ans α} {s s' : S}
    {a : α} (h : p.exec answerOf s = (.done a, s')) (f : α → Program C Ans β) :
    (p >>= f).events answerOf s = p.events answerOf s ++ (f a).events answerOf s' := by
  induction p generalizing s with
  | done b =>
    obtain ⟨⟨⟩, rfl⟩ := Prod.mk.inj h
    rfl
  | call c next ih => exact congrArg (List.cons _) (ih _ h)
  | fault => cases (Prod.mk.inj h).1
  | unfinished => cases (Prod.mk.inj h).1

/-- Against the environment the program makes these calls, returns `a` and leaves `s'`. -/
structure Returns (answerOf : S → (c : C) → Ans c × S) (p : Program C Ans α) (s : S)
    (trace : List (Answered C Ans)) (a : α) (s' : S) : Prop where
  exec : p.exec answerOf s = (.done a, s')
  events : p.events answerOf s = trace

namespace Returns

variable {answerOf : S → (c : C) → Ans c × S} {s s' s'' : S} {a : α}

theorem done (a : α) (s : S) : Returns answerOf (done a) s [] a s := ⟨rfl, rfl⟩

theorem call {c : C} {next : Ans c → Program C Ans α} {answer : Ans c}
    {trace : List (Answered C Ans)} (h : answerOf s c = (answer, s'))
    (hnext : Returns answerOf (next answer) s' trace a s'') :
    Returns answerOf (call c next) s (⟨c, answer⟩ :: trace) a s'' where
  exec := (exec_call_of_eq h next).trans hnext.exec
  events := by
    rw [Program.events, h]
    exact congrArg (List.cons _) hnext.events

theorem bind {p : Program C Ans α} {f : α → Program C Ans β} {b : β}
    {first second : List (Answered C Ans)} (h : Returns answerOf p s first a s')
    (hf : Returns answerOf (f a) s' second b s'') :
    Returns answerOf (p >>= f) s (first ++ second) b s'' where
  exec := (exec_bind_of_done h.exec f).trans hf.exec
  events := by rw [events_bind_of_done h.exec, h.events, hf.events]

/-- Such a run is one of the program's runs. -/
theorem run {p : Program C Ans α} {trace : List (Answered C Ans)}
    (h : Returns answerOf p s trace a s') : Run p trace (.done a) := by
  have hrun := run_exec answerOf p s
  rwa [h.exec, h.events] at hrun

end Returns

/-! ## Monitored programs -/

variable {M : Type} (monitor : M → Answered C Ans → Option M) (allowed : Answered C Ans → Prop)

/-- As long as the answers are allowed, there is no fault, the monitor accepts every call, and
the result is as said. -/
def Meets : Program C Ans α → (α → M → Prop) → M → Prop
  | done a, post, m => post a m
  | call c next, post, m => ∀ answer, allowed ⟨c, answer⟩ →
      ∃ m', monitor m ⟨c, answer⟩ = some m' ∧ Meets (next answer) post m'
  | fault, _, _ => False
  | unfinished, _, _ => True

variable {monitor allowed} {post : α → M → Prop}

theorem Meets.mono {p : Program C Ans α} {post' : α → M → Prop} {m : M}
    (h : p.Meets monitor allowed post m) (himp : ∀ a m, post a m → post' a m) :
    p.Meets monitor allowed post' m := by
  induction p generalizing m with
  | done a => exact himp a m h
  | call c next ih =>
    intro answer hanswer
    obtain ⟨m', hm', hnext⟩ := h answer hanswer
    exact ⟨m', hm', ih answer hnext⟩
  | fault => exact h
  | unfinished => trivial

theorem Meets.bind {p : Program C Ans α} {f : α → Program C Ans β} {post' : β → M → Prop} {m : M}
    (h : p.Meets monitor allowed post m)
    (hf : ∀ a m, post a m → (f a).Meets monitor allowed post' m) :
    (p >>= f).Meets monitor allowed post' m := by
  induction p generalizing m with
  | done a => exact hf a m h
  | call c next ih =>
    intro answer hanswer
    obtain ⟨m', hm', hnext⟩ := h answer hanswer
    exact ⟨m', hm', ih answer hnext⟩
  | fault => exact h
  | unfinished => trivial

/-- What the condition says of the runs. -/
theorem Run.meets {p : Program C Ans α} {events : List (Answered C Ans)} {outcome : Outcome α}
    (hrun : Run p events outcome) {m : M} (h : p.Meets monitor allowed post m)
    (hallowed : ∀ e ∈ events, allowed e) :
    outcome ≠ .fault ∧ ∃ m', events.foldlM monitor m = some m' ∧
      ∀ a, outcome = .done a → post a m' := by
  induction hrun generalizing m with
  | done a =>
    refine ⟨by simp, m, rfl, ?_⟩
    rintro b ⟨⟩
    exact h
  | call answer _ ih =>
    obtain ⟨m', hm', hnext⟩ := h answer (hallowed _ List.mem_cons_self)
    obtain ⟨hfault, m'', hm'', hpost⟩ :=
      ih hnext fun e he => hallowed e (List.mem_cons_of_mem _ he)
    refine ⟨hfault, m'', ?_, hpost⟩
    rw [List.foldlM_cons, hm']
    exact hm''
  | fault => exact h.elim
  | unfinished => exact ⟨by simp, m, rfl, by simp⟩

end Program

end VioGpu.Lib
