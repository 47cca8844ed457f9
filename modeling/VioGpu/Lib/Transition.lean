import Mathlib.Tactic.Common

/-!
# Transition systems

A system is a guarded, executable step function: `step s e = some s'` when the event `e`
is enabled in `s` and leads to `s'`, and `none` when it is not enabled. Three things are
proved about runs:

* `ReachableUnder.induct`: an invariant that the initial state has and that every step
  taken under a condition `P` preserves holds in every state reached by such steps;
* `Steps.stable`: a property that every step keeps, once it holds, holds in every later
  state;
* `Simulates.reachable`: a simulation carries every reachable state of the concrete system
  to a reachable state of the abstract one.
-/

namespace VioGpu.Lib

/-- A transition system with one initial state and a guarded step function. -/
structure System (σ ε : Type) where
  init : σ
  step : σ → ε → Option σ

namespace System

variable {σ ε : Type} (sys : System σ ε)

/-- The states reached from the initial one by steps each of which meets `P`, a condition
on the state before the step and on the event. -/
inductive ReachableUnder (P : σ → ε → Prop) : σ → Prop
  | init : ReachableUnder P sys.init
  | step {s s' : σ} {e : ε} : ReachableUnder P s → P s e → sys.step s e = some s' →
      ReachableUnder P s'

/-- The states reached by any run. -/
abbrev Reachable : σ → Prop := sys.ReachableUnder fun _ _ => True

/-- `s'` is reached from `s` by zero or more steps. -/
inductive Steps (s : σ) : σ → Prop
  | refl : Steps s s
  | tail {t u : σ} {e : ε} : Steps s t → sys.step t e = some u → Steps s u

/-- The state a list of events leads to, if each of them is enabled in turn and meets `P`. -/
def runUnder (P : σ → ε → Prop) [∀ s e, Decidable (P s e)] (events : List ε) : Option σ :=
  events.foldlM (fun s e => if P s e then sys.step s e else none) sys.init

/-- The state a list of events leads to, if each of them is enabled in turn. -/
abbrev run (events : List ε) : Option σ := sys.runUnder (fun _ _ => True) events

variable {sys} {P : σ → ε → Prop}

/-- **Invariant rule.** -/
theorem ReachableUnder.induct (Inv : σ → Prop) (hInit : Inv sys.init)
    (hStep : ∀ s e s', Inv s → P s e → sys.step s e = some s' → Inv s')
    {s : σ} (h : sys.ReachableUnder P s) : Inv s := by
  induction h with
  | init => exact hInit
  | step _ hP hs ih => exact hStep _ _ _ ih hP hs

theorem ReachableUnder.mono {Q : σ → ε → Prop} (hPQ : ∀ s e, P s e → Q s e) {s : σ}
    (h : sys.ReachableUnder P s) : sys.ReachableUnder Q s := by
  induction h with
  | init => exact .init
  | step _ hP hs ih => exact .step ih (hPQ _ _ hP) hs

theorem ReachableUnder.reachable {s : σ} (h : sys.ReachableUnder P s) : sys.Reachable s :=
  h.mono fun _ _ _ => trivial

theorem reachable_of_run [∀ s e, Decidable (P s e)] {events : List ε} {s : σ}
    (h : sys.runUnder P events = some s) : sys.ReachableUnder P s := by
  have hfrom : ∀ (events : List ε) t, sys.ReachableUnder P t →
      events.foldlM (fun s e => if P s e then sys.step s e else none) t = some s →
      sys.ReachableUnder P s := by
    intro events
    induction events with
    | nil =>
      intro t ht hs
      cases hs
      exact ht
    | cons e events ih =>
      intro t ht hs
      rw [List.foldlM_cons] at hs
      split_ifs at hs with hP
      · cases hstep : sys.step t e with
        | none => simp [hstep] at hs
        | some t' =>
          rw [hstep] at hs
          exact ih t' (.step ht hP hstep) hs
      · cases hs
  exact hfrom events _ .init h

theorem Reachable.steps {s t : σ} (h : sys.Reachable s) (hst : sys.Steps s t) :
    sys.Reachable t := by
  induction hst with
  | refl => exact h
  | tail _ hs ih => exact .step ih trivial hs

/-- **Stability rule.** A property that every step from a reachable state keeps, once it
holds, holds in every later state. -/
theorem Steps.stable (Bad : σ → Prop)
    (hStep : ∀ s e s', sys.Reachable s → Bad s → sys.step s e = some s' → Bad s')
    {s t : σ} (hr : sys.Reachable s) (hs : Bad s) (h : sys.Steps s t) : Bad t := by
  induction h with
  | refl => exact hs
  | tail hst hstep ih => exact hStep _ _ _ (Reachable.steps hr hst) ih hstep

end System

/-- `R` relates the initial states, and every step of `c` from related states is matched
by a step of `a` or leaves the abstract state as it is. -/
structure Simulates {σ ε τ δ : Type} (c : System σ ε) (a : System τ δ) (R : σ → τ → Prop) :
    Prop where
  init : R c.init a.init
  step : ∀ s e s' t, R s t → c.step s e = some s' →
    R s' t ∨ ∃ d t', a.step t d = some t' ∧ R s' t'

theorem Simulates.reachable {σ ε τ δ : Type} {c : System σ ε} {a : System τ δ}
    {R : σ → τ → Prop} (h : Simulates c a R) {s : σ} (hs : c.Reachable s) :
    ∃ t, a.Reachable t ∧ R s t := by
  induction hs with
  | init => exact ⟨a.init, .init, h.init⟩
  | step _ _ hstep ih =>
    obtain ⟨t, ht, hR⟩ := ih
    rcases h.step _ _ _ _ hR hstep with hR' | ⟨d, t', hd, hR'⟩
    · exact ⟨t, ht, hR'⟩
    · exact ⟨t', .step ht trivial hd, hR'⟩

end VioGpu.Lib
