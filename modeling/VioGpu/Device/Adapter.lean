import VioGpu.Device.Callbacks

/-!
# The driver, its rings and the host

A callback decides what to do from the driver's state alone, and then does it effect by
effect, while the host works through the two rings, each in its own order. A command that
finds no room does not enter its ring, and the driver does not notice. A reset of the device
empties both rings and the host's table of resources.

The commands in a ring are all those that entered it since the last reset; a counter tells
how many of them the host has processed.
-/

namespace VioGpu.Device

open Lib Queue

/-- The three commands that make the resource of a new cursor. -/
inductive Making
  | create
  | attach
  | transfer
  deriving DecidableEq, Repr

instance (p : Making → Prop) [DecidablePred p] : Decidable (∀ k, p k) :=
  decidable_of_iff (p .create ∧ p .attach ∧ p .transfer)
    ⟨fun h k => by cases k; exacts [h.1, h.2.1, h.2.2], fun h => ⟨h _, h _, h _⟩⟩

/-- A queued command with the number of the object it was queued for. -/
abbrev Queued (γ : Type) := Nat × γ

/-- The command is this one of the three. -/
def Making.is : Making → CtrlCommand → Bool
  | .create, .resourceCreate2d .. => true
  | .attach, .resourceAttachBacking .. => true
  | .transfer, .transferToHost2d .. => true
  | _, _ => false

/-- One of these commands makes the object's resource in this way. -/
def Making.isIn (k : Making) (n : Nat) (l : List (Queued CtrlCommand)) : Bool :=
  l.any fun e => e.1 = n && k.is e.2

/-- One of these commands is the `UNREF` of the object. -/
def unrefIn (n : Nat) (l : List (Queued CtrlCommand)) : Bool :=
  l.any fun e => e.1 = n && match e.2 with | .resourceUnref _ => true | _ => false

/-- One of these commands is a `DETACH_BACKING` of the resource. -/
def detachIn (r : Nat) (l : List (Queued CtrlCommand)) : Bool :=
  l.any fun e => e.2 = .resourceDetachBacking r

/-- The command hands the memory of the object to the host, and none of those after it takes it
back. -/
def heldBy (n : Nat) (e : Queued CtrlCommand) (after : List (Queued CtrlCommand)) : Bool :=
  match e.2 with
  | .resourceAttachBacking r _ => e.1 = n && !detachIn r after
  | _ => false

/-- After these commands the host holds the memory of the object. -/
def heldAfter (n : Nat) : List (Queued CtrlCommand) → Bool
  | [] => false
  | e :: l => heldBy n e l || heldAfter n l

/-- `todo` is what the running callback has yet to do; `up` says that `m_pVirtQueue` is not
`NULL`; `deleted` are the objects whose memory is freed. `misordered` says that the host has
processed a cursor command at a moment at which the resource of its object was not ready. -/
structure Adapter where
  gpu : Gpu
  todo : List Effect
  up : Bool
  ctrl : List (Queued CtrlCommand)
  ctrlDone : Nat
  cursor : List (Queued CursorCommand)
  cursorDone : Nat
  deleted : List Nat
  misordered : Bool

inductive AdapterEvent
  | call (c : Callback)
  /-- the next effect; `entered` says whether a command finds room in its ring -/
  | perform (entered : Bool)
  | hostCtrl
  | hostCursor

namespace Adapter

/-- The control commands the host has processed. -/
def processed (s : Adapter) : List (Queued CtrlCommand) := s.ctrl.take s.ctrlDone

/-- The control commands the host has yet to process. -/
def waiting (s : Adapter) : List (Queued CtrlCommand) := s.ctrl.drop s.ctrlDone

/-- The host has created, backed and filled the resource of the object and has not dropped
it. -/
def Ready (s : Adapter) (n : Nat) : Prop :=
  (∀ k : Making, k.isIn n s.processed = true) ∧ unrefIn n s.processed = false

instance (s : Adapter) (n : Nat) : Decidable (s.Ready n) := inferInstanceAs (Decidable (_ ∧ _))

/-- The host holds the memory of the object or is about to: the `ATTACH_BACKING` is queued and
no `DETACH_BACKING` after it is processed. -/
def Outstanding (s : Adapter) (n : Nat) : Prop :=
  heldAfter n s.processed = true ∨ Making.attach.isIn n s.waiting = true

instance (s : Adapter) (n : Nat) : Decidable (s.Outstanding n) :=
  inferInstanceAs (Decidable (_ ∨ _))

/-- The next effect happens. A command for a queue object without a queue goes through `NULL`,
and no state follows. -/
def perform (s : Adapter) (entered : Bool) : Effect → Option Adapter
  | .ctrl n c =>
    if s.up then some (if entered then { s with ctrl := s.ctrl ++ [(n, c)] } else s) else none
  | .cursor n c =>
    if s.up then some (if entered then { s with cursor := s.cursor ++ [(n, c)] } else s) else none
  | .getId _ | .putId .. => some s
  | .delete n _ => some { s with deleted := s.deleted ++ [n] }
  | .reset => some { s with ctrl := [], ctrlDone := 0, cursor := [], cursorDone := 0 }
  | .setQueues up => some { s with up }

def step (s : Adapter) : AdapterEvent → Option Adapter
  | .call c =>
    if s.todo = [] then do
      let gpu ← s.gpu.callback c
      some { s with gpu, todo := gpu.effects.drop s.gpu.effects.length }
    else none
  | .perform entered =>
    match s.todo with
    | [] => none
    | e :: todo => { s with todo }.perform entered e
  | .hostCtrl =>
    if s.ctrlDone < s.ctrl.length then some { s with ctrlDone := s.ctrlDone + 1 } else none
  | .hostCursor => do
    let (n, _) ← s.cursor[s.cursorDone]?
    some { s with
      cursorDone := s.cursorDone + 1
      misordered := s.misordered || !decide (s.Ready n) }

/-- The state after `HWInit`. -/
def start (mode : CurrentBddMode) : Adapter where
  gpu := .start mode
  todo := []
  up := true
  ctrl := []
  ctrlDone := 0
  cursor := []
  cursorDone := 0
  deleted := []
  misordered := false

def system (mode : CurrentBddMode) : System Adapter AdapterEvent where
  init := start mode
  step := step

/-! ## Steps -/

/-- A callback starts when the one before it is done, and leaves its effects to do. -/
theorem step_call {s s' : Adapter} {c : Callback} (h : s.step (.call c) = some s') :
    s.todo = [] ∧ ∃ g l, s.gpu.callback c = some g ∧ g.effects = s.gpu.effects ++ l ∧
      s' = { s with gpu := g, todo := l } := by
  simp only [step] at h
  split_ifs at h with htodo
  obtain ⟨g, hg, h⟩ := Option.bind_eq_some_iff.mp h
  obtain ⟨l, hl⟩ := Gpu.effects_callback hg
  cases h
  exact ⟨htodo, g, l, hg, hl.symm, by rw [← hl, List.drop_left]⟩

theorem step_perform {s s' : Adapter} {entered : Bool} (h : s.step (.perform entered) = some s') :
    ∃ e todo, s.todo = e :: todo ∧ { s with todo }.perform entered e = some s' := by
  cases htodo : s.todo with
  | nil => simp [step, htodo] at h
  | cons e todo =>
    simp only [step, htodo] at h
    exact ⟨e, todo, rfl, h⟩

/-- A command enters its ring at the end or not at all. -/
theorem perform_ctrl {s s' : Adapter} {entered : Bool} {n : Nat} {c : CtrlCommand}
    (h : s.perform entered (.ctrl n c) = some s') :
    s' = { s with ctrl := s.ctrl ++ if entered then [(n, c)] else [] } := by
  simp only [perform] at h
  split_ifs at h with hup hentered
  · cases h
    rw [if_pos hentered]
  · cases h
    rw [if_neg hentered, List.append_nil]

theorem perform_cursor {s s' : Adapter} {entered : Bool} {n : Nat} {c : CursorCommand}
    (h : s.perform entered (.cursor n c) = some s') :
    s' = { s with cursor := s.cursor ++ if entered then [(n, c)] else [] } := by
  simp only [perform] at h
  split_ifs at h with hup hentered
  · cases h
    rw [if_pos hentered]
  · cases h
    rw [if_neg hentered, List.append_nil]

theorem step_hostCtrl {s s' : Adapter} (h : s.step .hostCtrl = some s') :
    s.ctrlDone < s.ctrl.length ∧ s' = { s with ctrlDone := s.ctrlDone + 1 } := by
  simp only [step] at h
  split_ifs at h with hlt
  exact ⟨hlt, (Option.some_inj.mp h).symm⟩

theorem step_hostCursor {s s' : Adapter} (h : s.step .hostCursor = some s') :
    ∃ n c, s.cursor[s.cursorDone]? = some (n, c) ∧ s' = { s with
      cursorDone := s.cursorDone + 1
      misordered := s.misordered || !decide (s.Ready n) } := by
  obtain ⟨⟨n, c⟩, hc, h⟩ := Option.bind_eq_some_iff.mp h
  exact ⟨n, c, hc, (Option.some_inj.mp h).symm⟩

end Adapter

/-! ## The history of effects -/

def sinceStep (since : List Effect) (e : Effect) : List Effect :=
  if e = .reset then [] else since ++ [e]

/-- The effects since the last reset of the device. -/
def sinceReset (l : List Effect) : List Effect := l.foldl sinceStep []

/-- The command makes the resource of the object in this way. -/
def Effect.makes (k : Making) (n : Nat) : Effect → Bool
  | .ctrl m c => m = n && k.is c
  | .cursor .. | .getId _ | .putId .. | .delete .. | .reset | .setQueues _ => false

/-- The command was queued for the object since the last reset. -/
def MadeSinceReset (k : Making) (effects : List Effect) (n : Nat) : Prop :=
  (sinceReset effects).any (Effect.makes k n) = true

instance (k : Making) (effects : List Effect) (n : Nat) : Decidable (MadeSinceReset k effects n) :=
  inferInstanceAs (Decidable (_ = true))

theorem foldl_sinceStep {l since : List Effect} (h : .reset ∉ l) :
    l.foldl sinceStep since = since ++ l := by
  induction l generalizing since with
  | nil => simp
  | cons e l ih =>
    rw [List.mem_cons, not_or] at h
    rw [List.foldl_cons, ih h.2, sinceStep, if_neg (Ne.symm h.1)]
    simp

theorem sinceReset_append {l l' : List Effect} (h : .reset ∉ l') :
    sinceReset (l ++ l') = sinceReset l ++ l' := by
  rw [sinceReset, List.foldl_append]
  exact foldl_sinceStep h

theorem sinceReset_concat (l : List Effect) (e : Effect) :
    sinceReset (l ++ [e]) = sinceStep (sinceReset l) e := by
  simp [sinceReset]

theorem madeSinceReset_append {k : Making} {l l' : List Effect} {n : Nat} (h : .reset ∉ l') :
    MadeSinceReset k (l ++ l') n ↔ MadeSinceReset k l n ∨ ∃ e ∈ l', e.makes k n = true := by
  rw [MadeSinceReset, MadeSinceReset, sinceReset_append h, List.any_append, Bool.or_eq_true,
    List.any_eq_true (l := l')]

theorem not_madeSinceReset_reset (k : Making) (l : List Effect) (n : Nat) :
    ¬MadeSinceReset k (l ++ [.reset]) n := by
  simp [MadeSinceReset, sinceReset_concat, sinceStep]

end VioGpu.Device
