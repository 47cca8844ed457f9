import VioGpu.Device.VidPnCalls
import Mathlib.Algebra.Order.Group.Multiset

/-!
# Handles and their cleanup

The functions that go through a VidPn keep the objects of the OS in variables, leave their loops
at the first failure, and end in a cleanup that looks at the variables: what is not 0 or `NULL`
is released.
-/

namespace VioGpu.Device

open Lib Program VidPnCall

/-- A variable used where it must hold a handle or a pointer. -/
def theHandle : Option Nat → VidPnProgram Nat
  | some handle => .done handle
  | none => .fault

/-- The variables of one kind of mode set: `hVidPn*ModeSet`, whether `pVidPn*ModeSetInterface` is
set, and `pVidPnPinned*ModeInfo`. -/
structure ModeSetVars where
  modeSet : Option Nat := none
  interface : Bool := false
  pinned : Option Nat := none

/-- The end of a part of the loop body: on to the next part, or out of the loop with a status. -/
inductive Flow (V : Type)
  | goOn (v : V)
  | stop (v : V) (status : Status)

/-- A part of the loop body, and what comes after it. -/
def andThen {V : Type} (part : VidPnProgram (Flow V)) (next : V → VidPnProgram (Flow V)) :
    VidPnProgram (Flow V) := do
  match ← part with
  | .goOn v => next v
  | .stop v status => return .stop v status

/-- A pinned mode that is left is released. -/
def cleanUpPinned (kind : ModeKind) (w : ModeSetVars) : VidPnProgram Unit :=
  match w.interface, w.pinned with
  | true, some pinned => do
    let modeSet ← theHandle w.modeSet
    let _ ← ask (releaseModeInfo kind modeSet pinned)
    return ()
  | _, _ => return ()

/-- A path that is left is released. -/
def cleanUpPath : Option Nat → VidPnProgram Unit
  | some path => do
    let _ ← ask (releasePathInfo path)
    return ()
  | none => return ()

/-- A mode set that is left is released. -/
def cleanUpModeSet (kind : ModeKind) : Option Nat → VidPnProgram Unit
  | some modeSet => do
    let _ ← ask (releaseModeSet kind modeSet)
    return ()
  | none => return ()

/-! ### What they do to objects -/

/-- An object that may be there. -/
def maybe : Option VidPnObject → Multiset VidPnObject
  | some a => {a}
  | none => 0

@[simp] theorem maybe_some (a : VidPnObject) : maybe (some a) = {a} := rfl

@[simp] theorem maybe_none : maybe none = 0 := rfl

section Triples

variable {allowed : Answered VidPnCall VidPnCall.Ans → Prop} {own : Multiset VidPnObject}
variable {kind : ModeKind}

theorem triple_theHandle {handle : Option Nat} {h : Nat} (hh : handle = some h) {β : Type}
    {next : Nat → VidPnProgram β} {post : β → Multiset VidPnObject → Prop}
    (hnext : Triple vidPnDeeds allowed own (next h) post) :
    Triple vidPnDeeds allowed own (theHandle handle >>= next) post := by
  rw [hh]
  exact hnext

theorem triple_cleanUpPinned {w : ModeSetVars} (hinterface : w.pinned ≠ none → w.interface = true)
    (hs : w.pinned ≠ none → ∃ s, w.modeSet = some s ∧ .modeSet kind s ∈ own) :
    Triple vidPnDeeds allowed (maybe (w.pinned.map (.modeInfo kind)) + own)
      (cleanUpPinned kind w) fun _ own' => own' = own := by
  obtain ⟨modeSet, interface, pinned⟩ := w
  cases pinned with
  | none => cases interface <;> exact .done (Multiset.zero_add own)
  | some i =>
    obtain rfl : interface = true := hinterface (by simp)
    obtain ⟨s, rfl, hmem⟩ := hs (by simp)
    have hmem' : .modeSet kind s ∈ {.modeInfo kind i} + own := Multiset.mem_add.mpr (.inr hmem)
    apply Triple.call
    intro answer _
    rw [Option.map_some, maybe_some, Multiset.singleton_add] at *
    cases answer with
    | error code => exact ⟨own, .use hmem' (.leave (.nil own)), .done rfl⟩
    | ok => exact ⟨own, .use hmem' (.release (.nil own)), .done rfl⟩

theorem triple_cleanUpPath (path : Option Nat) :
    Triple vidPnDeeds allowed (maybe (path.map .path) + own) (cleanUpPath path)
      fun _ own' => own' = own := by
  cases path with
  | none => exact .done (Multiset.zero_add own)
  | some p =>
    apply Triple.call
    intro answer _
    rw [Option.map_some, maybe_some, Multiset.singleton_add]
    cases answer with
    | error code => exact ⟨own, .leave (.nil own), .done rfl⟩
    | ok => exact ⟨own, .release (.nil own), .done rfl⟩

theorem triple_cleanUpModeSet (modeSet : Option Nat) :
    Triple vidPnDeeds allowed (maybe (modeSet.map (.modeSet kind)) + own)
      (cleanUpModeSet kind modeSet) fun _ own' => own' = own := by
  cases modeSet with
  | none => exact .done (Multiset.zero_add own)
  | some s =>
    apply Triple.call
    intro answer _
    rw [Option.map_some, maybe_some, Multiset.singleton_add]
    cases answer with
    | error code => exact ⟨own, .leave (.nil own), .done rfl⟩
    | ok => exact ⟨own, .release (.nil own), .done rfl⟩

end Triples

/-! ### They come to their end -/

theorem total_theHandle (handle : Option Nat) : (theHandle handle).Total := by
  cases handle <;> trivial

theorem total_andThen {V : Type} {part : VidPnProgram (Flow V)}
    {next : V → VidPnProgram (Flow V)} (h : part.Total) (hnext : ∀ v, (next v).Total) :
    (andThen part next).Total := by
  apply h.bind
  intro flow
  cases flow with
  | goOn v => exact hnext v
  | stop v status => trivial

theorem total_cleanUpPinned (kind : ModeKind) (w : ModeSetVars) :
    (cleanUpPinned kind w).Total := by
  rw [cleanUpPinned]
  split
  · exact (total_theHandle _).bind fun _ _ => trivial
  · trivial

theorem total_cleanUpPath (path : Option Nat) : (cleanUpPath path).Total := by
  cases path with
  | none => trivial
  | some p => exact fun _ => trivial

theorem total_cleanUpModeSet (kind : ModeKind) (modeSet : Option Nat) :
    (cleanUpModeSet kind modeSet).Total := by
  cases modeSet with
  | none => trivial
  | some s => exact fun _ => trivial

end VioGpu.Device
