import VioGpu.Device.Adapter
import VioGpu.Device.Blit

/-!
# The host

The host takes the commands of the control ring in their order, and may take one at any moment. It
keeps a table of the resources, an image of each, and what it shows on scanout 0.
`TRANSFER_TO_HOST_2D` copies a rectangle from the memory that is attached to a resource, as this
memory is then; `RESOURCE_FLUSH` shows it. A command that names no fitting resource changes nothing.
-/

namespace VioGpu.Device

open Lib Queue

/-! ## Commands -/

/-- The command of an effect. -/
def Effect.command? : Effect → Option (Queued CtrlCommand)
  | .ctrl n c => some (n, c)
  | .cursor .. | .getId _ | .putId .. | .delete .. | .reset | .setQueues _ => none

/-- The commands of the control queue among these effects. -/
def commands (l : List Effect) : List (Queued CtrlCommand) := l.filterMap Effect.command?

theorem commands_append (l l' : List Effect) : commands (l ++ l') = commands l ++ commands l' :=
  List.filterMap_append

/-- The two commands that send a rectangle of a surface with rows of `pitch` bytes. -/
def sendRect (n r pitch x y width height : Nat) : List (Queued CtrlCommand) :=
  [(n, .transferToHost2d r (y * pitch + x * 4) width height x y),
    (n, .resourceFlush r width height x y)]

/-! ## Resources -/

/-- A resource: its size, and the object whose memory is attached. -/
structure HostResource where
  width : Nat
  height : Nat
  backing : Option Nat
  deriving DecidableEq, Repr

/-- The resources that are there, and the one that scanout 0 shows. -/
structure Resources where
  table : Nat → Option HostResource
  scanout : Option Nat

/-- The pixel in this column and row is in the rectangle. -/
def InRect (x y width height column row : Nat) : Prop :=
  x ≤ column ∧ column < x + width ∧ y ≤ row ∧ row < y + height

instance (x y width height column row : Nat) : Decidable (InRect x y width height column row) :=
  inferInstanceAs (Decidable (_ ∧ _))

/-- The rectangle is inside the resource. -/
def HostResource.Holds (res : HostResource) (x y width height : Nat) : Prop :=
  x + width ≤ res.width ∧ y + height ≤ res.height

instance (res : HostResource) (x y width height : Nat) : Decidable (res.Holds x y width height) :=
  inferInstanceAs (Decidable (_ ∧ _))

namespace Resources

/-- After a reset. -/
def empty : Resources := ⟨fun _ => none, none⟩

/-- What a command does to the resources. -/
def exec (h : Resources) : Queued CtrlCommand → Resources
  | (_, .resourceCreate2d r _ width height) =>
    if r ≠ 0 ∧ h.table r = none then
      { h with table := Function.update h.table r (some ⟨width, height, none⟩) }
    else h
  | (_, .resourceUnref r) =>
    { table := Function.update h.table r none
      scanout := if h.scanout = some r then none else h.scanout }
  | (n, .resourceAttachBacking r _) =>
    { h with
      table := Function.update h.table r
        ((h.table r).map fun res => { res with backing := some n }) }
  | (_, .resourceDetachBacking r) =>
    { h with
      table := Function.update h.table r
        ((h.table r).map fun res => { res with backing := none }) }
  | (_, .setScanout id r width height x y) =>
    if id = 0 ∧ ∃ res ∈ h.table r, res.Holds x y width height then { h with scanout := some r }
    else h
  | (_, .getDisplayInfo) | (_, .resourceFlush ..) | (_, .transferToHost2d ..) => h

/-- What a list of commands does to them. -/
def run (h : Resources) (l : List (Queued CtrlCommand)) : Resources := l.foldl exec h

theorem run_append (h : Resources) (l l' : List (Queued CtrlCommand)) :
    h.run (l ++ l') = (h.run l).run l' := List.foldl_append

@[simp] theorem run_sendRect (h : Resources) (n r pitch x y width height : Nat) :
    h.run (sendRect n r pitch x y width height) = h := rfl

end Resources

/-! ## Pictures -/

/-- The four bytes of each pixel, by row and column: of the image of each resource, and of what is
shown. -/
structure Picture where
  image : Nat → Nat → Nat → Nat → Byte
  shown : Nat → Nat → Nat → Byte

namespace Picture

/-- What a command does to the images and to what is shown, with the memory of each object. -/
def exec (memory : Nat → Int → Byte) (h : Resources) (p : Picture) :
    Queued CtrlCommand → Picture
  | (_, .resourceCreate2d r ..) =>
    if r ≠ 0 ∧ h.table r = none then
      { p with image := Function.update p.image r fun _ _ _ => 0 }
    else p
  | (_, .transferToHost2d r offset width height x y) =>
    match h.table r with
    | some ⟨w, v, some n⟩ =>
      if HostResource.Holds ⟨w, v, some n⟩ x y width height then
        { p with image := Function.update p.image r fun row column i =>
            if InRect x y width height column row then
              memory n (offset + (row - y) * (w * 4) + (column - x) * 4 + i : Nat)
            else p.image r row column i }
      else p
    | some ⟨_, _, none⟩ | none => p
  | (_, .resourceFlush r width height x y) =>
    if h.scanout = some r ∧ ∃ res ∈ h.table r, res.Holds x y width height then
      { p with shown := fun row column i =>
          if InRect x y width height column row then p.image r row column i
          else p.shown row column i }
    else p
  | (_, .getDisplayInfo) | (_, .resourceUnref _) | (_, .setScanout ..)
  | (_, .resourceAttachBacking ..) | (_, .resourceDetachBacking _) => p

/-- What a list of commands does to them, while the memory stays the same. -/
def run (memory : Nat → Int → Byte) : Resources → Picture → List (Queued CtrlCommand) → Picture
  | _, p, [] => p
  | h, p, e :: l => run memory (h.exec e) (p.exec memory h e) l

end Picture

end VioGpu.Device
