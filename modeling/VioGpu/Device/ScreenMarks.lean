import VioGpu.Device.Screen

/-!
# The marks of a pixel

A pixel is followed with two marks: that the image of the host has what the memory holds, and that
what is shown has. What a command does to the marks does not depend on the memory (`Marks.exec`),
and what is marked stays so when the command is taken (`Marks.Sound.exec`). A blit takes the marks
of the pixels it writes; the transfer and the flush of a rectangle around them give them back
(`Marks.run_sendRect_of_mem`).
-/

namespace VioGpu.Device

open Lib Queue

/-! ## Marks -/

/-- A pixel of a surface of this size: its resource, and the object whose memory it is in. -/
structure Pixel where
  resource : Nat
  object : Nat
  width : Nat
  height : Nat
  row : Nat
  column : Nat

namespace Pixel

/-- Where the pixel is in the memory. -/
def address (px : Pixel) : Nat := px.row * (px.width * 4) + px.column * 4

/-- These bytes are those of the pixel in the memory. -/
def Is (px : Pixel) (memory : Nat → Int → Byte) (bytes : Nat → Byte) : Prop :=
  ∀ i < 4, bytes i = memory px.object (px.address + i : Nat)

/-- The resource of the pixel, with its memory attached. -/
def hostResource (px : Pixel) : HostResource := ⟨px.width, px.height, some px.object⟩

end Pixel

/-- The image has what the memory holds of a pixel, and so has what is shown. -/
structure Marks where
  image : Bool
  shown : Bool
  deriving DecidableEq, Repr

namespace Marks

/-- What a command does to the marks of a pixel. -/
def exec (px : Pixel) (h : Resources) (m : Marks) : Queued CtrlCommand → Marks
  | (_, .resourceCreate2d r ..) => if r = px.resource then { m with image := false } else m
  | (_, .transferToHost2d r offset width height x y) =>
    if r = px.resource ∧ InRect x y width height px.column px.row then
      { m with image := decide (h.table r = some px.hostResource ∧
          px.hostResource.Holds x y width height ∧ offset = y * (px.width * 4) + x * 4) }
    else m
  | (_, .resourceFlush r width height x y) =>
    if InRect x y width height px.column px.row then
      { m with shown := m.image && decide (r = px.resource ∧ h.scanout = some r ∧
          h.table r = some px.hostResource ∧ px.hostResource.Holds x y width height) }
    else m
  | (_, .getDisplayInfo) | (_, .resourceUnref _) | (_, .setScanout ..)
  | (_, .resourceAttachBacking ..) | (_, .resourceDetachBacking _) => m

/-- What a list of commands does to them. -/
def run (px : Pixel) : Resources → Marks → List (Queued CtrlCommand) → Marks
  | _, m, [] => m
  | h, m, e :: l => run px (h.exec e) (m.exec px h e) l

theorem run_append (px : Pixel) (h : Resources) (m : Marks) (l l' : List (Queued CtrlCommand)) :
    run px h m (l ++ l') = run px (h.run l) (run px h m l) l' := by
  induction l generalizing h m with
  | nil => rfl
  | cons e l ih => exact ih (h.exec e) (m.exec px h e)

/-- What is marked is so. -/
structure Sound (px : Pixel) (memory : Nat → Int → Byte) (p : Picture) (m : Marks) : Prop where
  image : m.image = true → px.Is memory (p.image px.resource px.row px.column)
  shown : m.shown = true → px.Is memory (p.shown px.row px.column)

variable {px : Pixel} {memory : Nat → Int → Byte} {p : Picture} {m : Marks}

theorem Sound.create (hs : Sound px memory p m) (h : Resources) (n r format width height : Nat) :
    Sound px memory (p.exec memory h (n, .resourceCreate2d r format width height))
      (m.exec px h (n, .resourceCreate2d r format width height)) := by
  simp only [Picture.exec, Marks.exec]
  by_cases hr : r = px.resource
  · rw [if_pos hr]
    refine ⟨fun hm => (by cases hm), fun hm => ?_⟩
    split
    · exact hs.shown hm
    · exact hs.shown hm
  · rw [if_neg hr]
    refine ⟨fun hm => ?_, fun hm => ?_⟩
    · split
      · show px.Is memory (Function.update p.image r _ px.resource px.row px.column)
        rw [Function.update_of_ne (Ne.symm hr)]
        exact hs.image hm
      · exact hs.image hm
    · split
      · exact hs.shown hm
      · exact hs.shown hm

/-- The address from which a transfer copies a pixel. -/
theorem transfer_address (px : Pixel) {x y width height : Nat}
    (hin : InRect x y width height px.column px.row) (i : Nat) :
    y * (px.width * 4) + x * 4 + (px.row - y) * (px.width * 4) + (px.column - x) * 4 + i =
      px.address + i := by
  obtain ⟨hx, -, hy, -⟩ := hin
  have hrow : (px.row - y) * (px.width * 4) + y * (px.width * 4) = px.row * (px.width * 4) := by
    rw [← Nat.add_mul, Nat.sub_add_cancel hy]
  unfold Pixel.address
  omega

theorem Sound.transfer (hs : Sound px memory p m) (h : Resources)
    (n r offset width height x y : Nat) :
    Sound px memory (p.exec memory h (n, .transferToHost2d r offset width height x y))
      (m.exec px h (n, .transferToHost2d r offset width height x y)) := by
  have hshown : (p.exec memory h (n, .transferToHost2d r offset width height x y)).shown =
      p.shown := by
    simp only [Picture.exec]
    split
    · split <;> rfl
    · rfl
    · rfl
  by_cases hr : r = px.resource ∧ InRect x y width height px.column px.row
  · have hmarks : m.exec px h (n, .transferToHost2d r offset width height x y) =
        { m with image := decide (h.table r = some px.hostResource ∧
          px.hostResource.Holds x y width height ∧ offset = y * (px.width * 4) + x * 4) } :=
      if_pos hr
    rw [hmarks]
    refine ⟨fun hm => ?_, fun hm => ?_⟩
    · obtain ⟨htable, hholds, hoffset⟩ := of_decide_eq_true hm
      obtain ⟨rfl, hin⟩ := hr
      intro i _
      have hfits : HostResource.Holds ⟨px.width, px.height, some px.object⟩ x y width height :=
        hholds
      simp only [Picture.exec, htable, Pixel.hostResource, hfits, if_true, Function.update_self,
        hin]
      rw [hoffset, transfer_address px hin]
    · rw [hshown]
      exact hs.shown hm
  · have hmarks : m.exec px h (n, .transferToHost2d r offset width height x y) = m := if_neg hr
    rw [hmarks]
    refine ⟨fun hm => ?_, fun hm => by rw [hshown]; exact hs.shown hm⟩
    have himage : (p.exec memory h (n, .transferToHost2d r offset width height x y)).image
        px.resource px.row px.column = p.image px.resource px.row px.column := by
      simp only [Picture.exec]
      split
      · split
        · ext i : 1
          by_cases hres : px.resource = r
          · subst hres
            simp only [Function.update_self]
            rw [if_neg fun hin => hr ⟨rfl, hin⟩]
          · simp only [Function.update_of_ne hres]
        · rfl
      · rfl
      · rfl
    rw [himage]
    exact hs.image hm

theorem Sound.flush (hs : Sound px memory p m) (h : Resources) (n r width height x y : Nat) :
    Sound px memory (p.exec memory h (n, .resourceFlush r width height x y))
      (m.exec px h (n, .resourceFlush r width height x y)) := by
  have himage : (p.exec memory h (n, .resourceFlush r width height x y)).image = p.image := by
    simp only [Picture.exec]
    split <;> rfl
  by_cases hin : InRect x y width height px.column px.row
  · have hmarks : m.exec px h (n, .resourceFlush r width height x y) =
        { m with shown := m.image && decide (r = px.resource ∧ h.scanout = some r ∧
          h.table r = some px.hostResource ∧ px.hostResource.Holds x y width height) } :=
      if_pos hin
    rw [hmarks]
    refine ⟨fun hm => by rw [himage]; exact hs.image hm, fun hm => ?_⟩
    obtain ⟨hmark, hflush⟩ := Bool.and_eq_true_iff.mp hm
    obtain ⟨rfl, hscanout, htable, hholds⟩ := of_decide_eq_true hflush
    intro i hi
    simp only [Picture.exec]
    rw [if_pos ⟨hscanout, _, htable, hholds⟩]
    show (if InRect x y width height px.column px.row then _ else _) = _
    rw [if_pos hin]
    exact hs.image hmark i hi
  · have hmarks : m.exec px h (n, .resourceFlush r width height x y) = m := if_neg hin
    rw [hmarks]
    refine ⟨fun hm => by rw [himage]; exact hs.image hm, fun hm => ?_⟩
    have hshown : (p.exec memory h (n, .resourceFlush r width height x y)).shown
        px.row px.column = p.shown px.row px.column := by
      simp only [Picture.exec]
      split
      · ext i : 1
        exact if_neg hin
      · rfl
    rw [hshown]
    exact hs.shown hm

/-- **A command** that the host takes. -/
theorem Sound.exec (hs : Sound px memory p m) (h : Resources) (e : Queued CtrlCommand) :
    Sound px memory (p.exec memory h e) (m.exec px h e) := by
  obtain ⟨n, c⟩ := e
  cases c with
  | getDisplayInfo => exact hs
  | resourceUnref r => exact hs
  | setScanout id r width height x y => exact hs
  | resourceAttachBacking r ents => exact hs
  | resourceDetachBacking r => exact hs
  | resourceCreate2d r format width height => exact hs.create h n r format width height
  | transferToHost2d r offset width height x y => exact hs.transfer h n r offset width height x y
  | resourceFlush r width height x y => exact hs.flush h n r width height x y

/-- Bytes are written that are not of the pixel. -/
theorem Sound.congr {memory' : Nat → Int → Byte} (hs : Sound px memory p m)
    (hsame : ∀ i < 4, memory' px.object (px.address + i : Nat) =
      memory px.object (px.address + i : Nat)) : Sound px memory' p m where
  image hm i hi := by rw [hsame i hi]; exact hs.image hm i hi
  shown hm i hi := by rw [hsame i hi]; exact hs.shown hm i hi

/-- Nothing is marked. -/
theorem sound_none (px : Pixel) (memory : Nat → Int → Byte) (p : Picture) :
    Sound px memory p ⟨false, false⟩ :=
  ⟨fun hm => (by cases hm), fun hm => (by cases hm)⟩

end Marks

/-! ## Lists of commands -/

/-- The resource of the pixel is there with its memory, and scanout 0 shows it. -/
structure Resources.Shows (h : Resources) (px : Pixel) : Prop where
  table : h.table px.resource = some px.hostResource
  scanout : h.scanout = some px.resource

namespace Resources

theorem table_setScanout (h : Resources) (n id r width height x y : Nat) :
    (h.exec (n, .setScanout id r width height x y)).table = h.table := by
  simp only [exec]
  split <;> rfl

end Resources

namespace Marks

variable {px : Pixel} {h : Resources} {m : Marks}

/-- The rectangle around a pixel is sent: what is shown is marked after it. -/
theorem run_sendRect_of_mem (hshows : h.Shows px) {n x y width height : Nat}
    (hholds : px.hostResource.Holds x y width height)
    (hin : InRect x y width height px.column px.row) (m : Marks) :
    (m.run px h (sendRect n px.resource (px.width * 4) x y width height)).shown = true := by
  have htransfer : m.exec px h (n, .transferToHost2d px.resource
      (y * (px.width * 4) + x * 4) width height x y) = { m with image := true } := by
    simp only [Marks.exec, hin, and_self, if_true, hshows.table, hholds, decide_true]
  show (exec px _ (m.exec px h _) _).shown = true
  rw [htransfer]
  show (exec px h { m with image := true } _).shown = true
  simp only [Marks.exec, hin, if_true, hshows.scanout, hshows.table, hholds, and_self,
    decide_true, Bool.and_self]

/-- A rectangle that the pixel is not in is sent. -/
theorem run_sendRect_of_not_mem {n r pitch x y width height : Nat}
    (hout : ¬InRect x y width height px.column px.row) (m : Marks) :
    m.run px h (sendRect n r pitch x y width height) = m := by
  have htransfer : m.exec px h (n, .transferToHost2d r (y * pitch + x * 4) width height x y) = m :=
    if_neg fun hin => hout hin.2
  rw [sendRect, run, htransfer, run, run]
  exact if_neg hout

/-- A rectangle is sent, be the pixel in it or not. -/
theorem run_sendRect (hshows : h.Shows px) {n x y width height : Nat}
    (hholds : px.hostResource.Holds x y width height) (hm : m.shown = true) :
    (m.run px h (sendRect n px.resource (px.width * 4) x y width height)).shown = true := by
  by_cases hin : InRect x y width height px.column px.row
  · exact run_sendRect_of_mem hshows hholds hin m
  · rw [run_sendRect_of_not_mem hin]
    exact hm

end Marks

/-- The command is about another resource than `r`, and shows nothing. -/
def Leaves (r : Nat) : Queued CtrlCommand → Prop
  | (_, .setScanout ..) | (_, .resourceFlush ..) => False
  | (_, .getDisplayInfo) => True
  | (_, .resourceCreate2d r' ..) | (_, .resourceUnref r') | (_, .transferToHost2d r' ..)
  | (_, .resourceAttachBacking r' _) | (_, .resourceDetachBacking r') => r' ≠ r

section Leaves

variable {px : Pixel} {h : Resources} {l : List (Queued CtrlCommand)}

theorem Resources.Shows.exec {e : Queued CtrlCommand} (hs : h.Shows px)
    (he : Leaves px.resource e) : (h.exec e).Shows px := by
  obtain ⟨n, c⟩ := e
  cases c with
  | getDisplayInfo => exact hs
  | transferToHost2d r offset width height x y => exact hs
  | setScanout id r width height x y => cases he
  | resourceFlush r width height x y => cases he
  | resourceCreate2d r format width height =>
    simp only [Resources.exec]
    split
    · exact ⟨(Function.update_of_ne (Ne.symm he) _ _).trans hs.table, hs.scanout⟩
    · exact hs
  | resourceUnref r =>
    have hscanout : h.scanout ≠ some r := by
      rw [hs.scanout]
      exact fun heq => he (Option.some.inj heq).symm
    exact ⟨(Function.update_of_ne (Ne.symm he) _ _).trans hs.table,
      (if_neg hscanout).trans hs.scanout⟩
  | resourceAttachBacking r ents =>
    exact ⟨(Function.update_of_ne (Ne.symm he) _ _).trans hs.table, hs.scanout⟩
  | resourceDetachBacking r =>
    exact ⟨(Function.update_of_ne (Ne.symm he) _ _).trans hs.table, hs.scanout⟩

theorem Marks.exec_leaves {e : Queued CtrlCommand} (he : Leaves px.resource e) (h : Resources)
    (m : Marks) : m.exec px h e = m := by
  obtain ⟨n, c⟩ := e
  cases c with
  | getDisplayInfo => rfl
  | setScanout id r width height x y => rfl
  | resourceUnref r => rfl
  | resourceAttachBacking r ents => rfl
  | resourceDetachBacking r => rfl
  | resourceFlush r width height x y => cases he
  | resourceCreate2d r format width height => exact if_neg he
  | transferToHost2d r offset width height x y => exact if_neg fun hin => he hin.1

/-- Commands about other resources leave the resource of a pixel alone, and its marks. -/
theorem run_leaves (hl : ∀ e ∈ l, Leaves px.resource e) (hs : h.Shows px) (m : Marks) :
    (h.run l).Shows px ∧ m.run px h l = m := by
  induction l generalizing h m with
  | nil => exact ⟨hs, rfl⟩
  | cons e l ih =>
    have he := hl e List.mem_cons_self
    have hrest := ih (fun e' he' => hl e' (List.mem_cons_of_mem e he')) (hs.exec he)
      (m.exec px h e)
    refine ⟨hrest.1, ?_⟩
    rw [Marks.run, hrest.2, Marks.exec_leaves he]

end Leaves

/-- The commands of `CreateFrameBuffer` up to `SET_SCANOUT`. -/
def createCommands (px : Pixel) (format : Nat) (ents : List MemEntry) :
    List (Queued CtrlCommand) :=
  [(px.object, .resourceCreate2d px.resource format px.width px.height),
    (px.object, .resourceAttachBacking px.resource ents),
    (px.object, .setScanout 0 px.resource px.width px.height 0 0)]

/-- They are for a new resource, and scanout 0 shows it after them. -/
theorem shows_created {h : Resources} {px : Pixel} (hnone : h.table px.resource = none)
    (hne : px.resource ≠ 0) (format : Nat) (ents : List MemEntry) :
    (h.run (createCommands px format ents)).Shows px := by
  have hcreate : h.exec (px.object, .resourceCreate2d px.resource format px.width px.height) =
      { h with table :=
          Function.update h.table px.resource (some ⟨px.width, px.height, none⟩) } :=
    if_pos ⟨hne, hnone⟩
  have hattach : (h.run [(px.object, .resourceCreate2d px.resource format px.width px.height),
      (px.object, .resourceAttachBacking px.resource ents)]).table px.resource =
        some px.hostResource := by
    rw [Resources.run, List.foldl_cons, List.foldl_cons, List.foldl_nil, hcreate]
    simp only [Resources.exec, Function.update_self, Option.map_some]
    rfl
  have hscanout : ∀ h' : Resources, h'.table px.resource = some px.hostResource →
      (h'.exec (px.object, .setScanout 0 px.resource px.width px.height 0 0)).Shows px := by
    intro h' htable
    have hfits : px.hostResource.Holds 0 0 px.width px.height :=
      ⟨Nat.le_of_eq (Nat.zero_add _), Nat.le_of_eq (Nat.zero_add _)⟩
    have hexec : h'.exec (px.object, .setScanout 0 px.resource px.width px.height 0 0) =
        { h' with scanout := some px.resource } := if_pos ⟨rfl, _, htable, hfits⟩
    rw [hexec]
    exact ⟨htable, rfl⟩
  exact hscanout _ hattach

end VioGpu.Device
