import VioGpu.Device.Mode
import VioGpu.Lib.Joins

/-!
# The rectangle around the rectangles of a present (`FindUpdateRect`)

The rectangles form a semilattice: one is below another one if it is inside, and the join of two is
the least rectangle around both. `FindUpdateRect` is the join of its two lists together, and
`findUpdateRectInto_eq` connects the function with its output parameter to `findUpdateRect`, which
the present uses.
-/

namespace VioGpu.Device

open Lib

/-! ## The order of the rectangles -/

/-- `r` is inside `u`. -/
structure Rect.Inside (r u : Rect) : Prop where
  left : u.left ≤ r.left
  top : u.top ≤ r.top
  right : r.right ≤ u.right
  bottom : r.bottom ≤ u.bottom

instance (r u : Rect) : Decidable (r.Inside u) :=
  decidable_of_iff (u.left ≤ r.left ∧ u.top ≤ r.top ∧ r.right ≤ u.right ∧ r.bottom ≤ u.bottom)
    ⟨fun ⟨h₁, h₂, h₃, h₄⟩ => ⟨h₁, h₂, h₃, h₄⟩, fun ⟨h₁, h₂, h₃, h₄⟩ => ⟨h₁, h₂, h₃, h₄⟩⟩

/-- The order is `Inside`, and a join is componentwise. -/
instance : SemilatticeSup Rect where
  le := Rect.Inside
  le_refl r := ⟨le_rfl, le_rfl, le_rfl, le_rfl⟩
  le_trans r s t h h' :=
    ⟨h'.left.trans h.left, h'.top.trans h.top, h.right.trans h'.right, h.bottom.trans h'.bottom⟩
  le_antisymm r s h h' := by
    cases r
    cases s
    rw [Rect.mk.injEq]
    exact ⟨le_antisymm h'.left h.left, le_antisymm h'.top h.top, le_antisymm h.right h'.right,
      le_antisymm h.bottom h'.bottom⟩
  sup r u :=
    { bottom := max r.bottom u.bottom, left := min r.left u.left, right := max r.right u.right,
      top := min r.top u.top }
  le_sup_left r u := ⟨min_le_left _ _, min_le_left _ _, le_max_left _ _, le_max_left _ _⟩
  le_sup_right r u := ⟨min_le_right _ _, min_le_right _ _, le_max_right _ _, le_max_right _ _⟩
  sup_le r s t h h' :=
    ⟨le_min h.left h'.left, le_min h.top h'.top, max_le h.right h'.right,
      max_le h.bottom h'.bottom⟩

theorem Rect.include_eq_joinNext (updrect : Option Rect) (r : Rect) :
    Rect.include updrect r = joinNext updrect r := by
  cases updrect with
  | none => rfl
  | some u => rfl

/-! ## The update rectangle -/

theorem findUpdateRect_append (moves dirtyRects : List Rect) :
    findUpdateRect moves dirtyRects = (moves ++ dirtyRects).foldl Rect.include none := by
  rw [findUpdateRect, List.foldl_append]

theorem findUpdateRect_eq_joinAll (moves dirtyRects : List Rect) :
    findUpdateRect moves dirtyRects = joinAll (moves ++ dirtyRects) := by
  have hinclude : Rect.include = joinNext :=
    funext fun updrect => funext fun r => Rect.include_eq_joinNext updrect r
  rw [findUpdateRect_append, hinclude]
  rfl

/-- **The update rectangle** is around all rectangles, and inside everything that is. -/
theorem findUpdateRect_spec {moves dirtyRects : List Rect} (hne : moves ++ dirtyRects ≠ []) :
    ∃ u, findUpdateRect moves dirtyRects = some u ∧
      (∀ r ∈ moves ++ dirtyRects, r.Inside u) ∧
      ∀ w : Rect, (∀ r ∈ moves ++ dirtyRects, r.Inside w) → u.Inside w := by
  rw [findUpdateRect_eq_joinAll]
  cases hjoin : joinAll (moves ++ dirtyRects) with
  | none => exact absurd (joinAll_eq_none_iff.mp hjoin) hne
  | some u =>
    obtain ⟨haround, hleast⟩ := isLUB_joinAll hjoin
    exact ⟨u, rfl, fun r hr => haround hr, fun w hw => hleast hw⟩

/-! ## With the output parameter -/

/-- One turn of a loop of `FindUpdateRect`: `updated` and `*pUpdateRect`. -/
def Rect.updateNext (s : Bool × Rect) (pRect : Rect) : Bool × Rect :=
  if s.1 = false then (true, pRect)
  else
    (s.1,
      { bottom := max pRect.bottom s.2.bottom
        left := min pRect.left s.2.left
        right := max pRect.right s.2.right
        top := min pRect.top s.2.top })

/-- `FindUpdateRect`: what it returns, and `*pUpdateRect` behind it. `moves` are the `DestRect` of
the moves; nothing depends on the rotation. -/
def findUpdateRectInto (moves dirtyRects : List Rect) (pUpdateRect : Rect) : Bool × Rect :=
  dirtyRects.foldl Rect.updateNext (moves.foldl Rect.updateNext (false, pUpdateRect))

/-- The variables of the loops: nothing is written before the first rectangle. -/
def Rect.ofUpdated (pUpdateRect : Rect) : Option Rect → Bool × Rect
  | none => (false, pUpdateRect)
  | some u => (true, u)

theorem Rect.updateNext_ofUpdated (pUpdateRect : Rect) (updrect : Option Rect) (r : Rect) :
    Rect.updateNext (Rect.ofUpdated pUpdateRect updrect) r =
      Rect.ofUpdated pUpdateRect (Rect.include updrect r) := by
  cases updrect with
  | none => rfl
  | some u => rfl

/-- The function returns `TRUE` with what `findUpdateRect` gives, or leaves the output. -/
theorem findUpdateRectInto_eq (moves dirtyRects : List Rect) (pUpdateRect : Rect) :
    findUpdateRectInto moves dirtyRects pUpdateRect =
      Rect.ofUpdated pUpdateRect (findUpdateRect moves dirtyRects) := by
  have hloop : ∀ (rects : List Rect) (updrect : Option Rect),
      rects.foldl Rect.updateNext (Rect.ofUpdated pUpdateRect updrect) =
        Rect.ofUpdated pUpdateRect (rects.foldl Rect.include updrect) := fun rects updrect =>
    List.foldl_hom _ fun updrect r => Rect.updateNext_ofUpdated pUpdateRect updrect r
  rw [findUpdateRectInto, findUpdateRect, ← hloop, ← hloop]
  rfl

theorem findUpdateRectInto_eq_joinAll (moves dirtyRects : List Rect) (pUpdateRect : Rect) :
    findUpdateRectInto moves dirtyRects pUpdateRect =
      Rect.ofUpdated pUpdateRect (joinAll (moves ++ dirtyRects)) := by
  rw [findUpdateRectInto_eq, findUpdateRect_eq_joinAll]

/-- The rectangles alone decide what a call that returns `TRUE` writes. -/
theorem findUpdateRectInto_perm {moves dirtyRects moves' dirtyRects' : List Rect} {u : Rect}
    (hjoin : joinAll (moves ++ dirtyRects) = some u)
    (hperm : (moves' ++ dirtyRects').Perm (moves ++ dirtyRects)) (pUpdateRect : Rect) :
    findUpdateRectInto moves' dirtyRects' pUpdateRect = (true, u) := by
  rw [findUpdateRectInto_eq_joinAll, joinAll_congr fun r => hperm.mem_iff, hjoin]
  rfl

/-- `u` is the least rectangle around `rects`: each side is that of the outermost one. -/
structure Rect.IsBoundingBox (u : Rect) (rects : Set Rect) : Prop where
  around : ∀ r ∈ rects, r.Inside u
  least : ∀ w : Rect, (∀ r ∈ rects, r.Inside w) → u.Inside w
  left : IsLeast {x | ∃ r ∈ rects, r.left = x} u.left
  top : IsLeast {x | ∃ r ∈ rects, r.top = x} u.top
  right : IsGreatest {x | ∃ r ∈ rects, r.right = x} u.right
  bottom : IsGreatest {x | ∃ r ∈ rects, r.bottom = x} u.bottom

theorem isBoundingBox_of_joinAll {rects : List Rect} {u : Rect} (h : joinAll rects = some u) :
    u.IsBoundingBox {r | r ∈ rects} := by
  obtain ⟨haround, hleast⟩ := isLUB_joinAll h
  exact
    { around := fun r hr => haround hr
      least := fun w hw => hleast hw
      left := isLeast_of_joinAll (fun _ _ => rfl) h
      top := isLeast_of_joinAll (fun _ _ => rfl) h
      right := isGreatest_of_joinAll (fun _ _ => rfl) h
      bottom := isGreatest_of_joinAll (fun _ _ => rfl) h }

/-- **`FindUpdateRect`** returns `TRUE` just when there is a rectangle. Then the output is the
bounding box of all, whatever their order and the list they are in; otherwise it is untouched. -/
theorem findUpdateRectInto_boundingBox (moves dirtyRects : List Rect) (pUpdateRect : Rect) :
    let result := findUpdateRectInto moves dirtyRects pUpdateRect
    (result.1 = true ↔ moves ≠ [] ∨ dirtyRects ≠ []) ∧
      (result.1 = true → result.2.IsBoundingBox {r | r ∈ moves ∨ r ∈ dirtyRects} ∧
        ∀ moves' dirtyRects' pUpdateRect', (moves' ++ dirtyRects').Perm (moves ++ dirtyRects) →
          findUpdateRectInto moves' dirtyRects' pUpdateRect' = result) ∧
      (result.1 = false → result.2 = pUpdateRect) := by
  intro result
  have hset : {r | r ∈ moves ∨ r ∈ dirtyRects} = {r | r ∈ moves ++ dirtyRects} := by
    ext r
    exact List.mem_append.symm
  have hnil : moves ++ dirtyRects ≠ [] ↔ moves ≠ [] ∨ dirtyRects ≠ [] := by
    rw [ne_eq, List.append_eq_nil_iff, not_and_or]
  have hresult : result = Rect.ofUpdated pUpdateRect (joinAll (moves ++ dirtyRects)) :=
    findUpdateRectInto_eq_joinAll moves dirtyRects pUpdateRect
  cases hjoin : joinAll (moves ++ dirtyRects) with
  | none =>
    rw [hjoin] at hresult
    rw [hresult, ← hnil, joinAll_eq_none_iff.mp hjoin]
    exact ⟨iff_of_false Bool.false_ne_true fun h => h rfl, fun h => absurd h Bool.false_ne_true,
      fun _ => rfl⟩
  | some u =>
    rw [hjoin] at hresult
    have hne : moves ++ dirtyRects ≠ [] := fun hempty => by
      rw [hempty] at hjoin
      cases hjoin
    rw [hresult, ← hnil, hset]
    refine ⟨iff_of_true rfl hne, fun _ => ⟨isBoundingBox_of_joinAll hjoin, ?_⟩,
      fun h => absurd h.symm Bool.false_ne_true⟩
    intro moves' dirtyRects' pUpdateRect' hperm
    exact findUpdateRectInto_perm hjoin hperm pUpdateRect'

end VioGpu.Device
