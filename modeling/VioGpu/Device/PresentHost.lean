import VioGpu.Device.HostPicture
import VioGpu.Device.PresentPlacement

/-!
# What a present sends to the host

`ExecutePresentDisplayOnly` sends the host the rectangle around the rectangles as they are before
the rotation and the shift, and the host copies it with the row length of the resource, which
`CreateFrameBuffer` gave it. So the host has all that was drawn if two agreements hold: the
rectangle is around what the blits draw over (`CurrentBddMode.Agrees`), and the resource has the
rows of the current mode (`Gpu.HostFits`). `presentDisplayOnly_covered_iff` says that nothing less
will do.
-/

namespace VioGpu.Device

open Lib Queue

/-! ## The copy of the host -/

section Copy

variable {memory : Nat → Int → Byte} {h : Resources} {picture : Picture} {n r : Nat}
  {pitch x y width height : Nat}

/-- **The copy** has the bytes of the rectangle, read with the row length of the resource. -/
theorem Picture.image_run_sendRect {w v m : Nat} (htable : h.table r = some ⟨w, v, some m⟩)
    (hholds : HostResource.Holds ⟨w, v, some m⟩ x y width height) {row column : Nat}
    (hin : InRect x y width height column row) (i : Nat) :
    (picture.run memory h (sendRect n r pitch x y width height)).image r row column i =
      memory m (y * pitch + x * 4 + (row - y) * (w * 4) + (column - x) * 4 + i : Nat) := by
  have hflush : (picture.run memory h (sendRect n r pitch x y width height)).image =
      (picture.exec memory h
        (n, .transferToHost2d r (y * pitch + x * 4) width height x y)).image := by
    simp only [sendRect, run, exec]
    split <;> rfl
  rw [hflush]
  simp only [exec, htable, if_pos hholds, Function.update_self, if_pos hin]

/-- A rectangle that does not fit leaves the copy as it was. -/
theorem Picture.image_run_sendRect_of_refused
    (hrefused : ∀ w v m, h.table r = some ⟨w, v, some m⟩ →
      ¬HostResource.Holds ⟨w, v, some m⟩ x y width height) :
    (picture.run memory h (sendRect n r pitch x y width height)).image = picture.image := by
  have htransfer : picture.exec memory h
      (n, .transferToHost2d r (y * pitch + x * 4) width height x y) = picture := by
    simp only [exec]
    split
    · rename_i w v m htable
      exact if_neg (hrefused w v m htable)
    · rfl
    · rfl
  simp only [sendRect, run, htransfer]
  simp only [exec]
  split <;> rfl

end Copy

/-- Pixels of a rectangle that is read with rows of `w` pixels and written with rows of `W`: if what
is read for a pixel of the set is in the set again, and the rectangle fits into a row either way,
then the set has pixels of the first row only. -/
theorem single_row {W w x y width height : Nat} {S : Nat → Nat → Prop} (hw : x + width ≤ w)
    (hne : w ≠ W) (hinside : ∀ row column, S row column → column < W ∧
      InRect x y width height column row)
    (hread : ∀ row column, S row column → ∃ row' column', S row' column' ∧
      row' * W + column' = y * W + (row - y) * w + column)
    {row column : Nat} (hmem : S row column) : row = y := by
  -- what is read for a pixel of a later row is in a later row, and further away from it each time
  have hnext : ∀ row column, S row column → y < row → ∃ row' column', S row' column' ∧ y < row' ∧
      (W < w → row * W + column < row' * W + column') ∧
      (w < W → row' * W + column' < row * W + column) := by
    intro row column hmem hlater
    obtain ⟨hcol, hx, hx', hy, hy'⟩ := hinside row column hmem
    obtain ⟨row', column', hmem', hsum⟩ := hread row column hmem
    obtain ⟨hcol', hxr, hxr', hyr, hyr'⟩ := hinside row' column' hmem'
    obtain ⟨e, rfl⟩ := Nat.exists_eq_add_of_lt hlater
    have hdiff : y + e + 1 - y = e + 1 := by omega
    rw [hdiff] at hsum
    have hrow : (y + e + 1) * W = y * W + (e + 1) * W := by ring
    have hwide : W < w → (e + 1) * W < (e + 1) * w := fun h =>
      Nat.mul_lt_mul_of_pos_left h (by omega)
    have hslim : w < W → (e + 1) * w < (e + 1) * W := fun h =>
      Nat.mul_lt_mul_of_pos_left h (by omega)
    have hfirst : w ≤ (e + 1) * w := Nat.le_mul_of_pos_left w (by omega)
    have hfirst' : W ≤ (e + 1) * W := Nat.le_mul_of_pos_left W (by omega)
    refine ⟨row', column', hmem', ?_, by omega, by omega⟩
    by_contra hsame
    obtain rfl : row' = y := by omega
    omega
  by_contra hlater
  have hlater : y < row := by
    have := (hinside row column hmem).2.2.2.1
    omega
  obtain hslim | hwide := Nat.lt_or_gt_of_ne hne
  · induction hn : row * W + column using Nat.strong_induction_on generalizing row column with
    | _ n ih =>
      obtain ⟨row', column', hmem', hlater', -, hless⟩ := hnext row column hmem hlater
      exact ih _ (hn ▸ hless hslim) hmem' (by omega) hlater' rfl
  · induction hn : (y + height) * W - (row * W + column) using Nat.strong_induction_on
      generalizing row column with
    | _ n ih =>
      obtain ⟨row', column', hmem', hlater', hmore, -⟩ := hnext row column hmem hlater
      obtain ⟨hcol', -, -, -, hrow'⟩ := hinside row' column' hmem'
      have hbound : (row' + 1) * W ≤ (y + height) * W := Nat.mul_le_mul_right W hrow'
      rw [Nat.add_mul, Nat.one_mul] at hbound
      have := hmore hwide
      exact ih _ (by omega) hmem' (by omega) hlater' rfl

/-! ## What is stored -/

namespace Blt

/-- The byte at `k` was stored. -/
def Stored (b : Blt) (k : Int) : Prop := ∃ a ∈ b.accesses, ∃ v, a.Writes k v

variable {before : Int → Byte} {accesses : List Access} {k : Int}

theorem stored_after : ((Blt.mk before []).after accesses).Stored k ↔
    ∃ a ∈ accesses, ∃ v, a.Writes k v := by
  unfold Stored after
  rw [List.nil_append]

theorem memory_of_not_stored (h : ¬((Blt.mk before []).after accesses).Stored k) :
    ((Blt.mk before []).after accesses).memory k = before k := by
  refine applyAll_of_not_writes (fun v hv => ?_) before
  obtain ⟨a, ha, hwrites⟩ := writes_stores.mp hv
  exact h (stored_after.mpr ⟨a, ha, v, hwrites⟩)

/-- Where nothing but `value` is stored, that is what a stored byte is. -/
theorem memory_of_stored {value : Byte} (hvalue : ∀ a ∈ accesses, ∀ k v, a.Writes k v → v = value)
    (h : ((Blt.mk before []).after accesses).Stored k) :
    ((Blt.mk before []).after accesses).memory k = value := by
  obtain ⟨a, ha, v, hv⟩ := stored_after.mp h
  obtain rfl := hvalue a ha k v hv
  have hunique : Relator.RightUnique (Lib.Writes (accesses.filterMap Access.store?)) := by
    intro k v w hv hw
    obtain ⟨a, ha, hv⟩ := writes_stores.mp hv
    obtain ⟨b, hb, hw⟩ := writes_stores.mp hw
    rw [hvalue a ha k v hv, hvalue b hb k w hw]
  exact applyAll_of_writes hunique (writes_stores.mpr ⟨a, ha, hv⟩) before

end Blt

namespace Gpu

/-- **One present** succeeds and draws `screen`. Both commands carry the rectangle with this corner
and this size, every pixel of the frame buffer that is drawn over is inside it, and the transfer
starts at its top left pixel. -/
structure Covering (g : Gpu) (p : PresentDisplayOnly) (before source : Int → Byte) (screen : Blt)
    (n resid x y width height : Nat) : Prop where
  present : ∃ g', g.presentDisplayOnly ⟨before, []⟩ source false p =
    some (.success, screen, g') ∧ g'.effects = g.effects ++
      [.ctrl n (.transferToHost2d resid (y * g.mode.dispInfo.pitch + x * 4) width height x y),
        .ctrl n (.resourceFlush resid width height x y)]
  inside : ∀ a ∈ screen.accesses, ∀ k v, a.Writes k v → ∀ c row, g.mode.IsPixel c row k →
    (x ≤ c ∧ c < x + width) ∧ y ≤ row ∧ row < y + height

/-- **A present is covered**, whatever is presented and whatever the frame buffer, the memory of
other objects and the host's copies hold: it does what `Covering` says, and after the host has taken
the two commands its copy equals the frame buffer in every byte that was written. `h` are the
resources that the host has by then. -/
def PresentCovered (g : Gpu) (h : Resources) (p : PresentDisplayOnly) : Prop :=
  ∀ (memory : Nat → Int → Byte) (source : Int → Byte) (picture : Picture),
    ∃ ptr ∈ g.mode.ptr, ∃ screen n resid x y width height,
      g.Covering p (memory ptr) source screen n resid x y width height ∧
      ∀ row column i k : Nat, k = row * g.mode.dispInfo.pitch + column * 4 + i → i < 4 →
        column < g.mode.dispInfo.width → screen.Stored k →
          (picture.run (Function.update memory ptr screen.memory) h
            (sendRect n resid g.mode.dispInfo.pitch x y width height)).image resid row column i =
              screen.memory k

/-- The host has the resource of the frame buffer, with its memory and the update rectangle in it,
and the resource has the rows of the current mode, unless one row is all that is drawn over. -/
def HostFits (g : Gpu) (h : Resources) (p : PresentDisplayOnly) : Prop :=
  g.mode.Draws p → (∃ r ∈ p.rects, r.HasPixels) → ∃ obj ∈ g.frameBuf, ∃ w v : Nat,
    h.table obj.hwRes = some ⟨w, v, some obj.number⟩ ∧
    (g.mode.updateRect p).right ≤ w ∧ (g.mode.updateRect p).bottom ≤ v ∧
    (w = g.mode.dispInfo.width ∨ ∀ r ∈ p.rects, ∀ piece ∈ g.mode.pieces p r, piece.HasPixels →
      piece.bottom ≤ (g.mode.updateRect p).top + 1)

variable {g : Gpu} {p : PresentDisplayOnly}

/-- The update rectangle is around the rectangles and inside the presented source. -/
theorem updateRect_spec (hrects : ∀ r ∈ p.rects, g.mode.InSource p r) {r : Rect}
    (hr : r ∈ p.rects) : r.Inside (g.mode.updateRect p) ∧
      (g.mode.updateRect p).Inside
        ⟨0, 0, (g.mode.sourceSize p).1, (g.mode.sourceSize p).2⟩ := by
  obtain ⟨u, hu, haround, hleast⟩ := findUpdateRect_spec (List.ne_nil_of_mem hr)
  rw [CurrentBddMode.updateRect, hu, Option.getD_some]
  refine ⟨haround r hr, hleast _ fun s hs => ?_⟩
  obtain ⟨-, ⟨h₁, h₂⟩, h₃, h₄⟩ := hrects s hs
  exact ⟨h₁, h₂, h₃, h₄⟩

/-- Where there is a pixel, the commands carry the numbers of the update rectangle. -/
theorem Shows.sent_eq (h : g.Shows) (ht : (g.mode.dstBltInfo p).Turned)
    (hrects : ∀ r ∈ p.rects, g.mode.InSource p r) {r : Rect} (hr : r ∈ p.rects) {x y : Int}
    (hmem : r.Mem x y) :
    let u := g.mode.updateRect p
    ((uint u.left : Int) = u.left ∧ (uint u.top : Int) = u.top) ∧
      (uint (u.right - u.left) : Int) = u.right - u.left ∧
      (uint (u.bottom - u.top) : Int) = u.bottom - u.top := by
  obtain ⟨haround, hinside⟩ := updateRect_spec hrects hr
  have hsource : (g.mode.sourceSize p).1 < 2147483648 ∧ (g.mode.sourceSize p).2 < 2147483648 := by
    obtain ⟨hin, -⟩ := (h.within ht (hrects r hr)).inside x y hmem
    obtain ⟨hwidth, -⟩ := visible_of_contains hin
    obtain ⟨-, hlow, -⟩ := h.small hwidth
    have hwide := h.wide
    have hvisible := h.visible
    unfold CurrentBddMode.sourceSize
    split <;> simp only <;> omega
  intro u
  change r.Inside u at haround
  change u.Inside _ at hinside
  clear_value u
  obtain ⟨hl, htop, hright, hbottom⟩ := haround
  obtain ⟨hl', htop', hright', hbottom'⟩ := hinside
  simp only at hl' htop' hright' hbottom'
  obtain ⟨hx, hx', hy, hy'⟩ := hmem
  exact ⟨⟨uint_eq (by omega) (by omega), uint_eq (by omega) (by omega)⟩,
    uint_eq (by omega) (by omega), uint_eq (by omega) (by omega)⟩

/-! ## What is drawn -/

/-- What a present that is not refused leaves in the frame buffer. -/
def presented (g : Gpu) (p : PresentDisplayOnly) (before source : Int → Byte) : Blt :=
  (Blt.mk before []).presentRects (g.mode.dstBltInfo p) (g.mode.srcBltInfo p) source p.rects

section Drawn

variable (hshows : g.Shows) (hrects : ∀ r ∈ p.rects, g.mode.InSource p r)

include hshows hrects

/-- What is stored, if anything is, are bytes of each pixel of each rectangle; the others stay as
they are. Those of an image of zeros are zero. -/
theorem presented_spec (hdraws : g.mode.Draws p) (before source : Int → Byte) :
    (∃ len, 3 ≤ len ∧ len ≤ 4 ∧ ∀ k, (g.presented p before source).Stored k ↔
      ∃ r ∈ p.rects, ∃ x y, r.Mem x y ∧
        ∃ i : Nat, i < len ∧ k = (g.mode.dstBltInfo p).address x y + i) ∧
      (∀ k, ¬(g.presented p before source).Stored k →
        (g.presented p before source).memory k = before k) ∧
      ((∀ k, source k = 0) → ∀ k, (g.presented p before source).Stored k →
        (g.presented p before source).memory k = 0) := by
  obtain ⟨hbits, hbytes⟩ := hshows.bytesPerPixel p
  obtain ⟨ht, hconv⟩ := hdraws
  obtain ⟨⟨n, convert⟩, hconv⟩ := Option.ne_none_iff_exists'.mp hconv
  obtain ⟨⟨len, hlow, hhigh, hlen⟩, hzero⟩ := conversion_32 hconv
  rw [← hbits] at hconv
  obtain ⟨accesses, hscreen, hwrites, hvalues⟩ := Blt.presentRects_accesses source hconv hlen
    ⟨by omega, by omega⟩ ht (.inl rfl) (fun r hr => hshows.within ht (hrects r hr))
    (Blt.mk before [])
  rw [presented, hscreen]
  refine ⟨⟨len, hlow, hhigh, fun k => Blt.stored_after.trans (hwrites k)⟩,
    fun k => Blt.memory_of_not_stored, ?_⟩
  intro hblack k hstored
  obtain ⟨a, ha, v, hv⟩ := Blt.stored_after.mp hstored
  refine Blt.memory_of_stored (fun a ha k v hv => ?_) hstored
  obtain ⟨q, hq⟩ := hvalues a ha k v hv
  have hread : readAt source q n = List.replicate n 0 := by
    simp [readAt, hblack]
  rw [hread] at hq
  exact hzero v hq

/-- The pixels of the frame buffer with a byte that is stored are those of the pieces. -/
theorem stored_pixel_iff (hdraws : g.mode.Draws p) (before source : Int → Byte) (c row : Int) :
    (∃ k, g.mode.IsPixel c row k ∧ (g.presented p before source).Stored k) ↔
      ∃ r ∈ p.rects, ∃ piece ∈ g.mode.pieces p r, piece.Mem c row := by
  obtain ⟨⟨len, hlow, hhigh, hstored⟩, -⟩ := presented_spec hshows hrects hdraws before source
  have ht := hdraws.1
  constructor
  · rintro ⟨k, hpixel, hk⟩
    obtain ⟨r, hr, x, y, hmem, i, hi, rfl⟩ := (hstored k).mp hk
    exact ⟨r, hr, (hshows.touches_iff ht (hrects r hr) c row).mp ⟨x, y, hmem,
      (CurrentBddMode.overlaps_iff hshows.pitch (hshows.address_even ht (hrects r hr) hmem) hlow
        hhigh c row).mpr ⟨i, hi, hpixel⟩⟩⟩
  · rintro ⟨r, hr, hpiece⟩
    obtain ⟨x, y, hmem, hover⟩ := (hshows.touches_iff ht (hrects r hr) c row).mpr hpiece
    obtain ⟨i, hi, hpixel⟩ := (CurrentBddMode.overlaps_iff hshows.pitch
      (hshows.address_even ht (hrects r hr) hmem) hlow hhigh c row).mp hover
    exact ⟨_, hpixel, (hstored _).mpr ⟨r, hr, x, y, hmem, i, hi, rfl⟩⟩

end Drawn

/-- A present that draws nothing stores nothing. -/
theorem presented_of_idle (hshows : g.Shows) (hdraws : ¬g.mode.Draws p)
    (before source : Int → Byte) : ∃ accesses, (∀ a ∈ accesses, a.Silent) ∧
      g.presented p before source = (Blt.mk before []).after accesses := by
  obtain ⟨hbits, -⟩ := hshows.bytesPerPixel p
  have hidle : conversion (g.mode.dstBltInfo p).bitsPerPel (g.mode.srcBltInfo p).bitsPerPel =
      none ∨ ¬(g.mode.dstBltInfo p).Turned := by
    rw [hbits]
    by_contra hnot
    obtain ⟨hconv, ht⟩ := not_or.mp hnot
    exact hdraws ⟨not_not.mp ht, hconv⟩
  exact Blt.presentRects_idle source hidle p.rects (Blt.mk before [])

theorem draws_of_stored (hshows : g.Shows) {before source : Int → Byte} {k : Int}
    (hstored : (g.presented p before source).Stored k) : g.mode.Draws p := by
  by_contra hdraws
  obtain ⟨accesses, hsilent, hscreen⟩ := presented_of_idle hshows hdraws before source
  rw [hscreen] at hstored
  obtain ⟨a, ha, v, hv⟩ := Blt.stored_after.mp hstored
  exact hsilent a ha k v hv

/-! ## The rectangle that is sent -/

/-- A present with a frame buffer sends the update rectangle. -/
theorem covering_iff (hshows : g.Shows) (hforward : 4 ≤ p.bytesPerPixel) {obj : VioGpuObj}
    (hobj : g.frameBuf = some obj) (before source : Int → Byte) {screen : Blt}
    {n resid x y width height : Nat} :
    let u := g.mode.updateRect p
    g.Covering p before source screen n resid x y width height ↔
      screen = g.presented p before source ∧ (n = obj.number ∧ resid = obj.hwRes) ∧
      (x = uint u.left ∧ y = uint u.top) ∧
      (width = uint (u.right - u.left) ∧ height = uint (u.bottom - u.top)) ∧
      (∀ k, screen.Stored k → ∀ c row, g.mode.IsPixel c row k →
        (x ≤ c ∧ c < x + width) ∧ y ≤ row ∧ row < y + height) ∧
      y * g.mode.dispInfo.pitch + x * 4 < 4294967296 := by
  intro u
  have hbits : g.mode.dstBitPerPixel = 32 := by
    rw [CurrentBddMode.dstBitPerPixel, hshows.format]
    rfl
  have hpresent := show g.presentDisplayOnly ⟨before, []⟩ source false p =
      some (.success, g.presented p before source, _) by
    rw [presentDisplayOnly, if_neg (by omega), if_neg (by simp), executePresentDisplayOnly, hobj]
    rfl
  have hu : u = (findUpdateRect p.moves p.dirtyRects).getD
      { left := 0, top := 0, right := g.mode.srcModeWidth, bottom := g.mode.srcModeHeight } := rfl
  rw [← hu, hbits] at hpresent
  constructor
  · rintro ⟨⟨g', h, heffects⟩, hinside⟩
    rw [hpresent] at h
    cases h
    simp only [emit, List.append_assoc, List.append_cancel_left_eq, List.cons_append,
      List.nil_append, List.cons.injEq, Effect.ctrl.injEq, CtrlCommand.transferToHost2d.injEq,
      CtrlCommand.resourceFlush.injEq] at heffects
    obtain ⟨⟨rfl, rfl, hoff, rfl, rfl, rfl, rfl⟩, -⟩ := heffects
    refine ⟨rfl, ⟨rfl, rfl⟩, ⟨rfl, rfl⟩, ⟨rfl, rfl⟩, fun k hk => ?_, ?_⟩
    · obtain ⟨a, ha, v, hv⟩ := hk
      exact hinside a ha k v hv
    · unfold u32 at hoff
      omega
  · rintro ⟨rfl, ⟨rfl, rfl⟩, ⟨rfl, rfl⟩, ⟨rfl, rfl⟩, hinside, hoffset⟩
    refine ⟨⟨_, hpresent, ?_⟩, fun a ha k v hv => hinside k ⟨a, ha, v, hv⟩⟩
    have hoff : u32 (uint u.top * g.mode.dispInfo.pitch + uint u.left * ((32 + 7) / 8)) =
        uint u.top * g.mode.dispInfo.pitch + uint u.left * 4 := Nat.mod_eq_of_lt hoffset
    refine (List.append_assoc g.effects [_] [_]).trans ?_
    rw [hoff]
    rfl

/-- Everything that is stored is in the rectangle that is sent exactly if the pieces are in the
update rectangle. -/
theorem inside_iff (hshows : g.Shows) (hrects : ∀ r ∈ p.rects, g.mode.InSource p r)
    (before source : Int → Byte) :
    let u := g.mode.updateRect p
    (∀ k, (g.presented p before source).Stored k → ∀ c row, g.mode.IsPixel c row k →
      ((uint u.left : Int) ≤ c ∧ c < uint u.left + uint (u.right - u.left)) ∧
        (uint u.top : Int) ≤ row ∧ row < uint u.top + uint (u.bottom - u.top)) ↔
      (g.mode.Draws p → ∀ r ∈ p.rects, ∀ piece ∈ g.mode.pieces p r, piece.HasPixels →
        piece.Inside u) := by
  intro u
  have hcarried : g.mode.Draws p → ∀ r ∈ p.rects, ∀ piece ∈ g.mode.pieces p r, ∀ c row,
      piece.Mem c row → ((((uint u.left : Int) ≤ c ∧ c < uint u.left + uint (u.right - u.left)) ∧
        (uint u.top : Int) ≤ row ∧ row < uint u.top + uint (u.bottom - u.top)) ↔ u.Mem c row) := by
    intro hdraws r hr piece hpiece c row hmem
    obtain ⟨x, y, hsource, -⟩ :=
      (hshows.touches_iff hdraws.1 (hrects r hr) c row).mpr ⟨piece, hpiece, hmem⟩
    obtain ⟨⟨hleft, htop⟩, hwidth, hheight⟩ :
        ((uint u.left : Int) = u.left ∧ (uint u.top : Int) = u.top) ∧
          (uint (u.right - u.left) : Int) = u.right - u.left ∧
          (uint (u.bottom - u.top) : Int) = u.bottom - u.top :=
      hshows.sent_eq hdraws.1 hrects hr hsource
    rw [hleft, htop, hwidth, hheight]
    constructor
    · rintro ⟨⟨h₁, h₂⟩, h₃, h₄⟩
      exact ⟨h₁, by omega, h₃, by omega⟩
    · rintro ⟨h₁, h₂, h₃, h₄⟩
      exact ⟨⟨h₁, by omega⟩, h₃, by omega⟩
  constructor
  · intro hall hdraws r hr piece hpiece
    refine Rect.forall_mem_iff.mp fun c row hmem => ?_
    obtain ⟨k, hpixel, hk⟩ := (stored_pixel_iff hshows hrects hdraws before source c row).mpr
      ⟨r, hr, piece, hpiece, hmem⟩
    exact (hcarried hdraws r hr piece hpiece c row hmem).mp (hall k hk c row hpixel)
  · intro hinside k hk c row hpixel
    have hdraws := draws_of_stored hshows hk
    obtain ⟨r, hr, piece, hpiece, hmem⟩ :=
      (stored_pixel_iff hshows hrects hdraws before source c row).mp ⟨k, hpixel, hk⟩
    exact (hcarried hdraws r hr piece hpiece c row hmem).mpr
      ((hinside hdraws r hr piece hpiece hmem.hasPixels).mem hmem)

/-- **A present agrees** exactly if it is covered, for any memory and source. -/
theorem exists_covering_iff (hshows : g.Shows) (hforward : 4 ≤ p.bytesPerPixel)
    (hrects : ∀ r ∈ p.rects, g.mode.InSource p r) (before source : Int → Byte) :
    (∃ screen n resid x y width height,
      g.Covering p before source screen n resid x y width height) ↔ g.mode.Agrees p := by
  obtain ⟨obj, hobj, -⟩ := hshows.backed
  constructor
  · rintro ⟨screen, n, resid, x, y, width, height, hcovering⟩
    obtain ⟨rfl, -, ⟨rfl, rfl⟩, ⟨rfl, rfl⟩, hinside, hoffset⟩ :=
      (covering_iff hshows hforward hobj before source).mp hcovering
    exact ⟨hoffset, (inside_iff hshows hrects before source).mp hinside⟩
  · intro hagrees
    exact ⟨_, _, _, _, _, _, _, (covering_iff hshows hforward hobj before source).mpr
      ⟨rfl, ⟨rfl, rfl⟩, ⟨rfl, rfl⟩, ⟨rfl, rfl⟩,
        (inside_iff hshows hrects before source).mpr hagrees.inside, hagrees.offset⟩⟩

/-- **Without a rotation and a shift** whatever is drawn over is inside the update rectangle. -/
theorem inside_of_unmoved (hvisible : g.mode.srcModeWidth ≤ g.mode.dispInfo.width)
    (hshift : g.mode.halfShift = 0) (hid : p.rotationNeededByFb g.mode = .identity)
    (hrects : ∀ r ∈ p.rects, g.mode.InSource p r) :
    ∀ r ∈ p.rects, ∀ piece ∈ g.mode.pieces p r, piece.HasPixels →
      piece.Inside (g.mode.updateRect p) := by
  intro r hr piece hpiece hpixels
  obtain ⟨hl, ht, hright, hb⟩ := (updateRect_spec hrects hr).1
  have hlast := (hrects r hr).last.1
  unfold CurrentBddMode.sourceSize at hlast
  rw [hid] at hlast
  dsimp only at hlast
  obtain ⟨hcolumns, hlines⟩ := hpixels
  unfold CurrentBddMode.pieces CurrentBddMode.moved CurrentBddMode.placed at hpiece
  rw [hshift, hid, if_neg (by decide)] at hpiece
  simp only [Int.zero_ediv, Int.zero_emod, Int.add_zero, List.mem_append, List.mem_cons,
    List.not_mem_nil, or_false, Int.zero_add, Int.reduceDiv, or_self] at hpiece
  obtain rfl | rfl := hpiece
  · exact ⟨hl, ht, (min_le_left _ _).trans hright, hb⟩
  · -- nothing goes on in the next row
    dsimp only at hcolumns
    omega

/-! ## What the host then has -/

/-- A byte of the frame buffer belongs to a pixel. -/
theorem isPixel_of_eq {row column i k : Nat} (hcol : column < g.mode.dispInfo.width)
    (hi : i < 4) (hk : k = row * g.mode.dispInfo.pitch + column * 4 + i) :
    g.mode.IsPixel column row k := by
  subst hk
  exact ⟨by omega, by omega, by push_cast; omega, by push_cast; omega⟩

/-- **The host has it all**, if it has the rows of the current mode. -/
theorem presentCovered_of_agrees (hshows : g.Shows) (hforward : 4 ≤ p.bytesPerPixel)
    (hrects : ∀ r ∈ p.rects, g.mode.InSource p r) {h : Resources} (hagrees : g.mode.Agrees p)
    (hhost : g.HostFits h p) : g.PresentCovered h p := by
  intro memory source picture
  obtain ⟨obj, hobj, hptr, -⟩ := hshows.backed
  have hinside := (inside_iff hshows hrects (memory obj.number) source).mpr hagrees.inside
  refine ⟨obj.number, hptr, _, _, _, _, _, _, _,
    (covering_iff hshows hforward hobj (memory obj.number) source).mpr
      ⟨rfl, ⟨rfl, rfl⟩, ⟨rfl, rfl⟩, ⟨rfl, rfl⟩, hinside, hagrees.offset⟩, ?_⟩
  intro row column i k hk hi hcol hstored
  have hdraws := draws_of_stored hshows hstored
  have hpixel := isPixel_of_eq hcol hi hk
  obtain ⟨r, hr, piece, hpiece, hmem⟩ :=
    (stored_pixel_iff hshows hrects hdraws _ _ _ _).mp ⟨k, hpixel, hstored⟩
  obtain ⟨x, y, hsource, -⟩ :=
    (hshows.touches_iff hdraws.1 (hrects r hr) _ _).mpr ⟨piece, hpiece, hmem⟩
  obtain ⟨obj', hobj', w, v, htable, hright, hbottom, hrows⟩ :=
    hhost hdraws ⟨r, hr, hsource.hasPixels⟩
  obtain rfl : obj = obj' := Option.some_inj.mp (hobj.symm.trans hobj')
  obtain ⟨⟨hxl, hxr⟩, hyt, hyb⟩ := hinside k hstored _ _ hpixel
  obtain ⟨⟨hleft, htop⟩, hwidth, hheight⟩ := hshows.sent_eq hdraws.1 hrects hr hsource
  have hholds : HostResource.Holds ⟨w, v, some obj.number⟩ (uint (g.mode.updateRect p).left)
      (uint (g.mode.updateRect p).top)
      (uint ((g.mode.updateRect p).right - (g.mode.updateRect p).left))
      (uint ((g.mode.updateRect p).bottom - (g.mode.updateRect p).top)) := by
    constructor
    · show _ ≤ w
      omega
    · show _ ≤ v
      omega
  rw [Picture.image_run_sendRect htable hholds ⟨by omega, by omega, by omega, by omega⟩,
    Function.update_self]
  obtain ⟨lines, rfl⟩ := Nat.exists_eq_add_of_le (Int.ofNat_le.mp hyt)
  obtain ⟨columns, rfl⟩ := Nat.exists_eq_add_of_le (Int.ofNat_le.mp hxl)
  rw [Nat.add_sub_cancel_left, Nat.add_sub_cancel_left]
  congr 2
  rw [hk, hshows.pitch]
  obtain rfl | hrow := hrows
  · ring
  · -- one row is all that is drawn over
    have hlast := hrow r hr piece hpiece hmem.hasPixels
    have hbottom := hmem.bottom
    obtain rfl : lines = 0 := by omega
    ring

/-- Every byte belongs to a pixel, if there are any. -/
theorem exists_isPixel (hshows : g.Shows) (hwidth : 0 < g.mode.dispInfo.width) (k : Int) :
    ∃ c row, g.mode.IsPixel c row k := by
  have hcol := Int.emod_nonneg (k / 4) (b := g.mode.dispInfo.width) (by omega)
  have hcol' := Int.emod_lt_of_pos (k / 4) (b := g.mode.dispInfo.width) (by omega)
  have hdiv := Int.ediv_mul_add_emod (k / 4) g.mode.dispInfo.width
  have hpitch : k / 4 / g.mode.dispInfo.width * (g.mode.dispInfo.pitch : Int) =
      k / 4 / g.mode.dispInfo.width * g.mode.dispInfo.width * 4 := by
    rw [hshows.pitch, Nat.cast_mul, ← Int.mul_assoc]
    rfl
  exact ⟨k / 4 % g.mode.dispInfo.width, k / 4 / g.mode.dispInfo.width, hcol, hcol', by omega,
    by omega⟩

/-- The bytes of the pixel in this row and column are stored, or some of them. -/
def StoredPixel (g : Gpu) (screen : Blt) (row column : Nat) : Prop :=
  column < g.mode.dispInfo.width ∧ ∃ i k : Nat, k = row * g.mode.dispInfo.pitch + column * 4 + i ∧
    i < 4 ∧ screen.Stored k

/-- A stored byte of a row from the first one on is one of a stored pixel. -/
theorem storedPixel_of_isPixel {screen : Blt} {c row k : Int} (hpixel : g.mode.IsPixel c row k)
    (hrow : 0 ≤ row) (hstored : screen.Stored k) : g.StoredPixel screen row.toNat c.toNat := by
  obtain ⟨hleft, hright, hlow, hhigh⟩ := hpixel
  obtain ⟨c, rfl⟩ := Int.eq_ofNat_of_zero_le hleft
  obtain ⟨row, rfl⟩ := Int.eq_ofNat_of_zero_le hrow
  have hstart : 0 ≤ (row : Int) * g.mode.dispInfo.pitch := Int.mul_nonneg hrow (by omega)
  obtain ⟨k, rfl⟩ := Int.eq_ofNat_of_zero_le (a := k) (by omega)
  rw [← Nat.cast_mul] at hlow hhigh
  exact ⟨by omega, k - row * g.mode.dispInfo.pitch - c * 4, k,
    by simp only [Int.toNat_natCast]; omega, by omega, hstored⟩

/-- What the host reads for a stored pixel is a stored pixel, if what is read is zero and everything
else is one. -/
theorem storedPixel_read (hshows : g.Shows) (hcolumns : 0 < g.mode.dispInfo.width) {screen : Blt}
    (hones : ∀ k, ¬screen.Stored k → screen.memory k = 1) {x y w row column : Nat}
    (hmem : g.StoredPixel screen row column) (hx : x ≤ column)
    (hread : ∀ i k : Nat, k = row * g.mode.dispInfo.pitch + column * 4 + i → i < 4 →
      column < g.mode.dispInfo.width → screen.Stored k →
        screen.memory (y * g.mode.dispInfo.pitch + x * 4 + (row - y) * (w * 4) +
          (column - x) * 4 + i : Nat) = 0) :
    ∃ row' column', g.StoredPixel screen row' column' ∧
      row' * g.mode.dispInfo.width + column' =
        y * g.mode.dispInfo.width + (row - y) * w + column := by
  obtain ⟨hcol, i, k, hk, hi, hst⟩ := hmem
  have hzero := hread i k hk hi hcol hst
  refine ⟨_, _, ⟨Nat.mod_lt _ hcolumns, i, _, rfl, hi, ?_⟩, Nat.div_add_mod' _ _⟩
  by_contra hnot
  have hone := hones _ hnot
  have hindex : y * g.mode.dispInfo.pitch + x * 4 + (row - y) * (w * 4) + (column - x) * 4 + i =
      (y * g.mode.dispInfo.width + (row - y) * w + column) / g.mode.dispInfo.width *
        g.mode.dispInfo.pitch + (y * g.mode.dispInfo.width + (row - y) * w + column) %
          g.mode.dispInfo.width * 4 + i := by
    have hdiv := Nat.div_add_mod' (y * g.mode.dispInfo.width + (row - y) * w + column)
      g.mode.dispInfo.width
    rw [hshows.pitch, ← Nat.mul_assoc, ← Nat.mul_assoc, ← Nat.mul_assoc]
    omega
  rw [hindex, hone] at hzero
  exact absurd hzero (by decide)

/-- **What the host needs**: with a frame buffer and copies of ones, and an image of zeros, whatever
the host reads for a byte that was stored has to be stored as well. -/
theorem hostFits_of_presentCovered (hshows : g.Shows) (hforward : 4 ≤ p.bytesPerPixel)
    (hrects : ∀ r ∈ p.rects, g.mode.InSource p r) {h : Resources}
    (hcovered : g.PresentCovered h p) : g.HostFits h p := by
  intro hdraws hpixels
  obtain ⟨r, hr, hpixels⟩ := hpixels
  have hsource := Rect.mem_first hpixels
  obtain ⟨obj, hobj, hptr, -⟩ := hshows.backed
  obtain ⟨ptr, hptr', screen, n, resid, x, y, width, height, hcovering, hcopy⟩ :=
    hcovered (fun _ _ => 1) (fun _ => 0) ⟨fun _ _ _ _ => 1, fun _ _ _ => 0⟩
  obtain rfl : obj.number = ptr := Option.some_inj.mp (hptr.symm.trans hptr')
  obtain ⟨rfl, ⟨rfl, rfl⟩, ⟨hx, hy⟩, ⟨hw, hh⟩, hinside, -⟩ :=
    (covering_iff hshows hforward hobj _ _).mp hcovering
  obtain ⟨⟨hleft, htop⟩, hwidth, hheight⟩ := hshows.sent_eq hdraws.1 hrects hr hsource
  rw [← hx] at hleft
  rw [← hy] at htop
  rw [← hw] at hwidth
  rw [← hh] at hheight
  obtain ⟨⟨len, hlow, -, hstored⟩, hones, hzeros⟩ :=
    presented_spec hshows hrects hdraws (fun _ => 1) fun _ => 0
  replace hzeros := hzeros fun _ => rfl
  have hpieces := stored_pixel_iff hshows hrects hdraws (fun _ => 1) fun _ => 0
  generalize g.presented p (fun _ => 1) (fun _ => 0) = screen at *
  have hcolumns : 0 < g.mode.dispInfo.width := by
    have hin := ((hshows.within hdraws.1 (hrects r hr)).inside _ _ hsource).1
    exact (hshows.small (visible_of_contains hin).1).1
  have hin : ∀ row column, g.StoredPixel screen row column →
      column < g.mode.dispInfo.width ∧ InRect x y width height column row := by
    intro row column hmem
    obtain ⟨hcol, i, k, hk, hi, hst⟩ := hmem
    obtain ⟨⟨h₁, h₂⟩, h₃, h₄⟩ := hinside k hst _ _ (isPixel_of_eq hcol hi hk)
    exact ⟨hcol, by omega, by omega, by omega, by omega⟩
  have hof : ∀ k, screen.Stored k → ∀ c row, g.mode.IsPixel c row k →
      g.StoredPixel screen row.toNat c.toNat ∧ 0 ≤ row := by
    intro k hst c row hpixel
    have hrow : 0 ≤ row := (Int.natCast_nonneg y).trans (hinside k hst c row hpixel).2.1
    exact ⟨storedPixel_of_isPixel hpixel hrow hst, hrow⟩
  obtain ⟨row₀, column₀, hfirst⟩ : ∃ row column, g.StoredPixel screen row column := by
    have hst := (hstored _).mpr ⟨r, hr, _, _, hsource, 0, by omega, rfl⟩
    obtain ⟨c, row, hpixel⟩ := exists_isPixel hshows hcolumns
      ((g.mode.dstBltInfo p).address r.left r.top + (0 : Nat))
    exact ⟨_, _, (hof _ hst c row hpixel).1⟩
  by_cases hfits : ∃ w v m, h.table obj.hwRes = some ⟨w, v, some m⟩ ∧
      HostResource.Holds ⟨w, v, some m⟩ x y width height
  · obtain ⟨w, v, m, htable, hholds⟩ := hfits
    have hread : ∀ row column i k : Nat, k = row * g.mode.dispInfo.pitch + column * 4 + i → i < 4 →
        column < g.mode.dispInfo.width → screen.Stored k →
        Function.update (fun _ _ => 1) obj.number screen.memory m
          (y * g.mode.dispInfo.pitch + x * 4 + (row - y) * (w * 4) + (column - x) * 4 + i : Nat) =
            0 := by
      intro row column i k hk hi hcol hst
      have hinrect := (hin row column ⟨hcol, i, k, hk, hi, hst⟩).2
      exact (Picture.image_run_sendRect htable hholds hinrect i).symm.trans
        ((hcopy row column i k hk hi hcol hst).trans (hzeros k hst))
    obtain rfl : m = obj.number := by
      by_contra hother
      obtain ⟨hcol, i, k, hk, hi, hst⟩ := hfirst
      have hzero := hread row₀ column₀ i k hk hi hcol hst
      rw [Function.update_of_ne hother] at hzero
      exact absurd hzero (by decide)
    rw [Function.update_self] at hread
    refine ⟨obj, hobj, w, v, htable, ?_, ?_, ?_⟩
    · have hright : x + width ≤ w := hholds.1
      omega
    · have hbottom : y + height ≤ v := hholds.2
      omega
    · by_cases hsame : w = g.mode.dispInfo.width
      · exact .inl hsame
      right
      -- what is read for a stored pixel is one
      have hnext : ∀ row column, g.StoredPixel screen row column →
          ∃ row' column', g.StoredPixel screen row' column' ∧
            row' * g.mode.dispInfo.width + column' =
              y * g.mode.dispInfo.width + (row - y) * w + column :=
        fun row column hmem => storedPixel_read hshows hcolumns hones hmem
          (hin row column hmem).2.1 (hread row column)
      intro r' hr' piece hpiece hpix
      obtain ⟨k, hpixel, hst⟩ := (hpieces _ _).mpr ⟨r', hr', piece, hpiece, Rect.mem_last hpix⟩
      obtain ⟨hmem, hrow⟩ := hof k hst _ _ hpixel
      have hlast := single_row hholds.1 hsame hin hnext hmem
      omega
  · -- the host refuses the transfer, and its copy stays as it is
    obtain ⟨hcol, i, k, hk, hi, hst⟩ := hfirst
    have hcopied := hcopy row₀ column₀ i k hk hi hcol hst
    rw [Picture.image_run_sendRect_of_refused fun w v m htable hholds =>
      hfits ⟨w, v, m, htable, hholds⟩, hzeros k hst] at hcopied
    exact absurd (show (1 : Byte) = 0 from hcopied) (by decide)

/-- **Exactly when a present is covered**: the update rectangle agrees with the blits, and the
resource with the mode. -/
theorem presentDisplayOnly_covered_iff (hshows : g.Shows) (hforward : 4 ≤ p.bytesPerPixel)
    (hrects : ∀ r ∈ p.rects, g.mode.InSource p r) (h : Resources) :
    g.PresentCovered h p ↔ g.mode.Agrees p ∧ g.HostFits h p := by
  constructor
  · intro hcovered
    obtain ⟨ptr, -, screen, n, resid, x, y, width, height, hcovering, -⟩ :=
      hcovered (fun _ _ => 0) (fun _ => 0) ⟨fun _ _ _ _ => 0, fun _ _ _ => 0⟩
    exact ⟨(exists_covering_iff hshows hforward hrects _ _).mp
      ⟨screen, n, resid, x, y, width, height, hcovering⟩,
      hostFits_of_presentCovered hshows hforward hrects hcovered⟩
  · rintro ⟨hagrees, hhost⟩
    exact presentCovered_of_agrees hshows hforward hrects hagrees hhost

end Gpu

/-! ## Presents on a rotated path -/

/-- A commit whose path is rotated by 90 degrees. -/
def rotatedCommit : CommitVidPn Allocs :=
  { Dod.oneCommit ⟨64, 16⟩ oneMode allocated with
    paths := .ok [⟨.ok (), .ok ⟨0, 0, .default, .identity, .rotate90, .scrgb⟩, allocated,
      .ok ()⟩] }

/-- The device after the commit. -/
def rotatedGpu : Option Gpu :=
  Dod.device <$> (Dod.gpuSystem ⟨800, 600, 3200, .x8r8g8b8, 0⟩ 0).run [rotatedCommit]

/-- One pixel has changed; `rotate` is `Flags.Rotate`. -/
def onePixel (rotate : Bool) : PresentDisplayOnly where
  bytesPerPixel := 4
  pitch := 64
  rotate := rotate
  moves := []
  dirtyRects := [⟨0, 0, 1, 1⟩]

theorem rects_onePixel {rotate : Bool} {r : Rect} (hr : r ∈ (onePixel rotate).rects) :
    r = ⟨0, 0, 1, 1⟩ := by
  simpa [onePixel, PresentDisplayOnly.rects] using hr

theorem shows_rotatedGpu : ∃ g, rotatedGpu = some g ∧ g.Shows ∧
    ∀ rotate, ∀ r ∈ (onePixel rotate).rects, g.mode.InSource (onePixel rotate) r := by
  refine ⟨_, rfl, ?_, fun rotate r hr => ?_⟩
  · refine ⟨rfl, by decide, by decide, by decide, by decide, by decide, _, rfl, rfl, _, rfl,
      by decide, by decide⟩
  · rw [rects_onePixel hr]
    cases rotate with
    | false => exact ⟨by decide, by decide, by decide⟩
    | true => exact ⟨by decide, by decide, by decide⟩

/-- The resources of a host that has taken all commands. -/
def hostResources (g : Gpu) : Resources := Resources.empty.run (commands g.effects)

theorem presentDisplayOnly_covered_iff_onePixel : ∃ g, rotatedGpu = some g ∧
    g.PresentCovered (hostResources g) (onePixel false) := by
  obtain ⟨g, hg, hshows, hrects⟩ := shows_rotatedGpu
  refine ⟨g, hg, (Gpu.presentDisplayOnly_covered_iff hshows (by decide) (hrects false) _).mpr ?_⟩
  cases hg
  refine ⟨⟨by decide, fun _ =>
    Gpu.inside_of_unmoved hshows.visible.1 rfl rfl (hrects false)⟩, fun _ _ => ?_⟩
  · exact ⟨_, rfl, 64, 16, rfl, by decide, by decide, .inl rfl⟩

/-- The pixel is put into the last row, and the host is sent the first one. -/
theorem not_always_covered : ¬∀ acquired physicAddress d p,
    (Dod.gpuSystem acquired physicAddress).Reachable d → d.device.Shows → 4 ≤ p.bytesPerPixel →
      (∀ r ∈ p.rects, d.device.mode.InSource p r) →
        d.device.PresentCovered (hostResources d.device) p := by
  intro h
  obtain ⟨g, hg, hshows, hrects⟩ := shows_rotatedGpu
  unfold rotatedGpu at hg
  obtain ⟨d, hd, rfl⟩ := Option.map_eq_some_iff.mp hg
  obtain ⟨ptr, -, screen, n, resid, x, y, width, height, hcovering, -⟩ :=
    h _ _ d (onePixel true) (System.reachable_of_run hd) hshows (by decide) (hrects true)
      (fun _ _ => 0) (fun _ => 0) ⟨fun _ _ _ _ => 0, fun _ _ _ => 0⟩
  have hagrees := (Gpu.exists_covering_iff hshows (by decide) (hrects true) _ _).mp
    ⟨screen, n, resid, x, y, width, height, hcovering⟩
  cases hd
  have hinside := hagrees.inside ⟨by decide, by decide⟩ ⟨0, 0, 1, 1⟩
    (by simp [onePixel, PresentDisplayOnly.rects]) ⟨0, 15, 1, 16⟩ (by decide) (by decide)
  exact absurd hinside.bottom (by decide)

/-! ## Presents in a mode that is not listed -/

/-- The device after a commit of a listed size and one of a size that is not listed but has room. -/
def unlistedGpu : Option Gpu :=
  Dod.device <$> (Dod.gpuSystem ⟨800, 600, 3200, .x8r8g8b8, 0⟩ 0).run
    [Dod.oneCommit ⟨64, 16⟩ oneMode allocated, Dod.oneCommit ⟨32, 16⟩ oneMode allocated]

/-- Two pixels of the first column have changed. -/
def twoPixels : PresentDisplayOnly where
  bytesPerPixel := 4
  pitch := 128
  rotate := false
  moves := []
  dirtyRects := [⟨0, 0, 1, 2⟩]

/-- The update rectangle agrees, but the host goes by the rows of the frame buffer's resource, which
are twice as long as those of the mode. -/
theorem not_covered_unlisted : ∃ g, unlistedGpu = some g ∧ g.Shows ∧ g.mode.Agrees twoPixels ∧
    ¬g.PresentCovered (hostResources g) twoPixels := by
  have hrect : ∀ r ∈ twoPixels.rects, r = ⟨0, 0, 1, 2⟩ := by
    intro r hr
    simpa [twoPixels, PresentDisplayOnly.rects] using hr
  obtain ⟨g, hg, hshows, hrects⟩ : ∃ g, unlistedGpu = some g ∧ g.Shows ∧
      ∀ r ∈ twoPixels.rects, g.mode.InSource twoPixels r := by
    refine ⟨_, rfl, ⟨rfl, by decide, by decide, by decide, by decide, by decide, _, rfl, rfl, _,
      rfl, by decide, by decide⟩, fun r hr => ?_⟩
    rw [hrect r hr]
    exact ⟨by decide, by decide, by decide⟩
  refine ⟨g, hg, hshows, ?_⟩
  cases hg
  refine ⟨⟨by decide, fun _ => Gpu.inside_of_unmoved hshows.visible.1 rfl rfl hrects⟩,
    fun hcovered => ?_⟩
  obtain ⟨obj, hobj, w, v, htable, -, -, hrows⟩ :=
    Gpu.hostFits_of_presentCovered hshows (by decide) hrects hcovered ⟨by decide, by decide⟩
      ⟨⟨0, 0, 1, 2⟩, by decide, by decide⟩
  cases hobj
  cases htable
  obtain hsame | hrow := hrows
  · exact absurd hsame (by decide)
  · exact absurd (hrow ⟨0, 0, 1, 2⟩ (by decide) ⟨0, 0, 1, 2⟩ (by decide) (by decide)) (by decide)

end VioGpu.Device
