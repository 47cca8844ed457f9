import VioGpu.Device.Callbacks
import VioGpu.Device.ModeListRuns

/-!
# The memory of the frame buffer

`CreateFrameBuffer` multiplies the stride and the height of the mode in 32 bits, `Init` rounds
the product up to pages in 32 bits, and the list of the pages ends at the first one without a
physical address. So the memory of the frame buffer, and the part of it the host is given, can
be smaller than the screen (`frameBuffer_covers_iff`).
-/

namespace VioGpu.Device

open Lib Queue

/-! ## Pages -/

theorem le_bytesToPages (size : Nat) : size ≤ bytesToPages size * pageSize := by
  unfold bytesToPages pageSize
  split <;> omega

theorem bytesToPages_lt (size : Nat) : bytesToPages size * pageSize < size + pageSize := by
  unfold bytesToPages pageSize
  split <;> omega

/-- A page is in the list when it and those before it have an address. -/
theorem VioGpuObj.lt_fillSgList_iff {pages i : Nat} {pa : Nat → Nat} :
    i < (fillSgList pages pa).length ↔ i < pages ∧ ∀ j ≤ i, pa j ≠ 0 := by
  have hfind : (fillSgList pages pa).length =
      ((List.range pages).map pa).findIdx fun a => !decide (a ≠ 0) := by
    rw [fillSgList, List.length_map, List.takeWhile_eq_take_findIdx_not, List.length_take]
    exact Nat.min_eq_left List.findIdx_le_length
  rw [hfind, List.lt_findIdx_iff]
  simp

theorem VioGpuObj.fillSgList_length_le (pages : Nat) (pa : Nat → Nat) :
    (fillSgList pages pa).length ≤ pages := by
  apply Nat.le_of_not_lt
  intro hlt
  exact Nat.lt_irrefl _ (lt_fillSgList_iff.mp hlt).1

/-- All pages are in the list when all have an address. -/
theorem VioGpuObj.le_fillSgList_iff {pages : Nat} {pa : Nat → Nat} :
    pages ≤ (fillSgList pages pa).length ↔ ∀ i < pages, pa i ≠ 0 := by
  constructor
  · intro hle i hi
    exact (lt_fillSgList_iff.mp (Nat.lt_of_lt_of_le hi hle)).2 i (Nat.le_refl i)
  · intro hall
    apply Nat.le_of_not_lt
    intro hlt
    have hself := lt_fillSgList_iff.mpr
      ⟨hlt, fun j hj => hall j (Nat.lt_of_le_of_lt hj hlt)⟩
    exact Nat.lt_irrefl _ hself

namespace Gpu

variable {g g' : Gpu} {mi : VideoModeInformation} {a : Allocs} {pa : Nat → Nat}

theorem exists_done_of_succeeds {o : InitOutcome} (h : o.Succeeds) : ∃ pa, o = .done pa := by
  cases o with
  | done pa => exact ⟨pa, rfl⟩
  | noMemory => cases h
  | noMdl => cases h
  | lockFailed => cases h
  | noSgList => cases h

/-- Without an object there is nothing `Init` could be called on. -/
theorem object_of_createFrameBuffer (h : g.createFrameBuffer mi a = some g') :
    a.object = true := by
  obtain ⟨⟨obj, g₁⟩, hnew, -⟩ := Option.bind_eq_some_iff.mp h
  unfold newObj at hnew
  split_ifs at hnew with hobject
  exact hobject

theorem createFrameBuffer_isSome (hobject : a.object = true) (hinit : a.init = .done pa) :
    (g.createFrameBuffer mi a).isSome := by
  simp [createFrameBuffer, newObj, hobject, hinit, VioGpuObj.init]

theorem createFrameBuffer_sgList {obj : VioGpuObj} (h : g.createFrameBuffer mi a = some g')
    (hinit : a.init = .done pa) (hobj : g'.frameBuf = some obj) :
    obj.sgList = VioGpuObj.fillSgList
      (bytesToPages (u32 (mi.screenStride * mi.visScreenHeight))) pa := by
  unfold createFrameBuffer at h
  obtain ⟨⟨made, g₁⟩, hnew, h⟩ := Option.bind_eq_some_iff.mp h
  rw [hinit] at h
  cases hents : a.ents with
  | false =>
    rw [hents] at h
    cases h
    cases hobj
    rfl
  | true =>
    rw [hents] at h
    cases h
    cases hobj
    rfl

/-- **`CreateFrameBuffer`** with a successful `Init`: the memory and the list of the frame
buffer, and what it attaches. -/
theorem createFrameBuffer_done (h : g.createFrameBuffer mi a = some g')
    (hinit : a.init = .done pa) :
    let pages := bytesToPages (u32 (mi.screenStride * mi.visScreenHeight))
    ∃ obj new, g'.frameBuf = some obj ∧ obj.vAddr = some (u32 (pages * pageSize)) ∧
      obj.sgList = VioGpuObj.fillSgList pages pa ∧ g'.effects = g.effects ++ new ∧
      ∀ n r ents, .ctrl n (.resourceAttachBacking r ents) ∈ new ↔
        a.ents = true ∧ n = g.objects ∧ r = g.idr.getId.1 ∧ ents = obj.sgList := by
  rcases createFrameBuffer_cases h with ⟨hfails, -⟩ | ⟨-, obj, -, hmem, hmade⟩
  · rw [hinit] at hfails
    exact absurd trivial hfails
  · have hobj : g'.frameBuf = some obj := by rw [hmade]
    have heffects : ∃ new, g'.effects = g.effects ++ new ∧
        ∀ n r ents, Effect.ctrl n (.resourceAttachBacking r ents) ∈ new ↔
          a.ents = true ∧ n = g.objects ∧ r = g.idr.getId.1 ∧ ents = obj.sgList := by
      rw [hmade]
      refine ⟨_, (List.append_assoc _ _ _).trans (List.append_assoc _ _ _), fun n r ents => ?_⟩
      cases a.ents <;> simp
    obtain ⟨new, hnew, hattach⟩ := heffects
    exact ⟨obj, new, hobj, hmem, createFrameBuffer_sgList h hinit hobj, hnew, hattach⟩

/-- The frame buffer has the bytes of the screen: its memory has, and the pages in its list,
which are the entries that are attached. -/
structure Covers (g g' : Gpu) (obj : VioGpuObj) (bytes : Nat) : Prop where
  memory : ∃ size, obj.vAddr = some size ∧ bytes ≤ size
  sgList : bytes ≤ obj.sgList.length * pageSize
  attached : ∀ new, g'.effects = g.effects ++ new → ∀ n r ents,
    .ctrl n (.resourceAttachBacking r ents) ∈ new → ents = obj.sgList

/-- The memory is large enough unless a product wraps. -/
theorem le_u32_pages_iff {bytes : Nat} :
    bytes ≤ u32 (bytesToPages (u32 bytes) * pageSize) ↔ bytes ≤ 4294963200 := by
  have hle := le_bytesToPages (u32 bytes)
  have hlt := bytesToPages_lt (u32 bytes)
  constructor
  · intro h
    apply Nat.le_of_not_lt
    intro hbig
    by_cases hwrap : bytes < 4294967296
    · have hu : u32 bytes = bytes := Nat.mod_eq_of_lt hwrap
      have hpages : bytesToPages bytes * pageSize = 4294967296 := by
        rw [hu] at hle hlt
        unfold pageSize at *
        omega
      rw [hu, hpages] at h
      change bytes ≤ 0 at h
      omega
    · unfold u32 at h
      omega
  · intro h
    have hu : u32 bytes = bytes := Nat.mod_eq_of_lt (by omega)
    rw [hu] at hle hlt ⊢
    have hfits : bytesToPages bytes * pageSize < 4294967296 := by
      unfold pageSize at *
      omega
    rwa [u32, Nat.mod_eq_of_lt hfits]

/-- The list covers the bytes when all their pages have an address. -/
theorem le_sgList_iff {bytes : Nat} :
    bytes ≤ (VioGpuObj.fillSgList (bytesToPages bytes) pa).length * pageSize ↔
      ∀ i < bytesToPages bytes, pa i ≠ 0 := by
  rw [← VioGpuObj.le_fillSgList_iff]
  have hle := le_bytesToPages bytes
  have hlt := bytesToPages_lt bytes
  unfold pageSize at *
  omega

/-- What is left on the frame buffer by a successful `Init`. -/
theorem covers_iff {obj : VioGpuObj} (h : g.createFrameBuffer mi a = some g')
    (hinit : a.init = .done pa) (hobj : g'.frameBuf = some obj) :
    Covers g g' obj (mi.screenStride * mi.visScreenHeight) ↔
      mi.screenStride * mi.visScreenHeight ≤ 4294963200 ∧
        ∀ i < bytesToPages (mi.screenStride * mi.visScreenHeight), pa i ≠ 0 := by
  obtain ⟨made, new, hmade, hmem, hsgl, heffects, hattach⟩ := createFrameBuffer_done h hinit
  cases hmade.symm.trans hobj
  constructor
  · rintro ⟨⟨size, hsize, hle⟩, hlist, -⟩
    cases hmem.symm.trans hsize
    have hfits := le_u32_pages_iff.mp hle
    have hu : u32 (mi.screenStride * mi.visScreenHeight) = _ := Nat.mod_eq_of_lt (by omega)
    rw [hsgl, hu] at hlist
    exact ⟨hfits, le_sgList_iff.mp hlist⟩
  · rintro ⟨hfits, hpages⟩
    have hu : u32 (mi.screenStride * mi.visScreenHeight) = _ := Nat.mod_eq_of_lt (by omega)
    refine ⟨⟨_, hmem, le_u32_pages_iff.mpr hfits⟩, ?_, fun new' hnew' n r ents hents => ?_⟩
    · rw [hsgl, hu]
      exact le_sgList_iff.mpr hpages
    · rw [heffects] at hnew'
      rw [← List.append_cancel_left hnew'] at hents
      exact ((hattach n r ents).mp hents).2.2.2

/-- **The frame buffer has the bytes of the screen** exactly if their number, rounded up to
pages, fits in 32 bits and all the pages have an address. -/
theorem frameBuffer_covers_iff (g : Gpu) (hg : g.frameBuf = none) (mi : VideoModeInformation)
    (a : Allocs) :
    (∀ g' obj, g.createFrameBuffer mi a = some g' → g'.frameBuf = some obj →
      Covers g g' obj (mi.screenStride * mi.visScreenHeight)) ↔
    (a.object = true → ∀ pa, a.init = .done pa →
      mi.screenStride * mi.visScreenHeight ≤ 4294963200 ∧
        ∀ i < bytesToPages (mi.screenStride * mi.visScreenHeight), pa i ≠ 0) := by
  constructor
  · intro hall hobject pa hinit
    have hsome : (g.createFrameBuffer mi a).isSome := createFrameBuffer_isSome hobject hinit
    obtain ⟨g', hg'⟩ := Option.isSome_iff_exists.mp hsome
    obtain ⟨obj, -, hobj, -⟩ := createFrameBuffer_done hg' hinit
    exact (covers_iff hg' hinit hobj).mp (hall g' obj hg' hobj)
  · intro hcond g' obj hg' hobj
    rcases createFrameBuffer_cases hg' with ⟨-, rfl⟩ | ⟨hsucceeds, -⟩
    · cases hg.symm.trans hobj
    · obtain ⟨pa, hinit⟩ := exists_done_of_succeeds hsucceeds
      exact (covers_iff hg' hinit hobj).mpr (hcond (object_of_createFrameBuffer hg') pa hinit)

theorem frameBuffer_covers_oneMode : ∃ g' obj,
    (start firstMode).createFrameBuffer ⟨0, 64, 16, 256⟩ allocated = some g' ∧
      g'.frameBuf = some obj ∧ Covers (start firstMode) g' obj 4096 := by
  have hpages : ∀ i < bytesToPages 4096, 4096 * (i + 1) ≠ 0 := by
    intro i _
    omega
  have hcond : allocated.object = true → ∀ pa, allocated.init = .done pa →
      256 * 16 ≤ 4294963200 ∧ ∀ i < bytesToPages (256 * 16), pa i ≠ 0 := by
    intro _ pa hpa
    cases hpa
    exact ⟨by decide, hpages⟩
  exact ⟨_, _, rfl, rfl, (frameBuffer_covers_iff (start firstMode) rfl ⟨0, 64, 16, 256⟩
    allocated).mpr hcond _ _ rfl rfl⟩

/-- The whole of `GetModeList`, with everything going well and no display at its end, and then a
display event with this size. -/
def modeListThenDisplay (xres yres : Nat) : List HwInitEvent :=
  List.replicate 19 (.main true 0 0) ++ [.displayInfo xres yres, .worker, .worker, .worker, .worker]

/-- The size of the largest custom mode wraps. -/
theorem not_always_covers : ¬∀ pDispInfo customMode s g mi a g' obj,
    (HwInit.system pDispInfo customMode).Reachable s → mi ∈ s.table.modes → g.frameBuf = none →
      g.createFrameBuffer mi a = some g' → g'.frameBuf = some obj →
      Covers g g' obj (mi.screenStride * mi.visScreenHeight) := by
  intro hall
  obtain ⟨s, hs, hmode⟩ : ∃ s, (HwInit.system HwInit.smallDisplay 0).run
      (modeListThenDisplay 65535 65535) = some s ∧
      s.table.modes[5]? = some ⟨5, 65535, 65535, 262140⟩ := ⟨_, rfl, rfl⟩
  have hsome : ((start firstMode).createFrameBuffer ⟨5, 65535, 65535, 262140⟩ allocated).isSome :=
    createFrameBuffer_isSome rfl rfl
  obtain ⟨g', hg'⟩ := Option.isSome_iff_exists.mp hsome
  obtain ⟨obj, new, hobj, hmem, -⟩ := createFrameBuffer_done hg' rfl
  obtain ⟨⟨size, hsize, hle⟩, -⟩ := hall _ _ s _ _ _ g' obj (System.reachable_of_run hs)
    (List.mem_of_getElem? hmode) rfl hg' hobj
  cases hmem.symm.trans hsize
  have hfits := le_u32_pages_iff.mp hle
  revert hfits
  decide

end Gpu

end VioGpu.Device
