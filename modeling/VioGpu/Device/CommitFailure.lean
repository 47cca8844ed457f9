import VioGpu.Device.CommitResult
import VioGpu.Device.VgaRuns

/-!
# What a failed commit has changed

`CommitVidPn` releases the old frame buffer and overwrites the geometry before several steps that
can fail, and restores nothing. `Dod.commitVidPn_sameMode_iff` says for both devices when the
current mode is nevertheless unchanged after a failure. On the `GpuDevice` path only the OS can fail
the call, and the mode changes before that count; on the `VgaDevice` path a frame buffer that was
mapped is lost, and otherwise the mode stays as it is only where the first failure is one of
`AcquireFrameBuffer`.
-/

namespace VioGpu.Device

open Lib

/-- The current mode and its index are as before. -/
structure SameMode (mode mode' : CurrentBddMode) (idx idx' : Nat) : Prop where
  dispInfo : mode'.dispInfo = mode.dispInfo
  srcModeWidth : mode'.srcModeWidth = mode.srcModeWidth
  srcModeHeight : mode'.srcModeHeight = mode.srcModeHeight
  rotation : mode'.rotation = mode.rotation
  scaling : mode'.scaling = mode.scaling
  ptr : mode'.ptr = mode.ptr
  active : mode'.frameBufferIsActive = mode.frameBufferIsActive
  index : idx' = idx

theorem SameMode.refl (mode : CurrentBddMode) (idx : Nat) : SameMode mode mode idx idx where
  dispInfo := rfl
  srcModeWidth := rfl
  srcModeHeight := rfl
  rotation := rfl
  scaling := rfl
  ptr := rfl
  active := rfl
  index := rfl

/-- The frame buffer of the mode is one that was created before. -/
def Gpu.PtrNumbered (g : Gpu) : Prop := ∀ n ∈ g.mode.ptr, n < g.objects

/-- The frame buffer of the mode is one that was mapped before. -/
def Vga.PtrNumbered (v : Vga) : Prop := ∀ n ∈ v.mode.ptr, n < v.mappings

/-! ## `GpuDevice` -/

namespace Dod

/-- A failure leaves the mode as it is: no mode change came before it, or the last one had the old
geometry and, if a mode is listed, none of them made a frame buffer where there was none. -/
def GpuKeepsMode (d : Dod Gpu) (c : CommitVidPn Allocs) : Prop :=
  match c.course with
  | .ends _ | .releases _ => True
  | .loops m paths => LoopEnds paths ∨ ∀ t ∈ (tries paths).getLast?,
      sourceMode d.device.mode m t.1 = d.device.mode ∧
      (Gpu.chosenMode c.modes m.primSurfSize ≠ none →
        (∀ u ∈ tries paths, ¬u.2.init.Succeeds) ∧ d.device.mode.frameBufferIsActive = false ∧
        d.device.mode.dispInfo.physicAddress = 0 ∧
        sizeIndex c.modes m.primSurfSize = some d.currentModeIndex)

/-- The geometry that a mode change sets is the old one exactly if the source mode is. -/
theorem sourceMode_eq_iff {mode : CurrentBddMode} {m : VidPnSourceMode} {path : VidPnPresentPath} :
    sourceMode mode m path = mode ↔ (sourceMode mode m path).dispInfo = mode.dispInfo ∧
      (sourceMode mode m path).srcModeWidth = mode.srcModeWidth ∧
      (sourceMode mode m path).srcModeHeight = mode.srcModeHeight ∧
      (sourceMode mode m path).rotation = mode.rotation ∧
      (sourceMode mode m path).scaling = mode.scaling := by
  constructor
  · intro h
    rw [h]
    exact ⟨rfl, rfl, rfl, rfl, rfl⟩
  · rintro ⟨hinfo, hwidth, hheight, hrotation, hscaling⟩
    obtain ⟨dispInfo, rotation, scaling, width, height, full, active, doNot, ptr⟩ := mode
    simp only [sourceMode] at hinfo hwidth hheight hrotation hscaling ⊢
    rw [hinfo, hwidth, hheight, hrotation, hscaling]

/-- A mode with this geometry is the same exactly if the rest is. -/
theorem sameMode_iff {mode : CurrentBddMode} (mode' : CurrentBddMode) {idx idx' : Nat}
    (m : VidPnSourceMode) (path : VidPnPresentPath) (physicAddress : Nat)
    (hinfo : mode'.dispInfo =
      { (sourceMode mode m path).dispInfo with physicAddress := physicAddress })
    (hwidth : mode'.srcModeWidth = (sourceMode mode m path).srcModeWidth)
    (hheight : mode'.srcModeHeight = (sourceMode mode m path).srcModeHeight)
    (hrotation : mode'.rotation = (sourceMode mode m path).rotation)
    (hscaling : mode'.scaling = (sourceMode mode m path).scaling) :
    SameMode mode mode' idx idx' ↔ sourceMode mode m path = mode ∧
      physicAddress = mode.dispInfo.physicAddress ∧ mode'.ptr = mode.ptr ∧
      mode'.frameBufferIsActive = mode.frameBufferIsActive ∧ idx' = idx := by
  constructor
  · rintro ⟨hinfo', hwidth', hheight', hrotation', hscaling', hptr, hactive, hidx⟩
    have haddress : physicAddress = mode.dispInfo.physicAddress := by
      rw [← hinfo', hinfo]
    refine ⟨sourceMode_eq_iff.mpr ⟨?_, ?_, ?_, ?_, ?_⟩, haddress, hptr, hactive, hidx⟩
    · rw [← hinfo', hinfo, haddress]
      rfl
    · rw [← hwidth, hwidth']
    · rw [← hheight, hheight']
    · rw [← hrotation, hrotation']
    · rw [← hscaling, hscaling']
  · rintro ⟨hsame, haddress, hptr, hactive, hidx⟩
    rw [hsame] at hinfo hwidth hheight hrotation hscaling
    exact ⟨by rw [hinfo, haddress], hwidth, hheight, hrotation, hscaling, hptr, hactive, hidx⟩

/-- **A failed commit on the `GpuDevice` path.** -/
theorem commitVidPn_gpu_sameMode_iff {d d' : Dod Gpu} {c : CommitVidPn Allocs} {status : Status}
    {calls : List OsCall} (hptr : d.device.PtrNumbered)
    (h : commitVidPn gpuDevice d c = some (status, calls, d')) :
    (status ≠ .success →
      SameMode d.device.mode d'.device.mode d.currentModeIndex d'.currentModeIndex) ↔
      d.GpuKeepsMode c := by
  have hfollows := commitVidPn_course h
  unfold GpuKeepsMode
  cases hcourse : c.course with
  | ends success =>
    rw [hcourse] at hfollows
    obtain ⟨rfl, -⟩ := hfollows
    exact iff_of_true (fun _ => .refl _ _) trivial
  | releases success =>
    rw [hcourse] at hfollows
    obtain ⟨released, device, hrelease, rfl, -⟩ := hfollows
    rw [releaseOld_gpu] at hrelease
    cases hrelease
    exact iff_of_true (fun _ => .refl _ _) trivial
  | loops m paths =>
    rw [hcourse] at hfollows
    obtain ⟨released, device, hrelease, -, hloop⟩ := hfollows
    rw [releaseOld_gpu] at hrelease
    cases hrelease
    obtain ⟨changed, hchanges, hiff⟩ := hloop rfl
    obtain ⟨rfl, hnil, hcases⟩ := changeModes_gpu hchanges
    simp only [true_and] at hiff
    simp only
    by_cases hends : LoopEnds paths
    · exact iff_of_true (fun hne => absurd (hiff.mpr hends) hne) (.inl hends)
    rw [or_iff_right hends, forall_prop_of_true fun hok => hends (hiff.mp hok)]
    cases hlast : (tries paths).getLast? with
    | none =>
      rw [hnil (List.getLast?_eq_none_iff.mp hlast)]
      exact iff_of_true (.refl _ _) (by simp)
    | some t =>
      simp only [Option.mem_some_iff, forall_eq']
      rcases hcases t.1 t.2 hlast with ⟨hnone, rfl⟩ | ⟨mi, hmi, hchanged⟩
      · refine (sameMode_iff (shownMode d.device.mode m t.1) m t.1
          d.device.mode.dispInfo.physicAddress rfl rfl rfl rfl rfl).trans ?_
        simp [hnone, shownMode, sourceMode]
      · obtain ⟨physicAddress, ptr, active, hmode⟩ := hchanged.mode
        rw [sameMode_iff d'.device.mode m t.1 physicAddress (by rw [hmode]) (by rw [hmode]; rfl)
          (by rw [hmode]; rfl) (by rw [hmode]; rfl) (by rw [hmode]; rfl), hmi]
        have hmem : t ∈ tries paths := List.mem_of_getLast? hlast
        refine and_congr_right fun _ => ⟨?_, ?_⟩
        · rintro ⟨haddress, hsame, hactive, hidx⟩ -
          have hnone : ∀ u ∈ tries paths, ¬u.2.init.Succeeds := by
            intro u hu hok
            obtain ⟨n, hle, hn⟩ := hchanged.newPtr u hu hok
            have hlt := hptr n (hsame ▸ hn)
            exact absurd hle (Nat.not_le_of_lt hlt)
          obtain ⟨-, hinactive, hzero⟩ := hchanged.failed (hnone t hmem)
          rw [hmode] at hzero
          exact ⟨hnone, hactive ▸ hinactive, haddress ▸ hzero, hidx ▸ hchanged.index⟩
        · intro hkeeps
          obtain ⟨hnone, hinactive, hzero, hidx⟩ := hkeeps (Option.some_ne_none mi)
          obtain ⟨-, hinactive', hzero'⟩ := hchanged.failed (hnone t hmem)
          rw [hmode] at hzero'
          exact ⟨hzero'.trans hzero.symm, hchanged.samePtr hnone,
            hinactive'.trans hinactive.symm, Option.some_inj.mp (hchanged.index.symm.trans hidx)⟩

end Dod

/-! ## `VgaDevice` -/

namespace Vga

/-- `AcquireFrameBuffer` comes to `MmMapIoSpace`. -/
def mappable (mode : CurrentBddMode) : Bool :=
  !mode.doNotMapOrUnmap && mode.dispInfo.physicAddress != 0 &&
    u32 (mode.dispInfo.height * mode.dispInfo.pitch) != 0

/-- `AcquireFrameBuffer` succeeds in this mode change. -/
def maps (mode : CurrentBddMode) (m : VidPnSourceMode) (t : VidPnPresentPath × VgaOutcomes) :
    Bool :=
  mappable (Dod.sourceMode mode m t.1) && t.2.mapped

/-- This mode change succeeds: without a mode of the size the BIOS is not asked. -/
def completes (mode : CurrentBddMode) (modes : List VideoModeInformation) (m : VidPnSourceMode)
    (t : VidPnPresentPath × VgaOutcomes) : Bool :=
  maps mode m t && ((Dod.sizeIndex modes m.primSurfSize).isNone || t.2.biosCall)

theorem mappable_iff (v : Vga) : mappable v.mode = true ↔ v.mode.doNotMapOrUnmap = false ∧
    ¬(v.mode.dispInfo.physicAddress = 0 ∨ v.length = 0) := by
  rw [not_or, show v.length = u32 (v.mode.dispInfo.height * v.mode.dispInfo.pitch) from rfl]
  simp [mappable, and_assoc]

theorem acquireFrameBuffer_cases (v : Vga) (o : VgaOutcomes) :
    ((mappable v.mode && o.mapped) = true ∧ v.acquireFrameBuffer o = (.success, { v with
      mode := { v.mode with ptr := some v.mappings, frameBufferIsActive := true }
      mappings := v.mappings + 1
      base := v.mode.dispInfo.physicAddress })) ∨
    ((mappable v.mode && o.mapped) = false ∧ (v.acquireFrameBuffer o).1 ≠ .success ∧
      (v.acquireFrameBuffer o).2 = { v with
        mode := { v.mode with ptr := if mappable v.mode then none else v.mode.ptr } }) := by
  unfold acquireFrameBuffer
  by_cases hmappable : mappable v.mode = true
  · obtain ⟨hdoNot, hzero⟩ := v.mappable_iff.mp hmappable
    rw [if_neg (by simp [hdoNot]), if_neg hzero, if_pos hmappable, hmappable]
    cases o.mapped with
    | true => exact .inl ⟨rfl, rfl⟩
    | false => exact .inr ⟨rfl, nofun, rfl⟩
  · have hnot : mappable v.mode = false := Bool.eq_false_iff.mpr hmappable
    rw [if_neg hmappable, hnot]
    by_cases hdoNot : v.mode.doNotMapOrUnmap = true
    · rw [if_pos hdoNot]
      exact .inr ⟨rfl, nofun, rfl⟩
    · have hzero : v.mode.dispInfo.physicAddress = 0 ∨ v.length = 0 := by
        by_contra hzero
        exact hmappable (v.mappable_iff.mpr ⟨Bool.eq_false_iff.mpr hdoNot, hzero⟩)
      rw [if_neg hdoNot, if_pos hzero]
      exact .inr ⟨rfl, nofun, rfl⟩

end Vga

namespace Dod

/-- **`SetSourceModeAndPath`** on the `VgaDevice` path: `AcquireFrameBuffer` fails, or the frame
buffer is mapped anew, whatever the BIOS does then. -/
theorem setSourceModeAndPath_vga {d d' : Dod Vga} {modes : List VideoModeInformation}
    {m : VidPnSourceMode} {t : VidPnPresentPath × VgaOutcomes} {status : Status}
    (h : setSourceModeAndPath vgaDevice d modes m t.1 t.2 = some (status, d')) :
    (Vga.maps d.device.mode m t = false ∧ status ≠ .success ∧
      d'.currentModeIndex = d.currentModeIndex ∧
      d'.device.mode = { sourceMode d.device.mode m t.1 with
        ptr := if Vga.mappable (sourceMode d.device.mode m t.1) then none
          else d.device.mode.ptr }) ∨
    (Vga.maps d.device.mode m t = true ∧
      (status = .success ↔ Vga.completes d.device.mode modes m t = true) ∧
      (status = .success →
        d'.currentModeIndex = (sizeIndex modes m.primSurfSize).getD d.currentModeIndex) ∧
      d'.device.mappings = d.device.mappings + 1 ∧
      d'.device.mode = { shownMode d.device.mode m t.1 with
        ptr := some d.device.mappings
        frameBufferIsActive := true }) := by
  unfold setSourceModeAndPath at h
  obtain ⟨⟨acquired, v⟩, hacquire, h⟩ := Option.bind_eq_some_iff.mp h
  replace hacquire : { d.device with mode := sourceMode d.device.mode m t.1 }.acquireFrameBuffer
      t.2 = (acquired, v) := Option.some_inj.mp hacquire
  rcases Vga.acquireFrameBuffer_cases { d.device with mode := sourceMode d.device.mode m t.1 } t.2
    with ⟨hmaps, heq⟩ | ⟨hmaps, hfails, heq⟩
  · rw [hacquire] at heq
    cases heq
    refine .inr ⟨hmaps, ?_⟩
    have hcompletes : Vga.completes d.device.mode modes m t =
        ((sizeIndex modes m.primSurfSize).isNone || t.2.biosCall) := by
      rw [Vga.completes, show Vga.maps d.device.mode m t = true from hmaps, Bool.true_and]
    rw [hcompletes]
    simp only [ne_eq, not_true_eq_false, if_false] at h
    generalize hi : modeIndex modes _ = index at h
    replace hi : sizeIndex modes m.primSurfSize = index := hi
    rw [hi]
    cases index with
    | none =>
      cases h
      exact ⟨iff_of_true rfl rfl, fun _ => rfl, rfl, rfl⟩
    | some idx =>
      obtain ⟨modeInfo, hget, h⟩ := Option.bind_eq_some_iff.mp h
      obtain ⟨⟨set, w⟩, hset, h⟩ := Option.bind_eq_some_iff.mp h
      cases hset
      cases h
      cases hbios : t.2.biosCall with
      | true => exact ⟨by simp, fun _ => by simp, rfl, rfl⟩
      | false => exact ⟨by simp, by simp, rfl, rfl⟩
  · rw [hacquire] at hfails heq
    simp only [if_pos hfails] at h
    cases h
    cases heq
    exact .inl ⟨hmaps, hfails, rfl, rfl⟩

/-- What is left when `AcquireFrameBuffer` fails in this mode change, after others or none. -/
structure StoppedAt (d d' : Dod Vga) (modes : List VideoModeInformation) (m : VidPnSourceMode)
    (t : VidPnPresentPath × VgaOutcomes) (done : List (VidPnPresentPath × VgaOutcomes)) :
    Prop where
  index : d'.currentModeIndex =
    if done = [] then d.currentModeIndex
    else (sizeIndex modes m.primSurfSize).getD d.currentModeIndex
  mode : ∃ full, d'.device.mode = { sourceMode d.device.mode m t.1 with
    fullscreenPresent := full
    ptr := if Vga.mappable (sourceMode d.device.mode m t.1) then none else d.device.mode.ptr
    frameBufferIsActive := if done = [] then d.device.mode.frameBufferIsActive else true }

/-- A frame buffer that has been mapped since. -/
def Remapped (d d' : Dod Vga) : Prop :=
  ∃ n, d.device.mappings ≤ n ∧ d'.device.mode.ptr = some n

theorem Remapped.of_le {d d₁ d' : Dod Vga} (h : d₁.Remapped d')
    (hle : d.device.mappings ≤ d₁.device.mappings) : d.Remapped d' := by
  obtain ⟨n, hn, hptr⟩ := h
  exact ⟨n, Nat.le_trans hle hn, hptr⟩

/-- A mode change that succeeds before others. -/
theorem StoppedAt.cons {d d₁ d' : Dod Vga} {modes : List VideoModeInformation}
    {m : VidPnSourceMode} {first t : VidPnPresentPath × VgaOutcomes}
    {done : List (VidPnPresentPath × VgaOutcomes)} {n : Nat}
    (h : d₁.StoppedAt d' modes m t done)
    (hmappable : Vga.mappable (sourceMode d.device.mode m t.1) = true)
    (hindex : d₁.currentModeIndex = (sizeIndex modes m.primSurfSize).getD d.currentModeIndex)
    (hmode : d₁.device.mode = { shownMode d.device.mode m first.1 with
      ptr := some n
      frameBufferIsActive := true }) :
    d.StoppedAt d' modes m t (first :: done) := by
  obtain ⟨hindex', full, hmode'⟩ := h
  have hmappable' : Vga.mappable (sourceMode d₁.device.mode m t.1) = true := by
    rw [hmode]
    exact hmappable
  refine ⟨?_, full, ?_⟩
  · rw [hindex', hindex, if_neg (List.cons_ne_nil _ _)]
    cases sizeIndex modes m.primSurfSize <;> simp
  · rw [hmode', if_pos hmappable', if_neg (List.cons_ne_nil _ _), if_pos hmappable, hmode]
    simp only [sourceMode, shownMode, ite_self]

/-- **The mode changes of a commit** on the `VgaDevice` path, up to the first that fails. -/
theorem changeModes_vga {d d' : Dod Vga} {modes : List VideoModeInformation} {m : VidPnSourceMode}
    {tried : List (VidPnPresentPath × VgaOutcomes)} {status : Status}
    (h : changeModes vgaDevice modes m d tried = some (status, d')) :
    (status = .success ↔ tried.dropWhile (Vga.completes d.device.mode modes m) = []) ∧
      (tried = [] → d' = d) ∧
      (tried ≠ [] → tried.dropWhile (Vga.completes d.device.mode modes m) = [] →
        d.Remapped d') ∧
      ∀ t rest, tried.dropWhile (Vga.completes d.device.mode modes m) = t :: rest →
        (Vga.maps d.device.mode m t = true → d.Remapped d') ∧
        (Vga.maps d.device.mode m t = false → d.StoppedAt d' modes m t
          (tried.takeWhile (Vga.completes d.device.mode modes m))) := by
  induction tried generalizing d with
  | nil =>
    cases h
    exact ⟨by simp, fun _ => rfl, by simp, by simp⟩
  | cons t tried ih =>
    obtain ⟨first, d₁, hset, hfirst⟩ := changeModes_cons h
    rcases setSourceModeAndPath_vga hset with
      ⟨hmaps, hfails, hindex, hmode⟩ | ⟨hmaps, hcompletes, hindex, hmappings, hmode⟩
    · have hnot : Vga.completes d.device.mode modes m t = false := by
        rw [Vga.completes, hmaps, Bool.false_and]
      obtain ⟨-, rfl, rfl⟩ | ⟨hok, -⟩ := hfirst
      · simp only [List.dropWhile_cons, List.takeWhile_cons, hnot, Bool.false_eq_true, if_false]
        refine ⟨by simp [hfails], by simp, by simp, ?_⟩
        rintro u rest ⟨⟩
        refine ⟨fun htrue => ?_, fun _ => ⟨hindex, d.device.mode.fullscreenPresent, hmode⟩⟩
        rw [hmaps] at htrue
        cases htrue
      · exact absurd hok hfails
    · obtain ⟨hfails, rfl, rfl⟩ | ⟨hok, hothers⟩ := hfirst
      · have hnot : Vga.completes d.device.mode modes m t = false :=
          Bool.eq_false_iff.mpr fun htrue => hfails (hcompletes.mpr htrue)
        simp only [List.dropWhile_cons, List.takeWhile_cons, hnot, Bool.false_eq_true, if_false]
        refine ⟨by simp [hfails], by simp, by simp, ?_⟩
        rintro u rest ⟨⟩
        refine ⟨fun _ => ⟨_, Nat.le_refl _, by rw [hmode]⟩, fun hfalse => ?_⟩
        rw [hmaps] at hfalse
        cases hfalse
      · have hcompletes' : Vga.completes d₁.device.mode modes m =
            Vga.completes d.device.mode modes m := by
          rw [hmode]
          rfl
        have hmaps' : ∀ u, Vga.maps d₁.device.mode m u = Vga.maps d.device.mode m u := by
          intro u
          rw [hmode]
          rfl
        obtain ⟨hstatus, hnil, hremapped, hfailing⟩ := ih hothers
        rw [hcompletes'] at hstatus hremapped hfailing
        have hle : d.device.mappings ≤ d₁.device.mappings := Nat.le.intro hmappings.symm
        simp only [List.dropWhile_cons, List.takeWhile_cons, hcompletes.mp hok, if_true]
        refine ⟨hstatus, by simp, fun _ hall => ?_,
          fun u rest hrest => ⟨fun hu => ?_, fun hu => ?_⟩⟩
        · by_cases hempty : tried = []
          · rw [hnil hempty]
            exact ⟨_, Nat.le_refl _, by rw [hmode]⟩
          · exact (hremapped hempty hall).of_le hle
        · exact ((hfailing u rest hrest).1 ((hmaps' u).trans hu)).of_le hle
        · -- whether `AcquireFrameBuffer` maps anything does not depend on the path
          have hmappable : Vga.mappable (sourceMode d.device.mode m u.1) = true :=
            (Bool.and_eq_true_iff.mp hmaps).1
          exact ((hfailing u rest hrest).2 ((hmaps' u).trans hu)).cons hmappable (hindex hok) hmode

/-- `CommitVidPn` releases the frame buffer of this mode. -/
def Releases (mode : CurrentBddMode) : Prop :=
  mode.ptr.isSome = true ∧ mode.doNotMapOrUnmap = false

instance (mode : CurrentBddMode) : Decidable (Releases mode) :=
  inferInstanceAs (Decidable (_ ∧ _))

/-- A failure leaves the mode as it is. A frame buffer that is released is lost, so that there is
no failure after that. Otherwise the first mode change that fails, if there is one, fails in
`AcquireFrameBuffer`, has the old geometry, and the ones before it have made nothing that was not
there; if there is none, there is no mode change or no failure. -/
def VgaKeepsMode (d : Dod Vga) (c : CommitVidPn VgaOutcomes) : Prop :=
  match c.course with
  | .ends _ => True
  | .releases success =>
    Releases d.device.mode → d.device.length ≠ 0 ∧ success = true
  | .loops m paths =>
    if Releases d.device.mode then
      d.device.length ≠ 0 ∧
        (tries paths).dropWhile (Vga.completes d.device.mode c.modes m) = [] ∧ LoopEnds paths
    else
      match (tries paths).dropWhile (Vga.completes d.device.mode c.modes m) with
      | [] => tries paths = [] ∨ LoopEnds paths
      | t :: _ => Vga.maps d.device.mode m t = false ∧
        sourceMode d.device.mode m t.1 = d.device.mode ∧
        ((tries paths).takeWhile (Vga.completes d.device.mode c.modes m) ≠ [] →
          d.device.mode.frameBufferIsActive = true ∧
          (sizeIndex c.modes m.primSurfSize).getD d.currentModeIndex = d.currentModeIndex)

/-- The state after `ReleaseFrameBuffer`, if `CommitVidPn` calls it. -/
theorem releaseOld_vga {v device : Vga} {o : VgaOutcomes} {status : Status}
    (h : releaseOld vgaDevice v o = some (status, device)) :
    (Releases v.mode ∧ (status = .success ↔ v.length ≠ 0) ∧
      device = { v with mode := { v.mode with ptr := none, frameBufferIsActive := false } }) ∨
    (¬Releases v.mode ∧ status = .success ∧ device = v) := by
  change (if Releases v.mode then some v.releaseFrameBuffer else some (.success, v)) = _ at h
  split_ifs at h with hreleases
  · cases h
    obtain ⟨n, hn⟩ := Option.isSome_iff_exists.mp hreleases.1
    refine .inl ⟨hreleases, ?_, rfl⟩
    by_cases hlength : v.length = 0
    · simp [hn, hlength, Status.invalidParameter]
    · simp [hn, hlength]
  · cases h
    exact .inr ⟨hreleases, rfl, rfl⟩

/-- Without a release, `AcquireFrameBuffer` leaves the pointer as it is when it fails. -/
theorem mappable_ptr {mode : CurrentBddMode} (hkept : ¬Releases mode) (m : VidPnSourceMode)
    (path : VidPnPresentPath) :
    (if Vga.mappable (sourceMode mode m path) then none else mode.ptr) = mode.ptr := by
  split_ifs with hmappable
  · by_contra hne
    have hsome : mode.ptr.isSome = true := by
      rw [Option.isSome_iff_ne_none]
      exact fun hnone => hne hnone.symm
    have hdoNot : mode.doNotMapOrUnmap = false := by
      simp only [Vga.mappable, Bool.and_eq_true, Bool.not_eq_true'] at hmappable
      exact hmappable.1.1
    exact hkept ⟨hsome, hdoNot⟩
  · rfl

/-- A new frame buffer is another one. -/
theorem Remapped.ptr_ne {d d' : Dod Vga} (h : d.Remapped d')
    (hptr : d.device.PtrNumbered) :
    d'.device.mode.ptr ≠ d.device.mode.ptr := by
  obtain ⟨n, hle, hn⟩ := h
  intro hsame
  have hlt := hptr n (hsame ▸ hn)
  omega

/-- A frame buffer that was released is lost, whatever the mode changes do. -/
theorem released_ptr_ne {d d₁ d' : Dod Vga} {modes : List VideoModeInformation}
    {m : VidPnSourceMode} {tried : List (VidPnPresentPath × VgaOutcomes)} {status : Status}
    (hptr : d.device.PtrNumbered) (hreleases : Releases d.device.mode)
    (hnone : d₁.device.mode.ptr = none) (hmappings : d₁.device.mappings = d.device.mappings)
    (h : changeModes vgaDevice modes m d₁ tried = some (status, d')) :
    d'.device.mode.ptr ≠ d.device.mode.ptr := by
  have hremapped : d₁.Remapped d' → d'.device.mode.ptr ≠ d.device.mode.ptr := by
    rintro ⟨n, hle, hn⟩
    rw [hmappings] at hle
    exact Remapped.ptr_ne ⟨n, hle, hn⟩ hptr
  have hlost : d'.device.mode.ptr = none → d'.device.mode.ptr ≠ d.device.mode.ptr := by
    intro hgone hsame
    have hsome := hreleases.1
    rw [← hsame, hgone] at hsome
    cases hsome
  obtain ⟨-, hnil, hall, hfails⟩ := changeModes_vga h
  by_cases hempty : tried = []
  · exact hlost (by rw [hnil hempty, hnone])
  · cases hdrop : tried.dropWhile (Vga.completes d₁.device.mode modes m) with
    | nil => exact hremapped (hall hempty hdrop)
    | cons t rest =>
      cases hmaps : Vga.maps d₁.device.mode m t with
      | true => exact hremapped ((hfails t rest hdrop).1 hmaps)
      | false =>
        obtain ⟨full, hmode⟩ := ((hfails t rest hdrop).2 hmaps).mode
        apply hlost
        rw [hmode, hnone]
        exact ite_self none

section

variable {d d' : Dod Vga} {c : CommitVidPn VgaOutcomes} {m : VidPnSourceMode}
  {paths : List (PathAnswers VgaOutcomes)} {status : Status}

/-- The mode is not what it was if the frame buffer is released and the commit ends. -/
theorem releases_sameMode_iff {success : Bool}
    (h : Follows vgaDevice d c status d' (.releases success)) :
    (status ≠ .success →
      SameMode d.device.mode d'.device.mode d.currentModeIndex d'.currentModeIndex) ↔
      (Releases d.device.mode → d.device.length ≠ 0 ∧ success = true) := by
  obtain ⟨released, device, hrelease, rfl, hiff⟩ := h
  rcases releaseOld_vga hrelease with ⟨hreleases, hstatus, rfl⟩ | ⟨hkept, -, rfl⟩
  · have hlost : ¬SameMode d.device.mode
        { d.device.mode with ptr := none, frameBufferIsActive := false }
        d.currentModeIndex d.currentModeIndex := by
      intro hsame
      have hsome := hreleases.1
      rw [← hsame.ptr] at hsome
      cases hsome
    refine Iff.trans ?_ (forall_prop_of_true hreleases).symm
    rw [← hstatus, ← hiff]
    exact ⟨fun hsame => by_contra fun hfails => hlost (hsame hfails),
      fun hok hfails => absurd hok hfails⟩
  · exact iff_of_true (fun _ => .refl _ _) fun hreleases => absurd hreleases hkept

/-- A mode whose frame buffer was released is not what it was, so the rest has to succeed. -/
theorem released_loop_sameMode_iff (hptr : d.device.PtrNumbered)
    (hreleases : Releases d.device.mode)
    (h : Follows vgaDevice d c status d' (.loops m paths)) :
    (status ≠ .success →
      SameMode d.device.mode d'.device.mode d.currentModeIndex d'.currentModeIndex) ↔
      d.device.length ≠ 0 ∧
        (tries paths).dropWhile (Vga.completes d.device.mode c.modes m) = [] ∧ LoopEnds paths := by
  obtain ⟨released, device, hrelease, hfailed, hloop⟩ := h
  rcases releaseOld_vga hrelease with ⟨-, hstatus, rfl⟩ | ⟨hkept, -, -⟩
  · have hlost : ¬SameMode d.device.mode d'.device.mode d.currentModeIndex
        d'.currentModeIndex := by
      intro hsame
      by_cases hreleased : released = .success
      · obtain ⟨changed, hchanges, -⟩ := hloop hreleased
        refine released_ptr_ne hptr hreleases ?_ ?_ hchanges hsame.ptr
        · rfl
        · rfl
      · obtain ⟨rfl, -⟩ := hfailed hreleased
        have hsome := hreleases.1
        rw [← hsame.ptr] at hsome
        cases hsome
    have hsuccess : status = .success ↔ d.device.length ≠ 0 ∧
        (tries paths).dropWhile (Vga.completes d.device.mode c.modes m) = [] ∧
        LoopEnds paths := by
      rw [← hstatus]
      by_cases hreleased : released = .success
      · obtain ⟨changed, hchanges, hiff⟩ := hloop hreleased
        have hchanged : changed = .success ↔
            (tries paths).dropWhile (Vga.completes d.device.mode c.modes m) = [] :=
          (changeModes_vga hchanges).1
        rw [hiff, hchanged, and_iff_right hreleased]
      · exact iff_of_false (hfailed hreleased).2 fun hall => hreleased hall.1
    rw [← hsuccess]
    exact ⟨fun hsame => by_contra fun hfails => hlost (hsame hfails),
      fun hok hfails => absurd hok hfails⟩
  · exact absurd hreleases hkept

/-- Without a release the mode changes begin with the state before the commit. -/
theorem kept_loop (hkept : ¬Releases d.device.mode)
    (h : Follows vgaDevice d c status d' (.loops m paths)) :
    ∃ changed, changeModes vgaDevice c.modes m d (tries paths) = some (changed, d') ∧
      (status = .success ↔ changed = .success ∧ LoopEnds paths) := by
  obtain ⟨released, device, hrelease, -, hloop⟩ := h
  rcases releaseOld_vga hrelease with ⟨hreleases, -, -⟩ | ⟨-, rfl, rfl⟩
  · exact absurd hreleases hkept
  · exact hloop rfl

/-- All mode changes succeed. -/
theorem kept_loop_sameMode_iff (hptr : d.device.PtrNumbered) (hkept : ¬Releases d.device.mode)
    (h : Follows vgaDevice d c status d' (.loops m paths))
    (hdrop : (tries paths).dropWhile (Vga.completes d.device.mode c.modes m) = []) :
    (status ≠ .success →
      SameMode d.device.mode d'.device.mode d.currentModeIndex d'.currentModeIndex) ↔
      tries paths = [] ∨ LoopEnds paths := by
  obtain ⟨changed, hchanges, hiff⟩ := kept_loop hkept h
  obtain ⟨hchanged, hnil, hall, -⟩ := changeModes_vga hchanges
  rw [ne_eq, hiff, hchanged, hdrop]
  by_cases hempty : tries paths = []
  · rw [hnil hempty]
    exact iff_of_true (fun _ => .refl _ _) (.inl hempty)
  · simp only [true_and, or_iff_right hempty]
    refine ⟨fun hsame => ?_, fun hends hnot => absurd hends hnot⟩
    by_contra hnot
    exact Remapped.ptr_ne (hall hempty hdrop) hptr (hsame hnot).ptr

/-- The mode change along `t` is the first that fails. -/
theorem failing_loop_sameMode_iff (hptr : d.device.PtrNumbered) (hkept : ¬Releases d.device.mode)
    (h : Follows vgaDevice d c status d' (.loops m paths)) {t : VidPnPresentPath × VgaOutcomes}
    {rest : List (VidPnPresentPath × VgaOutcomes)}
    (hdrop : (tries paths).dropWhile (Vga.completes d.device.mode c.modes m) = t :: rest) :
    (status ≠ .success →
      SameMode d.device.mode d'.device.mode d.currentModeIndex d'.currentModeIndex) ↔
      Vga.maps d.device.mode m t = false ∧ sourceMode d.device.mode m t.1 = d.device.mode ∧
        ((tries paths).takeWhile (Vga.completes d.device.mode c.modes m) ≠ [] →
          d.device.mode.frameBufferIsActive = true ∧
          (sizeIndex c.modes m.primSurfSize).getD d.currentModeIndex = d.currentModeIndex) := by
  obtain ⟨changed, hchanges, hiff⟩ := kept_loop hkept h
  obtain ⟨hchanged, -, -, hfails⟩ := changeModes_vga hchanges
  have hstatus : status ≠ .success := by
    rw [ne_eq, hiff, hchanged, hdrop]
    simp
  rw [forall_prop_of_true hstatus]
  cases hmaps : Vga.maps d.device.mode m t with
  | true =>
    refine iff_of_false (fun hsame => ?_) (by simp)
    exact Remapped.ptr_ne ((hfails t rest hdrop).1 hmaps) hptr hsame.ptr
  | false =>
    obtain ⟨hindex, full, hmode⟩ := (hfails t rest hdrop).2 hmaps
    have hsamePtr : d'.device.mode.ptr = d.device.mode.ptr := by
      rw [hmode]
      exact mappable_ptr hkept m t.1
    rw [sameMode_iff d'.device.mode m t.1 d.device.mode.dispInfo.physicAddress
      (by rw [hmode]; rfl) (by rw [hmode]) (by rw [hmode]) (by rw [hmode]) (by rw [hmode]),
      hindex]
    have hactive : d'.device.mode.frameBufferIsActive =
        if (tries paths).takeWhile (Vga.completes d.device.mode c.modes m) = [] then
          d.device.mode.frameBufferIsActive
        else true := by
      rw [hmode]
    rw [hactive]
    by_cases hfirst : (tries paths).takeWhile (Vga.completes d.device.mode c.modes m) = []
    · simp [hfirst, hsamePtr]
    · simp [hfirst, hsamePtr, Bool.true_eq]

end

/-- **A failed commit on the `VgaDevice` path.** -/
theorem commitVidPn_vga_sameMode_iff {d d' : Dod Vga} {c : CommitVidPn VgaOutcomes}
    {status : Status} {calls : List OsCall}
    (hptr : d.device.PtrNumbered)
    (h : commitVidPn vgaDevice d c = some (status, calls, d')) :
    (status ≠ .success →
      SameMode d.device.mode d'.device.mode d.currentModeIndex d'.currentModeIndex) ↔
      d.VgaKeepsMode c := by
  have hfollows := commitVidPn_course h
  unfold VgaKeepsMode
  cases hcourse : c.course with
  | ends success =>
    rw [hcourse] at hfollows
    obtain ⟨rfl, -⟩ := hfollows
    exact iff_of_true (fun _ => .refl _ _) trivial
  | releases success =>
    rw [hcourse] at hfollows
    exact releases_sameMode_iff hfollows
  | loops m paths =>
    rw [hcourse] at hfollows
    simp only
    by_cases hreleases : Releases d.device.mode
    · rw [if_pos hreleases]
      exact released_loop_sameMode_iff hptr hreleases hfollows
    · rw [if_neg hreleases]
      cases hdrop : (tries paths).dropWhile (Vga.completes d.device.mode c.modes m) with
      | nil => exact kept_loop_sameMode_iff hptr hreleases hfollows hdrop
      | cons t rest => exact failing_loop_sameMode_iff hptr hreleases hfollows hdrop

end Dod

/-! ## The numbers of frame buffers -/

theorem Gpu.keeps_ptrNumbered : gpuDevice.Keeps Gpu.PtrNumbered where
  source g m path h n hn := h n hn
  fullscreen g h n hn := h n hn
  acquire g a status g' h hs := by
    cases hs
    exact h
  release g a status g' h hs := by
    cases hs
    exact h
  mode g modes n a status g' h hs := by
    obtain ⟨⟨ok, g₁⟩, hcall, hs⟩ := Option.bind_eq_some_iff.mp hs
    cases hs
    rcases Gpu.setCurrentMode_cases hcall with ⟨-, -, rfl⟩ | ⟨mi, g₂, -, -, hdestroy, hcreate⟩
    · exact h
    · obtain ⟨-, hmode, hobjects, -⟩ := Gpu.destroyFrameBuffer_made hdestroy mi
      obtain ⟨hobjects', new, -, -, hend⟩ := Gpu.createFrameBuffer_made hcreate
      change g'.objects = g₂.objects + 1 at hobjects'
      intro k hk
      rcases hend with ⟨-, -, hmode'⟩ | ⟨-, obj, hnumber, -, hmode'⟩
      · rw [hmode'] at hk
        change k ∈ g₂.mode.ptr at hk
        rw [hmode] at hk
        have hlt := h k hk
        omega
      · rw [hmode'] at hk
        change obj.number = g₂.objects at hnumber
        obtain rfl : obj.number = k := Option.some_inj.mp hk
        omega

theorem Vga.keeps_ptrNumbered : vgaDevice.Keeps Vga.PtrNumbered where
  source v m path h n hn := h n hn
  fullscreen v h n hn := h n hn
  acquire v o status v' h hs := by
    obtain rfl : (v.acquireFrameBuffer o).2 = v' := congrArg Prod.snd (Option.some_inj.mp hs)
    rcases v.acquireFrameBuffer_cases o with ⟨-, heq⟩ | ⟨-, -, heq⟩
    · rw [heq]
      intro n hn
      obtain rfl : v.mappings = n := Option.some_inj.mp hn
      exact Nat.lt_succ_self _
    · rw [heq]
      intro n hn
      change n ∈ (if Vga.mappable v.mode then none else v.mode.ptr) at hn
      split_ifs at hn
      · cases hn
      · exact h n hn
  release v o status v' h hs n hn := by
    cases hs
    cases hn
  mode v modes n o status v' h hs := by
    cases hs
    exact h

theorem Vga.PtrNumbered.draw {v : Vga} (h : v.PtrNumbered) (blits : Blt → Blt) :
    (v.draw blits).PtrNumbered := by
  obtain ⟨memory, hmemory⟩ := v.draw_eq blits
  rw [hmemory]
  exact h

namespace Dod

theorem gpu_ptrNumbered (acquired : DispInfo) (physicAddress : Nat) {d : Dod Gpu}
    (h : (gpuSystem acquired physicAddress).Reachable d) : d.device.PtrNumbered := by
  refine h.induct (fun d => d.device.PtrNumbered) nofun fun d c d' hd _ hs => ?_
  obtain ⟨⟨status, calls, d₁⟩, hcommit, rfl⟩ := Option.map_eq_some_iff.mp hs
  exact commitVidPn_keeps Gpu.keeps_ptrNumbered hd hcommit

theorem vga_ptrNumbered (acquired : DispInfo) (physicAddress : Nat) (memory : Int → Byte)
    {d : Dod Vga} (h : (vgaSystem acquired physicAddress memory).Reachable d) :
    d.device.PtrNumbered := by
  refine h.induct (fun d => d.device.PtrNumbered) nofun fun d e d' hd _ hs => ?_
  cases e with
  | commitVidPn c =>
    obtain ⟨⟨status, calls, d₁⟩, hcommit, rfl⟩ := Option.map_eq_some_iff.mp hs
    exact commitVidPn_keeps Vga.keeps_ptrNumbered hd hcommit
  | presentDisplayOnly source p =>
    cases hs
    unfold Vga.presentDisplayOnly
    split_ifs
    · exact hd
    · have hreset : { d.device with zeroedOutStart := 0, zeroedOutEnd := 0 }.PtrNumbered := hd
      exact hreset.draw _
  | setVidPnSourceVisibility visible =>
    obtain ⟨v, hv, rfl⟩ := Option.map_eq_some_iff.mp hs
    rcases Vga.setVidPnSourceVisibility_cases hv with ⟨-, rfl⟩ | ⟨-, w, hw, rfl⟩
    · exact hd
    · obtain ⟨memory, rfl, -, -⟩ := Vga.blackOutScreen_cases hw
      exact hd
  | systemDisplayWrite w =>
    cases hs
    exact Vga.PtrNumbered.draw hd _

/-! ## Either device -/

/-- **A failed commit leaves the current mode as it is** exactly where `GpuKeepsMode` and
`VgaKeepsMode` say so. -/
theorem commitVidPn_sameMode_iff (status : Status) (calls : List OsCall) :
    (∀ (d d' : Dod Gpu) (c : CommitVidPn Allocs),
      d.device.PtrNumbered → commitVidPn gpuDevice d c = some (status, calls, d') →
      ((status ≠ .success →
        SameMode d.device.mode d'.device.mode d.currentModeIndex d'.currentModeIndex) ↔
        d.GpuKeepsMode c)) ∧
    ∀ (d d' : Dod Vga) (c : CommitVidPn VgaOutcomes),
      d.device.PtrNumbered → commitVidPn vgaDevice d c = some (status, calls, d') →
      ((status ≠ .success →
        SameMode d.device.mode d'.device.mode d.currentModeIndex d'.currentModeIndex) ↔
        d.VgaKeepsMode c) :=
  ⟨fun _ _ _ hptr h => commitVidPn_gpu_sameMode_iff hptr h,
    fun _ _ _ hptr h => commitVidPn_vga_sameMode_iff hptr h⟩

/-- A commit of one path that the driver does not support. -/
def rotated : CommitVidPn Allocs :=
  { oneCommit ⟨64, 16⟩ oneMode allocated with
    paths := .ok
      [⟨.ok (), .ok ⟨0, 0, .default, .identity, .rotate180, .scrgb⟩, allocated, .ok ()⟩] }

/-- A commit where `MmMapIoSpace` fails. -/
def notMapped : CommitVidPn VgaOutcomes :=
  { twoPixels with
    paths := .ok [⟨.ok (), .ok ⟨0, 0, .default, .identity, .identity, .scrgb⟩,
      ⟨false, true, fun _ => true⟩, .ok ()⟩] }

/-- The frame buffer that is released is not mapped again. -/
theorem notMapped_loses {d : Dod Vga} (hreleases : Releases d.device.mode) :
    ¬d.VgaKeepsMode notMapped := by
  intro hkeeps
  change if Releases d.device.mode then _ else _ at hkeeps
  rw [if_pos hreleases] at hkeeps
  have hmapped : ∀ m path, Vga.completes d.device.mode notMapped.modes m
      (path, ⟨false, true, fun _ => true⟩) = false := by
    intro m path
    simp [Vga.completes, Vga.maps]
  obtain ⟨-, hcompletes, -⟩ := hkeeps
  change List.dropWhile _ [(_, _)] = [] at hcompletes
  rw [List.dropWhile_cons, hmapped] at hcompletes
  cases hcompletes

/-- On the `GpuDevice` path the refused commit changes nothing; on the `VgaDevice` path the commit
that is not mapped, after one that was, loses the frame buffer. -/
theorem commitVidPn_sameMode_iff_refused :
    (∃ d status calls d', commitVidPn gpuDevice d rotated = some (status, calls, d') ∧
      status ≠ .success ∧
      SameMode d.device.mode d'.device.mode d.currentModeIndex d'.currentModeIndex) ∧
    ∃ d status calls d', commitVidPn vgaDevice d notMapped = some (status, calls, d') ∧
      status ≠ .success ∧
      ¬SameMode d.device.mode d'.device.mode d.currentModeIndex d'.currentModeIndex := by
  constructor
  · obtain ⟨d, status, calls, d', hptr, h, hfails, hkeeps⟩ : ∃ d status calls d',
        d.device.PtrNumbered ∧ commitVidPn gpuDevice d rotated = some (status, calls, d') ∧
          status ≠ .success ∧ d.GpuKeepsMode rotated :=
      ⟨(gpuSystem biosDisplay 0).init, _, _, _, nofun, rfl, nofun,
        .inr fun t (ht : none = some t) => nomatch ht⟩
    exact ⟨d, status, calls, d', h, hfails,
      ((commitVidPn_sameMode_iff status calls).1 d d' rotated hptr h).mpr hkeeps hfails⟩
  · obtain ⟨d, status, calls, d', hreach, h, hfails, hreleases⟩ : ∃ d status calls d',
        (vgaSystem biosDisplay 0 noise).Reachable d ∧
          commitVidPn vgaDevice d notMapped = some (status, calls, d') ∧
          status ≠ .success ∧ Releases d.device.mode :=
      ⟨_, _, _, _, .step (e := .commitVidPn twoPixels) .init trivial rfl, rfl, nofun, rfl, rfl⟩
    refine ⟨d, status, calls, d', h, hfails, fun hsame => notMapped_loses hreleases ?_⟩
    exact ((commitVidPn_sameMode_iff status calls).2 d d' notMapped
      (vga_ptrNumbered _ _ _ hreach) h).mp fun _ => hsame

/-- The commit that is not mapped fails and leaves no frame buffer. -/
theorem not_always_sameMode : ¬∀ (acquired : DispInfo) (physicAddress : Nat) (memory : Int → Byte)
    (d d' : Dod Vga) (c : CommitVidPn VgaOutcomes) (status : Status) (calls : List OsCall),
    (vgaSystem acquired physicAddress memory).Reachable d →
    commitVidPn vgaDevice d c = some (status, calls, d') → status ≠ .success →
    SameMode d.device.mode d'.device.mode d.currentModeIndex d'.currentModeIndex := by
  intro hall
  obtain ⟨d, status, calls, d', hreach, h, hfails, hold, hnew⟩ : ∃ d status calls d',
      (vgaSystem biosDisplay 0 noise).Reachable d ∧
        commitVidPn vgaDevice d notMapped = some (status, calls, d') ∧
        status ≠ .success ∧ d.device.mode.ptr = some 0 ∧ d'.device.mode.ptr = none :=
    ⟨_, _, _, _, .step (e := .commitVidPn twoPixels) .init trivial rfl, rfl, nofun, rfl, rfl⟩
  have hsame := (hall _ _ _ d d' notMapped status calls hreach h hfails).ptr
  rw [hold, hnew] at hsame
  cases hsame

end Dod

end VioGpu.Device
