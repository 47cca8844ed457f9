import VioGpu.Device.Callbacks
import VioGpu.Device.Commit
import VioGpu.Device.CommitCourse

/-!
# The frame buffer behind `FrameBuffer.Ptr`

Four functions take part in a mode change: `SetSourceModeAndPath` sets the geometry before it
looks for a mode, `SetCurrentMode` deletes the old frame buffer before it creates the new one, and
only `CreateFrameBuffer` sets `FrameBuffer.Ptr`, as its last step. So the pointer stays behind
where a creation fails, and the frame buffer where no mode has the size of the surface.

One `CommitVidPn` is followed exactly: it leaves the pointer backed if and only if its input fits
the state before (`commitVidPn_backed_iff`). Over a run the pointer is therefore backed as long as
every commit fits (`frameBuffer_backed`).
-/

namespace VioGpu.Device

open Lib

/-- The size of the memory of the frame buffer of this mode. -/
def VideoModeInformation.memorySize (m : VideoModeInformation) : Nat :=
  u32 (bytesToPages (u32 (m.screenStride * m.visScreenHeight)) * pageSize)

namespace Gpu

/-- The size of the memory of object `n`, if that is `m_pFrameBuf`. -/
def liveMemory (g : Gpu) (n : Nat) : Option Nat :=
  g.frameBuf.bind fun obj => if obj.number = n then obj.vAddr else none

/-- `FrameBuffer.Ptr` is `NULL` or the memory of `m_pFrameBuf`, with room for
`DispInfo.Height * DispInfo.Pitch` bytes. -/
def Backed (g : Gpu) : Prop :=
  ∀ n ∈ g.mode.ptr, ∃ size ∈ g.liveMemory n,
    g.mode.dispInfo.height * g.mode.dispInfo.pitch ≤ size

/-- What `BlackOutScreen` writes is in the memory of `m_pFrameBuf`. -/
theorem Backed.blackOutScreen {g : Gpu} (h : g.Backed) {n bytes : Nat}
    (hs : g.blackOutScreen = some (n, bytes)) : ∃ size ∈ g.liveMemory n, bytes ≤ size := by
  unfold Gpu.blackOutScreen at hs
  split_ifs at hs
  obtain ⟨m, hm, hbytes⟩ := Option.map_eq_some_iff.mp hs
  cases hbytes
  obtain ⟨size, hsize, hle⟩ := h n hm
  exact ⟨size, hsize, Nat.le_trans (u32_le _) hle⟩

/-! ## One mode change -/

/-- The number of bytes of the pinned mode's surface, in the colour format of the frame
buffer. -/
def surfaceBytes (g : Gpu) (m : VidPnSourceMode) : Nat :=
  m.primSurfSize.cy * (u32 (m.primSurfSize.cx * bppFromPixelFormat g.mode.dispInfo.colorFormat) / 8)

/-- The mode `SetSourceModeAndPath` and `SetCurrentMode` come to: the first with the number of the
first one of this size. -/
def chosenMode (modes : List VideoModeInformation) (size : Region) :
    Option VideoModeInformation := do
  let m ← modes.find? (·.hasSize size.cx size.cy)
  modes.find? (·.modeNumber = m.modeNumber)

/-- What a mode change does to the geometry, the frame buffer and the pointer. -/
structure ModeSet (g g' : Gpu) (m : VidPnSourceMode) (chosen : Option VideoModeInformation)
    (a : Allocs) : Prop where
  bytes : g'.mode.dispInfo.height * g'.mode.dispInfo.pitch = g.surfaceBytes m
  format : g'.mode.dispInfo.colorFormat = g.mode.dispInfo.colorFormat
  unmatched : chosen = none → g'.frameBuf = g.frameBuf ∧ g'.mode.ptr = g.mode.ptr
  created : ∀ mi ∈ chosen, a.init.Succeeds → ∃ obj, g'.frameBuf = some obj ∧
    g'.mode.ptr = some obj.number ∧ obj.vAddr = some mi.memorySize
  failed : ∀ mi ∈ chosen, ¬a.init.Succeeds → g'.frameBuf = none ∧ g'.mode.ptr = g.mode.ptr

/-- **`SetCurrentMode`** replaces the frame buffer, or leaves none and the pointer behind. -/
theorem setCurrentMode_spec {g g' : Gpu} {modes : List VideoModeInformation} {mode : Nat}
    {mi : VideoModeInformation} {a : Allocs} {ok : Bool}
    (hfind : modes.find? (·.modeNumber = mode) = some mi)
    (h : g.setCurrentMode modes mode a = some (ok, g')) :
    ok = true ∧ (∃ physicAddress, g'.mode.dispInfo = { g.mode.dispInfo with physicAddress }) ∧
      (a.init.Succeeds → ∃ obj, g'.frameBuf = some obj ∧ g'.mode.ptr = some obj.number ∧
        obj.vAddr = some mi.memorySize) ∧
      (¬a.init.Succeeds → g'.frameBuf = none ∧ g'.mode.ptr = g.mode.ptr) := by
  rcases setCurrentMode_cases h with ⟨hnone, -, -⟩ | ⟨m, g₁, hm, hok, hdestroy, hcreate⟩
  · simp [hnone] at hfind
  · obtain rfl : m = mi := Option.some_inj.mp (hm.symm.trans hfind)
    have hgone : g₁.frameBuf = none ∧ g₁.mode = g.mode := by
      rcases destroyFrameBuffer_cases hdestroy with ⟨hnone, rfl⟩ | ⟨obj, g₂, -, hobj, rfl⟩
      · exact ⟨hnone, rfl⟩
      · rw [destroyObj_eq hobj]
        exact ⟨rfl, rfl⟩
    obtain ⟨hframe, hmode⟩ := hgone
    rcases createFrameBuffer_cases hcreate with
      ⟨hfails, rfl⟩ | ⟨hsucceeds, obj, ⟨hnumber, -, -⟩, hmem, rfl⟩
    · refine ⟨hok, ⟨0, ?_⟩, fun hsucceeds => absurd hsucceeds hfails, fun _ => ⟨hframe, ?_⟩⟩
      · simp [clearMode, hmode]
      · simp [clearMode, hmode]
    · refine ⟨hok, ⟨obj.physicalAddress, ?_⟩, fun _ => ⟨obj, rfl, ?_, hmem⟩,
        fun hfails => absurd hsucceeds hfails⟩
      · simp [clearMode, hmode]
      · exact congrArg some hnumber.symm

end Gpu

namespace Dod

/-- The index `SetSourceModeAndPath` finds is that of the first mode of this size. -/
theorem modeIndex_spec (modes : List VideoModeInformation) (dispInfo : DispInfo) :
    (modeIndex modes dispInfo).bind (modes[·]?) =
      modes.find? (·.hasSize dispInfo.width dispInfo.height) := by
  rw [modeIndex]
  induction modes with
  | nil => rfl
  | cons m modes ih =>
    rw [List.findIdx?_cons, List.find?_cons]
    by_cases hm : m.hasSize dispInfo.width dispInfo.height = true
    · simp [hm]
    · simp only [hm, ← ih]
      cases List.findIdx? _ modes <;> simp

/-- **`SetSourceModeAndPath`** on the `GpuDevice` path reports success, whether it finds no mode of
the size of the surface or calls `SetCurrentMode` with the number of the first one. -/
theorem setSourceModeAndPath_gpu {d d' : Dod Gpu} {modes : List VideoModeInformation}
    {m : VidPnSourceMode} {path : VidPnPresentPath} {a : Allocs} {status : Status}
    (h : setSourceModeAndPath gpuDevice d modes m path a = some (status, d')) :
    status = .success ∧
      ((Gpu.chosenMode modes m.primSurfSize = none ∧ d' = { d with device := { d.device with
          mode := { sourceMode d.device.mode m path with fullscreenPresent := true } } }) ∨
      ∃ mi mode, Gpu.chosenMode modes m.primSurfSize = some mi ∧
        modes.find? (·.modeNumber = mode) = some mi ∧
        modes.findIdx? (·.hasSize m.primSurfSize.cx m.primSurfSize.cy) =
          some d'.currentModeIndex ∧
        Gpu.setCurrentMode { d.device with
            mode := { sourceMode d.device.mode m path with fullscreenPresent := true } }
          modes mode a = some (true, d'.device)) := by
  have hindex : (modes.findIdx? (·.hasSize m.primSurfSize.cx m.primSurfSize.cy)).bind (modes[·]?) =
      modes.find? (·.hasSize m.primSurfSize.cx m.primSurfSize.cy) :=
    modeIndex_spec modes ⟨m.primSurfSize.cx, m.primSurfSize.cy, 0, .unknown, 0⟩
  simp only [setSourceModeAndPath, gpuDevice, Option.bind_eq_bind, Option.bind_some, ne_eq,
    not_true_eq_false, if_false] at h
  generalize hi : modeIndex modes _ = index at h
  replace hi : modes.findIdx? (·.hasSize m.primSurfSize.cx m.primSurfSize.cy) = index := hi
  rw [hi] at hindex
  cases index with
  | none =>
    have hnone : Gpu.chosenMode modes m.primSurfSize = none := by
      rw [Gpu.chosenMode, ← hindex]
      rfl
    cases h
    exact ⟨rfl, .inl ⟨hnone, rfl⟩⟩
  | some idx =>
    obtain ⟨modeInfo, hget, h⟩ := Option.bind_eq_some_iff.mp h
    obtain ⟨⟨status', g'⟩, hset, h⟩ := Option.bind_eq_some_iff.mp h
    obtain ⟨⟨ok, g₁⟩, hcall, hstatus⟩ := Option.bind_eq_some_iff.mp hset
    cases hstatus
    rw [Option.bind_some, hget] at hindex
    -- `SetCurrentMode` looks for the number again, and finds the first mode that has it
    obtain ⟨mi, hmi⟩ : ∃ mi, modes.find? (·.modeNumber = modeInfo.modeNumber) = some mi := by
      rw [← Option.isSome_iff_exists, List.find?_isSome]
      exact ⟨modeInfo, List.mem_of_getElem? hget, by simp⟩
    have hchosen : Gpu.chosenMode modes m.primSurfSize = some mi := by
      rw [Gpu.chosenMode, ← hindex]
      exact hmi
    obtain rfl : ok = true := (Gpu.setCurrentMode_spec hmi hcall).1
    cases h
    exact ⟨rfl, .inr ⟨mi, modeInfo.modeNumber, hchosen, hmi, hi, hcall⟩⟩

/-- What a call of `SetSourceModeAndPath` does to the frame buffer. -/
theorem setSourceModeAndPath_spec {d d' : Dod Gpu} {modes : List VideoModeInformation}
    {m : VidPnSourceMode} {path : VidPnPresentPath} {a : Allocs} {status : Status}
    (h : setSourceModeAndPath gpuDevice d modes m path a = some (status, d')) :
    Gpu.ModeSet d.device d'.device m (Gpu.chosenMode modes m.primSurfSize) a := by
  obtain ⟨-, ⟨hnone, rfl⟩ | ⟨mi, mode, hchosen, hmi, -, hcall⟩⟩ := setSourceModeAndPath_gpu h
  · rw [hnone]
    exact ⟨rfl, rfl, fun _ => ⟨rfl, rfl⟩, by simp, by simp⟩
  · obtain ⟨-, ⟨physicAddress, hinfo⟩, hcreated, hfailed⟩ := Gpu.setCurrentMode_spec hmi hcall
    rw [hchosen]
    refine ⟨?_, ?_, by simp, ?_, ?_⟩
    · rw [hinfo]
      rfl
    · rw [hinfo]
      rfl
    · rintro _ ⟨⟩ hok
      exact hcreated hok
    · rintro _ ⟨⟩ hfails
      exact hfailed hfails

end Dod

/-! ## What every step of the device keeps -/

/-- A property of the device that `SetSourceModeAndPath` keeps when it writes
`m_CurrentModes[0]`, and that the virtual functions keep. -/
structure HwDeviceInterface.Keeps {δ ω : Type} (hw : HwDeviceInterface δ ω) (I : δ → Prop) :
    Prop where
  source : ∀ v m path, I v → I (hw.setMode v (Dod.sourceMode (hw.currentMode v) m path))
  fullscreen : ∀ v, I v → I (hw.setMode v { hw.currentMode v with fullscreenPresent := true })
  acquire : ∀ v o status v', I v → hw.acquireFrameBuffer v o = some (status, v') → I v'
  release : ∀ v o status v', I v → hw.releaseFrameBuffer v o = some (status, v') → I v'
  mode : ∀ v modes n o status v', I v → hw.setCurrentMode v modes n o = some (status, v') → I v'

namespace Dod

variable {δ ω : Type} {hw : HwDeviceInterface δ ω} {I : δ → Prop}

theorem setSourceModeAndPath_keeps (hI : hw.Keeps I) {d d' : Dod δ}
    {modes : List VideoModeInformation} {m : VidPnSourceMode} {path : VidPnPresentPath} {o : ω}
    {status : Status} (hd : I d.device)
    (h : setSourceModeAndPath hw d modes m path o = some (status, d')) : I d'.device := by
  obtain ⟨⟨acquired, v⟩, hacquire, h⟩ := Option.bind_eq_some_iff.mp h
  have hv : I v := hI.acquire _ o acquired v (hI.source _ m path hd) hacquire
  simp only at h
  split_ifs at h
  · cases h
    exact hv
  · have hfull := hI.fullscreen v hv
    split at h
    · cases h
      exact hfull
    · obtain ⟨modeInfo, -, h⟩ := Option.bind_eq_some_iff.mp h
      obtain ⟨⟨set, v'⟩, hset, h⟩ := Option.bind_eq_some_iff.mp h
      have hv' := hI.mode _ modes _ o set v' hfull hset
      cases h
      split_ifs
      · exact hv'
      · exact hv'

theorem changeModes_keeps (hI : hw.Keeps I) {d d' : Dod δ} {modes : List VideoModeInformation}
    {m : VidPnSourceMode} {tried : List (VidPnPresentPath × ω)} {status : Status}
    (hd : I d.device) (h : changeModes hw modes m d tried = some (status, d')) : I d'.device := by
  induction tried generalizing d with
  | nil =>
    cases h
    exact hd
  | cons t tried ih =>
    obtain ⟨first, d₁, hset, hfirst⟩ := changeModes_cons h
    have hd₁ := setSourceModeAndPath_keeps hI hd hset
    rcases hfirst with ⟨-, -, rfl⟩ | ⟨-, hothers⟩
    · exact hd₁
    · exact ih hd₁ hothers

theorem releaseOld_keeps (hI : hw.Keeps I) {v v' : δ} {o : ω} {status : Status} (hv : I v)
    (h : releaseOld hw v o = some (status, v')) : I v' := by
  unfold releaseOld at h
  split_ifs at h
  · exact hI.release v o status v' hv h
  · cases h
    exact hv

/-- **What every step keeps**, `CommitVidPn` keeps. -/
theorem commitVidPn_keeps (hI : hw.Keeps I) {d d' : Dod δ} {c : CommitVidPn ω} {status : Status}
    {calls : List OsCall} (hd : I d.device)
    (h : commitVidPn hw d c = some (status, calls, d')) : I d'.device := by
  have hfollows := commitVidPn_course h
  cases hcourse : c.course with
  | ends success =>
    rw [hcourse] at hfollows
    rw [hfollows.1]
    exact hd
  | releases success =>
    rw [hcourse] at hfollows
    obtain ⟨released, device, hrelease, rfl, -⟩ := hfollows
    exact releaseOld_keeps hI hd hrelease
  | loops m paths =>
    rw [hcourse] at hfollows
    obtain ⟨released, device, hrelease, hfails, hloop⟩ := hfollows
    have hdevice : I device := releaseOld_keeps hI hd hrelease
    by_cases hreleased : released = .success
    · obtain ⟨changed, hchanges, -⟩ := hloop hreleased
      exact changeModes_keeps hI hdevice hchanges
    · rw [(hfails hreleased).1]
      exact hdevice

end Dod

/-! ## One commit -/

/-- The path is one for which `CommitVidPn` calls `SetSourceModeAndPath`. -/
def PathAnswers.usable {ω : Type} (p : PathAnswers ω) : Bool :=
  match p.target, p.info with
  | .ok (), .ok path => isVidPnPathFieldsValid path = .success
  | _, _ => false

/-- The outcomes of the mode changes, in order: the loop ends with the first path that cannot be
used or that the OS does not take back. -/
def attempts {ω : Type} : List (PathAnswers ω) → List ω
  | [] => []
  | p :: paths =>
    if p.usable then p.outcomes :: (if p.release.isOk then attempts paths else []) else []

/-- The pinned mode and the mode changes of this commit, if it comes to the loop. -/
def CommitVidPn.changes {ω : Type} (c : CommitVidPn ω) : Option (VidPnSourceMode × List ω) :=
  match c.pathPoweredOff, c.vidPnInterface, c.topology, c.numPaths, c.sourceModeSet, c.pinned,
    c.paths with
  | false, .ok (), .ok (), .ok (_ + 1), .ok (), .ok (some m), .ok paths =>
    if isVidPnSourceModeFieldsValid m = .success then some (m, attempts paths) else none
  | _, _, _, _, _, _, _ => none

theorem PathAnswers.usable_eq {ω : Type} (p : PathAnswers ω) : p.usable = p.valid?.isSome := by
  rcases Dod.valid?_cases p with ⟨hnone, ⟨code, htarget⟩ | ⟨htarget, code, hinfo⟩ |
    ⟨htarget, path, hinfo, hinvalid⟩⟩ | ⟨path, hpath, htarget, hinfo, hvalid⟩
  · simp [usable, hnone, htarget]
  · simp [usable, hnone, htarget, hinfo]
  · simp [usable, hnone, htarget, hinfo, hinvalid]
  · simp [usable, hpath, htarget, hinfo, hvalid]

/-- The outcomes of the mode changes are those of the course. -/
theorem tries_attempts {ω : Type} (paths : List (PathAnswers ω)) :
    (tries paths).map Prod.snd = attempts paths := by
  induction paths with
  | nil => rfl
  | cons p paths ih =>
    rw [tries, attempts, p.usable_eq]
    cases p.valid? with
    | none => rfl
    | some path =>
      by_cases hrelease : p.release.isOk = true
      · simp [hrelease, ih]
      · simp [hrelease]

/-- A commit comes to the loop exactly if its course does. -/
theorem CommitVidPn.changes_course {ω : Type} (c : CommitVidPn ω) :
    (∃ m paths, c.course = .loops m paths ∧ c.changes = some (m, attempts paths)) ∨
      ((∀ m paths, c.course ≠ .loops m paths) ∧ c.changes = none) := by
  obtain ⟨poweredOff, interface, topology, numPaths, modeSet, pinned, modes, released, paths⟩ := c
  cases poweredOff with
  | true => exact .inr ⟨by simp [course], rfl⟩
  | false =>
    rcases interface with code | u
    · exact .inr ⟨by simp [course], rfl⟩
    rcases topology with code | u
    · exact .inr ⟨by simp [course], rfl⟩
    rcases numPaths with code | (_ | n)
    · exact .inr ⟨by simp [course], rfl⟩
    · exact .inr ⟨by simp [course], rfl⟩
    rcases modeSet with code | u
    · exact .inr ⟨by simp [course], rfl⟩
    rcases pinned with code | (_ | m)
    · exact .inr ⟨by simp [course], rfl⟩
    · exact .inr ⟨by simp [course], rfl⟩
    by_cases hvalid : isVidPnSourceModeFieldsValid m = .success
    · rcases paths with code | paths
      · exact .inr ⟨by simp [course, hvalid], rfl⟩
      · exact .inl ⟨m, paths, by simp [course, hvalid], by simp [changes, hvalid]⟩
    · refine .inr ⟨by simp [course, hvalid], ?_⟩
      cases paths <;> simp [changes, hvalid]

namespace Gpu

/-- The mode changes with these outcomes leave the pointer backed: without a mode of its size, the
surface has room in the present frame buffer or there is no pointer; otherwise the last creation
succeeds with room for the surface, or there is no pointer and no creation makes one. -/
def Fits (g : Gpu) (bytes : Nat) (chosen : Option VideoModeInformation) (outcomes : List Allocs) :
    Prop :=
  match chosen with
  | none => ∀ n ∈ g.mode.ptr, ∃ size ∈ g.liveMemory n, bytes ≤ size
  | some mi => (∃ a ∈ outcomes.getLast?, a.init.Succeeds ∧ bytes ≤ mi.memorySize) ∨
    (g.mode.ptr = none ∧ ∀ a ∈ outcomes, ¬a.init.Succeeds)

instance (g : Gpu) (bytes : Nat) : (chosen : Option VideoModeInformation) →
    (outcomes : List Allocs) → Decidable (g.Fits bytes chosen outcomes)
  | none, _ =>
    inferInstanceAs (Decidable (∀ n ∈ g.mode.ptr, ∃ size ∈ g.liveMemory n, bytes ≤ size))
  | some mi, outcomes => inferInstanceAs (Decidable ((∃ a ∈ outcomes.getLast?,
      a.init.Succeeds ∧ bytes ≤ mi.memorySize) ∨
    (g.mode.ptr = none ∧ ∀ a ∈ outcomes, ¬a.init.Succeeds)))

theorem ModeSet.surfaceBytes_eq {g g' : Gpu} {m : VidPnSourceMode}
    {chosen : Option VideoModeInformation} {a : Allocs} (h : ModeSet g g' m chosen a) :
    g'.surfaceBytes m = g.surfaceBytes m := by
  rw [surfaceBytes, h.format, surfaceBytes]

/-- One mode change. -/
theorem ModeSet.backed_iff {g g' : Gpu} {m : VidPnSourceMode}
    {chosen : Option VideoModeInformation} {a : Allocs} (h : ModeSet g g' m chosen a) :
    g'.Backed ↔ g.Fits (g.surfaceBytes m) chosen [a] := by
  rw [Backed, h.bytes]
  cases chosen with
  | none =>
    obtain ⟨hframe, hptr⟩ := h.unmatched rfl
    simp only [Fits, liveMemory, hframe, hptr]
  | some mi =>
    by_cases hok : a.init.Succeeds
    · obtain ⟨obj, hframe, hptr, hmem⟩ := h.created mi rfl hok
      simp [Fits, liveMemory, hframe, hptr, hmem, hok]
    · obtain ⟨hframe, hptr⟩ := h.failed mi rfl hok
      simp [Fits, liveMemory, hframe, hptr, hok, Option.eq_none_iff_forall_ne_some]

/-- A mode change before others. -/
theorem ModeSet.fits_iff {g g' : Gpu} {m : VidPnSourceMode} {chosen : Option VideoModeInformation}
    {a : Allocs} (h : ModeSet g g' m chosen a) {outcomes : List Allocs} (hne : outcomes ≠ []) :
    g'.Fits (g'.surfaceBytes m) chosen outcomes ↔
      g.Fits (g.surfaceBytes m) chosen (a :: outcomes) := by
  rw [h.surfaceBytes_eq]
  cases chosen with
  | none =>
    obtain ⟨hframe, hptr⟩ := h.unmatched rfl
    simp only [Fits, liveMemory, hframe, hptr]
  | some mi =>
    have hlast : (a :: outcomes).getLast? = outcomes.getLast? := by
      rw [List.getLast?_cons, List.getLast?_eq_some_getLast hne, Option.getD_some]
    simp only [Fits, hlast, List.forall_mem_cons]
    by_cases hok : a.init.Succeeds
    · obtain ⟨obj, -, hptr, -⟩ := h.created mi rfl hok
      simp [hptr, hok]
    · obtain ⟨-, hptr⟩ := h.failed mi rfl hok
      simp [hptr, hok]

end Gpu

namespace Dod

/-- **The mode changes of the loop**, if there are any. -/
theorem changeModes_backed {d d' : Dod Gpu} {modes : List VideoModeInformation}
    {m : VidPnSourceMode} {tried : List (VidPnPresentPath × Allocs)} {status : Status}
    (hne : tried ≠ []) (h : changeModes gpuDevice modes m d tried = some (status, d')) :
    d'.device.Backed ↔ d.device.Fits (d.device.surfaceBytes m)
      (Gpu.chosenMode modes m.primSurfSize) (tried.map Prod.snd) := by
  induction tried generalizing d with
  | nil => exact absurd rfl hne
  | cons t tried ih =>
    obtain ⟨first, d₁, hset, hfirst⟩ := changeModes_cons h
    have hmode := setSourceModeAndPath_spec hset
    obtain ⟨hfails, -, -⟩ | ⟨-, hothers⟩ := hfirst
    · exact absurd (setSourceModeAndPath_gpu hset).1 hfails
    by_cases hempty : tried = []
    · subst hempty
      cases hothers
      exact hmode.backed_iff
    · rw [ih hempty hothers]
      exact hmode.fits_iff fun hnil => hempty (List.map_eq_nil_iff.mp hnil)

/-- The input of the commit fits the frame buffer before it. -/
def CommitFits (d : Dod Gpu) (c : CommitVidPn Allocs) : Prop :=
  ∀ change ∈ c.changes, change.2 = [] ∨ d.device.Fits (d.device.surfaceBytes change.1)
    (Gpu.chosenMode c.modes change.1.primSurfSize) change.2

instance (d : Dod Gpu) (c : CommitVidPn Allocs) : Decidable (d.CommitFits c) :=
  inferInstanceAs (Decidable (∀ _ ∈ c.changes, _ ∨ _))

/-- `ReleaseFrameBuffer` does nothing, whether it is called or not. -/
theorem releaseOld_gpu (g : Gpu) (a : Allocs) : releaseOld gpuDevice g a = some (.success, g) :=
  ite_self _

/-- **One commit** leaves the pointer backed exactly when its input fits. -/
theorem commitVidPn_backed_iff {d d' : Dod Gpu} {c : CommitVidPn Allocs} {status : Status}
    {calls : List OsCall} (hbacked : d.device.Backed)
    (h : commitVidPn gpuDevice d c = some (status, calls, d')) :
    d'.device.Backed ↔ d.CommitFits c := by
  have hfollows := commitVidPn_course h
  rcases c.changes_course with ⟨m, paths, hcourse, hchanges⟩ | ⟨hother, hnone⟩
  · rw [hcourse] at hfollows
    obtain ⟨released, device, hrelease, -, hloop⟩ := hfollows
    rw [releaseOld_gpu] at hrelease
    cases hrelease
    obtain ⟨changed, hloop, -⟩ := hloop rfl
    simp only [CommitFits, hchanges, Option.mem_some_iff, forall_eq', ← tries_attempts,
      List.map_eq_nil_iff]
    by_cases hempty : tries paths = []
    · rw [hempty] at hloop
      cases hloop
      exact iff_of_true hbacked (.inl hempty)
    · rw [changeModes_backed hempty hloop, or_iff_right hempty]
  · have hsame : d' = d := by
      cases hcourse : c.course with
      | ends success =>
        rw [hcourse] at hfollows
        exact hfollows.1
      | releases success =>
        rw [hcourse] at hfollows
        obtain ⟨released, device, hrelease, rfl, -⟩ := hfollows
        rw [releaseOld_gpu] at hrelease
        cases hrelease
        rfl
      | loops m paths => exact absurd hcourse (hother m paths)
    rw [hsame]
    exact iff_of_true hbacked (by simp [CommitFits, hnone])

/-! ## Runs -/

/-- **The pointer is backed** after every run of commits each of which fits the state it
finds. -/
theorem frameBuffer_backed (acquired : DispInfo) (physicAddress : Nat) {d : Dod Gpu}
    (h : (gpuSystem acquired physicAddress).ReachableUnder CommitFits d) : d.device.Backed := by
  refine h.induct (fun d => d.device.Backed) nofun fun d c d' hbacked hfits hs => ?_
  obtain ⟨⟨status, calls, d₁⟩, hcommit, rfl⟩ := Option.map_eq_some_iff.mp hs
  exact (commitVidPn_backed_iff hbacked hcommit).mpr hfits

/-- A commit of this size with one path, a mode list and the outcomes of the mode change. -/
def oneCommit (size : Region) (modes : List VideoModeInformation) (a : Allocs) :
    CommitVidPn Allocs where
  pathPoweredOff := false
  vidPnInterface := .ok ()
  topology := .ok ()
  numPaths := .ok 1
  sourceModeSet := .ok ()
  pinned := .ok (some ⟨.graphics, size, size, .a8r8g8b8, .scrgb, .direct⟩)
  modes := modes
  released := a
  paths := .ok [⟨.ok (), .ok ⟨0, 0, .default, .identity, .identity, .scrgb⟩, a, .ok ()⟩]

/-- A listed mode, the same mode again, and a size that is not listed but has room. -/
def threeCommits : List (CommitVidPn Allocs) :=
  [oneCommit ⟨64, 16⟩ oneMode allocated, oneCommit ⟨64, 16⟩ oneMode allocated,
    oneCommit ⟨32, 16⟩ oneMode allocated]

theorem frameBuffer_backed_threeCommits :
    ∃ d, (gpuSystem ⟨800, 600, 3200, .x8r8g8b8, 0⟩ 0).runUnder CommitFits threeCommits = some d ∧
      d.device.mode.ptr = some 1 ∧ d.device.Backed := by
  have h : ∀ d, (gpuSystem ⟨800, 600, 3200, .x8r8g8b8, 0⟩ 0).runUnder CommitFits threeCommits =
      some d → d.device.Backed :=
    fun d hd => frameBuffer_backed _ _ (System.reachable_of_run hd)
  exact ⟨_, rfl, rfl, h _ rfl⟩

/-- The same mode twice; the second time there is no memory for the frame buffer. -/
def memoryFails : List (CommitVidPn Allocs) :=
  [oneCommit ⟨64, 16⟩ oneMode allocated, oneCommit ⟨64, 16⟩ oneMode ⟨true, .noMemory, true⟩]

theorem not_always_backed :
    ¬∀ acquired physicAddress d, (gpuSystem acquired physicAddress).Reachable d →
      d.device.Backed := by
  intro h
  have hrun : ∃ d, (gpuSystem ⟨800, 600, 3200, .x8r8g8b8, 0⟩ 0).run memoryFails = some d ∧
      d.device.mode.ptr = some 0 ∧ d.device.liveMemory 0 = none := ⟨_, rfl, rfl, rfl⟩
  obtain ⟨d, hd, hptr, hfreed⟩ := hrun
  obtain ⟨size, hsize, -⟩ := h _ _ d (System.reachable_of_run hd) 0 hptr
  simp [hfreed] at hsize

end Dod

end VioGpu.Device
