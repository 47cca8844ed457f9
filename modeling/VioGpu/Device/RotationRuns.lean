import VioGpu.Device.CommitFailure
import VioGpu.Device.ObjectReads
import VioGpu.Device.Rotation

/-!
# Which rotation comes to the blits

`IsVidPnPathFieldsValid` lets a path through that leaves its rotation unspecified, and
`StartDevice` leaves no rotation at all. The rotation that a callback finds is that of the last path
that was stored (`pathCalls_rotation`): of an update that is valid, or of the last mode change that
a commit comes to, whether it succeeds or not. `blits_supported_iff` says for both devices when
the blits can do with it.
-/

namespace VioGpu.Device

open Lib

variable {δ ω : Type}

/-- One of the four rotations. -/
def Rotation.IsTurn (r : Rotation) : Prop :=
  r = .identity ∨ r = .rotate90 ∨ r = .rotate180 ∨ r = .rotate270

theorem BltInfo.getRowStart_isSome {b : BltInfo} (r : Rect) :
    (b.getRowStart r).isSome ↔ b.Turned := by
  unfold getRowStart Turned
  cases b.rotation <;> simp

theorem BltCall.supported_iff (c : BltCall) :
    c.Supported ↔ c.dst.rotation.IsTurn ∧ c.src.rotation.IsTurn := by
  constructor
  · intro h
    exact ⟨h.dst, h.src⟩
  · rintro ⟨hdst, hsrc⟩
    exact ⟨hdst, hsrc, (BltInfo.getRowStart_isSome _).mpr hdst,
      (BltInfo.getRowStart_isSome _).mpr hsrc⟩

/-! ## The last mode change of a commit -/

/-- The entries up to the first that is not `ok`, with that one. -/
def upToFailure {α : Type} (ok : α → Bool) : List α → List α
  | [] => []
  | t :: rest => t :: if ok t then upToFailure ok rest else []

/-- The path of the last mode change, where `ok` says which of them succeed. -/
def CommitVidPn.lastTried (c : CommitVidPn ω)
    (ok : VidPnSourceMode → VidPnPresentPath × ω → Bool) : Option VidPnPresentPath :=
  match c.course with
  | .loops m paths => (upToFailure (ok m) (tries paths)).getLast?.map Prod.fst
  | .ends _ | .releases _ => none

/-- The path a commit stores last on a `GpuDevice`, where no mode change fails. -/
def Gpu.storedPath (_ : Gpu) (c : CommitVidPn Allocs) : Option VidPnPresentPath :=
  c.lastTried fun _ _ => true

/-- The path a commit stores last on a `VgaDevice`. It comes to none if `ReleaseFrameBuffer`
fails. -/
def Vga.storedPath (v : Vga) (c : CommitVidPn VgaOutcomes) : Option VidPnPresentPath :=
  if Dod.Releases v.mode ∧ v.length = 0 then none
  else c.lastTried (Vga.completes v.mode c.modes)

/-- The rotation after `path` is stored, if there is one. -/
def Rotation.after (old : Rotation) (path : Option VidPnPresentPath) : Rotation :=
  path.elim old VidPnPresentPath.rotation

namespace Dod

variable {hw : HwDeviceInterface δ ω}

def rotation (hw : HwDeviceInterface δ ω) (d : Dod δ) : Rotation :=
  (hw.currentMode d.device).rotation

/-- As long as `I` holds, a mode change stores the rotation of its path, and `ok` says whether it
succeeds. -/
structure Stores (hw : HwDeviceInterface δ ω) (I : Dod δ → Prop)
    (modes : List VideoModeInformation) (m : VidPnSourceMode)
    (ok : VidPnPresentPath × ω → Bool) : Prop where
  keeps : ∀ d d' (t : VidPnPresentPath × ω) status, I d →
    setSourceModeAndPath hw d modes m t.1 t.2 = some (status, d') → I d'
  succeeds : ∀ d d' (t : VidPnPresentPath × ω) status, I d →
    setSourceModeAndPath hw d modes m t.1 t.2 = some (status, d') →
      (status = .success ↔ ok t = true)
  rotation : ∀ d d' (t : VidPnPresentPath × ω) status, I d →
    setSourceModeAndPath hw d modes m t.1 t.2 = some (status, d') →
      d'.rotation hw = t.1.rotation

/-- The mode changes leave the rotation of the last that is tried. -/
theorem changeModes_rotation {I : Dod δ → Prop} {modes : List VideoModeInformation}
    {m : VidPnSourceMode} {ok : VidPnPresentPath × ω → Bool} (hstores : Stores hw I modes m ok)
    {d d' : Dod δ} {tried : List (VidPnPresentPath × ω)} {status : Status} (hd : I d)
    (h : changeModes hw modes m d tried = some (status, d')) :
    d'.rotation hw =
      (d.rotation hw).after ((upToFailure ok tried).getLast?.map Prod.fst) := by
  induction tried generalizing d with
  | nil =>
    cases h
    rfl
  | cons t tried ih =>
    obtain ⟨first, d₁, hset, hfirst⟩ := changeModes_cons h
    have hok := hstores.succeeds _ _ _ _ hd hset
    have hrotation := hstores.rotation _ _ _ _ hd hset
    rcases hfirst with ⟨hfails, -, rfl⟩ | ⟨hsucceeds, hothers⟩
    · have hnot : ok t = false := Bool.eq_false_iff.mpr fun htrue => hfails (hok.mpr htrue)
      simp only [upToFailure, hnot, Bool.false_eq_true, if_false]
      exact hrotation
    · rw [ih (hstores.keeps _ _ _ _ hd hset) hothers, upToFailure, if_pos (hok.mp hsucceeds),
        List.getLast?_cons, hrotation]
      cases (upToFailure ok tried).getLast? <;> rfl

/-- The rotation after a commit, on a device whose release of the old frame buffer fails just when
`fails` says so. -/
theorem commitVidPn_rotation {d d' : Dod δ} {c : CommitVidPn ω} {status : Status}
    {calls : List OsCall} (fails : Prop) [Decidable fails]
    (ok : VidPnSourceMode → VidPnPresentPath × ω → Bool)
    (hrelease : ∀ status device, releaseOld hw d.device c.released = some (status, device) →
      rotation hw { d with device := device } = d.rotation hw ∧ (status ≠ .success ↔ fails) ∧
        ∀ m, ∃ I : Dod δ → Prop, I { d with device := device } ∧ Stores hw I c.modes m (ok m))
    (h : commitVidPn hw d c = some (status, calls, d')) :
    d'.rotation hw = (d.rotation hw).after (if fails then none else c.lastTried ok) := by
  have hfollows := commitVidPn_course h
  unfold CommitVidPn.lastTried
  cases hcourse : c.course with
  | ends success =>
    rw [hcourse] at hfollows
    rw [hfollows.1, ite_self]
    rfl
  | releases success =>
    rw [hcourse] at hfollows
    obtain ⟨released, device, hold, rfl, -⟩ := hfollows
    rw [(hrelease released device hold).1, ite_self]
    rfl
  | loops m paths =>
    rw [hcourse] at hfollows
    obtain ⟨released, device, hold, hfailed, hloop⟩ := hfollows
    obtain ⟨hsame, hfails, hstores⟩ := hrelease released device hold
    by_cases hreleased : released = .success
    · obtain ⟨changed, hchanges, -⟩ := hloop hreleased
      obtain ⟨I, hI, hstores⟩ := hstores m
      rw [if_neg (fun hf => hfails.mpr hf hreleased), changeModes_rotation hstores hI hchanges,
        hsame]
    · rw [(hfailed hreleased).1, hsame, if_pos (hfails.mp hreleased)]
      rfl

/-- **A commit on the `GpuDevice` path.** -/
theorem commitVidPn_rotation_gpu {d d' : Dod Gpu} {c : CommitVidPn Allocs} {status : Status}
    {calls : List OsCall} (h : commitVidPn gpuDevice d c = some (status, calls, d')) :
    d'.rotation gpuDevice = (d.rotation gpuDevice).after (d.device.storedPath c) := by
  refine (commitVidPn_rotation False (fun _ _ => true) ?_ h).trans ?_
  · intro released device hold
    rw [releaseOld_gpu] at hold
    cases hold
    refine ⟨rfl, by simp, fun m => ⟨fun _ => True, trivial, ?_⟩⟩
    constructor
    · exact fun _ _ _ _ _ _ => trivial
    · intro d₁ d₂ t status _ hset
      exact iff_of_true (setSourceModeAndPath_cases hset).1 rfl
    · intro d₁ d₂ t status _ hset
      obtain ⟨-, ⟨-, rfl⟩ | ⟨mi, -, hchanged⟩⟩ := setSourceModeAndPath_cases hset
      · rfl
      · obtain ⟨physicAddress, ptr, active, hmode⟩ := hchanged.mode
        change d₂.device.mode.rotation = _
        rw [hmode]
        rfl
  · rw [if_neg id]
    rfl

/-- **A commit on the `VgaDevice` path.** -/
theorem commitVidPn_rotation_vga {d d' : Dod Vga} {c : CommitVidPn VgaOutcomes} {status : Status}
    {calls : List OsCall} (h : commitVidPn vgaDevice d c = some (status, calls, d')) :
    d'.rotation vgaDevice = (d.rotation vgaDevice).after (d.device.storedPath c) := by
  refine commitVidPn_rotation _ _ ?_ h
  intro released device hold
  -- what the release leaves of the mode decides which mode changes succeed as before
  have hsame : device.mode.rotation = d.device.mode.rotation ∧
      ∀ m, Vga.completes device.mode c.modes m = Vga.completes d.device.mode c.modes m := by
    rcases releaseOld_vga hold with ⟨-, -, rfl⟩ | ⟨-, -, rfl⟩
    · exact ⟨rfl, fun _ => rfl⟩
    · exact ⟨rfl, fun _ => rfl⟩
  have hfails : released ≠ .success ↔ Releases d.device.mode ∧ d.device.length = 0 := by
    rcases releaseOld_vga hold with ⟨hreleases, hlength, -⟩ | ⟨hkept, hok, -⟩
    · rw [ne_eq, hlength]
      simp [hreleases]
    · simp [hok, hkept]
  refine ⟨hsame.1, hfails, fun m => ⟨fun d₁ => Vga.completes d₁.device.mode c.modes m =
    Vga.completes d.device.mode c.modes m, hsame.2 m, ?_⟩⟩
  constructor
  · intro d₁ d₂ t status hd₁ hset
    rcases setSourceModeAndPath_vga hset with ⟨-, -, -, hmode⟩ | ⟨-, -, -, -, hmode⟩
    · rw [hmode, ← hd₁]
      rfl
    · rw [hmode, ← hd₁]
      rfl
  · intro d₁ d₂ t status hd₁ hset
    rw [← hd₁]
    rcases setSourceModeAndPath_vga hset with ⟨hmaps, hfailed, -, -⟩ | ⟨-, hcompletes, -⟩
    · apply iff_of_false hfailed
      simp [Vga.completes, hmaps]
    · exact hcompletes
  · intro d₁ d₂ t status _ hset
    rcases setSourceModeAndPath_vga hset with ⟨-, -, -, hmode⟩ | ⟨-, -, -, -, hmode⟩
    · change d₂.device.mode.rotation = _
      rw [hmode]
      rfl
    · change d₂.device.mode.rotation = _
      rw [hmode]
      rfl

end Dod

/-! ## What the drawing callbacks leave -/

namespace Gpu

theorem presentDisplayOnly_keeps {g g' : Gpu} {screen screen' : Blt} {source : Int → Byte}
    {hidden : Bool} {p : PresentDisplayOnly} {status : Status}
    (h : g.presentDisplayOnly screen source hidden p = some (status, screen', g')) :
    g'.mode = g.mode ∧ g'.cursorBuf = g.cursorBuf := by
  unfold presentDisplayOnly at h
  split_ifs at h
  · cases h
    exact ⟨rfl, rfl⟩
  · cases h
    exact ⟨rfl, rfl⟩
  · obtain ⟨g₁, hexecute, h⟩ := Option.bind_eq_some_iff.mp h
    cases h
    obtain ⟨obj, offset, width, height, x, y, -, rfl⟩ := executePresentDisplayOnly_cases hexecute
    exact ⟨rfl, rfl⟩

theorem destroyCursor_mode {g g' : Gpu} (h : g.destroyCursor = some g') : g'.mode = g.mode := by
  rcases destroyCursor_cases h with ⟨-, rfl⟩ | ⟨obj, g₁, -, hobj, rfl⟩
  · rfl
  · rw [destroyObj_eq hobj]

/-- The MDL of the cursor's object is one that `DestroyCursor` can free. -/
def CursorLocked (g : Gpu) : Prop := ∀ obj ∈ g.cursorBuf, obj.mdl = .locked

theorem setPointerShape_keeps {g g' : Gpu} {shape : PointerShape} {a : Allocs}
    (h : g.setPointerShape shape a = some g') : g'.mode = g.mode ∧ g'.CursorLocked := by
  obtain ⟨g₁, ok, g₂, hdestroy, hcreate, hend⟩ := setPointerShape_cases h
  have hsame : g'.mode = g₂.mode ∧ g'.cursorBuf = g₂.cursorBuf := by
    rcases hend with ⟨-, rfl⟩ | ⟨-, obj, -, rfl⟩
    · exact ⟨rfl, rfl⟩
    · exact ⟨rfl, rfl⟩
  unfold CursorLocked
  rw [hsame.1, hsame.2, ← destroyCursor_mode hdestroy]
  rcases createCursor_cases hcreate with ⟨-, -, rfl⟩ | ⟨-, -, -, obj, hmade, rfl⟩
  · refine ⟨rfl, fun obj hobj => ?_⟩
    have hnone : g₁.cursorBuf = none := (destroyCursor_frameBuf hdestroy).2
    rw [hnone] at hobj
    cases hobj
  · refine ⟨rfl, fun obj' hobj => ?_⟩
    cases hobj
    exact hmade.mdl

theorem CursorLocked.destroyCursor {g : Gpu} (h : g.CursorLocked) :
    ∃ g', g.destroyCursor = some g' := by
  unfold Gpu.destroyCursor
  cases hcursor : g.cursorBuf with
  | none => exact ⟨g, rfl⟩
  | some obj =>
    have hmdl : obj.mdl ≠ .freed := by
      rw [h obj hcursor]
      nofun
    simp [destroyObj, deleteObj, VioGpuObj.close, hmdl]

/-- The allocations of `CreateCursor` succeed, and the shape has a known colour. -/
def ComesToBlit (shape : PointerShape) (a : Allocs) : Prop :=
  a.object = true ∧ a.init.Succeeds ∧ a.ents = true ∧
    (shape.color = true ∨ shape.monochrome = true)

theorem createCursor_true_iff {g : Gpu} {shape : PointerShape} {a : Allocs} :
    (∃ g', g.createCursor shape a = some (true, g')) ↔ ComesToBlit shape a := by
  constructor
  · rintro ⟨g', h⟩
    have hobject : a.object = true := by
      obtain ⟨⟨obj, g₁⟩, hnew, -⟩ := Option.bind_eq_some_iff.mp h
      unfold newObj at hnew
      split_ifs at hnew with hobject
      exact hobject
    rcases createCursor_cases h with ⟨-, hok, -⟩ | ⟨hinit, hents, hok, -⟩
    · cases hok
    · exact ⟨hobject, hinit, hents, Bool.or_eq_true_iff.mp hok.symm⟩
  · rintro ⟨hobject, hinit, hents, hcolor⟩
    obtain ⟨object, init, ents⟩ := a
    obtain rfl : object = true := hobject
    obtain rfl : ents = true := hents
    cases init with
    | noMemory | noMdl | lockFailed | noSgList => exact hinit.elim
    | done pa =>
      have hknown : ¬(shape.color = false ∧ shape.monochrome = false) := by
        rcases hcolor with hcolor | hcolor
        · simp [hcolor]
        · simp [hcolor]
      simp [createCursor, newObj, emit, getId, VioGpuObj.init, gpuObjectAttach, hknown]

end Gpu

/-! ## What is handed to `BltBits` -/

/-- The image of a present is turned as the path asks, rectangle by rectangle. -/
def PresentDisplayOnly.Turns (p : PresentDisplayOnly) : Prop :=
  p.rotate = true ∧ 4 ≤ p.bytesPerPixel ∧ p.rects ≠ []

/-- The callback hands the rotation of the path to `BltBits`. -/
def Gpu.UsesRotation : Draw → Prop
  | .presentDisplayOnly _ _ p => p.Turns
  | .systemDisplayWrite _ => True
  | .setPointerShape shape _ a => Gpu.ComesToBlit shape a

def Vga.UsesRotation : Draw → Prop
  | .presentDisplayOnly _ _ p => p.Turns
  | .systemDisplayWrite _ => True
  | .setPointerShape .. => False

namespace CurrentBddMode

variable (mode : CurrentBddMode)

theorem presentBlits_supported (base : Nat) (p : PresentDisplayOnly) :
    (∀ c ∈ mode.presentBlits base p, c.Supported) ↔ (p.Turns → mode.rotation.IsTurn) := by
  have hone : ∀ r, (⟨{ mode.dstBltInfo p with bits := base + mode.centerShift },
      mode.srcBltInfo p, r⟩ : BltCall).Supported ↔ (p.rotationNeededByFb mode).IsTurn := by
    intro r
    rw [BltCall.supported_iff]
    exact and_iff_left (.inl rfl)
  unfold presentBlits PresentDisplayOnly.Turns
  by_cases hbpp : p.bytesPerPixel < 4
  · rw [if_pos hbpp]
    exact iff_of_true (fun c hc => absurd hc List.not_mem_nil) fun h => by omega
  · rw [if_neg hbpp]
    simp only [List.forall_mem_map, hone]
    unfold PresentDisplayOnly.rotationNeededByFb
    constructor
    · rintro hall ⟨hrotate, -, hrects⟩
      obtain ⟨r, hr⟩ := List.exists_mem_of_ne_nil _ hrects
      simpa only [hrotate, if_true] using hall r hr
    · intro h r hr
      by_cases hrotate : p.rotate = true
      · rw [if_pos hrotate]
        exact h ⟨hrotate, Nat.not_lt.mp hbpp, List.ne_nil_of_mem hr⟩
      · rw [if_neg hrotate]
        exact .inl rfl

theorem systemBlits_supported (base : Nat) (w : SystemDisplayWrite) :
    (∀ c ∈ mode.systemBlits base w, c.Supported) ↔ mode.rotation.IsTurn := by
  unfold systemBlits
  rw [List.forall_mem_singleton, BltCall.supported_iff]
  exact and_iff_left (.inl rfl)

theorem cursorBlit_supported (shape : PointerShape) (pitch : Nat) :
    (mode.cursorBlit shape pitch).Supported ↔ mode.rotation.IsTurn := by
  rw [BltCall.supported_iff]
  exact and_iff_right (.inl rfl)

end CurrentBddMode

theorem Gpu.blits_supported {g : Gpu} (h : g.CursorLocked) (k : Draw) :
    (∀ c ∈ g.blits k, c.Supported) ↔ (Gpu.UsesRotation k → g.mode.rotation.IsTurn) := by
  cases k with
  | presentDisplayOnly screen source p => exact g.mode.presentBlits_supported 0 p
  | systemDisplayWrite w =>
    exact (g.mode.systemBlits_supported 0 w).trans ⟨fun hturn _ => hturn, fun himp => himp trivial⟩
  | setPointerShape shape pitch a =>
    obtain ⟨g₁, hdestroy⟩ := h.destroyCursor
    have hcomes : ComesToBlit shape a ↔ ∃ g₂, g₁.createCursor shape a = some (true, g₂) :=
      createCursor_true_iff.symm
    simp only [blits, UsesRotation, hdestroy, Option.bind_some, hcomes]
    rcases g₁.createCursor shape a with _ | ⟨_ | _, g₂⟩
    · simp
    · simp
    · simp [g.mode.cursorBlit_supported shape pitch]

theorem Vga.blits_supported {v : Vga} (h : v.sourceNotVisible = false) (k : Draw) :
    (∀ c ∈ v.blits k, c.Supported) ↔ (Vga.UsesRotation k → v.mode.rotation.IsTurn) := by
  cases k with
  | presentDisplayOnly screen source p =>
    simp only [blits, h, Bool.false_eq_true, if_false]
    exact v.mode.presentBlits_supported v.base p
  | systemDisplayWrite w =>
    exact (v.mode.systemBlits_supported v.base w).trans
      ⟨fun hturn _ => hturn, fun himp => himp trivial⟩
  | setPointerShape shape pitch a => simp [blits, UsesRotation]

/-! ## The callbacks in any order -/

namespace Dod

/-- The path whose rotation a callback stores. -/
def storedPath (stored : δ → CommitVidPn ω → Option VidPnPresentPath) (d : Dod δ) :
    PathCall ω → Option VidPnPresentPath
  | .commitVidPn c => stored d.device c
  | .updateActiveVidPnPresentPath path =>
    if isVidPnPathFieldsValid path = .success then some path else none
  | .draw _ => none

/-- The path that is stored last. -/
def lastPath (hw : HwDeviceInterface δ ω) (drawn : δ → Draw → Option δ)
    (stored : δ → CommitVidPn ω → Option VidPnPresentPath) (d : Dod δ) :
    List (PathCall ω) → Option VidPnPresentPath
  | [] => none
  | call :: calls =>
    ((d.pathCall hw drawn call).bind fun d' => d'.lastPath hw drawn stored calls).or
      (d.storedPath stored call)

/-- What is asked of a device: `stored` is what its commits store, and drawing stores nothing. -/
structure KeepsRotation (hw : HwDeviceInterface δ ω) (drawn : δ → Draw → Option δ)
    (stored : δ → CommitVidPn ω → Option VidPnPresentPath) : Prop where
  setMode : ∀ v mode, hw.currentMode (hw.setMode v mode) = mode
  commit : ∀ (d d' : Dod δ) c status calls, commitVidPn hw d c = some (status, calls, d') →
    d'.rotation hw = (d.rotation hw).after (stored d.device c)
  draws : ∀ v v' k, drawn v k = some v' →
    (hw.currentMode v').rotation = (hw.currentMode v).rotation

variable {hw : HwDeviceInterface δ ω} {drawn : δ → Draw → Option δ}
  {stored : δ → CommitVidPn ω → Option VidPnPresentPath}

theorem pathCall_rotation (hkeeps : KeepsRotation hw drawn stored) {d d' : Dod δ}
    {call : PathCall ω} (h : d.pathCall hw drawn call = some d') :
    d'.rotation hw = (d.rotation hw).after (d.storedPath stored call) := by
  cases call with
  | commitVidPn c =>
    obtain ⟨⟨status, calls, d₁⟩, hcommit, rfl⟩ := Option.map_eq_some_iff.mp h
    exact hkeeps.commit _ _ _ _ _ hcommit
  | updateActiveVidPnPresentPath path =>
    obtain rfl := Option.some_inj.mp h
    simp only [updateActiveVidPnPresentPath, storedPath]
    by_cases hvalid : isVidPnPathFieldsValid path = .success
    · simp only [hvalid, ne_eq, not_true_eq_false, if_false, if_true]
      change (hw.currentMode (hw.setMode _ _)).rotation = _
      rw [hkeeps.setMode]
      rfl
    · simp only [hvalid, ne_eq, not_false_eq_true, if_true, if_false]
      rfl
  | draw k =>
    obtain ⟨v, hdraws, rfl⟩ := Option.map_eq_some_iff.mp h
    exact hkeeps.draws _ _ _ hdraws

/-- **The rotation along a run** is that of the path that was stored last. -/
theorem pathCalls_rotation (hkeeps : KeepsRotation hw drawn stored) {d d' : Dod δ}
    {calls : List (PathCall ω)} (h : d.pathCalls hw drawn calls = some d') :
    d'.rotation hw = (d.rotation hw).after (d.lastPath hw drawn stored calls) := by
  induction calls generalizing d with
  | nil =>
    cases h
    rfl
  | cons call calls ih =>
    obtain ⟨d₁, hcall, hcalls⟩ := Option.bind_eq_some_iff.mp h
    rw [ih hcalls, pathCall_rotation hkeeps hcall, lastPath, hcall, Option.bind_some]
    cases d₁.lastPath hw drawn stored calls <;> rfl

theorem pathCalls_induct {I : Dod δ → Prop}
    (hstep : ∀ d d' call, I d → d.pathCall hw drawn call = some d' → I d') {d d' : Dod δ}
    {calls : List (PathCall ω)} (hd : I d) (h : d.pathCalls hw drawn calls = some d') : I d' := by
  induction calls generalizing d with
  | nil =>
    cases h
    exact hd
  | cons call calls ih =>
    obtain ⟨d₁, hcall, hcalls⟩ := Option.bind_eq_some_iff.mp h
    exact ih (hstep _ _ _ hd hcall) hcalls

theorem gpu_keepsRotation : KeepsRotation gpuDevice Gpu.drawn Gpu.storedPath where
  setMode _ _ := rfl
  commit _ _ _ _ _ h := commitVidPn_rotation_gpu h
  draws g g' k h := by
    have hmode : g'.mode = g.mode := by
      cases k with
      | presentDisplayOnly screen source p =>
        obtain ⟨⟨status, screen', g₁⟩, hpresent, rfl⟩ := Option.map_eq_some_iff.mp h
        exact (Gpu.presentDisplayOnly_keeps hpresent).1
      | systemDisplayWrite w =>
        cases h
        rfl
      | setPointerShape shape pitch a => exact (Gpu.setPointerShape_keeps h).1
    change g'.mode.rotation = g.mode.rotation
    rw [hmode]

theorem vga_keepsRotation : KeepsRotation vgaDevice Vga.drawn Vga.storedPath where
  setMode _ _ := rfl
  commit _ _ _ _ _ h := commitVidPn_rotation_vga h
  draws v v' k h := by
    have hdraw : ∀ (w : Vga) blits, (w.draw blits).mode = w.mode := by
      intro w blits
      unfold Vga.draw
      split_ifs <;> rfl
    change v'.mode.rotation = v.mode.rotation
    cases k with
    | presentDisplayOnly screen source p =>
      cases h
      unfold Vga.presentDisplayOnly
      split_ifs
      · rfl
      · rw [hdraw]
    | systemDisplayWrite w =>
      cases h
      rw [Vga.systemDisplayWrite, hdraw]
    | setPointerShape shape pitch a =>
      cases h
      rfl

theorem pathCall_cursorLocked {d d' : Dod Gpu} {call : PathCall Allocs}
    (h : d.device.CursorLocked) (hcall : d.pathCall gpuDevice Gpu.drawn call = some d') :
    d'.device.CursorLocked := by
  have hsame : d'.device.cursorBuf = d.device.cursorBuf → d'.device.CursorLocked := by
    intro hcursor obj hobj
    rw [hcursor] at hobj
    exact h obj hobj
  cases call with
  | commitVidPn c =>
    obtain ⟨⟨status, calls, d₁⟩, hcommit, rfl⟩ := Option.map_eq_some_iff.mp hcall
    exact hsame (commitVidPn_keeps (keeps_cursorBuf _) rfl hcommit)
  | updateActiveVidPnPresentPath path =>
    obtain rfl := Option.some_inj.mp hcall
    apply hsame
    unfold updateActiveVidPnPresentPath
    split_ifs <;> rfl
  | draw k =>
    obtain ⟨g, hdraws, rfl⟩ := Option.map_eq_some_iff.mp hcall
    cases k with
    | presentDisplayOnly screen source p =>
      obtain ⟨⟨status, screen', g₁⟩, hpresent, rfl⟩ := Option.map_eq_some_iff.mp hdraws
      exact hsame (Gpu.presentDisplayOnly_keeps hpresent).2
    | systemDisplayWrite w =>
      cases hdraws
      exact h
    | setPointerShape shape pitch a => exact (Gpu.setPointerShape_keeps hdraws).2

/-- A commit does not hide the source. -/
theorem keeps_visible : vgaDevice.Keeps fun v => v.sourceNotVisible = false where
  source _ _ _ h := h
  fullscreen _ h := h
  acquire v o status v' h hs := by
    have hv := Option.some_inj.mp hs
    rcases v.acquireFrameBuffer_cases o with ⟨-, heq⟩ | ⟨-, -, heq⟩
    · rw [heq] at hv
      cases hv
      exact h
    · rw [hv] at heq
      cases heq
      exact h
  release v o status v' h hs := by
    cases hs
    exact h
  mode v modes n o status v' h hs := by
    cases hs
    exact h

theorem pathCall_visible {d d' : Dod Vga} {call : PathCall VgaOutcomes}
    (h : d.device.sourceNotVisible = false)
    (hcall : d.pathCall vgaDevice Vga.drawn call = some d') :
    d'.device.sourceNotVisible = false := by
  have hdraw : ∀ (w : Vga) blits, (w.draw blits).sourceNotVisible = w.sourceNotVisible := by
    intro w blits
    unfold Vga.draw
    split_ifs <;> rfl
  cases call with
  | commitVidPn c =>
    obtain ⟨⟨status, calls, d₁⟩, hcommit, rfl⟩ := Option.map_eq_some_iff.mp hcall
    exact commitVidPn_keeps keeps_visible h hcommit
  | updateActiveVidPnPresentPath path =>
    obtain rfl := Option.some_inj.mp hcall
    unfold updateActiveVidPnPresentPath
    split_ifs <;> exact h
  | draw k =>
    obtain ⟨v, hdraws, rfl⟩ := Option.map_eq_some_iff.mp hcall
    cases k with
    | presentDisplayOnly screen source p =>
      cases hdraws
      unfold Vga.presentDisplayOnly
      split_ifs
      · exact h
      · rw [hdraw]
        exact h
    | systemDisplayWrite w =>
      cases hdraws
      rw [Vga.systemDisplayWrite, hdraw]
      exact h
    | setPointerShape shape pitch a =>
      cases hdraws
      exact h

/-- After a run from a driver without a rotation, what is handed over is supported if the rotation
is not used or is that of a path. -/
theorem supported_iff (hkeeps : KeepsRotation hw drawn stored) {I : Dod δ → Prop}
    (hstep : ∀ d d' call, I d → d.pathCall hw drawn call = some d' → I d')
    {blits : δ → Draw → List BltCall} {uses : Draw → Prop}
    (hblits : ∀ d, I d → ∀ k, (∀ c ∈ blits d.device k, c.Supported) ↔
      (uses k → (d.rotation hw).IsTurn))
    {start : Dod δ} (hstart : I start) (hnone : start.rotation hw = .uninitialized)
    (calls : List (PathCall ω)) (k : Draw) :
    (∀ d, start.pathCalls hw drawn calls = some d → ∀ c ∈ blits d.device k, c.Supported) ↔
      ((start.pathCalls hw drawn calls).isSome → uses k →
        ∃ path ∈ start.lastPath hw drawn stored calls, path.rotation.IsTurn) := by
  have hturn : ((start.rotation hw).after (start.lastPath hw drawn stored calls)).IsTurn ↔
      ∃ path ∈ start.lastPath hw drawn stored calls, path.rotation.IsTurn := by
    rw [hnone]
    cases start.lastPath hw drawn stored calls with
    | none => simp [Rotation.after, Rotation.IsTurn]
    | some path => simp [Rotation.after]
  rw [← hturn]
  constructor
  · intro hall hsome
    obtain ⟨d, hd⟩ := Option.isSome_iff_exists.mp hsome
    rw [← pathCalls_rotation hkeeps hd]
    exact (hblits d (pathCalls_induct hstep hstart hd) k).mp (hall d hd)
  · intro himp d hd
    rw [hblits d (pathCalls_induct hstep hstart hd) k, pathCalls_rotation hkeeps hd]
    exact himp (by rw [hd]; rfl)

/-- The state after `StartDevice` on the `VgaDevice` path, with this content of video memory. -/
def vgaStart (acquired : DispInfo) (physicAddress : Nat) (memory : Int → Byte) : Dod Vga :=
  ⟨.start (startDeviceMode acquired physicAddress) memory, 0⟩

/-- **When the blits can do with the rotation.** After any callbacks from `StartDevice` on, every
image that one more callback hands to `BltBits` has one of the four rotations just when the
callback does not use the rotation of the path or the last path that was stored has one. -/
theorem blits_supported_iff (acquired : DispInfo) (physicAddress : Nat) (memory : Int → Byte)
    (k : Draw) :
    (∀ calls, (∀ d, (gpuStart acquired physicAddress).pathCalls gpuDevice Gpu.drawn calls = some d →
        ∀ c ∈ d.device.blits k, c.Supported) ↔
      (((gpuStart acquired physicAddress).pathCalls gpuDevice Gpu.drawn calls).isSome →
        Gpu.UsesRotation k → ∃ path ∈ (gpuStart acquired physicAddress).lastPath gpuDevice
          Gpu.drawn Gpu.storedPath calls, path.rotation.IsTurn)) ∧
    ∀ calls, (∀ d, (vgaStart acquired physicAddress memory).pathCalls vgaDevice Vga.drawn calls =
        some d → ∀ c ∈ d.device.blits k, c.Supported) ↔
      (((vgaStart acquired physicAddress memory).pathCalls vgaDevice Vga.drawn calls).isSome →
        Vga.UsesRotation k → ∃ path ∈ (vgaStart acquired physicAddress memory).lastPath vgaDevice
          Vga.drawn Vga.storedPath calls, path.rotation.IsTurn) := by
  constructor
  · intro calls
    have hlocked : (gpuStart acquired physicAddress).device.CursorLocked := by
      intro obj hobj
      cases hobj
    exact supported_iff gpu_keepsRotation (fun d d' call => pathCall_cursorLocked)
      (fun d hd k => Gpu.blits_supported hd k) hlocked rfl calls k
  · intro calls
    exact supported_iff vga_keepsRotation (fun d d' call => pathCall_visible)
      (fun d hd k => Vga.blits_supported hd k) rfl rfl calls k

/-- A path without a rotation, which the driver accepts. -/
def notRotated : VidPnPresentPath := ⟨0, 0, .default, .identity, .notSpecified, .scrgb⟩

/-- A present of one rectangle that asks for the rotation of the path. -/
def rotatedPresent : Draw :=
  .presentDisplayOnly ⟨fun _ => 0, []⟩ (fun _ => 0) ⟨4, 256, true, [], [⟨0, 0, 64, 16⟩]⟩

/-- A mode is set, and then the path is updated. -/
theorem unspecified_rotation_blits : ¬∀ acquired physicAddress calls d k,
    (gpuStart acquired physicAddress).pathCalls gpuDevice Gpu.drawn calls = some d →
      ∀ c ∈ d.device.blits k, c.Supported := by
  intro hall
  obtain ⟨d, hd, hrotation⟩ : ∃ d, (gpuStart ⟨800, 600, 3200, .x8r8g8b8, 0⟩ 0).pathCalls gpuDevice
      Gpu.drawn [.commitVidPn (oneCommit ⟨64, 16⟩ oneMode allocated),
        .updateActiveVidPnPresentPath notRotated] = some d ∧
      d.device.mode.rotation = .notSpecified := ⟨_, rfl, rfl⟩
  have hturns := (d.device.mode.presentBlits_supported 0 _).mp (hall _ _ _ d rotatedPresent hd)
    ⟨rfl, Nat.le_refl 4, List.cons_ne_nil _ _⟩
  rw [hrotation] at hturns
  simp [Rotation.IsTurn] at hturns

end Dod

end VioGpu.Device
