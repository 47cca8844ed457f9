import VioGpu.Device.Gpu

/-!
# Committing a VidPn (`VioGpuDod` of `viogpudo.cpp`)

`CommitVidPn` asks the OS for the pinned source mode and for the paths from the source, and sets
the mode for each path in turn through the virtual functions of the device. What the callbacks
of the OS answer and the outcomes of the steps of the device are inputs. There is one source and
one target (`MAX_VIEWS` and `MAX_CHILDREN`), so that `m_CurrentModes[0]` is the only entry.
-/

namespace VioGpu.Device

open Lib

/-! ## Source modes and paths -/

/-- `D3DKMDT_VIDPN_SOURCE_MODE_TYPE` -/
inductive SourceModeType
  | uninitialized
  | graphics
  | text
  deriving DecidableEq, Repr

/-- `D3DKMDT_COLOR_BASIS` -/
inductive ColorBasis
  | uninitialized
  | intensity
  | srgb
  | scrgb
  | ycbcr
  | ypbpr
  deriving DecidableEq, Repr

/-- `D3DKMDT_PIXEL_VALUE_ACCESS_MODE` -/
inductive PixelValueAccessMode
  | uninitialized
  | direct
  | presetPalette
  | settablePalette
  deriving DecidableEq, Repr

/-- `D3DDDI_GAMMARAMP_TYPE` -/
inductive GammaRampType
  | uninitialized
  | default
  | rgb256x3x16
  | dxgi1
  deriving DecidableEq, Repr

/-- `D3DKMDT_2DREGION` -/
structure Region where
  cx : Nat
  cy : Nat
  deriving DecidableEq, Repr

/-- `D3DKMDT_VIDPN_SOURCE_MODE`, with `Format.Graphics`. -/
structure VidPnSourceMode where
  type : SourceModeType
  primSurfSize : Region
  visibleRegionSize : Region
  pixelFormat : D3dFormat
  colorBasis : ColorBasis
  pixelValueAccessMode : PixelValueAccessMode
  deriving DecidableEq, Repr

/-- `D3DKMDT_VIDPN_PRESENT_PATH` -/
structure VidPnPresentPath where
  vidPnSourceId : Nat
  vidPnTargetId : Nat
  gammaRampType : GammaRampType
  scaling : Scaling
  rotation : Rotation
  vidPnTargetColorBasis : ColorBasis
  deriving DecidableEq, Repr

def maxViews : Nat := 1

def maxChildren : Nat := 1

/-- `IsVidPnPathFieldsValid` -/
def isVidPnPathFieldsValid (path : VidPnPresentPath) : Status :=
  if path.vidPnSourceId ≥ maxViews then .graphicsInvalidVideoPresentSource
  else if path.vidPnTargetId ≥ maxChildren then .graphicsInvalidVideoPresentTarget
  else if path.gammaRampType ≠ .default then .graphicsGammaRampNotSupported
  else if path.scaling ≠ .identity ∧ path.scaling ≠ .centered ∧ path.scaling ≠ .notSpecified ∧
      path.scaling ≠ .uninitialized then .graphicsVidPnModalityNotSupported
  else if path.rotation ≠ .identity ∧ path.rotation ≠ .rotate90 ∧ path.rotation ≠ .notSpecified ∧
      path.rotation ≠ .uninitialized then .graphicsVidPnModalityNotSupported
  else if path.vidPnTargetColorBasis ≠ .scrgb ∧ path.vidPnTargetColorBasis ≠ .uninitialized then
    .graphicsInvalidVideoPresentSourceMode
  else .success

/-- `IsVidPnSourceModeFieldsValid` -/
def isVidPnSourceModeFieldsValid (sourceMode : VidPnSourceMode) : Status :=
  if sourceMode.type ≠ .graphics then .graphicsInvalidVideoPresentSourceMode
  else if sourceMode.colorBasis ≠ .scrgb ∧ sourceMode.colorBasis ≠ .uninitialized then
    .graphicsInvalidVideoPresentSourceMode
  else if sourceMode.pixelValueAccessMode ≠ .direct then .graphicsInvalidVideoPresentSourceMode
  else if sourceMode.pixelFormat = .a8r8g8b8 then .success
  else .graphicsInvalidVideoPresentSourceMode

/-! ## The device -/

def VideoModeInformation.hasSize (m : VideoModeInformation) (width height : Nat) : Bool :=
  width = m.visScreenWidth && height = m.visScreenHeight

/-- The virtual functions of `HwDeviceInterface` that `CommitVidPn` uses. The state `δ` of the
device includes `m_CurrentModes[0]`, `ω` are the outcomes of the steps of the device, and `none`
is an access through `NULL` or to freed memory. -/
structure HwDeviceInterface (δ ω : Type) where
  currentMode : δ → CurrentBddMode
  setMode : δ → CurrentBddMode → δ
  acquireFrameBuffer : δ → ω → Option (Status × δ)
  releaseFrameBuffer : δ → ω → Option (Status × δ)
  setCurrentMode : δ → List VideoModeInformation → Nat → ω → Option (Status × δ)

/-- `m_CurrentModes[0]` of `VioGpuDod` is part of `device`; `currentModeIndex` is
`m_CurrentMode`. -/
structure Dod (δ : Type) where
  device : δ
  currentModeIndex : Nat

/-- The calls of `CommitVidPn` that acquire and release objects of the OS. -/
inductive OsCall
  | acquireSourceModeSet
  | releaseSourceModeSet
  | acquirePinnedModeInfo
  | releaseModeInfo
  | acquirePathInfo
  | releasePathInfo
  deriving DecidableEq, Repr

/-- What the OS answers about one path from the source, with the outcomes of the device's steps
for it. -/
structure PathAnswers (ω : Type) where
  target : Except Nat Unit
  info : Except Nat VidPnPresentPath
  outcomes : ω
  release : Except Nat Unit

/-- `DXGKARG_COMMITVIDPN` with the answers of the OS, the mode list, and the outcomes of
`ReleaseFrameBuffer`. `pinned` is `none` where the OS answers with no mode. -/
structure CommitVidPn (ω : Type) where
  pathPoweredOff : Bool
  vidPnInterface : Except Nat Unit
  topology : Except Nat Unit
  numPaths : Except Nat Nat
  sourceModeSet : Except Nat Unit
  pinned : Except Nat (Option VidPnSourceMode)
  modes : List VideoModeInformation
  released : ω
  paths : Except Nat (List (PathAnswers ω))

namespace Dod

variable {δ ω : Type} (hw : HwDeviceInterface δ ω)

/-- `m_CurrentModes[0]` as `SetSourceModeAndPath` sets it up before it calls the device. -/
def sourceMode (mode : CurrentBddMode) (sourceMode : VidPnSourceMode) (path : VidPnPresentPath) :
    CurrentBddMode :=
  { mode with
    scaling := path.scaling
    srcModeWidth := sourceMode.visibleRegionSize.cx
    srcModeHeight := sourceMode.visibleRegionSize.cy
    rotation := path.rotation
    dispInfo := { mode.dispInfo with
      width := sourceMode.primSurfSize.cx
      height := sourceMode.primSurfSize.cy
      pitch := u32 (sourceMode.primSurfSize.cx *
        bppFromPixelFormat mode.dispInfo.colorFormat) / 8 } }

/-- The first mode of the list that has the size of `DispInfo`. -/
def modeIndex (modes : List VideoModeInformation) (dispInfo : DispInfo) : Option Nat :=
  modes.findIdx? (·.hasSize dispInfo.width dispInfo.height)

/-- `SetSourceModeAndPath` -/
def setSourceModeAndPath (d : Dod δ) (modes : List VideoModeInformation)
    (pinned : VidPnSourceMode) (path : VidPnPresentPath) (outcomes : ω) :
    Option (Status × Dod δ) := do
  let device := hw.setMode d.device (sourceMode (hw.currentMode d.device) pinned path)
  let (status, device) ← hw.acquireFrameBuffer device outcomes
  if status ≠ .success then some (status, { d with device })
  else
    let device := hw.setMode device { hw.currentMode device with fullscreenPresent := true }
    match modeIndex modes (hw.currentMode device).dispInfo with
    | none => some (.success, { d with device })
    | some idx => do
      let modeInfo ← modes[idx]?
      let (status, device) ← hw.setCurrentMode device modes modeInfo.modeNumber outcomes
      some (status, if status = .success then ⟨device, idx⟩ else { d with device })

/-- What `CommitVidPn` has when it comes to its exit: `modeSet`, `pinned` and `path` tell which
objects of the OS are yet to be released. -/
structure AtExit (δ : Type) where
  status : Status
  dod : Dod δ
  modeSet : Bool
  pinned : Bool
  path : Bool
  calls : List OsCall

/-- The loop of `CommitVidPn` over the paths from the source. -/
def commitPaths (modes : List VideoModeInformation) (pinned : VidPnSourceMode) (d : Dod δ)
    (calls : List OsCall) : List (PathAnswers ω) → Option (AtExit δ)
  | [] => some ⟨.success, d, true, true, false, calls⟩
  | p :: paths =>
    match p.target, p.info with
    | .error code, _ => some ⟨.os code, d, true, true, false, calls⟩
    | .ok (), .error code => some ⟨.os code, d, true, true, false, calls ++ [.acquirePathInfo]⟩
    | .ok (), .ok path =>
      let calls := calls ++ [.acquirePathInfo]
      if isVidPnPathFieldsValid path ≠ .success then
        some ⟨isVidPnPathFieldsValid path, d, true, true, true, calls⟩
      else do
        let (status, d) ← setSourceModeAndPath hw d modes pinned path p.outcomes
        if status ≠ .success then some ⟨status, d, true, true, true, calls⟩
        else
          let calls := calls ++ [.releasePathInfo]
          match p.release with
          | .error code => some ⟨.os code, d, true, true, true, calls⟩
          | .ok () => commitPaths modes pinned d calls paths

/-- The frame buffer of the old mode is released if it is mapped. -/
def releaseOld (device : δ) (outcomes : ω) : Option (Status × δ) :=
  if (hw.currentMode device).ptr.isSome ∧ (hw.currentMode device).doNotMapOrUnmap = false then
    hw.releaseFrameBuffer device outcomes
  else some (.success, device)

/-- `CommitVidPn` from the pinned mode on. -/
def commitPinned (d : Dod δ) (c : CommitVidPn ω) (modeSet : Bool) (calls : List OsCall)
    (pinned : Option VidPnSourceMode) : Option (AtExit δ) := do
  let (status, device) ← releaseOld hw d.device c.released
  let d := { d with device }
  if status ≠ .success then some ⟨status, d, modeSet, pinned.isSome, false, calls⟩
  else
    match pinned with
    | none => some ⟨.success, d, modeSet, false, false, calls⟩
    | some sourceMode =>
      if isVidPnSourceModeFieldsValid sourceMode ≠ .success then
        some ⟨isVidPnSourceModeFieldsValid sourceMode, d, modeSet, true, false, calls⟩
      else
        match c.paths with
        | .error code => some ⟨.os code, d, modeSet, true, false, calls⟩
        | .ok paths => commitPaths hw c.modes sourceMode d calls paths

/-- `CommitVidPn` up to `CommitVidPnExit`. -/
def commitToExit (d : Dod δ) (c : CommitVidPn ω) : Option (AtExit δ) :=
  if c.pathPoweredOff then some ⟨.success, d, false, false, false, []⟩
  else
    match c.vidPnInterface, c.topology, c.numPaths with
    | .error code, _, _ => some ⟨.os code, d, false, false, false, []⟩
    | .ok (), .error code, _ => some ⟨.os code, d, false, false, false, []⟩
    | .ok (), .ok (), .error code => some ⟨.os code, d, false, false, false, []⟩
    | .ok (), .ok (), .ok 0 => commitPinned hw d c false [] none
    | .ok (), .ok (), .ok (_ + 1) =>
      match c.sourceModeSet, c.pinned with
      | .error code, _ => some ⟨.os code, d, false, false, false, [.acquireSourceModeSet]⟩
      | .ok (), .error code =>
        some ⟨.os code, d, true, false, false, [.acquireSourceModeSet, .acquirePinnedModeInfo]⟩
      | .ok (), .ok pinned =>
        commitPinned hw d c true [.acquireSourceModeSet, .acquirePinnedModeInfo] pinned

/-- The calls after `CommitVidPnExit`. -/
def AtExit.cleanUp (e : AtExit δ) : List OsCall :=
  e.calls ++ (if e.modeSet && e.pinned then [.releaseModeInfo] else []) ++
    (if e.modeSet then [.releaseSourceModeSet] else []) ++
    (if e.path then [.releasePathInfo] else [])

/-- `CommitVidPn` -/
def commitVidPn (d : Dod δ) (c : CommitVidPn ω) : Option (Status × List OsCall × Dod δ) := do
  let e ← commitToExit hw d c
  some (e.status, e.cleanUp, e.dod)

end Dod

/-! ## `GpuDevice` -/

/-- The functions of `GpuDevice`; its `AcquireFrameBuffer` and `ReleaseFrameBuffer` do nothing. -/
def gpuDevice : HwDeviceInterface Gpu Allocs where
  currentMode g := g.mode
  setMode g mode := { g with mode }
  acquireFrameBuffer g _ := some (.success, g)
  releaseFrameBuffer g _ := some (.success, g)
  setCurrentMode g modes mode a := do
    let (ok, g) ← g.setCurrentMode modes mode a
    some (if ok then .success else .unsuccessful, g)

/-- `BlackOutScreen`: the object whose memory it writes, and the number of bytes. -/
def Gpu.blackOutScreen (g : Gpu) : Option (Nat × Nat) :=
  if g.mode.frameBufferIsActive then
    g.mode.ptr.map fun n => (n, u32 (g.mode.dispInfo.height * g.mode.dispInfo.pitch))
  else none

/-- `MIN_WIDTH_SIZE` and `MIN_HEIGHT_SIZE` -/
def minSize : Region := ⟨1024, 768⟩

/-- `m_CurrentModes[0]` after `StartDevice`, with the display information the OS gave away and
the physical address from before. -/
def startDeviceMode (acquired : DispInfo) (physicAddress : Nat) : CurrentBddMode where
  dispInfo :=
    { width := max minSize.cx acquired.width
      height := max minSize.cy acquired.height
      pitch := bppFromPixelFormat .a8r8g8b8 / 8
      colorFormat := .a8r8g8b8
      physicAddress := if physicAddress ≠ 0 then physicAddress else acquired.physicAddress }
  rotation := .uninitialized
  scaling := .uninitialized
  srcModeWidth := 0
  srcModeHeight := 0
  fullscreenPresent := false
  frameBufferIsActive := false
  doNotMapOrUnmap := false
  ptr := none

/-- The driver on the `GpuDevice` path, one `CommitVidPn` after the other. -/
def Dod.gpuSystem (acquired : DispInfo) (physicAddress : Nat) :
    System (Dod Gpu) (CommitVidPn Allocs) where
  init := ⟨.start (startDeviceMode acquired physicAddress), 0⟩
  step d c := (fun r => r.2.2) <$> commitVidPn gpuDevice d c

end VioGpu.Device
