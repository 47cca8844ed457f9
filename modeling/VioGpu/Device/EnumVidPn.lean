import VioGpu.Device.VidPnHandles

/-!
# Telling the OS the modes (`VioGpuDod` of `viogpudo.cpp`)

`EnumVidPnCofuncModality` goes through the paths of a VidPn. What is neither the pivot nor pinned
it replaces by all that the driver supports: the source modes, the target modes, and the support
fields of the path. Every failure breaks out of the loop to one cleanup, which releases what the
variables still hold.
-/

namespace VioGpu.Device

open Lib Program VidPnCall

/-- `D3DKMDT_ENUMCOFUNCMODALITY_PIVOT_TYPE` -/
inductive EnumPivotType
  | uninitialized
  | vidPnSource
  | vidPnTarget
  | scaling
  | rotation
  | noPivot
  deriving DecidableEq, Repr

/-- The pivot of `DXGKARG_ENUMVIDPNCOFUNCMODALITY`, with the modes of the device: `m_ModeCount`
entries of `m_ModeInfo`, which is memory that can be read beyond them. -/
structure EnumVidPnCofuncModality where
  enumPivotType : EnumPivotType
  pivotSourceId : Nat
  pivotTargetId : Nat
  modeCount : Nat
  modeInfo : Nat → VideoModeInformation

/-- The variables that the cleanup looks at; `path` is `pVidPnPresentPath` and `pathTemp` is
`pVidPnPresentPathTemp`. -/
structure EnumVars where
  source : ModeSetVars := {}
  target : ModeSetVars := {}
  path : Option Nat := none
  pathTemp : Option Nat := none

namespace EnumVars

def of (v : EnumVars) : ModeKind → ModeSetVars
  | .source => v.source
  | .target => v.target

def set (v : EnumVars) (w : ModeSetVars) : ModeKind → EnumVars
  | .source => { v with source := w }
  | .target => { v with target := w }

end EnumVars

/-! ## Modes -/

/-- The source mode for an entry of the mode list. -/
def newSourceMode (modeInfo : VideoModeInformation) : NewSourceMode where
  type := .graphics
  primSurfSize := ⟨modeInfo.visScreenWidth, modeInfo.visScreenHeight⟩
  visibleRegionSize := ⟨modeInfo.visScreenWidth, modeInfo.visScreenHeight⟩
  stride := modeInfo.screenStride
  pixelFormat := .a8r8g8b8
  colorBasis := .scrgb
  pixelValueAccessMode := .direct

/-- The target mode for an entry of the mode list. -/
def newTargetMode (modeInfo : VideoModeInformation) : VidPnTargetMode where
  videoStandard := .other
  totalSize := ⟨modeInfo.visScreenWidth, modeInfo.visScreenHeight⟩
  activeSize := ⟨modeInfo.visScreenWidth, modeInfo.visScreenHeight⟩
  vSyncFreq := .notSpecified
  hSyncFreq := .notSpecified
  pixelRate := none
  scanLineOrdering := .progressive
  preference := .notPreferred

/-- A mode is added; one that is not taken is released. The result is `none` where the loop over
the modes goes on. -/
def giveMode (kind : ModeKind) (modeSet modeInfo : Nat) (afterFailure : Nat → Option Status) :
    VidPnProgram (Option Status) := do
  match ← ask (addMode kind modeSet modeInfo) with
  | .added => return none
  | .alreadyInModeset => do
    let _ ← ask (releaseModeInfo kind modeSet modeInfo)
    return none
  | .failed code => do
    let _ ← ask (releaseModeInfo kind modeSet modeInfo)
    return afterFailure code

/-- One turn of the loops of `AddSingleSourceMode` and `AddSingleTargetMode`. -/
def addSingleMode (kind : ModeKind) (modeSet : Nat) (mode : NewMode)
    (afterFailure : Nat → Option Status) : VidPnProgram (Option Status) := do
  match ← ask (createNewModeInfo kind modeSet) with
  | .error code => return some (.os code)
  | .ok modeInfo => do
    let () ← ask (writeModeInfo kind modeInfo mode)
    giveMode kind modeSet modeInfo afterFailure

/-- The loop of `AddSingleSourceMode` over entries of the mode list. -/
def addSourceModes (modeSet : Nat) : List VideoModeInformation → VidPnProgram Status
  | [] => return .success
  | modeInfo :: modes => do
    match ← addSingleMode .source modeSet (.source (newSourceMode modeInfo))
        (fun code => some (.os code)) with
    | some status => return status
    | none => addSourceModes modeSet modes

/-- `AddSingleSourceMode` -/
def addSingleSourceMode (a : EnumVidPnCofuncModality) (modeSet : Nat) : VidPnProgram Status :=
  addSourceModes modeSet ((List.range a.modeCount).map a.modeInfo)

/-- The loop of `AddSingleTargetMode`. A mode that cannot be added is passed over, and the entry
of the mode list is the same in each turn. -/
def addTargetModes (modeSet : Nat) (modeInfo : VideoModeInformation) :
    Nat → VidPnProgram Status
  | 0 => return .success
  | turns + 1 => do
    match ← addSingleMode .target modeSet (.target (newTargetMode modeInfo)) (fun _ => none) with
    | some status => return status
    | none => addTargetModes modeSet modeInfo turns

/-- `AddSingleTargetMode` -/
def addSingleTargetMode (a : EnumVidPnCofuncModality) (sourceId modeSet : Nat) :
    VidPnProgram Status :=
  addTargetModes modeSet (a.modeInfo sourceId) a.modeCount

/-! ## Mode sets -/

/-- A mode set is acquired, and its pinned mode if it has one. -/
def acquireModes (kind : ModeKind) (id : Nat) (v : EnumVars) : VidPnProgram (Flow EnumVars) := do
  match ← ask (acquireModeSet kind id) with
  | .error code => return .stop v (.os code)
  | .ok modeSet =>
    let w : ModeSetVars := { v.of kind with modeSet := some modeSet, interface := true }
    match ← ask (acquirePinnedModeInfo kind modeSet) with
    | .error code => return .stop (v.set w kind) (.os code)
    | .ok pinned => return .goOn (v.set { w with pinned } kind)

/-- The release of a mode set. -/
def releaseModes (kind : ModeKind) (v : EnumVars) : VidPnProgram (Flow EnumVars) := do
  let modeSet ← theHandle (v.of kind).modeSet
  match ← ask (releaseModeSet kind modeSet) with
  | .error code => return .stop v (.os code)
  | .ok () => return .goOn (v.set { v.of kind with modeSet := none } kind)

/-- The release of a pinned mode. -/
def releasePinned (kind : ModeKind) (v : EnumVars) : VidPnProgram (Flow EnumVars) := do
  let modeSet ← theHandle (v.of kind).modeSet
  let pinned ← theHandle (v.of kind).pinned
  match ← ask (releaseModeInfo kind modeSet pinned) with
  | .error code => return .stop v (.os code)
  | .ok () => return .goOn (v.set { v.of kind with pinned := none } kind)

/-- A mode set is filled with the modes of the driver and assigned. -/
def fillModes (kind : ModeKind) (id : Nat) (addModes : Nat → VidPnProgram Status)
    (v : EnumVars) : VidPnProgram (Flow EnumVars) := do
  let modeSet ← theHandle (v.of kind).modeSet
  let status ← addModes modeSet
  if status ≠ .success then return .stop v status
  else
    match ← ask (assignModeSet kind id modeSet) with
    | .error code => return .stop v (.os code)
    | .ok () => return .goOn (v.set { v.of kind with modeSet := none } kind)

/-- A new mode set is created and filled. -/
def createModes (kind : ModeKind) (id : Nat) (addModes : Nat → VidPnProgram Status)
    (v : EnumVars) : VidPnProgram (Flow EnumVars) := do
  match ← ask (createNewModeSet kind id) with
  | .error code => return .stop v (.os code)
  | .ok modeSet =>
    fillModes kind id addModes
      (v.set { v.of kind with modeSet := some modeSet, interface := true } kind)

/-- A mode set is released, and a new one takes its place. -/
def replaceModes (kind : ModeKind) (id : Nat) (addModes : Nat → VidPnProgram Status)
    (v : EnumVars) : VidPnProgram (Flow EnumVars) :=
  andThen (releaseModes kind v) (createModes kind id addModes)

/-! ## The loop -/

/-- `*pVidPnPresentPath` -/
def thePath (v : EnumVars) : VidPnProgram VidPnPresentPath := do
  let path ← theHandle v.path
  ask (readPathInfo path)

variable (a : EnumVidPnCofuncModality)

/-- The source modes. -/
def sourceModes (v : EnumVars) : VidPnProgram (Flow EnumVars) := do
  let path ← thePath v
  andThen (acquireModes .source path.vidPnSourceId v) fun v =>
    if ¬(a.enumPivotType = .vidPnSource ∧ a.pivotSourceId = path.vidPnSourceId) then
      if v.source.pinned = none then
        replaceModes .source path.vidPnSourceId (addSingleSourceMode a) v
      else return .goOn v
    else return .goOn v

/-- The target modes. -/
def targetModes (v : EnumVars) : VidPnProgram (Flow EnumVars) := do
  let path ← thePath v
  if ¬(a.enumPivotType = .vidPnTarget ∧ a.pivotTargetId = path.vidPnTargetId) then
    andThen (acquireModes .target path.vidPnTargetId v) fun v =>
      if v.target.pinned = none then
        replaceModes .target path.vidPnTargetId (addSingleTargetMode a path.vidPnSourceId) v
      else andThen (releasePinned .target v) (releaseModes .target)
  else return .goOn v

/-- The release of the pinned source mode and of the source mode set. -/
def releaseSource (v : EnumVars) : VidPnProgram (Flow EnumVars) :=
  andThen (if v.source.pinned ≠ none then releasePinned .source v else return .goOn v) fun v =>
    if v.source.modeSet ≠ none then releaseModes .source v else return .goOn v

def EnumVidPnCofuncModality.isPivotPath (path : VidPnPresentPath) : Prop :=
  a.pivotSourceId = path.vidPnSourceId ∧ a.pivotTargetId = path.vidPnTargetId

instance (path : VidPnPresentPath) : Decidable (a.isPivotPath path) :=
  inferInstanceAs (Decidable (_ ∧ _))

/-- `LocalVidPnPresentPath`, whose support fields are written where the guards let them. -/
def localPath (path : VidPnPresentPath) : LocalPath where
  path := path
  scalingSupport :=
    if ¬(a.enumPivotType = .scaling ∧ a.isPivotPath path) ∧ path.scaling = .unpinned then
      some ⟨true, true, false, false, false⟩
    else none
  rotationSupport :=
    if ¬(a.enumPivotType ≠ .rotation ∧ a.isPivotPath path) ∧ path.rotation = .unpinned then
      some ⟨true, true, false, false⟩
    else none

/-- The support fields. -/
def supportFields (v : EnumVars) : VidPnProgram (Flow EnumVars) := do
  let path ← thePath v
  let localPath := localPath a path
  if localPath.scalingSupport.isSome ∨ localPath.rotationSupport.isSome then
    match ← ask (updatePathSupportInfo localPath) with
    | .error code => return .stop v (.os code)
    | .ok () => return .goOn v
  else return .goOn v

/-- The last path is released. Without a next path the loop ends with success. -/
def releaseLast (next : NextPath) (v : EnumVars) : VidPnProgram (Flow EnumVars) := do
  let last ← theHandle v.pathTemp
  match ← ask (releasePathInfo last) with
  | .error code => return .stop v (.os code)
  | .ok () =>
    let v := { v with pathTemp := none }
    if next = .noMoreElements then return .stop v .success else return .goOn v

/-- The next path is acquired, and then the last one released. -/
def nextPath (v : EnumVars) : VidPnProgram (Flow EnumVars) := do
  let last ← theHandle v.path
  match ← ask (acquireNextPathInfo last) with
  | .error code => return .stop { v with pathTemp := some last } (.os code)
  | .ok next => releaseLast next { v with path := next.handle, pathTemp := some last }

/-- One turn of the loop. -/
def enumPath (v : EnumVars) : VidPnProgram (Flow EnumVars) :=
  andThen (sourceModes a v) fun v =>
    andThen (targetModes a v) fun v =>
      andThen (releaseSource v) fun v =>
        andThen (supportFields a v) nextPath

/-- The loop over the paths, cut off after a number of turns. -/
def enumPaths : Nat → EnumVars → VidPnProgram (EnumVars × Status)
  | 0, _ => .unfinished
  | turns + 1, v => do
    match ← enumPath a v with
    | .goOn v => enumPaths turns v
    | .stop v status => return (v, status)

/-! ## The cleanup -/

/-- Whatever the variables still hold is released. -/
def cleanUp (v : EnumVars) : VidPnProgram Unit := do
  cleanUpPinned .source v.source
  cleanUpPinned .target v.target
  cleanUpPath v.path
  cleanUpPath v.pathTemp
  cleanUpModeSet .source v.source.modeSet
  cleanUpModeSet .target v.target.modeSet

/-- The loop from the first path on: without a path it ends with success. -/
def loopFrom (turns : Nat) (first : NextPath) : VidPnProgram (EnumVars × Status) :=
  if first = .noMoreElements then .done ({ path := first.handle }, .success)
  else enumPaths a turns { path := first.handle }

/-- `EnumVidPnCofuncModality`, with a bound on the turns of its loop. -/
def enumVidPnCofuncModality (turns : Nat) : VidPnProgram Status := do
  match ← ask queryVidPnInterface with
  | .error code => return .os code
  | .ok () =>
    match ← ask getTopology with
    | .error code => return .os code
    | .ok () =>
      match ← ask acquireFirstPathInfo with
      | .error code => return .os code
      | .ok first => do
        let (v, status) ← loopFrom a turns first
        cleanUp v
        return status

end VioGpu.Device
