import VioGpu.Device.Commit

/-!
# The table of the modes (`GetModeList` and `SetCustomDisplay`)

`HWInit` starts the worker thread and fills the table of the modes after that, in `GetModeList`. On
a display event of the host the worker calls `SetCustomDisplay`, which writes one of the two custom
entries at the end of the table, as `GetModeList` itself does at its end. The two threads take turns
between any two accesses to `m_ModeInfo`, `m_ModeCount` and `m_CustomMode`.
-/

namespace VioGpu.Device

open Lib

/-- `VIDEO_MODE_INFORMATION`, as far as the driver reads it. -/
structure ModeEntry where
  modeIndex : Nat
  visScreenWidth : Nat
  visScreenHeight : Nat
  screenStride : Nat
  deriving DecidableEq, Repr

/-- `GPU_DISP_MODE` -/
structure GpuDispMode where
  xResolution : Nat
  yResolution : Nat
  bits : Nat
  deriving DecidableEq, Repr

/-- `VGPU_BPP` -/
def vgpuBpp : Nat := 32

/-- `gpu_disp_modes` -/
def gpuDispModes : List GpuDispMode :=
  [⟨1024, 768, vgpuBpp⟩, ⟨1280, 1024, vgpuBpp⟩, ⟨1920, 1080, vgpuBpp⟩, ⟨2560, 1600, vgpuBpp⟩]

/-- `ModeCount` of `GetModeList`: the number of entries that it allocates. -/
def allocatedModes : Nat := gpuDispModes.length + 2

/-- A pointer to an array. -/
inductive ArrayPtr (α : Type)
  | null
  | freed
  | array (xs : List α)

/-- `m_ModeInfo`, `m_ModeNumbers`, `m_ModeCount`, `m_CurrentMode` and `m_CustomMode`. -/
structure ModeTable where
  modeInfo : ArrayPtr ModeEntry
  modeNumbers : ArrayPtr Nat
  modeCount : Nat
  currentMode : Nat
  customMode : Nat

/-- `delete []`; a second `delete []` of the same array has no state. -/
def ArrayPtr.delete {α : Type} : ArrayPtr α → Option (ArrayPtr α)
  | .null => some .null
  | .freed => none
  | .array _ => some .freed

/-- A write through the pointer. -/
def ArrayPtr.write {α : Type} (p : ArrayPtr α) (i : Nat) (x : α) : Option (ArrayPtr α) :=
  match p with
  | .null | .freed => none
  | .array xs => if i < xs.length then some (.array (xs.set i x)) else none

/-- A read through the pointer. -/
def ArrayPtr.read {α : Type} (p : ArrayPtr α) (i : Nat) : Option α :=
  match p with
  | .null | .freed => none
  | .array xs => xs[i]?

namespace ModeTable

/-- `SetVideoModeInfo` -/
def setVideoModeInfo (t : ModeTable) (idx : Nat) (mode : GpuDispMode) : Option ModeTable := do
  let modeInfo ← t.modeInfo.write idx
    { modeIndex := idx
      visScreenWidth := mode.xResolution
      visScreenHeight := mode.yResolution
      screenStride := u32 (mode.xResolution * ((vgpuBpp + 7) / 8) + 3) / 4 * 4 }
  some { t with modeInfo }

/-- The size that `SetCustomDisplay` sets for the one it is called with. -/
def customSize (xres yres : Nat) : GpuDispMode :=
  ⟨max minSize.cx xres, max minSize.cy yres, vgpuBpp⟩

/-- `m_CustomMode == m_ModeCount - 1` -/
def lastIsCustom (t : ModeTable) : Bool := t.customMode = sub32 t.modeCount 1

/-- The new `m_CustomMode`. -/
def nextCustomMode (t : ModeTable) (last : Bool) : Nat :=
  u16 (if last then sub32 t.modeCount 2 else sub32 t.modeCount 1)

/-- `SetCustomDisplay` -/
def setCustomDisplay (t : ModeTable) (xres yres : Nat) : Option ModeTable :=
  let t := { t with customMode := t.nextCustomMode t.lastIsCustom }
  t.setVideoModeInfo t.customMode (customSize xres yres)

/-- The mode list that `GetModeCount`, `GetModeInfo` and `GetModeNumber` give. -/
def modes (t : ModeTable) : List VideoModeInformation :=
  match t.modeInfo, t.modeNumbers with
  | .array entries, .array numbers =>
    (entries.zipWith (fun e n => ⟨n, e.visScreenWidth, e.visScreenHeight, e.screenStride⟩)
      numbers).take t.modeCount
  | _, _ => []

/-- The state after the constructor, which does not set `m_CustomMode`. -/
def new (customMode : Nat) : ModeTable where
  modeInfo := .null
  modeNumbers := .null
  modeCount := 0
  currentMode := 0
  customMode := customMode

end ModeTable

/-! ## The two threads -/

/-- Where a thread is in `SetCustomDisplay`, with the size it was called with. -/
inductive CustomPc
  /-- not in it -/
  | idle
  | compare (xres yres : Nat)
  | assign (last : Bool) (xres yres : Nat)
  | load (xres yres : Nat)
  | write (i xres yres : Nat)
  deriving DecidableEq, Repr

/-- One access in `SetCustomDisplay`. -/
def CustomPc.step (t : ModeTable) : CustomPc → Option (CustomPc × ModeTable)
  | .idle => none
  | .compare xres yres => some (.assign t.lastIsCustom xres yres, t)
  | .assign last xres yres => some (.load xres yres, { t with customMode := t.nextCustomMode last })
  | .load xres yres => some (.write t.customMode xres yres, t)
  | .write i xres yres => (.idle, ·) <$> t.setVideoModeInfo i (ModeTable.customSize xres yres)

/-- `GetDisplayInfo` after the answer of the host. -/
def CustomPc.displayInfo (xres yres : Nat) : CustomPc :=
  if xres ≠ 0 ∧ yres ≠ 0 then .compare (u16 xres) (u16 yres) else .idle

/-- Where the main thread is in `GetModeList`. `suitable` is `SuitableModeCount`. -/
inductive MainPc
  | deleteModeInfo
  | deleteModeNumbers
  | clearModeInfo
  | clearModeNumbers
  | allocModeInfo
  | allocModeNumbers
  | resetCurrentMode
  | fill (k suitable : Nat)
  | setCustomMode (suitable : Nat)
  | copy (suitable k : Nat)
  | setModeCount (suitable : Nat)
  | getDisplayInfo (status : Status)
  | custom (pc : CustomPc) (status : Status)
  | returned (status : Status)
  deriving DecidableEq, Repr

/-- The width and height a mode must have at least. -/
def leastSize (pDispInfo : DispInfo) : Region :=
  if pDispInfo.width = 0 ∨ pDispInfo.height = 0 ∨
    bppFromPixelFormat pDispInfo.colorFormat ≠ vgpuBpp then minSize
  else ⟨pDispInfo.width, pDispInfo.height⟩

/-- One turn of the loop over `gpu_disp_modes`. -/
def ModeTable.fillMode (t : ModeTable) (pDispInfo : DispInfo) (k suitable : Nat) :
    Option (MainPc × ModeTable) := do
  let mode ← gpuDispModes[k]?
  if mode.xResolution ≥ (leastSize pDispInfo).cx ∧ mode.yResolution ≥ (leastSize pDispInfo).cy ∧
      mode.bits = vgpuBpp then do
    let modeNumbers ← t.modeNumbers.write suitable suitable
    let t ← { t with modeNumbers }.setVideoModeInfo suitable mode
    let currentMode :=
      if mode.xResolution = minSize.cx ∧ mode.yResolution = minSize.cy then suitable
      else t.currentMode
    some (.fill (k + 1) (suitable + 1), { t with currentMode })
  else some (.fill (k + 1) suitable, t)

/-- One turn of the loop over the custom entries. -/
def ModeTable.copyMode (t : ModeTable) (k : Nat) : Option ModeTable := do
  let modeNumbers ← t.modeNumbers.write k k
  let entry ← t.modeInfo.read t.currentMode
  let modeInfo ← t.modeInfo.write k entry
  some { t with modeNumbers, modeInfo }

/-- One step of `GetModeList`: `allocated` tells whether an allocation succeeds, and `xres` and
`yres` are the answer of the host at its end. The new arrays are zeroed. -/
def MainPc.step (pDispInfo : DispInfo) (t : ModeTable) (allocated : Bool) (xres yres : Nat) :
    MainPc → Option (MainPc × ModeTable)
  | .deleteModeInfo => do
    let modeInfo ← t.modeInfo.delete
    some (.deleteModeNumbers, { t with modeInfo })
  | .deleteModeNumbers => do
    let modeNumbers ← t.modeNumbers.delete
    some (.clearModeInfo, { t with modeNumbers })
  | .clearModeInfo => some (.clearModeNumbers, { t with modeInfo := .null })
  | .clearModeNumbers => some (.allocModeInfo, { t with modeNumbers := .null })
  | .allocModeInfo =>
    if allocated then
      some (.allocModeNumbers,
        { t with modeInfo := .array (.replicate allocatedModes ⟨0, 0, 0, 0⟩) })
    else some (.returned .noMemory, t)
  | .allocModeNumbers =>
    if allocated then
      some (.resetCurrentMode, { t with modeNumbers := .array (.replicate allocatedModes 0) })
    else some (.returned .noMemory, t)
  | .resetCurrentMode => some (.fill 0 0, { t with currentMode := 0 })
  | .fill k suitable =>
    if k < allocatedModes - 2 then t.fillMode pDispInfo k suitable
    else some (.setCustomMode suitable, t)
  | .setCustomMode suitable => some (.copy suitable suitable, { t with customMode := suitable })
  | .copy suitable k =>
    if k < suitable + 2 then (.copy suitable (k + 1), ·) <$> t.copyMode k
    else some (.setModeCount suitable, t)
  | .setModeCount suitable =>
    some (.getDisplayInfo (if suitable = 0 then .unsuccessful else .success),
      { t with modeCount := suitable + 2 })
  | .getDisplayInfo status => some (.custom (.displayInfo xres yres) status, t)
  | .custom .idle status => some (.returned status, t)
  | .custom pc status => (fun r => (.custom r.1 status, r.2)) <$> pc.step t
  | .returned _ => none

/-- The table and the two threads. -/
structure HwInit where
  table : ModeTable
  main : MainPc
  worker : CustomPc

/-- A step of `GetModeList`, an answer of the host to the worker, or an access of the worker. -/
inductive HwInitEvent
  | main (allocated : Bool) (xres yres : Nat)
  | displayInfo (xres yres : Nat)
  | worker

/-- `HWInit` from the creation of the worker thread on. -/
def HwInit.system (pDispInfo : DispInfo) (customMode : Nat) : System HwInit HwInitEvent where
  init := ⟨.new customMode, .deleteModeInfo, .idle⟩
  step s
    | .main allocated xres yres =>
      (fun r => { s with main := r.1, table := r.2 }) <$>
        s.main.step pDispInfo s.table allocated xres yres
    | .displayInfo xres yres =>
      if s.worker = .idle then some { s with worker := .displayInfo xres yres } else none
    | .worker => (fun r => { s with worker := r.1, table := r.2 }) <$> s.worker.step s.table

end VioGpu.Device
