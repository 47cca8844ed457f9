import VioGpu.Device.ModeList
import VioGpu.Lib.Program
import VioGpu.Lib.Readings

/-!
# The modes of the BIOS (`VgaDevice::GetModeList`)

`GetModeList` asks the BIOS for its list of mode numbers and goes through it twice: it counts the
modes and allocates its tables, and then it asks for the information about each mode and fills the
tables with the modes that are large enough. Every call of the BIOS can fail, and what it reads can
be anything; a read that fails leaves the variable it reads into as it is.
-/

namespace VioGpu.Device

open Lib Program

/-! ## What the BIOS answers -/

/-- `VBE_INFO`, as far as the driver reads it. -/
structure VbeInfo where
  signature : List (BitVec 8)
  videoModePtr : BitVec 32
  deriving DecidableEq, Repr

/-- `VBE_MODEINFO`, as far as the driver reads it. -/
structure VbeModeInfo where
  xResolution : BitVec 16
  yResolution : BitVec 16
  numberOfPlanes : BitVec 8
  bitsPerPixel : BitVec 8
  physBasePtr : BitVec 32
  linBytesPerScanLine : BitVec 16
  linRedMaskSize : BitVec 8
  linRedFieldPosition : BitVec 8
  linGreenMaskSize : BitVec 8
  linGreenFieldPosition : BitVec 8
  linBlueMaskSize : BitVec 8
  linBlueFieldPosition : BitVec 8
  deriving DecidableEq, Repr

/-- `X86BIOS_REGISTERS`, as far as `GetModeList` sets them; the others are 0. -/
structure BiosRegisters where
  eax : BitVec 32
  ecx : BitVec 32
  edi : BitVec 32
  segEs : BitVec 16
  deriving DecidableEq, Repr

/-- The calls of the BIOS, and the allocation of a table. -/
inductive BiosCall
  | allocateBuffer (length : Nat)
  | freeBuffer (segment offset : BitVec 16)
  | writeMemory (segment offset : BitVec 16) (bytes : List (BitVec 8))
  | x86BiosCall (regs : BiosRegisters)
  | readInfo (segment offset : BitVec 16)
  | readModeNumber (segment offset : BitVec 16)
  | readModeInfo (segment offset : BitVec 16)
  | newTable (entries : Nat)
  deriving DecidableEq

/-- An error is the code of a status that is no success. -/
@[reducible] def BiosCall.Ans : BiosCall → Type
  | allocateBuffer _ => Except Nat (BitVec 16 × BitVec 16)
  | freeBuffer _ _ => Unit
  | writeMemory _ _ _ => Except Nat Unit
  | x86BiosCall _ => Bool
  | readInfo _ _ => Except Nat VbeInfo
  | readModeNumber _ _ => Except Nat (BitVec 16)
  | readModeInfo _ _ => Except Nat VbeModeInfo
  | newTable _ => Bool

abbrev BiosProgram := Program BiosCall BiosCall.Ans

open BiosCall

/-- An access that may be none. -/
def accessed {α : Type} : Option α → BiosProgram α
  | some a => .done a
  | none => .fault

/-! ## The tables -/

/-- `VIDEO_MODE_INFORMATION`, without the fields that are the same for all modes. -/
structure VgaModeEntry where
  modeIndex : Nat
  visScreenWidth : Nat
  visScreenHeight : Nat
  screenStride : Nat
  numberOfPlanes : Nat
  bitsPerPlane : Nat
  xMillimeter : Nat
  yMillimeter : Nat
  numberRedBits : Nat
  numberGreenBits : Nat
  numberBlueBits : Nat
  redMask : BitVec 32
  greenMask : BitVec 32
  blueMask : BitVec 32
  deriving DecidableEq, Repr

/-- An entry that is all zeros. -/
def VgaModeEntry.zero : VgaModeEntry := ⟨0, 0, 0, 0, 0, 0, 0, 0, 0, 0, 0, 0, 0, 0⟩

/-- `((1 << MaskSize) - 1) << FieldPosition`. The processor takes the count of a shift modulo
32. -/
def fieldMask (maskSize fieldPosition : BitVec 8) : BitVec 32 :=
  ((1 <<< (maskSize.toNat % 32)) - 1) <<< (fieldPosition.toNat % 32)

/-- `SetVideoModeInfo`: what it puts in entry `idx`. It divides by the number of planes. -/
def videoModeInfo (idx : Nat) (info : VbeModeInfo) : Option VgaModeEntry :=
  if info.numberOfPlanes = 0 then none
  else some
    { modeIndex := idx
      visScreenWidth := info.xResolution.toNat
      visScreenHeight := info.yResolution.toNat
      screenStride := info.linBytesPerScanLine.toNat
      numberOfPlanes := info.numberOfPlanes.toNat
      bitsPerPlane :=
        if info.bitsPerPixel = 15 ∧ info.numberOfPlanes = 1 then 16
        else info.bitsPerPixel.toNat / info.numberOfPlanes.toNat
      xMillimeter := info.xResolution.toNat * 254 / 720
      yMillimeter := info.yResolution.toNat * 254 / 720
      numberRedBits := info.linRedMaskSize.toNat
      numberGreenBits := info.linGreenMaskSize.toNat
      numberBlueBits := info.linBlueMaskSize.toNat
      redMask := fieldMask info.linRedMaskSize info.linRedFieldPosition
      greenMask := fieldMask info.linGreenMaskSize info.linGreenFieldPosition
      blueMask := fieldMask info.linBlueMaskSize info.linBlueFieldPosition }

/-- `m_ModeInfo`, `m_ModeNumbers`, `m_ModeCount` and `m_CurrentMode`. -/
structure VgaModes where
  modeInfo : ArrayPtr VgaModeEntry
  modeNumbers : ArrayPtr (BitVec 16)
  modeCount : Nat
  currentMode : Nat

/-! ## The two passes -/

/-- `VGA_BPP` -/
def vgaBpp : Nat := 32

/-- `Width`, `Height` and `BitsPerPixel`. -/
structure ModeFilter where
  width : Nat
  height : Nat
  bitsPerPixel : Nat
  deriving DecidableEq, Repr

def modeFilter (pDispInfo : DispInfo) : ModeFilter :=
  let bitsPerPixel := bppFromPixelFormat pDispInfo.colorFormat
  if pDispInfo.width = 0 ∨ pDispInfo.height = 0 ∨ bitsPerPixel ≠ vgaBpp then
    ⟨minSize.cx, minSize.cy, vgaBpp⟩
  else ⟨pDispInfo.width, pDispInfo.height, bitsPerPixel⟩

/-- The mode is large enough, has the right depth and a base address. -/
def ModeFilter.Suits (f : ModeFilter) (info : VbeModeInfo) : Prop :=
  info.xResolution.toNat ≥ f.width ∧ info.yResolution.toNat ≥ f.height ∧
    info.bitsPerPixel.toNat = f.bitsPerPixel ∧ info.physBasePtr ≠ 0

instance (f : ModeFilter) : DecidablePred f.Suits :=
  fun _ => inferInstanceAs (Decidable (_ ∧ _))

/-- `HIWORD(VbeInfo.VideoModePtr)` -/
def listSegment (ptr : BitVec 32) : BitVec 16 := (ptr >>> 16).setWidth 16

/-- `LOWORD(VbeInfo.VideoModePtr) + (ModeCount << 1)` -/
def listOffset (ptr : BitVec 32) (mode : BitVec 16) : BitVec 16 :=
  ptr.setWidth 16 + mode <<< 1

/-- The loop that counts the modes, followed for `fuel` turns: `ModeCount` and `Status`. -/
def countModes (ptr : BitVec 32) : Nat → BitVec 16 → BiosProgram (BitVec 16 × Status)
  | 0, _ => .unfinished
  | fuel + 1, modeCount => do
    match ← ask (readModeNumber (listSegment ptr) (listOffset ptr modeCount)) with
    | .error code => return (modeCount, .os code)
    | .ok modeTemp =>
      if modeTemp = 0xFFFF ∨ modeTemp = 0 then return (modeCount, .success)
      else countModes ptr fuel (modeCount + 1)

/-- The variables of the second loop. `suitable` is `SuitableModeCount`. -/
structure FilterVars where
  modes : VgaModes
  suitable : Nat
  tmpModeInfo : VbeModeInfo
  status : Status

/-- The end of a turn: the mode is put into the tables if it passes the filter. -/
def FilterVars.addMode (v : FilterVars) (f : ModeFilter) (modeTemp : BitVec 16) :
    Option FilterVars :=
  if f.Suits v.tmpModeInfo then do
    let modeNumbers ← v.modes.modeNumbers.write v.suitable modeTemp
    let entry ← videoModeInfo v.suitable v.tmpModeInfo
    let modeInfo ← v.modes.modeInfo.write v.suitable entry
    let currentMode :=
      if v.tmpModeInfo.xResolution.toNat = minSize.cx ∧
        v.tmpModeInfo.yResolution.toNat = minSize.cy then u16 v.suitable
      else v.modes.currentMode
    some { v with
      modes := { v.modes with modeInfo, modeNumbers, currentMode }
      suitable := v.suitable + 1 }
  else some v

/-- `x86BiosReadMemory` into `tmpModeInfo` -/
def FilterVars.readInto (v : FilterVars) : Except Nat VbeModeInfo → FilterVars
  | .ok info => { v with tmpModeInfo := info, status := .success }
  | .error code => { v with status := .os code }

/-- `sizeof(VBE_INFO)` -/
def vbeInfoSize : Nat := 256

/-- The second loop, with `n` modes left: `false` where it returns from the function. `segment` and
`offset` are `m_Segment` and `m_Offset`. -/
def filterModes (ptr : BitVec 32) (segment offset : BitVec 16) (f : ModeFilter) :
    Nat → BitVec 16 → FilterVars → BiosProgram (Bool × FilterVars)
  | 0, _, v => return (true, v)
  | n + 1, currentMode, v => do
    match ← ask (readModeNumber (listSegment ptr) (listOffset ptr currentMode)) with
    | .error code => return (true, { v with status := .os code })
    | .ok modeTemp => do
      let regs : BiosRegisters :=
        { eax := 0x4F01
          ecx := modeTemp.setWidth 32
          edi := offset.setWidth 32 + BitVec.ofNat 32 vbeInfoSize
          segEs := segment }
      match ← ask (x86BiosCall regs) with
      | false => return (false, v)
      | true => do
        let answer ← ask (readModeInfo segment (offset + BitVec.ofNat 16 vbeInfoSize))
        let v ← accessed ((v.readInto answer).addMode f modeTemp)
        filterModes ptr segment offset f n (currentMode + 1) v

/-! ## `GetModeList` -/

/-- `"VBE2"` -/
def vbe2 : List (BitVec 8) := [0x56, 0x42, 0x45, 0x32]

/-- `"VESA"` -/
def vesa : List (BitVec 8) := [0x56, 0x45, 0x53, 0x41]

/-- The part before the two passes: `m_Segment`, `m_Offset` and `VbeInfo`, or the status that is
returned. -/
def getVbeInfo : BiosProgram (Except Status ((BitVec 16 × BitVec 16) × VbeInfo)) := do
  match ← ask (allocateBuffer 0x400) with
  | .error code => return .error (.os code)
  | .ok (segment, offset) =>
    match ← ask (writeMemory segment offset vbe2) with
    | .error code => return .error (.os code)
    | .ok () =>
      match ← ask (x86BiosCall ⟨0x4F00, 0, offset.setWidth 32, segment⟩) with
      | false => return .error .unsuccessful
      | true =>
        match ← ask (readInfo segment offset) with
        | .error code => return .error (.os code)
        | .ok info =>
          if info.signature ≠ vesa then return .error .unsuccessful
          else return .ok ((segment, offset), info)

/-- The part between the passes: the new tables, or `STATUS_NO_MEMORY` with the state that is
left. -/
def allocateTables (modes : VgaModes) (modeCount : Nat) :
    BiosProgram (Except VgaModes VgaModes) := do
  let _ ← accessed modes.modeInfo.delete
  let _ ← accessed modes.modeNumbers.delete
  let modes := { modes with modeInfo := .null, modeNumbers := .null }
  match ← ask (newTable modeCount) with
  | false => return .error modes
  | true =>
    let modes := { modes with modeInfo := .array (.replicate modeCount .zero) }
    match ← ask (newTable modeCount) with
    | false => return .error modes
    | true =>
      return .ok { modes with modeNumbers := .array (.replicate modeCount 0), currentMode := 0 }

/-- The part after the passes. -/
def finish (segment offset : BitVec 16) (v : FilterVars) : BiosProgram (Status × VgaModes) := do
  let status := if v.suitable = 0 then .unsuccessful else v.status
  let modes := { v.modes with modeCount := v.suitable }
  if segment = 0 then return (status, modes)
  else do
    let () ← ask (freeBuffer segment offset)
    return (status, modes)

/-- `GetModeList`. `tmpModeInfo` is what is in the variable before it is read into. -/
def getModeList (pDispInfo : DispInfo) (fuel : Nat) (tmpModeInfo : VbeModeInfo) (modes : VgaModes) :
    BiosProgram (Status × VgaModes) := do
  match ← getVbeInfo with
  | .error status => return (status, modes)
  | .ok ((segment, offset), info) => do
    let (modeCount, status) ← countModes info.videoModePtr fuel 0
    match ← allocateTables modes modeCount.toNat with
    | .error modes => return (.noMemory, modes)
    | .ok modes =>
      match ← filterModes info.videoModePtr segment offset (modeFilter pDispInfo) modeCount.toNat 0
          ⟨modes, 0, tmpModeInfo, status⟩ with
      | (false, v) => return (.unsuccessful, v.modes)
      | (true, v) => finish segment offset v

end VioGpu.Device
