import VioGpu.Device.Commit
import VioGpu.Lib.Custody

/-!
# The VidPn callbacks

The callbacks of the OS with which the driver reads and changes a VidPn, as calls of a program.
A path, a mode set and a mode info is an object of the OS, known by a handle or a pointer: a
number, and `none` for 0 or `NULL`. A call hands objects to the driver or takes them back. That
the driver reads or writes through a pointer is a call of its own here.
-/

namespace VioGpu.Device

open Lib

/-! ## Modes -/

/-- The two kinds of mode sets of a VidPn. -/
inductive ModeKind
  | source
  | target
  deriving DecidableEq, Repr

/-- `D3DKMDT_VIDPN_SOURCE_MODE` as the driver fills it in, with `Stride`. -/
structure NewSourceMode extends VidPnSourceMode where
  stride : Nat
  deriving DecidableEq, Repr

/-- `D3DKMDT_VIDEO_SIGNAL_STANDARD` -/
inductive VideoStandard
  | uninitialized
  | other
  deriving DecidableEq, Repr

/-- A `D3DDDI_RATIONAL`, or `D3DKMDT_FREQUENCY_NOTSPECIFIED` in both its parts. -/
inductive Frequency
  | notSpecified
  | ratio (numerator denominator : Nat)
  deriving DecidableEq, Repr

/-- `D3DDDI_VIDEO_SIGNAL_SCANLINE_ORDERING` -/
inductive ScanLineOrdering
  | uninitialized
  | progressive
  | interlaced
  deriving DecidableEq, Repr

/-- `D3DKMDT_MODE_PREFERENCE` -/
inductive ModePreference
  | uninitialized
  | preferred
  | notPreferred
  deriving DecidableEq, Repr

/-- `D3DKMDT_VIDPN_TARGET_MODE` with its `VideoSignalInfo`. A `pixelRate` of `none` is
`D3DKMDT_FREQUENCY_NOTSPECIFIED`. -/
structure VidPnTargetMode where
  videoStandard : VideoStandard
  totalSize : Region
  activeSize : Region
  vSyncFreq : Frequency
  hSyncFreq : Frequency
  pixelRate : Option Nat
  scanLineOrdering : ScanLineOrdering
  preference : ModePreference
  deriving DecidableEq, Repr

/-- What a mode info holds. -/
inductive NewMode
  | source (mode : NewSourceMode)
  | target (mode : VidPnTargetMode)
  deriving DecidableEq, Repr

/-- The width and the height. -/
def NewMode.size : NewMode → Region
  | .source mode => mode.primSurfSize
  | .target mode => mode.totalSize

/-! ## Paths -/

/-- `D3DKMDT_VIDPN_PRESENT_PATH_SCALING_SUPPORT` -/
structure ScalingSupport where
  identity : Bool
  centered : Bool
  stretched : Bool
  aspectRatioCenteredMax : Bool
  custom : Bool
  deriving DecidableEq, Repr

/-- The bits of `D3DKMDT_VIDPN_PRESENT_PATH_ROTATION_SUPPORT` that the driver writes. -/
structure RotationSupport where
  identity : Bool
  rotate90 : Bool
  rotate180 : Bool
  rotate270 : Bool
  deriving DecidableEq, Repr

/-- A local copy of a path: a support field is `none` where it is as it was copied. -/
structure LocalPath where
  path : VidPnPresentPath
  scalingSupport : Option ScalingSupport
  rotationSupport : Option RotationSupport
  deriving DecidableEq, Repr

/-! ## Calls -/

/-- What the OS answers, with success, where a path is to be acquired. -/
inductive NextPath
  | path (path : Nat)
  | noMoreElements
  | datasetIsEmpty
  deriving DecidableEq, Repr

def NextPath.handle : NextPath → Option Nat
  | .path p => some p
  | .noMoreElements => none
  | .datasetIsEmpty => none

/-- The answers of `pfnAddMode`. -/
inductive AddMode
  | added
  | alreadyInModeset
  | failed (code : Nat)
  deriving DecidableEq, Repr

/-- The calls. The last four are steps of the driver itself, for `CommitVidPn`. -/
inductive VidPnCall
  | queryVidPnInterface
  | getTopology
  | getNumPaths
  | getNumPathsFromSource
  | enumPathTargetsFromSource (pathIndex : Nat)
  | acquireFirstPathInfo
  | acquireNextPathInfo (path : Nat)
  | acquirePathInfo (targetId : Nat)
  | readPathInfo (path : Nat)
  | updatePathSupportInfo (path : LocalPath)
  | releasePathInfo (path : Nat)
  | acquireModeSet (kind : ModeKind) (id : Nat)
  | createNewModeSet (kind : ModeKind) (id : Nat)
  | assignModeSet (kind : ModeKind) (id modeSet : Nat)
  | releaseModeSet (kind : ModeKind) (modeSet : Nat)
  | acquirePinnedModeInfo (kind : ModeKind) (modeSet : Nat)
  | createNewModeInfo (kind : ModeKind) (modeSet : Nat)
  | writeModeInfo (kind : ModeKind) (modeInfo : Nat) (mode : NewMode)
  | addMode (kind : ModeKind) (modeSet modeInfo : Nat)
  | releaseModeInfo (kind : ModeKind) (modeSet modeInfo : Nat)
  | releaseFrameBuffer
  | isVidPnSourceModeFieldsValid (modeInfo : Nat)
  | isVidPnPathFieldsValid (path : Nat)
  | setSourceModeAndPath (modeInfo path : Nat)

namespace VidPnCall

/-- The answers to a call: an `error` with a code, or what comes with success. -/
@[reducible] def Ans : VidPnCall → Type
  | queryVidPnInterface => Except Nat Unit
  | getTopology => Except Nat Unit
  | getNumPaths => Except Nat Nat
  | getNumPathsFromSource => Except Nat Nat
  | enumPathTargetsFromSource _ => Except Nat Nat
  | acquireFirstPathInfo => Except Nat NextPath
  | acquireNextPathInfo _ => Except Nat NextPath
  | acquirePathInfo _ => Except Nat Nat
  | readPathInfo _ => VidPnPresentPath
  | updatePathSupportInfo _ => Except Nat Unit
  | releasePathInfo _ => Except Nat Unit
  | acquireModeSet _ _ => Except Nat Nat
  | createNewModeSet _ _ => Except Nat Nat
  | assignModeSet _ _ _ => Except Nat Unit
  | releaseModeSet _ _ => Except Nat Unit
  | acquirePinnedModeInfo _ _ => Except Nat (Option Nat)
  | createNewModeInfo _ _ => Except Nat Nat
  | writeModeInfo _ _ _ => Unit
  | addMode _ _ _ => AddMode
  | releaseModeInfo _ _ _ => Except Nat Unit
  | releaseFrameBuffer => Status
  | isVidPnSourceModeFieldsValid _ => Status
  | isVidPnPathFieldsValid _ => Status
  | setSourceModeAndPath _ _ => Status

end VidPnCall

/-- A program of the driver that calls the OS. -/
abbrev VidPnProgram (α : Type) := Program VidPnCall VidPnCall.Ans α

/-! ## Objects -/

inductive VidPnObject
  | path (handle : Nat)
  | modeSet (kind : ModeKind) (handle : Nat)
  | modeInfo (kind : ModeKind) (handle : Nat)
  deriving DecidableEq, Repr

open VidPnObject in
/-- What a call does to objects. A mode set that is assigned, and a mode info that is added, is
given away. -/
def VidPnCall.deeds : (c : VidPnCall) → c.Ans → List (Deed VidPnObject)
  | acquireFirstPathInfo, Except.ok (.path p) => [.acquire (path p)]
  | acquireNextPathInfo prev, Except.ok (.path p) => [.use (path prev), .acquire (path p)]
  | acquireNextPathInfo prev, _ => [.use (path prev)]
  | acquirePathInfo _, Except.ok p => [.acquire (path p)]
  | readPathInfo p, _ => [.use (path p)]
  | releasePathInfo p, Except.ok _ => [.release (path p) true]
  | releasePathInfo p, Except.error _ => [.release (path p) false]
  | acquireModeSet kind _, Except.ok s => [.acquire (modeSet kind s)]
  | createNewModeSet kind _, Except.ok s => [.acquire (modeSet kind s)]
  | assignModeSet kind _ s, Except.ok _ => [.release (modeSet kind s) true]
  | assignModeSet kind _ s, Except.error _ => [.use (modeSet kind s)]
  | releaseModeSet kind s, Except.ok _ => [.release (modeSet kind s) true]
  | releaseModeSet kind s, Except.error _ => [.release (modeSet kind s) false]
  | acquirePinnedModeInfo kind s, Except.ok (some i) =>
    [.use (modeSet kind s), .acquire (modeInfo kind i)]
  | acquirePinnedModeInfo kind s, _ => [.use (modeSet kind s)]
  | createNewModeInfo kind s, Except.ok i => [.use (modeSet kind s), .acquire (modeInfo kind i)]
  | createNewModeInfo kind s, Except.error _ => [.use (modeSet kind s)]
  | writeModeInfo kind i _, _ => [.use (modeInfo kind i)]
  | addMode kind s i, AddMode.added =>
    [.use (modeSet kind s), .release (modeInfo kind i) true]
  | addMode kind s i, _ => [.use (modeSet kind s), .use (modeInfo kind i)]
  | releaseModeInfo kind s i, Except.ok _ =>
    [.use (modeSet kind s), .release (modeInfo kind i) true]
  | releaseModeInfo kind s i, Except.error _ =>
    [.use (modeSet kind s), .release (modeInfo kind i) false]
  | isVidPnSourceModeFieldsValid i, _ => [.use (modeInfo .source i)]
  | isVidPnPathFieldsValid p, _ => [.use (path p)]
  | setSourceModeAndPath i p, _ => [.use (modeInfo .source i), .use (path p)]
  | _, _ => []

def vidPnDeeds (e : Answered VidPnCall VidPnCall.Ans) : List (Deed VidPnObject) :=
  e.call.deeds e.answer

/-- No access goes wrong, only objects that are held are used and given back, and at the return
none is left but for those that could not be released. -/
def InCustody (events : List (Answered VidPnCall VidPnCall.Ans)) (outcome : Outcome Status) :
    Prop :=
  outcome ≠ .fault ∧ ∃ m, Program.custody vidPnDeeds events = some m ∧
    ∀ status, outcome = .done status → m.Settled

end VioGpu.Device
