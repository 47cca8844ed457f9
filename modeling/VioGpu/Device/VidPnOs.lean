import VioGpu.Device.EnumVidPn
import Mathlib.Logic.Function.Basic

/-!
# An OS whose VidPn callbacks succeed

The OS has a topology and, for each source and each target, a mode set. A handle opens a copy of
a mode set, and a new one opens an empty mode set; the VidPn is changed when a mode set is
assigned and when the support fields of a path are updated. Every callback succeeds, and a mode
that is in a mode set already is answered so.
-/

namespace VioGpu.Device

open Lib Program VidPnCall

/-- A mode set: its pinned mode if it has one, and the modes that were added. -/
structure ModeSet where
  pinned : Option Nat
  modes : List NewMode
  deriving DecidableEq, Repr

/-- A change of the VidPn. -/
inductive VidPnChange
  | modeSet (kind : ModeKind) (id : Nat)
  | scalingSupport (sourceId targetId : Nat) (support : ScalingSupport)
  | rotationSupport (sourceId targetId : Nat) (support : RotationSupport)
  deriving DecidableEq, Repr

/-- The support fields that are written in a local copy of a path. -/
def LocalPath.changes (path : LocalPath) : List VidPnChange :=
  (path.scalingSupport.map
    (.scalingSupport path.path.vidPnSourceId path.path.vidPnTargetId)).toList ++
  (path.rotationSupport.map
    (.rotationSupport path.path.vidPnSourceId path.path.vidPnTargetId)).toList

/-- The state of the OS. The pointer to a path is its place in `paths`, and for a topology
without paths the answer is `STATUS_GRAPHICS_DATASET_IS_EMPTY` or, where `datasetIsEmpty` is
`false`, `STATUS_GRAPHICS_NO_MORE_ELEMENTS_IN_DATASET`. -/
structure VidPnOs where
  paths : List VidPnPresentPath
  datasetIsEmpty : Bool
  current : ModeKind → Nat → ModeSet
  opened : Nat → ModeSet
  written : Nat → Option NewMode
  newHandle : Nat
  changes : List VidPnChange

namespace VidPnOs

/-- A path that is not in the topology. -/
def noPath : VidPnPresentPath where
  vidPnSourceId := 0
  vidPnTargetId := 0
  gammaRampType := .uninitialized
  scaling := .uninitialized
  rotation := .uninitialized
  vidPnTargetColorBasis := .uninitialized

/-- A mode set is opened under a new handle. -/
def openSet (os : VidPnOs) (modeSet : ModeSet) : VidPnOs :=
  { os with
    opened := Function.update os.opened os.newHandle modeSet
    newHandle := os.newHandle + 1 }

/-- The mode of a mode info is added to an open mode set. -/
def add (os : VidPnOs) (modeSet modeInfo : Nat) : AddMode × VidPnOs :=
  match os.written modeInfo with
  | none => (.failed 0, os)
  | some mode =>
    let old := os.opened modeSet
    if mode ∈ old.modes then (.alreadyInModeset, os)
    else
      let new : ModeSet := { old with modes := old.modes ++ [mode] }
      (.added, { os with opened := Function.update os.opened modeSet new })

/-- An open mode set is assigned. -/
def assign (os : VidPnOs) (kind : ModeKind) (id modeSet : Nat) : VidPnOs :=
  { os with
    current := Function.update os.current kind
      (Function.update (os.current kind) id (os.opened modeSet))
    changes := os.changes ++ [.modeSet kind id] }

/-- The first path. -/
def first (os : VidPnOs) : NextPath :=
  if os.paths ≠ [] then .path 0
  else if os.datasetIsEmpty then .datasetIsEmpty
  else .noMoreElements

/-- The path after a path. -/
def next (os : VidPnOs) (path : Nat) : NextPath :=
  if path + 1 < os.paths.length then .path (path + 1) else .noMoreElements

/-- The answers. The steps of the driver itself, which are calls for `CommitVidPn` only, succeed
too. -/
def answer (os : VidPnOs) : (c : VidPnCall) → c.Ans × VidPnOs
  | queryVidPnInterface => (.ok (), os)
  | getTopology => (.ok (), os)
  | getNumPaths => (.ok os.paths.length, os)
  | getNumPathsFromSource => (.ok os.paths.length, os)
  | enumPathTargetsFromSource pathIndex => (.ok pathIndex, os)
  | acquireFirstPathInfo => (.ok os.first, os)
  | acquireNextPathInfo path => (.ok (os.next path), os)
  | acquirePathInfo targetId => (.ok targetId, os)
  | readPathInfo path => (os.paths.getD path noPath, os)
  | updatePathSupportInfo path => (.ok (), { os with changes := os.changes ++ path.changes })
  | releasePathInfo _ => (.ok (), os)
  | acquireModeSet kind id => (.ok os.newHandle, os.openSet (os.current kind id))
  | createNewModeSet _ _ => (.ok os.newHandle, os.openSet ⟨none, []⟩)
  | assignModeSet kind id modeSet => (.ok (), os.assign kind id modeSet)
  | releaseModeSet _ _ => (.ok (), os)
  | acquirePinnedModeInfo _ modeSet => (.ok (os.opened modeSet).pinned, os)
  | createNewModeInfo _ _ => (.ok os.newHandle, { os with newHandle := os.newHandle + 1 })
  | writeModeInfo _ modeInfo mode =>
    ((), { os with written := Function.update os.written modeInfo (some mode) })
  | addMode _ modeSet modeInfo => os.add modeSet modeInfo
  | releaseModeInfo _ _ _ => (.ok (), os)
  | releaseFrameBuffer => (.success, os)
  | .isVidPnSourceModeFieldsValid _ => (.success, os)
  | .isVidPnPathFieldsValid _ => (.success, os)
  | setSourceModeAndPath _ _ => (.success, os)

end VidPnOs

end VioGpu.Device
