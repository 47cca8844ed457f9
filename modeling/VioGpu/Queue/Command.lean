import Mathlib.Tactic.Common

/-!
# GPU commands (`viogpu.h`)

The commands the driver puts on the control queue and on the cursor queue, with the fields
the command functions of `viogpu_queue.cpp` set and with the sizes of their structures.
-/

namespace VioGpu.Queue

/-- `GPU_MEM_ENTRY` -/
structure MemEntry where
  addr : Nat
  length : Nat
  deriving DecidableEq, Repr

/-- The commands of the control queue. -/
inductive CtrlCommand
  | getDisplayInfo
  | resourceCreate2d (resourceId format width height : Nat)
  | resourceUnref (resourceId : Nat)
  | setScanout (scanoutId resourceId width height x y : Nat)
  | resourceFlush (resourceId width height x y : Nat)
  | transferToHost2d (resourceId offset width height x y : Nat)
  | resourceAttachBacking (resourceId : Nat) (ents : List MemEntry)
  | resourceDetachBacking (resourceId : Nat)
  deriving DecidableEq, Repr

/-- The commands of the cursor queue. -/
inductive CursorCommand
  | updateCursor (resourceId x y hotX hotY : Nat)
  | moveCursor (resourceId x y : Nat)
  deriving DecidableEq, Repr

inductive Command
  | ctrl (c : CtrlCommand)
  | cursor (c : CursorCommand)
  deriving DecidableEq, Repr

/-! ## Sizes -/

/-- `sizeof(GPU_CTRL_HDR)` -/
def ctrlHdrSize : Nat := 24

/-- `sizeof(GPU_RESP_DISP_INFO)`: the header and 16 entries `GPU_DISP_ONE`. -/
def respDispInfoSize : Nat := ctrlHdrSize + 16 * 24

/-- `sizeof(GPU_MEM_ENTRY)` -/
def memEntrySize : Nat := 16

/-- The size of the command's structure. -/
def CtrlCommand.size : CtrlCommand → Nat
  | .getDisplayInfo => ctrlHdrSize
  | .resourceCreate2d .. => ctrlHdrSize + 16
  | .resourceUnref .. => ctrlHdrSize + 8
  | .setScanout .. => ctrlHdrSize + 24
  | .resourceFlush .. => ctrlHdrSize + 24
  | .transferToHost2d .. => ctrlHdrSize + 32
  | .resourceAttachBacking .. => ctrlHdrSize + 8
  | .resourceDetachBacking .. => ctrlHdrSize + 8

/-- `sizeof(GPU_UPDATE_CURSOR)` -/
def cursorCommandSize : Nat := ctrlHdrSize + 32

/-- The resource a command names, if it names one. -/
def CtrlCommand.resourceId? : CtrlCommand → Option Nat
  | .getDisplayInfo => none
  | .resourceCreate2d r .. | .resourceUnref r | .setScanout _ r .. | .resourceFlush r ..
  | .transferToHost2d r .. | .resourceAttachBacking r _ | .resourceDetachBacking r => some r

/-- The host reads the backing of the resource. -/
def CtrlCommand.readsBacking : CtrlCommand → Bool
  | .setScanout .. | .transferToHost2d .. => true
  | .getDisplayInfo | .resourceCreate2d .. | .resourceUnref _ | .resourceFlush ..
  | .resourceAttachBacking .. | .resourceDetachBacking _ => false

end VioGpu.Queue
