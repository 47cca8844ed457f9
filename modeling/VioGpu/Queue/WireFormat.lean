import VioGpu.Lib.Packed
import VioGpu.Lib.Word
import VioGpu.Queue.Command

/-!
# The bytes of the commands

The structures of `viogpu.h` are packed, and the command functions clear them before they set
their fields, so that a command is the same bytes each time. `AttachBacking` puts the memory
entries behind the command, in a buffer of their own.

What the device makes of the bytes it reads is stated separately (`CtrlCommand.parse`,
`CursorCommand.parse`): it looks at the type in the header and unpacks the structure of that
type. It gets the command back, with each field modulo its size (`parse_wire`).
-/

namespace VioGpu.Queue

open Lib

/-! ## What the command functions store -/

/-- A field of type `ULONG`. -/
def ulong (value : Nat) : PackedField := ⟨4, value⟩

/-- A field of type `ULONGLONG`. -/
def ulonglong (value : Nat) : PackedField := ⟨8, value⟩

/-- `GPU_CTRL_HDR` with nothing but the type set. -/
def ctrlHdr (type : Nat) : List PackedField :=
  [ulong type, ulong 0, ulonglong 0, ulong 0, ulong 0]

/-- `GPU_RECT` -/
def gpuRect (x y width height : Nat) : List PackedField :=
  [ulong x, ulong y, ulong width, ulong height]

/-- `GPU_MEM_ENTRY` -/
def MemEntry.fields (e : MemEntry) : List PackedField := [ulonglong e.addr, ulong e.length, ulong 0]

namespace CtrlCommand

/-- `VIRTIO_GPU_CMD_GET_DISPLAY_INFO` to `VIRTIO_GPU_CMD_RESOURCE_DETACH_BACKING` -/
def type : CtrlCommand → Nat
  | getDisplayInfo => 0x100
  | resourceCreate2d .. => 0x101
  | resourceUnref .. => 0x102
  | setScanout .. => 0x103
  | resourceFlush .. => 0x104
  | transferToHost2d .. => 0x105
  | resourceAttachBacking .. => 0x106
  | resourceDetachBacking .. => 0x107

/-- The fields behind the header. -/
def body : CtrlCommand → List PackedField
  | getDisplayInfo => []
  | resourceCreate2d resourceId format width height =>
    [ulong resourceId, ulong format, ulong width, ulong height]
  | resourceUnref resourceId => [ulong resourceId, ulong 0]
  | setScanout scanoutId resourceId width height x y =>
    gpuRect x y width height ++ [ulong scanoutId, ulong resourceId]
  | resourceFlush resourceId width height x y =>
    gpuRect x y width height ++ [ulong resourceId, ulong 0]
  | transferToHost2d resourceId offset width height x y =>
    gpuRect x y width height ++ [ulonglong offset, ulong resourceId, ulong 0]
  | resourceAttachBacking resourceId ents => [ulong resourceId, ulong ents.length]
  | resourceDetachBacking resourceId => [ulong resourceId, ulong 0]

/-- The structure at `cmd`. -/
def bytes (c : CtrlCommand) : List UInt8 := pack (ctrlHdr c.type ++ c.body)

/-- The memory entries. -/
def data : CtrlCommand → List UInt8
  | resourceAttachBacking _ ents => ents.flatMap fun e => pack e.fields
  | getDisplayInfo | resourceCreate2d .. | resourceUnref _ | setScanout .. | resourceFlush ..
  | transferToHost2d .. | resourceDetachBacking _ => []

end CtrlCommand

/-- `GPU_CURSOR_POS` on scanout 0. -/
def cursorPos (x y : Nat) : List PackedField := [ulong 0, ulong x, ulong y, ulong 0]

namespace CursorCommand

/-- `VIRTIO_GPU_CMD_UPDATE_CURSOR` or `VIRTIO_GPU_CMD_MOVE_CURSOR` -/
def type : CursorCommand → Nat
  | updateCursor .. => 0x300
  | moveCursor .. => 0x301

/-- The fields behind the header. -/
def body : CursorCommand → List PackedField
  | updateCursor resourceId x y hotX hotY =>
    cursorPos x y ++ [ulong resourceId, ulong hotX, ulong hotY, ulong 0]
  | moveCursor resourceId x y => cursorPos x y ++ [ulong resourceId, ulong 0, ulong 0, ulong 0]

/-- The structure at `crsr`. -/
def bytes (c : CursorCommand) : List UInt8 := pack (ctrlHdr c.type ++ c.body)

end CursorCommand

namespace Command

/-- The structure of the command. -/
def bytes : Command → List UInt8
  | ctrl c => c.bytes
  | cursor c => c.bytes

/-- The data behind the structure. -/
def data : Command → List UInt8
  | ctrl c => c.data
  | cursor _ => []

/-- The size that the command functions ask `GetBuf` for. -/
def size : Command → Nat
  | ctrl c => c.size
  | cursor _ => cursorCommandSize

/-- The bytes that are for the device. -/
def wire (c : Command) : List UInt8 := c.bytes ++ c.data

end Command

/-! ## What the device makes of them -/

/-- The widths of the fields of `GPU_CTRL_HDR`. -/
def ctrlHdrWidths : List Nat := [4, 4, 8, 4, 4]

/-- The type in the header, and the bytes behind the header. -/
def parseHdr (bytes : List UInt8) : Option (Nat × List UInt8) :=
  match unpack ctrlHdrWidths bytes with
  | some (type :: _, rest) => some (type, rest)
  | _ => none

/-- Memory entries, as many as there are to be. -/
def parseEntries : Nat → List UInt8 → Option (List MemEntry)
  | 0, _ => some []
  | n + 1, bytes =>
    match unpack [8, 4, 4] bytes with
    | some ([addr, length, _], rest) => (⟨addr, length⟩ :: ·) <$> parseEntries n rest
    | _ => none

namespace CtrlCommand

/-- The widths of the fields behind the header, for each type. -/
def bodyWidths : Nat → Option (List Nat)
  | 0x100 => some []
  | 0x101 => some [4, 4, 4, 4]
  | 0x102 | 0x107 => some [4, 4]
  | 0x103 | 0x104 => some [4, 4, 4, 4, 4, 4]
  | 0x105 => some [4, 4, 4, 4, 8, 4, 4]
  | 0x106 => some [4, 4]
  | _ => none

/-- The command of this type with these fields, and with the data behind the structure. -/
def ofFields : Nat → List Nat → List UInt8 → Option CtrlCommand
  | 0x100, [], _ => some getDisplayInfo
  | 0x101, [resourceId, format, width, height], _ =>
    some (resourceCreate2d resourceId format width height)
  | 0x102, [resourceId, _], _ => some (resourceUnref resourceId)
  | 0x103, [x, y, width, height, scanoutId, resourceId], _ =>
    some (setScanout scanoutId resourceId width height x y)
  | 0x104, [x, y, width, height, resourceId, _], _ =>
    some (resourceFlush resourceId width height x y)
  | 0x105, [x, y, width, height, offset, resourceId, _], _ =>
    some (transferToHost2d resourceId offset width height x y)
  | 0x106, [resourceId, nrEntries], data =>
    resourceAttachBacking resourceId <$> parseEntries nrEntries data
  | 0x107, [resourceId, _], _ => some (resourceDetachBacking resourceId)
  | _, _, _ => none

/-- A command on the control queue. -/
def parse (bytes : List UInt8) : Option CtrlCommand := do
  let (type, rest) ← parseHdr bytes
  let widths ← bodyWidths type
  let (values, data) ← unpack widths rest
  ofFields type values data

end CtrlCommand

namespace CursorCommand

/-- The widths of the fields behind the header. -/
def bodyWidths : List Nat := [4, 4, 4, 4, 4, 4, 4, 4]

/-- The command of this type with these fields. A move has a resource, which it does not use. -/
def ofFields : Nat → List Nat → Option CursorCommand
  | 0x300, [_, x, y, _, resourceId, hotX, hotY, _] => some (updateCursor resourceId x y hotX hotY)
  | 0x301, [_, x, y, _, resourceId, _, _, _] => some (moveCursor resourceId x y)
  | _, _ => none

/-- A command on the cursor queue. -/
def parse (bytes : List UInt8) : Option CursorCommand := do
  let (type, rest) ← parseHdr bytes
  let (values, _) ← unpack bodyWidths rest
  ofFields type values

end CursorCommand

/-! ## What is left of a command in its fields -/

/-- What fits into a `ULONGLONG`. -/
def u64 (n : Nat) : Nat := n % 18446744073709551616

def MemEntry.stored (e : MemEntry) : MemEntry := ⟨u64 e.addr, u32 e.length⟩

/-- The command with each field modulo its size, with as many entries as are counted. -/
def CtrlCommand.stored : CtrlCommand → CtrlCommand
  | getDisplayInfo => getDisplayInfo
  | resourceCreate2d r format width height =>
    resourceCreate2d (u32 r) (u32 format) (u32 width) (u32 height)
  | resourceUnref r => resourceUnref (u32 r)
  | setScanout scanoutId r width height x y =>
    setScanout (u32 scanoutId) (u32 r) (u32 width) (u32 height) (u32 x) (u32 y)
  | resourceFlush r width height x y =>
    resourceFlush (u32 r) (u32 width) (u32 height) (u32 x) (u32 y)
  | transferToHost2d r offset width height x y =>
    transferToHost2d (u32 r) (u64 offset) (u32 width) (u32 height) (u32 x) (u32 y)
  | resourceAttachBacking r ents =>
    resourceAttachBacking (u32 r) ((ents.take (u32 ents.length)).map MemEntry.stored)
  | resourceDetachBacking r => resourceDetachBacking (u32 r)

def CursorCommand.stored : CursorCommand → CursorCommand
  | updateCursor r x y hotX hotY => updateCursor (u32 r) (u32 x) (u32 y) (u32 hotX) (u32 hotY)
  | moveCursor r x y => moveCursor (u32 r) (u32 x) (u32 y)

def Command.stored : Command → Command
  | .ctrl c => .ctrl c.stored
  | .cursor c => .cursor c.stored

/-! ## Round trips -/

theorem parseHdr_pack (type : Nat) (rest : List UInt8) :
    parseHdr (pack (ctrlHdr type) ++ rest) = some (u32 type, rest) := by
  have hunpack := unpack_pack (ctrlHdr type) rest
  change unpack ctrlHdrWidths _ = _ at hunpack
  rw [parseHdr, hunpack]
  rfl

/-- The first entries of those that are there. -/
theorem parseEntries_pack (ents : List MemEntry) (rest : List UInt8) {n : Nat}
    (h : n ≤ ents.length) :
    parseEntries n (ents.flatMap (fun e => pack e.fields) ++ rest) =
      some ((ents.take n).map MemEntry.stored) := by
  induction ents generalizing n with
  | nil =>
    obtain rfl : n = 0 := Nat.le_zero.mp h
    rfl
  | cons e ents ih =>
    cases n with
    | zero => rfl
    | succ n =>
      have hunpack := unpack_pack e.fields (ents.flatMap (fun e => pack e.fields) ++ rest)
      change unpack [8, 4, 4] _ = _ at hunpack
      rw [List.flatMap_cons, List.append_assoc, parseEntries, hunpack]
      change (e.stored :: ·) <$> parseEntries n _ = _
      rw [ih (Nat.le_of_succ_le_succ h)]
      rfl

namespace CtrlCommand

theorem u32_type (c : CtrlCommand) : u32 c.type = c.type := by
  cases c <;> rfl

theorem bodyWidths_type (c : CtrlCommand) :
    bodyWidths c.type = some (c.body.map PackedField.width) := by
  cases c <;> rfl

theorem ofFields_body (c : CtrlCommand) :
    ofFields c.type (c.body.map PackedField.stored) c.data = some c.stored := by
  cases c with
  | resourceAttachBacking r ents =>
    have hents := parseEntries_pack ents [] (u32_le ents.length)
    rw [List.append_nil] at hents
    change resourceAttachBacking (u32 r) <$> parseEntries (u32 ents.length) _ = _
    rw [data, hents]
    rfl
  | _ => rfl

/-- **The device gets the command** on the control queue. -/
theorem parse_wire (c : CtrlCommand) : parse (c.bytes ++ c.data) = some c.stored := by
  rw [parse, bytes, pack_append, List.append_assoc, parseHdr_pack, u32_type]
  simp only [Option.bind_eq_bind, Option.bind_some, bodyWidths_type, unpack_pack, ofFields_body]

theorem length_bytes (c : CtrlCommand) : c.bytes.length = c.size := by
  rw [bytes, length_pack]
  cases c <;> rfl

/-- The size of the memory entries that `AttachBacking` sets. -/
theorem length_data_resourceAttachBacking (r : Nat) (ents : List MemEntry) :
    (resourceAttachBacking r ents).data.length = memEntrySize * ents.length := by
  change (ents.flatMap fun e => pack e.fields).length = memEntrySize * ents.length
  have hentry : ∀ e : MemEntry, (pack e.fields).length = memEntrySize := fun e => by
    rw [length_pack]
    rfl
  rw [List.length_flatMap]
  simp only [hentry]
  rw [List.map_const', List.sum_const_nat, Nat.mul_comm]

end CtrlCommand

namespace CursorCommand

theorem ofFields_body (c : CursorCommand) :
    ofFields c.type (c.body.map PackedField.stored) = some c.stored := by
  cases c <;> rfl

/-- **The device gets the command** on the cursor queue. -/
theorem parse_wire (c : CursorCommand) : parse c.bytes = some c.stored := by
  have htype : u32 c.type = c.type := by cases c <;> rfl
  have hwidths : c.body.map PackedField.width = bodyWidths := by cases c <;> rfl
  have hunpack := unpack_pack c.body []
  rw [hwidths, List.append_nil] at hunpack
  rw [parse, bytes, pack_append, parseHdr_pack, htype]
  simp only [Option.bind_eq_bind, Option.bind_some, hunpack, ofFields_body]

theorem length_bytes (c : CursorCommand) : c.bytes.length = cursorCommandSize := by
  rw [bytes, length_pack]
  cases c <;> rfl

end CursorCommand

namespace Command

theorem length_bytes (c : Command) : c.bytes.length = c.size := by
  cases c with
  | ctrl c => exact c.length_bytes
  | cursor c => exact c.length_bytes

end Command

end VioGpu.Queue
