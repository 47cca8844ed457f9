import VioGpu.Lib.Word
import Mathlib.Tactic.Common

/-!
# The virtio ring driver (`VirtIORing.c`)

The functions of `VirtIORing.c` on a split ring: `virtqueue_add_buf` with its direct and
its indirect path, `virtqueue_get_buf` with `detach_buf`, the kick functions,
`virtqueue_detach_unused_buf`, `virtqueue_shutdown` and the initialization.

The ring memory is four fields of `Vring`: the descriptor table and the available ring,
which only the driver writes, the used ring, which only the device writes, and the indirect
tables the caller supplies. `used_event` and `avail_event`, which the C code reaches as
`avail->ring[num]` and past the end of `used->ring`, are fields of their own, as in the
layout comment of `virtio_ring.h`. Every other array access is checked against `num`, and a
`while` loop that comes back to a descriptor it has left is reported, so that `Result` says
for every call whether the C code stays inside its arrays and ends.
-/

namespace VioGpu.VirtIO

open Lib

/-- What a call can do instead of returning. -/
inductive Fault
  /-- an array of `num` entries is accessed at `i` -/
  | outOfRange (i : Nat)
  /-- a loop goes round more often than it has different indices to visit -/
  | unbounded
  deriving DecidableEq, Repr

abbrev Result := Except Fault

/-! ## Ring memory -/

def vringDescFNext : UInt16 := 1
def vringDescFWrite : UInt16 := 2
def vringDescFIndirect : UInt16 := 4
def vringUsedFNoNotify : UInt16 := 1
def vringAvailFNoInterrupt : UInt16 := 1

structure VringDesc where
  addr : Nat
  len : Nat
  flags : UInt16
  next : Nat
  deriving DecidableEq, Repr

structure VringAvail where
  flags : UInt16
  idx : Nat
  ring : Nat → Nat
  usedEvent : Nat

structure VringUsedElem where
  id : Nat
  len : Nat
  deriving DecidableEq, Repr

structure VringUsed where
  flags : UInt16
  idx : Nat
  ring : Nat → VringUsedElem
  availEvent : Nat

structure Vring where
  num : Nat
  desc : Nat → VringDesc
  avail : VringAvail
  used : VringUsed
  /-- the indirect table at a physical address -/
  indirect : Nat → List VringDesc

/-- `struct vring_virtqueue` with its ring. `data` holds the tokens, `none` for `NULL`;
`notified` counts the writes to the queue's notification register. -/
structure Virtqueue (τ : Type) where
  vring : Vring
  index : Nat
  numFree : Nat
  broken : Bool
  event : Bool
  freeHead : Nat
  numAdded : Nat
  lastUsedIdx : Nat
  availFlagsShadow : UInt16
  availIdxShadow : Nat
  data : Nat → Option τ
  notified : Nat

/-- `struct VirtIOBufferDescriptor`. -/
structure Scatterlist where
  physAddr : Nat
  length : Nat
  deriving DecidableEq, Repr

def VringDesc.zero : VringDesc := ⟨0, 0, 0, 0⟩

/-- `VRING_DESC_F_NEXT` is set. -/
def VringDesc.hasNext (d : VringDesc) : Prop := d.flags &&& vringDescFNext ≠ 0

instance (d : VringDesc) : Decidable d.hasNext := inferInstanceAs (Decidable (_ ≠ _))

/-- Ring memory of `num` entries in pages that hold zeroes. -/
def Vring.zeroed (num : Nat) (indirect : Nat → List VringDesc) : Vring where
  num := num
  desc := fun _ => .zero
  avail := ⟨0, 0, fun _ => 0, 0⟩
  used := ⟨0, 0, fun _ => ⟨0, 0⟩, 0⟩
  indirect := indirect

variable {τ : Type}

namespace Virtqueue

/-! ## Checked accesses -/

def readDesc (vq : Virtqueue τ) (i : Nat) : Result VringDesc :=
  if i < vq.vring.num then .ok (vq.vring.desc i) else .error (.outOfRange i)

def withDesc (vq : Virtqueue τ) (desc : Nat → VringDesc) : Virtqueue τ :=
  { vq with vring := { vq.vring with desc := desc } }

def modifyDesc (vq : Virtqueue τ) (i : Nat) (f : VringDesc → VringDesc) :
    Result (Virtqueue τ) :=
  if i < vq.vring.num then
    .ok (vq.withDesc fun j => if j = i then f (vq.vring.desc i) else vq.vring.desc j)
  else .error (.outOfRange i)

def readData (vq : Virtqueue τ) (i : Nat) : Result (Option τ) :=
  if i < vq.vring.num then .ok (vq.data i) else .error (.outOfRange i)

def writeData (vq : Virtqueue τ) (i : Nat) (t : Option τ) : Result (Virtqueue τ) :=
  if i < vq.vring.num then
    .ok { vq with data := fun j => if j = i then t else vq.data j }
  else .error (.outOfRange i)

def writeAvail (vq : Virtqueue τ) (i head : Nat) : Result (Virtqueue τ) :=
  if i < vq.vring.num then
    let ring := fun j => if j = i then u16 head else vq.vring.avail.ring j
    .ok { vq with vring := { vq.vring with avail := { vq.vring.avail with ring := ring } } }
  else .error (.outOfRange i)

def readUsed (vq : Virtqueue τ) (i : Nat) : Result VringUsedElem :=
  if i < vq.vring.num then .ok (vq.vring.used.ring i) else .error (.outOfRange i)

def writeAvailIdx (vq : Virtqueue τ) (idx : Nat) : Virtqueue τ :=
  { vq with vring := { vq.vring with avail := { vq.vring.avail with idx := idx } } }

def writeUsedEvent (vq : Virtqueue τ) (idx : Nat) : Virtqueue τ :=
  { vq with vring := { vq.vring with avail := { vq.vring.avail with usedEvent := idx } } }

/-- What the device does to the used ring. -/
def withUsed (vq : Virtqueue τ) (used : VringUsed) : Virtqueue τ :=
  { vq with vring := { vq.vring with used := used } }

end Virtqueue

open Virtqueue

/-! ## Kicks -/

def vringNeedEvent (eventIdx newIdx old : Nat) : Bool :=
  decide (sub16 (sub16 newIdx eventIdx) 1 < sub16 newIdx old)

/-- The first half of a kick: the queue with `num_added` cleared and whether the other side
has to be notified. -/
def virtqueueKickPrepare (vq : Virtqueue τ) : Bool × Virtqueue τ :=
  let old := sub16 vq.availIdxShadow vq.numAdded
  let new := vq.availIdxShadow
  let needsKick :=
    if vq.event then vringNeedEvent vq.vring.used.availEvent new old
    else vq.vring.used.flags &&& vringUsedFNoNotify == 0
  (needsKick, { vq with numAdded := 0 })

def virtqueueNotify (vq : Virtqueue τ) : Virtqueue τ :=
  { vq with notified := vq.notified + 1 }

def virtqueueKick (vq : Virtqueue τ) : Virtqueue τ :=
  let (needsKick, vq) := virtqueueKickPrepare vq
  if needsKick then virtqueueNotify vq else vq

def virtqueueKickAlways (vq : Virtqueue τ) : Virtqueue τ :=
  virtqueueNotify { vq with numAdded := 0 }

/-! ## Adding a buffer -/

/-- The table `vring_add_indirect` writes: one descriptor an element, chained in order. -/
def indirectTable (out inn : List Scatterlist) : List VringDesc :=
  let sg := out.map (·, vringDescFNext) ++ inn.map (·, vringDescFNext ||| vringDescFWrite)
  sg.mapIdx fun i e =>
    { addr := e.1.physAddr, len := e.1.length,
      flags := if i + 1 = sg.length then e.2 &&& ~~~vringDescFNext else e.2,
      next := if i + 1 = sg.length then 0 else u16 (u16 i + 1) }

/-- `vring_add_indirect`: one descriptor of the ring for the whole buffer. The head it
returns is an index of the ring, so that the caller's test `ret >= 0` passes. -/
def vringAddIndirect (vq : Virtqueue τ) (out inn : List Scatterlist) (phys : Nat) :
    Result (Nat × Virtqueue τ) := do
  let table := indirectTable out inn
  let indirect := fun p => if p = phys then table else vq.vring.indirect p
  let vq := { vq with vring := { vq.vring with indirect := indirect } }
  let vq := { vq with numFree := vq.numFree - 1 }
  let head := vq.freeHead
  let vq ← vq.modifyDesc head fun d =>
    { d with flags := vringDescFIndirect, addr := phys, len := u32 (table.length * 16) }
  let d ← vq.readDesc head
  pure (head, { vq with freeHead := d.next })

/-- One of the two loops of `virtqueue_add_buf`: an element of `sg` in each descriptor from
`i` on along `next`, whose link stays as it is. The result is the queue with the final
values of `i` and `prev`. -/
def fillDescs (flags : UInt16) :
    List Scatterlist → Virtqueue τ → Nat → Nat → Result (Virtqueue τ × Nat × Nat)
  | [], vq, i, prev => pure (vq, i, prev)
  | sg :: rest, vq, i, _ => do
    let vq ← vq.modifyDesc i fun d =>
      { d with flags := flags, addr := sg.physAddr, len := sg.length }
    let d ← vq.readDesc i
    fillDescs flags rest vq d.next i

/-- `out + in`, a sum of two `unsigned int`. -/
def outPlusIn (out inn : List Scatterlist) : Nat := u32 (out.length + inn.length)

/-- The direct path of `virtqueue_add_buf`, once there is room: the head of the new chain. -/
def addDirect (vq : Virtqueue τ) (out inn : List Scatterlist) : Result (Nat × Virtqueue τ) := do
  let vq := { vq with numFree := vq.numFree - outPlusIn out inn }
  let head := vq.freeHead
  let (vq, i, prev) ← fillDescs vringDescFNext out vq vq.freeHead 0
  let (vq, i, prev) ← fillDescs (vringDescFNext ||| vringDescFWrite) inn vq i prev
  let vq ← vq.modifyDesc prev fun d => { d with flags := d.flags &&& ~~~vringDescFNext }
  pure (head, { vq with freeHead := i })

/-- The code at `add_head:` up to the write barrier: the token and the available slot. -/
def prepareHead (vq : Virtqueue τ) (head : Nat) (data : τ) : Result (Virtqueue τ) := do
  let vq ← vq.writeData head (some data)
  let avail := vq.availIdxShadow &&& (vq.vring.num - 1)
  vq.writeAvail avail head

/-- The code at `add_head:` after the write barrier: the new head is exposed. -/
def publishHead (vq : Virtqueue τ) : Virtqueue τ :=
  let idx := u16 (vq.availIdxShadow + 1)
  let vq := { vq with availIdxShadow := idx }
  let vq := vq.writeAvailIdx idx
  let vq := { vq with numAdded := vq.numAdded + 1 }
  -- "This is very unlikely, but theoretically possible. Kick just in case."
  if vq.numAdded = 65535 then virtqueueKick vq else vq

inductive AddStatus
  | ok
  | enospc
  deriving DecidableEq, Repr

/-- The direct path up to the write barrier. -/
def prepareDirect (vq : Virtqueue τ) (out inn : List Scatterlist) (data : τ) :
    Result (Nat × Virtqueue τ) := do
  let (head, vq) ← addDirect vq out inn
  let vq ← prepareHead vq head data
  pure (head, vq)

/-- The path with an indirect table up to the write barrier. -/
def prepareIndirect (vq : Virtqueue τ) (out inn : List Scatterlist) (data : τ) (phys : Nat) :
    Result (Nat × Virtqueue τ) := do
  let (head, vq) ← vringAddIndirect vq out inn phys
  let vq ← prepareHead vq head data
  pure (head, vq)

/-- `virtqueue_add_buf` from the test for room on. -/
def addDirectBuf (vq : Virtqueue τ) (out inn : List Scatterlist) (data : τ) :
    Result (AddStatus × Virtqueue τ) :=
  if vq.numFree < outPlusIn out inn then
    -- "for historical reasons, we force a notify here if there are outgoing parts"
    pure (.enospc, if out.length ≠ 0 then virtqueueNotify vq else vq)
  else do
    let (_, vq) ← prepareDirect vq out inn data
    pure (.ok, publishHead vq)

/-- `virtqueue_add_buf`. `indirect` is `va_indirect` with its physical address, `none` for
`NULL`; `out` and `inn` are the readable and the writable elements of `sg`. -/
def virtqueueAddBuf (vq : Virtqueue τ) (out inn : List Scatterlist) (data : τ)
    (indirect : Option Nat) : Result (AddStatus × Virtqueue τ) :=
  match indirect with
  | some phys =>
    if 1 < outPlusIn out inn ∧ vq.numFree ≠ 0 then do
      let (_, vq) ← prepareIndirect vq out inn data phys
      pure (.ok, publishHead vq)
    else addDirectBuf vq out inn data
  | none => addDirectBuf vq out inn data

/-! ## Taking a buffer back -/

/-- The `while` loop of `detach_buf`: the last descriptor of the chain at `i`, with one more
free descriptor counted for each step. A chain without end comes back to a descriptor
within `num` rounds, so that many rounds are allowed. -/
def detachWalk (vq : Virtqueue τ) : Nat → Nat → Result (Virtqueue τ × Nat)
  | 0, _ => .error .unbounded
  | fuel + 1, i => do
    let d ← vq.readDesc i
    if d.hasNext then
      detachWalk { vq with numFree := vq.numFree + 1 } fuel d.next
    else pure (vq, i)

def detachBuf (vq : Virtqueue τ) (head : Nat) : Result (Virtqueue τ) := do
  let vq ← vq.writeData head none
  let (vq, i) ← detachWalk vq vq.vring.num head
  let vq ← vq.modifyDesc i fun d => { d with next := u16 vq.freeHead }
  pure { vq with freeHead := head, numFree := vq.numFree + 1 }

def moreUsed (vq : Virtqueue τ) : Bool := vq.lastUsedIdx != vq.vring.used.idx

/-- What `virtqueue_get_buf` returns: the token, and the length it stored in `*len`. -/
structure GetResult (τ : Type) where
  ret : Option τ
  len : Option Nat
  deriving DecidableEq, Repr

/-- The last lines of `virtqueue_get_buf`: the used entry is consumed and, when interrupts
are on, the device is told which entry is expected next. -/
def advanceUsed (vq : Virtqueue τ) : Virtqueue τ :=
  let vq := { vq with lastUsedIdx := u16 (vq.lastUsedIdx + 1) }
  if vq.availFlagsShadow &&& vringAvailFNoInterrupt == 0 then
    vq.writeUsedEvent vq.lastUsedIdx
  else vq

/-- `virtqueue_get_buf` after its read barrier: the next used entry is read. -/
def takeUsed (vq : Virtqueue τ) : Result (GetResult τ × Virtqueue τ) := do
  let lastUsed := vq.lastUsedIdx &&& (vq.vring.num - 1)
  let e ← vq.readUsed lastUsed
  if vq.vring.num ≤ e.id then pure (⟨none, some e.len⟩, vq)  -- "id %u out of range"
  else
    match ← vq.readData e.id with
    | none => pure (⟨none, some e.len⟩, vq)  -- "id %u is not a head!"
    | some ret =>
      let vq ← detachBuf vq e.id
      pure (⟨some ret, some e.len⟩, advanceUsed vq)

def virtqueueGetBuf (vq : Virtqueue τ) : Result (GetResult τ × Virtqueue τ) :=
  if vq.broken then pure (⟨none, none⟩, vq)
  else if !moreUsed vq then pure (⟨none, none⟩, vq)
  else takeUsed vq

/-- `virtqueue_detach_unused_buf`: the first head with a token, if any. -/
def virtqueueDetachUnusedBuf (vq : Virtqueue τ) : Result (Option τ × Virtqueue τ) := do
  match (List.range vq.vring.num).find? fun i => (vq.data i).isSome with
  | none => pure (none, vq)
  | some i =>
    let buf := vq.data i
    let vq ← detachBuf vq i
    let idx := sub16 vq.availIdxShadow 1
    pure (buf, { vq with availIdxShadow := idx }.writeAvailIdx idx)

/-! ## Initialization -/

/-- The loop of `initialize_virtqueue` that links the free list. Its counter is a 16-bit
`unsigned short` and its bound `num - 1` a 32-bit number; it ends within `num` rounds or
never. -/
def linkFree (num : Nat) : Nat → Nat → Virtqueue τ → Result (Nat × Virtqueue τ)
  | 0, _, _ => .error .unbounded
  | fuel + 1, i, vq =>
    if i < sub32 num 1 then do
      let vq ← vq.modifyDesc i fun d => { d with next := u16 (i + 1) }
      let vq ← vq.writeData i none
      linkFree num fuel (u16 (i + 1)) vq
    else pure (i, vq)

/-- `initialize_virtqueue` on ring memory `pages`. -/
def initializeVirtqueue (index : Nat) (event : Bool) (notified : Nat) (pages : Vring) :
    Result (Virtqueue τ) := do
  let vq : Virtqueue τ :=
    { vring := pages, index, numFree := pages.num, broken := false, event, freeHead := 0,
      numAdded := 0, lastUsedIdx := 0, availFlagsShadow := 0, availIdxShadow := 0,
      data := fun _ => none, notified }
  let (i, vq) ← linkFree pages.num (pages.num + 1) 0 vq
  vq.writeData i none

/-- `vring_new_virtqueue` with a control block: `none` for a length that is no power of 2. -/
def vringNewVirtqueue (index : Nat) (event : Bool) (notified : Nat) (pages : Vring) :
    Result (Option (Virtqueue τ)) := do
  if pages.num &&& sub32 pages.num 1 ≠ 0 then pure none
  else some <$> initializeVirtqueue index event notified pages

/-- `virtqueue_shutdown`: the ring memory is cleared and set up again. -/
def virtqueueShutdown (vq : Virtqueue τ) : Result (Virtqueue τ) :=
  initializeVirtqueue vq.index vq.event vq.notified
    (Vring.zeroed vq.vring.num vq.vring.indirect)

end VioGpu.VirtIO
