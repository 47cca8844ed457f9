import VioGpu.Queue.Command

/-!
# The pool of command buffers (`VioGpuBuf`)

Every command travels in a vbuffer of the pool. `GetBuf` takes the head of the free list,
clears it and sets its sizes; the command functions fill in the command and, for
`AttachBacking` and `AskDisplayInfo`, point it to memory outside the vbuffer, which `FreeBuf`
gives back to the heap together with putting the vbuffer at the tail of the free list.

Vbuffers and heap blocks are numbers. `heap` holds the blocks that are allocated and not yet
freed, of those that belong to commands.
-/

namespace VioGpu.Queue

def maxInlineRespSize : Nat := 24

/-- `GPU_VBUFFER` with the command behind it. `dataBuf` and `respBuf` are the blocks outside
the vbuffer the fields of these names point to, `event` says that the field is not `NULL`. -/
structure VBuffer where
  cmd : Option Command
  size : Nat
  dataBuf : Option Nat
  dataSize : Nat
  respBuf : Option Nat
  respSize : Nat
  event : Bool
  deriving DecidableEq, Repr

def VBuffer.zero : VBuffer := ⟨none, 0, none, 0, none, 0, false⟩

/-- The response block `FreeBuf` deletes. -/
def VBuffer.ownResp (v : VBuffer) : Option Nat :=
  if maxInlineRespSize < v.respSize then v.respBuf else none

/-- The data block `FreeBuf` deletes. -/
def VBuffer.ownData (v : VBuffer) : Option Nat := if v.dataSize ≠ 0 then v.dataBuf else none

/-- `m_FreeBufs`, what is in the vbuffers, and the heap. -/
structure Pool where
  free : List Nat
  bufs : Nat → VBuffer
  heap : List Nat
  nextBlock : Nat

namespace Pool

/-- `VioGpuBuf::Init`: a vbuffer for each allocation that succeeds, in order. -/
def init (allocations : List Bool) : Pool where
  free := List.range (allocations.count true)
  bufs := fun _ => .zero
  heap := []
  nextBlock := 0

def setBuf (p : Pool) (b : Nat) (v : VBuffer) : Pool :=
  { p with bufs := fun i => if i = b then v else p.bufs i }

/-- A block from the heap. -/
def alloc (p : Pool) : Nat × Pool :=
  (p.nextBlock, { p with heap := p.heap ++ [p.nextBlock], nextBlock := p.nextBlock + 1 })

/-- `delete []` on a pointer, `none` for `NULL`. -/
def delete (p : Pool) (block : Option Nat) : Pool :=
  { p with heap := block.elim p.heap p.heap.erase }

/-- `VioGpuBuf::GetBuf`: `none` for `NULL`. -/
def getBuf (p : Pool) (size respSize : Nat) (respBuf : Option Nat) : Option (Nat × Pool) :=
  match p.free with
  | [] => none
  | b :: free =>
    let v : VBuffer := { VBuffer.zero with
      size, respSize, respBuf := if respSize ≤ maxInlineRespSize then none else respBuf }
    some (b, { p with free }.setBuf b v)

/-- `VioGpuBuf::FreeBuf` -/
def freeBuf (p : Pool) (b : Nat) : Pool :=
  let v := p.bufs b
  let p := (p.delete v.ownResp).delete v.ownData
  let v := { v with
    respBuf := if v.ownResp.isSome then none else v.respBuf
    dataBuf := if v.ownData.isSome then none else v.dataBuf
    dataSize := if v.ownData.isSome then 0 else v.dataSize }
  { p.setBuf b v with free := p.free ++ [b] }

/-- A vbuffer from `GetBuf` with the command and the other fields in it. -/
def fill (p : Pool) (c : Command) (size respSize : Nat) (respBuf : Option Nat)
    (fields : VBuffer → VBuffer) : Option (Nat × Pool) :=
  match p.getBuf size respSize respBuf with
  | none => none
  | some (b, p) => some (b, p.setBuf b (fields { p.bufs b with cmd := some c }))

/-- `AllocCmd`, `AllocCmdResp` or `AllocCursor`, with what the command function then writes
into the vbuffer. `AskDisplayInfo` allocates the response, and the memory entries come with
the call of `AttachBacking`. -/
def build (p : Pool) (c : Command) : Option (Nat × Pool) :=
  match c with
  | .ctrl .getDisplayInfo =>
    let (resp, p) := p.alloc
    p.fill c ctrlHdrSize respDispInfoSize (some resp) fun v => { v with event := true }
  | .ctrl (.resourceAttachBacking r ents) =>
    let (data, p) := p.alloc
    p.fill c (CtrlCommand.resourceAttachBacking r ents).size ctrlHdrSize none fun v =>
      { v with dataBuf := some data, dataSize := memEntrySize * ents.length }
  | .ctrl cmd => p.fill c cmd.size ctrlHdrSize none id
  | .cursor _ => p.fill c cursorCommandSize 0 none id

/-! ## What the functions do to the free list -/

theorem freeBuf_free (p : Pool) (b : Nat) : (p.freeBuf b).free = p.free ++ [b] := rfl

theorem freeBuf_bufs {p : Pool} {b i : Nat} (hi : i ≠ b) : (p.freeBuf b).bufs i = p.bufs i :=
  if_neg hi

/-- A command takes the head of the free list and changes that vbuffer only. -/
theorem fill_spec {p p' : Pool} {c : Command} {size respSize b : Nat} {respBuf : Option Nat}
    {fields : VBuffer → VBuffer} (h : p.fill c size respSize respBuf fields = some (b, p')) :
    p.free = b :: p'.free ∧ (∃ v, p'.bufs b = fields v ∧ v.cmd = some c ∧ v.event = false) ∧
      ∀ i, i ≠ b → p'.bufs i = p.bufs i := by
  unfold fill getBuf at h
  cases hf : p.free with
  | nil => simp [hf] at h
  | cons head free =>
    rw [hf] at h
    cases h
    refine ⟨rfl, ⟨_, if_pos rfl, rfl, ?_⟩, fun i hi => ?_⟩
    · simp [setBuf, VBuffer.zero]
    · simp [setBuf, hi]

/-- **Building a command** takes the head of the free list and fills that vbuffer; only
`AskDisplayInfo` sets its event. -/
theorem build_spec {p p' : Pool} {c : Command} {b : Nat} (h : p.build c = some (b, p')) :
    p.free = b :: p'.free ∧ (p'.bufs b).cmd = some c ∧
      ((p'.bufs b).event = true ↔ c = .ctrl .getDisplayInfo) ∧
      ∀ i, i ≠ b → p'.bufs i = p.bufs i := by
  unfold build at h
  split at h
  all_goals
    obtain ⟨hfree, ⟨v, hv, hcmd, hevent⟩, hother⟩ := fill_spec h
    exact ⟨hfree, by rw [hv]; exact hcmd, by rw [hv]; simp_all, hother⟩

end Pool

end VioGpu.Queue
