import VioGpu.Queue.Ownership
import VioGpu.VirtIO.Ring

/-!
# The elements of a command (`QueueBufferLocked`)

`QueueBufferLocked` cuts the command, its data and its response into elements for
`virtqueue_add_buf`. It collects them in a local array of 16 entries, first those the device
reads, counted by `outcnt`, then those it writes, counted by `incnt`; a write behind the array
is reported. The loop over the data goes on for as long as an address is not valid, so that it
is given a number of turns.
-/

namespace VioGpu.Queue

open Lib VirtIO

/-- The addresses that are valid and the page frames behind the pages. -/
structure AddressSpace where
  mmIsAddressValid : Nat → Bool
  frame : Nat → Nat

/-- A vbuffer with the addresses in its fields. -/
structure PlacedVBuffer where
  vbuf : VBuffer
  buf : Nat
  dataBuf : Nat
  respBuf : Nat

/-- The entries of `sg`. -/
def sgEntries : Nat := 16

/-- `sg` with `outcnt` and `incnt`. -/
structure SgArray where
  sg : Nat → Scatterlist
  outcnt : Nat
  incnt : Nat

namespace SgArray

def empty : SgArray := ⟨fun _ => ⟨0, 0⟩, 0, 0⟩

/-- A write to `sg[outcnt + incnt]`. -/
def write (a : SgArray) (e : Scatterlist) : Result SgArray :=
  let i := a.outcnt + a.incnt
  if i < sgEntries then pure { a with sg := fun j => if j = i then e else a.sg j }
  else .error (.outOfRange i)

def countOut (a : SgArray) : SgArray := { a with outcnt := a.outcnt + 1 }

def countIn (a : SgArray) : SgArray := { a with incnt := a.incnt + 1 }

/-- The elements `virtqueue_add_buf` takes for the device to read. -/
def out (a : SgArray) : List Scatterlist := (List.range a.outcnt).map a.sg

/-- The elements `virtqueue_add_buf` takes for the device to write. -/
def inn (a : SgArray) : List Scatterlist := (List.range a.incnt).map fun i => a.sg (a.outcnt + i)

end SgArray

namespace AddressSpace

def mmGetPhysicalAddress (m : AddressSpace) (va : Nat) : Nat :=
  m.frame (va / pageSize) * pageSize + va % pageSize

/-- `BuildSGElement` for the next element. -/
def buildSGElement (m : AddressSpace) (a : SgArray) (buf size : Nat) : Result (Bool × SgArray) :=
  if size ≠ 0 ∧ m.mmIsAddressValid buf then do
    let a ← a.write ⟨m.mmGetPhysicalAddress buf, min size pageSize⟩
    pure (true, a)
  else pure (false, a)

/-- The loop over the data. -/
def dataLoop (m : AddressSpace) : Nat → Nat → Nat → SgArray → Result SgArray
  | 0, _, dataSize, a => if dataSize = 0 then pure a else .error .unbounded
  | fuel + 1, dataBuf, dataSize, a =>
    if dataSize = 0 then pure a
    else do
      let (built, a) ← m.buildSGElement a dataBuf dataSize
      if built then
        m.dataLoop fuel (dataBuf + pageSize) (dataSize - min dataSize pageSize) a.countOut
      else m.dataLoop fuel dataBuf dataSize a

/-- The data in `QueueBufferLocked`, with this number of turns of the loop. -/
def queueData (m : AddressSpace) (fuel : Nat) (p : PlacedVBuffer) (a : SgArray) : Result SgArray :=
  if p.vbuf.dataSize ≠ 0 then m.dataLoop fuel p.dataBuf p.vbuf.dataSize a else pure a

/-- The response in `QueueBufferLocked`. -/
def queueResponse (m : AddressSpace) (p : PlacedVBuffer) (a : SgArray) : Result SgArray :=
  if p.vbuf.respSize ≠ 0 then do
    let (built, a) ← m.buildSGElement a p.respBuf p.vbuf.respSize
    pure (if built then a.countIn else a)
  else pure a

/-- `QueueBufferLocked` up to the call of `AddBuf`. -/
def queueBufferLocked (m : AddressSpace) (fuel : Nat) (p : PlacedVBuffer) : Result SgArray := do
  let (built, a) ← m.buildSGElement .empty p.buf p.vbuf.size
  let a ← m.queueData fuel p (if built then a.countOut else a)
  m.queueResponse p a

end AddressSpace

/-! ## What the elements stand for -/

/-- The physical bytes of an element. -/
def elementBytes (e : Scatterlist) : List Nat := (List.range e.length).map (e.physAddr + ·)

/-- The physical bytes of a range of addresses. -/
def AddressSpace.bytes (m : AddressSpace) (va size : Nat) : List Nat :=
  (List.range size).map fun i => m.mmGetPhysicalAddress (va + i)

/-- The range does not cross a page boundary. -/
def WithinPage (va size : Nat) : Prop := va % pageSize + size ≤ pageSize

/-- The range is valid. -/
def AddressSpace.ValidRange (m : AddressSpace) (va size : Nat) : Prop :=
  ∀ i < size, m.mmIsAddressValid (va + i) = true

/-- A vbuffer as the nonpaged pool and the command functions make it, of at most 16 pieces. -/
structure PlacedVBuffer.Proper (p : PlacedVBuffer) (m : AddressSpace) : Prop where
  size_pos : 1 ≤ p.vbuf.size
  size_le : p.vbuf.size ≤ pageSize
  respSize_le : p.vbuf.respSize ≤ pageSize
  pieces : p.vbuf.sgCount ≤ sgEntries
  buf : WithinPage p.buf p.vbuf.size
  resp : WithinPage p.respBuf p.vbuf.respSize
  data : p.dataBuf % pageSize = 0 ∨ WithinPage p.dataBuf p.vbuf.dataSize
  valid : m.ValidRange p.buf p.vbuf.size ∧ m.ValidRange p.dataBuf p.vbuf.dataSize ∧
    m.ValidRange p.respBuf p.vbuf.respSize

namespace AddressSpace

variable {m : AddressSpace}

theorem bytes_zero (va : Nat) : m.bytes va 0 = [] := rfl

theorem bytes_add (va n k : Nat) : m.bytes va (n + k) = m.bytes va n ++ m.bytes (va + n) k := by
  have hshift : ((List.range k).map (n + ·)).map (fun i => m.mmGetPhysicalAddress (va + i)) =
      m.bytes (va + n) k := by
    rw [List.map_map]
    apply List.map_congr_left
    intro i _
    rw [Function.comp_apply, Nat.add_assoc]
  rw [bytes, List.range_add, List.map_append, hshift]
  rfl

/-- Within a page the physical addresses follow each other. -/
theorem mmGetPhysicalAddress_add {va i : Nat} (h : va % pageSize + i < pageSize) :
    m.mmGetPhysicalAddress (va + i) = m.mmGetPhysicalAddress va + i := by
  unfold mmGetPhysicalAddress
  have hpage : (va + i) / pageSize = va / pageSize := by
    unfold pageSize at *
    omega
  have hoffset : (va + i) % pageSize = va % pageSize + i := by
    unfold pageSize at *
    omega
  rw [hpage, hoffset, Nat.add_assoc]

/-- An element within a page stands for the bytes it was made for. -/
theorem elementBytes_eq {va size : Nat} (h : WithinPage va size) :
    elementBytes ⟨m.mmGetPhysicalAddress va, size⟩ = m.bytes va size := by
  apply List.map_congr_left
  intro i hi
  have hlt : i < size := List.mem_range.mp hi
  unfold WithinPage at h
  exact (mmGetPhysicalAddress_add (by omega)).symm

end AddressSpace

/-! ## One element -/

namespace SgArray

variable {a a' : SgArray} {e : Scatterlist}

theorem write_eq (h : a.outcnt + a.incnt < sgEntries) : ∃ a', a.write e = .ok a' ∧
    a'.outcnt = a.outcnt ∧ a'.incnt = a.incnt ∧ a'.sg (a.outcnt + a.incnt) = e ∧
    ∀ j, j < a.outcnt + a.incnt → a'.sg j = a.sg j := by
  refine ⟨_, if_pos h, rfl, rfl, if_pos rfl, fun j hj => if_neg ?_⟩
  omega

/-- The elements below the one that is written stay. -/
theorem map_sg_congr {n : Nat} (h : ∀ j < n, a'.sg j = a.sg j) :
    (List.range n).map a'.sg = (List.range n).map a.sg := by
  apply List.map_congr_left
  intro j hj
  exact h j (List.mem_range.mp hj)

/-- The next element for the device to read. -/
theorem write_countOut (h : a.outcnt < sgEntries) (hin : a.incnt = 0) : ∃ a', a.write e = .ok a' ∧
    a'.countOut.out = a.out ++ [e] ∧ a'.countOut.outcnt = a.outcnt + 1 ∧
    a'.countOut.incnt = 0 := by
  obtain ⟨a', hwrite, hout, hinc, hnew, hold⟩ :=
    write_eq (a := a) (e := e) (by rwa [hin, Nat.add_zero])
  rw [hin, Nat.add_zero] at hnew hold
  refine ⟨a', hwrite, ?_, ?_, ?_⟩
  · rw [out, countOut, hout, List.range_succ, List.map_append, List.map_singleton, hnew,
      map_sg_congr hold, out]
  · rw [countOut, hout]
  · rw [countOut, hinc, hin]

/-- The next element for the device to write. -/
theorem write_countIn (h : a.outcnt < sgEntries) (hin : a.incnt = 0) : ∃ a', a.write e = .ok a' ∧
    a'.countIn.out = a.out ∧ a'.countIn.inn = [e] ∧ a'.countIn.outcnt = a.outcnt ∧
    a'.countIn.incnt = 1 := by
  obtain ⟨a', hwrite, hout, hinc, hnew, hold⟩ :=
    write_eq (a := a) (e := e) (by rwa [hin, Nat.add_zero])
  rw [hin, Nat.add_zero] at hnew hold
  refine ⟨a', hwrite, ?_, ?_, hout, ?_⟩
  · rw [out, countIn, hout, map_sg_congr hold, out]
  · rw [inn, countIn, hinc, hin, hout]
    simpa using hnew
  · rw [countIn, hinc, hin]

end SgArray

end VioGpu.Queue
