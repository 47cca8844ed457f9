import VioGpu.Lib.Scatter
import VioGpu.Queue.SgArrayRuns
import VioGpu.Queue.WireFormat
import VioGpu.VirtIO.SessionRuns

/-!
# A queue with the memory that its descriptors point to

The driver puts a command into the memory of a vbuffer and adds the vbuffer's elements to the
ring. The device takes a head, walks the chain of descriptors, and has nothing else than the
bytes that these point to: it reads the bytes of the command from the readable ones, and stores
its answer through the writable ones. The driver gets the vbuffer back and reads the answer.
-/

namespace VioGpu.Queue

open Lib VirtIO

/-! ## The vbuffers -/

/-- The vbuffer has the sizes for this command. -/
def VBuffer.Carries (v : VBuffer) (c : Command) : Prop :=
  v.cmd = some c ∧ v.size = c.size ∧ v.dataSize = c.data.length

/-- The physical bytes of the command and its data. -/
def PlacedVBuffer.outBytes (m : AddressSpace) (p : PlacedVBuffer) : List Nat :=
  m.bytes p.buf p.vbuf.size ++ m.bytes p.dataBuf p.vbuf.dataSize

/-- The physical bytes of the response. -/
def PlacedVBuffer.respBytes (m : AddressSpace) (p : PlacedVBuffer) : List Nat :=
  m.bytes p.respBuf p.vbuf.respSize

/-- All physical bytes of the vbuffer that the device gets to see. -/
def PlacedVBuffer.footprint (m : AddressSpace) (p : PlacedVBuffer) : List Nat :=
  p.outBytes m ++ p.respBytes m

/-- What the device makes of the bytes of a command on this queue. -/
def QueueName.parse : QueueName → List UInt8 → Option Command
  | .ctrl, bytes => .ctrl <$> CtrlCommand.parse bytes
  | .cursor, bytes => .cursor <$> CursorCommand.parse bytes

/-! ## The device's view of a chain -/

/-- The descriptors from `i` on, if their chain has an end within this many steps. -/
def walkChain (desc : Nat → VringDesc) : Nat → Nat → Option (List VringDesc)
  | 0, _ => none
  | fuel + 1, i =>
    if (desc i).hasNext then (desc i :: ·) <$> walkChain desc fuel (desc i).next
    else some [desc i]

/-- The physical bytes behind the descriptors that are for the device to write, or to read. -/
def descBytes (write : Bool) (descs : List VringDesc) : List Nat :=
  descs.flatMap fun d =>
    if decide (d.flags &&& vringDescFWrite ≠ 0) = write then elementBytes ⟨d.addr, d.len⟩ else []

/-- The physical bytes behind the chain of a head. -/
def chainBytes {τ : Type} (vq : Virtqueue τ) (write : Bool) (head : Nat) : Option (List Nat) :=
  descBytes write <$> walkChain vq.vring.desc vq.vring.num head

/-! ## The steps -/

/-- The session on the ring, the physical memory, and, for each command that was queued, the bytes
of its response as the device has left them. -/
structure Delivery where
  session : Session PlacedVBuffer
  memory : Nat → UInt8
  answers : Nat → Nat → UInt8

inductive DeliveryEvent
  /-- a command function writes the command into this vbuffer and queues it -/
  | queueBuffer (p : PlacedVBuffer)
  /-- the device stores byte `i` of the response to the command number `index` that it has taken -/
  | store (index i : Nat) (byte : UInt8)
  /-- another step of the driver or of the device on the ring -/
  | ring (e : SessionEvent PlacedVBuffer)

namespace Delivery

/-- What the device reads as the command number `index`. -/
def received (s : Delivery) (index : Nat) : Option (List UInt8) := do
  let head ← s.session.taken[index]?
  let places ← chainBytes s.session.vq false head
  some (places.map s.memory)

/-- A command is queued in this vbuffer. -/
def queueBuffer (m : AddressSpace) (s : Delivery) (p : PlacedVBuffer) (c : Command)
    (session : Session PlacedVBuffer) : Delivery :=
  let memory := scatter s.memory (p.outBytes m) c.wire
  let response := fun i => memory (m.mmGetPhysicalAddress (p.respBuf + i))
  { session, memory, answers := Function.update s.answers s.session.added.length response }

/-- The device stores byte `i` of the response to the command number `index`, which is here. -/
def storeByte (s : Delivery) (index i place : Nat) (byte : UInt8) : Delivery :=
  let response := Function.update (s.answers index) i byte
  { s with
    memory := Function.update s.memory place byte
    answers := Function.update s.answers index response }

def step (m : AddressSpace) (s : Delivery) : DeliveryEvent → Option Delivery
  | .queueBuffer p => do
    let c ← p.vbuf.cmd
    match m.queueBufferLocked (AddressSpace.dataPages p.vbuf.dataSize) p with
    | .ok a =>
      let session ← s.session.step (.addBuf a.out a.inn p)
      some (s.queueBuffer m p c session)
    | .error _ => none
  | .store index i byte =>
    if index ∈ s.session.completed.map Completion.index then none
    else do
      let head ← s.session.taken[index]?
      let places ← chainBytes s.session.vq true head
      let place ← places[i]?
      some (s.storeByte index i place byte)
  | .ring (.addBuf ..) => none
  | .ring e => do
    let session ← s.session.step e
    some { s with session }

/-- What the pool and the allocator promise: the vbuffer is one that `QueueBufferLocked` can take,
with the sizes for its command, and its memory is its own. -/
def Orderly (m : AddressSpace) (s : Delivery) : DeliveryEvent → Prop
  | .queueBuffer p =>
    p.Proper m ∧ (∃ c, p.vbuf.Carries c) ∧ (p.footprint m).Nodup ∧
      ∀ j a, s.session.Outstanding j a → (p.footprint m).Disjoint (a.token.footprint m)
  | .store .. | .ring _ => True

/-- The driver and the device on a ring, with this in the memory. -/
def system (m : AddressSpace) (vq : Virtqueue PlacedVBuffer) (memory : Nat → UInt8) :
    System Delivery DeliveryEvent where
  init := ⟨Session.start vq, memory, fun _ _ => 0⟩
  step := step m

end Delivery

/-! ## What the device gets from a command -/

/-- **The device gets the command** from its bytes. -/
theorem Command.parse_wire (c : Command) : c.queue.parse c.wire = some c.stored := by
  cases c with
  | ctrl c =>
    change Command.ctrl <$> CtrlCommand.parse (c.bytes ++ c.data) = _
    rw [c.parse_wire]
    rfl
  | cursor c =>
    change Command.cursor <$> CursorCommand.parse (c.bytes ++ []) = _
    rw [List.append_nil, c.parse_wire]
    rfl

/-! ## What the pool gives -/

theorem VBuffer.carries_of_fill {p p' : Pool} {c : Command} {size respSize b : Nat}
    {respBuf : Option Nat} {fields : VBuffer → VBuffer}
    (h : p.fill c size respSize respBuf fields = some (b, p'))
    (hcmd : ∀ v, (fields v).cmd = v.cmd) (hsize : ∀ v, (fields v).size = v.size)
    (hsizes : size = c.size)
    (hdata : ∀ v, v.dataSize = 0 → (fields v).dataSize = c.data.length) :
    (p'.bufs b).Carries c := by
  unfold Pool.fill Pool.getBuf at h
  cases hfree : p.free with
  | nil => simp [hfree] at h
  | cons head free =>
    rw [hfree] at h
    cases h
    have hbuf : ∀ (q : Pool) (v : VBuffer), (q.setBuf b v).bufs b = v := fun _ _ => if_pos rfl
    rw [Carries, hbuf, hbuf, hcmd, hsize]
    exact ⟨rfl, hsizes, hdata _ rfl⟩

/-- **What a command function takes from the pool** has the sizes for its command. -/
theorem VBuffer.carries_of_build {p p' : Pool} {c : Command} {b : Nat}
    (h : p.build c = some (b, p')) : (p'.bufs b).Carries c := by
  unfold Pool.build at h
  split at h
  · exact carries_of_fill h (fun _ => rfl) (fun _ => rfl) rfl fun _ hzero => hzero
  · next r ents =>
    refine carries_of_fill h (fun _ => rfl) (fun _ => rfl) rfl fun _ _ => ?_
    exact (CtrlCommand.length_data_resourceAttachBacking r ents).symm
  · next c hinfo hattach =>
    refine carries_of_fill h (fun _ => rfl) (fun _ => rfl) rfl fun v hzero => ?_
    cases c with
    | resourceAttachBacking r ents => exact absurd rfl (hattach r ents)
    | _ => exact hzero
  · exact carries_of_fill h (fun _ => rfl) (fun _ => rfl) rfl fun _ hzero => hzero

end VioGpu.Queue
