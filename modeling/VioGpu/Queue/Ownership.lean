import VioGpu.Lib.Splice
import VioGpu.Lib.Transition
import VioGpu.Lib.Word
import VioGpu.Queue.Pool
import VioGpu.VirtIO.Channel

/-!
# Who owns a vbuffer

The command functions of `viogpu_queue.cpp`, `GpuDevice::GetDisplayInfo` and `DpcRoutine` run
as threads that interleave with each other and with the device. A vbuffer goes from the pool
to the function that builds a command, from there to one of the two rings, and from the ring
through the DPC back to the pool, or to the caller of `AskDisplayInfo`, who gives it back.

`QueueBuffer` and `QueueCursor` drop the result of `virtqueue_add_buf`: when the ring has no
room, the vbuffer stays behind in nobody's hands. Such vbuffers are listed in `unreturned`.
With them every vbuffer is accounted for in every state (`Inv`), and without them the
accounting is the one the pool relies on (`accounted`).
-/

namespace VioGpu.Queue

open Lib VirtIO

/-- The number of elements `QueueBufferLocked` puts into `sg`. The memory of a command is
valid, so that `BuildSGElement` gives one element for each page. -/
def VBuffer.sgCount (v : VBuffer) : Nat :=
  (if v.size ≠ 0 then 1 else 0) + (v.dataSize + pageSize - 1) / pageSize +
    (if v.respSize ≠ 0 then 1 else 0)

inductive QueueName
  | ctrl
  | cursor
  deriving DecidableEq, Repr

def Command.queue : Command → QueueName
  | .ctrl _ => .ctrl
  | .cursor _ => .cursor

/-! ## Threads -/

/-- A run of `DpcRoutine`: in one of its two loops, with or without a vbuffer it has taken
off the ring. After the first loop the second one follows if `cursor` is set. -/
inductive Dpc
  | ctrlLoop (cursor : Bool)
  | ctrlHolds (b : Nat) (cursor : Bool)
  | cursorLoop
  | cursorHolds (b : Nat)
  deriving DecidableEq, Repr

/-- A function at work. -/
inductive Thread
  /-- a command function that has its vbuffer and has not queued it -/
  | building (q : QueueName) (b : Nat)
  /-- `AskDisplayInfo` waits for the event of a vbuffer it has queued -/
  | waiting (b : Nat)
  /-- `AskDisplayInfo` waits for the event of a vbuffer the ring has not taken -/
  | stuck (b : Nat)
  /-- `GetDisplayInfo` between `AskDisplayInfo` and `ReleaseBuffer` -/
  | reading (b : Nat)
  | dpc (d : Dpc)
  deriving DecidableEq, Repr

/-- The vbuffers a thread has in its hands. -/
def Thread.holds : Thread → List Nat
  | .building _ b | .stuck b | .reading b | .dpc (.ctrlHolds b _) | .dpc (.cursorHolds b) => [b]
  | .waiting _ | .dpc (.ctrlLoop _) | .dpc .cursorLoop => []

/-- `unreturned` lists the vbuffers of the commands that came back from a failed add without
having given back the vbuffer and its data; `freedTwice` says that `FreeBuf` was applied to a
free vbuffer. -/
structure Owners where
  pool : Pool
  ctrl : Channel Nat
  cursor : Channel Nat
  threads : List Thread
  unreturned : List Nat
  freedTwice : Bool

inductive OwnerEvent
  /-- a command function is called and builds its command -/
  | call (c : Command)
  /-- thread `i` queues its vbuffer -/
  | queue (i : Nat)
  /-- thread `i` releases the response it has read -/
  | release (i : Nat)
  /-- the device completes a command of a ring -/
  | complete (q : QueueName) (j : Nat)
  /-- `DpcRoutine` has found these reasons -/
  | dpcStart (display cursor : Bool)
  | dpcStep (i : Nat)

namespace Owners

def ring (s : Owners) : QueueName → Channel Nat
  | .ctrl => s.ctrl
  | .cursor => s.cursor

def setRing (s : Owners) (q : QueueName) (ch : Channel Nat) : Owners :=
  match q with
  | .ctrl => { s with ctrl := ch }
  | .cursor => { s with cursor := ch }

/-- `ReleaseBuffer` -/
def releaseBuffer (s : Owners) (b : Nat) : Owners :=
  { s with
    pool := s.pool.freeBuf b, freedTwice := s.freedTwice || decide (b ∈ s.pool.free) }

/-- `KeSetEvent` on the event of a vbuffer: whoever waits for it goes on. -/
def setEvent (threads : List Thread) (b : Nat) : List Thread :=
  if .waiting b ∈ threads then splice threads (threads.idxOf (.waiting b)) [.reading b] else threads

/-- The vbuffer is free and its data is deleted. -/
def GivenBack (s : Owners) (b : Nat) : Prop :=
  b ∈ s.pool.free ∧ ∀ block ∈ (s.pool.bufs b).ownData, block ∉ s.pool.heap

instance (s : Owners) (b : Nat) : Decidable (s.GivenBack b) := inferInstanceAs (Decidable (_ ∧ _))

/-- `QueueBuffer` or `QueueCursor` in thread `i`. After it the command functions return,
whatever it returned, and `AskDisplayInfo` waits. -/
def queueBuffer (s : Owners) (i : Nat) (q : QueueName) (b : Nat) : Owners :=
  let v := s.pool.bufs b
  match (s.ring q).addBuf b v.sgCount with
  | some ch =>
    if q = .ctrl ∧ v.event then { s.setRing q ch with threads := splice s.threads i [.waiting b] }
    else { s.setRing q ch with threads := splice s.threads i [] }
  | none =>
    if q = .ctrl ∧ v.event then { s with threads := splice s.threads i [.stuck b] }
    else
      { s with
        threads := splice s.threads i []
        unreturned := if s.GivenBack b then s.unreturned else s.unreturned ++ [b] }

/-- The next step of a run of `DpcRoutine` in thread `i`. -/
def dpcStep (s : Owners) (i : Nat) : Dpc → Owners
  | .ctrlLoop cursor =>
    match s.ctrl.getBuf with
    | some (b, ch) =>
      { s with ctrl := ch, threads := splice s.threads i [.dpc (.ctrlHolds b cursor)] }
    | none => { s with threads := splice s.threads i (if cursor then [.dpc .cursorLoop] else []) }
  | .ctrlHolds b cursor =>
    let s := { s with threads := splice s.threads i [.dpc (.ctrlLoop cursor)] }
    let v := s.pool.bufs b
    if v.event = false then s.releaseBuffer b
    else if v.cmd = some (.ctrl .getDisplayInfo) then
      { s with threads := setEvent s.threads b }
    else s  -- "Unknown cmd type 0x%x"
  | .cursorLoop =>
    match s.cursor.getBuf with
    | some (b, ch) =>
      { s with cursor := ch, threads := splice s.threads i [.dpc (.cursorHolds b)] }
    | none => { s with threads := splice s.threads i [] }
  | .cursorHolds b =>
    { s with threads := splice s.threads i [.dpc .cursorLoop] }.releaseBuffer b

def step (s : Owners) : OwnerEvent → Option Owners
  | .call c =>
    match s.pool.build c with
    | none => none  -- `RtlZeroMemory` writes through `NULL`: no state follows
    | some (b, pool) => some { s with pool, threads := s.threads ++ [.building c.queue b] }
  | .queue i =>
    match s.threads[i]? with
    | some (.building q b) => some (s.queueBuffer i q b)
    | _ => none
  | .release i =>
    match s.threads[i]? with
    | some (.reading b) => some ({ s with threads := splice s.threads i [] }.releaseBuffer b)
    | _ => none
  | .complete q j => (s.setRing q ·) <$> (s.ring q).complete j
  | .dpcStart display cursor =>
    let dpc := if display then [.dpc (.ctrlLoop cursor)] else if cursor then [.dpc .cursorLoop] else []
    some { s with threads := s.threads ++ dpc }
  | .dpcStep i =>
    match s.threads[i]? with
    | some (.dpc d) => some (s.dpcStep i d)
    | _ => none

/-- The state after `VioGpuBuf::Init`, with rings of these sizes. -/
def start (allocations : List Bool) (ctrlNum cursorNum : Nat) : Owners where
  pool := .init allocations
  ctrl := .new ctrlNum
  cursor := .new cursorNum
  threads := []
  unreturned := []
  freedTwice := false

def system (allocations : List Bool) (ctrlNum cursorNum : Nat) : System Owners OwnerEvent where
  init := start allocations ctrlNum cursorNum
  step := step

/-- When no function is at work each of the `n` vbuffers is once in the free list or the
token of one outstanding chain; no command has kept a vbuffer its ring did not take; and
`FreeBuf` was never applied to a free vbuffer. -/
structure Accounted (n : Nat) (s : Owners) : Prop where
  owned : s.threads = [] → ∀ b,
    (s.pool.free ++ s.ctrl.tokens ++ s.cursor.tokens).count b = if b < n then 1 else 0
  returned : s.unreturned = []
  freedOnce : s.freedTwice = false

end Owners

end VioGpu.Queue
