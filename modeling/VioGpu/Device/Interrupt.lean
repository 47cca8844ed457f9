import VioGpu.Lib.Transition
import VioGpu.Queue.Command
import VioGpu.VirtIO.Channel

/-!
# Interrupts (`GpuDevice::InterruptRoutine`, `GpuDevice::DpcRoutine`)

The device reports completions and configuration changes in the ISR register, whose read
returns and clears it. `InterruptRoutine` turns what it reads into reasons in
`m_PendingWorks` and queues the DPC; `DpcRoutine` takes the reasons with an exchange, until
there are none, and drains the rings they name.

`InterruptRoutine` tells three values of the register apart. It takes 1 for completions and 3
for a configuration change alone, and it drops 2. Nothing is lost as long as whatever these
readings pass over is on the way to the DPC already (`drained`).
-/

namespace VioGpu.Device

open Lib VirtIO Queue

/-- The ISR register: bit 0 for the queues, bit 1 for the configuration. -/
structure Isr where
  queue : Bool
  config : Bool
  deriving DecidableEq, Repr

def Isr.value (r : Isr) : Nat := (if r.queue then 1 else 0) + if r.config then 2 else 0

/-- A set of the reasons `ISR_REASON_DISPLAY`, `ISR_REASON_CURSOR` and `ISR_REASON_CHANGE`. -/
structure Reasons where
  display : Bool
  cursor : Bool
  change : Bool
  deriving DecidableEq, Repr

def Reasons.none : Reasons := ⟨false, false, false⟩

/-- What `DpcRoutine` looks at in a vbuffer of the control queue. -/
structure CtrlVbuf where
  id : Nat
  cmd : CtrlCommand
  event : Bool
  deriving DecidableEq, Repr

/-- Only `AskDisplayInfo` queues a command with an event. -/
def CtrlVbuf.of (id : Nat) (cmd : CtrlCommand) : CtrlVbuf := ⟨id, cmd, cmd = .getDisplayInfo⟩

/-- Where a run of `DpcRoutine` is: before its exchange, or in the part of the loop body that
belongs to one reason. A vbuffer that was dequeued is in its hands until it is released or
signalled. -/
inductive DpcAt
  | exchange
  | display (reason : Reasons)
  | displayHolds (reason : Reasons) (v : CtrlVbuf)
  | cursor (reason : Reasons)
  | cursorHolds (reason : Reasons) (b : Nat)
  | change (reason : Reasons)
  deriving DecidableEq, Repr

/-- The device, the interrupt routine and the DPC. `dequeued`, `released` and `signalled` are
the vbuffers taken off the rings, those given to `ReleaseBuffer` and those whose event was
set; `changeOwed` says that the configuration has changed since `m_ConfigUpdateEvent` was last
set. -/
structure Irq where
  isr : Isr
  ctrl : Channel CtrlVbuf
  cursor : Channel Nat
  pendingWorks : Reasons
  /-- what `InterruptRoutine` has read and not acted on yet -/
  isrstat : Option Nat
  dpcQueued : Bool
  dpc : Option DpcAt
  configUpdateEvent : Bool
  dequeued : List Nat
  released : List Nat
  signalled : List Nat
  changeOwed : Bool

inductive IrqEvent
  | addCtrl (b : Nat) (cmd : CtrlCommand) (n : Nat)
  | addCursor (b n : Nat)
  | completeCtrl (j : Nat)
  | completeCursor (j : Nat)
  | configChange
  | readIsr
  | interrupt
  | dpcStart
  | dpcStep
  | workerWakes
  deriving DecidableEq, Repr

namespace Irq

/-- The rest of `InterruptRoutine` once it has read `isrstat`. -/
def interruptRoutine (s : Irq) (isrstat : Nat) : Irq :=
  if isrstat = 1 then
    { s with
      pendingWorks := { s.pendingWorks with display := true, cursor := true }, dpcQueued := true }
  else if isrstat = 3 then
    { s with pendingWorks := { s.pendingWorks with change := true }, dpcQueued := true }
  else s  -- "Unknown Interrupt Reason %d"

/-- What `DpcRoutine` does with a vbuffer of the control queue. -/
def handleCtrl (s : Irq) (v : CtrlVbuf) : Irq :=
  if v.event = false then { s with released := s.released ++ [v.id] }
  else if v.cmd = .getDisplayInfo then { s with signalled := s.signalled ++ [v.id] }
  else s  -- "Unknown cmd type 0x%x"

/-- The next step of `DpcRoutine`. -/
def dpcRoutine (s : Irq) : DpcAt → Irq
  | .exchange =>
    let reason := s.pendingWorks
    { s with
      pendingWorks := .none, dpc := if reason = .none then none else some (.display reason) }
  | .display reason =>
    if reason.display then
      match s.ctrl.getBuf with
      | some (v, ch) =>
        { s with ctrl := ch, dequeued := s.dequeued ++ [v.id], dpc := some (.displayHolds reason v) }
      | none => { s with dpc := some (.cursor reason) }
    else { s with dpc := some (.cursor reason) }
  | .displayHolds reason v => { s with dpc := some (.display reason) }.handleCtrl v
  | .cursor reason =>
    if reason.cursor then
      match s.cursor.getBuf with
      | some (b, ch) =>
        { s with cursor := ch, dequeued := s.dequeued ++ [b], dpc := some (.cursorHolds reason b) }
      | none => { s with dpc := some (.change reason) }
    else { s with dpc := some (.change reason) }
  | .cursorHolds reason b =>
    { s with released := s.released ++ [b], dpc := some (.cursor reason) }
  | .change reason =>
    if reason.change then
      { s with configUpdateEvent := true, changeOwed := false, dpc := some .exchange }
    else { s with dpc := some .exchange }

def step (s : Irq) : IrqEvent → Option Irq
  | .addCtrl b cmd n => ({ s with ctrl := · }) <$> s.ctrl.addBuf (.of b cmd) n
  | .addCursor b n => ({ s with cursor := · }) <$> s.cursor.addBuf b n
  | .completeCtrl j =>
    ({ s with ctrl := ·, isr := { s.isr with queue := true } }) <$> s.ctrl.complete j
  | .completeCursor j =>
    ({ s with cursor := ·, isr := { s.isr with queue := true } }) <$> s.cursor.complete j
  | .configChange => some { s with isr := { s.isr with config := true }, changeOwed := true }
  | .readIsr =>
    if s.isrstat.isNone then some { s with isrstat := some s.isr.value, isr := ⟨false, false⟩ }
    else none
  | .interrupt => do
    let isrstat ← s.isrstat
    some { s.interruptRoutine isrstat with isrstat := none }
  | .dpcStart =>
    if s.dpcQueued ∧ s.dpc.isNone then some { s with dpcQueued := false, dpc := some .exchange }
    else none
  | .dpcStep => s.dpcRoutine <$> s.dpc
  | .workerWakes =>
    if s.configUpdateEvent then some { s with configUpdateEvent := false } else none

/-- The state after initialization, with rings of these sizes. -/
def start (ctrlNum cursorNum : Nat) : Irq where
  isr := ⟨false, false⟩
  ctrl := .new ctrlNum
  cursor := .new cursorNum
  pendingWorks := .none
  isrstat := none
  dpcQueued := false
  dpc := none
  configUpdateEvent := false
  dequeued := []
  released := []
  signalled := []
  changeOwed := false

def system (ctrlNum cursorNum : Nat) : System Irq IrqEvent where
  init := start ctrlNum cursorNum
  step := step

/-- Nothing is reported, pending or running: the register is clear, `InterruptRoutine` has
acted on what it last read, and there is no work for the DPC. -/
structure Quiescent (s : Irq) : Prop where
  isr : s.isr = ⟨false, false⟩
  isrstat : s.isrstat = none
  notQueued : s.dpcQueued = false
  notRunning : s.dpc = none
  noWork : s.pendingWorks = .none

/-- Every completion was dequeued and released or signalled, and `m_ConfigUpdateEvent` was
set after every configuration change. -/
structure Drained (s : Irq) : Prop where
  ctrl : s.ctrl.used = []
  cursor : s.cursor.used = []
  handled : ∀ b, s.dequeued.count b = s.released.count b + s.signalled.count b
  change : s.changeOwed = false

end Irq

end VioGpu.Device
