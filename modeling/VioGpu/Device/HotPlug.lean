import VioGpu.Device.CustomMode
import VioGpu.Device.DisplayInfo
import VioGpu.Device.Interrupt

/-!
# A new size of the display

When the host changes the size of a display, it sets a bit of `events_read` and the configuration
bit of the ISR register. `InterruptRoutine` takes the change to the DPC where it reads both bits of
the register, and drops it where it reads the configuration bit alone; the DPC sets
`m_ConfigUpdateEvent`. The worker thread wakes up (`ThreadWorkRoutine`), reads `events_read`, asks
for the display information, writes a custom mode, clears the bit through `events_clear`, and tells
the OS that the monitor is gone and back again (`ConfigChanged`), so that it reads the modes anew.
The host may change the size again at any moment, and the device may be closed.
-/

namespace VioGpu.Device

open Lib

/-- `VIRTIO_GPU_EVENT_DISPLAY` -/
def virtioGpuEventDisplay : BitVec 32 := 1#32

/-- What the answer for a scanout does to the resolution. -/
def scanoutResolution (modes : Nat → DispOne) (res : Nat × Nat) (id : Nat) : Nat × Nat :=
  if (modes id).enabled ≠ 0 then ((modes id).width, (modes id).height) else res

/-- The resolution that the loop over the scanouts comes to. -/
def resolution (numScanouts : Nat) (modes : Nat → DispOne) : Nat × Nat :=
  (List.range numScanouts).foldl (scanoutResolution modes) (0, 0)

/-- Where the worker thread is. -/
inductive WorkerAt
  /-- in the wait of `ThreadWorkRoutine` -/
  | waiting
  /-- before it looks at `m_bStopWorkThread` -/
  | woken
  /-- before it reads `events_read` -/
  | configChanged
  /-- before `AskDisplayInfo` queues the command -/
  | asks
  /-- in the wait of `AskDisplayInfo` -/
  | awaits
  /-- before the custom mode is set for this resolution -/
  | custom (res : Nat × Nat)
  /-- before it writes `events_clear` -/
  | clears
  /-- before `UpdateChildStatus(FALSE)` -/
  | disconnects
  /-- before `UpdateChildStatus(TRUE)` -/
  | connects
  | terminated
  deriving DecidableEq, Repr

/-- The device, the worker thread and the OS. `modes` is what the device answers a question for the
display information with, `isrConfig` is the configuration bit of the ISR register, `pendingChange`
is `ISR_REASON_CHANGE` in `m_PendingWorks`, `inRing` says that the question is in the control ring,
`queueOpen` that `m_CtrlQueue` has its virtqueue, and `seen` has the modes that the OS has read. -/
structure HotPlug where
  modes : Nat → DispOne
  eventsRead : BitVec 32
  isrConfig : Bool
  pendingChange : Bool
  queueOpen : Bool
  inRing : Bool
  configUpdateEvent : Bool
  stopWorkThread : Bool
  worker : WorkerAt
  table : ModeTable
  seen : List VideoModeInformation

inductive HotPlugEvent
  /-- the host changes a display -/
  | change (modes : Nat → DispOne)
  /-- another change of the configuration -/
  | otherChange
  /-- `InterruptRoutine` reads the ISR register; `queue` is the other bit of it -/
  | interrupt (queue : Bool)
  /-- the DPC takes the reasons and sets `m_ConfigUpdateEvent` -/
  | dpc
  /-- the next step of the worker thread; `entered` says whether its command finds room -/
  | worker (entered : Bool)
  /-- the device answers, with the display information or with an error, and the worker has it -/
  | answer (ok : Bool)
  /-- `GpuDeviceClose` -/
  | gpuDeviceClose
  /-- `HWClose`, up to its wait for the thread -/
  | hwClose

namespace HotPlug

/-- What `GetDisplayInfo` does with the resolution. -/
def setCustom (t : ModeTable) (res : Nat × Nat) : Option ModeTable :=
  if res.1 ≠ 0 ∧ res.2 ≠ 0 then t.setCustomDisplay (u16 res.1) (u16 res.2) else some t

/-- The next step of the worker thread, in `ThreadWorkRoutine`, `ConfigChanged` and
`GetDisplayInfo`. -/
def workerStep (s : HotPlug) (entered : Bool) : Option HotPlug :=
  match s.worker with
  | .waiting =>
    if s.configUpdateEvent then some { s with configUpdateEvent := false, worker := .woken }
    else none
  | .woken => some { s with worker := if s.stopWorkThread then .terminated else .configChanged }
  | .configChanged =>
    some { s with
      worker := if s.eventsRead &&& virtioGpuEventDisplay ≠ 0 then .asks else .waiting }
  | .asks => if s.queueOpen then some { s with worker := .awaits, inRing := entered } else none
  | .awaits => none
  | .custom res => do
    let table ← setCustom s.table res
    some { s with table, worker := .clears }
  | .clears =>
    some { s with
      eventsRead := s.eventsRead &&& ~~~virtioGpuEventDisplay, worker := .disconnects }
  | .disconnects => some { s with seen := [], worker := .connects }
  | .connects => some { s with seen := s.table.modes, worker := .waiting }
  | .terminated => none

/-- `InterruptRoutine`, for a change of the configuration: 3 is one, and 2 is taken for an unknown
reason. The read of the register clears it. -/
def interruptRoutine (s : HotPlug) (queue : Bool) : HotPlug :=
  let isrstat := (Isr.mk queue s.isrConfig).value
  { s with isrConfig := false, pendingChange := s.pendingChange || isrstat = 3 }

def step (numScanouts : Nat) (s : HotPlug) : HotPlugEvent → Option HotPlug
  | .change modes =>
    some { s with modes, eventsRead := s.eventsRead ||| virtioGpuEventDisplay, isrConfig := true }
  | .otherChange => some { s with isrConfig := true }
  | .interrupt queue => some (s.interruptRoutine queue)
  | .dpc =>
    if s.pendingChange then some { s with pendingChange := false, configUpdateEvent := true }
    else none
  | .worker entered => s.workerStep entered
  | .answer ok =>
    if s.worker = .awaits ∧ s.inRing then
      some { s with
        worker := .custom (if ok then resolution numScanouts s.modes else (0, 0)), inRing := false }
    else none
  | .gpuDeviceClose => some { s with queueOpen := false, inRing := false }
  | .hwClose => some { s with stopWorkThread := true, configUpdateEvent := true }

/-- After `HWInit`. -/
def start (modes : Nat → DispOne) (table : ModeTable) : HotPlug where
  modes := modes
  eventsRead := 0
  isrConfig := false
  pendingChange := false
  queueOpen := true
  inRing := false
  configUpdateEvent := false
  stopWorkThread := false
  worker := .waiting
  table := table
  seen := table.modes

def system (numScanouts : Nat) (modes : Nat → DispOne) (table : ModeTable) :
    System HotPlug HotPlugEvent where
  init := start modes table
  step := step numScanouts

end HotPlug

end VioGpu.Device
