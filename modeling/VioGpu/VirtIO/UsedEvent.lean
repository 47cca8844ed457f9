import VioGpu.VirtIO.NotificationRuns

/-!
# Callbacks of a queue

`virtqueue_disable_cb`, `virtqueue_enable_cb` and `virtqueue_enable_cb_delayed` say when the driver
wants an interrupt: by a flag, and by `used_event`, the index behind which the next entry of the
used ring is to raise one. `virtqueue_get_buf` moves `used_event` along while interrupts are on. The
device publishes entries, looks at what the driver wants, and raises the interrupt.

A call of the driver is split so that no step accesses more than one word that the other side
writes or reads. `waiting` is bookkeeping: it is set where the driver learns that there is not more
work than it has put up with, and may go to sleep.
-/

namespace VioGpu.VirtIO

open Lib Virtqueue

variable {τ : Type}

/-! ## The functions -/

def Virtqueue.writeAvailFlags (vq : Virtqueue τ) (flags : UInt16) : Virtqueue τ :=
  { vq with vring := { vq.vring with avail := { vq.vring.avail with flags := flags } } }

/-- `virtqueue_is_interrupt_enabled` -/
def virtqueueIsInterruptEnabled (vq : Virtqueue τ) : Bool :=
  vq.availFlagsShadow &&& vringAvailFNoInterrupt == 0

/-- `virtqueue_disable_cb` -/
def virtqueueDisableCb (vq : Virtqueue τ) : Virtqueue τ :=
  if virtqueueIsInterruptEnabled vq then
    let flags := vq.availFlagsShadow ||| vringAvailFNoInterrupt
    { vq with availFlagsShadow := flags }.writeAvailFlags flags
  else vq

/-- The first lines of `virtqueue_enable_cb` and `virtqueue_enable_cb_delayed`. -/
def clearNoInterrupt (vq : Virtqueue τ) : Virtqueue τ :=
  if virtqueueIsInterruptEnabled vq then vq
  else
    let flags := vq.availFlagsShadow &&& ~~~vringAvailFNoInterrupt
    { vq with availFlagsShadow := flags }.writeAvailFlags flags

theorem isInterruptEnabled_clear (vq : Virtqueue τ) :
    virtqueueIsInterruptEnabled (clearNoInterrupt vq) = true := by
  unfold clearNoInterrupt
  split
  · assumption
  · have hmask : ~~~vringAvailFNoInterrupt &&& vringAvailFNoInterrupt = 0 := rfl
    show (vq.availFlagsShadow &&& ~~~vringAvailFNoInterrupt &&& vringAvailFNoInterrupt == 0) = true
    rw [UInt16.and_assoc, hmask, UInt16.and_zero]
    rfl

theorem lastUsedIdx_clear (vq : Virtqueue τ) :
    (clearNoInterrupt vq).lastUsedIdx = vq.lastUsedIdx := by
  unfold clearNoInterrupt
  split <;> rfl

/-- `virtqueue_enable_cb` -/
def virtqueueEnableCb (vq : Virtqueue τ) : Bool × Virtqueue τ :=
  let vq := clearNoInterrupt vq
  let vq := vq.writeUsedEvent vq.lastUsedIdx
  (!moreUsed vq, vq)

/-- How many used entries `virtqueue_enable_cb_delayed` puts up with, its `bufs`. -/
def delayedBufs (vq : Virtqueue τ) : Nat := sub16 vq.availIdxShadow vq.lastUsedIdx * 3 / 4

/-- `virtqueue_enable_cb_delayed` -/
def virtqueueEnableCbDelayed (vq : Virtqueue τ) : Bool × Virtqueue τ :=
  let vq := clearNoInterrupt vq
  let bufs := delayedBufs vq
  let vq := vq.writeUsedEvent (u16 (vq.lastUsedIdx + bufs))
  (!decide (bufs < sub16 vq.vring.used.idx vq.lastUsedIdx), vq)

/-- `virtqueue_get_buf` up to the test of the flag at its end. -/
def getBufTake (vq : Virtqueue τ) : Result (GetResult τ × Virtqueue τ) :=
  if vq.broken then pure (⟨none, none⟩, vq)
  else if !moreUsed vq then pure (⟨none, none⟩, vq)
  else do
    let lastUsed := vq.lastUsedIdx &&& (vq.vring.num - 1)
    let e ← vq.readUsed lastUsed
    if vq.vring.num ≤ e.id then pure (⟨none, some e.len⟩, vq)
    else
      match ← vq.readData e.id with
      | none => pure (⟨none, some e.len⟩, vq)
      | some ret =>
        let vq ← detachBuf vq e.id
        pure (⟨some ret, some e.len⟩, { vq with lastUsedIdx := u16 (vq.lastUsedIdx + 1) })

/-- The end of `virtqueue_get_buf`. -/
def expectNext (vq : Virtqueue τ) : Virtqueue τ :=
  if virtqueueIsInterruptEnabled vq then vq.writeUsedEvent vq.lastUsedIdx else vq

/-- The parts make up the function. -/
theorem virtqueueGetBuf_eq (vq : Virtqueue τ) :
    virtqueueGetBuf vq = (do
      let (r, vq) ← getBufTake vq
      pure (r, if r.ret.isSome then expectNext vq else vq)) := by
  unfold virtqueueGetBuf getBufTake takeUsed
  split
  · rfl
  · split
    · rfl
    · dsimp only
      cases vq.readUsed (vq.lastUsedIdx &&& (vq.vring.num - 1)) with
      | error f => rfl
      | ok e =>
        simp only [bind, Except.bind, pure, Except.pure]
        split
        · rfl
        · cases vq.readData e.id with
          | error f => rfl
          | ok t =>
            cases t with
            | none => rfl
            | some t => cases detachBuf vq e.id <;> rfl

/-! ## The two sides -/

/-- Where the driver is: between calls, before the end of `virtqueue_get_buf`, before the write of
`used_event` in one of the two functions that enable callbacks, or before their last test. -/
inductive CallbackAt
  | idle
  | taken
  | enabling (delayed : Bool)
  | checking (delayed : Bool)
  deriving DecidableEq, Repr

/-- A queue with both sides. `unsignalled` counts the entries that the device has published since
it last looked at what the driver wants, and `raised` its interrupts. The driver waits since the
count of interrupts was `waiting`, and puts up with `delay` entries. -/
structure Callbacks (τ : Type) where
  vq : Virtqueue τ
  driver : CallbackAt
  waiting : Option Nat
  delay : Nat
  unsignalled : Nat
  raising : Bool
  raised : Nat

inductive CallbackEvent (τ : Type)
  | addBuf (out inn : List Scatterlist) (data : τ) (indirect : Option Nat)
  | kick
  | getBuf
  | expect
  | disableCb
  | enableCb (delayed : Bool)
  | writeUsedEvent
  | check
  /-- the device publishes an entry, and may write the rest of the used ring -/
  | publish (flags : UInt16) (ring : Nat → VringUsedElem) (availEvent : Nat)
  /-- the device looks at what the driver wants -/
  | signal
  | interrupt

namespace Callbacks

/-- Whether the device is to raise an interrupt for the `unsignalled` entries. -/
def wanted (s : Callbacks τ) : Bool :=
  if s.vq.event then
    vringNeedEvent s.vq.vring.avail.usedEvent s.vq.vring.used.idx
      (sub16 s.vq.vring.used.idx s.unsignalled)
  else s.vq.vring.avail.flags &&& vringAvailFNoInterrupt == 0

/-- The last test of the functions that enable callbacks. -/
def quiet (vq : Virtqueue τ) (delayed : Bool) : Bool :=
  if delayed then !decide (delayedBufs vq < sub16 vq.vring.used.idx vq.lastUsedIdx)
  else !moreUsed vq

/-- A step of the driver or of the device. A call that does not return is none. -/
def step (s : Callbacks τ) : CallbackEvent τ → Option (Callbacks τ)
  | .addBuf out inn data indirect =>
    if s.driver = .idle then
      (virtqueueAddBuf s.vq out inn data indirect).toOption.map fun r => { s with vq := r.2 }
    else none
  | .kick => if s.driver = .idle then some { s with vq := virtqueueKick s.vq } else none
  | .getBuf =>
    if s.driver = .idle then
      (getBufTake s.vq).toOption.map fun r =>
        if r.1.ret.isSome then { s with vq := r.2, driver := .taken, waiting := none }
        else if virtqueueIsInterruptEnabled s.vq ∧ moreUsed s.vq = false then
          { s with vq := r.2, waiting := some s.raised }
        else { s with vq := r.2, waiting := none }
    else none
  | .expect =>
    if s.driver = .taken then
      some { s with vq := expectNext s.vq, driver := .idle, delay := 0 }
    else none
  | .disableCb => some { s with vq := virtqueueDisableCb s.vq, waiting := none }
  | .enableCb delayed =>
    if s.driver = .idle then
      some { s with vq := clearNoInterrupt s.vq, driver := .enabling delayed, waiting := none }
    else none
  | .writeUsedEvent =>
    match s.driver with
    | .enabling delayed =>
      let bufs := if delayed then delayedBufs s.vq else 0
      some { s with
        vq := s.vq.writeUsedEvent (u16 (s.vq.lastUsedIdx + bufs))
        driver := .checking delayed
        delay := bufs }
    | _ => none
  | .check =>
    match s.driver with
    | .checking delayed =>
      some { s with
        driver := .idle
        waiting := if virtqueueIsInterruptEnabled s.vq ∧ quiet s.vq delayed = true then
          some s.raised else none }
    | _ => none
  | .publish flags ring availEvent =>
    if s.unsignalled < 65535 then
      some { s with
        vq := s.vq.withUsed ⟨flags, u16 (s.vq.vring.used.idx + 1), ring, availEvent⟩
        unsignalled := s.unsignalled + 1 }
    else none
  | .signal =>
    if s.raising = false ∧ 0 < s.unsignalled then
      some { s with raising := s.wanted, unsignalled := 0 }
    else none
  | .interrupt =>
    if s.raising then some { s with raising := false, raised := s.raised + 1 } else none

/-- Both sides on a queue before any call. -/
def start (vq : Virtqueue τ) : Callbacks τ := ⟨vq, .idle, none, 0, 0, false, 0⟩

def system (vq : Virtqueue τ) : System (Callbacks τ) (CallbackEvent τ) where
  init := start vq
  step := step

/-- The state after a list of events. -/
def runFrom (s : Callbacks τ) (events : List (CallbackEvent τ)) : Option (Callbacks τ) :=
  events.foldlM step s

/-! ## A call in steps -/

/-- The steps of `virtqueue_enable_cb` and `virtqueue_enable_cb_delayed`, where the device does
nothing in between: what they return is whether the driver may wait. -/
theorem enableCb_run {s : Callbacks τ} (hidle : s.driver = .idle)
    (hlast : s.vq.lastUsedIdx < 65536) (delayed : Bool) :
    ∃ s', s.runFrom [.enableCb delayed, .writeUsedEvent, .check] = some s' ∧
      (s'.waiting.isSome, s'.vq) =
        (if delayed then virtqueueEnableCbDelayed s.vq else virtqueueEnableCb s.vq) := by
  refine ⟨_, by simp only [runFrom, List.foldlM_cons, step, hidle, if_true]; rfl, ?_⟩
  have henabled : ∀ idx,
      virtqueueIsInterruptEnabled ((clearNoInterrupt s.vq).writeUsedEvent idx) = true :=
    fun _ => isInterruptEnabled_clear s.vq
  have hsome : ∀ b : Bool, (if b = true then some s.raised else none).isSome = b := by
    intro b
    cases b <;> rfl
  simp only [henabled, true_and]
  cases delayed with
  | false =>
    have hzero : u16 ((clearNoInterrupt s.vq).lastUsedIdx + 0) =
        (clearNoInterrupt s.vq).lastUsedIdx := by
      rw [lastUsedIdx_clear]
      exact Nat.mod_eq_of_lt hlast
    simp only [Bool.false_eq_true, if_false, hzero, hsome]
    rfl
  | true =>
    simp only [if_true, hsome]
    rfl

end Callbacks

end VioGpu.VirtIO
