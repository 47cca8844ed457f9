import VioGpu.Lib.Except
import VioGpu.Lib.Transition
import VioGpu.VirtIO.Ring

/-!
# The driver's kicks and a device that sleeps

The driver adds buffers and kicks; the device takes what is available, publishes in
`avail_event` how far it got, looks at `avail->idx` once more and sleeps if there is nothing
new. A call of the driver is split so that no step accesses shared memory more than once: an
add ends with the write of `avail->idx`, `virtqueue_kick_prepare` reads `avail_event`, and the
write to the notification register is a step of its own, also in the kick that
`virtqueue_add_buf` makes when `num_added` is about to wrap.
-/

namespace VioGpu.VirtIO

open Lib Virtqueue

variable {τ : Type}

/-! ## `virtqueue_add_buf` in parts -/

/-- `virtqueue_add_buf` up to the write barrier; `none` if there is no room. -/
def prepareBuf (vq : Virtqueue τ) (out inn : List Scatterlist) (data : τ)
    (indirect : Option Nat) : Result (Option (Virtqueue τ)) := do
  let direct : Result (Option (Virtqueue τ)) :=
    if vq.numFree < outPlusIn out inn then pure none
    else do
      let (_, vq) ← prepareDirect vq out inn data
      pure (some vq)
  match indirect with
  | some phys =>
    if 1 < outPlusIn out inn ∧ vq.numFree ≠ 0 then do
      let (_, vq) ← prepareIndirect vq out inn data phys
      pure (some vq)
    else direct
  | none => direct

/-- The lines after the barrier up to the test of `num_added`. -/
def exposeHead (vq : Virtqueue τ) : Virtqueue τ :=
  let idx := u16 (vq.availIdxShadow + 1)
  let vq := { vq with availIdxShadow := idx }
  let vq := vq.writeAvailIdx idx
  { vq with numAdded := vq.numAdded + 1 }

theorem publishHead_eq (vq : Virtqueue τ) :
    publishHead vq =
      if (exposeHead vq).numAdded = 65535 then virtqueueKick (exposeHead vq) else exposeHead vq :=
  rfl

/-- The parts make up the function. -/
theorem virtqueueAddBuf_eq (vq : Virtqueue τ) (out inn : List Scatterlist) (data : τ)
    (indirect : Option Nat) :
    virtqueueAddBuf vq out inn data indirect = (do
      let prepared ← prepareBuf vq out inn data indirect
      pure (prepared.elim (.enospc, if out.length ≠ 0 then virtqueueNotify vq else vq)
        fun vq => (.ok, publishHead vq))) := by
  have hdirect : addDirectBuf vq out inn data = (do
      let prepared ← (if vq.numFree < outPlusIn out inn then pure none
        else do
          let (_, vq) ← prepareDirect vq out inn data
          pure (some vq) : Result (Option (Virtqueue τ)))
      pure (prepared.elim (.enospc, if out.length ≠ 0 then virtqueueNotify vq else vq)
        fun vq => (.ok, publishHead vq))) := by
    unfold addDirectBuf
    split
    · rfl
    · cases prepareDirect vq out inn data <;> rfl
  cases indirect with
  | none => exact hdirect
  | some phys =>
    simp only [virtqueueAddBuf, prepareBuf]
    split
    · cases prepareIndirect vq out inn data phys <;> rfl
    · exact hdirect

/-! ## The two sides -/

/-- Where the driver is: between calls, before it prepares a kick, or before it writes to the
notification register. -/
inductive DriverAt
  | idle
  | kicking
  | notifying
  deriving DecidableEq, Repr

/-- Where the device is: it takes what is available, it has published `avail_event`, or it
sleeps, since the count of notifications was `notified`. -/
inductive DeviceAt
  | consuming
  | published
  | asleep (notified : Nat)
  deriving DecidableEq, Repr

/-- A queue with both sides; `consumed` is the index up to which the device has taken entries. -/
structure Doorbell (τ : Type) where
  vq : Virtqueue τ
  driver : DriverAt
  device : DeviceAt
  consumed : Nat

inductive DoorbellEvent (τ : Type)
  | addBuf (out inn : List Scatterlist) (data : τ) (indirect : Option Nat)
  | kick
  | kickAlways
  | kickPrepare
  | notify
  | getBuf
  | consume
  | publish
  | recheck
  /-- with or without a notification -/
  | wake
  /-- the device writes to the used ring -/
  | writeUsed (flags : UInt16) (idx : Nat) (ring : Nat → VringUsedElem)

/-- The events of the driver. -/
def DoorbellEvent.IsDriver : DoorbellEvent τ → Prop
  | .addBuf .. | .kick | .kickAlways | .kickPrepare | .notify | .getBuf => True
  | .consume | .publish | .recheck | .wake | .writeUsed .. => False

namespace Doorbell

/-- The driver after an add that came to `prepared`. -/
def added (s : Doorbell τ) (out : List Scatterlist) : Option (Virtqueue τ) → Doorbell τ
  | none => { s with driver := if out.length ≠ 0 then .notifying else .idle }
  | some vq =>
    let vq := exposeHead vq
    { s with vq, driver := if vq.numAdded = 65535 then .kicking else .idle }

/-- A step of the driver or of the device. A call that does not return is none. -/
def step (s : Doorbell τ) : DoorbellEvent τ → Option (Doorbell τ)
  | .addBuf out inn data indirect =>
    if s.driver = .idle then
      (prepareBuf s.vq out inn data indirect).toOption.map (s.added out)
    else none
  | .kick => if s.driver = .idle then some { s with driver := .kicking } else none
  | .kickAlways =>
    if s.driver = .idle then
      some { s with vq := { s.vq with numAdded := 0 }, driver := .notifying }
    else none
  | .kickPrepare =>
    if s.driver = .kicking then
      let (needsKick, vq) := virtqueueKickPrepare s.vq
      some { s with vq, driver := if needsKick then .notifying else .idle }
    else none
  | .notify =>
    if s.driver = .notifying then some { s with vq := virtqueueNotify s.vq, driver := .idle }
    else none
  | .getBuf =>
    if s.driver = .idle then
      (virtqueueGetBuf s.vq).toOption.map fun r => { s with vq := r.2 }
    else none
  | .consume =>
    if s.device = .consuming ∧ s.consumed ≠ s.vq.vring.avail.idx then
      some { s with consumed := u16 (s.consumed + 1) }
    else none
  | .publish =>
    if s.device = .consuming then
      some { s with
        vq := s.vq.withUsed { s.vq.vring.used with availEvent := s.consumed }
        device := .published }
    else none
  | .recheck =>
    if s.device = .published then
      some { s with
        device := if s.vq.vring.avail.idx = s.consumed then .asleep s.vq.notified
          else .consuming }
    else none
  | .wake => some { s with device := .consuming }
  | .writeUsed flags idx ring =>
    some { s with vq := s.vq.withUsed { s.vq.vring.used with flags, idx, ring } }

/-- Both sides on a queue before any call. -/
def start (vq : Virtqueue τ) : Doorbell τ := ⟨vq, .idle, .consuming, 0⟩

def system (vq : Virtqueue τ) : System (Doorbell τ) (DoorbellEvent τ) where
  init := start vq
  step := step

/-- The state after a list of events. -/
def runFrom (s : Doorbell τ) (events : List (DoorbellEvent τ)) : Option (Doorbell τ) :=
  events.foldlM step s

/-! ## A call in steps -/

/-- The steps of `virtqueue_kick`. -/
theorem kick_run {s : Doorbell τ} (h : s.driver = .kicking) :
    ∃ events, (∀ e ∈ events, e.IsDriver) ∧
      s.runFrom events = some { s with vq := virtqueueKick s.vq, driver := .idle } := by
  cases hneed : (virtqueueKickPrepare s.vq).1 with
  | true =>
    refine ⟨[.kickPrepare, .notify], by simp [DoorbellEvent.IsDriver], ?_⟩
    simp [runFrom, step, h, hneed, virtqueueKick]
  | false =>
    refine ⟨[.kickPrepare], by simp [DoorbellEvent.IsDriver], ?_⟩
    simp [runFrom, step, h, hneed, virtqueueKick]

/-- The steps of `virtqueue_add_buf`. -/
theorem addBuf_run {s : Doorbell τ} (h : s.driver = .idle) {out inn : List Scatterlist} {data : τ}
    {indirect : Option Nat} {status : AddStatus} {vq : Virtqueue τ}
    (hadd : virtqueueAddBuf s.vq out inn data indirect = .ok (status, vq)) :
    ∃ events, (∀ e ∈ events, e.IsDriver) ∧
      s.runFrom events = some { s with vq := vq, driver := .idle } := by
  rw [virtqueueAddBuf_eq] at hadd
  obtain ⟨prepared, hprep, hret⟩ := bind_eq_ok hadd
  have hstep : s.step (.addBuf out inn data indirect) = some (s.added out prepared) := by
    simp [step, h, hprep, Except.toOption]
  cases prepared with
  | none =>
    obtain ⟨-, rfl⟩ := Prod.mk.inj (Except.ok.inj hret)
    by_cases hout : out.length ≠ 0
    · refine ⟨[.addBuf out inn data indirect, .notify], by simp [DoorbellEvent.IsDriver], ?_⟩
      rw [runFrom, List.foldlM_cons, hstep, if_pos hout, added, if_pos hout]
      rfl
    · refine ⟨[.addBuf out inn data indirect], by simp [DoorbellEvent.IsDriver], ?_⟩
      rw [runFrom, List.foldlM_cons, hstep, if_neg hout, added, if_neg hout]
      rfl
  | some vq₁ =>
    obtain ⟨-, rfl⟩ := Prod.mk.inj (Except.ok.inj hret)
    rw [publishHead_eq]
    by_cases hwrap : (exposeHead vq₁).numAdded = 65535
    · have hkick : (s.added out (some vq₁)).driver = .kicking := if_pos hwrap
      obtain ⟨events, hdriver, hrun⟩ := kick_run hkick
      refine ⟨.addBuf out inn data indirect :: events, ?_, ?_⟩
      · intro e he
        rcases List.mem_cons.mp he with rfl | he
        · trivial
        · exact hdriver e he
      · rw [runFrom, List.foldlM_cons, hstep, if_pos hwrap]
        exact hrun
    · refine ⟨[.addBuf out inn data indirect], by simp [DoorbellEvent.IsDriver], ?_⟩
      rw [runFrom, List.foldlM_cons, hstep, if_neg hwrap, added, if_neg hwrap]
      rfl

/-- The steps of `virtqueue_kick_always`. -/
theorem kickAlways_run {s : Doorbell τ} (h : s.driver = .idle) :
    s.runFrom [.kickAlways, .notify] =
      some { s with vq := virtqueueKickAlways s.vq, driver := .idle } := by
  simp [runFrom, step, h, virtqueueKickAlways]

end Doorbell

end VioGpu.VirtIO
