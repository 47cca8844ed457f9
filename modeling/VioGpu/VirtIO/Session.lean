import VioGpu.Lib.Slots
import VioGpu.Lib.Transition
import VioGpu.VirtIO.Calls

/-!
# A driver and a conforming device on one ring

The driver calls `virtqueue_add_buf` without an indirect table and `virtqueue_get_buf`; the
device takes heads from the available ring in order and completes each head it has taken
once, in any order. Each call is split where the other side can see or change the ring: an
add at its write barrier (`addBuf`, `exposeBuf`), a get at its read barrier (`getBuf`,
`takeUsed`), and a completion between the write of the used entry and the write of
`used->idx` (`deviceWrite`, `devicePublish`). All counters of the code are 16 bits wide and
wrap around.

A `Session` carries, next to the ring and the device's own counter, the history of the run.
`Session.Correct` is what the history says about the calls.
-/

namespace VioGpu.VirtIO

open Lib Virtqueue

variable {τ : Type}

/-! ## The session -/

/-- A buffer that was added: its head, the elements of `sg` and its token. -/
structure AddedBuf (τ : Type) where
  head : Nat
  out : List Scatterlist
  inn : List Scatterlist
  token : τ

/-- A completion: the number of the head among those taken, and the used entry. -/
structure Completion where
  index : Nat
  elem : VringUsedElem
  deriving DecidableEq, Repr

structure Session (τ : Type) where
  vq : Virtqueue τ
  /-- a call did not return -/
  fault : Option Fault
  /-- the buffer of an add that stands at its write barrier -/
  adding : Option (AddedBuf τ)
  /-- a get stands at its read barrier -/
  getting : Bool
  /-- the device's copy of `avail->idx`, up to which it has taken heads -/
  nextAvail : Nat
  /-- the completion whose used entry is written and not yet published -/
  completing : Option Completion
  -- the history, in order
  added : List (AddedBuf τ)
  taken : List Nat
  completed : List Completion
  returned : List (GetResult τ)
  /-- the number of completions not yet returned, for each get that returned `NULL` -/
  waitingAtNull : List Nat

/-- No call of the driver is under way. -/
def Session.Idle (s : Session τ) : Prop :=
  s.fault = none ∧ s.adding.isNone ∧ s.getting = false

instance (s : Session τ) : Decidable s.Idle := inferInstanceAs (Decidable (_ ∧ _))

inductive SessionEvent (τ : Type)
  | addBuf (out inn : List Scatterlist) (data : τ)
  | exposeBuf
  | getBuf
  | takeUsed
  | deviceTake
  | deviceWrite (index len : Nat)
  | devicePublish
  | deviceFlags (flags : UInt16) (availEvent : Nat)

namespace Session

/-- The result of a get is entered in the history. -/
def answer (s : Session τ) (r : GetResult τ) : Session τ :=
  if r.ret.isSome then { s with returned := s.returned ++ [r] }
  else { s with waitingAtNull := s.waitingAtNull ++ [s.completed.length - s.returned.length] }

/-- The device stores a used entry in the slot of `used->idx`. -/
def writeUsed (s : Session τ) (e : VringUsedElem) : Virtqueue τ :=
  let slot := s.vq.vring.used.idx &&& (s.vq.vring.num - 1)
  let ring := fun i => if i = slot then e else s.vq.vring.used.ring i
  s.vq.withUsed { s.vq.vring.used with ring := ring }

/-- A step of the driver or of the device. A buffer that is added has at least one element,
and their number is an `unsigned int`. -/
def step (s : Session τ) : SessionEvent τ → Option (Session τ)
  | .addBuf out inn data =>
    if s.Idle ∧ 0 < out.length + inn.length ∧ out.length + inn.length < 4294967296 then
      if s.vq.numFree < outPlusIn out inn then
        some { s with vq := if out.length ≠ 0 then virtqueueNotify s.vq else s.vq }
      else
        match prepareDirect s.vq out inn data with
        | .ok (head, vq) => some { s with vq, adding := some ⟨head, out, inn, data⟩ }
        | .error f => some { s with fault := some f }
    else none
  | .exposeBuf => do
    let buf ← s.adding
    some { s with vq := publishHead s.vq, adding := none, added := s.added ++ [buf] }
  | .getBuf =>
    if s.Idle then
      if s.vq.broken || !moreUsed s.vq then some (s.answer ⟨none, none⟩)
      else some { s with getting := true }
    else none
  | .takeUsed =>
    if s.getting then
      match VirtIO.takeUsed s.vq with
      | .ok (r, vq) => some ({ s with vq, getting := false }.answer r)
      | .error f => some { s with getting := false, fault := some f }
    else none
  | .deviceTake =>
    if s.nextAvail ≠ s.vq.vring.avail.idx then
      let head := s.vq.vring.avail.ring (s.nextAvail &&& (s.vq.vring.num - 1))
      some { s with nextAvail := u16 (s.nextAvail + 1), taken := s.taken ++ [head] }
    else none
  | .deviceWrite index len =>
    if s.completing.isNone ∧ index ∉ s.completed.map Completion.index then do
      let id ← s.taken[index]?
      some { s with
        vq := s.writeUsed ⟨id, len⟩, completing := some ⟨index, ⟨id, len⟩⟩ }
    else none
  | .devicePublish => do
    let c ← s.completing
    let used := { s.vq.vring.used with idx := u16 (s.vq.vring.used.idx + 1) }
    some { s with
      vq := s.vq.withUsed used, completing := none, completed := s.completed ++ [c] }
  | .deviceFlags flags availEvent =>
    some { s with vq := s.vq.withUsed { s.vq.vring.used with flags, availEvent } }

/-! ## The halves of a call -/

@[simp] theorem answer_vq (s : Session τ) (r : GetResult τ) : (s.answer r).vq = s.vq := by
  unfold answer
  split <;> rfl

/-- The two halves of an add are the call `virtqueue_add_buf`, which may also end at once
because there is no room. -/
theorem addBuf_exposeBuf {s : Session τ} (hidle : s.Idle) {out inn : List Scatterlist} {data : τ}
    (hpos : 0 < out.length + inn.length) (hu : out.length + inn.length < 4294967296)
    {status : AddStatus} {vq : Virtqueue τ}
    (hadd : virtqueueAddBuf s.vq out inn data none = .ok (status, vq)) :
    (status = .enospc ∧ s.step (.addBuf out inn data) = some { s with vq := vq }) ∨
      (status = .ok ∧ ∃ s₁ s₂, s.step (.addBuf out inn data) = some s₁ ∧
        s₁.step .exposeBuf = some s₂ ∧ s₂.vq = vq) := by
  simp only [virtqueueAddBuf, addDirectBuf] at hadd
  simp only [step]
  rw [if_pos ⟨hidle, hpos, hu⟩]
  split at hadd
  · next hroom =>
    cases hadd
    exact Or.inl ⟨rfl, if_pos hroom⟩
  · next hroom =>
    cases hprep : prepareDirect s.vq out inn data with
    | error f =>
      rw [hprep] at hadd
      cases hadd
    | ok r =>
      rw [hprep] at hadd
      cases hadd
      exact Or.inr ⟨rfl, _, _, if_neg hroom, rfl, rfl⟩

/-- The two halves of a get are the call `virtqueue_get_buf`, which may also end at once
because nothing is used. -/
theorem getBuf_takeUsed {s : Session τ} (hidle : s.Idle) {r : GetResult τ} {vq : Virtqueue τ}
    (hget : virtqueueGetBuf s.vq = .ok (r, vq)) :
    s.step .getBuf = some ({ s with vq := vq }.answer r) ∨
      ∃ s₁ s₂, s.step .getBuf = some s₁ ∧ s₁.step .takeUsed = some s₂ ∧ s₂.vq = vq := by
  simp only [step]
  rw [if_pos hidle]
  unfold virtqueueGetBuf at hget
  by_cases hnull : (s.vq.broken || !moreUsed s.vq) = true
  · rw [if_pos hnull]
    rw [Bool.or_eq_true] at hnull
    rcases hnull with hb | hm
    · rw [if_pos hb] at hget
      cases hget
      exact Or.inl rfl
    · split at hget
      · cases hget
        exact Or.inl rfl
      · cases hget
        exact Or.inl rfl
  · rw [if_neg hnull]
    rw [Bool.or_eq_true, not_or] at hnull
    rw [if_neg hnull.1, if_neg hnull.2] at hget
    refine Or.inr ⟨{ s with getting := true },
      { s with vq := vq, getting := false }.answer r, rfl, ?_, by simp⟩
    simp only [if_true, hget]

/-- A session on a queue, before any call. -/
def start (vq : Virtqueue τ) : Session τ where
  vq := vq
  fault := none
  adding := none
  getting := false
  nextAvail := 0
  completing := none
  added := []
  taken := []
  completed := []
  returned := []
  waitingAtNull := []

/-- The sessions on a queue. -/
def system (vq : Virtqueue τ) : System (Session τ) (SessionEvent τ) where
  init := start vq
  step := step

/-- What a get returns for a completion: the token of the buffer whose head was completed
and the length the device wrote. -/
def resultOf (s : Session τ) (c : Completion) : GetResult τ :=
  ⟨(s.added[c.index]?).map AddedBuf.token, some c.elem.len⟩

/-- What holds of the history in every state. -/
structure Correct (s : Session τ) : Prop where
  /-- every call returns -/
  noFault : s.fault = none
  /-- the `k`-th head the device takes is the head of the `k`-th buffer added -/
  takenLe : s.taken.length ≤ s.added.length
  takenInOrder : s.taken = (s.added.take s.taken.length).map AddedBuf.head
  /-- as long as it is not completed, its chain holds the elements of that buffer -/
  takenElems : ∀ j a, j < s.taken.length → s.added[j]? = some a →
    j ∉ s.completed.map Completion.index → ∃ c, IsChain s.vq.vring.desc a.head c ∧
      List.Forall₂ (fun x e => DescHolds (s.vq.vring.desc x) e) c (sgElems a.out a.inn)
  /-- the completions are of heads that were taken, each one once -/
  completedTaken : ∀ c ∈ s.completed, s.taken[c.index]? = some c.elem.id
  completedOnce : (s.completed.map Completion.index).Nodup
  /-- the results returned are those of the first completions, in order -/
  returnedLe : s.returned.length ≤ s.completed.length
  returnedInOrder : s.returned = (s.completed.take s.returned.length).map s.resultOf
  /-- no completion waits when a get returns `NULL` -/
  nullOnlyIfNone : ∀ n ∈ s.waitingAtNull, n = 0

end Session

end VioGpu.VirtIO
