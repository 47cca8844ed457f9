import VioGpu.Lib.Ledger
import VioGpu.Lib.Program
import VioGpu.Queue.Ownership

/-!
# Asking for the display information

`GetDisplayInfo` of `GpuDevice` sends a command with a response of its own, waits until the device
has answered, reads the response once for each scanout, and releases the vbuffer. The functions
are a program here, whose calls are the allocations, the steps of the control queue, the accesses
through pointers, and the wait. Pointers to vbuffers and to response memory are numbers, `none`
for `NULL`.
-/

namespace VioGpu.Device

open Lib Program Queue VirtIO

/-! ## The functions -/

/-- `GPU_DISP_ONE`, with the rectangle `r`. -/
structure DispOne where
  x : Nat
  y : Nat
  width : Nat
  height : Nat
  enabled : Nat
  flags : Nat
  deriving DecidableEq, Repr

/-- `VIRTIO_GPU_RESP_OK_DISPLAY_INFO` -/
def respOkDisplayInfo : Nat := 0x1101

/-- `VIRTIO_GPU_MAX_SCANOUTS`, the number of entries of `pmodes`. -/
def maxScanouts : Nat := 16

inductive DisplayCall
  | newResponse
  | getBuf (size respSize respBuf : Nat)
  | writeCommand (buf : Nat)
  | queueBuffer (buf : Nat)
  | wait (buf : Nat)
  | readRespBuf (buf : Nat)
  | readType (resp : Nat)
  | readMode (resp id : Nat)
  | setCustomDisplay (xres yres : Nat)
  | freeBuf (buf : Nat)
  deriving DecidableEq, Repr

/-- The answers: a pointer, whether the buffer is in the ring, whether the wait ends, what is
read, and the response memory that `FreeBuf` gives back together with the vbuffer. -/
@[reducible] def DisplayCall.Ans : DisplayCall → Type
  | newResponse => Option Nat
  | getBuf _ _ _ => Option Nat
  | writeCommand _ => Unit
  | queueBuffer _ => Bool
  | wait _ => Bool
  | readRespBuf _ => Option Nat
  | readType _ => Nat
  | readMode _ _ => DispOne
  | setCustomDisplay _ _ => Unit
  | freeBuf _ => Option Nat

abbrev DisplayProgram (α : Type) := Program DisplayCall DisplayCall.Ans α

/-- A pointer that is dereferenced. -/
def deref : Option Nat → DisplayProgram Nat
  | some p => .done p
  | none => .fault

open DisplayCall

/-- The last part of `AskDisplayInfo`. The result of `QueueBuffer` is not looked at, and there is
no end to a wait that does not end. -/
def queueAndWait (buf : Nat) : DisplayProgram (Option Nat) := do
  let _ ← ask (queueBuffer buf)
  match ← ask (wait buf) with
  | true => return some buf
  | false => .unfinished

/-- `AskDisplayInfo`: the buffer, which stays `NULL` where the response cannot be allocated. -/
def askDisplayInfo : DisplayProgram (Option Nat) := do
  match ← ask newResponse with
  | none => return none
  | some resp => do
    let vbuf ← ask (getBuf ctrlHdrSize respDispInfoSize resp)
    let buf ← deref vbuf
    let () ← ask (writeCommand buf)
    queueAndWait buf

/-- `CtrlQueue::GetDisplayInfo` for a scanout, with the resolution from before. -/
def scanoutInfo (vbuf : Option Nat) (id : Nat) (res : Nat × Nat) : DisplayProgram (Nat × Nat) := do
  let buf ← deref vbuf
  let respBuf ← ask (readRespBuf buf)
  let resp ← deref respBuf
  let type ← ask (readType resp)
  if type ≠ respOkDisplayInfo then return res
  else
    let mode ← ask (readMode resp id)
    if mode.enabled ≠ 0 then return (mode.width, mode.height) else return res

/-- The loop over the scanouts that are left. -/
def scanoutLoop (vbuf : Option Nat) (id : Nat) : Nat → Nat × Nat → DisplayProgram (Nat × Nat)
  | 0, res => return res
  | rest + 1, res => do
    let res ← scanoutInfo vbuf id res
    scanoutLoop vbuf (id + 1) rest res

/-- A resolution that was found becomes the custom display. -/
def useResolution (res : Nat × Nat) : DisplayProgram Unit :=
  if res.1 ≠ 0 ∧ res.2 ≠ 0 then ask (setCustomDisplay (u16 res.1) (u16 res.2)) else return ()

/-- `ReleaseBuffer` -/
def releaseBuffer (vbuf : Option Nat) : DisplayProgram Unit := do
  let buf ← deref vbuf
  let _ ← ask (freeBuf buf)
  return ()

/-- What `GpuDevice::GetDisplayInfo` does with the buffer. -/
def useDisplayInfo (numScanouts : Nat) (vbuf : Option Nat) : DisplayProgram Unit := do
  let res ← scanoutLoop vbuf 0 numScanouts (0, 0)
  useResolution res
  releaseBuffer vbuf

/-- `GpuDevice::GetDisplayInfo` -/
def getDisplayInfo (numScanouts : Nat) : DisplayProgram Unit := do
  let vbuf ← askDisplayInfo
  useDisplayInfo numScanouts vbuf

/-! ## The pool, the ring and the device -/

/-- What the device writes into the response. `modes` goes on behind the entries of `pmodes`. -/
structure DisplayResponse where
  type : Nat
  modes : Nat → DispOne

/-- Whether the response memory is allocated, the pool, the control ring, and the response. -/
structure DisplayQueue where
  allocates : Bool
  pool : Pool
  ring : Channel Nat
  response : DisplayResponse

namespace DisplayQueue

/-- A vbuffer with two elements, the command and the response, is added. -/
def queue (s : DisplayQueue) (buf : Nat) : Bool × DisplayQueue :=
  match s.ring.addBuf buf (s.pool.bufs buf).sgCount with
  | some ring => (true, { s with ring })
  | none => (false, s)

/-- The answers. A wait ends where the buffer is in the ring: the device completes it. -/
def answer (s : DisplayQueue) : (c : DisplayCall) → c.Ans × DisplayQueue
  | newResponse =>
    if s.allocates then (some s.pool.alloc.1, { s with pool := s.pool.alloc.2 }) else (none, s)
  | getBuf size respSize respBuf =>
    match s.pool.getBuf size respSize (some respBuf) with
    | some (buf, pool) => (some buf, { s with pool })
    | none => (none, s)
  | writeCommand buf =>
    let vbuf := { s.pool.bufs buf with cmd := some (.ctrl .getDisplayInfo), event := true }
    ((), { s with pool := s.pool.setBuf buf vbuf })
  | queueBuffer buf => s.queue buf
  | wait buf => (decide (buf ∈ s.ring.tokens), s)
  | readRespBuf buf => ((s.pool.bufs buf).respBuf, s)
  | readType _ => (s.response.type, s)
  | readMode _ id => (s.response.modes id, s)
  | setCustomDisplay _ _ => ((), s)
  | freeBuf buf => ((s.pool.bufs buf).ownResp, { s with pool := s.pool.freeBuf buf })

end DisplayQueue

/-! ## What should hold -/

/-- Memory that the function holds. -/
inductive DisplayMemory
  | response (block : Nat)
  | vbuf (buf : Nat)
  deriving DecidableEq, Repr

/-- What a call allocates and releases. -/
def DisplayCall.entries : (c : DisplayCall) → c.Ans → List (Entry DisplayMemory)
  | newResponse, some resp => [.acquire (.response resp)]
  | getBuf _ _ _, some buf => [.acquire (.vbuf buf)]
  | freeBuf buf, some resp => [.release (.response resp), .release (.vbuf buf)]
  | freeBuf buf, none => [.release (.vbuf buf)]
  | _, _ => []

abbrev DisplayEvents := List (Answered DisplayCall DisplayCall.Ans)

/-- No access through `NULL`; a wait only for a buffer that was put into the ring; only the
entries of `pmodes` are read; the response and the vbuffer are released once, whatever happens. -/
structure AsksWell (events : DisplayEvents) (outcome : Outcome Unit) : Prop where
  noNull : outcome ≠ .fault
  waits : ∀ before after buf ends, events = before ++ ⟨wait buf, ends⟩ :: after →
    ⟨queueBuffer buf, true⟩ ∈ before
  reads : ∀ resp id mode, ⟨readMode resp id, mode⟩ ∈ events → id < maxScanouts
  released : Settled (events.flatMap fun e => e.call.entries e.answer)

/-! ## The reads -/

/-- The calls of the loop: they only read. -/
def DisplayCall.IsRead : DisplayCall → Prop
  | readRespBuf _ | readType _ | readMode _ _ => True
  | _ => False

theorem DisplayCall.IsRead.entries_eq {c : DisplayCall} (h : c.IsRead) (a : c.Ans) :
    c.entries a = [] := by
  cases c with
  | readRespBuf | readType | readMode => rfl
  | newResponse | getBuf | writeCommand | queueBuffer | wait | setCustomDisplay | freeBuf =>
    exact h.elim

/-- The scanout whose entry a call reads. -/
def DisplayCall.readId : DisplayCall → Option Nat
  | readMode _ id => some id
  | _ => none

/-- The scanouts whose entries are read. -/
def readIds (events : DisplayEvents) : List Nat := events.filterMap fun e => e.call.readId

theorem mem_readIds {events : DisplayEvents} {id : Nat} :
    id ∈ readIds events ↔ ∃ resp mode, ⟨readMode resp id, mode⟩ ∈ events := by
  unfold readIds
  rw [List.mem_filterMap]
  constructor
  · intro h
    obtain ⟨⟨c, a⟩, he, hid⟩ := h
    cases c with
    | readMode resp id' =>
      obtain rfl := Option.some.inj hid
      exact ⟨resp, a, he⟩
    | newResponse | getBuf | writeCommand | queueBuffer | wait | setCustomDisplay | freeBuf
    | readRespBuf | readType => cases hid
  · intro h
    obtain ⟨resp, mode, he⟩ := h
    exact ⟨_, he, rfl⟩

namespace DisplayQueue

variable {s : DisplayQueue} {buf resp : Nat}

/-- Reading for a scanout leaves everything as it is, and reads the entry of the scanout in a
response of the right type. -/
theorem scanoutInfo_spec (hresp : (s.pool.bufs buf).respBuf = some resp) (id : Nat)
    (res : Nat × Nat) :
    (∃ found, (scanoutInfo (some buf) id res).exec answer s = (.done found, s)) ∧
    (∀ e ∈ (scanoutInfo (some buf) id res).events answer s, e.call.IsRead) ∧
    readIds ((scanoutInfo (some buf) id res).events answer s) =
      if s.response.type = respOkDisplayInfo then [id] else [] := by
  by_cases htype : s.response.type = respOkDisplayInfo
  · by_cases henabled : (s.response.modes id).enabled = 0
    · simp [scanoutInfo, deref, events, hresp, htype, henabled, answer, DisplayCall.IsRead, readIds,
        DisplayCall.readId]
    · simp [scanoutInfo, deref, events, hresp, htype, henabled, answer, DisplayCall.IsRead, readIds,
        DisplayCall.readId]
  · simp [scanoutInfo, deref, events, hresp, htype, answer, DisplayCall.IsRead, readIds,
      DisplayCall.readId]

/-- The loop reads the entries of the scanouts that are left. -/
theorem scanoutLoop_spec (hresp : (s.pool.bufs buf).respBuf = some resp) (rest id : Nat)
    (res : Nat × Nat) :
    (∃ found, (scanoutLoop (some buf) id rest res).exec answer s = (.done found, s)) ∧
    (∀ e ∈ (scanoutLoop (some buf) id rest res).events answer s, e.call.IsRead) ∧
    readIds ((scanoutLoop (some buf) id rest res).events answer s) =
      if s.response.type = respOkDisplayInfo then List.range' id rest else [] := by
  induction rest generalizing id res with
  | zero =>
    refine ⟨⟨res, rfl⟩, ?_, ?_⟩
    · intro e he
      cases he
    · simp [scanoutLoop, events, readIds]
  | succ rest ih =>
    obtain ⟨⟨found, hexec⟩, hreads, hids⟩ := scanoutInfo_spec hresp id res
    obtain ⟨hdone, hreads', hids'⟩ := ih (id + 1) found
    have hevents := events_bind_of_done hexec (scanoutLoop (some buf) (id + 1) rest)
    rw [scanoutLoop, exec_bind_of_done hexec, hevents]
    refine ⟨hdone, ?_, ?_⟩
    · intro e he
      rcases List.mem_append.mp he with he | he
      · exact hreads e he
      · exact hreads' e he
    · unfold readIds at hids hids' ⊢
      rw [List.filterMap_append, hids, hids']
      split_ifs
      · rfl
      · rfl

/-! ## The request -/

/-- The vbuffer of the request. -/
def requestBuf (resp : Nat) : VBuffer :=
  ⟨some (.ctrl .getDisplayInfo), ctrlHdrSize, none, 0, some resp, respDispInfoSize, true⟩

/-- A command and its response, without data, are two elements. -/
theorem sgCount_of_no_data {v : VBuffer} (hsize : v.size ≠ 0) (hdata : v.dataSize = 0)
    (hresp : v.respSize ≠ 0) : v.sgCount = 2 := by
  have hpages : (0 + pageSize - 1) / pageSize = 0 := Nat.div_eq_of_lt (by decide)
  unfold VBuffer.sgCount
  rw [if_pos hsize, hdata, hpages, if_pos hresp]

theorem requestBuf_sgCount (resp : Nat) : (requestBuf resp).sgCount = 2 := by
  apply sgCount_of_no_data
  · change ctrlHdrSize ≠ 0
    decide
  · rfl
  · change respDispInfoSize ≠ 0
    decide

/-- The head of the free list becomes the vbuffer of the request. -/
theorem build_getDisplayInfo {pool : Pool} {free : List Nat} (hfree : pool.free = buf :: free) :
    ∃ pool', pool.build (.ctrl .getDisplayInfo) = some (buf, pool') ∧
      pool'.bufs buf = requestBuf pool.nextBlock := by
  simp only [Pool.build, Pool.fill, Pool.getBuf, Pool.alloc, hfree]
  refine ⟨_, rfl, ?_⟩
  have hresp : ¬respDispInfoSize ≤ maxInlineRespSize := by decide
  simp only [Pool.setBuf, if_true, if_neg hresp, requestBuf, VBuffer.zero]

/-- What comes before the request is queued. -/
def buildEvents (resp buf : Nat) : DisplayEvents :=
  [⟨newResponse, some resp⟩, ⟨getBuf ctrlHdrSize respDispInfoSize resp, some buf⟩,
    ⟨writeCommand buf, ()⟩]

/-- A response and a vbuffer are what `Pool.build` takes for the command. -/
theorem askDisplayInfo_bind {α : Type} {pool : Pool} (halloc : s.allocates = true)
    (hbuild : s.pool.build (.ctrl .getDisplayInfo) = some (buf, pool))
    (f : Option Nat → DisplayProgram α) :
    (askDisplayInfo >>= f).exec answer s =
        (queueAndWait buf >>= f).exec answer { s with pool } ∧
      (askDisplayInfo >>= f).events answer s = buildEvents s.pool.nextBlock buf ++
        (queueAndWait buf >>= f).events answer { s with pool } := by
  have hnew : answer s newResponse =
      (some s.pool.nextBlock, { s with pool := s.pool.alloc.2 }) := if_pos halloc
  simp only [Pool.build, Pool.fill] at hbuild
  cases hget : s.pool.alloc.2.getBuf ctrlHdrSize respDispInfoSize (some s.pool.alloc.1) with
  | none =>
    rw [hget] at hbuild
    cases hbuild
  | some taken =>
    rw [hget] at hbuild
    cases hbuild
    have hget' : answer { s with pool := s.pool.alloc.2 }
        (getBuf ctrlHdrSize respDispInfoSize s.pool.nextBlock) =
        (some taken.1, { s with pool := taken.2 }) := by
      have hget := hget
      simp only [Pool.alloc] at hget
      simp only [answer, Pool.alloc, hget]
    have hwrite : answer { s with pool := taken.2 } (writeCommand taken.1) =
        ((), { s with pool := (taken.2.setBuf taken.1
          { taken.2.bufs taken.1 with cmd := some (.ctrl .getDisplayInfo), event := true }) }) :=
      rfl
    simp [askDisplayInfo, events, hnew, hget', hwrite, deref, buildEvents]

/-- With room in the ring the request is queued, and the wait ends. -/
theorem queueAndWait_room (hbuf : s.pool.bufs buf = requestBuf resp) (hroom : s.ring.HasRoom 2) :
    ∃ s', (queueAndWait buf).exec answer s = (.done (some buf), s') ∧
      (queueAndWait buf).events answer s = [⟨queueBuffer buf, true⟩, ⟨wait buf, true⟩] ∧
      s'.pool = s.pool ∧ s'.response = s.response := by
  have hsome : (s.ring.addBuf buf 2).isSome := Channel.addBuf_isSome_iff.mpr hroom
  obtain ⟨ring, hadd⟩ := Option.isSome_iff_exists.mp hsome
  have hqueue : answer s (queueBuffer buf) = (true, { s with ring }) := by
    simp only [answer, queue, hbuf, requestBuf_sgCount, hadd]
  have hmem : buf ∈ ring.tokens := (Channel.tokens_addBuf hadd).mem_iff.mpr List.mem_cons_self
  have hwait : answer { s with ring } (wait buf) = (true, { s with ring }) := by
    simp only [answer, decide_eq_true hmem]
  refine ⟨{ s with ring }, ?_, ?_, rfl, rfl⟩
  · simp [queueAndWait, hqueue, hwait]
  · simp [queueAndWait, events, hqueue, hwait]

/-- Without room the wait follows all the same. -/
theorem queueAndWait_no_room {α : Type} (hbuf : s.pool.bufs buf = requestBuf resp)
    (hroom : ¬s.ring.HasRoom 2) (f : Option Nat → DisplayProgram α) :
    ∃ ends rest, (queueAndWait buf >>= f).events answer s =
      ⟨queueBuffer buf, false⟩ :: ⟨wait buf, ends⟩ :: rest := by
  have hadd : s.ring.addBuf buf 2 = none := if_neg hroom
  have hqueue : answer s (queueBuffer buf) = (false, s) := by
    simp only [answer, queue, hbuf, requestBuf_sgCount, hadd]
  simp only [queueAndWait, ask_bind, call_bind, events, hqueue]
  exact ⟨_, _, rfl⟩

theorem useResolution_spec (s : DisplayQueue) (res : Nat × Nat) :
    (useResolution res).exec answer s = (.done (), s) ∧
      ∀ e ∈ (useResolution res).events answer s,
        ∃ xres yres, e = ⟨setCustomDisplay xres yres, ()⟩ := by
  unfold useResolution
  split
  · refine ⟨rfl, ?_⟩
    intro e he
    exact ⟨_, _, List.mem_singleton.mp he⟩
  · refine ⟨rfl, ?_⟩
    intro e he
    cases he

theorem requestBuf_ownResp (resp : Nat) : (requestBuf resp).ownResp = some resp := by
  have hsize : maxInlineRespSize < respDispInfoSize := by decide
  exact if_pos hsize

/-- The calls between the wait and the release: reads, and at most one custom display. -/
theorem useDisplayInfo_spec (hbuf : s.pool.bufs buf = requestBuf resp) (n : Nat) :
    ∃ reads custom, ((useDisplayInfo n (some buf)).exec answer s).1 = .done () ∧
      (useDisplayInfo n (some buf)).events answer s =
        reads ++ (custom ++ [⟨freeBuf buf, some resp⟩]) ∧
      (∀ e ∈ reads, e.call.IsRead) ∧
      readIds reads = (if s.response.type = respOkDisplayInfo then List.range' 0 n else []) ∧
      ∀ e ∈ custom, ∃ xres yres, e = ⟨setCustomDisplay xres yres, ()⟩ := by
  have hresp : (s.pool.bufs buf).respBuf = some resp := by rw [hbuf, requestBuf]
  have hfree : answer s (freeBuf buf) = (some resp, { s with pool := s.pool.freeBuf buf }) := by
    simp only [answer, hbuf, requestBuf_ownResp]
  obtain ⟨⟨found, hloop⟩, hreads, hids⟩ := scanoutLoop_spec hresp n 0 (0, 0)
  obtain ⟨huse, hcustom⟩ := useResolution_spec s found
  refine ⟨_, (useResolution found).events answer s, ?_, ?_, hreads, hids, hcustom⟩
  · rw [useDisplayInfo, exec_bind_of_done hloop, exec_bind_of_done huse]
    simp [releaseBuffer, deref]
  · rw [useDisplayInfo, events_bind_of_done hloop, events_bind_of_done huse]
    simp [releaseBuffer, deref, events, hfree]

/-! ## When it asks well -/

/-- What comes before the response is read, where the request is queued. -/
def queuedEvents (resp buf : Nat) : DisplayEvents :=
  buildEvents resp buf ++ [⟨queueBuffer buf, true⟩, ⟨wait buf, true⟩]

/-- All calls, where the request is queued. -/
def askedEvents (resp buf : Nat) (reads custom : DisplayEvents) : DisplayEvents :=
  queuedEvents resp buf ++ (reads ++ (custom ++ [⟨freeBuf buf, some resp⟩]))

/-- What does not occur in a first part comes after all of it. -/
theorem mem_before {α : Type} {first rest before after : List α} {d e : α}
    (h : first ++ rest = before ++ e :: after) (hd : d ∈ first) (he : e ∉ first) :
    d ∈ before := by
  rcases List.append_eq_append_iff.mp h with ⟨middle, rfl, -⟩ | ⟨middle, rfl, hmiddle⟩
  · exact List.mem_append_left middle hd
  · cases middle with
    | nil => rwa [List.append_nil] at hd
    | cons head middle =>
      obtain ⟨rfl, -⟩ := List.cons.inj hmiddle
      exact absurd (List.mem_append_right before List.mem_cons_self) he

section Asked

variable {reads custom : DisplayEvents} (hreads : ∀ e ∈ reads, e.call.IsRead)
  (hcustom : ∀ e ∈ custom, ∃ xres yres, e = ⟨setCustomDisplay xres yres, ()⟩)

include hreads hcustom

theorem settled_asked :
    Settled ((askedEvents resp buf reads custom).flatMap fun e => e.call.entries e.answer) := by
  have hreads' : (reads.flatMap fun e => e.call.entries e.answer) = [] := by
    apply List.flatMap_eq_nil_iff.mpr
    intro e he
    exact (hreads e he).entries_eq e.answer
  have hcustom' : (custom.flatMap fun e => e.call.entries e.answer) = [] := by
    apply List.flatMap_eq_nil_iff.mpr
    intro e he
    obtain ⟨xres, yres, rfl⟩ := hcustom e he
    rfl
  simp only [askedEvents, List.flatMap_append, hreads', hcustom']
  simp [queuedEvents, buildEvents, DisplayCall.entries, Settled]

/-- The wait is the one for the request. -/
theorem eq_of_wait_mem_asked {b : Nat} {ends : Bool}
    (h : ⟨wait b, ends⟩ ∈ askedEvents resp buf reads custom) : b = buf := by
  rcases List.mem_append.mp h with h | h
  · simp [queuedEvents, buildEvents] at h
    exact h.1
  · rcases List.mem_append.mp h with h | h
    · exact (hreads _ h).elim
    · rcases List.mem_append.mp h with h | h
      · obtain ⟨xres, yres, heq⟩ := hcustom _ h
        cases heq
      · cases List.mem_singleton.mp h

omit hreads in
/-- The entries that are read are those of the loop. -/
theorem readIds_asked : readIds (askedEvents resp buf reads custom) = readIds reads := by
  have hcustom' : custom.filterMap (fun e => e.call.readId) = [] := by
    apply List.filterMap_eq_nil_iff.mpr
    intro e he
    obtain ⟨xres, yres, rfl⟩ := hcustom e he
    rfl
  simp only [readIds, askedEvents, List.filterMap_append, hcustom']
  simp [queuedEvents, buildEvents, DisplayCall.readId]

theorem asksWell_asked : AsksWell (askedEvents resp buf reads custom) (.done ()) ↔
    ∀ i ∈ readIds reads, i < maxScanouts := by
  have hids : readIds (askedEvents resp buf reads custom) = readIds reads := readIds_asked hcustom
  rw [← hids]
  constructor
  · intro h i hi
    obtain ⟨block, mode, he⟩ := mem_readIds.mp hi
    exact h.reads block i mode he
  · intro h
    refine ⟨by simp, ?_, ?_, settled_asked hreads hcustom⟩
    · intro before after b ends heq
      have hmem : ⟨wait b, ends⟩ ∈ askedEvents resp buf reads custom := by
        rw [heq]
        exact List.mem_append_right before List.mem_cons_self
      obtain rfl := eq_of_wait_mem_asked hreads hcustom hmem
      have hsplit : (buildEvents resp b ++ [⟨queueBuffer b, true⟩]) ++ (⟨wait b, true⟩ ::
          (reads ++ (custom ++ [⟨freeBuf b, some resp⟩]))) = before ++ ⟨wait b, ends⟩ :: after := by
        rw [← heq]
        simp [askedEvents, queuedEvents]
      apply mem_before hsplit
      · exact List.mem_append_right _ (List.mem_singleton_self _)
      · simp [buildEvents]
    · intro block i mode he
      exact h i (mem_readIds.mpr ⟨block, mode, he⟩)

end Asked

/-- With room in the ring, only the entries that are read are left to look at. -/
theorem asksWell_of_room {free : List Nat} (halloc : s.allocates = true)
    (hfree : s.pool.free = buf :: free) (hroom : s.ring.HasRoom 2) (n : Nat) :
    AsksWell ((getDisplayInfo n).events answer s) ((getDisplayInfo n).exec answer s).1 ↔
      n ≤ maxScanouts ∨ s.response.type ≠ respOkDisplayInfo := by
  obtain ⟨pool, hbuild, hbuf⟩ := build_getDisplayInfo hfree
  obtain ⟨hexec, hevents⟩ := askDisplayInfo_bind halloc hbuild (useDisplayInfo n)
  obtain ⟨s', hwait, hwaitEvents, hpool, hresponse⟩ :=
    queueAndWait_room (s := { s with pool }) hbuf hroom
  rw [exec_bind_of_done hwait] at hexec
  rw [events_bind_of_done hwait, hwaitEvents, ← List.append_assoc] at hevents
  have hbuf' : s'.pool.bufs buf = requestBuf s.pool.nextBlock := by rw [hpool, hbuf]
  obtain ⟨reads, custom, hdone, huse, hreads, hids, hcustom⟩ := useDisplayInfo_spec hbuf' n
  rw [getDisplayInfo, hexec, hevents, hdone, huse]
  refine (asksWell_asked hreads hcustom).trans ?_
  rw [hids, hresponse]
  by_cases htype : s.response.type = respOkDisplayInfo
  · simp only [htype, if_true, List.mem_range'_1, ne_eq, not_true_eq_false, or_false]
    constructor
    · intro h
      by_contra hlt
      exact Nat.lt_irrefl _ (h maxScanouts (by omega))
    · intro h i hi
      omega
  · simp [htype]

/-- Without the response the loop, or else `ReleaseBuffer`, goes through `NULL`. -/
theorem not_asksWell_of_no_memory (halloc : s.allocates = false) (n : Nat) :
    ¬AsksWell ((getDisplayInfo n).events answer s) ((getDisplayInfo n).exec answer s).1 := by
  intro h
  apply h.noNull
  have hnone : askDisplayInfo.exec answer s = (.done none, s) := by
    simp [askDisplayInfo, answer, halloc]
  rw [getDisplayInfo, exec_bind_of_done hnone]
  cases n with
  | zero => rfl
  | succ n => rfl

/-- Without a vbuffer `AskDisplayInfo` writes its command through `NULL`. -/
theorem not_asksWell_of_empty_pool (halloc : s.allocates = true) (hfree : s.pool.free = [])
    (n : Nat) :
    ¬AsksWell ((getDisplayInfo n).events answer s) ((getDisplayInfo n).exec answer s).1 := by
  intro h
  apply h.noNull
  simp [getDisplayInfo, askDisplayInfo, answer, halloc, Pool.getBuf, Pool.alloc, hfree, deref, exec]

/-- Without room in the ring `AskDisplayInfo` waits for a command that nobody will complete. -/
theorem not_asksWell_of_no_room {free : List Nat} (halloc : s.allocates = true)
    (hfree : s.pool.free = buf :: free) (hroom : ¬s.ring.HasRoom 2) (n : Nat) :
    ¬AsksWell ((getDisplayInfo n).events answer s) ((getDisplayInfo n).exec answer s).1 := by
  intro h
  obtain ⟨pool, hbuild, hbuf⟩ := build_getDisplayInfo hfree
  obtain ⟨-, hevents⟩ := askDisplayInfo_bind halloc hbuild (useDisplayInfo n)
  obtain ⟨ends, rest, hqueue⟩ :=
    queueAndWait_no_room (s := { s with pool }) hbuf hroom (useDisplayInfo n)
  have hsplit : (getDisplayInfo n).events answer s =
      (buildEvents s.pool.nextBlock buf ++ [⟨queueBuffer buf, false⟩]) ++
        ⟨wait buf, ends⟩ :: rest := by
    rw [getDisplayInfo, hevents, hqueue, List.append_assoc]
    rfl
  have hqueued := h.waits _ rest buf ends hsplit
  simp [buildEvents] at hqueued

/-- The display information is asked for as it should be exactly when the response memory is
allocated, the pool has a vbuffer, the ring has room for the command and its response, and the
scanouts have entries in the response or the response has another type. -/
theorem getDisplayInfo_asksWell_iff (s : DisplayQueue) (n : Nat) :
    AsksWell ((getDisplayInfo n).events answer s) ((getDisplayInfo n).exec answer s).1 ↔
      s.allocates = true ∧ s.pool.free ≠ [] ∧ s.ring.HasRoom 2 ∧
        (n ≤ maxScanouts ∨ s.response.type ≠ respOkDisplayInfo) := by
  cases halloc : s.allocates with
  | false => simp [not_asksWell_of_no_memory halloc]
  | true =>
    cases hfree : s.pool.free with
    | nil => simp [not_asksWell_of_empty_pool halloc hfree]
    | cons buf free =>
      by_cases hroom : s.ring.HasRoom 2
      · simp [asksWell_of_room halloc hfree hroom, hroom]
      · simp [not_asksWell_of_no_room halloc hfree hroom, hroom]

/-- A device with 17 scanouts, which answers for all of them. -/
def seventeenScanouts : DisplayQueue where
  allocates := true
  pool := .init [true]
  ring := .new 64
  response := ⟨respOkDisplayInfo, fun _ => ⟨0, 0, 1024, 768, 1, 0⟩⟩

/-- The entry of the last scanout lies behind the response. -/
theorem getDisplayInfo_not_always_asksWell : ¬∀ (s : DisplayQueue) (n : Nat),
    AsksWell ((getDisplayInfo n).events answer s) ((getDisplayInfo n).exec answer s).1 := by
  intro h
  have hread : 16 ∈ readIds ((getDisplayInfo 17).events answer seventeenScanouts) := by
    decide +kernel
  obtain ⟨resp, mode, hmem⟩ := mem_readIds.mp hread
  exact absurd ((h seventeenScanouts 17).reads resp 16 mode hmem) (by decide)

end DisplayQueue

end VioGpu.Device
