import VioGpu.Device.HotPlugRuns
import VioGpu.Queue.DeliveryRuns

/-!
# The display information in memory

The response to `GET_DISPLAY_INFO` is a packed structure that the device stores byte by byte, and
the driver reads its fields through the pointer to the response. From a vbuffer that comes back
the driver reads the type and the modes that the device has stored, so that the loop over the
scanouts comes to the resolution of the host (`resolution_returned`).
-/

namespace VioGpu.Device

open Lib Queue VirtIO

/-! ## What the device stores -/

/-- `GPU_DISP_ONE` -/
def DispOne.fields (d : DispOne) : List PackedField :=
  [ulong d.x, ulong d.y, ulong d.width, ulong d.height, ulong d.enabled, ulong d.flags]

def DispOne.stored (d : DispOne) : DispOne :=
  ⟨u32 d.x, u32 d.y, u32 d.width, u32 d.height, u32 d.enabled, u32 d.flags⟩

/-- `GPU_CTRL_HDR` -/
structure GpuCtrlHdr where
  type : Nat
  flags : Nat
  fenceId : Nat
  ctxId : Nat
  padding : Nat

def GpuCtrlHdr.fields (h : GpuCtrlHdr) : List PackedField :=
  [ulong h.type, ulong h.flags, ulonglong h.fenceId, ulong h.ctxId, ulong h.padding]

/-- `GPU_RESP_DISP_INFO` -/
structure GpuRespDispInfo where
  hdr : GpuCtrlHdr
  pmodes : Nat → DispOne

def GpuRespDispInfo.bytes (r : GpuRespDispInfo) : List UInt8 :=
  pack r.hdr.fields ++
    ((List.range maxScanouts).map r.pmodes).flatMap fun d => pack d.fields

/-- The type and the modes as the fields have room for them. -/
def GpuRespDispInfo.stored (r : GpuRespDispInfo) : DisplayResponse where
  type := u32 r.hdr.type
  modes id := (r.pmodes id).stored

/-! ## What the driver reads -/

/-- `sizeof(GPU_DISP_ONE)` -/
def dispOneSize : Nat := 24

/-- A field of type `ULONG` at this address. -/
def readUlong (m : AddressSpace) (memory : Nat → UInt8) (va : Nat) : Nat :=
  wordOf ((m.bytes va 4).map memory)

/-- `GPU_DISP_ONE` at this address. -/
def readDispOne (m : AddressSpace) (memory : Nat → UInt8) (va : Nat) : DispOne where
  x := readUlong m memory va
  y := readUlong m memory (va + 4)
  width := readUlong m memory (va + 8)
  height := readUlong m memory (va + 12)
  enabled := readUlong m memory (va + 16)
  flags := readUlong m memory (va + 20)

/-- `resp->hdr.type` and `resp->pmodes[id]` -/
def readResponse (m : AddressSpace) (memory : Nat → UInt8) (resp : Nat) : DisplayResponse where
  type := readUlong m memory resp
  modes id := readDispOne m memory (resp + ctrlHdrSize + dispOneSize * id)

/-- The loop over the scanouts reads memory through `vbuf->resp_buf`. The other calls, which it does
not make, are answered by `others`. -/
def responseAnswer (m : AddressSpace) (memory : Nat → UInt8) (respBuf : Nat)
    (others : (c : DisplayCall) → c.Ans) (_ : Unit) (c : DisplayCall) : c.Ans × Unit :=
  match c with
  | .readRespBuf _ => (some respBuf, ())
  | .readType resp => ((readResponse m memory resp).type, ())
  | .readMode resp id => ((readResponse m memory resp).modes id, ())
  | c => (others c, ())

/-! ## That these are the same -/

variable {m : AddressSpace} {memory : Nat → UInt8} {va n k : Nat}

/-- The bytes of two parts. -/
theorem map_bytes_append {a b : List UInt8} (h : (m.bytes va (n + k)).map memory = a ++ b)
    (ha : a.length = n) :
    (m.bytes va n).map memory = a ∧ (m.bytes (va + n) k).map memory = b := by
  rw [AddressSpace.bytes_add, List.map_append] at h
  exact List.append_inj h (by rw [List.length_map, AddressSpace.length_bytes, ha])

/-- The words one after the other. -/
theorem readUlong_of_pack (values : List Nat) (h : (m.bytes va (4 * values.length)).map memory =
      pack (values.map ulong)) {i v : Nat} (hv : values[i]? = some v) :
    readUlong m memory (va + 4 * i) = u32 v := by
  induction values generalizing va i with
  | nil => cases hv
  | cons first values ih =>
    rw [List.length_cons, Nat.mul_succ, Nat.add_comm, List.map_cons, pack_cons] at h
    obtain ⟨hfirst, hrest⟩ := map_bytes_append h (length_wordBytes _ _)
    cases i with
    | zero =>
      obtain rfl : first = v := Option.some.inj hv
      rw [Nat.mul_zero, Nat.add_zero, readUlong, hfirst, wordOf_wordBytes]
      rfl
    | succ i =>
      have hread := ih hrest hv
      rwa [Nat.add_assoc, Nat.add_comm 4, ← Nat.mul_succ] at hread

theorem readDispOne_of_pack {d : DispOne}
    (h : (m.bytes va dispOneSize).map memory = pack d.fields) :
    readDispOne m memory va = d.stored := by
  have hread : ∀ (i : Nat) {v : Nat},
      [d.x, d.y, d.width, d.height, d.enabled, d.flags][i]? = some v →
      readUlong m memory (va + 4 * i) = u32 v := fun _ _ hv => readUlong_of_pack _ h hv
  rw [readDispOne, DispOne.stored, DispOne.mk.injEq]
  exact ⟨hread 0 rfl, hread 1 rfl, hread 2 rfl, hread 3 rfl, hread 4 rfl, hread 5 rfl⟩

/-- The structures one after the other. -/
theorem readDispOne_of_packs (modes : List DispOne)
    (h : (m.bytes va (dispOneSize * modes.length)).map memory =
      modes.flatMap fun d => pack d.fields) {i : Nat} {d : DispOne} (hd : modes[i]? = some d) :
    readDispOne m memory (va + dispOneSize * i) = d.stored := by
  induction modes generalizing va i with
  | nil => cases hd
  | cons first modes ih =>
    rw [List.length_cons, Nat.mul_succ, Nat.add_comm, List.flatMap_cons] at h
    obtain ⟨hfirst, hrest⟩ := map_bytes_append h (by rw [length_pack]; rfl)
    cases i with
    | zero =>
      obtain rfl : first = d := Option.some.inj hd
      exact readDispOne_of_pack hfirst
    | succ i =>
      have hread := ih hrest hd
      rwa [Nat.add_assoc, Nat.add_comm dispOneSize, ← Nat.mul_succ] at hread

/-- **The driver reads what the device has stored.** -/
theorem readResponse_of_bytes {resp : Nat} {r : GpuRespDispInfo}
    (h : (m.bytes resp respDispInfoSize).map memory = r.bytes) :
    (readResponse m memory resp).type = r.stored.type ∧
      ∀ id < maxScanouts, (readResponse m memory resp).modes id = r.stored.modes id := by
  obtain ⟨hhdr, hmodes⟩ := map_bytes_append (n := ctrlHdrSize) h (by rw [length_pack]; rfl)
  refine ⟨?_, fun id hid => ?_⟩
  · obtain ⟨htype, -⟩ := map_bytes_append (n := 4) (k := 20) hhdr
      (length_wordBytes 4 r.hdr.type)
    change wordOf ((m.bytes resp 4).map memory) = _
    rw [htype, wordOf_wordBytes]
    rfl
  · exact readDispOne_of_packs ((List.range maxScanouts).map r.pmodes)
      (by rw [List.length_map, List.length_range]; exact hmodes)
      (by rw [List.getElem?_map, List.getElem?_range hid]; rfl)

/-! ## The resolution -/

theorem resolution_congr {r r' : DisplayResponse} {n : Nat} (htype : r.type = r'.type)
    (h : ∀ id < n, r.modes id = r'.modes id) : r.resolution n = r'.resolution n := by
  have hmodes : resolution n r.modes = resolution n r'.modes := by
    refine List.foldl_ext _ _ _ fun res id hid => ?_
    rw [scanoutResolution, scanoutResolution, h id (List.mem_range.mp hid)]
  rw [DisplayResponse.resolution, DisplayResponse.resolution, htype, hmodes]

section Runs

variable {index notified : Nat} {event : Bool} {indirect : Nat → List VringDesc}
  {vq : Virtqueue PlacedVBuffer} {s s' : Delivery}

/-- **The resolution of the host comes over**: if the device has stored a response to the command
of the vbuffer that a get returns, the driver reads its type and its 16 modes, and the loop over at
most 16 scanouts comes to the resolution that it tells, or to none with another type. -/
theorem resolution_returned (hk : k ≤ 15)
    (hnew : vringNewVirtqueue index event notified (Vring.zeroed (2 ^ k) indirect) =
      .ok (some vq))
    (hr : (Delivery.system m vq memory).ReachableUnder (Delivery.Orderly m) s)
    (hs : s.step m (.ring .takeUsed) = some s') :
    ∃ (c : Completion) (a : AddedBuf PlacedVBuffer),
      s.session.completed[s.session.returned.length]? = some c ∧
      s'.session.returned = s.session.returned ++ [⟨some a.token, some c.elem.len⟩] ∧
      ∀ r : GpuRespDispInfo, a.token.vbuf.respSize = respDispInfoSize →
        (List.range respDispInfoSize).map (s.answers c.index) = r.bytes →
        (readResponse m s'.memory a.token.respBuf).type = r.stored.type ∧
          (∀ id < maxScanouts,
            (readResponse m s'.memory a.token.respBuf).modes id = r.stored.modes id) ∧
          ∀ numScanouts ≤ maxScanouts, ∀ others buf,
            (scanoutLoop (some buf) 0 numScanouts (0, 0)).exec
                (responseAnswer m s'.memory a.token.respBuf others) () =
              (.done (r.stored.resolution numScanouts), ()) := by
  obtain ⟨c, a, hcompleted, -, hreturned, hanswer⟩ :=
    (Delivery.inv_of_reachable hk hnew hr).answer hk hs
  refine ⟨c, a, hcompleted, hreturned, fun r hsize hstored => ?_⟩
  rw [PlacedVBuffer.respBytes, hsize, hstored] at hanswer
  obtain ⟨htype, hmodes⟩ := readResponse_of_bytes hanswer
  refine ⟨htype, hmodes, fun numScanouts hle others buf => ?_⟩
  rw [← resolution_congr htype fun id hid => hmodes id (Nat.lt_of_lt_of_le hid hle)]
  have hbuf : responseAnswer m s'.memory a.token.respBuf others () (.readRespBuf buf) =
      (some a.token.respBuf, ()) := rfl
  exact scanoutLoop_resolution hbuf rfl (fun _ => rfl) numScanouts

end Runs

/-- `AskDisplayInfo`, with the response on a page of its own. -/
def infoBuffer : PlacedVBuffer where
  vbuf := ⟨some (.ctrl .getDisplayInfo), 24, none, 0, some 0, 408, true⟩
  buf := 8192
  dataBuf := 0
  respBuf := 12288

theorem infoBuffer_orderly {vq : Virtqueue PlacedVBuffer} {memory : Nat → UInt8} :
    Delivery.Orderly Delivery.flat ⟨Session.start vq, memory, fun _ _ => 0⟩
      (.queueBuffer infoBuffer) := by
  refine Delivery.orderly_of_flat (c := .ctrl .getDisplayInfo) ?_ ⟨rfl, rfl, rfl⟩ rfl (by decide)
  exact ⟨by decide, by decide, by decide, by decide, by unfold WithinPage; decide,
    by unfold WithinPage; decide, .inl rfl, fun _ _ => rfl, fun _ _ => rfl, fun _ _ => rfl⟩

/-- Scanout 0 has 1600 by 1200, and the others are off. -/
def oneScanout : GpuRespDispInfo where
  hdr := ⟨respOkDisplayInfo, 0, 0, 0, 0⟩
  pmodes id := if id = 0 then ⟨0, 0, 1600, 1200, 1, 0⟩ else ⟨0, 0, 0, 0, 0, 0⟩

/-- The device stores the bytes that are not zero, and the driver gets the vbuffer back. -/
theorem resolution_returned_oneScanout : ∃ vq s s',
    vringNewVirtqueue 0 false 0 (Vring.zeroed (2 ^ 2) fun _ => []) = .ok (some vq) ∧
    (Delivery.system Delivery.flat vq fun _ => 0).ReachableUnder
      (Delivery.Orderly Delivery.flat) s ∧
    s.step Delivery.flat (.ring .takeUsed) = some s' ∧
    ∀ others, (scanoutLoop (some 0) 0 1 (0, 0)).exec
      (responseAnswer Delivery.flat s'.memory 12288 others) () = (.done (1600, 1200), ()) := by
  obtain ⟨vq, s₁, s, s', hnew, h₁, hrun, hs, hcompleted, htoken, hstored⟩ :
      ∃ vq s₁ s s',
      vringNewVirtqueue 0 false 0 (Vring.zeroed (2 ^ 2) fun _ => []) = .ok (some vq) ∧
      Delivery.step Delivery.flat ⟨Session.start vq, fun _ => 0, fun _ _ => 0⟩
        (.queueBuffer infoBuffer) = some s₁ ∧
      [.ring .exposeBuf, .ring .deviceTake, .store 0 0 0x01, .store 0 1 0x11, .store 0 32 0x40,
        .store 0 33 0x06, .store 0 36 0xb0, .store 0 37 0x04, .store 0 40 0x01,
        .ring (.deviceWrite 0 408), .ring .devicePublish, .ring .getBuf].foldlM
          (Delivery.step Delivery.flat) s₁ = some s ∧
      Delivery.step Delivery.flat s (.ring .takeUsed) = some s' ∧
      s.session.completed[s.session.returned.length]? = some ⟨0, ⟨0, 408⟩⟩ ∧
      s'.session.returned = s.session.returned ++ [⟨some infoBuffer, some 408⟩] ∧
      (List.range respDispInfoSize).map (s.answers 0) = oneScanout.bytes :=
    ⟨_, _, _, _, rfl, rfl, rfl, rfl, rfl, rfl, by decide +kernel⟩
  have hr : (Delivery.system Delivery.flat vq fun _ => 0).ReachableUnder
      (Delivery.Orderly Delivery.flat) s :=
    Delivery.reachable_of_noQueue (by simp [Delivery.QueuesNothing])
      (.step .init infoBuffer_orderly h₁) hrun
  obtain ⟨c, a, hc, hback, hread⟩ := resolution_returned (by decide) hnew hr hs
  rw [hcompleted] at hc
  cases hc
  rw [htoken] at hback
  have ha : infoBuffer = a.token :=
    Option.some.inj (congrArg GetResult.ret (List.singleton_inj.mp (List.append_cancel_left hback)))
  obtain ⟨-, -, hloop⟩ := hread oneScanout (by rw [← ha]; rfl) hstored
  refine ⟨vq, s, s', hnew, hr, hs, fun others => ?_⟩
  have h := hloop 1 (by decide) others 0
  rw [← ha] at h
  exact h

end VioGpu.Device
