import VioGpu.Device.HotPlug

/-!
# Whether the OS sees the new size

The bit of `events_read` is cleared after the device has answered, so that a change of the host in
between is cleared along with the one before it. Without such a change, and without an interrupt
that is dropped, the modes that the OS has read have the present size whenever there is nothing
left to do (`seen_current`): at first because `GetModeList` has asked for it
(`getModeList_offers`), later because the thread has. With such a change the new size is lost for
good, whatever happens but another change (`change_lost`).
-/

namespace VioGpu.Device

open Lib

/-! ## The resolution -/

/-- What the loop over the scanouts comes to with this response. -/
def DisplayResponse.resolution (r : DisplayResponse) (numScanouts : Nat) : Nat × Nat :=
  if r.type = respOkDisplayInfo then Device.resolution numScanouts r.modes else (0, 0)

section

open Program

variable {σ : Type} {answer : σ → (c : DisplayCall) → c.Ans × σ} {s : σ} {buf resp : Nat}
  {r : DisplayResponse} (hresp : answer s (.readRespBuf buf) = (some resp, s))
  (htype : answer s (.readType resp) = (r.type, s))
  (hmodes : ∀ id, answer s (.readMode resp id) = (r.modes id, s))
include hresp htype hmodes

theorem scanoutLoop_foldl (rest id : Nat) (res : Nat × Nat) :
    (scanoutLoop (some buf) id rest res).exec answer s =
      (.done (if r.type = respOkDisplayInfo then
        (List.range' id rest).foldl (scanoutResolution r.modes) res else res), s) := by
  induction rest generalizing id res with
  | zero => simp [scanoutLoop]
  | succ rest ih =>
    have hinfo : (scanoutInfo (some buf) id res).exec answer s =
        (.done (if r.type = respOkDisplayInfo then scanoutResolution r.modes res id else res),
          s) := by
      by_cases hok : r.type = respOkDisplayInfo
      · by_cases henabled : (r.modes id).enabled = 0
        · simp [scanoutInfo, scanoutResolution, deref, hresp, htype, hmodes, hok, henabled]
        · simp [scanoutInfo, scanoutResolution, deref, hresp, htype, hmodes, hok, henabled]
      · simp [scanoutInfo, deref, hresp, htype, hok]
    rw [scanoutLoop, exec_bind_of_done hinfo, ih, List.range'_succ, List.foldl_cons]
    split_ifs
    · rfl
    · rfl

/-- **The loop of `GetDisplayInfo`** comes to the resolution of the response. -/
theorem scanoutLoop_resolution (n : Nat) :
    (scanoutLoop (some buf) 0 n (0, 0)).exec answer s = (.done (r.resolution n), s) := by
  rw [scanoutLoop_foldl hresp htype hmodes, ← List.range_eq_range']
  rfl

end

/-- The loop in a state of the control queue. -/
theorem DisplayQueue.scanoutLoop_resolution {s : DisplayQueue} {buf resp : Nat}
    (hresp : (s.pool.bufs buf).respBuf = some resp) (n : Nat) :
    (scanoutLoop (some buf) 0 n (0, 0)).exec answer s = (.done (s.response.resolution n), s) := by
  have hbuf : answer s (.readRespBuf buf) = (some resp, s) := by
    rw [answer, hresp]
  exact Device.scanoutLoop_resolution hbuf rfl (fun _ => rfl) n

/-! ## The custom mode -/

namespace ModeTable

variable {t t' : ModeTable}

/-- A mode that is written is one of the modes. -/
theorem Filled.setVideoModeInfo_size (h : t.Filled) {idx : Nat} {mode : GpuDispMode}
    (hidx : idx < t.modeCount) (hs : t.setVideoModeInfo idx mode = some t') :
    ∃ mi ∈ t'.modes, mi.hasSize mode.xResolution mode.yResolution = true := by
  obtain ⟨hfilled, -, -, -⟩ := h.setVideoModeInfo hs
  obtain ⟨entry, modeInfo, hwidth, hheight, hwrite, rfl⟩ := setVideoModeInfo_cases hs
  obtain ⟨xs, -, hlt, rfl⟩ := ArrayPtr.write_cases hwrite
  obtain ⟨entries, hentries, -, -, hmodes⟩ := hfilled.modes_eq
  cases hentries
  have hget := hmodes idx hidx entry (List.getElem?_set_self hlt)
  refine ⟨_, List.mem_of_getElem? hget, ?_⟩
  simp only [VideoModeInformation.hasSize, hwidth, hheight, decide_true, Bool.and_self]

/-- `SetCustomDisplay` leaves a mode of the size. -/
theorem Filled.setCustomDisplay_size (h : t.Filled) {xres yres : Nat}
    (hs : t.setCustomDisplay xres yres = some t') :
    ∃ mi ∈ t'.modes, mi.hasSize (max minSize.cx xres) (max minSize.cy yres) = true := by
  have hnext := h.nextCustomMode t.lastIsCustom
  have hcustom : t.nextCustomMode t.lastIsCustom < t.modeCount := by
    split_ifs at hnext
    · omega
    · omega
  exact (h.assign t.lastIsCustom).setVideoModeInfo_size hcustom hs

end ModeTable

/-! ## The thread -/

/-- The thread has seen the bit, and is to clear it. -/
def WorkerAt.Handles : WorkerAt → Prop
  | .asks | .awaits | .custom _ | .clears => True
  | .waiting | .woken | .configChanged | .disconnects | .connects | .terminated => False

/-- The thread is to read `events_read` or to clear the bit, or is no more. -/
def WorkerAt.Looks : WorkerAt → Prop
  | .waiting | .disconnects | .connects => False
  | .woken | .configChanged | .asks | .awaits | .custom _ | .clears | .terminated => True

/-- The device has answered, and the bit is not cleared yet. -/
def WorkerAt.HasAnswer : WorkerAt → Prop
  | .custom _ | .clears => True
  | .waiting | .woken | .configChanged | .asks | .awaits | .disconnects | .connects
  | .terminated => False

instance (w : WorkerAt) : Decidable w.HasAnswer :=
  match w with
  | .custom _ | .clears => isTrue trivial
  | .waiting | .woken | .configChanged | .asks | .awaits | .disconnects | .connects
  | .terminated => isFalse id

theorem WorkerAt.HasAnswer.handles {w : WorkerAt} (h : w.HasAnswer) : w.Handles := by
  cases w with
  | custom res => trivial
  | clears => trivial
  | _ => cases h

/-- The table is as the OS has read it. -/
def WorkerAt.InSight : WorkerAt → Prop
  | .waiting | .woken | .configChanged | .asks | .awaits | .custom _ => True
  | .clears | .disconnects | .connects | .terminated => False

namespace HotPlug

/-- The table has a mode of this resolution, unless there is no display. -/
def Offers (modes : List VideoModeInformation) (res : Nat × Nat) : Prop :=
  res.1 ≠ 0 → res.2 ≠ 0 → ∃ mi ∈ modes,
    mi.hasSize (max minSize.cx (u16 res.1)) (max minSize.cy (u16 res.2)) = true

theorem setCustom_offers {t t' : ModeTable} {res : Nat × Nat} (h : t.Filled)
    (hs : setCustom t res = some t') : t'.Filled ∧ Offers t'.modes res := by
  unfold setCustom at hs
  split_ifs at hs with hres
  · exact ⟨(h.setCustomDisplay hs).1, fun _ _ => h.setCustomDisplay_size hs⟩
  · cases hs
    exact ⟨h, fun hx hy => absurd ⟨hx, hy⟩ hres⟩

end HotPlug

/-! ## After `GetModeList` -/

/-- `SetCustomDisplay` was called with this resolution. -/
def CustomPc.Sized (res : Nat × Nat) : CustomPc → Prop
  | .idle => True
  | .compare xres yres | .assign _ xres yres | .load xres yres | .write _ xres yres =>
    xres = u16 res.1 ∧ yres = u16 res.2

/-- An access in `SetCustomDisplay` takes no mode of the resolution away, and the last one leaves
one. -/
theorem CustomPc.step_offers {t t' : ModeTable} {pc pc' : CustomPc} {res : Nat × Nat}
    (ht : t.Filled) (hin : pc.Inside t) (hsized : pc.Sized res)
    (hs : pc.step t = some (pc', t')) : pc'.Sized res ∧
      (HotPlug.Offers t.modes res → HotPlug.Offers t'.modes res) ∧
      (pc' = .idle → HotPlug.Offers t'.modes res) := by
  cases pc with
  | idle => cases hs
  | compare xres yres =>
    cases hs
    exact ⟨hsized, id, fun h => (by cases h)⟩
  | assign last xres yres =>
    cases hs
    exact ⟨hsized, id, fun h => (by cases h)⟩
  | load xres yres =>
    cases hs
    exact ⟨hsized, id, fun h => (by cases h)⟩
  | write i xres yres =>
    obtain ⟨t₁, hset, h⟩ := Option.map_eq_some_iff.mp hs
    cases h
    obtain ⟨rfl, rfl⟩ := hsized
    have hi : i < t.modeCount := by
      obtain hi | hi := hin
      · omega
      · omega
    have hoffers : HotPlug.Offers t'.modes res := fun _ _ => ht.setVideoModeInfo_size hi hset
    exact ⟨trivial, fun _ => hoffers, fun _ => hoffers⟩

/-- What `GetModeList` has made of the answer at its end. -/
def MainPc.Answered (res : Nat × Nat) (t : ModeTable) : MainPc → Prop
  | .custom pc _ => pc.Sized res ∧ (pc = .idle → HotPlug.Offers t.modes res)
  | .returned status => status = .success → HotPlug.Offers t.modes res
  | .deleteModeInfo | .deleteModeNumbers | .clearModeInfo | .clearModeNumbers | .allocModeInfo
  | .allocModeNumbers | .resetCurrentMode | .fill .. | .setCustomMode _ | .copy .. | .setModeCount _
  | .getDisplayInfo _ => True

theorem MainPc.Answered.mono {res : Nat × Nat} {t t' : ModeTable} {pc : MainPc}
    (h : pc.Answered res t)
    (hmono : HotPlug.Offers t.modes res → HotPlug.Offers t'.modes res) : pc.Answered res t' := by
  cases pc with
  | custom pc status => exact ⟨h.1, fun hidle => hmono (h.2 hidle)⟩
  | returned status => exact fun hok => hmono (h hok)
  | _ => trivial

/-- `GetDisplayInfo` calls `SetCustomDisplay` if there is a display. -/
theorem CustomPc.displayInfo_sized (xres yres : Nat) (t : ModeTable) :
    (CustomPc.displayInfo xres yres).Sized (xres, yres) ∧
      (CustomPc.displayInfo xres yres = .idle → HotPlug.Offers t.modes (xres, yres)) := by
  unfold CustomPc.displayInfo
  split_ifs with hboth
  · exact ⟨⟨rfl, rfl⟩, fun h => (by cases h)⟩
  · exact ⟨trivial, fun _ hx hy => absurd ⟨hx, hy⟩ hboth⟩

/-- A step of `GetModeList`. -/
theorem MainPc.step_answered {t t' : ModeTable} {pDispInfo : DispInfo} {allocated : Bool}
    {xres yres : Nat} {pc pc' : MainPc} (hholds : pc.Holds t) (h : pc.Answered (xres, yres) t)
    (hs : pc.step pDispInfo t allocated xres yres = some (pc', t')) :
    pc'.Answered (xres, yres) t' := by
  cases pc with
  | deleteModeInfo | deleteModeNumbers =>
    obtain ⟨p, -, hs⟩ := Option.bind_eq_some_iff.mp hs
    cases hs
    trivial
  | clearModeInfo | clearModeNumbers | resetCurrentMode | setCustomMode | setModeCount =>
    cases hs
    trivial
  | allocModeInfo | allocModeNumbers =>
    cases allocated with
    | true =>
      cases hs
      trivial
    | false =>
      cases hs
      intro hok
      cases hok
  | fill k suitable =>
    simp only [step] at hs
    split_ifs at hs
    · obtain ⟨mode, -, hs⟩ := Option.bind_eq_some_iff.mp hs
      split at hs
      · obtain ⟨numbers, -, hs⟩ := Option.bind_eq_some_iff.mp hs
        obtain ⟨t₁, -, hs⟩ := Option.bind_eq_some_iff.mp hs
        cases hs
        trivial
      · cases hs
        trivial
    · cases hs
      trivial
  | copy suitable k =>
    simp only [step] at hs
    split_ifs at hs
    · obtain ⟨t₁, -, hs⟩ := Option.map_eq_some_iff.mp hs
      cases hs
      trivial
    · cases hs
      trivial
  | getDisplayInfo status =>
    cases hs
    exact CustomPc.displayInfo_sized xres yres t
  | custom pc status =>
    obtain ⟨hfilled, -, hin⟩ := hholds
    obtain ⟨rfl, rfl⟩ | ⟨pc₁, hstep, rfl⟩ := MainPc.custom_step hs
    · cases pc with
      | idle => exact fun _ => h.2 rfl
      | compare | assign | load => cases hs
      | write i x y =>
        obtain ⟨r, -, hr⟩ := Option.map_eq_some_iff.mp hs
        cases hr
    · obtain ⟨hsized, -, hoffers⟩ := CustomPc.step_offers hfilled hin h.1 hstep
      exact ⟨hsized, hoffers⟩
  | returned status => cases hs

namespace HwInit

/-- The device has this resolution throughout, and the worker comes to `SetCustomDisplay` only with
a count. -/
def AnswersWith (res : Nat × Nat) (s : HwInit) : HwInitEvent → Prop
  | .main _ xres yres => (xres, yres) = res
  | .displayInfo xres yres => s.Counted (.displayInfo xres yres) ∧ (xres, yres) = res
  | .worker => True

instance (res : Nat × Nat) (s : HwInit) : (e : HwInitEvent) → Decidable (s.AnswersWith res e)
  | .main _ xres yres => inferInstanceAs (Decidable ((xres, yres) = res))
  | .displayInfo xres yres =>
    inferInstanceAs (Decidable (s.Counted (.displayInfo xres yres) ∧ (xres, yres) = res))
  | .worker => isTrue trivial

theorem AnswersWith.counted {res : Nat × Nat} {s : HwInit} {e : HwInitEvent}
    (h : s.AnswersWith res e) : s.Counted e := by
  cases e with
  | main allocated xres yres => trivial
  | displayInfo xres yres => exact h.1
  | worker => trivial

/-- The invariant of a run, with what the threads have made of the answers. -/
structure Answering (res : Nat × Nat) (s : HwInit) : Prop where
  inv : s.Inv
  main : s.main.Answered res s.table
  worker : s.worker.Sized res

theorem Answering.step {pDispInfo : DispInfo} {customMode : Nat} {res : Nat × Nat} {s s' : HwInit}
    {e : HwInitEvent} (h : s.Answering res) (hanswers : s.AnswersWith res e)
    (hs : (system pDispInfo customMode).step s e = some s') : s'.Answering res := by
  have hinv := h.inv.step hanswers.counted hs
  cases e with
  | main allocated xres yres =>
    obtain rfl := hanswers
    obtain ⟨⟨pc', t'⟩, hstep, rfl⟩ := Option.map_eq_some_iff.mp hs
    exact ⟨hinv, MainPc.step_answered h.inv.main h.main hstep, h.worker⟩
  | displayInfo xres yres =>
    obtain ⟨-, rfl⟩ := hanswers
    simp only [system] at hs
    split_ifs at hs
    cases hs
    exact ⟨hinv, h.main, (CustomPc.displayInfo_sized xres yres s.table).1⟩
  | worker =>
    obtain ⟨⟨pc', t'⟩, hstep, rfl⟩ := Option.map_eq_some_iff.mp hs
    have hne : s.worker ≠ .idle := by
      intro hidle
      rw [hidle] at hstep
      cases hstep
    have hfilled := h.inv.main.filled (h.inv.worker hne)
    obtain ⟨hsized, hmono, -⟩ := CustomPc.step_offers hfilled h.inv.inside h.worker hstep
    exact ⟨hinv, h.main.mono hmono, hsized⟩

end HwInit

namespace HotPlug

/-! ## The bit -/

/-- The display bit of `events_read` is set. -/
def Pending (s : HotPlug) : Prop := s.eventsRead &&& virtioGpuEventDisplay ≠ 0

theorem or_display (e : BitVec 32) :
    (e ||| virtioGpuEventDisplay) &&& virtioGpuEventDisplay ≠ 0 := by
  intro h
  have hbit := congrArg (·.getLsbD 0) h
  simp [virtioGpuEventDisplay] at hbit

theorem and_not_display (e : BitVec 32) :
    (e &&& ~~~virtioGpuEventDisplay) &&& virtioGpuEventDisplay = 0 := by
  rw [BitVec.and_assoc, BitVec.not_and_self]
  exact BitVec.and_zero

/-! ## Runs in time -/

/-- What the host and the device promise: no change between the answer and the clearing of the bit,
no interrupt for the configuration alone, which `InterruptRoutine` drops, and an answer with the
display information. -/
def InTime (s : HotPlug) : HotPlugEvent → Prop
  | .change _ => ¬s.worker.HasAnswer
  | .interrupt queue => s.isrConfig = true → queue = true
  | .answer ok => ok = true
  | .otherChange | .dpc | .worker _ | .gpuDeviceClose | .hwClose => True

instance (s : HotPlug) : (e : HotPlugEvent) → Decidable (s.InTime e)
  | .change _ => inferInstanceAs (Decidable ¬s.worker.HasAnswer)
  | .interrupt queue => inferInstanceAs (Decidable (s.isrConfig = true → queue = true))
  | .answer ok => inferInstanceAs (Decidable (ok = true))
  | .otherChange | .dpc | .worker _ | .gpuDeviceClose | .hwClose => isTrue trivial

/-- A change of the configuration is on its way to the thread. -/
def Notifying (s : HotPlug) : Prop :=
  s.isrConfig = true ∨ s.pendingChange = true ∨ s.configUpdateEvent = true

/-- The invariant of the device, the thread and the OS. -/
structure Inv (n : Nat) (s : HotPlug) : Prop where
  filled : s.table.Filled
  handles : s.worker.Handles → s.Pending
  noticed : s.Pending → s.Notifying ∨ s.worker.Looks
  custom : ∀ res, s.worker = .custom res → res = resolution n s.modes
  clears : s.worker = .clears → Offers s.table.modes (resolution n s.modes)
  offers : ¬s.Pending → Offers s.table.modes (resolution n s.modes)
  seen : s.worker.InSight → s.seen = s.table.modes

variable {n : Nat} {s s' : HotPlug}

theorem inv_start {modes : Nat → DispOne} {table : ModeTable} (hfilled : table.Filled)
    (hoffers : Offers table.modes (resolution n modes)) : (start modes table).Inv n where
  filled := hfilled
  handles h := by cases h
  noticed h := absurd BitVec.zero_and h
  custom _ h := by cases h
  clears h := by cases h
  offers _ := hoffers
  seen _ := rfl

/-- A step that leaves the thread, the display, the bit and the modes as they are. -/
theorem Inv.sameWorker (hi : s.Inv n) (hworker : s'.worker = s.worker)
    (hmodes : s'.modes = s.modes) (hevents : s'.eventsRead = s.eventsRead)
    (htable : s'.table = s.table) (hseen : s'.seen = s.seen)
    (hkept : s.Notifying → s'.Notifying) : s'.Inv n where
  filled := by rw [htable]; exact hi.filled
  handles := by
    rw [hworker, Pending, hevents]
    exact hi.handles
  noticed := by
    rw [hworker, Pending, hevents]
    exact fun hpending => (hi.noticed hpending).imp_left hkept
  custom := by rw [hworker, hmodes]; exact hi.custom
  clears := by rw [hworker, hmodes, htable]; exact hi.clears
  offers := by
    rw [Pending, hevents, hmodes, htable]
    exact hi.offers
  seen := by rw [hworker, hseen, htable]; exact hi.seen

/-- The host changes a display. -/
theorem Inv.change (hi : s.Inv n) {modes : Nat → DispOne} (hintime : s.InTime (.change modes))
    (hs : s.step n (.change modes) = some s') : s'.Inv n := by
  cases hs
  refine ⟨hi.filled, fun _ => or_display _, fun _ => .inl (.inl rfl), fun res hres => ?_,
    fun hclears => ?_, fun hnot => absurd (or_display _) hnot, hi.seen⟩
  · have hworker : s.worker = .custom res := hres
    rw [InTime, hworker] at hintime
    exact absurd trivial hintime
  · have hworker : s.worker = .clears := hclears
    rw [InTime, hworker] at hintime
    exact absurd trivial hintime

/-- What an answer does. -/
theorem step_answer {ok : Bool} (hs : s.step n (.answer ok) = some s') :
    s.worker = .awaits ∧ s.inRing = true ∧ s' = { s with
      worker := .custom (if ok then resolution n s.modes else (0, 0)), inRing := false } := by
  by_cases hasked : s.worker = .awaits ∧ s.inRing = true
  · rw [HotPlug.step, if_pos hasked] at hs
    cases hs
    exact ⟨hasked.1, hasked.2, rfl⟩
  · rw [HotPlug.step, if_neg hasked] at hs
    cases hs

/-- The device answers with the present display information. -/
theorem Inv.answer (hi : s.Inv n) (hs : s.step n (.answer true) = some s') : s'.Inv n := by
  obtain ⟨hawaits, -, rfl⟩ := step_answer hs
  have hpending : s.Pending := hi.handles (by rw [hawaits]; trivial)
  refine ⟨hi.filled, fun _ => hpending, fun _ => .inr trivial, fun res hres => ?_,
    fun hclears => (by cases hclears), fun hnot => absurd hpending hnot, fun _ => ?_⟩
  · cases hres
    rfl
  · exact hi.seen (by rw [hawaits]; trivial)

/-- A step of the thread. -/
theorem Inv.worker (hi : s.Inv n) {entered : Bool}
    (hs : s.step n (.worker entered) = some s') : s'.Inv n := by
  change s.workerStep entered = some s' at hs
  unfold workerStep at hs
  cases hworker : s.worker with
  | waiting =>
    rw [hworker] at hs
    dsimp only at hs
    split_ifs at hs
    cases hs
    exact ⟨hi.filled, fun h => (by cases h), fun _ => .inr trivial,
      fun _ h => (by cases h), fun h => (by cases h), hi.offers,
      fun _ => hi.seen (by rw [hworker]; trivial)⟩
  | woken =>
    rw [hworker] at hs
    have hseen := hi.seen (by rw [hworker]; trivial)
    cases hstop : s.stopWorkThread with
    | true =>
      rw [hstop] at hs
      cases hs
      exact ⟨hi.filled, fun h => (by cases h), fun _ => .inr trivial,
        fun _ h => (by cases h), fun h => (by cases h), hi.offers, fun h => (by cases h)⟩
    | false =>
      rw [hstop] at hs
      cases hs
      exact ⟨hi.filled, fun h => (by cases h), fun _ => .inr trivial,
        fun _ h => (by cases h), fun h => (by cases h), hi.offers, fun _ => hseen⟩
  | configChanged =>
    rw [hworker] at hs
    cases hs
    have hseen := hi.seen (by rw [hworker]; trivial)
    by_cases hpending : s.eventsRead &&& virtioGpuEventDisplay ≠ 0
    · rw [if_pos hpending]
      exact ⟨hi.filled, fun _ => hpending, fun _ => .inr trivial, fun _ h => (by cases h),
        fun h => (by cases h), hi.offers, fun _ => hseen⟩
    · rw [if_neg hpending]
      exact ⟨hi.filled, fun h => (by cases h), fun h => absurd h hpending,
        fun _ h => (by cases h), fun h => (by cases h), hi.offers, fun _ => hseen⟩
  | asks =>
    rw [hworker] at hs
    dsimp only at hs
    split_ifs at hs
    cases hs
    have hpending : s.Pending := hi.handles (by rw [hworker]; trivial)
    exact ⟨hi.filled, fun _ => hpending, fun _ => .inr trivial, fun _ h => (by cases h),
      fun h => (by cases h), hi.offers, fun _ => hi.seen (by rw [hworker]; trivial)⟩
  | awaits =>
    rw [hworker] at hs
    cases hs
  | custom res =>
    rw [hworker] at hs
    obtain ⟨table, htable, hs⟩ := Option.bind_eq_some_iff.mp hs
    cases hs
    obtain ⟨hfilled, hoffers⟩ := setCustom_offers hi.filled htable
    have hpending : s.Pending := hi.handles (by rw [hworker]; trivial)
    obtain rfl := hi.custom res hworker
    exact ⟨hfilled, fun _ => hpending, fun _ => .inr trivial, fun _ h => (by cases h),
      fun _ => hoffers, fun h => absurd hpending h, fun h => (by cases h)⟩
  | clears =>
    rw [hworker] at hs
    cases hs
    have hgone : ¬(s.eventsRead &&& ~~~virtioGpuEventDisplay) &&& virtioGpuEventDisplay ≠ 0 :=
      not_not.mpr (and_not_display _)
    exact ⟨hi.filled, fun h => (by cases h), fun h => absurd h hgone, fun _ h => (by cases h),
      fun h => (by cases h), fun _ => hi.clears hworker, fun h => (by cases h)⟩
  | disconnects =>
    rw [hworker] at hs
    cases hs
    have hnoticed := hi.noticed
    rw [hworker] at hnoticed
    exact ⟨hi.filled, fun h => (by cases h), hnoticed, fun _ h => (by cases h),
      fun h => (by cases h), hi.offers, fun h => (by cases h)⟩
  | connects =>
    rw [hworker] at hs
    cases hs
    have hnoticed := hi.noticed
    rw [hworker] at hnoticed
    exact ⟨hi.filled, fun h => (by cases h), hnoticed, fun _ h => (by cases h),
      fun h => (by cases h), hi.offers, fun _ => rfl⟩
  | terminated =>
    rw [hworker] at hs
    cases hs

/-- An interrupt that is not for the configuration alone takes the change on. -/
theorem notifying_interrupt {queue : Bool} (hintime : s.InTime (.interrupt queue))
    (h : s.Notifying) : (s.interruptRoutine queue).Notifying := by
  obtain hisr | hpending | hevent := h
  · obtain rfl : queue = true := hintime hisr
    refine .inr (.inl ?_)
    simp only [interruptRoutine, hisr, Isr.value]
    exact Bool.or_true _
  · refine .inr (.inl ?_)
    simp only [interruptRoutine, hpending, Bool.true_or]
  · exact .inr (.inr hevent)

theorem Inv.step (hi : s.Inv n) {e : HotPlugEvent} (hintime : s.InTime e)
    (hs : s.step n e = some s') : s'.Inv n := by
  cases e with
  | change modes => exact hi.change hintime hs
  | otherChange =>
    cases hs
    exact hi.sameWorker rfl rfl rfl rfl rfl fun _ => .inl rfl
  | interrupt queue =>
    cases hs
    exact hi.sameWorker rfl rfl rfl rfl rfl (notifying_interrupt hintime)
  | dpc =>
    dsimp only [HotPlug.step] at hs
    split_ifs at hs
    cases hs
    exact hi.sameWorker rfl rfl rfl rfl rfl fun _ => .inr (.inr rfl)
  | worker entered => exact hi.worker hs
  | answer ok =>
    obtain rfl : ok = true := hintime
    exact hi.answer hs
  | gpuDeviceClose =>
    cases hs
    exact hi.sameWorker rfl rfl rfl rfl rfl id
  | hwClose =>
    cases hs
    exact hi.sameWorker rfl rfl rfl rfl rfl fun _ => .inr (.inr rfl)

/-- `GetModeList` has filled the table where it succeeds. -/
theorem filled_of_returned {pDispInfo : DispInfo} {customMode : Nat} {s₀ : HwInit}
    (h₀ : (HwInit.system pDispInfo customMode).ReachableUnder HwInit.Counted s₀)
    (hreturned : s₀.main = .returned .success) : s₀.table.Filled := by
  have hholds := (HwInit.inv_of_reachable h₀).main
  rw [hreturned] at hholds
  obtain ⟨-, hfails⟩ | ⟨hfilled, -⟩ := hholds
  · exact absurd rfl hfails
  · exact hfilled

/-- A display of 1600 by 1200 on scanout 0, which is off before. -/
def oneDisplay (enabled : Nat) : Nat → DispOne := fun _ => ⟨0, 0, 1600, 1200, enabled, 0⟩

/-- The display comes on, and the thread handles it. -/
def displayOn : List HotPlugEvent :=
  [.change (oneDisplay 1), .interrupt true, .dpc, .worker true, .worker true, .worker true,
    .worker true, .answer true, .worker true, .worker true, .worker true, .worker true]

/-- The event brings no change of the configuration, and does not stop the thread. -/
def LeavesAlone : HotPlugEvent → Prop
  | .change _ | .otherChange | .hwClose => False
  | .interrupt _ | .dpc | .worker _ | .answer _ | .gpuDeviceClose => True

/-- **A dropped interrupt**: a thread that waits goes on to wait where the configuration bit comes
alone, and the OS keeps the modes that it has, until the next change. -/
theorem change_dropped {s₁ : HotPlug} (hwaits : s₁.worker = .waiting)
    (hpending : s₁.pendingChange = false) (hevent : s₁.configUpdateEvent = false)
    (hr : System.ReachableUnder ⟨s₁.interruptRoutine false, HotPlug.step n⟩
      (fun _ e => LeavesAlone e) s) :
    s.worker = .waiting ∧ s.seen = s₁.seen := by
  have hall : s.worker = .waiting ∧ ¬s.Notifying ∧ s.seen = s₁.seen := by
    refine hr.induct (fun s => s.worker = .waiting ∧ ¬s.Notifying ∧ s.seen = s₁.seen) ?_ ?_
    · refine ⟨hwaits, ?_, rfl⟩
      cases hisr : s₁.isrConfig with
      | true => simp [Notifying, interruptRoutine, hisr, hpending, hevent, Isr.value]
      | false => simp [Notifying, interruptRoutine, hisr, hpending, hevent, Isr.value]
    · intro s e s' h he hs
      obtain ⟨hwaits, hquiet, hseen⟩ := h
      have hnot : s.isrConfig = false ∧ s.pendingChange = false ∧
          s.configUpdateEvent = false := by
        simpa [Notifying] using hquiet
      cases e with
      | change | otherChange | hwClose => cases he
      | interrupt queue =>
        cases hs
        refine ⟨hwaits, ?_, hseen⟩
        cases queue with
        | true => simp [Notifying, interruptRoutine, hnot, Isr.value]
        | false => simp [Notifying, interruptRoutine, hnot, Isr.value]
      | dpc =>
        simp only [HotPlug.step, hnot.2.1, Bool.false_eq_true, if_false] at hs
        cases hs
      | worker entered =>
        simp only [HotPlug.step, workerStep, hwaits, hnot.2.2, Bool.false_eq_true, if_false] at hs
        cases hs
      | answer ok =>
        rw [(step_answer hs).1] at hwaits
        cases hwaits
      | gpuDeviceClose =>
        cases hs
        exact ⟨hwaits, hquiet, hseen⟩
  exact ⟨hall.1, hall.2.2⟩

/-! ## A change at the wrong moment -/

/-- The table when the answer that the thread has is in it. -/
def answeredTable (s : HotPlug) : Option ModeTable :=
  match s.worker with
  | .custom res => setCustom s.table res
  | .waiting | .woken | .configChanged | .asks | .awaits | .clears | .disconnects | .connects
  | .terminated => some s.table

/-- The event is no change of a display. -/
def NoChange : HotPlugEvent → Prop
  | .change _ => False
  | .otherChange | .interrupt _ | .dpc | .worker _ | .answer _ | .gpuDeviceClose | .hwClose => True

instance : DecidablePred NoChange
  | .change _ => isFalse id
  | .otherChange | .interrupt _ | .dpc | .worker _ | .answer _ | .gpuDeviceClose | .hwClose =>
    isTrue trivial

/-- The thread is done with the answer or not, and then there is nothing that it would ask for. -/
structure Missed (modes : Nat → DispOne) (table : Option ModeTable) (s : HotPlug) : Prop where
  modes : s.modes = modes
  table : s.answeredTable = table
  answered : s.worker.Handles → s.worker.HasAnswer
  gone : ¬s.worker.Handles → ¬s.Pending
  seen : s.worker.InSight → ¬s.worker.Handles → s.seen = s.table.modes

section Missed

variable {modes : Nat → DispOne} {table : Option ModeTable}

/-- A step that leaves the thread, the display, the bit and the modes as they are. -/
theorem Missed.sameWorker (hm : s.Missed modes table) (hworker : s'.worker = s.worker)
    (hmodes : s'.modes = s.modes) (hevents : s'.eventsRead = s.eventsRead)
    (htable : s'.table = s.table) (hseen : s'.seen = s.seen) : s'.Missed modes table where
  modes := hmodes.trans hm.modes
  table := by
    rw [answeredTable, hworker, htable]
    exact hm.table
  answered := by rw [hworker]; exact hm.answered
  gone := by
    rw [hworker, Pending, hevents]
    exact hm.gone
  seen := by rw [hworker, hseen, htable]; exact hm.seen

/-- A step of the thread. -/
theorem Missed.worker (hm : s.Missed modes table) {entered : Bool}
    (hs : s.step n (.worker entered) = some s') : s'.Missed modes table := by
  obtain ⟨hmodes, htable, hanswered, hgone, hseen⟩ := hm
  change s.workerStep entered = some s' at hs
  unfold workerStep at hs
  unfold answeredTable at htable
  cases hworker : s.worker with
  | waiting =>
    rw [hworker] at hs htable hgone hseen
    dsimp only at hs
    split_ifs at hs
    cases hs
    exact ⟨hmodes, htable, fun h => (by cases h), fun _ => hgone id,
      fun _ _ => hseen trivial id⟩
  | woken =>
    rw [hworker] at hs htable hgone hseen
    cases hstop : s.stopWorkThread with
    | true =>
      rw [hstop] at hs
      cases hs
      exact ⟨hmodes, htable, fun h => (by cases h), fun _ => hgone id, fun h => (by cases h)⟩
    | false =>
      rw [hstop] at hs
      cases hs
      exact ⟨hmodes, htable, fun h => (by cases h), fun _ => hgone id,
        fun _ _ => hseen trivial id⟩
  | configChanged =>
    rw [hworker] at hs htable hgone hseen
    cases hs
    have hgone' : ¬(s.eventsRead &&& virtioGpuEventDisplay ≠ 0) := hgone id
    rw [if_neg hgone']
    exact ⟨hmodes, htable, fun h => (by cases h), fun _ => hgone id,
      fun _ _ => hseen trivial id⟩
  | asks =>
    rw [hworker] at hanswered
    exact absurd (hanswered trivial) id
  | awaits =>
    rw [hworker] at hanswered
    exact absurd (hanswered trivial) id
  | custom res =>
    rw [hworker] at hs htable
    obtain ⟨t, ht, hs⟩ := Option.bind_eq_some_iff.mp hs
    cases hs
    exact ⟨hmodes, ht.symm.trans htable, fun _ => trivial, fun h => absurd trivial h,
      fun h => (by cases h)⟩
  | clears =>
    rw [hworker] at hs htable
    cases hs
    exact ⟨hmodes, htable, fun h => (by cases h), fun _ => not_not.mpr (and_not_display _),
      fun h => (by cases h)⟩
  | disconnects =>
    rw [hworker] at hs htable hgone
    cases hs
    exact ⟨hmodes, htable, fun h => (by cases h), fun _ => hgone id, fun h => (by cases h)⟩
  | connects =>
    rw [hworker] at hs htable hgone
    cases hs
    exact ⟨hmodes, htable, fun h => (by cases h), fun _ => hgone id, fun _ _ => rfl⟩
  | terminated =>
    rw [hworker] at hs
    cases hs

theorem Missed.step (hm : s.Missed modes table) {e : HotPlugEvent} (he : NoChange e)
    (hs : s.step n e = some s') : s'.Missed modes table := by
  cases e with
  | change modes => cases he
  | otherChange =>
    cases hs
    exact hm.sameWorker rfl rfl rfl rfl rfl
  | interrupt queue =>
    cases hs
    exact hm.sameWorker rfl rfl rfl rfl rfl
  | dpc =>
    dsimp only [HotPlug.step] at hs
    split_ifs at hs
    cases hs
    exact hm.sameWorker rfl rfl rfl rfl rfl
  | worker entered => exact hm.worker hs
  | answer ok =>
    have hanswered := hm.answered
    rw [(step_answer hs).1] at hanswered
    exact absurd (hanswered trivial) id
  | gpuDeviceClose =>
    cases hs
    exact hm.sameWorker rfl rfl rfl rfl rfl
  | hwClose =>
    cases hs
    exact hm.sameWorker rfl rfl rfl rfl rfl

/-- **A change is lost** that comes when the device has answered and the bit is not cleared yet:
wherever the thread waits after it, and until another change, the OS has read the modes with the
old answer, and the modes of the driver are no others. -/
theorem change_lost {s₁ s₂ : HotPlug} (hanswer : s₁.worker.HasAnswer)
    (hchange : s₁.step n (.change modes) = some s₂)
    (hr : System.ReachableUnder ⟨s₂, HotPlug.step n⟩ (fun _ e => NoChange e) s)
    (hwaits : s.worker = .waiting) :
    s.modes = modes ∧ s₁.answeredTable = some s.table ∧ s.seen = s.table.modes := by
  have hstart : s₂.Missed modes s₁.answeredTable := by
    cases hchange
    refine ⟨rfl, rfl, fun _ => hanswer, fun h => ?_, fun _ h => ?_⟩
    · exact absurd (hanswer.handles) h
    · exact absurd (hanswer.handles) h
  have hm := hr.induct (Missed modes s₁.answeredTable) hstart
    fun _ _ _ hm he hs => hm.step he hs
  refine ⟨hm.modes, ?_, hm.seen (by rw [hwaits]; trivial) (by rw [hwaits]; exact id)⟩
  rw [← hm.table, answeredTable, hwaits]

end Missed

/-- The display changes again to 1920 by 1200 before the first size is in the table. -/
theorem change_lost_again : ∃ s₀ s₁ s₂ s,
    (HwInit.system HwInit.smallDisplay 0).run ModeUse.wholeGetModeList = some s₀ ∧
    (system 1 (oneDisplay 0) s₀.table).run (displayOn.take 8) = some s₁ ∧
    s₁.step 1 (.change fun _ => ⟨0, 0, 1920, 1200, 1, 0⟩) = some s₂ ∧
    System.runUnder ⟨s₂, HotPlug.step 1⟩ (fun _ e => NoChange e)
      (displayOn.drop 8 ++
        [.interrupt true, .dpc, .worker true, .worker true, .worker true]) = some s ∧
    resolution 1 s.modes = (1920, 1200) ∧ s.seen = s.table.modes ∧
    ∀ mi ∈ s.table.modes, mi.hasSize 1920 1200 = false := by
  obtain ⟨s₀, s₁, s₂, s, h₀, h₁, hchange, h, hanswer, hwaits, hnone⟩ : ∃ s₀ s₁ s₂ s,
      (HwInit.system HwInit.smallDisplay 0).run ModeUse.wholeGetModeList = some s₀ ∧
      (system 1 (oneDisplay 0) s₀.table).run (displayOn.take 8) = some s₁ ∧
      s₁.step 1 (.change fun _ => ⟨0, 0, 1920, 1200, 1, 0⟩) = some s₂ ∧
      System.runUnder ⟨s₂, HotPlug.step 1⟩ (fun _ e => NoChange e)
        (displayOn.drop 8 ++
        [.interrupt true, .dpc, .worker true, .worker true, .worker true]) = some s ∧
      s₁.worker = .custom (1600, 1200) ∧ s.worker = .waiting ∧
      ∀ mi ∈ s.table.modes, mi.hasSize 1920 1200 = false :=
    ⟨_, _, _, _, rfl, rfl, rfl, rfl, rfl, rfl, by decide⟩
  obtain ⟨hmodes, -, hseen⟩ := change_lost (by rw [hanswer]; trivial) hchange
    (System.reachable_of_run h) hwaits
  exact ⟨s₀, s₁, s₂, s, h₀, h₁, hchange, h, by rw [hmodes]; rfl, hseen, hnone⟩

/-! ## The end of the thread -/

/-- The thread asks the device, or is about to. -/
def Stuck (s : HotPlug) : Prop :=
  s.worker = .asks ∨ s.worker = .awaits ∨ (s.worker = .configChanged ∧ s.Pending)

/-- The thread of a closed device never gets past its question. -/
theorem Stuck.step (hstuck : s.Stuck) (hclosed : s.queueOpen = false ∧ s.inRing = false)
    {e : HotPlugEvent} (hs : s.step n e = some s') :
    s'.Stuck ∧ s'.queueOpen = false ∧ s'.inRing = false := by
  cases e with
  | change modes =>
    cases hs
    exact ⟨hstuck.imp_right fun h => h.imp_right fun h => ⟨h.1, or_display _⟩, hclosed⟩
  | otherChange =>
    cases hs
    exact ⟨hstuck, hclosed⟩
  | interrupt queue =>
    cases hs
    exact ⟨hstuck, hclosed⟩
  | dpc =>
    dsimp only [HotPlug.step] at hs
    split_ifs at hs
    cases hs
    exact ⟨hstuck, hclosed⟩
  | worker entered =>
    change s.workerStep entered = some s' at hs
    unfold workerStep at hs
    obtain hworker | hworker | ⟨hworker, hpending⟩ := hstuck
    · rw [hworker] at hs
      dsimp only at hs
      rw [hclosed.1, if_neg Bool.false_ne_true] at hs
      cases hs
    · rw [hworker] at hs
      cases hs
    · rw [hworker] at hs
      cases hs
      exact ⟨.inl (if_pos hpending), hclosed⟩
  | answer ok =>
    have hring := (step_answer hs).2.1
    rw [hclosed.2] at hring
    cases hring
  | gpuDeviceClose =>
    cases hs
    exact ⟨hstuck, rfl, rfl⟩
  | hwClose =>
    cases hs
    exact ⟨hstuck, hclosed⟩

/-- The thread comes to its end from here. -/
def Ends (n : Nat) (s : HotPlug) : Prop :=
  ∃ (events : List HotPlugEvent) (s' : HotPlug),
    events.foldlM (HotPlug.step n) s = some s' ∧ s'.worker = .terminated

theorem Ends.of_worker {t : HotPlug} (hs : s.workerStep true = some t) (hends : t.Ends n) :
    s.Ends n := by
  obtain ⟨events, u, hrun, hu⟩ := hends
  refine ⟨.worker true :: events, u, ?_, hu⟩
  have hstep : s.step n (.worker true) = some t := hs
  rw [List.foldlM_cons, hstep]
  exact hrun

theorem Stuck.not_ends (hstuck : s.Stuck) (hclosed : s.queueOpen = false ∧ s.inRing = false) :
    ¬s.Ends n := by
  intro hends
  obtain ⟨events, t, hrun, ht⟩ := hends
  induction events generalizing s with
  | nil =>
    cases hrun
    obtain h | h | h := hstuck
    · rw [ht] at h
      cases h
    · rw [ht] at h
      cases h
    · rw [ht] at h
      cases h.1
  | cons e events ih =>
    rw [List.foldlM_cons] at hrun
    obtain ⟨u, hu, hrun⟩ := Option.bind_eq_some_iff.mp hrun
    obtain ⟨hstuck', hclosed'⟩ := hstuck.step hclosed hu
    exact ih hstuck' hclosed' hrun

/-- `SetCustomDisplay` finds its entry in a filled table. -/
theorem setCustom_isSome {t : ModeTable} (h : t.Filled) (res : Nat × Nat) :
    ∃ t', setCustom t res = some t' := by
  unfold setCustom
  split_ifs with hres
  · obtain ⟨entries, hentries, hlength⟩ := h.modeInfo
    have hnext := (h.assign t.lastIsCustom).customMode
    have hle := h.le
    change t.nextCustomMode t.lastIsCustom + 1 = t.modeCount ∨
      t.nextCustomMode t.lastIsCustom + 2 = t.modeCount at hnext
    have hlt : t.nextCustomMode t.lastIsCustom < entries.length := by omega
    rw [ModeTable.setCustomDisplay, ModeTable.setVideoModeInfo, hentries, ArrayPtr.write,
      if_pos hlt]
    exact ⟨_, rfl⟩
  · exact ⟨t, rfl⟩

/-- The thread is to stop, and finds the event set. -/
structure Stops (s : HotPlug) : Prop where
  stop : s.stopWorkThread = true
  event : s.configUpdateEvent = true

section Stops

variable (hs : s.Stops)
include hs

theorem Stops.woken (hworker : s.worker = .woken) : s.Ends n := by
  refine Ends.of_worker (t := { s with worker := .terminated }) ?_ ⟨[], _, rfl, rfl⟩
  rw [workerStep, hworker]
  simp only [hs.stop, if_true]

theorem Stops.waiting (hworker : s.worker = .waiting) : s.Ends n := by
  refine Ends.of_worker (t := { s with configUpdateEvent := false, worker := .woken }) ?_ ?_
  · rw [workerStep, hworker]
    exact if_pos hs.event
  · refine Ends.of_worker (t := { s with configUpdateEvent := false, worker := .terminated }) ?_
      ⟨[], _, rfl, rfl⟩
    simp only [workerStep, hs.stop, if_true]

theorem Stops.connects (hworker : s.worker = .connects) : s.Ends n := by
  refine Ends.of_worker ?_ (Stops.waiting (s := { s with
    seen := s.table.modes, worker := .waiting }) ⟨hs.stop, hs.event⟩ rfl)
  rw [workerStep, hworker]

theorem Stops.disconnects (hworker : s.worker = .disconnects) : s.Ends n := by
  refine Ends.of_worker ?_ (Stops.connects (s := { s with seen := [], worker := .connects })
    ⟨hs.stop, hs.event⟩ rfl)
  rw [workerStep, hworker]

theorem Stops.clears (hworker : s.worker = .clears) : s.Ends n := by
  refine Ends.of_worker ?_ (Stops.disconnects (s := { s with
    eventsRead := s.eventsRead &&& ~~~virtioGpuEventDisplay, worker := .disconnects })
    ⟨hs.stop, hs.event⟩ rfl)
  rw [workerStep, hworker]

theorem Stops.custom (hfilled : s.table.Filled) {res : Nat × Nat}
    (hworker : s.worker = .custom res) : s.Ends n := by
  obtain ⟨table, htable⟩ := setCustom_isSome hfilled res
  refine Ends.of_worker ?_ (Stops.clears (s := { s with table, worker := .clears })
    ⟨hs.stop, hs.event⟩ rfl)
  rw [workerStep, hworker]
  simp only [htable, Option.bind_eq_bind, Option.bind_some]

theorem Stops.ends (hfilled : s.table.Filled) (hnot : ¬s.Stuck) : s.Ends n := by
  cases hworker : s.worker with
  | waiting => exact hs.waiting hworker
  | woken => exact hs.woken hworker
  | configChanged =>
    have hgone : ¬s.Pending := fun hpending => hnot (.inr (.inr ⟨hworker, hpending⟩))
    refine Ends.of_worker ?_ (Stops.waiting (s := { s with worker := .waiting })
      ⟨hs.stop, hs.event⟩ rfl)
    rw [workerStep, hworker]
    simp only [show ¬(s.eventsRead &&& virtioGpuEventDisplay ≠ 0) from hgone, if_false]
  | asks => exact absurd (.inl hworker) hnot
  | awaits => exact absurd (.inr (.inl hworker)) hnot
  | custom res => exact hs.custom hfilled hworker
  | clears => exact hs.clears hworker
  | disconnects => exact hs.disconnects hworker
  | connects => exact hs.connects hworker
  | terminated => exact ⟨[], s, rfl, hworker⟩

end Stops

/-- **Whether `HWClose` returns.** The device is closed before the thread is told to stop, so that
the wait of `HWClose` for the thread ends exactly if the thread is not about to ask the device,
waiting for its answer, or about to read a display event. -/
theorem hwClose_returns_iff (hfilled : s.table.Filled) (hopen : s.queueOpen = false)
    (hring : s.inRing = false) :
    Ends n { s with stopWorkThread := true, configUpdateEvent := true } ↔ ¬s.Stuck := by
  constructor
  · intro hends hstuck
    have hstuck' : Stuck { s with stopWorkThread := true, configUpdateEvent := true } := hstuck
    exact hstuck'.not_ends ⟨hopen, hring⟩ hends
  · intro hnot
    exact Stops.ends ⟨rfl, rfl⟩ hfilled hnot

/-- The device is closed while the thread waits for an answer. -/
theorem hwClose_returns_iff_awaits : ∃ s₀ s,
    (HwInit.system HwInit.smallDisplay 0).runUnder HwInit.Counted ModeUse.wholeGetModeList =
      some s₀ ∧
    (system 1 (oneDisplay 0) s₀.table).run (displayOn.take 7 ++ [.gpuDeviceClose]) = some s ∧
    ¬Ends 1 { s with stopWorkThread := true, configUpdateEvent := true } := by
  obtain ⟨s₀, s, h₀, hmain, h, htable, hopen, hring, hworker⟩ : ∃ s₀ s,
      (HwInit.system HwInit.smallDisplay 0).runUnder HwInit.Counted ModeUse.wholeGetModeList =
        some s₀ ∧ s₀.main = .returned .success ∧
      (system 1 (oneDisplay 0) s₀.table).run (displayOn.take 7 ++ [.gpuDeviceClose]) = some s ∧
      s.table = s₀.table ∧ s.queueOpen = false ∧ s.inRing = false ∧ s.worker = .awaits :=
    ⟨_, _, rfl, rfl, rfl, rfl, rfl, rfl, rfl⟩
  have hfilled := filled_of_returned (System.reachable_of_run h₀) hmain
  rw [← htable] at hfilled
  exact ⟨s₀, s, h₀, h, fun hends =>
    (hwClose_returns_iff hfilled hopen hring).mp hends (.inr (.inl hworker))⟩

end HotPlug

end VioGpu.Device
