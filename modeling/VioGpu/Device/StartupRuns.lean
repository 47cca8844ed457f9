import VioGpu.Device.Startup
import VioGpu.Lib.Except

/-!
# What `HWInit` leaves behind

The status of the loop in `HWInit` is overwritten by that of `PsCreateSystemThread` and of
`GetModeList`, and the tail and the destructor use the sub-objects in any case. So `HWInit` is
orderly exactly when there is nothing to be orderly about: when all steps succeed and the worker
thread starts (`orderly_iff`).
-/

namespace VioGpu.Device

open Lib

/-- All steps of the loop in `HWInit` succeed. -/
structure StartOutcomes.Succeeds (o : StartOutcomes) : Prop where
  pciResources : o.pciResources = true
  virtIoDevice : o.virtIoDevice = .ok ()
  version1 : o.version1 = true
  setFeatures : o.setFeatures = .ok ()
  findQueues : o.findQueues = .ok ()
  ctrlQueue : o.ctrlQueue = true
  cursorQueue : o.cursorQueue = true
  vbuffers : Parts.vbuffers o ≠ 0
  idrBitMap : o.idrBitMap = true

namespace Parts

/-! ## A device that is set up -/

/-- The code comes to use a sub-object that is not set up. -/
def UsesUninit (stop : Stop) : Prop := ∃ s, stop = .uninit s

theorem use_of_has {p : Parts} {s : SubObject} (h : p.has s = true) : p.use s = .ok () := if_pos h

theorem use_of_not {p : Parts} {s : SubObject} (h : ¬p.has s = true) :
    p.use s = .error (.uninit s) := if_neg h

theorem avoids_null (c : Prop) [Decidable c] : Avoids UsesUninit (stopIf c .null) := by
  unfold stopIf
  split_ifs
  · exact .error nofun
  · exact .ok ()

theorem avoids_waits (c : Prop) [Decidable c] : Avoids UsesUninit (stopIf c .waits) := by
  unfold stopIf
  split_ifs
  · exact .error nofun
  · exact .ok ()

/-- Everything is set up. -/
def Complete (p : Parts) : Prop := ∀ s, p.has s = true

theorem Complete.queueCommand {p : Parts} (h : p.Complete) : Avoids UsesUninit p.queueCommand := by
  rw [Parts.queueCommand, use_of_has (h _), ok_bind, use_of_has (h _), ok_bind]
  refine (avoids_null _).bind fun _ _ => ?_
  rw [use_of_has (h _)]
  exact .ok ()

theorem Complete.getDisplayInfo {p : Parts} (h : p.Complete) (answer : DisplayAnswer) :
    Avoids UsesUninit (p.getDisplayInfo answer) := by
  have hask : Avoids UsesUninit (p.askDisplayInfo answer) := by
    unfold askDisplayInfo
    split_ifs
    · exact .ok false
    · exact h.queueCommand.bind fun _ _ => (avoids_waits _).bind fun _ _ => .ok true
  refine hask.bind fun vbuf _ => (avoids_null _).bind fun _ _ => ?_
  rw [use_of_has (h _), ok_bind]
  refine (avoids_null _).bind fun _ _ => ?_
  rw [use_of_has (h _)]
  exact .ok ()

theorem Complete.getModeList {p : Parts} (h : p.Complete) (o : StartOutcomes) :
    Avoids UsesUninit (p.getModeList o) := by
  unfold Parts.getModeList
  split_ifs
  · exact .ok _
  · exact .ok _
  all_goals exact (h.getDisplayInfo _).bind fun _ _ => .ok _

theorem Complete.threadWorkRoutine {p : Parts} (h : p.Complete)
    (changes : List (Bool × DisplayAnswer)) : Avoids UsesUninit (p.threadWorkRoutine changes) := by
  unfold Parts.threadWorkRoutine
  split_ifs
  · refine .forM fun c => ?_
    rw [configChanged, use_of_has (h _), ok_bind]
    split_ifs
    · exact .ok ()
    · exact (h.getDisplayInfo _).bind fun _ _ => .ok ()
  · exact .ok ()

/-! ## The destructor -/

/-- Taking everything down uses four sub-objects, in this order. -/
theorem closeAll_eq (p : Parts) :
    p.closeAll = [.vioDevice, .workThread, .idrMutex, .freeBufs].forM p.use := by
  obtain ⟨device, -, -, -, bufs, mutex, -, thread, -, -⟩ := p
  cases device <;> cases thread <;> cases mutex <;> cases bufs <;> rfl

theorem Complete.destructor {p : Parts} (h : p.Complete) (objects : Nat) :
    Avoids UsesUninit (p.destructor objects) := by
  refine Avoids.bind (.forM fun _ => ?_) fun _ _ => ?_
  · refine h.queueCommand.bind fun _ _ => h.queueCommand.bind fun _ _ => ?_
    rw [use_of_has (h _)]
    exact .ok ()
  · rw [closeAll_eq]
    refine .forM fun s => ?_
    rw [use_of_has (h s)]
    exact .ok ()

/-- Without the id allocator, the destructor does not come to its end. -/
theorem destructor_uninit {p : Parts} (h : p.idrMutex = false) :
    ∃ s, p.destructor 0 = .error (.uninit s) := by
  change ∃ s, p.closeAll = _
  rw [closeAll_eq]
  by_cases hdevice : p.has .vioDevice = true
  · by_cases hthread : p.has .workThread = true
    · refine ⟨.idrMutex, ?_⟩
      have hmutex : ¬p.has .idrMutex = true := by simp [has, h]
      change p.use _ >>= _ = _
      rw [use_of_has hdevice, ok_bind]
      change p.use _ >>= _ = _
      rw [use_of_has hthread, ok_bind]
      change p.use _ >>= _ = _
      rw [use_of_not hmutex, error_bind]
    · refine ⟨.workThread, ?_⟩
      change p.use _ >>= _ = _
      rw [use_of_has hdevice, ok_bind]
      change p.use _ >>= _ = _
      rw [use_of_not hthread, error_bind]
  · refine ⟨.vioDevice, ?_⟩
    change p.use _ >>= _ = _
    rw [use_of_not hdevice, error_bind]

/-! ## The steps of `HWInit` -/

/-- The state after the loop, if all steps succeed. -/
def setUp (o : StartOutcomes) : Parts where
  vioDevice := true
  ctrlQueue := true
  cursorQueue := true
  gpuBuf := true
  freeBufs := some (vbuffers o)
  idrMutex := true
  idrBitMap := true
  workThread := false
  hardwareInit := false
  numScanouts := o.numScanouts

/-- What a loop that fails leaves behind. -/
structure Failed (r : Status × Parts) : Prop where
  status : r.1 ≠ .success
  idrMutex : r.2.idrMutex = false
  workThread : r.2.workThread = false
  hardwareInit : r.2.hardwareInit = false

theorem initSteps_of_succeeds {o : StartOutcomes} (h : o.Succeeds) (n : Nat) :
    (new n).initSteps o = .ok (.success, setUp o) := by
  obtain ⟨hpci, hvirtio, hversion, hfeatures, hqueues, hctrl, hcursor, hbufs, hidr⟩ := h
  simp [initSteps, initFeatures, initQueues, idrInit, use, has, setUp, new, hpci, hvirtio, hversion,
    hfeatures, hqueues, hctrl, hcursor, hbufs, hidr]

/-- A loop that does not come to the end of its steps has not come to the id allocator. -/
theorem initSteps_of_fails {o : StartOutcomes} {n : Nat} {r : Status × Parts} (h : ¬o.Succeeds)
    (hs : (new n).initSteps o = .ok r) : Failed r := by
  by_contra hnot
  have hearly : ∀ status p, (status, p) = r → status ≠ .success → p.idrMutex = false →
      p.workThread = false → p.hardwareInit = false → False := by
    rintro status p rfl h₁ h₂ h₃ h₄
    exact hnot ⟨h₁, h₂, h₃, h₄⟩
  unfold initSteps at hs
  split_ifs at hs with hpci
  · exact hearly _ _ (Except.ok.inj hs) nofun rfl rfl rfl
  rcases hvirtio : o.virtIoDevice with code | u
  · rw [hvirtio] at hs
    exact hearly _ _ (Except.ok.inj hs) nofun rfl rfl rfl
  rw [hvirtio] at hs
  replace hs : initFeatures { new n with vioDevice := true } o = .ok r := hs
  rw [initFeatures, use_of_has rfl, ok_bind] at hs
  split_ifs at hs with hversion
  · exact hearly _ _ (Except.ok.inj hs) nofun rfl rfl rfl
  rcases hfeatures : o.setFeatures with code | u
  · rw [hfeatures] at hs
    exact hearly _ _ (Except.ok.inj hs) nofun rfl rfl rfl
  rcases hqueues : o.findQueues with code | u
  · rw [hfeatures, hqueues] at hs
    exact hearly _ _ (Except.ok.inj hs) nofun rfl rfl rfl
  rw [hfeatures, hqueues] at hs
  replace hs : initQueues { new n with vioDevice := true } o = .ok r := hs
  unfold initQueues at hs
  split_ifs at hs with hctrl hcursor hbufs
  · exact hearly _ _ (Except.ok.inj hs) nofun rfl rfl rfl
  · exact hearly _ _ (Except.ok.inj hs) nofun rfl rfl rfl
  · exact hearly _ _ (Except.ok.inj hs) nofun rfl rfl rfl
  rcases hidr : o.idrBitMap with _ | _
  · simp [idrInit, use, has, hidr] at hs
  · exact h ⟨by simpa using hpci, hvirtio, by simpa using hversion, hfeatures, hqueues,
      by simpa using hctrl, by simpa using hcursor, hbufs, hidr⟩

/-! ## `HWInit` and what comes after it -/

/-- With everything set up and the worker thread running, nothing is used that is not there. -/
theorem lifetime_of_succeeds {o : StartOutcomes} (h : o.Succeeds) (hthread : o.thread = .ok ())
    (n : Nat) (m : Meanwhile) : Avoids UsesUninit ((new n).lifetime o m) := by
  have hcomplete : Complete { setUp o with hardwareInit := true, workThread := true } := by
    intro s
    cases s <;> rfl
  have hinit : (new n).hwInit o = do
      let status ← getModeList { setUp o with hardwareInit := true, workThread := true } o
      return (status, { setUp o with hardwareInit := true, workThread := true }) := by
    rw [hwInit, initSteps_of_succeeds h, ok_bind]
    simp only [hwInitTail, hthread, if_true]
    rfl
  rw [lifetime, hinit]
  refine Avoids.bind ((hcomplete.getModeList o).bind fun _ _ => .ok _) ?_
  rintro ⟨status, p⟩ hp
  obtain ⟨status', -, hp⟩ := bind_eq_ok hp
  cases hp
  exact (hcomplete.threadWorkRoutine _).bind fun _ _ => hcomplete.destructor _

/-- When a step fails and `HWInit` returns, the id allocator is not set up and `HardwareInit` is
`FALSE`. -/
theorem hwInit_of_fails {o : StartOutcomes} {n : Nat} {status : Status} {p : Parts}
    (h : ¬o.Succeeds) (hs : (new n).hwInit o = .ok (status, p)) :
    p.idrMutex = false ∧ p.hardwareInit = false := by
  obtain ⟨⟨status₁, p₁⟩, hsteps, hs⟩ := bind_eq_ok hs
  obtain ⟨hstatus, hmutex, -, hhardware⟩ := initSteps_of_fails h hsteps
  obtain ⟨-, -, hs⟩ := bind_eq_ok hs
  rw [if_neg hstatus] at hs
  unfold hwInitTail at hs
  split at hs
  · cases hs
    exact ⟨hmutex, hhardware⟩
  · obtain ⟨status₂, -, hs⟩ := bind_eq_ok hs
    cases hs
    exact ⟨hmutex, hhardware⟩

/-- **Orderly**: if a step of the loop fails, `HWInit` returns a failure and leaves `HardwareInit`
`FALSE`, and in no case does anything use a sub-object that was not set up. -/
def Orderly (n : Nat) (o : StartOutcomes) : Prop :=
  (¬o.Succeeds → ∃ status p, (new n).hwInit o = .ok (status, p) ∧ status ≠ .success ∧
    p.hardwareInit = false) ∧ ∀ m, Avoids UsesUninit ((new n).lifetime o m)

/-- **`HWInit` is orderly** exactly when all its steps succeed and the worker thread starts. -/
theorem orderly_iff (n : Nat) (o : StartOutcomes) :
    Orderly n o ↔ o.Succeeds ∧ o.thread = .ok () := by
  constructor
  · rintro ⟨hfails, huses⟩
    by_contra hnot
    by_cases h : o.Succeeds
    · -- only the thread is missing, and `HWClose` waits for it
      rcases hthread : o.thread with code | u
      · refine huses ⟨[], 0⟩ (.uninit .workThread) ?_ ⟨_, rfl⟩
        have hinit : (new n).hwInit o = .ok (.os code, { setUp o with hardwareInit := true }) := by
          rw [hwInit, initSteps_of_succeeds h, ok_bind]
          simp only [hwInitTail, hthread, if_true]
          rfl
        rw [lifetime, hinit, ok_bind]
        rfl
      · exact hnot ⟨h, hthread⟩
    · obtain ⟨status, p, hinit, hstatus, hhardware⟩ := hfails h
      obtain ⟨s, hs⟩ := destructor_uninit (hwInit_of_fails h hinit).1
      refine huses ⟨[], 0⟩ (.uninit s) ?_ ⟨s, rfl⟩
      rw [lifetime, hinit, ok_bind]
      simp only [threadWorkRoutine, hhardware, if_neg hstatus]
      simpa using hs
  · rintro ⟨h, hthread⟩
    exact ⟨fun hnot => absurd h hnot, lifetime_of_succeeds h hthread n⟩

/-- A device that does not offer `VIRTIO_F_VERSION_1`, with all else in order. -/
def noVersion1 : StartOutcomes where
  pciResources := true
  virtIoDevice := .ok ()
  version1 := false
  setFeatures := .ok ()
  findQueues := .ok ()
  ctrlQueue := true
  cursorQueue := true
  ctrlEntries := .ok 2
  cursorEntries := .ok 1
  vbuffer := fun _ => true
  idrBitMap := true
  numScanouts := 1
  thread := .ok ()
  modeInfo := true
  modeNumbers := true
  suitableModes := 1
  display := ⟨true, true⟩

/-- `GetModeList` asks for the display through the pool pointer that was never set. -/
theorem not_always_orderly : ¬∀ n o, Orderly n o := by
  intro h
  have huninit : (new 0).lifetime noVersion1 ⟨[], 0⟩ = .error (.uninit .gpuBuf) := rfl
  exact (h 0 noVersion1).2 ⟨[], 0⟩ _ huninit ⟨_, rfl⟩

end Parts

end VioGpu.Device
