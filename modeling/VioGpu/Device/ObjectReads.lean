import VioGpu.Device.CommitResult
import VioGpu.Device.Present
import VioGpu.Lib.History

/-!
# Where the resource objects are read

`SetPointerPosition` reads the id of `m_pCursorBuf` and `ExecutePresentDisplayOnly` that of
`m_pFrameBuf` without a test for `NULL`. Both objects are made by other callbacks, which destroy
the old one first and may then fail. Whether an object is there depends on the last of those
callbacks that came to its creation.
-/

namespace VioGpu.Device

open Lib

/-- A callback of `VioGpuDod`, with the outcomes of its allocations. -/
inductive GpuCall
  | setPointerShape (shape : PointerShape) (a : Allocs)
  | setPointerPosition (p : PointerPosition)
  | commitVidPn (c : CommitVidPn Allocs)
  | presentDisplayOnly (screen : Blt) (source : Int → Byte) (p : PresentDisplayOnly)

namespace Dod

/-- The driver after a callback. The source is visible and the monitor is on, as `StartDevice`
leaves them. -/
def gpuCall (d : Dod Gpu) : GpuCall → Option (Dod Gpu)
  | .setPointerShape shape a => ({ d with device := · }) <$> d.device.setPointerShape shape a
  | .setPointerPosition p =>
    if p.visible = false then some d
    else ({ d with device := · }) <$> d.device.setPointerPosition p
  | .commitVidPn c => (fun r => r.2.2) <$> commitVidPn gpuDevice d c
  | .presentDisplayOnly screen source p =>
    (fun r => { d with device := r.2.2 }) <$> d.device.presentDisplayOnly screen source false p

/-- The state after `StartDevice`. -/
def gpuStart (acquired : DispInfo) (physicAddress : Nat) : Dod Gpu :=
  ⟨.start (startDeviceMode acquired physicAddress), 0⟩

/-- The driver after a list of callbacks; `none` once one of them accesses `NULL`. -/
def gpuCalls (acquired : DispInfo) (physicAddress : Nat) (calls : List GpuCall) :
    Option (Dod Gpu) :=
  calls.foldlM gpuCall (gpuStart acquired physicAddress)

/-- The object whose id the callback reads is there. -/
def ReadsNonNull (d : Dod Gpu) : GpuCall → Prop
  | .setPointerShape shape a => ∀ g g', d.device.destroyCursor = some g →
      g.createCursor shape a = some (true, g') → g'.cursorBuf.isSome
  | .setPointerPosition p => p.visible = true → d.device.cursorBuf.isSome
  | .commitVidPn _ => True
  | .presentDisplayOnly _ _ p => 4 ≤ p.bytesPerPixel → d.device.frameBuf.isSome

end Dod

/-! ## What the history says -/

/-- The outcomes of the last mode change of a commit that comes to a listed mode. -/
def CommitVidPn.lastChange (c : CommitVidPn Allocs) : Option Allocs :=
  match c.course with
  | .loops m paths =>
    if (Gpu.chosenMode c.modes m.primSurfSize).isSome then (tries paths).getLast?.map Prod.snd
    else none
  | .ends _ | .releases _ => none

namespace GpuCall

/-- The callback makes the cursor's object: its memory and the entries are allocated. -/
def MakesCursor : GpuCall → Prop
  | .setPointerShape _ a => a.init.Succeeds ∧ a.ents = true
  | _ => False

def LosesCursor : GpuCall → Prop
  | .setPointerShape _ a => ¬(a.init.Succeeds ∧ a.ents = true)
  | _ => False

/-- The callback comes to a mode change, and the last one makes the frame buffer's object. -/
def MakesFrameBuffer : GpuCall → Prop
  | .commitVidPn c => ∃ a ∈ c.lastChange, a.init.Succeeds
  | _ => False

def LosesFrameBuffer : GpuCall → Prop
  | .commitVidPn c => ∃ a ∈ c.lastChange, ¬a.init.Succeeds
  | _ => False

/-- The history provides what the callback reads. -/
def Provided (calls : List GpuCall) : GpuCall → Prop
  | .setPointerPosition p => p.visible = true → Since MakesCursor LosesCursor calls
  | .presentDisplayOnly _ _ p => 4 ≤ p.bytesPerPixel →
      Since MakesFrameBuffer LosesFrameBuffer calls
  | .setPointerShape .. | .commitVidPn _ => True

end GpuCall

/-! ## The objects along a run -/

namespace Gpu

theorem destroyCursor_frameBuf {g g' : Gpu} (h : g.destroyCursor = some g') :
    g'.frameBuf = g.frameBuf ∧ g'.cursorBuf = none := by
  rcases destroyCursor_cases h with ⟨hnone, rfl⟩ | ⟨obj, g₁, -, hobj, rfl⟩
  · exact ⟨rfl, hnone⟩
  · rw [destroyObj_eq hobj]
    exact ⟨rfl, rfl⟩

/-- What `SetPointerShape` leaves of the objects. -/
theorem setPointerShape_objects {g g' : Gpu} {shape : PointerShape} {a : Allocs}
    (h : g.setPointerShape shape a = some g') :
    g'.frameBuf = g.frameBuf ∧
      (g'.cursorBuf.isSome ↔ a.init.Succeeds ∧ a.ents = true) := by
  obtain ⟨g₁, ok, g₂, hdestroy, hcreate, hend⟩ := setPointerShape_cases h
  obtain ⟨hframe, hcursor⟩ := destroyCursor_frameBuf hdestroy
  have hsame : g'.frameBuf = g₂.frameBuf ∧ g'.cursorBuf = g₂.cursorBuf := by
    rcases hend with ⟨-, rfl⟩ | ⟨-, obj, -, rfl⟩
    · exact ⟨rfl, rfl⟩
    · exact ⟨rfl, rfl⟩
  rw [hsame.1, hsame.2]
  rcases createCursor_cases hcreate with ⟨hfails, -, rfl⟩ | ⟨hok, hents, -, obj, -, rfl⟩
  · exact ⟨hframe, iff_of_false (by simp [hcursor]) hfails⟩
  · exact ⟨hframe, iff_of_true rfl ⟨hok, hents⟩⟩

end Gpu

namespace Dod

/-- A commit does not touch the cursor's object. -/
theorem keeps_cursorBuf (cursorBuf : Option VioGpuObj) :
    gpuDevice.Keeps fun g => g.cursorBuf = cursorBuf where
  source _ _ _ h := h
  fullscreen _ h := h
  acquire g a status g' h hs := by
    cases hs
    exact h
  release g a status g' h hs := by
    cases hs
    exact h
  mode g modes n a status g' h hs := by
    obtain ⟨⟨ok, g₁⟩, hcall, hs⟩ := Option.bind_eq_some_iff.mp hs
    cases hs
    rcases Gpu.setCurrentMode_cases hcall with ⟨-, -, rfl⟩ | ⟨mi, g₂, -, -, hdestroy, hcreate⟩
    · exact h
    · have hsame : g₂.cursorBuf = g.cursorBuf := by
        rcases Gpu.destroyFrameBuffer_cases hdestroy with ⟨-, rfl⟩ | ⟨obj, g₃, -, hobj, rfl⟩
        · rfl
        · rw [Gpu.destroyObj_eq hobj]
      rcases Gpu.createFrameBuffer_cases hcreate with ⟨-, rfl⟩ | ⟨-, obj, -, -, rfl⟩
      · exact hsame.trans h
      · exact hsame.trans h

/-- What a commit leaves of the frame buffer's object. -/
theorem commitVidPn_frameBuf {d d' : Dod Gpu} {c : CommitVidPn Allocs} {status : Status}
    {calls : List OsCall} (h : commitVidPn gpuDevice d c = some (status, calls, d')) :
    (c.lastChange = none → d'.device.frameBuf = d.device.frameBuf) ∧
      ∀ a, c.lastChange = some a → (d'.device.frameBuf.isSome ↔ a.init.Succeeds) := by
  have hfollows := commitVidPn_course h
  unfold CommitVidPn.lastChange
  cases hcourse : c.course with
  | ends success =>
    rw [hcourse] at hfollows
    rw [hfollows.1]
    exact ⟨fun _ => rfl, nofun⟩
  | releases success =>
    rw [hcourse] at hfollows
    obtain ⟨released, g, hrelease, rfl, -⟩ := hfollows
    obtain ⟨-, rfl⟩ := Prod.mk.inj (Option.some.inj ((releaseOld_gpu _ _).symm.trans hrelease))
    exact ⟨fun _ => rfl, nofun⟩
  | loops m paths =>
    rw [hcourse] at hfollows
    obtain ⟨released, g, hrelease, -, hloop⟩ := hfollows
    obtain ⟨hok, rfl⟩ := Prod.mk.inj (Option.some.inj ((releaseOld_gpu _ _).symm.trans hrelease))
    obtain ⟨changed, hchanges, -⟩ := hloop hok.symm
    obtain ⟨-, hnil, hlast⟩ := changeModes_gpu hchanges
    simp only
    cases htries : (tries paths).getLast? with
    | none =>
      rw [hnil (List.getLast?_eq_none_iff.mp htries)]
      refine ⟨fun _ => rfl, fun a ha => ?_⟩
      split_ifs at ha
      cases ha
    | some t =>
      rcases hlast t.1 t.2 htries with ⟨hnone, rfl⟩ | ⟨mi, hmi, hto⟩
      · rw [hnone]
        exact ⟨fun _ => rfl, nofun⟩
      · rw [hmi]
        refine ⟨nofun, fun a ha => ?_⟩
        obtain rfl : t.2 = a := Option.some_inj.mp ha
        constructor
        · intro hsome
          by_contra hfails
          rw [(hto.failed hfails).1] at hsome
          cases hsome
        · intro hsucceeds
          obtain ⟨new, -, -, hmade⟩ := hto.effects
          obtain ⟨obj, hobj⟩ := hmade hsucceeds
          rw [hobj.frameBuf]
          rfl

open GpuCall

/-- What a callback leaves of the two objects. -/
theorem gpuCall_objects {d d' : Dod Gpu} {call : GpuCall} (h : d.gpuCall call = some d') :
    (d'.device.cursorBuf.isSome ↔
      call.MakesCursor ∨ (¬call.LosesCursor ∧ d.device.cursorBuf.isSome)) ∧
    (d'.device.frameBuf.isSome ↔
      call.MakesFrameBuffer ∨ (¬call.LosesFrameBuffer ∧ d.device.frameBuf.isSome)) := by
  have hsame : d'.device.cursorBuf = d.device.cursorBuf → d'.device.frameBuf = d.device.frameBuf →
      ¬call.MakesCursor → ¬call.LosesCursor → ¬call.MakesFrameBuffer → ¬call.LosesFrameBuffer →
      (d'.device.cursorBuf.isSome ↔
        call.MakesCursor ∨ (¬call.LosesCursor ∧ d.device.cursorBuf.isSome)) ∧
      (d'.device.frameBuf.isSome ↔
        call.MakesFrameBuffer ∨ (¬call.LosesFrameBuffer ∧ d.device.frameBuf.isSome)) := by
    intro hcursor hframe hmc hlc hmf hlf
    simp [hcursor, hframe, hmc, hlc, hmf, hlf]
  cases call with
  | setPointerShape shape a =>
    obtain ⟨g, hshape, rfl⟩ := Option.map_eq_some_iff.mp h
    obtain ⟨hframe, hcursor⟩ := Gpu.setPointerShape_objects hshape
    constructor
    · rw [hcursor]
      simp only [MakesCursor, LosesCursor]
      tauto
    · simp [MakesFrameBuffer, LosesFrameBuffer, hframe]
  | setPointerPosition p =>
    simp only [gpuCall] at h
    split_ifs at h
    · cases h
      exact hsame rfl rfl id id id id
    · obtain ⟨g, hposition, rfl⟩ := Option.map_eq_some_iff.mp h
      obtain ⟨obj, x, y, -, rfl⟩ := Gpu.setPointerPosition_cases hposition
      exact hsame rfl rfl id id id id
  | commitVidPn c =>
    obtain ⟨⟨status, calls, d₁⟩, hcommit, rfl⟩ := Option.map_eq_some_iff.mp h
    have hcursor : d₁.device.cursorBuf = d.device.cursorBuf :=
      commitVidPn_keeps (keeps_cursorBuf _) rfl hcommit
    obtain ⟨hnone, hsome⟩ := commitVidPn_frameBuf hcommit
    constructor
    · simp [MakesCursor, LosesCursor, hcursor]
    · simp only [MakesFrameBuffer, LosesFrameBuffer]
      cases hlast : c.lastChange with
      | none => simp [hnone hlast]
      | some a =>
        rw [hsome a hlast]
        simp only [Option.mem_some_iff, exists_eq_left']
        tauto
  | presentDisplayOnly screen source p =>
    obtain ⟨⟨status, screen', g⟩, hpresent, rfl⟩ := Option.map_eq_some_iff.mp h
    simp only [Gpu.presentDisplayOnly, Bool.false_eq_true, if_false] at hpresent
    split_ifs at hpresent with hbpp
    · cases hpresent
      exact hsame rfl rfl id id id id
    · obtain ⟨g₁, hexecute, hpresent⟩ := Option.bind_eq_some_iff.mp hpresent
      cases hpresent
      obtain ⟨obj, offset, width, height, x, y, -, rfl⟩ :=
        Gpu.executePresentDisplayOnly_cases hexecute
      exact hsame rfl rfl id id id id

/-- Which objects are there is a matter of the history alone. -/
theorem gpuCalls_objects {acquired : DispInfo} {physicAddress : Nat} {calls : List GpuCall}
    {d : Dod Gpu} (h : gpuCalls acquired physicAddress calls = some d) :
    (d.device.cursorBuf.isSome ↔ Since MakesCursor LosesCursor calls) ∧
      (d.device.frameBuf.isSome ↔ Since MakesFrameBuffer LosesFrameBuffer calls) := by
  induction calls using List.reverseRecOn generalizing d with
  | nil =>
    cases h
    exact ⟨iff_of_false nofun not_since_nil, iff_of_false nofun not_since_nil⟩
  | append_singleton calls call ih =>
    rw [gpuCalls, List.foldlM_append] at h
    obtain ⟨d₁, hcalls, hcall⟩ := Option.bind_eq_some_iff.mp h
    rw [List.foldlM_cons] at hcall
    obtain ⟨d₂, hcall, hend⟩ := Option.bind_eq_some_iff.mp hcall
    cases hend
    obtain ⟨hcursor, hframe⟩ := ih hcalls
    obtain ⟨hcursor', hframe'⟩ := gpuCall_objects hcall
    rw [hcursor', hframe', since_concat, since_concat, hcursor, hframe]
    exact ⟨Iff.rfl, Iff.rfl⟩

/-- A callback reads what the history provides. -/
theorem readsNonNull_iff {acquired : DispInfo} {physicAddress : Nat} {calls : List GpuCall}
    {d : Dod Gpu} (h : gpuCalls acquired physicAddress calls = some d) (call : GpuCall) :
    d.ReadsNonNull call ↔ Provided calls call := by
  obtain ⟨hcursor, hframe⟩ := gpuCalls_objects h
  cases call with
  | setPointerShape shape a =>
    refine iff_of_true (fun g g' hdestroy hcreate => ?_) trivial
    rcases Gpu.createCursor_cases hcreate with ⟨-, hok, -⟩ | ⟨-, -, -, obj, -, rfl⟩
    · cases hok
    · rfl
  | setPointerPosition p => simp only [ReadsNonNull, Provided, hcursor]
  | commitVidPn c => exact Iff.rfl
  | presentDisplayOnly screen source p => simp only [ReadsNonNull, Provided, hframe]

/-- **When the objects are there where their ids are read.** Along a run they are exactly when each
visible pointer position comes after a shape, and each forwarded present after a mode change,
of which the last one made its object. -/
theorem calls_readsNonNull_iff (acquired : DispInfo) (physicAddress : Nat)
    (calls : List GpuCall) :
    (∀ before call after d, calls = before ++ call :: after →
      gpuCalls acquired physicAddress before = some d → d.ReadsNonNull call) ↔
    ∀ before call after, calls = before ++ call :: after →
      (gpuCalls acquired physicAddress before).isSome → Provided before call := by
  constructor
  · intro hreads before call after heq hsome
    obtain ⟨d, hd⟩ := Option.isSome_iff_exists.mp hsome
    exact (readsNonNull_iff hd call).mp (hreads before call after d heq hd)
  · intro hprovided before call after d heq hd
    exact (readsNonNull_iff hd call).mpr
      (hprovided before call after heq (by rw [hd]; rfl))

/-- The pointer is shown before it has a shape. -/
theorem first_position_reads_null : ¬∀ acquired physicAddress calls before call after d,
    calls = before ++ call :: after → gpuCalls acquired physicAddress before = some d →
      d.ReadsNonNull call := by
  intro hall
  have hread := hall ⟨0, 0, 0, .a8r8g8b8, 0⟩ 0 [.setPointerPosition ⟨true, 0, 0⟩] [] _ [] _
    rfl rfl
  exact absurd (hread rfl) (by decide)

end Dod

end VioGpu.Device
