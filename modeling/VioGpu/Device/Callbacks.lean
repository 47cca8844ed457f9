import VioGpu.Device.Gpu

/-!
# What the callbacks do

One inversion lemma for each function of `GpuDevice`: the state it leaves and the effects it
adds, case by case. Everything that is proved about runs of the driver goes through these
lemmas, and no later proof unfolds a callback.
-/

namespace VioGpu.Device

open Lib Queue

namespace Gpu

/-! ## Creation -/

/-- The number, id and MDL of an object made by a creation. -/
structure MadeAs (obj : VioGpuObj) (n id : Nat) : Prop where
  number : obj.number = n
  hwRes : obj.hwRes = id
  mdl : obj.mdl = .locked

theorem deleteObj_eq {g g' : Gpu} {obj : VioGpuObj} {destroyed : Bool}
    (h : g.deleteObj obj destroyed = some g') : g' = g.emit (.delete obj.number destroyed) := by
  unfold deleteObj at h
  obtain ⟨_, _, h⟩ := Option.bind_eq_some_iff.mp h
  exact (Option.some_inj.mp h).symm

/-- **Creating the frame buffer.** -/
theorem createFrameBuffer_cases {g g' : Gpu} {m : VideoModeInformation} {a : Allocs}
    (h : g.createFrameBuffer m a = some g') :
    let r := g.idr.getId.1
    let create := CtrlCommand.resourceCreate2d r (colorFormat g.mode.dispInfo.colorFormat)
      m.visScreenWidth m.visScreenHeight
    let g₁ := { g with idr := g.idr.getId.2, objects := g.objects + 1 }
    (¬a.init.Succeeds ∧ g' = { g₁ with
      effects := g.effects ++ [.getId r, .ctrl g.objects create, .delete g.objects false] }) ∨
    (a.init.Succeeds ∧ ∃ obj, MadeAs obj g.objects (if a.ents then r else 0) ∧
      obj.vAddr = some (u32 (bytesToPages (u32 (m.screenStride * m.visScreenHeight)) * pageSize)) ∧
      g' = { g₁ with
        frameBuf := some obj
        mode := { g.mode with
          dispInfo := { g.mode.dispInfo with physicAddress := obj.physicalAddress }
          ptr := some g.objects
          frameBufferIsActive := true }
        effects := g.effects ++ [.getId r, .ctrl g.objects create] ++
          (if a.ents then [.ctrl g.objects (.resourceAttachBacking r obj.sgList)] else []) ++
          [.ctrl g.objects (.setScanout 0 r m.visScreenWidth m.visScreenHeight 0 0),
            .ctrl g.objects (.transferToHost2d r 0 m.visScreenWidth m.visScreenHeight 0 0),
            .ctrl g.objects (.resourceFlush r m.visScreenWidth m.visScreenHeight 0 0)] }) := by
  unfold createFrameBuffer at h
  obtain ⟨⟨obj, g₁⟩, hnew, h⟩ := Option.bind_eq_some_iff.mp h
  unfold newObj at hnew
  split_ifs at hnew
  cases hnew
  obtain ⟨⟨ok, obj⟩, hinit, h⟩ := Option.bind_eq_some_iff.mp h
  obtain ⟨hnumber, hres, hok, hmade⟩ := VioGpuObj.init_spec hinit
  replace hnumber : obj.number = g.objects := hnumber
  replace hres : obj.hwRes = 0 := hres
  cases ok with
  | false =>
    refine .inl ⟨by simpa using hok, ?_⟩
    rw [deleteObj_eq h]
    simp [emit, hnumber]
  | true =>
    obtain ⟨hmdl, hmem⟩ := hmade rfl
    refine .inr ⟨hok.mp rfl, ?_⟩
    cases hents : a.ents with
    | false =>
      simp only [hents, gpuObjectAttach] at h
      cases h
      exact ⟨obj, ⟨hnumber, hres, hmdl⟩, hmem, by simp [emit, hnumber]⟩
    | true =>
      simp only [hents, gpuObjectAttach] at h
      cases h
      exact ⟨{ obj with hwRes := g.idr.getId.1 }, ⟨hnumber, rfl, hmdl⟩, hmem, by
        simp [emit, hnumber]⟩

/-- **Creating the cursor.** A failed `Init` and failed entries look alike; a shape of no known
colour leaves the new cursor in place without a transfer. -/
theorem createCursor_cases {g g' : Gpu} {shape : PointerShape} {a : Allocs} {ok : Bool}
    (h : g.createCursor shape a = some (ok, g')) :
    let r := g.idr.getId.1
    let create := CtrlCommand.resourceCreate2d r virtioGpuFormatB8G8R8A8 pointerSize pointerSize
    let g₁ := { g with idr := g.idr.getId.2, objects := g.objects + 1 }
    (¬(a.init.Succeeds ∧ a.ents = true) ∧ ok = false ∧ g' = { g₁ with
      effects := g.effects ++ [.getId r, .ctrl g.objects create, .delete g.objects false] }) ∨
    (a.init.Succeeds ∧ a.ents = true ∧ ok = (shape.color || shape.monochrome) ∧
      ∃ obj, MadeAs obj g.objects r ∧ g' = { g₁ with
        cursorBuf := some obj
        effects := g.effects ++ [.getId r, .ctrl g.objects create,
          .ctrl g.objects (.resourceAttachBacking r obj.sgList)] ++
          (if ok then [.ctrl g.objects (.transferToHost2d r 0 shape.width shape.height 0 0)]
            else []) }) := by
  unfold createCursor at h
  obtain ⟨⟨obj, g₁⟩, hnew, h⟩ := Option.bind_eq_some_iff.mp h
  unfold newObj at hnew
  split_ifs at hnew
  cases hnew
  obtain ⟨⟨initOk, obj⟩, hinit, h⟩ := Option.bind_eq_some_iff.mp h
  obtain ⟨hnumber, -, hok, hmade⟩ := VioGpuObj.init_spec hinit
  replace hnumber : obj.number = g.objects := hnumber
  cases initOk with
  | false =>
    have hfails : ¬a.init.Succeeds := by simpa using hok
    obtain ⟨g₂, hdelete, h⟩ := Option.bind_eq_some_iff.mp h
    cases h
    refine .inl ⟨fun hboth => hfails hboth.1, rfl, ?_⟩
    rw [deleteObj_eq hdelete]
    simp [emit, hnumber]
  | true =>
    cases hents : a.ents with
    | false =>
      simp only [hents, gpuObjectAttach] at h
      obtain ⟨g₂, hdelete, h⟩ := Option.bind_eq_some_iff.mp h
      cases h
      refine .inl ⟨by simp, rfl, ?_⟩
      rw [deleteObj_eq hdelete]
      simp [emit, hnumber]
    | true =>
      refine .inr ⟨hok.mp rfl, rfl, ?_⟩
      simp only [hents, gpuObjectAttach] at h
      cases hc : shape.color <;> cases hm : shape.monochrome <;> simp [hc, hm] at h
      all_goals
        obtain ⟨rfl, rfl⟩ := h
        exact ⟨rfl, { obj with hwRes := g.idr.getId.1 }, ⟨hnumber, rfl, (hmade rfl).1⟩, by
          simp [emit, hnumber]⟩

/-! ## Destruction -/

theorem destroyObj_eq {g g' : Gpu} {obj : VioGpuObj} (h : g.destroyObj obj = some g') :
    g' = { g with
      idr := g.idr.putId obj.hwRes
      effects := g.effects ++ [.ctrl obj.number (.resourceDetachBacking obj.hwRes),
        .ctrl obj.number (.resourceUnref obj.hwRes), .delete obj.number true,
        .putId obj.hwRes (g.idr.isSet obj.hwRes)] } := by
  obtain ⟨g₁, hdelete, h⟩ := Option.bind_eq_some_iff.mp h
  cases h
  rw [deleteObj_eq hdelete]
  simp [emit, putId]

theorem destroyFrameBuffer_cases {g g' : Gpu} (h : g.destroyFrameBuffer = some g') :
    (g.frameBuf = none ∧ g' = g) ∨ ∃ obj g₁, g.frameBuf = some obj ∧
      g.destroyObj obj = some g₁ ∧ g' = { g₁ with frameBuf := none } := by
  unfold destroyFrameBuffer at h
  cases hf : g.frameBuf with
  | none =>
    rw [hf] at h
    exact .inl ⟨rfl, (Option.some_inj.mp h).symm⟩
  | some obj =>
    rw [hf] at h
    obtain ⟨g₁, hdestroy, rfl⟩ := Option.map_eq_some_iff.mp h
    exact .inr ⟨obj, g₁, rfl, hdestroy, rfl⟩

theorem destroyCursor_cases {g g' : Gpu} (h : g.destroyCursor = some g') :
    (g.cursorBuf = none ∧ g' = g) ∨ ∃ obj g₁, g.cursorBuf = some obj ∧
      g.destroyObj obj = some g₁ ∧ g' = { g₁ with cursorBuf := none } := by
  unfold destroyCursor at h
  cases hc : g.cursorBuf with
  | none =>
    rw [hc] at h
    exact .inl ⟨rfl, (Option.some_inj.mp h).symm⟩
  | some obj =>
    rw [hc] at h
    obtain ⟨g₁, hdestroy, rfl⟩ := Option.map_eq_some_iff.mp h
    exact .inr ⟨obj, g₁, rfl, hdestroy, rfl⟩

/-! ## The callbacks -/

/-- The state in which `SetCurrentMode` calls `CreateFrameBuffer`. -/
def clearMode (g : Gpu) : Gpu :=
  { g with mode := { g.mode with
    frameBufferIsActive := false, dispInfo := { g.mode.dispInfo with physicAddress := 0 } } }

theorem setCurrentMode_cases {g g' : Gpu} {modes : List VideoModeInformation} {mode : Nat}
    {a : Allocs} {ok : Bool} (h : g.setCurrentMode modes mode a = some (ok, g')) :
    (modes.find? (·.modeNumber = mode) = none ∧ ok = false ∧ g' = g) ∨
      ∃ m g₁, modes.find? (·.modeNumber = mode) = some m ∧ ok = true ∧
        g.destroyFrameBuffer = some g₁ ∧ g₁.clearMode.createFrameBuffer m a = some g' := by
  unfold setCurrentMode at h
  cases hfind : modes.find? (·.modeNumber = mode) with
  | none =>
    rw [hfind] at h
    cases h
    exact .inl ⟨rfl, rfl, rfl⟩
  | some m =>
    rw [hfind] at h
    obtain ⟨g₁, hdestroy, h⟩ := Option.bind_eq_some_iff.mp h
    obtain ⟨g₂, hcreate, h⟩ := Option.bind_eq_some_iff.mp h
    cases h
    exact .inr ⟨m, g₁, rfl, rfl, hdestroy, hcreate⟩

theorem setPointerShape_cases {g g' : Gpu} {shape : PointerShape} {a : Allocs}
    (h : g.setPointerShape shape a = some g') :
    ∃ g₁ ok g₂, g.destroyCursor = some g₁ ∧ g₁.createCursor shape a = some (ok, g₂) ∧
      ((ok = false ∧ g' = g₂) ∨ (ok = true ∧ ∃ obj, g₂.cursorBuf = some obj ∧
        g' = g₂.emit (.cursor obj.number (.updateCursor obj.hwRes 0 0 shape.xHot shape.yHot)))) := by
  obtain ⟨g₁, hdestroy, h⟩ := Option.bind_eq_some_iff.mp h
  obtain ⟨⟨ok, g₂⟩, hcreate, h⟩ := Option.bind_eq_some_iff.mp h
  refine ⟨g₁, ok, g₂, hdestroy, hcreate, ?_⟩
  cases ok with
  | false => exact .inl ⟨rfl, (Option.some_inj.mp h).symm⟩
  | true =>
    obtain ⟨obj, hobj, h⟩ := Option.bind_eq_some_iff.mp h
    exact .inr ⟨rfl, obj, hobj, (Option.some_inj.mp h).symm⟩

theorem setPointerPosition_cases {g g' : Gpu} {p : PointerPosition}
    (h : g.setPointerPosition p = some g') :
    ∃ obj x y, g.cursorBuf = some obj ∧
      g' = g.emit (.cursor obj.number (.moveCursor obj.hwRes x y)) := by
  obtain ⟨obj, hobj, h⟩ := Option.bind_eq_some_iff.mp h
  cases h
  split_ifs
  · exact ⟨obj, 0, 0, hobj, rfl⟩
  · exact ⟨obj, _, _, hobj, rfl⟩

theorem executePresentDisplayOnly_cases {g g' : Gpu} {bpp : Nat} {moves dirtyRects : List Rect}
    (h : g.executePresentDisplayOnly bpp moves dirtyRects = some g') :
    ∃ obj offset width height x y, g.frameBuf = some obj ∧
      g' = (g.emit (.ctrl obj.number
        (.transferToHost2d obj.hwRes offset width height x y))).emit
        (.ctrl obj.number (.resourceFlush obj.hwRes width height x y)) := by
  obtain ⟨obj, hobj, h⟩ := Option.bind_eq_some_iff.mp h
  exact ⟨obj, _, _, _, _, _, hobj, (Option.some_inj.mp h).symm⟩

/-- A power transition resets the device and sets or clears the queues; it does nothing to the
resources. -/
theorem setPowerState_eq (g : Gpu) (state : DevicePowerState) (init : DeviceInit) :
    ∃ l, (∀ e ∈ l, e = .reset ∨ ∃ up, e = .setQueues up) ∧
      g.setPowerState state init = { g with effects := g.effects ++ l } := by
  have hinit : ∃ l, (∀ e ∈ l, e = .reset ∨ ∃ up, e = .setQueues up) ∧
      g.gpuDeviceInit init = { g with effects := g.effects ++ l } := by
    cases init with
    | notFound => exact ⟨[], by simp, by simp [gpuDeviceInit]⟩
    | failed => exact ⟨[.reset], by simp, rfl⟩
    | ready => exact ⟨[.reset, .setQueues true], by simp, by simp [gpuDeviceInit, emit]⟩
  have hclose : ∃ l, (∀ e ∈ l, e = .reset ∨ ∃ up, e = .setQueues up) ∧
      g.gpuDeviceClose = { g with effects := g.effects ++ l } :=
    ⟨[.reset, .setQueues false], by simp, by simp [gpuDeviceClose, emit]⟩
  cases state with
  | unspecified => exact hinit
  | d0 => exact hinit
  | d1 => exact hclose
  | d2 => exact hclose
  | d3 => exact hclose

/-! ## Effects are only added -/

theorem effects_destroyObj {g g' : Gpu} {obj : VioGpuObj} (h : g.destroyObj obj = some g') :
    g.effects <+: g'.effects := by
  rw [destroyObj_eq h]
  exact List.prefix_append _ _

theorem effects_destroyFrameBuffer {g g' : Gpu} (h : g.destroyFrameBuffer = some g') :
    g.effects <+: g'.effects := by
  rcases destroyFrameBuffer_cases h with ⟨-, rfl⟩ | ⟨obj, g₁, -, hdestroy, rfl⟩
  · exact List.prefix_rfl
  · exact (effects_destroyObj hdestroy :)

theorem effects_destroyCursor {g g' : Gpu} (h : g.destroyCursor = some g') :
    g.effects <+: g'.effects := by
  rcases destroyCursor_cases h with ⟨-, rfl⟩ | ⟨obj, g₁, -, hdestroy, rfl⟩
  · exact List.prefix_rfl
  · exact (effects_destroyObj hdestroy :)

theorem effects_createFrameBuffer {g g' : Gpu} {m : VideoModeInformation} {a : Allocs}
    (h : g.createFrameBuffer m a = some g') : g.effects <+: g'.effects := by
  rcases createFrameBuffer_cases h with ⟨-, rfl⟩ | ⟨-, obj, -, -, rfl⟩
  · exact List.prefix_append _ _
  · simp only [List.append_assoc]
    exact List.prefix_append _ _

theorem effects_createCursor {g g' : Gpu} {shape : PointerShape} {a : Allocs} {ok : Bool}
    (h : g.createCursor shape a = some (ok, g')) : g.effects <+: g'.effects := by
  rcases createCursor_cases h with ⟨-, -, rfl⟩ | ⟨-, -, -, obj, -, rfl⟩
  · exact List.prefix_append _ _
  · simp only [List.append_assoc]
    exact List.prefix_append _ _

theorem effects_callback {g g' : Gpu} {c : Callback} (h : g.callback c = some g') :
    g.effects <+: g'.effects := by
  cases c with
  | setCurrentMode modes mode a =>
    obtain ⟨⟨ok, g₂⟩, hset, rfl⟩ := Option.map_eq_some_iff.mp h
    rcases setCurrentMode_cases hset with ⟨-, -, rfl⟩ | ⟨m, g₁, -, -, hdestroy, hcreate⟩
    · exact List.prefix_rfl
    · have hsame : g₁.clearMode.effects = g₁.effects := rfl
      exact (effects_destroyFrameBuffer hdestroy).trans (hsame ▸ effects_createFrameBuffer hcreate)
  | setPointerShape shape a =>
    obtain ⟨g₁, ok, g₂, hdestroy, hcreate, hrest⟩ := setPointerShape_cases h
    have hprefix := (effects_destroyCursor hdestroy).trans (effects_createCursor hcreate)
    rcases hrest with ⟨-, rfl⟩ | ⟨-, obj, -, rfl⟩
    · exact hprefix
    · exact hprefix.trans (List.prefix_append _ _)
  | setPointerPosition p =>
    obtain ⟨obj, x, y, -, rfl⟩ := setPointerPosition_cases h
    exact List.prefix_append _ _
  | executePresentDisplayOnly bpp moves dirtyRects =>
    obtain ⟨obj, offset, width, height, x, y, -, rfl⟩ := executePresentDisplayOnly_cases h
    simp only [emit, List.append_assoc]
    exact List.prefix_append _ _
  | setPowerState state first second =>
    cases h
    obtain ⟨l, -, heq⟩ := setPowerState_eq g state first
    obtain ⟨l', -, heq'⟩ := setPowerState_eq (g.setPowerState state first) state second
    rw [heq', heq]
    simp only [List.append_assoc]
    exact List.prefix_append _ _

/-! ## Objects are numbered in the order of their creation -/

/-- Only objects that were created occur in the effects and are live. -/
structure Numbered (g : Gpu) : Prop where
  effects : ∀ e ∈ g.effects, ∀ n ∈ e.object?, n < g.objects
  live : ∀ obj ∈ g.liveObjs, obj.number < g.objects

theorem numbered_start (mode : CurrentBddMode) : (start mode).Numbered := by
  constructor <;> simp [start, liveObjs]

/-- A function that creates at most one object and does nothing to objects that do not exist. -/
theorem Numbered.of_append {g g' : Gpu} {l : List Effect} (h : g.Numbered)
    (hl : g'.effects = g.effects ++ l) (hobjects : g.objects ≤ g'.objects)
    (hnew : ∀ e ∈ l, ∀ n ∈ e.object?, n < g'.objects)
    (hlive : ∀ obj ∈ g'.liveObjs, obj ∈ g.liveObjs ∨ obj.number < g'.objects) : g'.Numbered where
  effects e he n hn := by
    rw [hl] at he
    rcases List.mem_append.mp he with he | he
    · exact Nat.lt_of_lt_of_le (h.effects e he n hn) hobjects
    · exact hnew e he n hn
  live obj hobj := by
    rcases hlive obj hobj with hobj | hlt
    · exact Nat.lt_of_lt_of_le (h.live obj hobj) hobjects
    · exact hlt

theorem Numbered.destroyFrameBuffer {g g' : Gpu} (h : g.Numbered)
    (hs : g.destroyFrameBuffer = some g') : g'.Numbered := by
  rcases destroyFrameBuffer_cases hs with ⟨-, rfl⟩ | ⟨obj, g₁, hobj, hdestroy, rfl⟩
  · exact h
  · have hnumber := h.live obj (by simp [liveObjs, hobj])
    rw [destroyObj_eq hdestroy]
    refine h.of_append rfl (Nat.le_refl _) (by simpa [Effect.object?] using hnumber) ?_
    simp_all [liveObjs]

theorem Numbered.destroyCursor {g g' : Gpu} (h : g.Numbered)
    (hs : g.destroyCursor = some g') : g'.Numbered := by
  rcases destroyCursor_cases hs with ⟨-, rfl⟩ | ⟨obj, g₁, hobj, hdestroy, rfl⟩
  · exact h
  · have hnumber := h.live obj (by simp [liveObjs, hobj])
    rw [destroyObj_eq hdestroy]
    refine h.of_append rfl (Nat.le_refl _) (by simpa [Effect.object?] using hnumber) ?_
    simp_all [liveObjs]

theorem Numbered.createFrameBuffer {g g' : Gpu} {m : VideoModeInformation} {a : Allocs}
    (h : g.Numbered) (hs : g.createFrameBuffer m a = some g') : g'.Numbered := by
  rcases createFrameBuffer_cases hs with ⟨-, rfl⟩ | ⟨-, obj, ⟨hnumber, -, -⟩, -, rfl⟩
  · exact h.of_append rfl (Nat.le_succ _) (by simp [Effect.object?]) fun o ho => .inl ho
  · refine h.of_append (by simp only [List.append_assoc]; rfl) (Nat.le_succ _) ?_ ?_
    · cases a.ents <;> simp [Effect.object?]
    · intro o ho
      rcases List.mem_append.mp ho with ho | ho
      · right
        simp_all
      · exact .inl (List.mem_append_right _ ho)

theorem Numbered.createCursor {g g' : Gpu} {shape : PointerShape} {a : Allocs} {ok : Bool}
    (h : g.Numbered) (hs : g.createCursor shape a = some (ok, g')) : g'.Numbered := by
  rcases createCursor_cases hs with ⟨-, -, rfl⟩ | ⟨-, -, -, obj, ⟨hnumber, -, -⟩, rfl⟩
  · exact h.of_append rfl (Nat.le_succ _) (by simp [Effect.object?]) fun o ho => .inl ho
  · refine h.of_append (by simp only [List.append_assoc]; rfl) (Nat.le_succ _) ?_ ?_
    · cases ok <;> simp [Effect.object?]
    · intro o ho
      rcases List.mem_append.mp ho with ho | ho
      · exact .inl (List.mem_append_left _ ho)
      · right
        simp_all

theorem Numbered.callback {g g' : Gpu} {c : Callback} (h : g.Numbered)
    (hs : g.callback c = some g') : g'.Numbered := by
  cases c with
  | setCurrentMode modes mode a =>
    obtain ⟨⟨ok, g₂⟩, hset, rfl⟩ := Option.map_eq_some_iff.mp hs
    rcases setCurrentMode_cases hset with ⟨-, -, rfl⟩ | ⟨m, g₁, -, -, hdestroy, hcreate⟩
    · exact h
    · obtain ⟨heffects, hlive⟩ := h.destroyFrameBuffer hdestroy
      exact Numbered.createFrameBuffer (g := g₁.clearMode) ⟨heffects, hlive⟩ hcreate
  | setPointerShape shape a =>
    obtain ⟨g₁, ok, g₂, hdestroy, hcreate, hrest⟩ := setPointerShape_cases hs
    have h₂ := (h.destroyCursor hdestroy).createCursor hcreate
    rcases hrest with ⟨-, rfl⟩ | ⟨-, obj, hobj, rfl⟩
    · exact h₂
    · have hnumber := h₂.live obj (by simp [liveObjs, hobj])
      exact h₂.of_append rfl (Nat.le_refl _) (by simpa [Effect.object?, emit] using hnumber)
        fun o ho => .inl ho
  | setPointerPosition p =>
    obtain ⟨obj, x, y, hobj, rfl⟩ := setPointerPosition_cases hs
    have hnumber := h.live obj (by simp [liveObjs, hobj])
    exact h.of_append rfl (Nat.le_refl _) (by simpa [Effect.object?, emit] using hnumber)
      fun o ho => .inl ho
  | executePresentDisplayOnly bpp moves dirtyRects =>
    obtain ⟨obj, offset, width, height, x, y, hobj, rfl⟩ := executePresentDisplayOnly_cases hs
    have hnumber := h.live obj (by simp [liveObjs, hobj])
    refine h.of_append (by simp only [emit, List.append_assoc]; rfl) (Nat.le_refl _) ?_
      fun o ho => .inl ho
    simpa [Effect.object?, emit] using hnumber
  | setPowerState state first second =>
    cases hs
    have hpower : ∀ (g : Gpu) init, g.Numbered → (g.setPowerState state init).Numbered := by
      intro g init hg
      obtain ⟨l, hl, heq⟩ := setPowerState_eq g state init
      rw [heq]
      refine hg.of_append rfl (Nat.le_refl _) (fun e he n hn => ?_) fun o ho => .inl ho
      rcases hl e he with rfl | ⟨up, rfl⟩ <;> cases hn
    exact hpower _ second (hpower g first h)

end Gpu

end VioGpu.Device
