import VioGpu.Device.FrameBuffer
import VioGpu.Device.PresentHost
import VioGpu.Device.ScreenMarks

/-!
# What a callback sends to the host

The resource ids of the driver and the resources of the host are in order after each callback
(`Ids`). A change of the pointer leaves the resource of the frame buffer alone; a change of the mode
ends with the commands that send the whole surface, and a present with those that send a rectangle
around what it wrote.
-/

namespace VioGpu.Device

open Lib Queue

/-! ## Ids and resources -/

/-- The ids of these objects are their own, and every resource that is there has its id. -/
structure Ids (idr : VioGpuIdr) (objs : List VioGpuObj) (h : Resources) : Prop where
  buffer : idr.buffer.isSome = true
  reserved : idr.isSet 0 = true
  used : ∀ r, h.table r ≠ none → idr.isSet r = true
  inUse : ∀ obj ∈ objs, obj.hwRes ≠ 0 ∧ obj.hwRes < VioGpuIdr.sizeOfBitMap ∧
    idr.isSet obj.hwRes = true
  distinct : (objs.map (·.hwRes)).Nodup

namespace Ids

variable {idr : VioGpuIdr} {obj : VioGpuObj} {objs objs' : List VioGpuObj} {h : Resources}

theorem perm (hi : Ids idr objs h) (hp : objs.Perm objs') : Ids idr objs' h where
  buffer := hi.buffer
  reserved := hi.reserved
  used := hi.used
  inUse o ho := hi.inUse o (hp.mem_iff.mpr ho)
  distinct := (hp.map _).nodup_iff.mp hi.distinct

theorem ne_of_mem (hi : Ids idr (obj :: objs) h) {o : VioGpuObj} (ho : o ∈ objs) :
    o.hwRes ≠ obj.hwRes := by
  intro heq
  exact (List.nodup_cons.mp hi.distinct).1 (List.mem_map.mpr ⟨o, ho, heq⟩)

/-- The commands of `DestroyFrameBuffer` and `DestroyCursor`. -/
theorem destroy (hi : Ids idr (obj :: objs) h) (n : Nat) :
    Ids (idr.putId obj.hwRes) objs (h.run
      [(n, .resourceDetachBacking obj.hwRes), (n, .resourceUnref obj.hwRes)]) ∧
      (idr.putId obj.hwRes).HasClear := by
  obtain ⟨hne, hlt, hset⟩ := hi.inUse obj List.mem_cons_self
  refine ⟨⟨by simpa using hi.buffer, ?_, fun r hr => ?_, fun o ho => ?_,
    (List.nodup_cons.mp hi.distinct).2⟩, VioGpuIdr.hasClear_of_clear (by simpa using hi.buffer) hlt
      (by simp [VioGpuIdr.isSet_putId])⟩
  · rw [VioGpuIdr.isSet_putId, hi.reserved]
    simpa using Ne.symm hne
  · have hrne : r ≠ obj.hwRes := by
      intro heq
      subst heq
      exact hr (Function.update_self _ _ _)
    have htable : h.table r ≠ none := by
      intro hnone
      apply hr
      show Function.update (Function.update h.table _ _) _ _ r = none
      rw [Function.update_of_ne hrne, Function.update_of_ne hrne, hnone]
    rw [VioGpuIdr.isSet_putId, hi.used r htable]
    simpa using hrne
  · obtain ⟨ho0, holt, hoset⟩ := hi.inUse o (List.mem_cons_of_mem _ ho)
    refine ⟨ho0, holt, ?_⟩
    rw [VioGpuIdr.isSet_putId, hoset]
    simpa using hi.ne_of_mem ho

/-- `GetId` and `CREATE_2D`: the id is new, and no resource has it. -/
theorem create (hi : Ids idr objs h) (hclear : idr.HasClear) (n format width height : Nat) :
    Ids idr.getId.2 objs (h.run [(n, .resourceCreate2d idr.getId.1 format width height)]) ∧
      idr.getId.1 ≠ 0 ∧ idr.getId.1 < VioGpuIdr.sizeOfBitMap ∧
      idr.getId.2.isSet idr.getId.1 = true ∧ (∀ o ∈ objs, o.hwRes ≠ idr.getId.1) ∧
      h.table idr.getId.1 = none := by
  obtain ⟨id, idr', heq, hlt, hunset, -, hset⟩ := VioGpuIdr.getId_spec hclear
  have hbuf := VioGpuIdr.buffer_getId hi.buffer
  rw [heq] at hbuf ⊢
  have hne : id ≠ 0 := by
    intro hzero
    subst hzero
    simp [hi.reserved] at hunset
  have hnone : h.table id = none := by
    by_contra hlive
    simp [hi.used id hlive] at hunset
  have hother : ∀ o ∈ objs, o.hwRes ≠ id := by
    intro o ho hid
    subst hid
    simp [(hi.inUse o ho).2.2] at hunset
  refine ⟨⟨hbuf, by simp [hset, hi.reserved], fun r hr => ?_, fun o ho => ?_, hi.distinct⟩, hne,
    hlt, by simp [hset], hother, hnone⟩
  · by_cases hrid : r = id
    · simp [hset, hrid]
    · have htable : h.table r ≠ none := by
        intro hr'
        apply hr
        show ((h.exec (n, .resourceCreate2d id format width height)).table r) = none
        simp only [Resources.exec]
        split
        · exact (Function.update_of_ne hrid _ _).trans hr'
        · exact hr'
      simp [hset, hi.used r htable]
  · obtain ⟨ho0, holt, hoset⟩ := hi.inUse o ho
    exact ⟨ho0, holt, by simp [hset, hoset]⟩

/-- `ATTACH_BACKING` for a new object. -/
theorem attach (hi : Ids idr objs h) (hne : obj.hwRes ≠ 0)
    (hlt : obj.hwRes < VioGpuIdr.sizeOfBitMap) (hset : idr.isSet obj.hwRes = true)
    (hother : ∀ o ∈ objs, o.hwRes ≠ obj.hwRes) (n : Nat) (ents : List MemEntry) :
    Ids idr (obj :: objs) (h.run [(n, .resourceAttachBacking obj.hwRes ents)]) where
  buffer := hi.buffer
  reserved := hi.reserved
  used r hr := by
    by_cases hrid : r = obj.hwRes
    · rw [hrid, hset]
    · apply hi.used r
      intro hnone
      exact hr ((Function.update_of_ne hrid _ _).trans hnone)
  inUse o ho := by
    obtain rfl | ho := List.mem_cons.mp ho
    · exact ⟨hne, hlt, hset⟩
    · exact hi.inUse o ho
  distinct := by
    refine List.nodup_cons.mpr ⟨?_, hi.distinct⟩
    intro hmem
    obtain ⟨o, ho, heq⟩ := List.mem_map.mp hmem
    exact hother o ho heq

theorem congr {h' : Resources} (hi : Ids idr objs h) (htable : h'.table = h.table) :
    Ids idr objs h' where
  buffer := hi.buffer
  reserved := hi.reserved
  used r hr := hi.used r (by rw [← htable]; exact hr)
  inUse := hi.inUse
  distinct := hi.distinct

/-- The ids with a new frame buffer. -/
theorem created (hi : Ids idr objs h) (hclear : idr.HasClear) (hres : obj.hwRes = idr.getId.1)
    (width height format row column : Nat) (ents : List MemEntry) :
    let px : Pixel := ⟨obj.hwRes, obj.number, width, height, row, column⟩
    Ids idr.getId.2 (obj :: objs) (h.run (createCommands px format ents)) ∧
      (h.run (createCommands px format ents)).Shows px := by
  intro px
  obtain ⟨hids, hne, hlt, hset, hother, hnone⟩ := hi.create hclear obj.number format width height
  rw [← hres] at hids hne hlt hset hother hnone
  have hattach := hids.attach hne hlt hset hother obj.number ents
  exact ⟨hattach.congr (Resources.table_setScanout _ obj.number 0 obj.hwRes width height 0 0),
    shows_created hnone hne format ents⟩

end Ids

/-! ## The callbacks -/

/-- The effects of `CreateFrameBuffer` where every allocation succeeds. -/
def createEffects (px : Pixel) (format : Nat) (ents : List MemEntry) : List Effect :=
  [.getId px.resource,
    .ctrl px.object (.resourceCreate2d px.resource format px.width px.height)] ++
    ([.ctrl px.object (.resourceAttachBacking px.resource ents)] ++
    [.ctrl px.object (.setScanout 0 px.resource px.width px.height 0 0),
      .ctrl px.object (.transferToHost2d px.resource 0 px.width px.height 0 0),
      .ctrl px.object (.resourceFlush px.resource px.width px.height 0 0)])

theorem commands_createEffects (px : Pixel) (format : Nat) (ents : List MemEntry) :
    commands (createEffects px format ents) = createCommands px format ents ++
      sendRect px.object px.resource (px.width * 4) 0 0 px.width px.height := by
  simp only [createEffects, commands, Effect.command?, createCommands, sendRect, Nat.zero_mul,
    Nat.add_zero, List.filterMap_cons, List.filterMap_nil, List.cons_append, List.nil_append]

/-- The command shows nothing. -/
def Quiet : Queued CtrlCommand → Prop
  | (_, .resourceFlush ..) => False
  | (_, .getDisplayInfo) | (_, .resourceCreate2d ..) | (_, .resourceUnref _) | (_, .setScanout ..)
  | (_, .transferToHost2d ..) | (_, .resourceAttachBacking ..) | (_, .resourceDetachBacking _) =>
    True

namespace Gpu

/-- A pixel of the frame buffer. -/
def pixel (g : Gpu) (obj : VioGpuObj) (row column : Nat) : Pixel where
  resource := obj.hwRes
  object := obj.number
  width := g.mode.dispInfo.width
  height := g.mode.dispInfo.height
  row := row
  column := column

/-- The ids are in order, and the host shows the frame buffer, once it has taken all commands. -/
structure Tended (g : Gpu) (h : Resources) : Prop where
  ids : Ids g.idr g.liveObjs h
  format : g.mode.dispInfo.colorFormat = .a8r8g8b8
  frameBuf : ∀ obj ∈ g.frameBuf, g.Shows ∧ ∀ row column, h.Shows (g.pixel obj row column)

/-- Effects that are about the cursor. -/
structure Plain (g g' : Gpu) (l : List Effect) : Prop where
  effects : g'.effects = g.effects ++ l
  frameBuf : g'.frameBuf = g.frameBuf
  mode : g'.mode = g.mode
  leaves : ∀ obj ∈ g.frameBuf, ∀ e ∈ commands l, Leaves obj.hwRes e

variable {g g' g'' : Gpu} {h : Resources} {l l' : List Effect}

theorem Shows.congr (hs : g.Shows) (hframe : g'.frameBuf = g.frameBuf) (hmode : g'.mode = g.mode) :
    g'.Shows where
  format := by rw [hmode]; exact hs.format
  wide := by rw [hmode]; exact hs.wide
  pitch := by rw [hmode]; exact hs.pitch
  visible := by rw [hmode]; exact hs.visible
  rotation := by rw [hmode]; exact hs.rotation
  scaling := by rw [hmode]; exact hs.scaling
  backed := by rw [hmode, hframe]; exact hs.backed

theorem Plain.trans (hp : Plain g g' l) (hp' : Plain g' g'' l') : Plain g g'' (l ++ l') where
  effects := by rw [hp'.effects, hp.effects, List.append_assoc]
  frameBuf := hp'.frameBuf.trans hp.frameBuf
  mode := hp'.mode.trans hp.mode
  leaves obj hobj e he := by
    rw [commands_append] at he
    obtain he | he := List.mem_append.mp he
    · exact hp.leaves obj hobj e he
    · exact hp'.leaves obj (by rw [hp.frameBuf]; exact hobj) e he

theorem Tended.plain (ht : g.Tended h) (hp : Plain g g' l)
    (hi : Ids g'.idr g'.liveObjs (h.run (commands l))) : g'.Tended (h.run (commands l)) where
  ids := hi
  format := by rw [hp.mode]; exact ht.format
  frameBuf obj hobj := by
    rw [hp.frameBuf] at hobj
    obtain ⟨hshows, hhost⟩ := ht.frameBuf obj hobj
    refine ⟨hshows.congr hp.frameBuf hp.mode, fun row column => ?_⟩
    have hpixel : g'.pixel obj row column = g.pixel obj row column := by
      unfold pixel
      rw [hp.mode]
    rw [hpixel]
    exact (run_leaves (hp.leaves obj hobj) (hhost row column) ⟨false, false⟩).1

theorem perm_cursor (g : Gpu) {obj : VioGpuObj} (hobj : g.cursorBuf = some obj) :
    g.liveObjs.Perm (obj :: g.frameBuf.toList) := by
  unfold liveObjs
  rw [hobj]
  exact List.perm_append_singleton obj g.frameBuf.toList

theorem liveObjs_of_noCursor (hnone : g.cursorBuf = none) : g.liveObjs = g.frameBuf.toList := by
  unfold liveObjs
  rw [hnone]
  exact List.append_nil _

/-- `DestroyCursor` -/
theorem destroyCursor_plain (hi : Ids g.idr g.liveObjs h)
    (hroom : g.cursorBuf.isSome = true ∨ g.idr.HasClear) (hs : g.destroyCursor = some g') :
    ∃ l, Plain g g' l ∧ Ids g'.idr g'.liveObjs (h.run (commands l)) ∧ g'.cursorBuf = none ∧
      g'.idr.HasClear := by
  obtain ⟨hnone, rfl⟩ | ⟨obj, g₁, hobj, hdestroy, rfl⟩ := destroyCursor_cases hs
  · refine ⟨[], ⟨(List.append_nil _).symm, rfl, rfl, fun _ _ e he => (by cases he)⟩, hi, hnone,
      hroom.resolve_left ?_⟩
    rw [hnone]
    exact Bool.false_ne_true
  · rw [destroyObj_eq hdestroy]
    have hi' := hi.perm (g.perm_cursor hobj)
    obtain ⟨hids, hclear⟩ := hi'.destroy obj.number
    refine ⟨_, ⟨rfl, rfl, rfl, fun o ho e he => ?_⟩, ?_, rfl, hclear⟩
    · have hne := hi'.ne_of_mem (Option.mem_toList.mpr ho)
      simp only [commands, Effect.command?, List.filterMap_cons, List.filterMap_nil,
        List.mem_cons, List.not_mem_nil, or_false] at he
      obtain rfl | rfl := he
      · exact Ne.symm hne
      · exact Ne.symm hne
    · rw [liveObjs_of_noCursor rfl]
      exact hids

/-- `CreateCursor` -/
theorem createCursor_plain {shape : PointerShape} {a : Allocs} {ok : Bool}
    (hi : Ids g.idr g.liveObjs h) (hnone : g.cursorBuf = none) (hclear : g.idr.HasClear)
    (hs : g.createCursor shape a = some (ok, g')) :
    ∃ l, Plain g g' l ∧ Ids g'.idr g'.liveObjs (h.run (commands l)) := by
  obtain ⟨hids, hne, hlt, hset, hother, -⟩ := hi.create hclear g.objects virtioGpuFormatB8G8R8A8
    pointerSize pointerSize
  have hframe : ∀ o ∈ g.frameBuf, g.idr.getId.1 ≠ o.hwRes := by
    intro o ho
    refine Ne.symm (hother o ?_)
    rw [liveObjs_of_noCursor hnone]
    exact Option.mem_toList.mpr ho
  obtain ⟨-, -, rfl⟩ | ⟨-, -, -, obj, ⟨hnumber, hres, -⟩, rfl⟩ := createCursor_cases hs
  · refine ⟨_, ⟨rfl, rfl, rfl, fun o ho e he => ?_⟩, ?_⟩
    · simp only [commands, Effect.command?, List.filterMap_cons, List.filterMap_nil,
        List.mem_singleton] at he
      subst he
      exact hframe o ho
    · exact hids
  · rw [← hres] at hids hne hlt hset hother hframe ⊢
    have hattach := hids.attach hne hlt hset hother g.objects obj.sgList
    rw [liveObjs_of_noCursor hnone] at hattach
    refine ⟨_, ⟨List.append_assoc _ _ _, rfl, rfl, fun o ho e he => ?_⟩, ?_⟩
    · rw [commands_append] at he
      obtain he | he := List.mem_append.mp he
      · simp only [commands, Effect.command?, List.filterMap_cons, List.filterMap_nil,
          List.mem_cons, List.not_mem_nil, or_false] at he
        obtain rfl | rfl := he
        · exact hframe o ho
        · exact hframe o ho
      · split at he
        · obtain rfl := List.mem_singleton.mp he
          exact hframe o ho
        · cases he
    · rw [commands_append, Resources.run_append]
      have hsame : ∀ h' : Resources, h'.run (commands (if ok = true then
          [.ctrl g.objects (.transferToHost2d obj.hwRes 0 shape.width shape.height 0 0)]
          else [])) = h' := by
        intro h'
        split <;> rfl
      rw [hsame]
      exact hattach.perm (List.perm_append_singleton obj g.frameBuf.toList).symm

/-- `SetPointerShape` -/
theorem setPointerShape_plain {shape : PointerShape} {a : Allocs} (hi : Ids g.idr g.liveObjs h)
    (hroom : g.cursorBuf.isSome = true ∨ g.idr.HasClear)
    (hs : g.setPointerShape shape a = some g') :
    ∃ l, Plain g g' l ∧ Ids g'.idr g'.liveObjs (h.run (commands l)) := by
  obtain ⟨g₁, ok, g₂, hdestroy, hcreate, hrest⟩ := setPointerShape_cases hs
  obtain ⟨l₁, hp₁, hi₁, hnone, hclear⟩ := destroyCursor_plain hi hroom hdestroy
  obtain ⟨l₂, hp₂, hi₂⟩ := createCursor_plain hi₁ hnone hclear hcreate
  rw [← Resources.run_append, ← commands_append] at hi₂
  obtain ⟨-, rfl⟩ | ⟨-, obj, -, rfl⟩ := hrest
  · exact ⟨_, hp₁.trans hp₂, hi₂⟩
  · have hcursor : ∀ c, Plain g₂ (g₂.emit (.cursor obj.number c)) [.cursor obj.number c] :=
      fun c => ⟨rfl, rfl, rfl, fun _ _ e he => (by cases he)⟩
    have hnone : ∀ c, commands [.cursor obj.number c] = [] := fun c => rfl
    refine ⟨_, (hp₁.trans hp₂).trans (hcursor _), ?_⟩
    rw [commands_append, hnone, List.append_nil]
    exact hi₂

/-- `SetPointerPosition` -/
theorem setPointerPosition_plain {p : PointerPosition} (hi : Ids g.idr g.liveObjs h)
    (hs : g.setPointerPosition p = some g') :
    ∃ l, Plain g g' l ∧ Ids g'.idr g'.liveObjs (h.run (commands l)) := by
  obtain ⟨obj, x, y, -, rfl⟩ := setPointerPosition_cases hs
  exact ⟨[_], ⟨rfl, rfl, rfl, fun _ _ e he => (by cases he)⟩, hi⟩

/-! ## A mode change -/

/-- What a mode change needs to end with a frame buffer that has the size of the surface: the OS
asks for a mode of the list and a path that the driver accepts, the stride is that of 32-bit pixels,
no product wraps, every allocation succeeds, and there is an id. -/
structure FitsMode (g : Gpu) (modes : List VideoModeInformation) (pinned : VidPnSourceMode)
    (path : VidPnPresentPath) (a : Allocs) : Prop where
  path : isVidPnPathFieldsValid path = .success
  listed : ∃ mi ∈ chosenMode modes pinned.primSurfSize,
    mi.visScreenWidth = pinned.primSurfSize.cx ∧ mi.visScreenHeight = pinned.primSurfSize.cy ∧
      mi.screenStride = mi.visScreenWidth * 4
  wide : pinned.primSurfSize.cx < 134217728
  small : pinned.primSurfSize.cx * 4 * pinned.primSurfSize.cy ≤ 4294963200
  visible : pinned.visibleRegionSize.cx ≤ pinned.primSurfSize.cx ∧
    pinned.visibleRegionSize.cy ≤ pinned.primSurfSize.cy
  init : a.init.Succeeds
  ents : a.ents = true
  room : g.frameBuf.isSome = true ∨ g.idr.HasClear

theorem path_valid {path : VidPnPresentPath} (hvalid : isVidPnPathFieldsValid path = .success) :
    (path.rotation = .identity ∨ path.rotation = .rotate90 ∨ path.rotation = .notSpecified ∨
      path.rotation = .uninitialized) ∧
    (path.scaling = .identity ∨ path.scaling = .centered ∨ path.scaling = .notSpecified ∨
      path.scaling = .uninitialized) := by
  unfold isVidPnPathFieldsValid at hvalid
  split_ifs at hvalid with h₁ h₂ h₃ hscaling hrotation
  constructor
  · by_contra hnot
    simp only [not_or] at hnot
    exact hrotation hnot
  · by_contra hnot
    simp only [not_or] at hnot
    exact hscaling hnot

/-- The size of the surface's memory, in numbers. -/
theorem memory_fits {width height : Nat} (hsmall : width * 4 * height ≤ 4294963200) :
    height * (width * 4) ≤ u32 (bytesToPages (u32 (width * 4 * height)) * pageSize) ∧
      u32 (bytesToPages (u32 (width * 4 * height)) * pageSize) < 4294967296 := by
  constructor
  · rw [Nat.mul_comm height]
    exact le_u32_pages_iff.mpr hsmall
  · exact Nat.mod_lt _ (by decide)

/-- `SetCurrentMode` goes on to `CreateFrameBuffer` with no frame buffer and an id to take. -/
theorem destroyFrameBuffer_ids (hi : Ids g.idr g.liveObjs h)
    (hroom : g.frameBuf.isSome = true ∨ g.idr.HasClear) (hs : g.destroyFrameBuffer = some g') :
    ∃ l, g'.effects = g.effects ++ l ∧ g'.frameBuf = none ∧ g'.cursorBuf = g.cursorBuf ∧
      g'.mode = g.mode ∧ Ids g'.idr g.cursorBuf.toList (h.run (commands l)) ∧
      g'.idr.HasClear := by
  obtain ⟨hnone, rfl⟩ | ⟨obj, g₁, hobj, hdestroy, rfl⟩ := destroyFrameBuffer_cases hs
  · have hlive : g'.liveObjs = g'.cursorBuf.toList := by
      unfold liveObjs
      rw [hnone]
      rfl
    rw [hlive] at hi
    refine ⟨[], (List.append_nil _).symm, hnone, rfl, rfl, hi, hroom.resolve_left ?_⟩
    rw [hnone]
    exact Bool.false_ne_true
  · have hlive : g.liveObjs = obj :: g.cursorBuf.toList := by
      unfold liveObjs
      rw [hobj]
      rfl
    rw [hlive] at hi
    obtain ⟨hids, hclear⟩ := hi.destroy obj.number
    rw [destroyObj_eq hdestroy]
    exact ⟨_, rfl, rfl, rfl, rfl, hids, hclear⟩

/-- What a mode change leaves: the commands end with those that send the whole surface, and the
resource is there and shown before them. -/
structure Renewed (g' : Gpu) (h : Resources) (obj : VioGpuObj) (l : List Effect)
    (before : List (Queued CtrlCommand)) : Prop where
  frameBuf : g'.frameBuf = some obj
  commands : commands l = before ++ sendRect obj.number obj.hwRes (g'.mode.dispInfo.width * 4) 0 0
    g'.mode.dispInfo.width g'.mode.dispInfo.height
  host : ∀ row column, (h.run before).Shows (g'.pixel obj row column)

/-- `CreateFrameBuffer` where every allocation succeeds, for a mode of the size of the surface. -/
theorem createFrameBuffer_renewed {mi : VideoModeInformation} {a : Allocs}
    (hi : Ids g.idr g.cursorBuf.toList h) (hclear : g.idr.HasClear) (hinit : a.init.Succeeds)
    (hents : a.ents = true) (hwidth : g.mode.dispInfo.width = mi.visScreenWidth)
    (hheight : g.mode.dispInfo.height = mi.visScreenHeight)
    (hs : g.createFrameBuffer mi a = some g') :
    ∃ obj l before, g'.effects = g.effects ++ l ∧ Renewed g' h obj l before ∧
      Ids g'.idr g'.liveObjs (h.run (commands l)) ∧
      g'.mode = { g.mode with
        dispInfo := { g.mode.dispInfo with physicAddress := obj.physicalAddress }
        ptr := some obj.number
        frameBufferIsActive := true } ∧
      obj.vAddr = some (u32 (bytesToPages (u32 (mi.screenStride * mi.visScreenHeight)) *
        pageSize)) := by
  obtain ⟨hfails, -⟩ | ⟨-, obj, ⟨hnumber, hres, -⟩, hmem, hg'⟩ := createFrameBuffer_cases hs
  · exact absurd hinit hfails
  rw [hents, if_pos rfl] at hres
  rw [if_pos hents, ← hres, ← hnumber] at hg'
  have hpixel : ∀ row column, g'.pixel obj row column =
      ⟨obj.hwRes, obj.number, mi.visScreenWidth, mi.visScreenHeight, row, column⟩ := by
    intro row column
    rw [← hwidth, ← hheight, hg']
    rfl
  have hcreated := fun row column => hi.created hclear hres mi.visScreenWidth mi.visScreenHeight
    (colorFormat g.mode.dispInfo.colorFormat) row column obj.sgList
  have hlive : g'.liveObjs = obj :: g.cursorBuf.toList := by
    rw [hg']
    rfl
  have hidr : g'.idr = g.idr.getId.2 := by rw [hg']
  have hw : g'.mode.dispInfo.width = mi.visScreenWidth := by
    rw [← hwidth, hg']
  have hv : g'.mode.dispInfo.height = mi.visScreenHeight := by
    rw [← hheight, hg']
  generalize hformat : colorFormat g.mode.dispInfo.colorFormat = format at hg' hcreated
  refine ⟨obj, createEffects (g'.pixel obj 0 0) format obj.sgList,
    createCommands (g'.pixel obj 0 0) format obj.sgList, ?_, ⟨by rw [hg'], ?_, ?_⟩, ?_, ?_, hmem⟩
  · rw [hpixel, createEffects, hg']
    simp only [List.append_assoc]
  · rw [commands_createEffects, hpixel, hw, hv]
  · intro row column
    rw [hpixel 0 0, hpixel row column]
    exact (hcreated row column).2
  · rw [commands_createEffects, Resources.run_append, Resources.run_sendRect, hlive, hidr, hpixel]
    exact (hcreated 0 0).1
  · rw [hg']

/-- `m_CurrentModes[0]` after a mode change that ends with a frame buffer. -/
def renewedMode (mode : CurrentBddMode) (pinned : VidPnSourceMode) (path : VidPnPresentPath)
    (obj : VioGpuObj) : CurrentBddMode :=
  { Dod.sourceMode mode pinned path with
    fullscreenPresent := true
    dispInfo := { (Dod.sourceMode mode pinned path).dispInfo with
      physicAddress := obj.physicalAddress }
    ptr := some obj.number
    frameBufferIsActive := true }

theorem FitsMode.shows {modes : List VideoModeInformation} {pinned : VidPnSourceMode}
    {path : VidPnPresentPath} {a : Allocs} {obj : VioGpuObj}
    (hfits : g.FitsMode modes pinned path a)
    (hformat : g.mode.dispInfo.colorFormat = .a8r8g8b8)
    (hmode : g'.mode = renewedMode g.mode pinned path obj) (hframe : g'.frameBuf = some obj)
    (hmem : obj.vAddr = some (u32 (bytesToPages (u32
      (pinned.primSurfSize.cx * 4 * pinned.primSurfSize.cy)) * pageSize))) : g'.Shows := by
  have hpitch : u32 (pinned.primSurfSize.cx * bppFromPixelFormat g.mode.dispInfo.colorFormat) / 8 =
      pinned.primSurfSize.cx * 4 := by
    have hwide := hfits.wide
    have hbits : bppFromPixelFormat .a8r8g8b8 = 32 := rfl
    rw [hformat, hbits]
    unfold u32
    omega
  obtain ⟨hsize, hlt⟩ := memory_fits hfits.small
  obtain ⟨hrotation, hscaling⟩ := path_valid hfits.path
  refine ⟨by rw [hmode]; exact hformat, by rw [hmode]; exact hfits.wide, ?_,
    by rw [hmode]; exact hfits.visible, by rw [hmode]; exact hrotation,
    by rw [hmode]; exact hscaling, obj, hframe, by rw [hmode]; rfl, _, hmem, ?_, hlt⟩
  · rw [hmode]
    exact hpitch
  · rw [hmode]
    show pinned.primSurfSize.cy * (u32 (pinned.primSurfSize.cx * _) / 8) ≤ _
    rw [hpitch]
    exact hsize

/-- `SetCurrentMode` with a mode of the list, which has the size of the surface. -/
theorem setCurrentMode_renewed {modes : List VideoModeInformation} {mode : Nat}
    {mi : VideoModeInformation} {a : Allocs} {ok : Bool} (hi : Ids g.idr g.liveObjs h)
    (hroom : g.frameBuf.isSome = true ∨ g.idr.HasClear)
    (hfind : modes.find? (·.modeNumber = mode) = some mi) (hinit : a.init.Succeeds)
    (hents : a.ents = true) (hwidth : g.mode.dispInfo.width = mi.visScreenWidth)
    (hheight : g.mode.dispInfo.height = mi.visScreenHeight)
    (hs : g.setCurrentMode modes mode a = some (ok, g')) :
    ∃ obj l before, g'.effects = g.effects ++ l ∧ Renewed g' h obj l before ∧
      Ids g'.idr g'.liveObjs (h.run (commands l)) ∧
      g'.mode = { g.mode with
        dispInfo := { g.mode.dispInfo with physicAddress := obj.physicalAddress }
        ptr := some obj.number
        frameBufferIsActive := true } ∧
      obj.vAddr = some (u32 (bytesToPages (u32 (mi.screenStride * mi.visScreenHeight)) *
        pageSize)) := by
  obtain ⟨hnone, -⟩ | ⟨m, g₁, hm, -, hdestroy, hcreate⟩ := setCurrentMode_cases hs
  · rw [hnone] at hfind
    cases hfind
  obtain rfl : m = mi := Option.some_inj.mp (hm.symm.trans hfind)
  obtain ⟨l₁, heffects₁, -, hcursor, hmode, hids₁, hclear⟩ :=
    destroyFrameBuffer_ids hi hroom hdestroy
  have hids : Ids g₁.clearMode.idr g₁.clearMode.cursorBuf.toList (h.run (commands l₁)) := by
    show Ids g₁.idr g₁.cursorBuf.toList _
    rw [hcursor]
    exact hids₁
  have hinfo : g₁.clearMode.mode.dispInfo = { g.mode.dispInfo with physicAddress := 0 } := by
    simp only [clearMode, hmode]
  obtain ⟨obj, l₂, before, heffects₂, hrenewed, hids₂, hmode₂, hmem⟩ :=
    createFrameBuffer_renewed hids hclear hinit hents (by rw [hinfo]; exact hwidth)
      (by rw [hinfo]; exact hheight) hcreate
  rw [← Resources.run_append, ← commands_append] at hids₂
  refine ⟨obj, l₁ ++ l₂, commands l₁ ++ before, ?_, ⟨hrenewed.frameBuf, ?_, ?_⟩, hids₂, ?_, hmem⟩
  · rw [heffects₂]
    show g₁.effects ++ l₂ = _
    rw [heffects₁, List.append_assoc]
  · rw [commands_append, hrenewed.commands, List.append_assoc]
  · intro row column
    rw [Resources.run_append]
    exact hrenewed.host row column
  · rw [hmode₂]
    simp only [clearMode, hmode]

/-- **A change of the mode** renews the frame buffer. -/
theorem setSourceModeAndPath_renewed {d d' : Dod Gpu} {modes : List VideoModeInformation}
    {pinned : VidPnSourceMode} {path : VidPnPresentPath} {a : Allocs} {status : Status}
    (ht : d.device.Tended h) (hfits : d.device.FitsMode modes pinned path a)
    (hs : Dod.setSourceModeAndPath gpuDevice d modes pinned path a = some (status, d')) :
    ∃ obj l before, d'.device.effects = d.device.effects ++ l ∧
      Renewed d'.device h obj l before ∧ d'.device.Tended (h.run (commands l)) := by
  obtain ⟨mi, hchosen, hwidth, hheight, hstride⟩ := hfits.listed
  obtain ⟨-, ⟨hnone, -⟩ | ⟨mi', mode, hchosen', hfind, -, hset⟩⟩ := Dod.setSourceModeAndPath_gpu hs
  · rw [hnone] at hchosen
    cases hchosen
  obtain rfl : mi' = mi := Option.some_inj.mp (hchosen'.symm.trans hchosen)
  obtain ⟨obj, l, before, heffects, hrenewed, hids, hmode, hmem⟩ :=
    setCurrentMode_renewed (g := { d.device with
      mode := { Dod.sourceMode d.device.mode pinned path with fullscreenPresent := true } })
      ht.ids hfits.room hfind hfits.init hfits.ents hwidth.symm hheight.symm hset
  have hshows : d'.device.Shows := by
    refine hfits.shows ht.format hmode hrenewed.frameBuf ?_
    rw [hmem, hstride, hwidth, hheight]
  refine ⟨obj, l, before, heffects, hrenewed, hids, ?_, ?_⟩
  · rw [hmode]
    exact ht.format
  · intro o ho
    rw [hrenewed.frameBuf] at ho
    obtain rfl := Option.some_inj.mp ho
    refine ⟨hshows, fun row column => ?_⟩
    rw [hrenewed.commands, Resources.run_append, Resources.run_sendRect]
    exact hrenewed.host row column

/-! ## A present -/

/-- What a present needs to be shown: the rectangles are inside the presented source, the update
rectangle agrees with the blits, and it is inside the surface. -/
structure FitsPresent (g : Gpu) (p : PresentDisplayOnly) : Prop where
  source : ∀ r ∈ p.rects, g.mode.InSource p r
  agrees : g.mode.Agrees p
  inside : (g.mode.updateRect p).Inside ⟨0, 0, g.mode.dispInfo.width, g.mode.dispInfo.height⟩

/-- The accesses write into this rectangle of the surface. -/
structure Around (g : Gpu) (x y width height : Nat) (accesses : List Access) : Prop where
  holds : 0 < g.mode.dispInfo.width →
    x + width ≤ g.mode.dispInfo.width ∧ y + height ≤ g.mode.dispInfo.height
  covered : ∀ a ∈ accesses, ∀ k v, a.Writes k v → ∀ c row, g.mode.IsPixel c row k →
    (x ≤ c ∧ c < x + width) ∧ y ≤ row ∧ row < y + height

theorem updateRect_ordered {p : PresentDisplayOnly} (hrects : ∀ r ∈ p.rects, g.mode.InSource p r) :
    (g.mode.updateRect p).left ≤ (g.mode.updateRect p).right ∧
      (g.mode.updateRect p).top ≤ (g.mode.updateRect p).bottom := by
  unfold CurrentBddMode.updateRect
  cases hu : findUpdateRect p.moves p.dirtyRects with
  | none => exact ⟨Int.natCast_nonneg _, Int.natCast_nonneg _⟩
  | some u =>
    obtain hnil | hne := eq_or_ne p.rects []
    · obtain ⟨hmoves, hdirty⟩ := List.append_eq_nil_iff.mp hnil
      rw [hmoves, hdirty] at hu
      cases hu
    · obtain ⟨r, hr⟩ := List.exists_mem_of_ne_nil _ hne
      obtain ⟨haround, -⟩ := updateRect_spec hrects hr
      have hord := (hrects r hr).ordered
      rw [CurrentBddMode.updateRect, hu] at haround
      exact ⟨haround.left.trans (hord.1.trans haround.right),
        haround.top.trans (hord.2.trans haround.bottom)⟩

/-- The update rectangle in the numbers of the commands. -/
theorem Shows.holds_updateRect {p : PresentDisplayOnly} (hshows : g.Shows)
    (hfits : g.FitsPresent p) (hwidth : 0 < g.mode.dispInfo.width) :
    let u := g.mode.updateRect p
    uint u.left + uint (u.right - u.left) ≤ g.mode.dispInfo.width ∧
      uint u.top + uint (u.bottom - u.top) ≤ g.mode.dispInfo.height := by
  intro u
  obtain ⟨hcols, hrows⟩ := updateRect_ordered hfits.source
  obtain ⟨hl, ht, hr, hb⟩ := hfits.inside
  change u.left ≤ u.right at hcols
  change u.top ≤ u.bottom at hrows
  change 0 ≤ u.left at hl
  change 0 ≤ u.top at ht
  change u.right ≤ g.mode.dispInfo.width at hr
  change u.bottom ≤ g.mode.dispInfo.height at hb
  clear_value u
  have hwide := hshows.wide
  have hhigh : g.mode.dispInfo.height < 4294967296 := by
    obtain ⟨-, -, -, size, -, hsize, hlt⟩ := hshows.backed
    have hrow : g.mode.dispInfo.height ≤ g.mode.dispInfo.height * g.mode.dispInfo.pitch :=
      Nat.le_mul_of_pos_right _ (by rw [hshows.pitch]; omega)
    omega
  have hleft : (uint u.left : Int) = u.left := uint_eq (by omega) (by omega)
  have htop : (uint u.top : Int) = u.top := uint_eq (by omega) (by omega)
  have hw : (uint (u.right - u.left) : Int) = u.right - u.left := uint_eq (by omega) (by omega)
  have hh : (uint (u.bottom - u.top) : Int) = u.bottom - u.top := uint_eq (by omega) (by omega)
  omega

theorem emit_emit (g : Gpu) (e e' : Effect) :
    (g.emit e).emit e' = { g with effects := g.effects ++ [e, e'] } := by
  rw [emit, emit, List.append_assoc]
  rfl

/-- **A present** does nothing, or sends a rectangle around what it writes. -/
theorem presentDisplayOnly_sent {before source : Int → Byte} {hidden : Bool}
    {p : PresentDisplayOnly} {status : Status} {screen : Blt}
    (hshows : ∀ obj ∈ g.frameBuf, g.Shows)
    (hfits : hidden = false → 4 ≤ p.bytesPerPixel → g.FitsPresent p)
    (hs : g.presentDisplayOnly ⟨before, []⟩ source hidden p = some (status, screen, g')) :
    (g' = g ∧ screen.accesses = []) ∨ ∃ obj x y width height l, g.frameBuf = some obj ∧
      g' = { g with effects := g.effects ++ l } ∧
      commands l = sendRect obj.number obj.hwRes (g.mode.dispInfo.width * 4) x y width height ∧
      g.Around x y width height screen.accesses := by
  by_cases hbytes : p.bytesPerPixel < 4
  · rw [presentDisplayOnly, if_pos hbytes] at hs
    cases hs
    exact .inl ⟨rfl, rfl⟩
  cases hidden with
  | true =>
    rw [presentDisplayOnly, if_neg hbytes, if_pos rfl] at hs
    cases hs
    exact .inl ⟨rfl, rfl⟩
  | false =>
    right
    have hfits := hfits rfl (Nat.le_of_not_lt hbytes)
    obtain hnone | ⟨obj, hobj⟩ := Option.eq_none_or_eq_some g.frameBuf
    · rw [presentDisplayOnly, if_neg hbytes, if_neg Bool.false_ne_true, executePresentDisplayOnly,
        hnone] at hs
      cases hs
    have hshows := hshows obj hobj
    obtain ⟨screen', n, resid, x, y, width, height, ⟨⟨g'', hs', heffects⟩, hpixels⟩⟩ :=
      (exists_covering_iff hshows (Nat.le_of_not_lt hbytes) hfits.source before source).mpr
        hfits.agrees
    rw [hs] at hs'
    cases hs'
    rw [presentDisplayOnly, if_neg hbytes, if_neg Bool.false_ne_true, executePresentDisplayOnly,
      hobj] at hs
    cases hs
    simp only [emit, List.append_assoc, List.append_cancel_left_eq, List.cons_append,
      List.nil_append, List.cons.injEq, Effect.ctrl.injEq, CtrlCommand.transferToHost2d.injEq,
      CtrlCommand.resourceFlush.injEq] at heffects
    obtain ⟨⟨rfl, rfl, hoffset, rfl, rfl, rfl, rfl⟩, -⟩ := heffects
    refine ⟨obj, _, _, _, _, _, hobj, emit_emit g _ _, ?_, ⟨?_, hpixels⟩⟩
    · rw [← hshows.pitch, sendRect, ← hoffset]
      rfl
    · exact hshows.holds_updateRect hfits

/-! ## Calls that show nothing -/

/-- Effects with no flush, that leave the mode as it is. -/
structure Unflushed (g g' : Gpu) (l : List Effect) : Prop where
  effects : g'.effects = g.effects ++ l
  mode : g'.mode = g.mode
  quiet : ∀ e ∈ commands l, Quiet e

theorem Unflushed.trans (hu : Unflushed g g' l) (hu' : Unflushed g' g'' l') :
    Unflushed g g'' (l ++ l') where
  effects := by rw [hu'.effects, hu.effects, List.append_assoc]
  mode := hu'.mode.trans hu.mode
  quiet := by
    rw [commands_append]
    exact List.forall_mem_append.mpr ⟨hu.quiet, hu'.quiet⟩

theorem destroyCursor_unflushed (hs : g.destroyCursor = some g') : ∃ l, Unflushed g g' l := by
  obtain ⟨-, rfl⟩ | ⟨obj, g₁, -, hdestroy, rfl⟩ := destroyCursor_cases hs
  · exact ⟨[], (List.append_nil _).symm, rfl, fun e he => (by cases he)⟩
  · rw [destroyObj_eq hdestroy]
    refine ⟨_, rfl, rfl, fun e he => ?_⟩
    simp only [commands, Effect.command?, List.filterMap_cons, List.filterMap_nil,
      List.mem_cons, List.not_mem_nil, or_false] at he
    obtain rfl | rfl := he
    · trivial
    · trivial

theorem createCursor_unflushed {shape : PointerShape} {a : Allocs} {ok : Bool}
    (hs : g.createCursor shape a = some (ok, g')) : ∃ l, Unflushed g g' l := by
  obtain ⟨-, -, rfl⟩ | ⟨-, -, -, obj, -, rfl⟩ := createCursor_cases hs
  · refine ⟨_, rfl, rfl, fun e he => ?_⟩
    simp only [commands, Effect.command?, List.filterMap_cons, List.filterMap_nil,
      List.mem_singleton] at he
    subst he
    trivial
  · refine ⟨_, List.append_assoc _ _ _, rfl, fun e he => ?_⟩
    rw [commands_append] at he
    obtain he | he := List.mem_append.mp he
    · simp only [commands, Effect.command?, List.filterMap_cons, List.filterMap_nil,
        List.mem_cons, List.not_mem_nil, or_false] at he
      obtain rfl | rfl := he
      · trivial
      · trivial
    · split at he
      · obtain rfl := List.mem_singleton.mp he
        trivial
      · cases he

theorem setPointerShape_unflushed {shape : PointerShape} {a : Allocs}
    (hs : g.setPointerShape shape a = some g') : ∃ l, Unflushed g g' l := by
  obtain ⟨g₁, ok, g₂, hdestroy, hcreate, hrest⟩ := setPointerShape_cases hs
  obtain ⟨l₁, hu₁⟩ := destroyCursor_unflushed hdestroy
  obtain ⟨l₂, hu₂⟩ := createCursor_unflushed hcreate
  obtain ⟨-, rfl⟩ | ⟨-, obj, -, rfl⟩ := hrest
  · exact ⟨_, hu₁.trans hu₂⟩
  · have hupdate : ∀ c, Unflushed g₂ (g₂.emit (.cursor obj.number c)) [.cursor obj.number c] :=
      fun c => ⟨rfl, rfl, fun e he => (by cases he)⟩
    exact ⟨_, (hu₁.trans hu₂).trans (hupdate _)⟩

end Gpu

end VioGpu.Device
