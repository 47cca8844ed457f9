import VioGpu.Device.Adapter
import VioGpu.Device.Host

/-!
# Commands in the order of the control ring

The driver reads none of the host's answers; whether each command finds the table it needs rests
on the order in which the callbacks queue commands and on the ids.

First the sequence of all commands the callbacks queue is shown to be in order
(`InOrder`), as long as the ids are there, the entries of a frame buffer are allocated, and no
callback uses a resource from before a reset. Then commands that do not enter the ring are
taken into account: `CREATE_2D`, `ATTACH_BACKING` and `UNREF` must enter, and without any of
the others the host has at least as much backing as the driver thinks.
-/

namespace VioGpu.Device

open Lib Queue

namespace Host

/-- The table after an effect, if every command enters the ring. -/
def effect (t : Host) : Effect → Option Host
  | .ctrl _ c => t.exec c
  | .reset => some empty
  | .cursor .. | .getId _ | .putId .. | .delete .. | .setQueues _ => some t

end Host

/-! ## All commands in order -/

/-- The commands of these effects are in order and leave the table `t`; `objs` are the live
objects, of `count` created ones. -/
structure InOrder (idr : VioGpuIdr) (objs : List VioGpuObj) (count : Nat) (effects : List Effect)
    (t : Host) : Prop where
  table : effects.foldlM Host.effect Host.empty = some t
  buffer : idr.buffer.isSome = true
  reserved : idr.isSet 0 = true
  used : ∀ r, t r ≠ none → idr.isSet r = true
  inUse : ∀ obj ∈ objs, obj.hwRes ≠ 0 ∧ obj.hwRes < VioGpuIdr.sizeOfBitMap ∧
    idr.isSet obj.hwRes = true ∧ obj.number < count
  backed : ∀ obj ∈ objs, MadeSinceReset .create effects obj.number → t obj.hwRes = some true
  distinct : (objs.map (·.hwRes)).Nodup

namespace InOrder

variable {idr : VioGpuIdr} {objs : List VioGpuObj} {count : Nat} {effects : List Effect} {t : Host}

theorem init : InOrder (.init 1) [] 0 [] Host.empty where
  table := rfl
  buffer := rfl
  reserved := rfl
  used r h := absurd rfl h
  inUse := by simp
  backed := by simp
  distinct := .nil

theorem perm {objs' : List VioGpuObj} (h : InOrder idr objs count effects t)
    (hp : objs.Perm objs') : InOrder idr objs' count effects t where
  table := h.table
  buffer := h.buffer
  reserved := h.reserved
  used := h.used
  inUse obj hobj := h.inUse obj (hp.mem_iff.mpr hobj)
  backed obj hobj := h.backed obj (hp.mem_iff.mpr hobj)
  distinct := (hp.map _).nodup_iff.mp h.distinct

/-- Effects that leave the table as it is. -/
theorem same {l : List Effect} (h : InOrder idr objs count effects t)
    (hl : ∀ e ∈ l, t.effect e = some t)
    (hcreate : ∀ n, ∀ e ∈ l, e.makes .create n = false) (hreset : .reset ∉ l) :
    InOrder idr objs count (effects ++ l) t where
  table := by
    rw [List.foldlM_append, h.table]
    induction l with
    | nil => rfl
    | cons e l ih =>
      have he := hl e List.mem_cons_self
      simp only [Option.bind_eq_bind, Option.bind_some, List.foldlM_cons, he] at ih ⊢
      refine ih (fun e' he' => hl e' (List.mem_cons_of_mem e he')) ?_ ?_
      · exact fun n e' he' => hcreate n e' (List.mem_cons_of_mem e he')
      · exact fun hc => hreset (List.mem_cons_of_mem e hc)
  buffer := h.buffer
  reserved := h.reserved
  used := h.used
  inUse := h.inUse
  backed obj hobj hcreated :=
    h.backed obj hobj ((madeSinceReset_append hreset).mp hcreated |>.resolve_right (by
      rintro ⟨e, he, hmakes⟩
      simp [hcreate _ e he] at hmakes))
  distinct := h.distinct

/-- The commands of `DestroyFrameBuffer` and `DestroyCursor`. -/
theorem destroy {obj : VioGpuObj} {wasSet : Bool} (h : InOrder idr (obj :: objs) count effects t)
    (hcreated : MadeSinceReset .create effects obj.number) :
    InOrder (idr.putId obj.hwRes) objs count
      (effects ++ [.ctrl obj.number (.resourceDetachBacking obj.hwRes),
        .ctrl obj.number (.resourceUnref obj.hwRes), .delete obj.number true,
        .putId obj.hwRes wasSet]) (Function.update t obj.hwRes none) := by
  obtain ⟨hne, hlt, hset, -⟩ := h.inUse obj List.mem_cons_self
  have hbacked := h.backed obj List.mem_cons_self hcreated
  obtain ⟨hnot, hdistinct⟩ := List.nodup_cons.mp h.distinct
  have hother : ∀ o ∈ objs, o.hwRes ≠ obj.hwRes := fun o ho heq =>
    hnot (List.mem_map.mpr ⟨o, ho, heq⟩)
  refine ⟨?_, by simpa using h.buffer, ?_, ?_, ?_, ?_, hdistinct⟩
  · rw [List.foldlM_append, h.table]
    simp [Host.effect, Host.exec, hne, hbacked]
  · rw [VioGpuIdr.isSet_putId, h.reserved]
    simpa using Ne.symm hne
  · intro r hr
    have hrne : r ≠ obj.hwRes := by
      rintro rfl
      simp at hr
    rw [Function.update_of_ne hrne] at hr
    rw [VioGpuIdr.isSet_putId, h.used r hr]
    simpa using hrne
  · intro o ho
    obtain ⟨ho0, holt, hoset, hocount⟩ := h.inUse o (List.mem_cons_of_mem _ ho)
    refine ⟨ho0, holt, ?_, hocount⟩
    rw [VioGpuIdr.isSet_putId, hoset]
    simpa using hother o ho
  · intro o ho hc
    rw [Function.update_of_ne (hother o ho)]
    refine h.backed o (List.mem_cons_of_mem _ ho)
      (((madeSinceReset_append ?_).mp hc).resolve_right ?_)
    · simp
    · simp [Effect.makes, Making.is]

/-- The commands of a creation up to `CREATE_2D`: a live resource that belongs to no object. -/
theorem create (f w v : Nat) (h : InOrder idr objs count effects t) (hclear : idr.HasClear) :
    InOrder idr.getId.2 objs (count + 1)
      (effects ++ [.getId idr.getId.1, .ctrl count (.resourceCreate2d idr.getId.1 f w v)])
      (Function.update t idr.getId.1 (some false)) ∧
      idr.getId.1 ≠ 0 ∧ idr.getId.1 < VioGpuIdr.sizeOfBitMap ∧
      idr.getId.2.isSet idr.getId.1 = true ∧ ∀ o ∈ objs, o.hwRes ≠ idr.getId.1 := by
  obtain ⟨id, idr', heq, hlt, hunset, -, hset⟩ := VioGpuIdr.getId_spec hclear
  have hbuf := VioGpuIdr.buffer_getId h.buffer
  rw [heq] at hbuf ⊢
  have hne : id ≠ 0 := by
    rintro rfl
    simp [h.reserved] at hunset
  have hnone : t id = none := by
    by_contra hlive
    simp [h.used id hlive] at hunset
  have hother : ∀ o ∈ objs, o.hwRes ≠ id := by
    rintro o ho rfl
    simp [(h.inUse o ho).2.2.1] at hunset
  refine ⟨⟨?_, hbuf, ?_, ?_, ?_, ?_, h.distinct⟩, hne, hlt, by simp [hset], hother⟩
  · rw [List.foldlM_append, h.table]
    simp [Host.effect, Host.exec, hne, hnone]
  · simp [hset, h.reserved]
  · intro r hr
    by_cases hrid : r = id
    · simp [hset, hrid]
    · rw [Function.update_of_ne hrid] at hr
      simp [hset, h.used r hr]
  · intro o ho
    obtain ⟨ho0, holt, hoset, hocount⟩ := h.inUse o ho
    exact ⟨ho0, holt, by simp [hset, hoset], by omega⟩
  · intro o ho hc
    rw [Function.update_of_ne (hother o ho)]
    refine h.backed o ho (((madeSinceReset_append (by simp)).mp hc).resolve_right ?_)
    have hcount : o.number < count := (h.inUse o ho).2.2.2
    simpa [Effect.makes, Making.is] using Nat.ne_of_gt hcount

/-- `ATTACH_BACKING` for a new object. -/
theorem attach {obj : VioGpuObj} (ents : List MemEntry) (h : InOrder idr objs count effects t)
    (hne : obj.hwRes ≠ 0) (hlt : obj.hwRes < VioGpuIdr.sizeOfBitMap)
    (hset : idr.isSet obj.hwRes = true) (hnumber : obj.number < count)
    (hlive : t obj.hwRes ≠ none) (hother : ∀ o ∈ objs, o.hwRes ≠ obj.hwRes) :
    InOrder idr (obj :: objs) count
      (effects ++ [.ctrl obj.number (.resourceAttachBacking obj.hwRes ents)])
      (Function.update t obj.hwRes (some true)) := by
  refine ⟨?_, h.buffer, h.reserved, ?_, ?_, ?_, ?_⟩
  · rw [List.foldlM_append, h.table]
    simp [Host.effect, Host.exec, hne, hlive]
  · intro r hr
    by_cases hrid : r = obj.hwRes
    · rw [hrid, hset]
    · rw [Function.update_of_ne hrid] at hr
      exact h.used r hr
  · intro o ho
    rcases List.mem_cons.mp ho with rfl | ho
    · exact ⟨hne, hlt, hset, hnumber⟩
    · exact h.inUse o ho
  · intro o ho hc
    rcases List.mem_cons.mp ho with rfl | ho
    · simp
    · rw [Function.update_of_ne (hother o ho)]
      refine h.backed o ho (((madeSinceReset_append (by simp)).mp hc).resolve_right ?_)
      simp [Effect.makes, Making.is]
  · refine List.nodup_cons.mpr ⟨?_, h.distinct⟩
    rw [List.mem_map]
    rintro ⟨o, ho, heq⟩
    exact hother o ho heq

/-- The effects of a power transition. -/
theorem power {l : List Effect} (h : InOrder idr objs count effects t)
    (hl : ∀ e ∈ l, e = .reset ∨ ∃ up, e = .setQueues up) :
    ∃ t', InOrder idr objs count (effects ++ l) t' := by
  induction l generalizing effects t with
  | nil => exact ⟨t, by simpa using h⟩
  | cons e l ih =>
    have hnext : ∃ t', InOrder idr objs count (effects ++ [e]) t' := by
      rcases hl e List.mem_cons_self with rfl | ⟨up, rfl⟩
      · refine ⟨Host.empty, ?_, h.buffer, h.reserved, fun r hr => absurd rfl hr, h.inUse, ?_,
          h.distinct⟩
        · rw [List.foldlM_append, h.table]
          rfl
        · intro o ho hc
          exact absurd hc (not_madeSinceReset_reset _ _ _)
      · exact ⟨t, h.same (by simp [Host.effect]) (by simp [Effect.makes]) (by simp)⟩
    obtain ⟨t', h'⟩ := hnext
    have hrest := ih h' fun e' he' => hl e' (List.mem_cons_of_mem e he')
    simpa using hrest

end InOrder

/-! ## The callbacks -/

namespace Gpu

/-- Every command queued so far is in order. -/
def CommandsInOrder (g : Gpu) : Prop := ∃ t, InOrder g.idr g.liveObjs g.objects g.effects t

/-- The resource the callback is about, if there is one, was created since the last reset. -/
def CreatedIn (g : Gpu) (slot : Option VioGpuObj) : Prop :=
  slot.all (fun obj => decide (MadeSinceReset .create g.effects obj.number)) = true

instance (g : Gpu) (slot : Option VioGpuObj) : Decidable (g.CreatedIn slot) :=
  inferInstanceAs (Decidable (_ = true))

/-- The resource is not from before a reset, there is an id for a new one, and the entries of a
new frame buffer are allocated. -/
def AtHand (g : Gpu) : Callback → Prop
  | .setCurrentMode modes mode a => (modes.find? (·.modeNumber = mode)).isSome = true →
    g.CreatedIn g.frameBuf ∧ (g.frameBuf.isSome = true ∨ g.idr.HasClear) ∧
      (a.init.Succeeds → a.ents = true)
  | .setPointerShape .. => g.CreatedIn g.cursorBuf ∧ (g.cursorBuf.isSome = true ∨ g.idr.HasClear)
  | .executePresentDisplayOnly .. => g.CreatedIn g.frameBuf
  | .setPointerPosition _ | .setPowerState .. => True

instance (g : Gpu) : (c : Callback) → Decidable (g.AtHand c)
  | .setCurrentMode .. => inferInstanceAs (Decidable (_ → _))
  | .setPointerShape .. => inferInstanceAs (Decidable (_ ∧ _))
  | .executePresentDisplayOnly .. => inferInstanceAs (Decidable (CreatedIn _ _))
  | .setPointerPosition _ | .setPowerState .. => isTrue trivial

theorem CreatedIn.of_some {g : Gpu} {obj : VioGpuObj} (h : g.CreatedIn (some obj)) :
    MadeSinceReset .create g.effects obj.number := by
  simpa [CreatedIn] using h

/-- Destroying an object gives its id back, so that there is one to take. -/
theorem InOrder.destroyObj {g g' : Gpu} {obj : VioGpuObj} {objs : List VioGpuObj} {t : Host}
    (h : InOrder g.idr (obj :: objs) g.objects g.effects t)
    (hcreated : MadeSinceReset .create g.effects obj.number) (hs : g.destroyObj obj = some g') :
    (∃ t', InOrder g'.idr objs g'.objects g'.effects t') ∧ g'.idr.HasClear := by
  obtain ⟨-, hlt, -, -⟩ := h.inUse obj List.mem_cons_self
  rw [destroyObj_eq hs]
  refine ⟨⟨_, h.destroy hcreated⟩, VioGpuIdr.hasClear_of_clear ?_ hlt ?_⟩
  · simpa using h.buffer
  · simp [VioGpuIdr.isSet_putId]

theorem CommandsInOrder.destroyFrameBuffer {g g' : Gpu} (h : g.CommandsInOrder)
    (hcreated : g.CreatedIn g.frameBuf) (hroom : g.frameBuf.isSome = true ∨ g.idr.HasClear)
    (hs : g.destroyFrameBuffer = some g') :
    g'.CommandsInOrder ∧ g'.frameBuf = none ∧ g'.idr.HasClear := by
  obtain ⟨t, h⟩ := h
  rcases destroyFrameBuffer_cases hs with ⟨hnone, rfl⟩ | ⟨obj, g₁, hobj, hdestroy, rfl⟩
  · exact ⟨⟨t, h⟩, hnone, hroom.resolve_left (by simp [hnone])⟩
  · rw [hobj] at hcreated
    have hlive : g.liveObjs = obj :: g.cursorBuf.toList := by simp [liveObjs, hobj]
    have hcursor : g₁.cursorBuf = g.cursorBuf := by rw [destroyObj_eq hdestroy]
    rw [hlive] at h
    obtain ⟨hinOrder, hclear⟩ := InOrder.destroyObj h hcreated.of_some hdestroy
    exact ⟨by simpa [CommandsInOrder, liveObjs, hcursor] using hinOrder, rfl, hclear⟩

theorem CommandsInOrder.destroyCursor {g g' : Gpu} (h : g.CommandsInOrder)
    (hcreated : g.CreatedIn g.cursorBuf) (hroom : g.cursorBuf.isSome = true ∨ g.idr.HasClear)
    (hs : g.destroyCursor = some g') :
    g'.CommandsInOrder ∧ g'.cursorBuf = none ∧ g'.idr.HasClear := by
  obtain ⟨t, h⟩ := h
  rcases destroyCursor_cases hs with ⟨hnone, rfl⟩ | ⟨obj, g₁, hobj, hdestroy, rfl⟩
  · exact ⟨⟨t, h⟩, hnone, hroom.resolve_left (by simp [hnone])⟩
  · rw [hobj] at hcreated
    have hlive : g.liveObjs.Perm (obj :: g.frameBuf.toList) := by
      simp [liveObjs, hobj]
    have hframe : g₁.frameBuf = g.frameBuf := by rw [destroyObj_eq hdestroy]
    obtain ⟨hinOrder, hclear⟩ := InOrder.destroyObj (h.perm hlive) hcreated.of_some hdestroy
    exact ⟨by simpa [CommandsInOrder, liveObjs, hframe] using hinOrder, rfl, hclear⟩

theorem CommandsInOrder.createFrameBuffer {g g' : Gpu} {m : VideoModeInformation} {a : Allocs}
    (h : g.CommandsInOrder) (hnone : g.frameBuf = none) (hclear : g.idr.HasClear)
    (hents : a.init.Succeeds → a.ents = true) (hs : g.createFrameBuffer m a = some g') :
    g'.CommandsInOrder := by
  obtain ⟨t, h⟩ := h
  rcases createFrameBuffer_cases hs with ⟨-, rfl⟩ | ⟨hok, obj, ⟨hnumber, hres, -⟩, -, rfl⟩
  · obtain ⟨hcreate, -⟩ := h.create (colorFormat g.mode.dispInfo.colorFormat)
      m.visScreenWidth m.visScreenHeight hclear
    have hdelete := hcreate.same (l := [.delete g.objects false]) (by simp [Host.effect])
      (by simp [Effect.makes]) (by simp)
    exact ⟨_, by simpa [liveObjs, hnone] using hdelete⟩
  · obtain ⟨hcreate, hne, hlt, hset, hother⟩ := h.create (colorFormat g.mode.dispInfo.colorFormat)
      m.visScreenWidth m.visScreenHeight hclear
    rw [hents hok, if_pos rfl] at hres
    rw [← hres] at hcreate hne hlt hset hother
    have hattach := hcreate.attach obj.sgList hne hlt hset (by omega) (by simp) hother
    have hshow := hattach.same (l := [
        .ctrl g.objects (.setScanout 0 obj.hwRes m.visScreenWidth m.visScreenHeight 0 0),
        .ctrl g.objects (.transferToHost2d obj.hwRes 0 m.visScreenWidth m.visScreenHeight 0 0),
        .ctrl g.objects (.resourceFlush obj.hwRes m.visScreenWidth m.visScreenHeight 0 0)])
      (by simp [Host.effect, Host.exec, hne]) (by simp [Effect.makes, Making.is]) (by simp)
    exact ⟨_, by simpa [liveObjs, hnone, hents hok, hnumber, ← hres] using hshow⟩

theorem CommandsInOrder.createCursor {g g' : Gpu} {shape : PointerShape} {a : Allocs} {ok : Bool}
    (h : g.CommandsInOrder) (hnone : g.cursorBuf = none) (hclear : g.idr.HasClear)
    (hs : g.createCursor shape a = some (ok, g')) : g'.CommandsInOrder := by
  obtain ⟨t, h⟩ := h
  obtain ⟨hcreate, hne, hlt, hset, hother⟩ := h.create virtioGpuFormatB8G8R8A8 pointerSize
    pointerSize hclear
  rcases createCursor_cases hs with ⟨-, -, rfl⟩ | ⟨-, -, -, obj, ⟨hnumber, hres, -⟩, rfl⟩
  · have hdelete := hcreate.same (l := [.delete g.objects false]) (by simp [Host.effect])
      (by simp [Effect.makes]) (by simp)
    exact ⟨_, by simpa [liveObjs, hnone] using hdelete⟩
  · rw [← hres] at hcreate hne hlt hset hother
    have hattach := hcreate.attach obj.sgList hne hlt hset (by omega) (by simp) hother
    have hfill := hattach.same (l := if ok then
        [.ctrl g.objects (.transferToHost2d obj.hwRes 0 shape.width shape.height 0 0)] else [])
      (by cases ok <;> simp [Host.effect, Host.exec, hne])
      (by cases ok <;> simp [Effect.makes, Making.is]) (by cases ok <;> simp)
    have hlive : (obj :: g.liveObjs).Perm (liveObjs { g with cursorBuf := some obj }) := by
      simpa [liveObjs, hnone] using (List.perm_append_singleton _ _).symm
    exact ⟨_, by simpa [liveObjs, hnumber, ← hres] using hfill.perm hlive⟩

/-- **One callback** keeps the commands in order, if what it needs is at hand. -/
theorem CommandsInOrder.callback {g g' : Gpu} {c : Callback} (h : g.CommandsInOrder)
    (hat : g.AtHand c) (hs : g.callback c = some g') : g'.CommandsInOrder := by
  cases c with
  | setCurrentMode modes mode a =>
    obtain ⟨⟨ok, g₂⟩, hset, rfl⟩ := Option.map_eq_some_iff.mp hs
    rcases setCurrentMode_cases hset with ⟨-, -, rfl⟩ | ⟨m, g₁, hfind, -, hdestroy, hcreate⟩
    · exact h
    · obtain ⟨hcreated, hroom, hents⟩ := hat (by simp [hfind])
      obtain ⟨h₁, hnone, hclear⟩ := h.destroyFrameBuffer hcreated hroom hdestroy
      exact CommandsInOrder.createFrameBuffer (g := g₁.clearMode) h₁ hnone hclear hents hcreate
  | setPointerShape shape a =>
    obtain ⟨hcreated, hroom⟩ := hat
    obtain ⟨g₁, ok, g₂, hdestroy, hcreate, hrest⟩ := setPointerShape_cases hs
    obtain ⟨h₁, hnone, hclear⟩ := h.destroyCursor hcreated hroom hdestroy
    obtain ⟨t, h₂⟩ := h₁.createCursor hnone hclear hcreate
    rcases hrest with ⟨-, rfl⟩ | ⟨-, obj, -, rfl⟩
    · exact ⟨t, h₂⟩
    · exact ⟨t, h₂.same (by simp [Host.effect]) (by simp [Effect.makes]) (by simp)⟩
  | setPointerPosition p =>
    obtain ⟨obj, x, y, -, rfl⟩ := setPointerPosition_cases hs
    obtain ⟨t, h⟩ := h
    exact ⟨t, h.same (by simp [Host.effect]) (by simp [Effect.makes]) (by simp)⟩
  | executePresentDisplayOnly bpp moves dirtyRects =>
    obtain ⟨obj, offset, width, height, x, y, hobj, rfl⟩ := executePresentDisplayOnly_cases hs
    obtain ⟨t, h⟩ := h
    have hmem : obj ∈ g.liveObjs := by simp [liveObjs, hobj]
    have hcreated : g.CreatedIn (some obj) := hobj ▸ hat
    have hbacked := h.backed obj hmem hcreated.of_some
    have hne := (h.inUse obj hmem).1
    have hshow := h.same (l := [
        .ctrl obj.number (.transferToHost2d obj.hwRes offset width height x y),
        .ctrl obj.number (.resourceFlush obj.hwRes width height x y)])
      (by simp [Host.effect, Host.exec, hne, hbacked]) (by simp [Effect.makes, Making.is]) (by simp)
    exact ⟨t, by simpa [emit, liveObjs] using hshow⟩
  | setPowerState state first second =>
    cases hs
    have hpower : ∀ (g : Gpu) init,
        g.CommandsInOrder → (g.setPowerState state init).CommandsInOrder := by
      rintro g init ⟨t, hg⟩
      obtain ⟨l, hl, heq⟩ := setPowerState_eq g state init
      rw [heq]
      exact hg.power hl
    exact hpower _ second (hpower g first h)

end Gpu

/-! ## Runs -/

def Effect.Essential : Effect → Prop
  | .ctrl _ c => Host.Essential c
  | .cursor .. | .getId _ | .putId .. | .delete .. | .reset | .setQueues _ => False

instance : (e : Effect) → Decidable e.Essential
  | .ctrl _ c => inferInstanceAs (Decidable (Host.Essential c))
  | .cursor .. | .getId _ | .putId .. | .delete .. | .reset | .setQueues _ => isFalse id

namespace Adapter

/-- The commands in the control ring are well formed for a host that processes them in
order. -/
def WellFormed (s : Adapter) : Prop := Host.WellFormed (s.ctrl.map Prod.snd)

/-- Each callback has what it needs at hand, and no `CREATE_2D`, `ATTACH_BACKING` or `UNREF` is
left out of the ring. -/
def NothingMissing (s : Adapter) : AdapterEvent → Prop
  | .call c => s.gpu.AtHand c
  | .perform entered => s.todo.head?.any (fun e => decide e.Essential) = true → entered = true
  | .hostCtrl | .hostCursor => True

instance (s : Adapter) : (e : AdapterEvent) → Decidable (s.NothingMissing e)
  | .call c => inferInstanceAs (Decidable (s.gpu.AtHand c))
  | .perform _ => inferInstanceAs (Decidable (_ → _))
  | .hostCtrl | .hostCursor => isTrue trivial

/-- The ring leaves the host a table with at least the backing that the effects so far leave. -/
structure HostInv (s : Adapter) : Prop where
  driver : s.gpu.CommandsInOrder
  ring : ∃ done t t', s.gpu.effects = done ++ s.todo ∧
    done.foldlM Host.effect Host.empty = some t ∧
    (s.ctrl.map Prod.snd).foldlM Host.exec Host.empty = some t' ∧ Host.LessBacked t t'

theorem HostInv.wellFormed {s : Adapter} (h : s.HostInv) : s.WellFormed := by
  obtain ⟨done, t, t', -, -, hring, -⟩ := h.ring
  rw [WellFormed, Host.WellFormed, hring]
  rfl

theorem HostInv.call {s s' : Adapter} {c : Callback} (h : s.HostInv) (hat : s.gpu.AtHand c)
    (hs : s.step (.call c) = some s') : s'.HostInv := by
  obtain ⟨htodo, g, l, hg, hl, rfl⟩ := step_call hs
  obtain ⟨done, t, t', heffects, hdone, hring, hless⟩ := h.ring
  refine ⟨h.driver.callback hat hg, done, t, t', ?_, hdone, hring, hless⟩
  rw [htodo, List.append_nil] at heffects
  rw [hl, heffects]

/-- The host is given the next effect, or the ring goes without it. -/
theorem HostInv.perform {s s' : Adapter} {entered : Bool} (h : s.HostInv)
    (hP : s.NothingMissing (.perform entered)) (hs : s.step (.perform entered) = some s') :
    s'.HostInv := by
  obtain ⟨e, todo, htodo, hperform⟩ := step_perform hs
  obtain ⟨done, t, t', heffects, hdone, hring, hless⟩ := h.ring
  obtain ⟨u, hall⟩ := h.driver
  have hsplit : s.gpu.effects = (done ++ [e]) ++ todo := by
    rw [heffects, htodo]
    simp
  -- the effect is in order, since all of them are
  obtain ⟨t₁, he⟩ : ∃ t₁, Host.effect t e = some t₁ := by
    have htable := hall.table
    rw [heffects, htodo, List.foldlM_append, hdone, Option.bind_eq_bind, Option.bind_some,
      List.foldlM_cons] at htable
    obtain ⟨t₁, he, -⟩ := Option.bind_eq_some_iff.mp htable
    exact ⟨t₁, he⟩
  have hdone' : (done ++ [e]).foldlM Host.effect Host.empty = some t₁ := by
    rw [List.foldlM_append, hdone]
    simp [he]
  cases e with
  | ctrl n c =>
    cases perform_ctrl hperform
    cases entered with
    | true =>
      obtain ⟨t₁', he', hless'⟩ := Host.exec_lessBacked hless he
      refine ⟨⟨u, hall⟩, done ++ [.ctrl n c], t₁, t₁', hsplit, hdone', ?_, hless'⟩
      rw [if_pos rfl, List.map_append, List.foldlM_append, hring]
      simp [he']
    | false =>
      have hmissing : ¬Host.Essential c := by
        intro hessential
        refine absurd (hP ?_) (by simp)
        rw [htodo]
        exact decide_eq_true (p := (Effect.ctrl n c).Essential) hessential
      refine ⟨⟨u, hall⟩, done ++ [.ctrl n c], t₁, t', hsplit, hdone', ?_,
        (Host.exec_missing he hmissing).trans hless⟩
      simpa using hring
  | cursor n c =>
    cases perform_cursor hperform
    cases he
    exact ⟨⟨u, hall⟩, _, _, t', hsplit, hdone', hring, hless⟩
  | getId id =>
    cases hperform
    cases he
    exact ⟨⟨u, hall⟩, _, _, t', hsplit, hdone', hring, hless⟩
  | putId id wasSet =>
    cases hperform
    cases he
    exact ⟨⟨u, hall⟩, _, _, t', hsplit, hdone', hring, hless⟩
  | delete n destroyed =>
    cases hperform
    cases he
    exact ⟨⟨u, hall⟩, _, _, t', hsplit, hdone', hring, hless⟩
  | reset =>
    cases hperform
    cases he
    exact ⟨⟨u, hall⟩, _, _, Host.empty, hsplit, hdone', rfl, .refl _⟩
  | setQueues up =>
    cases hperform
    cases he
    exact ⟨⟨u, hall⟩, _, _, t', hsplit, hdone', hring, hless⟩

theorem HostInv.step {s s' : Adapter} {e : AdapterEvent} (h : s.HostInv)
    (hP : s.NothingMissing e) (hs : s.step e = some s') : s'.HostInv := by
  cases e with
  | call c => exact h.call hP hs
  | perform entered => exact h.perform hP hs
  | hostCtrl =>
    obtain ⟨-, rfl⟩ := step_hostCtrl hs
    exact ⟨h.driver, h.ring⟩
  | hostCursor =>
    obtain ⟨n, c, -, rfl⟩ := step_hostCursor hs
    exact ⟨h.driver, h.ring⟩

/-- **The control ring.** In every run in which nothing is missing, the commands that have
entered the control ring since the last reset are well formed. -/
theorem ring_wellFormed (mode : CurrentBddMode) {s : Adapter}
    (h : (system mode).ReachableUnder NothingMissing s) : s.WellFormed := by
  have hstart : (start mode).HostInv :=
    ⟨⟨_, InOrder.init⟩, [], _, _, rfl, rfl, rfl, .refl _⟩
  exact (h.induct HostInv hstart fun _ _ _ hInv hP hs => hInv.step hP hs).wellFormed

/-- A mode change, two pointer shapes and a present. The `DETACH_BACKING` for the first shape
finds no room in the ring. -/
def shapesAndPresent : List AdapterEvent :=
  .call (.setCurrentMode oneMode 0 allocated) :: List.replicate 6 (.perform true) ++
    .call (.setPointerShape arrow allocated) :: List.replicate 5 (.perform true) ++
    .call (.setPointerShape arrow allocated) :: .perform false :: List.replicate 8 (.perform true) ++
    .call (.executePresentDisplayOnly 32 [] [⟨0, 0, 8, 8⟩]) :: List.replicate 2 (.perform true)

theorem ring_wellFormed_shapesAndPresent :
    ∃ s, (system firstMode).runUnder NothingMissing shapesAndPresent = some s ∧
      s.ctrl.length = 14 ∧ s.WellFormed := by
  have h : ∀ s, (system firstMode).runUnder NothingMissing shapesAndPresent = some s →
      s.WellFormed := fun s hs => ring_wellFormed firstMode (System.reachable_of_run hs)
  exact ⟨_, rfl, rfl, h _ rfl⟩

/-- The entries of the frame buffer cannot be allocated: `SET_SCANOUT` names a resource without
backing. -/
def entriesFail : List AdapterEvent :=
  .call (.setCurrentMode oneMode 0 { allocated with ents := false }) ::
    List.replicate 3 (.perform true)

theorem not_always_wellFormed :
    ¬∀ mode s, (system mode).Reachable s → s.WellFormed := by
  intro h
  have hrun : ∃ s, (system firstMode).run entriesFail = some s ∧
      (s.ctrl.map Prod.snd).foldlM Host.exec Host.empty = none := ⟨_, rfl, rfl⟩
  obtain ⟨s, hs, hring⟩ := hrun
  have hwell := h firstMode s (System.reachable_of_run hs)
  rw [WellFormed, Host.WellFormed, hring] at hwell
  cases hwell

end Adapter

end VioGpu.Device
