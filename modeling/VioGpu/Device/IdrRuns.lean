import Mathlib.Data.List.Nodup
import Mathlib.Data.List.Perm.Subperm
import VioGpu.Device.Callbacks

/-!
# Resource ids over runs of the driver

An id is taken from `m_Idr` before the object it is for exists, and it is given back through
the object. As long as every creation succeeds, the ids in use are those of the two live
objects and the reserved id 0 (`idsAccounted`). A creation that fails keeps its id, and a
frame buffer whose entries could not be allocated gives back id 0.
-/

namespace VioGpu.Device

open Lib Queue

/-- One call of `GetId` or `PutId`, given the ids that `GetId` returned and that were not put
back since. `none` if `GetId` returns 0 or an id it has given before, or if `PutId` is called
with an id that is not one of these or is not marked used. -/
def idCall (out : List Nat) : Effect → Option (List Nat)
  | .getId id => if id ≠ 0 ∧ id ∉ out then some (id :: out) else none
  | .putId id wasSet => if wasSet = true ∧ id ∈ out then some (out.erase id) else none
  | .ctrl .. | .cursor .. | .delete .. | .reset | .setQueues _ => some out

def Effect.IsIdCall : Effect → Prop
  | .getId _ | .putId .. => True
  | .ctrl .. | .cursor .. | .delete .. | .reset | .setQueues _ => False

namespace Gpu

/-- The ids of `m_pFrameBuf` and `m_pCursorBuf`. -/
def liveIds (g : Gpu) : List Nat := g.liveObjs.map (·.hwRes)

/-- The ids marked used are 0 and those of the live objects, which are different and not 0,
and every call of `GetId` and `PutId` so far was in order. -/
structure IdsAccounted (g : Gpu) : Prop where
  used : ∀ id, g.idr.isSet id = true ↔ id = 0 ∨ id ∈ g.liveIds
  nonzero : 0 ∉ g.liveIds
  distinct : g.liveIds.Nodup
  calls : (g.effects.foldlM idCall []).isSome = true

/-- Every step of the creation in this callback succeeds, if there is one. -/
def CreationSucceeds (_ : Gpu) : Callback → Prop
  | .setCurrentMode modes mode a =>
    (modes.find? (·.modeNumber = mode)).isSome = true → a.init.Succeeds ∧ a.ents = true
  | .setPointerShape _ a => a.init.Succeeds ∧ a.ents = true
  | .setPointerPosition _ | .executePresentDisplayOnly .. | .setPowerState .. => True

instance (g : Gpu) : (c : Callback) → Decidable (g.CreationSucceeds c)
  | .setCurrentMode .. => inferInstanceAs (Decidable (_ → _))
  | .setPointerShape .. => inferInstanceAs (Decidable (_ ∧ _))
  | .setPointerPosition _ | .executePresentDisplayOnly .. | .setPowerState .. => isTrue trivial

end Gpu

/-! ## The ids one by one -/

/-- `ids` are the ids in use, apart from 0, after these effects. -/
structure IdsInUse (idr : VioGpuIdr) (ids : List Nat) (effects : List Effect) : Prop where
  buffer : idr.buffer.isSome = true
  used : ∀ id, idr.isSet id = true ↔ id = 0 ∨ id ∈ ids
  nonzero : 0 ∉ ids
  distinct : ids.Nodup
  calls : ∃ out, effects.foldlM idCall [] = some out ∧ out.Perm ids

theorem foldlM_idCall_of_plain {l : List Effect} (h : ∀ e ∈ l, ¬e.IsIdCall) (out : List Nat) :
    l.foldlM idCall out = some out := by
  induction l with
  | nil => rfl
  | cons e l ih =>
    have he : idCall out e = some out := by
      have := h e List.mem_cons_self
      cases e <;> simp_all [Effect.IsIdCall, idCall]
    rw [List.foldlM_cons, he]
    exact ih fun e' he' => h e' (List.mem_cons_of_mem e he')

namespace IdsInUse

variable {idr : VioGpuIdr} {ids : List Nat} {effects l : List Effect}

theorem init : IdsInUse (.init 1) [] [] where
  buffer := rfl
  used id := by
    rw [VioGpuIdr.isSet_init]
    simp only [decide_eq_true_eq, List.not_mem_nil, or_false]
    omega
  nonzero := by simp
  distinct := .nil
  calls := ⟨[], rfl, .nil⟩

theorem perm {ids' : List Nat} (h : IdsInUse idr ids effects) (hp : ids.Perm ids') :
    IdsInUse idr ids' effects where
  buffer := h.buffer
  used id := by rw [h.used, hp.mem_iff]
  nonzero := fun h0 => h.nonzero (hp.mem_iff.mpr h0)
  distinct := hp.nodup_iff.mp h.distinct
  calls := by
    obtain ⟨out, hcalls, hout⟩ := h.calls
    exact ⟨out, hcalls, hout.trans hp⟩

theorem plain (h : IdsInUse idr ids effects) (hl : ∀ e ∈ l, ¬e.IsIdCall) :
    IdsInUse idr ids (effects ++ l) where
  buffer := h.buffer
  used := h.used
  nonzero := h.nonzero
  distinct := h.distinct
  calls := by
    obtain ⟨out, hcalls, hout⟩ := h.calls
    refine ⟨out, ?_, hout⟩
    rw [List.foldlM_append, hcalls]
    exact foldlM_idCall_of_plain hl out

/-- With fewer ids in use than there are, `GetId` finds one. -/
theorem hasClear (h : IdsInUse idr ids effects) (hlen : ids.length + 1 < VioGpuIdr.sizeOfBitMap) :
    idr.HasClear := by
  by_contra hfull
  have hall : List.range' 1 (VioGpuIdr.sizeOfBitMap - 1) ⊆ ids := by
    intro id hid
    rw [List.mem_range'_1] at hid
    by_contra hnot
    have hclear : idr.isSet id = false := by
      rw [Bool.eq_false_iff, Ne, h.used]
      rintro (rfl | hmem)
      · omega
      · exact hnot hmem
    exact hfull (VioGpuIdr.hasClear_of_clear h.buffer (by omega) hclear)
  have hle := (List.subperm_of_subset List.nodup_range' hall).length_le
  rw [List.length_range'] at hle
  omega

theorem getId (h : IdsInUse idr ids effects) (hclear : idr.HasClear) :
    IdsInUse idr.getId.2 (idr.getId.1 :: ids) (effects ++ [.getId idr.getId.1]) := by
  obtain ⟨id, idr', heq, -, hunset, -, hset⟩ := VioGpuIdr.getId_spec hclear
  have hbuf := VioGpuIdr.buffer_getId h.buffer
  rw [heq] at hbuf ⊢
  have hfresh : ¬(id = 0 ∨ id ∈ ids) := by
    rw [← h.used, hunset]
    simp
  obtain ⟨h0, hnot⟩ := not_or.mp hfresh
  refine ⟨hbuf, ?_, ?_, ?_, ?_⟩
  · intro j
    rw [hset, Bool.or_eq_true, h.used, decide_eq_true_iff, List.mem_cons]
    tauto
  · rw [List.mem_cons, not_or]
    exact ⟨Ne.symm h0, h.nonzero⟩
  · exact List.nodup_cons.mpr ⟨hnot, h.distinct⟩
  · obtain ⟨out, hcalls, hout⟩ := h.calls
    refine ⟨id :: out, ?_, hout.cons id⟩
    rw [List.foldlM_append, hcalls]
    simp [idCall, h0, hout.mem_iff, hnot]

theorem putId {id : Nat} (h : IdsInUse idr (id :: ids) effects) :
    IdsInUse (idr.putId id) ids (effects ++ [.putId id (idr.isSet id)]) := by
  obtain ⟨hnot, hdistinct⟩ := List.nodup_cons.mp h.distinct
  have hnonzero := h.nonzero
  rw [List.mem_cons, not_or] at hnonzero
  refine ⟨by simpa using h.buffer, ?_, hnonzero.2, hdistinct, ?_⟩
  · intro j
    rw [VioGpuIdr.isSet_putId, Bool.and_eq_true, h.used, decide_eq_true_iff, List.mem_cons]
    constructor
    · rintro ⟨h0 | heq | hmem, hne⟩
      · exact .inl h0
      · exact absurd heq hne
      · exact .inr hmem
    · rintro (rfl | hmem)
      · exact ⟨.inl rfl, hnonzero.1⟩
      · exact ⟨.inr (.inr hmem), fun heq => hnot (heq ▸ hmem)⟩
  · obtain ⟨out, hcalls, hout⟩ := h.calls
    have hset : idr.isSet id = true := (h.used id).mpr (.inr List.mem_cons_self)
    have hmem : id ∈ out := hout.mem_iff.mpr List.mem_cons_self
    refine ⟨out.erase id, ?_, ?_⟩
    · rw [List.foldlM_append, hcalls]
      simp [idCall, hset, hmem]
    · exact (hout.erase id).trans (by rw [List.erase_cons_head])

end IdsInUse

/-! ## The callbacks -/

namespace Gpu

/-- The ids in use are those of the live objects. -/
def Inv (g : Gpu) : Prop := IdsInUse g.idr g.liveIds g.effects

theorem Inv.toAccounted {g : Gpu} (h : g.Inv) : g.IdsAccounted where
  used := h.used
  nonzero := h.nonzero
  distinct := h.distinct
  calls := by
    obtain ⟨out, hcalls, -⟩ := h.calls
    rw [hcalls]
    rfl

theorem Inv.hasClear {g : Gpu} (h : g.Inv) : g.idr.HasClear := by
  apply IdsInUse.hasClear h
  have hlen : g.liveIds.length ≤ 2 := by
    unfold liveIds liveObjs
    cases g.frameBuf <;> cases g.cursorBuf <;> simp
  have hsize : VioGpuIdr.sizeOfBitMap = 32768 := rfl
  omega

/-- The bit of the id that `GetId` takes is set afterwards and was clear before. -/
theorem Inv.fresh {g : Gpu} (h : g.Inv) :
    g.idr.getId.2.isSet g.idr.getId.1 = true ∧ g.idr.getId.1 ≠ 0 ∧ g.idr.getId.1 ∉ g.liveIds := by
  have hget := h.getId h.hasClear
  obtain ⟨hnot, -⟩ := List.nodup_cons.mp hget.distinct
  refine ⟨(hget.used _).mpr (.inr List.mem_cons_self), ?_, hnot⟩
  intro h0
  exact hget.nonzero (h0 ▸ List.mem_cons_self)

theorem Inv.destroyObj {g g' : Gpu} {obj : VioGpuObj} {ids : List Nat}
    (h : IdsInUse g.idr (obj.hwRes :: ids) g.effects) (hs : g.destroyObj obj = some g') :
    IdsInUse g'.idr ids g'.effects := by
  rw [destroyObj_eq hs]
  have hplain := h.plain (l := [.ctrl obj.number (.resourceDetachBacking obj.hwRes),
    .ctrl obj.number (.resourceUnref obj.hwRes), .delete obj.number true])
    (by simp [Effect.IsIdCall])
  simpa using hplain.putId

theorem Inv.destroyFrameBuffer {g g' : Gpu} (h : g.Inv) (hs : g.destroyFrameBuffer = some g') :
    g'.Inv ∧ g'.frameBuf = none := by
  rcases destroyFrameBuffer_cases hs with ⟨hnone, rfl⟩ | ⟨obj, g₁, hobj, hdestroy, rfl⟩
  · exact ⟨h, hnone⟩
  · refine ⟨?_, rfl⟩
    have hids : g.liveIds = obj.hwRes :: (g.cursorBuf.toList).map (·.hwRes) := by
      simp [liveIds, liveObjs, hobj]
    have hcursor : g₁.cursorBuf = g.cursorBuf := by rw [destroyObj_eq hdestroy]
    rw [Inv, hids] at h
    simpa [Inv, liveIds, liveObjs, hcursor] using Inv.destroyObj h hdestroy

theorem Inv.destroyCursor {g g' : Gpu} (h : g.Inv) (hs : g.destroyCursor = some g') :
    g'.Inv ∧ g'.cursorBuf = none := by
  rcases destroyCursor_cases hs with ⟨hnone, rfl⟩ | ⟨obj, g₁, hobj, hdestroy, rfl⟩
  · exact ⟨h, hnone⟩
  · refine ⟨?_, rfl⟩
    have hids : g.liveIds.Perm (obj.hwRes :: (g.frameBuf.toList).map (·.hwRes)) := by
      simp [liveIds, liveObjs, hobj]
    have hframe : g₁.frameBuf = g.frameBuf := by rw [destroyObj_eq hdestroy]
    simpa [Inv, liveIds, liveObjs, hframe] using Inv.destroyObj (IdsInUse.perm h hids) hdestroy

/-- A creation of the frame buffer is accounted for exactly when all its steps succeed. -/
theorem Inv.createFrameBuffer {g g' : Gpu} {m : VideoModeInformation} {a : Allocs} (h : g.Inv)
    (hnone : g.frameBuf = none) (hs : g.createFrameBuffer m a = some g') :
    (a.init.Succeeds ∧ a.ents = true → g'.Inv) ∧
      (g'.IdsAccounted → a.init.Succeeds ∧ a.ents = true) := by
  obtain ⟨hset, hne, hnot⟩ := h.fresh
  rcases createFrameBuffer_cases hs with ⟨hfail, rfl⟩ | ⟨hok, obj, ⟨-, hres, -⟩, -, rfl⟩
  · refine ⟨fun hboth => absurd hboth.1 hfail, fun hacc => ?_⟩
    rcases (hacc.used _).mp hset with h0 | hmem
    · exact absurd h0 hne
    · exact absurd hmem hnot
  · cases hents : a.ents with
    | false =>
      refine ⟨by simp, fun hacc => ?_⟩
      refine absurd ?_ hacc.nonzero
      simp [liveIds, liveObjs, hres, hents]
    | true =>
      refine ⟨fun _ => ?_, fun _ => ⟨hok, rfl⟩⟩
      have hget := (h.getId h.hasClear).plain (l := [
        .ctrl g.objects (.resourceCreate2d g.idr.getId.1
          (colorFormat g.mode.dispInfo.colorFormat) m.visScreenWidth m.visScreenHeight),
        .ctrl g.objects (.resourceAttachBacking g.idr.getId.1 obj.sgList),
        .ctrl g.objects (.setScanout 0 g.idr.getId.1 m.visScreenWidth m.visScreenHeight 0 0),
        .ctrl g.objects (.transferToHost2d g.idr.getId.1 0 m.visScreenWidth m.visScreenHeight 0 0),
        .ctrl g.objects (.resourceFlush g.idr.getId.1 m.visScreenWidth m.visScreenHeight 0 0)])
        (by simp [Effect.IsIdCall])
      simpa [Inv, liveIds, liveObjs, hnone, hres, hents] using hget

theorem Inv.createCursor {g g' : Gpu} {shape : PointerShape} {a : Allocs} {ok : Bool} (h : g.Inv)
    (hnone : g.cursorBuf = none) (hs : g.createCursor shape a = some (ok, g')) :
    (a.init.Succeeds ∧ a.ents = true → g'.Inv) ∧
      ((∀ id, g'.idr.isSet id = true ↔ id = 0 ∨ id ∈ g'.liveIds) →
        a.init.Succeeds ∧ a.ents = true) := by
  obtain ⟨hset, hne, hnot⟩ := h.fresh
  rcases createCursor_cases hs with ⟨hfail, -, rfl⟩ | ⟨hok, hents, -, obj, ⟨-, hres, -⟩, rfl⟩
  · refine ⟨fun hboth => absurd hboth hfail, fun hused => ?_⟩
    rcases (hused _).mp hset with h0 | hmem
    · exact absurd h0 hne
    · exact absurd hmem hnot
  · refine ⟨fun _ => ?_, fun _ => ⟨hok, hents⟩⟩
    have hget := (h.getId h.hasClear).plain (l := [
      .ctrl g.objects (.resourceCreate2d g.idr.getId.1 virtioGpuFormatB8G8R8A8 pointerSize
        pointerSize),
      .ctrl g.objects (.resourceAttachBacking g.idr.getId.1 obj.sgList)] ++
      (if ok then [.ctrl g.objects (.transferToHost2d g.idr.getId.1 0 shape.width shape.height 0 0)]
        else [])) (by cases ok <;> simp [Effect.IsIdCall])
    have hids : (g.idr.getId.1 :: g.liveIds).Perm (liveIds { g with cursorBuf := some obj }) := by
      simpa [liveIds, liveObjs, hnone, hres] using (List.perm_append_singleton _ _).symm
    simpa [Inv, liveIds, liveObjs] using hget.perm hids

theorem Inv.emit {g : Gpu} {e : Effect} (h : g.Inv) (he : ¬e.IsIdCall) : (g.emit e).Inv :=
  IdsInUse.plain h (by simpa using he)

/-- **One callback.** From a state in which the ids are accounted for, a callback leads to such
a state exactly when every step of its creation succeeds. -/
theorem Inv.callback {g g' : Gpu} {c : Callback} (h : g.Inv) (hs : g.callback c = some g') :
    (g.CreationSucceeds c → g'.Inv) ∧ (g'.IdsAccounted → g.CreationSucceeds c) := by
  cases c with
  | setCurrentMode modes mode a =>
    obtain ⟨⟨ok, g₂⟩, hset, rfl⟩ := Option.map_eq_some_iff.mp hs
    rcases setCurrentMode_cases hset with ⟨hfind, -, rfl⟩ | ⟨m, g₁, hfind, -, hdestroy, hcreate⟩
    · exact ⟨fun _ => h, fun _ => by simp [CreationSucceeds, hfind]⟩
    · obtain ⟨hInv, hnone⟩ := h.destroyFrameBuffer hdestroy
      obtain ⟨hto, hof⟩ := Inv.createFrameBuffer (g := g₁.clearMode) hInv hnone hcreate
      simp only [CreationSucceeds, hfind, Option.isSome_some, true_implies]
      exact ⟨hto, hof⟩
  | setPointerShape shape a =>
    obtain ⟨g₁, ok, g₂, hdestroy, hcreate, hrest⟩ := setPointerShape_cases hs
    obtain ⟨hInv, hnone⟩ := h.destroyCursor hdestroy
    obtain ⟨hto, hof⟩ := hInv.createCursor hnone hcreate
    rcases hrest with ⟨-, rfl⟩ | ⟨-, obj, -, rfl⟩
    · exact ⟨hto, fun hacc => hof hacc.used⟩
    · exact ⟨fun hok => (hto hok).emit (by simp [Effect.IsIdCall]), fun hacc => hof hacc.used⟩
  | setPointerPosition p =>
    obtain ⟨obj, x, y, -, rfl⟩ := setPointerPosition_cases hs
    exact ⟨fun _ => h.emit (by simp [Effect.IsIdCall]), fun _ => trivial⟩
  | executePresentDisplayOnly bpp moves dirtyRects =>
    obtain ⟨obj, _, _, _, _, _, -, rfl⟩ := executePresentDisplayOnly_cases hs
    refine ⟨fun _ => ?_, fun _ => trivial⟩
    exact (h.emit (by simp [Effect.IsIdCall])).emit (by simp [Effect.IsIdCall])
  | setPowerState state first second =>
    cases hs
    refine ⟨fun _ => ?_, fun _ => trivial⟩
    have hpower : ∀ (g : Gpu) init, g.Inv → (g.setPowerState state init).Inv := by
      intro g init hg
      obtain ⟨l, hl, heq⟩ := setPowerState_eq g state init
      rw [heq]
      refine IdsInUse.plain hg fun e he => ?_
      rcases hl e he with rfl | ⟨up, rfl⟩ <;> simp [Effect.IsIdCall]
    exact hpower _ second (hpower g first h)

/-- **Ids over a run.** In every run in which every creation succeeds, the ids in use are 0 and
those of the live objects, and no call of `GetId` or `PutId` is out of order. -/
theorem idsAccounted (mode : CurrentBddMode) {g : Gpu}
    (h : (system mode).ReachableUnder CreationSucceeds g) : g.IdsAccounted := by
  have hstart : (start mode).Inv := IdsInUse.init
  have hInv : g.Inv := h.induct Inv hstart fun _ _ _ hg hok hs => (hg.callback hs).1 hok
  exact hInv.toAccounted

/-! ## Two fixed runs -/

/-- A mode change and two pointer shapes. -/
def modeAndShapes : List Callback :=
  [.setCurrentMode oneMode 0 allocated, .setPointerShape arrow allocated,
    .setCurrentMode oneMode 0 allocated, .setPointerShape arrow allocated,
    .setPointerPosition ⟨true, 5, 5⟩]

theorem idsAccounted_modeAndShapes :
    ∃ g, (system firstMode).runUnder CreationSucceeds modeAndShapes = some g ∧
      g.liveIds = [1, 2] ∧ g.IdsAccounted := by
  have h : ∀ g, (system firstMode).runUnder CreationSucceeds modeAndShapes = some g →
      g.IdsAccounted := fun g hg => idsAccounted firstMode (System.reachable_of_run hg)
  exact ⟨_, rfl, rfl, h _ rfl⟩

/-- The memory of the frame buffer cannot be allocated: its id stays in use. -/
theorem not_always_idsAccounted :
    ¬∀ mode g, (system mode).Reachable g → g.IdsAccounted := by
  intro h
  have hrun : ∃ g, (system firstMode).run [.setCurrentMode oneMode 0 ⟨true, .noMemory, true⟩] =
      some g ∧ g.idr.isSet 1 = true ∧ g.liveIds = [] := ⟨_, rfl, rfl, rfl⟩
  obtain ⟨g, hg, hset, hlive⟩ := hrun
  have hused := ((h firstMode g (System.reachable_of_run hg)).used 1).mp hset
  simp [hlive] at hused

end Gpu

end VioGpu.Device
