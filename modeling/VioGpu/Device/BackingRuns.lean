import VioGpu.Device.Adapter

/-!
# The memory behind the resources

The host reads the memory of an object from its `ATTACH_BACKING` on until it has processed a
`DETACH_BACKING` for the resource. `DestroyFrameBuffer` and `DestroyCursor` queue that command
and delete the object at once. The deletions are safe in every run in which the host happens
to be that fast (`deleted_released`); those on the failure paths always are, since no
`ATTACH_BACKING` was queued for the object, and an object that was deleted is not attached
again.
-/

namespace VioGpu.Device

open Lib Queue

/-! ## Attachments and deletions in the history -/

/-- The object is deleted. -/
def Effect.deletes (n : Nat) : Effect → Bool
  | .delete m _ => m = n
  | .ctrl .. | .cursor .. | .getId _ | .putId .. | .reset | .setQueues _ => false

/-- No object is attached after its deletion, none of those deleted on a failure path is
attached at all, and only objects below `count` occur. -/
structure Attached (objs : List VioGpuObj) (count : Nat) (effects : List Effect) : Prop where
  order : effects.Pairwise fun e e' => ∀ n, e.deletes n = true → e'.makes .attach n = false
  discarded : ∀ n, .delete n false ∈ effects → ∀ e ∈ effects, e.makes .attach n = false
  fresh : ∀ e ∈ effects, ∀ n, e.makes .attach n = true ∨ e.deletes n = true → n < count
  live : ∀ obj ∈ objs, obj.number < count

namespace Attached

variable {objs objs' : List VioGpuObj} {count count' : Nat} {effects l : List Effect}

theorem init : Attached [] 0 [] := ⟨.nil, by simp, by simp, by simp⟩

/-- The effects of one function: it attaches and discards only the object it has made, and
deletes none that it attaches. -/
theorem append (h : Attached objs count effects) (hcount : count ≤ count')
    (hattach : ∀ e ∈ l, ∀ n, e.makes .attach n = true → n = count ∧ count < count')
    (hdelete : ∀ e ∈ l, ∀ n, e.deletes n = true → n < count')
    (hboth : ∀ e ∈ l, ∀ e' ∈ l, ∀ n, e.deletes n = true → e'.makes .attach n = false)
    (hdiscard : ∀ n, .delete n false ∈ l → n = count)
    (hlive : ∀ obj ∈ objs', obj.number < count') : Attached objs' count' (effects ++ l) where
  order := by
    refine List.pairwise_append.mpr ⟨h.order, ?_, ?_⟩
    · exact List.pairwise_of_forall_mem_list fun e he e' he' => hboth e he e' he'
    · intro e he e' he' n hdel
      by_contra hatt
      have hn := (hattach e' he' n (by simpa using hatt)).1
      have hlt := h.fresh e he n (.inr hdel)
      omega
  discarded n hn e he := by
    by_contra hatt
    rw [Bool.not_eq_false] at hatt
    rcases List.mem_append.mp hn with hold | hnew
    · have hlt := h.fresh _ hold n (.inr (by simp [Effect.deletes]))
      rcases List.mem_append.mp he with he | he
      · simp [h.discarded n hold e he] at hatt
      · have hn := (hattach e he n hatt).1
        omega
    · have hdisc := hdiscard n hnew
      rcases List.mem_append.mp he with he | he
      · have hlt := h.fresh e he n (.inl hatt)
        omega
      · simp [hboth _ hnew e he n (by simp [Effect.deletes])] at hatt
  fresh e he n hn := by
    rcases List.mem_append.mp he with he | he
    · exact Nat.lt_of_lt_of_le (h.fresh e he n hn) hcount
    · rcases hn with hatt | hdel
      · obtain ⟨rfl, hlt⟩ := hattach e he n hatt
        exact hlt
      · exact hdelete e he n hdel
  live := hlive

/-- Effects without attachments and deletions. -/
theorem same (h : Attached objs count effects)
    (hl : ∀ e ∈ l, ∀ n, e.makes .attach n = false ∧ e.deletes n = false) :
    Attached objs count (effects ++ l) := by
  refine h.append (Nat.le_refl _) ?_ ?_ ?_ ?_ h.live
  · intro e he n hatt
    simp [(hl e he n).1] at hatt
  · intro e he n hdel
    simp [(hl e he n).2] at hdel
  · exact fun _ _ e' he' n _ => (hl e' he' n).1
  · intro n hn
    simpa [Effect.deletes] using (hl _ hn n).2

end Attached

/-! ## The callbacks -/

namespace Gpu

def AttachedInOrder (g : Gpu) : Prop := Attached g.liveObjs g.objects g.effects

theorem AttachedInOrder.destroyObj {g g' : Gpu} {obj : VioGpuObj} {objs : List VioGpuObj}
    (h : Attached (obj :: objs) g.objects g.effects) (hs : g.destroyObj obj = some g') :
    Attached objs g'.objects g'.effects := by
  have hnumber := h.live obj List.mem_cons_self
  rw [destroyObj_eq hs]
  refine h.append (Nat.le_refl _) ?_ ?_ ?_ ?_ fun o ho => h.live o (List.mem_cons_of_mem _ ho)
  · simp [Effect.makes, Making.is]
  · simpa [Effect.deletes] using hnumber
  · simp [Effect.makes, Effect.deletes, Making.is]
  · simp

theorem AttachedInOrder.destroyFrameBuffer {g g' : Gpu} (h : g.AttachedInOrder)
    (hs : g.destroyFrameBuffer = some g') : g'.AttachedInOrder ∧ g'.frameBuf = none := by
  rcases destroyFrameBuffer_cases hs with ⟨hnone, rfl⟩ | ⟨obj, g₁, hobj, hdestroy, rfl⟩
  · exact ⟨h, hnone⟩
  · have hlive : g.liveObjs = obj :: g.cursorBuf.toList := by simp [liveObjs, hobj]
    have hcursor : g₁.cursorBuf = g.cursorBuf := by rw [destroyObj_eq hdestroy]
    rw [AttachedInOrder, hlive] at h
    exact ⟨by simpa [AttachedInOrder, liveObjs, hcursor] using destroyObj h hdestroy, rfl⟩

theorem AttachedInOrder.destroyCursor {g g' : Gpu} (h : g.AttachedInOrder)
    (hs : g.destroyCursor = some g') : g'.AttachedInOrder ∧ g'.cursorBuf = none := by
  rcases destroyCursor_cases hs with ⟨hnone, rfl⟩ | ⟨obj, g₁, hobj, hdestroy, rfl⟩
  · exact ⟨h, hnone⟩
  · have hlive : Attached (obj :: g.frameBuf.toList) g.objects g.effects :=
      { h with live := fun o ho => h.live o (by simp_all [liveObjs, or_comm]) }
    have hframe : g₁.frameBuf = g.frameBuf := by rw [destroyObj_eq hdestroy]
    exact ⟨by simpa [AttachedInOrder, liveObjs, hframe] using destroyObj hlive hdestroy, rfl⟩

/-- A creation that fails has attached nothing. -/
theorem AttachedInOrder.discard {g : Gpu} {id : Nat} {c : CtrlCommand} (h : g.AttachedInOrder)
    (hc : Making.attach.is c = false) : Attached g.liveObjs (g.objects + 1)
      (g.effects ++ [.getId id, .ctrl g.objects c, .delete g.objects false]) := by
  refine h.append (by omega) ?_ ?_ ?_ ?_ fun o ho => Nat.lt_succ_of_lt (h.live o ho)
  · simp [Effect.makes, hc]
  · simp [Effect.deletes]
  · simp [Effect.makes, Effect.deletes, hc]
  · simp

theorem AttachedInOrder.createFrameBuffer {g g' : Gpu} {m : VideoModeInformation} {a : Allocs}
    (h : g.AttachedInOrder) (hs : g.createFrameBuffer m a = some g') : g'.AttachedInOrder := by
  rcases createFrameBuffer_cases hs with ⟨-, rfl⟩ | ⟨-, obj, ⟨hnumber, -, -⟩, -, rfl⟩
  · exact h.discard rfl
  · rw [AttachedInOrder]
    simp only [List.append_assoc]
    refine h.append (Nat.le_succ _) ?_ ?_ ?_ ?_ ?_
    · cases a.ents <;> simp [Effect.makes, Making.is]
    · cases a.ents <;> simp [Effect.deletes]
    · cases a.ents <;> simp [Effect.deletes]
    · cases a.ents <;> simp
    · intro o ho
      rcases List.mem_append.mp ho with ho | ho
      · simp_all
      · exact Nat.lt_succ_of_lt (h.live o (List.mem_append_right _ ho))

theorem AttachedInOrder.createCursor {g g' : Gpu} {shape : PointerShape} {a : Allocs} {ok : Bool}
    (h : g.AttachedInOrder) (hs : g.createCursor shape a = some (ok, g')) :
    g'.AttachedInOrder := by
  rcases createCursor_cases hs with ⟨-, -, rfl⟩ | ⟨-, -, -, obj, ⟨hnumber, -, -⟩, rfl⟩
  · exact h.discard rfl
  · rw [AttachedInOrder]
    simp only [List.append_assoc]
    refine h.append (Nat.le_succ _) ?_ ?_ ?_ ?_ ?_
    · cases ok <;> simp [Effect.makes, Making.is]
    · cases ok <;> simp [Effect.deletes]
    · cases ok <;> simp [Effect.deletes]
    · cases ok <;> simp
    · intro o ho
      rcases List.mem_append.mp ho with ho | ho
      · exact Nat.lt_succ_of_lt (h.live o (List.mem_append_left _ ho))
      · simp_all

theorem AttachedInOrder.emit {g : Gpu} {e : Effect} (h : g.AttachedInOrder)
    (he : ∀ n, e.makes .attach n = false ∧ e.deletes n = false) : (g.emit e).AttachedInOrder :=
  Attached.same h (by simpa using he)

/-- **One callback** attaches and deletes in order. -/
theorem AttachedInOrder.callback {g g' : Gpu} {c : Callback} (h : g.AttachedInOrder)
    (hs : g.callback c = some g') : g'.AttachedInOrder := by
  cases c with
  | setCurrentMode modes mode a =>
    obtain ⟨⟨ok, g₂⟩, hset, rfl⟩ := Option.map_eq_some_iff.mp hs
    rcases setCurrentMode_cases hset with ⟨-, -, rfl⟩ | ⟨m, g₁, -, -, hdestroy, hcreate⟩
    · exact h
    · have h₁ : g₁.clearMode.AttachedInOrder := (h.destroyFrameBuffer hdestroy).1
      exact h₁.createFrameBuffer hcreate
  | setPointerShape shape a =>
    obtain ⟨g₁, ok, g₂, hdestroy, hcreate, hrest⟩ := setPointerShape_cases hs
    have h₂ := (h.destroyCursor hdestroy).1.createCursor hcreate
    rcases hrest with ⟨-, rfl⟩ | ⟨-, obj, -, rfl⟩
    · exact h₂
    · exact h₂.emit (by simp [Effect.makes, Effect.deletes])
  | setPointerPosition p =>
    obtain ⟨obj, x, y, -, rfl⟩ := setPointerPosition_cases hs
    exact h.emit (by simp [Effect.makes, Effect.deletes])
  | executePresentDisplayOnly bpp moves dirtyRects =>
    obtain ⟨obj, offset, width, height, x, y, -, rfl⟩ := executePresentDisplayOnly_cases hs
    refine AttachedInOrder.emit (h.emit ?_) ?_ <;> simp [Effect.makes, Effect.deletes, Making.is]
  | setPowerState state first second =>
    cases hs
    have hpower : ∀ (g : Gpu) init,
        g.AttachedInOrder → (g.setPowerState state init).AttachedInOrder := by
      intro g init hg
      obtain ⟨l, hl, heq⟩ := setPowerState_eq g state init
      rw [heq]
      refine Attached.same hg fun e he n => ?_
      rcases hl e he with rfl | ⟨up, rfl⟩ <;> simp [Effect.makes, Effect.deletes]
    exact hpower _ second (hpower g first h)

end Gpu

/-! ## What the host holds -/

theorem attach_of_heldBy {n : Nat} {e : Queued CtrlCommand} {l : List (Queued CtrlCommand)}
    (h : heldBy n e l = true) : Making.attach.isIn n [e] = true := by
  obtain ⟨m, c⟩ := e
  cases c <;> simp_all [heldBy, Making.isIn, Making.is]

theorem heldBy_append {n : Nat} {e : Queued CtrlCommand} {l l' : List (Queued CtrlCommand)}
    (h : heldBy n e (l ++ l') = true) : heldBy n e l = true := by
  unfold heldBy at h ⊢
  split at h
  · rw [Bool.and_eq_true, detachIn, List.any_append, Bool.not_or, Bool.and_eq_true] at h
    rw [Bool.and_eq_true]
    exact ⟨h.1, h.2.1⟩
  · cases h

theorem attach_of_heldAfter {n : Nat} {l : List (Queued CtrlCommand)} (h : heldAfter n l = true) :
    Making.attach.isIn n l = true := by
  induction l with
  | nil => cases h
  | cons e l ih =>
    rw [heldAfter, Bool.or_eq_true] at h
    rw [Making.isIn, List.any_cons, Bool.or_eq_true]
    rcases h with hby | hafter
    · left
      simpa [Making.isIn] using attach_of_heldBy hby
    · exact .inr (ih hafter)

/-- The last command adds nothing but its own attachment. -/
theorem heldAfter_concat {n : Nat} {l : List (Queued CtrlCommand)} {e : Queued CtrlCommand}
    (h : heldAfter n (l ++ [e]) = true) :
    heldAfter n l = true ∨ Making.attach.isIn n [e] = true := by
  induction l with
  | nil => exact .inr (attach_of_heldAfter h)
  | cons a l ih =>
    rw [List.cons_append, heldAfter, Bool.or_eq_true] at h
    rw [heldAfter, Bool.or_eq_true]
    rcases h with hby | hafter
    · exact .inl (.inl (heldBy_append hby))
    · exact (ih hafter).imp_left .inr

namespace Adapter

theorem attached_of_outstanding {s : Adapter} {n : Nat} (h : s.Outstanding n) :
    Making.attach.isIn n s.ctrl = true := by
  rw [← List.take_append_drop s.ctrlDone s.ctrl, Making.isIn, List.any_append, Bool.or_eq_true]
  exact h.imp_left attach_of_heldAfter

/-- A command that enters the ring makes at most its own object outstanding. -/
theorem outstanding_add {s : Adapter} {n : Nat} {e : Queued CtrlCommand}
    (hdone : s.ctrlDone ≤ s.ctrl.length)
    (h : Outstanding { s with ctrl := s.ctrl ++ [e] } n) :
    s.Outstanding n ∨ Making.attach.isIn n [e] = true := by
  simp only [Outstanding, processed, waiting, List.take_append_of_le_length hdone,
    List.drop_append_of_le_length hdone, Making.isIn, List.any_append, Bool.or_eq_true] at h ⊢
  tauto

/-- The host, as it goes on, holds no more than before. -/
theorem outstanding_hostCtrl {s : Adapter} {n : Nat} (hdone : s.ctrlDone < s.ctrl.length)
    (h : Outstanding { s with ctrlDone := s.ctrlDone + 1 } n) : s.Outstanding n := by
  have hdrop : s.waiting = s.ctrl[s.ctrlDone] :: s.ctrl.drop (s.ctrlDone + 1) :=
    List.drop_eq_getElem_cons hdone
  have htake : s.ctrl.take (s.ctrlDone + 1) = s.processed ++ [s.ctrl[s.ctrlDone]] :=
    List.take_succ_eq_append_getElem hdone
  rcases h with h | h
  · rw [processed, htake] at h
    refine (heldAfter_concat h).imp_right fun hattach => ?_
    rw [hdrop, Making.isIn, List.any_cons, Bool.or_eq_true]
    exact .inl (by simpa [Making.isIn] using hattach)
  · right
    rw [hdrop, Making.isIn, List.any_cons, Bool.or_eq_true]
    exact .inr h

/-- No object the host holds is deleted. -/
def NoneFreed (s : Adapter) : Prop := ∀ n ∈ s.deleted, ¬s.Outstanding n

/-- When `DestroyFrameBuffer` or `DestroyCursor` comes to `delete`, the host holds the object no
longer. -/
def DetachedInTime (s : Adapter) : AdapterEvent → Prop
  | .perform _ => s.todo.head?.all (fun
    | .delete n true => !decide (s.Outstanding n)
    | _ => true) = true
  | .call _ | .hostCtrl | .hostCursor => True

instance (s : Adapter) : (e : AdapterEvent) → Decidable (s.DetachedInTime e)
  | .perform _ => inferInstanceAs (Decidable (_ = true))
  | .call _ | .hostCtrl | .hostCursor => isTrue trivial

/-! ## Runs -/

/-- What is in the ring and what is deleted comes from the effects so far. -/
structure BackingInv (s : Adapter) : Prop where
  driver : s.gpu.AttachedInOrder
  bound : s.ctrlDone ≤ s.ctrl.length
  history : ∃ done, s.gpu.effects = done ++ s.todo ∧
    (∀ n, Making.attach.isIn n s.ctrl = true → ∃ e ∈ done, e.makes .attach n = true) ∧
    ∀ n ∈ s.deleted, ∃ e ∈ done, e.deletes n = true
  safe : s.NoneFreed

theorem BackingInv.call {s s' : Adapter} {c : Callback} (h : s.BackingInv)
    (hs : s.step (.call c) = some s') : s'.BackingInv := by
  obtain ⟨htodo, g, l, hg, hl, rfl⟩ := step_call hs
  obtain ⟨done, heffects, hring, hdeleted⟩ := h.history
  refine ⟨h.driver.callback hg, h.bound, ⟨done, ?_, hring, hdeleted⟩, h.safe⟩
  rw [htodo, List.append_nil] at heffects
  rw [hl, heffects]

/-- An object that was deleted is not attached by a later effect. -/
theorem BackingInv.not_deleted {s : Adapter} {e : Effect} {todo : List Effect} {n : Nat}
    (h : s.BackingInv) (htodo : s.todo = e :: todo) (hattach : e.makes .attach n = true) :
    n ∉ s.deleted := by
  intro hn
  obtain ⟨done, heffects, -, hdeleted⟩ := h.history
  obtain ⟨e', he', hdel⟩ := hdeleted n hn
  have horder := h.driver.order
  rw [heffects, htodo] at horder
  have hnot := (List.pairwise_append.mp horder).2.2 e' he' e List.mem_cons_self n hdel
  simp [hnot] at hattach

theorem BackingInv.performCtrl {s : Adapter} {n : Nat} {c : CtrlCommand} {todo : List Effect}
    (h : s.BackingInv) (htodo : s.todo = .ctrl n c :: todo) (entered : Bool) :
    BackingInv { s with todo, ctrl := s.ctrl ++ if entered then [(n, c)] else [] } := by
  obtain ⟨done, heffects, hring, hdeleted⟩ := h.history
  have hsplit : s.gpu.effects = (done ++ [.ctrl n c]) ++ todo := by simp [heffects, htodo]
  have hdeleted' : ∀ m ∈ s.deleted, ∃ e ∈ done ++ [.ctrl n c], e.deletes m = true := by
    intro m hm
    obtain ⟨e, he, hdel⟩ := hdeleted m hm
    exact ⟨e, List.mem_append_left _ he, hdel⟩
  have hbound : s.ctrlDone ≤ (s.ctrl ++ if entered then [(n, c)] else []).length := by
    rw [List.length_append]
    exact Nat.le_add_right_of_le h.bound
  have hattaches : ∀ m, Making.attach.isIn m [(n, c)] = true →
      (Effect.ctrl n c).makes .attach m = true := by
    simp [Making.isIn, Effect.makes]
  cases entered with
  | false =>
    refine ⟨h.driver, hbound, ⟨_, hsplit, ?_, hdeleted'⟩, ?_⟩
    · intro m hm
      obtain ⟨e, he, hatt⟩ := hring m (by simpa using hm)
      exact ⟨e, List.mem_append_left _ he, hatt⟩
    · intro m hm hout
      apply h.safe m hm
      simpa [Outstanding, processed, waiting] using hout
  | true =>
    refine ⟨h.driver, hbound, ⟨_, hsplit, ?_, hdeleted'⟩, ?_⟩
    · intro m hm
      simp only [if_pos] at hm
      rw [Making.isIn, List.any_append, Bool.or_eq_true] at hm
      rcases hm with hm | hm
      · obtain ⟨e, he, hatt⟩ := hring m hm
        exact ⟨e, List.mem_append_left _ he, hatt⟩
      · exact ⟨.ctrl n c, by simp, hattaches m hm⟩
    · intro m hm hout
      rcases outstanding_add h.bound hout with hold | hnew
      · exact h.safe m hm hold
      · exact h.not_deleted htodo (hattaches m hnew) hm

/-- A deletion is safe because the host was fast enough, or because the object was never
attached. -/
theorem BackingInv.performDelete {s : Adapter} {n : Nat} {destroyed : Bool} {todo : List Effect}
    (h : s.BackingInv) (htodo : s.todo = .delete n destroyed :: todo)
    (hP : destroyed = true → ¬s.Outstanding n) :
    BackingInv { s with todo, deleted := s.deleted ++ [n] } := by
  obtain ⟨done, heffects, hring, hdeleted⟩ := h.history
  have hsplit : s.gpu.effects = (done ++ [.delete n destroyed]) ++ todo := by simp [heffects, htodo]
  have hsafe : ¬s.Outstanding n := by
    cases destroyed with
    | true => exact hP rfl
    | false =>
      intro hout
      obtain ⟨e, he, hatt⟩ := hring n (attached_of_outstanding hout)
      have hnever := h.driver.discarded n (by simp [hsplit]) e (by simp [hsplit, he])
      simp [hnever] at hatt
  refine ⟨h.driver, h.bound, ⟨_, hsplit, ?_, ?_⟩, ?_⟩
  · intro m hm
    obtain ⟨e, he, hatt⟩ := hring m hm
    exact ⟨e, List.mem_append_left _ he, hatt⟩
  · intro m hm
    rcases List.mem_append.mp hm with hm | hm
    · obtain ⟨e, he, hdel⟩ := hdeleted m hm
      exact ⟨e, List.mem_append_left _ he, hdel⟩
    · refine ⟨.delete n destroyed, by simp, ?_⟩
      simpa [Effect.deletes, eq_comm] using hm
  · intro m hm
    rcases List.mem_append.mp hm with hm | hm
    · exact h.safe m hm
    · rw [List.mem_singleton.mp hm]
      exact hsafe

/-- An effect that leaves the control ring and the deleted objects alone. -/
theorem BackingInv.performOther {s s' : Adapter} {e : Effect} {todo : List Effect}
    (h : s.BackingInv) (htodo : s.todo = e :: todo) (hgpu : s'.gpu = s.gpu)
    (htodo' : s'.todo = todo)
    (hctrl : s'.ctrl = s.ctrl) (hdone : s'.ctrlDone = s.ctrlDone) (hdel : s'.deleted = s.deleted) :
    s'.BackingInv := by
  obtain ⟨done, heffects, hring, hdeleted⟩ := h.history
  refine ⟨hgpu ▸ h.driver, by rw [hdone, hctrl]; exact h.bound, ⟨done ++ [e], ?_, ?_, ?_⟩, ?_⟩
  · rw [hgpu, htodo', heffects, htodo]
    simp
  · intro m hm
    obtain ⟨e, he, hatt⟩ := hring m (hctrl ▸ hm)
    exact ⟨e, List.mem_append_left _ he, hatt⟩
  · intro m hm
    obtain ⟨e, he, hdel⟩ := hdeleted m (hdel ▸ hm)
    exact ⟨e, List.mem_append_left _ he, hdel⟩
  · intro m hm
    rw [Outstanding, processed, waiting, hctrl, hdone]
    exact h.safe m (hdel ▸ hm)

theorem BackingInv.perform {s s' : Adapter} {entered : Bool} (h : s.BackingInv)
    (hP : s.DetachedInTime (.perform entered)) (hs : s.step (.perform entered) = some s') :
    s'.BackingInv := by
  obtain ⟨e, todo, htodo, hperform⟩ := step_perform hs
  cases e with
  | ctrl n c =>
    cases perform_ctrl hperform
    exact h.performCtrl htodo entered
  | delete n destroyed =>
    cases hperform
    apply h.performDelete htodo
    rintro rfl
    simpa [DetachedInTime, htodo] using hP
  | reset =>
    cases hperform
    obtain ⟨done, heffects, -, hdeleted⟩ := h.history
    refine ⟨h.driver, Nat.le_refl 0, ⟨done ++ [.reset], by simp [heffects, htodo], ?_, ?_⟩, ?_⟩
    · intro m hm
      cases hm
    · intro m hm
      obtain ⟨e, he, hdel⟩ := hdeleted m hm
      exact ⟨e, List.mem_append_left _ he, hdel⟩
    · rintro m - (hout | hout) <;> cases hout
  | cursor n c =>
    cases perform_cursor hperform
    exact h.performOther htodo rfl rfl rfl rfl rfl
  | getId id =>
    cases hperform
    exact h.performOther htodo rfl rfl rfl rfl rfl
  | putId id wasSet =>
    cases hperform
    exact h.performOther htodo rfl rfl rfl rfl rfl
  | setQueues up =>
    cases hperform
    exact h.performOther htodo rfl rfl rfl rfl rfl

theorem BackingInv.step {s s' : Adapter} {e : AdapterEvent} (h : s.BackingInv)
    (hP : s.DetachedInTime e) (hs : s.step e = some s') : s'.BackingInv := by
  cases e with
  | call c => exact h.call hs
  | perform entered => exact h.perform hP hs
  | hostCtrl =>
    obtain ⟨hlt, rfl⟩ := step_hostCtrl hs
    exact ⟨h.driver, hlt, h.history, fun n hn hout => h.safe n hn (outstanding_hostCtrl hlt hout)⟩
  | hostCursor =>
    obtain ⟨n, c, -, rfl⟩ := step_hostCursor hs
    exact ⟨h.driver, h.bound, h.history, h.safe⟩

/-- **Nothing the host may read is freed**, in every run in which the host has let go of an
object whenever `DestroyFrameBuffer` or `DestroyCursor` deletes it. -/
theorem deleted_released (mode : CurrentBddMode) {s : Adapter}
    (h : (system mode).ReachableUnder DetachedInTime s) : s.NoneFreed := by
  have hstart : (start mode).BackingInv := by
    refine ⟨Attached.init, Nat.le_refl 0, ⟨[], rfl, ?_, ?_⟩, ?_⟩
    · intro n hn
      cases hn
    · intro n hn
      cases hn
    · intro n hn
      cases hn
  exact (h.induct BackingInv hstart fun _ _ _ hInv hP hs => hInv.step hP hs).safe

/-- Two mode changes, with a host that has processed everything before the frame buffer is
deleted. -/
def twoModes : List AdapterEvent :=
  .call (.setCurrentMode oneMode 0 allocated) :: List.replicate 6 (.perform true) ++
    List.replicate 5 .hostCtrl ++
    .call (.setCurrentMode oneMode 0 allocated) :: List.replicate 2 (.perform true) ++
    List.replicate 1 .hostCtrl ++ List.replicate 8 (.perform true)

theorem deleted_released_twoModes :
    ∃ s, (system firstMode).runUnder DetachedInTime twoModes = some s ∧ s.deleted = [0] ∧
      s.NoneFreed := by
  have h : ∀ s, (system firstMode).runUnder DetachedInTime twoModes = some s → s.NoneFreed :=
    fun s hs => deleted_released firstMode (System.reachable_of_run hs)
  exact ⟨_, rfl, rfl, h _ rfl⟩

/-- Two mode changes, with a host that has not come to the first command when the frame buffer
is deleted. -/
def slowHost : List AdapterEvent :=
  .call (.setCurrentMode oneMode 0 allocated) :: List.replicate 6 (.perform true) ++
    .call (.setCurrentMode oneMode 0 allocated) :: List.replicate 3 (.perform true)

theorem not_always_released : ¬∀ mode s, (system mode).Reachable s → s.NoneFreed := by
  intro h
  have hrun : ∃ s, (system firstMode).run slowHost = some s ∧ s.deleted = [0] ∧
      Making.attach.isIn 0 s.waiting = true := ⟨_, rfl, rfl, rfl⟩
  obtain ⟨s, hs, hdeleted, hwaiting⟩ := hrun
  exact h firstMode s (System.reachable_of_run hs) 0 (by simp [hdeleted]) (.inr hwaiting)

end Adapter

end VioGpu.Device
