import VioGpu.Device.Adapter

/-!
# Cursor commands and the resources they name

`UPDATE_CURSOR` and `MOVE_CURSOR` travel in the cursor ring, the commands that make and drop
the resource of the cursor in the control ring, and nothing orders the two. By the time a
cursor command is queued, the driver has queued the `CREATE_2D`, `ATTACH_BACKING` and
`TRANSFER_TO_HOST_2D` of its object and not yet its `UNREF` (`CursorsMade`). So the resource is
ready when the host comes to the cursor command, in every run in which these three have entered
the control ring and neither consumer runs ahead of the other: the host has none of them before
it when it comes to the cursor command, and has no cursor command before it when it comes to the
`UNREF` (`cursor_ready`).
-/

namespace VioGpu.Device

open Lib Queue

/-! ## Cursor commands in the history -/

/-- The command is the `UNREF` of the object. -/
def Effect.unrefs (n : Nat) : Effect → Bool
  | .ctrl m c => unrefIn n [(m, c)]
  | .cursor .. | .getId _ | .putId .. | .delete .. | .reset | .setQueues _ => false

/-- The effect leaves the cursor ring alone. -/
def Effect.isPlain : Effect → Bool
  | .cursor .. | .reset => false
  | .ctrl .. | .getId _ | .putId .. | .delete .. | .setQueues _ => true

/-- These effects make the resource of the object and do not drop it. -/
def MadeBy (since : List Effect) (n : Nat) : Prop :=
  (∀ k, since.any (Effect.makes k n) = true) ∧ since.any (Effect.unrefs n) = false

/-- Each cursor command among these effects comes when the resource of its object is made. -/
def CursorsMade : List Effect → List Effect → Prop
  | _, [] => True
  | since, e :: l => (∀ n c, e = .cursor n c → MadeBy since n) ∧ CursorsMade (sinceStep since e) l

theorem Effect.object?_of_unrefs {n : Nat} {e : Effect} (h : e.unrefs n = true) :
    e.object? = some n := by
  cases e <;> simp_all [Effect.unrefs, unrefIn, Effect.object?]

theorem Effect.object?_of_makes {k : Making} {n : Nat} {e : Effect} (h : e.makes k n = true) :
    e.object? = some n := by
  cases e <;> simp_all [Effect.makes, Effect.object?]

theorem mem_of_mem_foldl_sinceStep {l since : List Effect} {e : Effect}
    (h : e ∈ l.foldl sinceStep since) : e ∈ since ∨ e ∈ l := by
  induction l generalizing since with
  | nil => exact .inl h
  | cons e' l ih =>
    rcases ih h with h | h
    · rw [sinceStep] at h
      split_ifs at h with hreset
      · cases h
      · rcases List.mem_append.mp h with h | h
        · exact .inl h
        · rw [List.mem_singleton.mp h]
          exact .inr List.mem_cons_self
    · exact .inr (List.mem_cons_of_mem _ h)

theorem mem_of_mem_sinceReset {l : List Effect} {e : Effect} (h : e ∈ sinceReset l) : e ∈ l :=
  (mem_of_mem_foldl_sinceStep h).resolve_left List.not_mem_nil

theorem cursorsMade_of_noCursor {since l : List Effect} (h : ∀ e ∈ l, ∀ n c, e ≠ .cursor n c) :
    CursorsMade since l := by
  induction l generalizing since with
  | nil => trivial
  | cons e l ih =>
    refine ⟨?_, ih fun e' he' => h e' (List.mem_cons_of_mem e he')⟩
    intro n c he
    exact absurd he (h e List.mem_cons_self n c)

/-- A cursor command after effects without one. -/
theorem cursorsMade_concat {since l : List Effect} {n : Nat} {c : CursorCommand}
    (h : ∀ e ∈ l, e.isPlain = true) (hmade : MadeBy (since ++ l) n) :
    CursorsMade since (l ++ [.cursor n c]) := by
  induction l generalizing since with
  | nil =>
    refine ⟨?_, trivial⟩
    rintro _ _ ⟨⟩
    simpa using hmade
  | cons e l ih =>
    have he := h e List.mem_cons_self
    refine ⟨?_, ih (fun e' he' => h e' (List.mem_cons_of_mem e he')) ?_⟩
    · rintro n c rfl
      cases he
    · have hreset : e ≠ .reset := by
        rintro rfl
        cases he
      simpa [sinceStep, hreset] using hmade

/-! ## The callbacks -/

namespace Gpu

/-- `m_pCursorBuf` is not `m_pFrameBuf`, and its resource has not been dropped. -/
structure CursorKept (g : Gpu) : Prop where
  numbered : g.Numbered
  distinct : ∀ f ∈ g.frameBuf, ∀ c ∈ g.cursorBuf, f.number ≠ c.number
  kept : ∀ c ∈ g.cursorBuf, ∀ e ∈ g.effects, e.unrefs c.number = false

/-- `g'` comes from `g` by effects that leave the cursor ring alone. -/
def PlainTo (g g' : Gpu) : Prop :=
  ∃ l, g'.effects = g.effects ++ l ∧ ∀ e ∈ l, e.isPlain = true

theorem PlainTo.trans {g g' g'' : Gpu} (h : PlainTo g g') (h' : PlainTo g' g'') :
    PlainTo g g'' := by
  obtain ⟨l, hl, hplain⟩ := h
  obtain ⟨l', hl', hplain'⟩ := h'
  refine ⟨l ++ l', by rw [hl', hl, List.append_assoc], fun e he => ?_⟩
  rcases List.mem_append.mp he with he | he
  · exact hplain e he
  · exact hplain' e he

theorem CursorKept.destroyFrameBuffer {g g' : Gpu} (h : g.CursorKept)
    (hs : g.destroyFrameBuffer = some g') :
    g'.CursorKept ∧ PlainTo g g' ∧ g'.cursorBuf = g.cursorBuf := by
  have hnumbered := h.numbered.destroyFrameBuffer hs
  rcases destroyFrameBuffer_cases hs with ⟨-, rfl⟩ | ⟨obj, g₁, hobj, hdestroy, rfl⟩
  · exact ⟨h, ⟨[], by simp, by simp⟩, rfl⟩
  · rw [destroyObj_eq hdestroy] at hnumbered ⊢
    refine ⟨⟨hnumbered, by simp, ?_⟩, ⟨_, rfl, by simp [Effect.isPlain]⟩, rfl⟩
    intro c hc e he
    have hne := h.distinct obj (by simp [hobj]) c hc
    rcases List.mem_append.mp he with he | he
    · exact h.kept c hc e he
    · simp only [List.mem_cons, List.not_mem_nil, or_false] at he
      rcases he with rfl | rfl | rfl | rfl <;> simp [Effect.unrefs, unrefIn, hne]

theorem CursorKept.createFrameBuffer {g g' : Gpu} {m : VideoModeInformation} {a : Allocs}
    (h : g.CursorKept) (hs : g.createFrameBuffer m a = some g') :
    g'.CursorKept ∧ PlainTo g g' ∧ g'.cursorBuf = g.cursorBuf := by
  have hnumbered := h.numbered.createFrameBuffer hs
  rcases createFrameBuffer_cases hs with ⟨-, rfl⟩ | ⟨-, obj, ⟨hnumber, -, -⟩, -, rfl⟩
  · refine ⟨⟨hnumbered, h.distinct, ?_⟩, ⟨_, rfl, by simp [Effect.isPlain]⟩, rfl⟩
    intro c hc e he
    rcases List.mem_append.mp he with he | he
    · exact h.kept c hc e he
    · simp only [List.mem_cons, List.not_mem_nil, or_false] at he
      rcases he with rfl | rfl | rfl <;> simp [Effect.unrefs, unrefIn]
  · refine ⟨⟨hnumbered, ?_, ?_⟩, ⟨_, by simp only [List.append_assoc]; rfl, ?_⟩, rfl⟩
    · intro f hf c hc
      have hlt := h.numbered.live c (by simp_all [liveObjs])
      cases hf
      omega
    · intro c hc e he
      simp only [List.append_assoc] at he
      rcases List.mem_append.mp he with hold | hnew
      · exact h.kept c hc e hold
      · clear he
        revert e
        cases a.ents <;> simp [Effect.unrefs, unrefIn]
    · cases a.ents <;> simp [Effect.isPlain]

theorem CursorKept.destroyCursor {g g' : Gpu} (h : g.CursorKept)
    (hs : g.destroyCursor = some g') :
    g'.CursorKept ∧ PlainTo g g' ∧ g'.cursorBuf = none ∧ g'.objects = g.objects := by
  have hnumbered := h.numbered.destroyCursor hs
  rcases destroyCursor_cases hs with ⟨hnone, rfl⟩ | ⟨obj, g₁, -, hdestroy, rfl⟩
  · exact ⟨h, ⟨[], by simp, by simp⟩, hnone, rfl⟩
  · rw [destroyObj_eq hdestroy] at hnumbered ⊢
    exact ⟨⟨hnumbered, by simp, by simp⟩, ⟨_, rfl, by simp [Effect.isPlain]⟩, rfl, rfl⟩

/-- Nothing has been done to an object that is yet to be created. -/
theorem CursorKept.not_unrefs {g : Gpu} (h : g.CursorKept) {e : Effect} (he : e ∈ g.effects) :
    e.unrefs g.objects = false := by
  by_contra hunref
  rw [Bool.not_eq_false] at hunref
  exact Nat.lt_irrefl _ (h.numbered.effects e he _ (Effect.object?_of_unrefs hunref))

/-- **Creating the cursor**: where it succeeds, the resource of the new object is made. -/
theorem CursorKept.createCursor {g g' : Gpu} {shape : PointerShape} {a : Allocs} {ok : Bool}
    (h : g.CursorKept) (hnone : g.cursorBuf = none) (hs : g.createCursor shape a = some (ok, g')) :
    g'.CursorKept ∧ (∀ obj ∈ g'.cursorBuf, obj.number = g.objects) ∧
      ∃ l, g'.effects = g.effects ++ l ∧ (∀ e ∈ l, e.isPlain = true) ∧
        (ok = true → (∀ k, l.any (Effect.makes k g.objects) = true) ∧
          l.any (Effect.unrefs g.objects) = false) := by
  have hnumbered := h.numbered.createCursor hs
  rcases createCursor_cases hs with ⟨-, rfl, rfl⟩ | ⟨-, -, -, obj, ⟨hnumber, -, -⟩, rfl⟩
  · exact ⟨⟨hnumbered, by simp [hnone], by simp [hnone]⟩, by simp [hnone], _, rfl,
      by simp [Effect.isPlain], by simp⟩
  · refine ⟨⟨hnumbered, ?_, ?_⟩, ?_, _, by simp only [List.append_assoc]; rfl, ?_, ?_⟩
    · intro f hf c hc
      have hlt := h.numbered.live f (by simp_all [liveObjs])
      cases hc
      omega
    · intro c hc e he
      cases hc
      rw [hnumber]
      simp only [List.append_assoc] at he
      rcases List.mem_append.mp he with hold | hnew
      · exact h.not_unrefs hold
      · clear he
        revert e
        cases ok <;> simp [Effect.unrefs, unrefIn]
    · rintro c ⟨⟩
      exact hnumber
    · cases ok <;> simp [Effect.isPlain]
    · rintro rfl
      refine ⟨fun k => ?_, by simp [Effect.unrefs, unrefIn]⟩
      cases k <;> simp [Effect.makes, Making.is]

/-- `SetPointerPosition` is called when the resource of the cursor is made and filled, if there
is a cursor. -/
def Drawn (g : Gpu) : Callback → Prop
  | .setPointerPosition _ => ∀ obj ∈ g.cursorBuf, ∀ k, MadeSinceReset k g.effects obj.number
  | .setCurrentMode .. | .setPointerShape .. | .executePresentDisplayOnly ..
  | .setPowerState .. => True

instance (g : Gpu) : (c : Callback) → Decidable (g.Drawn c)
  | .setPointerPosition _ => inferInstanceAs (Decidable (∀ _ ∈ g.cursorBuf, ∀ _, _))
  | .setCurrentMode .. | .setPointerShape .. | .executePresentDisplayOnly ..
  | .setPowerState .. => isTrue trivial

/-- What a callback means for the cursor. -/
structure CursorStep (g g' : Gpu) (l : List Effect) : Prop where
  kept : g'.CursorKept
  made : CursorsMade (sinceReset g.effects) l
  named : ∀ n c, .cursor n c ∈ l → ∃ obj ∈ g'.cursorBuf, obj.number = n
  same : ∀ obj ∈ g'.cursorBuf, g.cursorBuf = some obj ∨ obj.number = g.objects

/-- A callback that does not touch the cursor. -/
theorem CursorStep.of_plain {g g' : Gpu} {l : List Effect} (hkept : g'.CursorKept)
    (hl : ∀ e ∈ l, ∀ n c, e ≠ .cursor n c)
    (hsame : ∀ obj ∈ g'.cursorBuf, g.cursorBuf = some obj ∨ obj.number = g.objects) :
    CursorStep g g' l :=
  ⟨hkept, cursorsMade_of_noCursor hl, fun n c hmem => absurd rfl (hl _ hmem n c), hsame⟩

theorem ne_cursor_of_isPlain {e : Effect} (h : e.isPlain = true) (n : Nat) (c : CursorCommand) :
    e ≠ .cursor n c := by
  rintro rfl
  cases h

theorem reset_notMem_of_isPlain {l : List Effect} (h : ∀ e ∈ l, e.isPlain = true) : .reset ∉ l :=
  fun hmem => by simpa [Effect.isPlain] using h _ hmem

/-- Effects that drop no resource keep what is known of the cursor. -/
theorem CursorKept.append {g : Gpu} {l : List Effect} (h : g.CursorKept)
    (hunref : ∀ e ∈ l, ∀ n, e.unrefs n = false)
    (hobject : ∀ e ∈ l, ∀ n ∈ e.object?, n < g.objects) :
    CursorKept { g with effects := g.effects ++ l } where
  numbered := h.numbered.of_append rfl (Nat.le_refl _) hobject fun o ho => .inl ho
  distinct := h.distinct
  kept c hc e he := by
    rcases List.mem_append.mp he with he | he
    · exact h.kept c hc e he
    · exact hunref e he _

theorem CursorKept.emit {g : Gpu} {e : Effect} (h : g.CursorKept) (hunref : ∀ n, e.unrefs n = false)
    (hobject : ∀ n ∈ e.object?, n < g.objects) : (g.emit e).CursorKept :=
  h.append (by simpa using hunref) (by simpa using hobject)

theorem CursorStep.setPointerShape {g g' : Gpu} {shape : PointerShape} {a : Allocs}
    {l : List Effect} (h : g.CursorKept) (hs : g.setPointerShape shape a = some g')
    (hl : g'.effects = g.effects ++ l) : CursorStep g g' l := by
  obtain ⟨g₁, ok, g₂, hdestroy, hcreate, hrest⟩ := setPointerShape_cases hs
  obtain ⟨h₁, ⟨l₁, hl₁, hplain₁⟩, hnone, hobjects⟩ := h.destroyCursor hdestroy
  obtain ⟨h₂, hnumber, l₂, hl₂, hplain₂, hmade⟩ := h₁.createCursor hnone hcreate
  have hplain : ∀ e ∈ l₁ ++ l₂, e.isPlain = true := by
    intro e he
    rcases List.mem_append.mp he with he | he
    · exact hplain₁ e he
    · exact hplain₂ e he
  have heffects : g₂.effects = g.effects ++ (l₁ ++ l₂) := by rw [hl₂, hl₁, List.append_assoc]
  rcases hrest with ⟨-, rfl⟩ | ⟨rfl, obj, hobj, rfl⟩
  · obtain rfl := List.append_cancel_left (hl ▸ heffects)
    refine .of_plain h₂ (fun e he => ne_cursor_of_isPlain (hplain e he)) fun obj hobj => .inr ?_
    rw [hnumber obj hobj, hobjects]
  · have hlt := h₂.numbered.live obj (by simp [liveObjs, hobj])
    obtain rfl : l = l₁ ++ l₂ ++
        [.cursor obj.number (.updateCursor obj.hwRes 0 0 shape.xHot shape.yHot)] := by
      refine List.append_cancel_left (hl.symm.trans ?_)
      rw [emit, heffects, List.append_assoc]
    obtain ⟨hmake, hunref⟩ := hmade rfl
    have hobjnumber := hnumber obj hobj
    refine ⟨h₂.emit (by simp [Effect.unrefs]) (by simpa [Effect.object?] using hlt), ?_, ?_, ?_⟩
    · refine cursorsMade_concat hplain ⟨fun k => ?_, ?_⟩
      · simp [List.any_append, hobjnumber, hmake k]
      · -- nothing was done to the new object before it was created
        rw [← sinceReset_append (reset_notMem_of_isPlain hplain), ← heffects, List.any_eq_false]
        intro e he
        rw [Bool.not_eq_true]
        exact h₂.kept obj hobj e (mem_of_mem_sinceReset he)
    · intro n c hmem
      rcases List.mem_append.mp hmem with hmem | hmem
      · exact absurd rfl (ne_cursor_of_isPlain (hplain _ hmem) n c)
      · cases List.mem_singleton.mp hmem
        exact ⟨obj, hobj, rfl⟩
    · intro o ho
      exact .inr ((hnumber o ho).trans hobjects)

theorem CursorStep.setCurrentMode {g g' : Gpu} {modes : List VideoModeInformation} {mode : Nat}
    {a : Allocs} {l : List Effect} (h : g.CursorKept)
    (hs : g.callback (.setCurrentMode modes mode a) = some g') (hl : g'.effects = g.effects ++ l) :
    CursorStep g g' l := by
  obtain ⟨⟨ok, g₂⟩, hset, rfl⟩ := Option.map_eq_some_iff.mp hs
  rcases setCurrentMode_cases hset with ⟨-, -, rfl⟩ | ⟨m, g₁, -, -, hdestroy, hcreate⟩
  · obtain rfl : l = [] := by simpa using hl
    exact .of_plain h (by simp) fun obj hobj => .inl hobj
  · obtain ⟨h₁, hplain₁, hcursor₁⟩ := h.destroyFrameBuffer hdestroy
    have hclear : g₁.clearMode.CursorKept :=
      ⟨⟨h₁.numbered.effects, h₁.numbered.live⟩, h₁.distinct, h₁.kept⟩
    obtain ⟨h₂, hplain₂, hcursor₂⟩ := hclear.createFrameBuffer hcreate
    obtain ⟨l', hl', hplain⟩ := PlainTo.trans hplain₁ (hplain₂ : PlainTo g₁ g₂)
    obtain rfl := List.append_cancel_left (hl.symm.trans hl')
    refine .of_plain h₂ (fun e he => ne_cursor_of_isPlain (hplain e he)) fun obj hobj => .inl ?_
    rw [← hcursor₁]
    exact hcursor₂.symm.trans hobj

theorem CursorStep.setPointerPosition {g g' : Gpu} {p : PointerPosition} {l : List Effect}
    (h : g.CursorKept) (hdrawn : g.Drawn (.setPointerPosition p))
    (hs : g.callback (.setPointerPosition p) = some g') (hl : g'.effects = g.effects ++ l) :
    CursorStep g g' l := by
  obtain ⟨obj, x, y, hobj, rfl⟩ := setPointerPosition_cases hs
  have hlt := h.numbered.live obj (by simp [liveObjs, hobj])
  obtain rfl := List.append_cancel_left hl
  refine ⟨h.emit (by simp [Effect.unrefs]) (by simpa [Effect.object?] using hlt), ?_, ?_,
    fun o ho => .inl ho⟩
  · refine ⟨?_, trivial⟩
    rintro n c ⟨⟩
    refine ⟨fun k => hdrawn obj hobj k, ?_⟩
    rw [List.any_eq_false]
    intro e he
    rw [Bool.not_eq_true]
    exact h.kept obj hobj e (mem_of_mem_sinceReset he)
  · intro n c hmem
    cases List.mem_singleton.mp hmem
    exact ⟨obj, hobj, rfl⟩

theorem CursorStep.executePresentDisplayOnly {g g' : Gpu} {bpp : Nat}
    {moves dirtyRects : List Rect} {l : List Effect} (h : g.CursorKept)
    (hs : g.callback (.executePresentDisplayOnly bpp moves dirtyRects) = some g')
    (hl : g'.effects = g.effects ++ l) : CursorStep g g' l := by
  obtain ⟨obj, offset, width, height, x, y, hobj, rfl⟩ := executePresentDisplayOnly_cases hs
  have hlt := h.numbered.live obj (by simp [liveObjs, hobj])
  simp only [emit, List.append_assoc] at hl
  obtain rfl := List.append_cancel_left hl
  refine .of_plain ?_ (by simp) fun o ho => .inl ho
  refine CursorKept.emit (h.emit ?_ ?_) ?_ ?_
  all_goals simp [Effect.unrefs, unrefIn, Effect.object?, emit, hlt]

/-- A change of the power state adds resets and steps of the queues. -/
theorem CursorStep.setPowerState {g g' : Gpu} {state : DevicePowerState}
    {first second : DeviceInit} {l : List Effect} (h : g.CursorKept)
    (hs : g.callback (.setPowerState state first second) = some g')
    (hl : g'.effects = g.effects ++ l) : CursorStep g g' l := by
  cases hs
  obtain ⟨l₁, hl₁, heq₁⟩ := setPowerState_eq g state first
  obtain ⟨l₂, hl₂, heq₂⟩ := setPowerState_eq (g.setPowerState state first) state second
  rw [heq₂, heq₁] at hl ⊢
  have hboth : ∀ e ∈ l₁ ++ l₂, e = .reset ∨ ∃ up, e = .setQueues up := by
    intro e he
    rcases List.mem_append.mp he with he | he
    · exact hl₁ e he
    · exact hl₂ e he
  simp only [List.append_assoc] at hl ⊢
  obtain rfl := List.append_cancel_left hl
  refine .of_plain (h.append ?_ ?_) ?_ fun o ho => .inl ho
  · intro e he n
    rcases hboth e he with rfl | ⟨up, rfl⟩ <;> rfl
  · intro e he n hn
    rcases hboth e he with rfl | ⟨up, rfl⟩ <;> cases hn
  · intro e he n c
    rcases hboth e he with rfl | ⟨up, rfl⟩ <;> simp

/-- **One callback** queues cursor commands for the current cursor only, and when its resource
is made. -/
theorem CursorStep.callback {g g' : Gpu} {c : Callback} {l : List Effect} (h : g.CursorKept)
    (hP : g.Drawn c) (hs : g.callback c = some g') (hl : g'.effects = g.effects ++ l) :
    CursorStep g g' l := by
  cases c with
  | setCurrentMode modes mode a => exact .setCurrentMode h hs hl
  | setPointerShape shape a => exact .setPointerShape h hs hl
  | setPointerPosition p => exact .setPointerPosition h hP hs hl
  | executePresentDisplayOnly bpp moves dirtyRects => exact .executePresentDisplayOnly h hs hl
  | setPowerState state first second => exact .setPowerState h hs hl

end Gpu

/-! ## Runs -/

namespace Adapter

/-- The cursor commands the host has yet to process. -/
def pending (s : Adapter) : List (Queued CursorCommand) := s.cursor.drop s.cursorDone

/-- `SetPointerPosition` finds the resource of the cursor made; a command that makes the resource
of the current cursor enters the control ring; the host comes to an `UNREF` when no cursor
command for the object is pending, and to a cursor command when no command that makes the
resource is waiting. -/
def CursorInTime (s : Adapter) : AdapterEvent → Prop
  | .call c => s.gpu.Drawn c
  | .perform entered => ∀ obj ∈ s.gpu.cursorBuf, ∀ e ∈ s.todo.head?, ∀ k,
    Effect.makes k obj.number e = true → entered = true
  | .hostCtrl => ∀ e ∈ s.ctrl[s.ctrlDone]?, ∀ e' ∈ s.pending, unrefIn e'.1 [e] = false
  | .hostCursor => ∀ e ∈ s.cursor[s.cursorDone]?, ∀ k, Making.isIn k e.1 s.waiting = false

instance (s : Adapter) : (e : AdapterEvent) → Decidable (s.CursorInTime e)
  | .call c => inferInstanceAs (Decidable (s.gpu.Drawn c))
  | .perform _ =>
    inferInstanceAs (Decidable (∀ _ ∈ s.gpu.cursorBuf, ∀ _ ∈ s.todo.head?, ∀ _, _ → _))
  | .hostCtrl => inferInstanceAs (Decidable (∀ _ ∈ s.ctrl[s.ctrlDone]?, ∀ _ ∈ s.pending, _))
  | .hostCursor => inferInstanceAs (Decidable (∀ _ ∈ s.cursor[s.cursorDone]?, ∀ _, _))

/-- The control ring holds what the effects `done` have queued for the current cursor since the
last reset, and no `UNREF` besides theirs. -/
structure RingHas (s : Adapter) (done : List Effect) : Prop where
  made : ∀ obj ∈ s.gpu.cursorBuf, ∀ k, MadeSinceReset k done obj.number →
    Making.isIn k obj.number s.ctrl = true
  unref : ∀ n, unrefIn n s.ctrl = true → (sinceReset done).any (Effect.unrefs n) = true

/-- Each cursor command in the ring comes after the commands that make its resource, and before
the host has processed the `UNREF`. -/
structure CursorInv (s : Adapter) : Prop where
  driver : s.gpu.CursorKept
  bound : s.ctrlDone ≤ s.ctrl.length
  history : ∃ done, s.gpu.effects = done ++ s.todo ∧ CursorsMade (sinceReset done) s.todo ∧
    s.RingHas done
  named : ∀ n c, .cursor n c ∈ s.todo → ∃ obj ∈ s.gpu.cursorBuf, obj.number = n
  made : ∀ e ∈ s.cursor, ∀ k, Making.isIn k e.1 s.ctrl = true
  unref : ∀ e ∈ s.pending, unrefIn e.1 s.processed = false
  safe : s.misordered = false

theorem CursorInv.call {s s' : Adapter} {c : Callback} (h : s.CursorInv)
    (hP : s.CursorInTime (.call c)) (hs : s.step (.call c) = some s') : s'.CursorInv := by
  obtain ⟨htodo, g, l, hg, hl, rfl⟩ := step_call hs
  obtain ⟨done, heffects, -, hring⟩ := h.history
  obtain ⟨hkept, hmade, hnamed, hsame⟩ := Gpu.CursorStep.callback h.driver hP hg hl
  rw [htodo, List.append_nil] at heffects
  subst heffects
  refine ⟨hkept, h.bound, ⟨s.gpu.effects, hl, hmade, ?_, hring.unref⟩, hnamed, h.made, h.unref,
    h.safe⟩
  intro obj hobj k hmade
  rcases hsame obj hobj with hold | hnew
  · exact hring.made obj hold k hmade
  · -- nothing has been queued for the new cursor before
    obtain ⟨e, he, hmakes⟩ := List.any_eq_true.mp hmade
    have hlt := h.driver.numbered.effects e (mem_of_mem_sinceReset he) _
      (Effect.object?_of_makes hmakes)
    omega

/-- The ring after an effect other than a reset. -/
theorem RingHas.concat {s s' : Adapter} {done : List Effect} {e : Effect} (h : s.RingHas done)
    (he : e ≠ .reset) (hgpu : s'.gpu = s.gpu)
    (hmade : ∀ obj ∈ s.gpu.cursorBuf, ∀ k,
      Making.isIn k obj.number s.ctrl = true ∨ e.makes k obj.number = true →
        Making.isIn k obj.number s'.ctrl = true)
    (hunref : ∀ n, unrefIn n s'.ctrl = true → unrefIn n s.ctrl = true ∨ e.unrefs n = true) :
    s'.RingHas (done ++ [e]) where
  made obj hobj k hsince := by
    rw [hgpu] at hobj
    rw [madeSinceReset_append (by simpa using he.symm)] at hsince
    apply hmade obj hobj k
    rcases hsince with hsince | ⟨e', he', hmakes⟩
    · exact .inl (h.made obj hobj k hsince)
    · rw [List.mem_singleton.mp he'] at hmakes
      exact .inr hmakes
  unref n hn := by
    rw [sinceReset_append (by simpa using he.symm), List.any_append, Bool.or_eq_true]
    apply (hunref n hn).imp (h.unref n)
    simp

theorem isIn_append {k : Making} {n : Nat} {l l' : List (Queued CtrlCommand)} :
    k.isIn n (l ++ l') = true ↔ k.isIn n l = true ∨ k.isIn n l' = true := by
  rw [Making.isIn, List.any_append, Bool.or_eq_true, Making.isIn, Making.isIn]

theorem unrefIn_append {n : Nat} {l l' : List (Queued CtrlCommand)} :
    unrefIn n (l ++ l') = true ↔ unrefIn n l = true ∨ unrefIn n l' = true := by
  rw [unrefIn, List.any_append, Bool.or_eq_true, unrefIn, unrefIn]

theorem unrefIn_of_processed {s : Adapter} {n : Nat} (h : unrefIn n s.processed = true) :
    unrefIn n s.ctrl = true := by
  rw [← List.take_append_drop s.ctrlDone s.ctrl, unrefIn_append]
  exact .inl h

theorem CursorInv.performCtrl {s : Adapter} {n : Nat} {c : CtrlCommand} {todo : List Effect}
    {entered : Bool} (h : s.CursorInv) (hP : s.CursorInTime (.perform entered))
    (htodo : s.todo = .ctrl n c :: todo) :
    CursorInv { s with todo, ctrl := s.ctrl ++ if entered then [(n, c)] else [] } := by
  obtain ⟨done, heffects, hmade, hring⟩ := h.history
  rw [htodo] at hmade
  refine ⟨h.driver, ?_, ⟨done ++ [.ctrl n c], by simp [heffects, htodo], ?_, ?_⟩, ?_, ?_, ?_,
    h.safe⟩
  · rw [List.length_append]
    exact Nat.le_add_right_of_le h.bound
  · rw [sinceReset_concat]
    exact hmade.2
  · refine hring.concat (by simp) rfl ?_ ?_
    · intro obj hobj k hmakes
      rw [isIn_append]
      refine hmakes.imp_right fun hnew => ?_
      rw [hP obj hobj _ (by simp [htodo]) k hnew, if_pos rfl]
      simpa [Effect.makes, Making.isIn] using hnew
    · intro m hm
      rw [unrefIn_append] at hm
      refine hm.imp_right fun hnew => ?_
      cases entered with
      | false => cases hnew
      | true => exact hnew
  · intro m d hmem
    exact h.named m d (htodo ▸ List.mem_cons_of_mem _ hmem)
  · intro e he k
    exact isIn_append.mpr (.inl (h.made e he k))
  · simpa only [pending, processed, List.take_append_of_le_length h.bound] using h.unref

theorem CursorInv.performCursor {s : Adapter} {n : Nat} {c : CursorCommand} {todo : List Effect}
    (h : s.CursorInv) (htodo : s.todo = .cursor n c :: todo) (entered : Bool) :
    CursorInv { s with todo, cursor := s.cursor ++ if entered then [(n, c)] else [] } := by
  obtain ⟨done, heffects, hmade, hring⟩ := h.history
  rw [htodo] at hmade
  obtain ⟨obj, hobj, hnumber⟩ := h.named n c (by simp [htodo])
  obtain ⟨hmakes, hunref⟩ := hmade.1 n c rfl
  refine ⟨h.driver, h.bound, ⟨done ++ [.cursor n c], by simp [heffects, htodo], ?_, ?_⟩, ?_, ?_, ?_,
    h.safe⟩
  · rw [sinceReset_concat]
    exact hmade.2
  · exact hring.concat (by simp) rfl (by simp [Effect.makes]) (by simp [Effect.unrefs])
  · intro m d hmem
    exact h.named m d (htodo ▸ List.mem_cons_of_mem _ hmem)
  · intro e he k
    rcases List.mem_append.mp he with he | he
    · exact h.made e he k
    · obtain rfl : e = (n, c) := by simpa using (List.mem_ite_nil_right.mp he).2
      exact hnumber ▸ hring.made obj hobj k (hnumber ▸ hmakes k)
  · intro e he
    rw [pending, List.drop_append] at he
    rcases List.mem_append.mp he with he | he
    · exact h.unref e he
    · obtain rfl : e = (n, c) := by
        simpa using (List.mem_ite_nil_right.mp (List.mem_of_mem_drop he)).2
      by_contra hprocessed
      rw [Bool.not_eq_false] at hprocessed
      simp [hring.unref n (unrefIn_of_processed hprocessed)] at hunref

/-- An effect that leaves both rings alone. -/
theorem CursorInv.performOther {s s' : Adapter} {e : Effect} {todo : List Effect}
    (h : s.CursorInv) (htodo : s.todo = e :: todo) (hreset : e ≠ .reset)
    (hmakes : ∀ k n, e.makes k n = false) (hgpu : s'.gpu = s.gpu) (htodo' : s'.todo = todo)
    (hctrl : s'.ctrl = s.ctrl) (hdone : s'.ctrlDone = s.ctrlDone) (hcursor : s'.cursor = s.cursor)
    (hcursorDone : s'.cursorDone = s.cursorDone) (hsafe : s'.misordered = s.misordered) :
    s'.CursorInv := by
  obtain ⟨done, heffects, hmade, hring⟩ := h.history
  rw [htodo] at hmade
  refine ⟨hgpu ▸ h.driver, by rw [hdone, hctrl]; exact h.bound, ⟨done ++ [e], ?_, ?_, ?_⟩, ?_, ?_, ?_,
    hsafe ▸ h.safe⟩
  · simp [hgpu, htodo', heffects, htodo]
  · rw [sinceReset_concat, htodo']
    exact hmade.2
  · refine hring.concat hreset hgpu ?_ ?_
    · simp [hmakes, hctrl]
    · simp +contextual [hctrl]
  · intro m d hmem
    rw [hgpu]
    rw [htodo'] at hmem
    exact h.named m d (htodo ▸ List.mem_cons_of_mem _ hmem)
  · rw [hctrl, hcursor]
    exact h.made
  · rw [pending, processed, hctrl, hdone, hcursor, hcursorDone]
    exact h.unref

theorem CursorInv.perform {s s' : Adapter} {entered : Bool} (h : s.CursorInv)
    (hP : s.CursorInTime (.perform entered)) (hs : s.step (.perform entered) = some s') :
    s'.CursorInv := by
  obtain ⟨e, todo, htodo, hperform⟩ := step_perform hs
  cases e with
  | ctrl n c =>
    cases perform_ctrl hperform
    exact h.performCtrl hP htodo
  | cursor n c =>
    cases perform_cursor hperform
    exact h.performCursor htodo entered
  | reset =>
    cases hperform
    obtain ⟨done, heffects, hmade, hring⟩ := h.history
    rw [htodo] at hmade
    refine ⟨h.driver, Nat.le_refl 0, ⟨done ++ [.reset], by simp [heffects, htodo], ?_, ?_⟩, ?_, ?_,
      ?_, h.safe⟩
    · rw [sinceReset_concat]
      exact hmade.2
    · exact ⟨fun obj _ k hsince => absurd hsince (not_madeSinceReset_reset k done _), nofun⟩
    · intro m d hmem
      exact h.named m d (htodo ▸ List.mem_cons_of_mem _ hmem)
    · nofun
    · nofun
  | getId id =>
    cases hperform
    exact h.performOther htodo (by simp) (by simp [Effect.makes]) rfl rfl rfl rfl rfl rfl rfl
  | putId id wasSet =>
    cases hperform
    exact h.performOther htodo (by simp) (by simp [Effect.makes]) rfl rfl rfl rfl rfl rfl rfl
  | delete n destroyed =>
    cases hperform
    exact h.performOther htodo (by simp) (by simp [Effect.makes]) rfl rfl rfl rfl rfl rfl rfl
  | setQueues up =>
    cases hperform
    exact h.performOther htodo (by simp) (by simp [Effect.makes]) rfl rfl rfl rfl rfl rfl rfl

/-- The host comes to the next control command. -/
theorem CursorInv.hostCtrl {s s' : Adapter} (h : s.CursorInv) (hP : s.CursorInTime .hostCtrl)
    (hs : s.step .hostCtrl = some s') : s'.CursorInv := by
  obtain ⟨hlt, rfl⟩ := step_hostCtrl hs
  obtain ⟨done, heffects, hmade, hring⟩ := h.history
  refine ⟨h.driver, hlt, ⟨done, heffects, hmade, hring.made, hring.unref⟩, h.named, h.made, ?_,
    h.safe⟩
  intro e he
  have htake : s.ctrl.take (s.ctrlDone + 1) = s.processed ++ [s.ctrl[s.ctrlDone]] :=
    List.take_succ_eq_append_getElem hlt
  by_contra hprocessed
  rw [processed, htake, Bool.not_eq_false, unrefIn_append] at hprocessed
  rcases hprocessed with hold | hnew
  · simp [h.unref e he] at hold
  · have hnot := hP s.ctrl[s.ctrlDone] (by simp [hlt]) e he
    simp [hnot] at hnew

/-- The host comes to the next cursor command and finds its resource ready. -/
theorem CursorInv.hostCursor {s s' : Adapter} (h : s.CursorInv) (hP : s.CursorInTime .hostCursor)
    (hs : s.step .hostCursor = some s') : s'.CursorInv := by
  obtain ⟨n, c, hnext, rfl⟩ := step_hostCursor hs
  obtain ⟨hlt, hget⟩ := List.getElem?_eq_some_iff.mp hnext
  obtain ⟨done, heffects, hmade, hring⟩ := h.history
  have hpending : s.pending = (n, c) :: s.cursor.drop (s.cursorDone + 1) := by
    rw [pending, List.drop_eq_getElem_cons hlt, hget]
  have hready : s.Ready n := by
    refine ⟨fun k => ?_, h.unref (n, c) (by simp [hpending])⟩
    have hin := h.made (n, c) (List.mem_of_getElem? hnext) k
    rw [← List.take_append_drop s.ctrlDone s.ctrl, isIn_append] at hin
    refine hin.resolve_right fun hwaiting => ?_
    have hnot := hP (n, c) hnext k
    rw [waiting] at hnot
    simp [hnot] at hwaiting
  refine ⟨h.driver, h.bound, ⟨done, heffects, hmade, hring.made, hring.unref⟩, h.named, h.made,
    ?_, ?_⟩
  · intro e he
    exact h.unref e (hpending ▸ List.mem_cons_of_mem _ he)
  · simp [h.safe, hready]

theorem CursorInv.step {s s' : Adapter} {e : AdapterEvent} (h : s.CursorInv)
    (hP : s.CursorInTime e) (hs : s.step e = some s') : s'.CursorInv := by
  cases e with
  | call c => exact h.call hP hs
  | perform entered => exact h.perform hP hs
  | hostCtrl => exact h.hostCtrl hP hs
  | hostCursor => exact h.hostCursor hP hs

/-- **The resource of a cursor command is ready** when the host comes to the command, in every
run in which neither consumer runs ahead of the other. -/
theorem cursor_ready (mode : CurrentBddMode) {s : Adapter}
    (h : (system mode).ReachableUnder CursorInTime s) : s.misordered = false := by
  have hstart : (start mode).CursorInv :=
    ⟨⟨Gpu.numbered_start mode, nofun, nofun⟩, Nat.le_refl 0, ⟨[], rfl, trivial, nofun, nofun⟩,
      nofun, nofun, nofun, rfl⟩
  exact (h.induct CursorInv hstart fun _ _ _ hInv hP hs => hInv.step hP hs).safe

/-- Two shapes and a move, with a host that works through the control ring before it looks at the
cursor ring, and comes to the cursor commands for the first shape before its `UNREF`. -/
def shapesInTime : List AdapterEvent :=
  .call (.setPointerShape arrow allocated) :: List.replicate 5 (.perform true) ++
    List.replicate 3 .hostCtrl ++ [.hostCursor] ++
    .call (.setPointerPosition ⟨true, 5, 5⟩) :: [.perform true, .hostCursor] ++
    .call (.setPointerShape arrow allocated) :: List.replicate 9 (.perform true) ++
    List.replicate 5 .hostCtrl ++ [.hostCursor]

theorem cursor_ready_shapesInTime :
    ∃ s, (system firstMode).runUnder CursorInTime shapesInTime = some s ∧ s.cursorDone = 3 ∧
      s.ctrlDone = 8 ∧ s.misordered = false := by
  have h : ∀ s, (system firstMode).runUnder CursorInTime shapesInTime = some s →
      s.misordered = false :=
    fun s hs => cursor_ready firstMode (System.reachable_of_run hs)
  exact ⟨_, rfl, rfl, rfl, h _ rfl⟩

/-- A shape, with a host that comes to the cursor ring first. -/
def cursorRingFirst : List AdapterEvent :=
  .call (.setPointerShape arrow allocated) :: List.replicate 5 (.perform true) ++ [.hostCursor]

theorem not_always_ready : ¬∀ mode s, (system mode).Reachable s → s.misordered = false := by
  intro h
  have hrun : ∃ s, (system firstMode).run cursorRingFirst = some s ∧ s.misordered = true :=
    ⟨_, rfl, rfl⟩
  obtain ⟨s, hs, hmisordered⟩ := hrun
  simp [h firstMode s (System.reachable_of_run hs)] at hmisordered

end Adapter

end VioGpu.Device
