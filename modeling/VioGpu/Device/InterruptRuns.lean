import VioGpu.Device.Interrupt

/-!
# Runs of the interrupt routine and the DPC

A completion that the DPC has not taken off its ring is on the way to it: bit 0 of the ISR
register is set, or `InterruptRoutine` has read 1, or the reason is pending, or the DPC has not
got past the ring. The same holds of a configuration change, bit 1 and the value 3. The two
readings of the register that pass something over, 2 and 3, break this unless the reason is
under way for another cause (`NothingPassedOver`).
-/

namespace VioGpu.Device

open Lib VirtIO Queue

/-! ## What is on the way to the DPC -/

/-- This run of `DpcRoutine` has yet to find the control ring empty. -/
def DpcAt.drainsCtrl : DpcAt → Bool
  | .display r | .displayHolds r _ => r.display
  | _ => false

def DpcAt.drainsCursor : DpcAt → Bool
  | .display r | .displayHolds r _ | .cursor r | .cursorHolds r _ => r.cursor
  | _ => false

/-- This run of `DpcRoutine` will set `m_ConfigUpdateEvent`. -/
def DpcAt.setsEvent : DpcAt → Bool
  | .exchange => false
  | .display r | .displayHolds r _ | .cursor r | .cursorHolds r _ | .change r => r.change

/-- The vbuffer in the hands of `DpcRoutine`. -/
def DpcAt.holds : DpcAt → List Nat
  | .displayHolds _ v => [v.id]
  | .cursorHolds _ b => [b]
  | _ => []

namespace Irq

def CtrlOwed (s : Irq) : Prop := s.pendingWorks.display = true ∨ s.dpc.any DpcAt.drainsCtrl = true

def CursorOwed (s : Irq) : Prop :=
  s.pendingWorks.cursor = true ∨ s.dpc.any DpcAt.drainsCursor = true

def EventOwed (s : Irq) : Prop := s.pendingWorks.change = true ∨ s.dpc.any DpcAt.setsEvent = true

instance (s : Irq) : Decidable s.CtrlOwed := inferInstanceAs (Decidable (_ ∨ _))
instance (s : Irq) : Decidable s.CursorOwed := inferInstanceAs (Decidable (_ ∨ _))
instance (s : Irq) : Decidable s.EventOwed := inferInstanceAs (Decidable (_ ∨ _))

/-- What a reading of the register that is dropped, or taken for a configuration change
alone, passes over is on the way already. -/
def NothingPassedOver (s : Irq) : IrqEvent → Prop
  | .readIsr =>
    (s.isr.value = 2 → s.changeOwed = false ∨ s.EventOwed) ∧
      (s.isr.value = 3 → (s.ctrl.used = [] ∨ s.CtrlOwed) ∧ (s.cursor.used = [] ∨ s.CursorOwed))
  | _ => True

instance (s : Irq) : (e : IrqEvent) → Decidable (s.NothingPassedOver e)
  | .readIsr => inferInstanceAs (Decidable (_ ∧ _))
  | .addCtrl .. | .addCursor .. | .completeCtrl .. | .completeCursor .. | .configChange
  | .interrupt | .dpcStart | .dpcStep | .workerWakes => isTrue trivial

/-! ## The invariant -/

/-- `AskDisplayInfo` is the only command with an event. -/
def EventIsDisplayInfo (v : CtrlVbuf) : Prop := v.event = true → v.cmd = .getDisplayInfo

structure Inv (s : Irq) : Prop where
  ctrl : s.ctrl.used ≠ [] → s.isr.queue = true ∨ s.isrstat = some 1 ∨ s.CtrlOwed
  cursor : s.cursor.used ≠ [] → s.isr.queue = true ∨ s.isrstat = some 1 ∨ s.CursorOwed
  change : s.changeOwed = true → s.isr.config = true ∨ s.isrstat = some 3 ∨ s.EventOwed
  queued : s.pendingWorks ≠ .none → s.dpcQueued = true ∨ s.dpc.isSome = true
  handled : ∀ b, s.dequeued.count b =
    s.released.count b + s.signalled.count b + (s.dpc.elim [] DpcAt.holds).count b
  events : ∀ v ∈ s.ctrl.tokens, EventIsDisplayInfo v
  heldEvent : ∀ r v, s.dpc = some (.displayHolds r v) → EventIsDisplayInfo v

/-- In a quiescent state nothing can be on the way. -/
theorem Inv.drained {s : Irq} (h : Inv s) (hq : s.Quiescent) : s.Drained := by
  have hOwed : ¬s.CtrlOwed ∧ ¬s.CursorOwed ∧ ¬s.EventOwed := by
    simp [CtrlOwed, CursorOwed, EventOwed, hq.noWork, hq.notRunning, Reasons.none]
  obtain ⟨hCtrl, hCursor, hEvent⟩ := hOwed
  refine ⟨?_, ?_, ?_, ?_⟩
  · by_contra hne
    rcases h.ctrl hne with hisr | hstat | hOwed
    · simp [hq.isr] at hisr
    · simp [hq.isrstat] at hstat
    · exact hCtrl hOwed
  · by_contra hne
    rcases h.cursor hne with hisr | hstat | hOwed
    · simp [hq.isr] at hisr
    · simp [hq.isrstat] at hstat
    · exact hCursor hOwed
  · intro b
    simpa [hq.notRunning] using h.handled b
  · by_contra hne
    rcases h.change (by simpa using hne) with hisr | hstat | hOwed
    · simp [hq.isr] at hisr
    · simp [hq.isrstat] at hstat
    · exact hEvent hOwed

/-! ## Steps of the driver that fills the rings, and of the device -/

theorem inv_start (ctrlNum cursorNum : Nat) : Inv (start ctrlNum cursorNum) := by
  refine ⟨?_, ?_, ?_, ?_, ?_, ?_, ?_⟩ <;> simp [start, Channel.new, Channel.tokens]

theorem Inv.addCtrl {s : Irq} {ch : Channel CtrlVbuf} {b n : Nat} {cmd : CtrlCommand}
    (h : Inv s) (hadd : s.ctrl.addBuf (.of b cmd) n = some ch) : Inv { s with ctrl := ch } := by
  refine { h with ctrl := ?_, events := ?_ }
  · intro hne
    rw [Channel.used_addBuf hadd] at hne
    exact h.ctrl hne
  · intro v hv
    rcases List.mem_cons.mp ((Channel.tokens_addBuf hadd).mem_iff.mp hv) with rfl | hv
    · simp [EventIsDisplayInfo, CtrlVbuf.of]
    · exact h.events v hv

theorem Inv.addCursor {s : Irq} {ch : Channel Nat} {b n : Nat}
    (h : Inv s) (hadd : s.cursor.addBuf b n = some ch) : Inv { s with cursor := ch } := by
  refine { h with cursor := ?_ }
  intro hne
  rw [Channel.used_addBuf hadd] at hne
  exact h.cursor hne

theorem Inv.completeCtrl {s : Irq} {ch : Channel CtrlVbuf} {j : Nat}
    (h : Inv s) (hdone : s.ctrl.complete j = some ch) :
    Inv { s with ctrl := ch, isr := { s.isr with queue := true } } where
  ctrl _ := .inl rfl
  cursor _ := .inl rfl
  change := h.change
  queued := h.queued
  handled := h.handled
  events v hv := h.events v ((Channel.tokens_complete hdone).mem_iff.mp hv)
  heldEvent := h.heldEvent

theorem Inv.completeCursor {s : Irq} (ch : Channel Nat) (h : Inv s) :
    Inv { s with cursor := ch, isr := { s.isr with queue := true } } where
  ctrl _ := .inl rfl
  cursor _ := .inl rfl
  change := h.change
  queued := h.queued
  handled := h.handled
  events := h.events
  heldEvent := h.heldEvent

theorem Inv.configChange {s : Irq} (h : Inv s) :
    Inv { s with isr := { s.isr with config := true }, changeOwed := true } where
  ctrl := h.ctrl
  cursor := h.cursor
  change _ := .inl rfl
  queued := h.queued
  handled := h.handled
  events := h.events
  heldEvent := h.heldEvent

/-! ## `InterruptRoutine` -/

theorem Isr.value_of_queue {r : Isr} (h : r.queue = true) : r.value = 1 ∨ r.value = 3 := by
  cases hc : r.config <;> simp [Isr.value, h, hc]

theorem Isr.value_of_config {r : Isr} (h : r.config = true) : r.value = 2 ∨ r.value = 3 := by
  cases hq : r.queue <;> simp [Isr.value, h, hq]

/-- What the reading passes over is under way by `hP`. -/
theorem Inv.readIsr {s : Irq} (h : Inv s) (hstat : s.isrstat = none)
    (hP : s.NothingPassedOver .readIsr) :
    Inv { s with isrstat := some s.isr.value, isr := ⟨false, false⟩ } := by
  obtain ⟨hTwo, hThree⟩ := hP
  refine { h with ctrl := ?_, cursor := ?_, change := ?_ }
  · intro hne
    rcases h.ctrl hne with hisr | hread | hOwed
    · rcases Isr.value_of_queue hisr with hv | hv
      · exact .inr (.inl (congrArg some hv))
      · exact .inr (.inr ((hThree hv).1.resolve_left hne))
    · simp [hstat] at hread
    · exact .inr (.inr hOwed)
  · intro hne
    rcases h.cursor hne with hisr | hread | hOwed
    · rcases Isr.value_of_queue hisr with hv | hv
      · exact .inr (.inl (congrArg some hv))
      · exact .inr (.inr ((hThree hv).2.resolve_left hne))
    · simp [hstat] at hread
    · exact .inr (.inr hOwed)
  · intro hchange
    rcases h.change hchange with hisr | hread | hOwed
    · rcases Isr.value_of_config hisr with hv | hv
      · refine .inr (.inr ((hTwo hv).resolve_left ?_))
        simp [show s.changeOwed = true from hchange]
      · exact .inr (.inl (congrArg some hv))
    · simp [hstat] at hread
    · exact .inr (.inr hOwed)

theorem Inv.interrupt {s : Irq} {isrstat : Nat} (h : Inv s) (hstat : s.isrstat = some isrstat) :
    Inv { s.interruptRoutine isrstat with isrstat := none } := by
  unfold interruptRoutine
  split_ifs with hOne hThree
  · refine { h with ctrl := ?_, cursor := ?_, change := ?_, queued := ?_ }
    · exact fun _ => .inr (.inr (.inl rfl))
    · exact fun _ => .inr (.inr (.inl rfl))
    · intro hchange
      rcases h.change hchange with hisr | hread | hOwed
      · exact .inl hisr
      · simp [hstat, hOne] at hread
      · exact .inr (.inr hOwed)
    · exact fun _ => .inl rfl
  · refine { h with ctrl := ?_, cursor := ?_, change := ?_, queued := ?_ }
    · intro hne
      rcases h.ctrl hne with hisr | hread | hOwed
      · exact .inl hisr
      · simp [hstat, hThree] at hread
      · exact .inr (.inr hOwed)
    · intro hne
      rcases h.cursor hne with hisr | hread | hOwed
      · exact .inl hisr
      · simp [hstat, hThree] at hread
      · exact .inr (.inr hOwed)
    · exact fun _ => .inr (.inr (.inl rfl))
    · exact fun _ => .inl rfl
  · refine { h with ctrl := ?_, cursor := ?_, change := ?_ }
    · intro hne
      rcases h.ctrl hne with hisr | hread | hOwed
      · exact .inl hisr
      · simp [hstat, hOne] at hread
      · exact .inr (.inr hOwed)
    · intro hne
      rcases h.cursor hne with hisr | hread | hOwed
      · exact .inl hisr
      · simp [hstat, hOne] at hread
      · exact .inr (.inr hOwed)
    · intro hchange
      rcases h.change hchange with hisr | hread | hOwed
      · exact .inl hisr
      · simp [hstat, hThree] at hread
      · exact .inr (.inr hOwed)

/-! ## `DpcRoutine` -/

theorem Inv.dpcStart {s : Irq} (h : Inv s) (hidle : s.dpc = none) :
    Inv { s with dpcQueued := false, dpc := some .exchange } := by
  refine { h with
    ctrl := ?_, cursor := ?_, change := ?_, queued := ?_, handled := ?_, heldEvent := ?_ }
  · intro hne
    simpa [CtrlOwed, hidle, DpcAt.drainsCtrl] using h.ctrl hne
  · intro hne
    simpa [CursorOwed, hidle, DpcAt.drainsCursor] using h.cursor hne
  · intro hchange
    simpa [EventOwed, hidle, DpcAt.setsEvent] using h.change hchange
  · exact fun _ => .inr rfl
  · intro b
    simpa [hidle, DpcAt.holds] using h.handled b
  · intro r v hv
    simp at hv

/-- The exchange hands the pending reasons to the loop body, or ends the run. -/
theorem Inv.exchange {s : Irq} (h : Inv s) (hat : s.dpc = some .exchange) :
    Inv (s.dpcRoutine .exchange) := by
  have hhandled := h.handled
  simp only [hat, Option.elim_some, DpcAt.holds] at hhandled
  simp only [dpcRoutine]
  split_ifs with hnone
  · refine { h with
      ctrl := ?_, cursor := ?_, change := ?_, queued := ?_, handled := ?_, heldEvent := ?_ }
    · intro hne
      simpa [CtrlOwed, hat, hnone, Reasons.none, DpcAt.drainsCtrl] using h.ctrl hne
    · intro hne
      simpa [CursorOwed, hat, hnone, Reasons.none, DpcAt.drainsCursor] using h.cursor hne
    · intro hchange
      simpa [EventOwed, hat, hnone, Reasons.none, DpcAt.setsEvent] using h.change hchange
    · exact fun hne => absurd rfl hne
    · exact hhandled
    · simp
  · refine { h with
      ctrl := ?_, cursor := ?_, change := ?_, queued := ?_, handled := ?_, heldEvent := ?_ }
    · intro hne
      simpa [CtrlOwed, hat, Reasons.none, DpcAt.drainsCtrl] using h.ctrl hne
    · intro hne
      simpa [CursorOwed, hat, Reasons.none, DpcAt.drainsCursor] using h.cursor hne
    · intro hchange
      simpa [EventOwed, hat, Reasons.none, DpcAt.setsEvent] using h.change hchange
    · exact fun hne => absurd rfl hne
    · exact hhandled
    · simp

/-- A step of the loop body. It owes what the step before it owed, unless it has found the
ring empty or has set the event. -/
theorem Inv.dpcTo {s s' : Irq} {d d' : DpcAt} (h : Inv s) (hat : s.dpc = some d)
    (hat' : s'.dpc = some d') (hisr : s'.isr = s.isr) (hstat : s'.isrstat = s.isrstat)
    (hwork : s'.pendingWorks = s.pendingWorks)
    (hctrl : s'.ctrl.used ≠ [] → s.ctrl.used ≠ [] ∧ (d.drainsCtrl = true → d'.drainsCtrl = true))
    (hcursor : s'.cursor.used ≠ [] →
      s.cursor.used ≠ [] ∧ (d.drainsCursor = true → d'.drainsCursor = true))
    (hchange : s'.changeOwed = true →
      s.changeOwed = true ∧ (d.setsEvent = true → d'.setsEvent = true))
    (hhandled : ∀ b, s'.dequeued.count b =
      s'.released.count b + s'.signalled.count b + d'.holds.count b)
    (hevents : ∀ v ∈ s'.ctrl.tokens, EventIsDisplayInfo v)
    (hheld : ∀ r v, d' = .displayHolds r v → EventIsDisplayInfo v) : Inv s' := by
  refine ⟨?_, ?_, ?_, ?_, ?_, hevents, ?_⟩
  · intro hne
    obtain ⟨hne, hd⟩ := hctrl hne
    have hway := h.ctrl hne
    simp only [CtrlOwed, hat, Option.any_some] at hway
    simp only [CtrlOwed, hat', hisr, hstat, hwork, Option.any_some]
    exact hway.imp_right fun hway => hway.imp_right fun hway => hway.imp_right hd
  · intro hne
    obtain ⟨hne, hd⟩ := hcursor hne
    have hway := h.cursor hne
    simp only [CursorOwed, hat, Option.any_some] at hway
    simp only [CursorOwed, hat', hisr, hstat, hwork, Option.any_some]
    exact hway.imp_right fun hway => hway.imp_right fun hway => hway.imp_right hd
  · intro hne
    obtain ⟨hne, hd⟩ := hchange hne
    have hway := h.change hne
    simp only [EventOwed, hat, Option.any_some] at hway
    simp only [EventOwed, hat', hisr, hstat, hwork, Option.any_some]
    exact hway.imp_right fun hway => hway.imp_right fun hway => hway.imp_right hd
  · intro _
    simp [hat']
  · simpa [hat'] using hhandled
  · intro r v hv
    rw [hat'] at hv
    exact hheld r v (Option.some_inj.mp hv)

/-- A step that takes nothing and lets go of nothing. -/
theorem Inv.advance {s : Irq} {d d' : DpcAt} (h : Inv s) (hat : s.dpc = some d)
    (hholds : d.holds = []) (hholds' : d'.holds = [])
    (hctrl : s.ctrl.used ≠ [] → d.drainsCtrl = true → d'.drainsCtrl = true)
    (hcursor : s.cursor.used ≠ [] → d.drainsCursor = true → d'.drainsCursor = true)
    (hchange : s.changeOwed = true → d.setsEvent = true → d'.setsEvent = true) :
    Inv { s with dpc := some d' } := by
  refine h.dpcTo hat rfl rfl rfl rfl (fun hne => ⟨hne, hctrl hne⟩)
    (fun hne => ⟨hne, hcursor hne⟩) (fun hne => ⟨hne, hchange hne⟩) ?_ h.events ?_
  · intro b
    have hb := h.handled b
    rw [hat, Option.elim_some, hholds] at hb
    rw [hholds']
    exact hb
  · rintro r v rfl
    simp [DpcAt.holds] at hholds'

theorem Inv.display {s : Irq} {r : Reasons} (h : Inv s) (hat : s.dpc = some (.display r)) :
    Inv (s.dpcRoutine (.display r)) := by
  simp only [dpcRoutine]
  split_ifs with hr
  · split
    · rename_i v ch hget
      have hne : s.ctrl.used ≠ [] := fun hnil => by
        simp [Channel.getBuf_eq_none_iff.mpr hnil] at hget
      have htokens := Channel.tokens_getBuf hget
      refine h.dpcTo hat rfl rfl rfl rfl (fun _ => ⟨hne, id⟩) (fun hne => ⟨hne, id⟩)
        (fun hne => ⟨hne, id⟩) ?_ ?_ ?_
      · intro b
        have hb := h.handled b
        simp only [hat, Option.elim_some, DpcAt.holds, List.count_nil, Nat.add_zero] at hb
        simp only [List.count_append, DpcAt.holds, hb]
      · exact fun w hw => h.events w (htokens.mem_iff.mpr (List.mem_cons_of_mem _ hw))
      · intro r' v' hv
        cases hv
        exact h.events _ (htokens.mem_iff.mpr List.mem_cons_self)
    · rename_i hget
      exact h.advance hat rfl rfl (fun hne => absurd (Channel.getBuf_eq_none_iff.mp hget) hne)
        (fun _ => id) (fun _ => id)
  · exact h.advance hat rfl rfl (fun _ hd => absurd hd hr) (fun _ => id) (fun _ => id)

theorem Inv.displayHolds {s : Irq} {r : Reasons} {v : CtrlVbuf} (h : Inv s)
    (hat : s.dpc = some (.displayHolds r v)) : Inv (s.dpcRoutine (.displayHolds r v)) := by
  have hhandled := h.handled
  simp only [hat, Option.elim_some, DpcAt.holds] at hhandled
  simp only [dpcRoutine, handleCtrl]
  split_ifs with hevent hcmd
  · refine h.dpcTo hat rfl rfl rfl rfl (fun hne => ⟨hne, id⟩) (fun hne => ⟨hne, id⟩)
      (fun hne => ⟨hne, id⟩) ?_ h.events (by simp)
    intro b
    simp only [List.count_append, DpcAt.holds, List.count_nil, hhandled b]
    omega
  · refine h.dpcTo hat rfl rfl rfl rfl (fun hne => ⟨hne, id⟩) (fun hne => ⟨hne, id⟩)
      (fun hne => ⟨hne, id⟩) ?_ h.events (by simp)
    intro b
    simp only [List.count_append, DpcAt.holds, List.count_nil, hhandled b]
    omega
  · -- an event belongs to `GET_DISPLAY_INFO`, so the default branch is never taken
    exact absurd (h.heldEvent r v hat (by simpa using hevent)) hcmd

theorem Inv.cursorRing {s : Irq} {r : Reasons} (h : Inv s) (hat : s.dpc = some (.cursor r)) :
    Inv (s.dpcRoutine (.cursor r)) := by
  simp only [dpcRoutine]
  split_ifs with hr
  · split
    · rename_i b ch hget
      have hne : s.cursor.used ≠ [] := fun hnil => by
        simp [Channel.getBuf_eq_none_iff.mpr hnil] at hget
      refine h.dpcTo hat rfl rfl rfl rfl (fun hne => ⟨hne, id⟩) (fun _ => ⟨hne, id⟩)
        (fun hne => ⟨hne, id⟩) ?_ h.events (by simp)
      intro c
      have hc := h.handled c
      simp only [hat, Option.elim_some, DpcAt.holds, List.count_nil, Nat.add_zero] at hc
      simp only [List.count_append, DpcAt.holds, hc]
    · rename_i hget
      exact h.advance hat rfl rfl (fun _ => id)
        (fun hne => absurd (Channel.getBuf_eq_none_iff.mp hget) hne) (fun _ => id)
  · exact h.advance hat rfl rfl (fun _ => id) (fun _ hd => absurd hd hr) (fun _ => id)

theorem Inv.cursorHolds {s : Irq} {r : Reasons} {b : Nat} (h : Inv s)
    (hat : s.dpc = some (.cursorHolds r b)) : Inv (s.dpcRoutine (.cursorHolds r b)) := by
  refine h.dpcTo hat rfl rfl rfl rfl (fun hne => ⟨hne, id⟩) (fun hne => ⟨hne, id⟩)
    (fun hne => ⟨hne, id⟩) ?_ h.events (by simp)
  intro c
  have hc := h.handled c
  simp only [hat, Option.elim_some, DpcAt.holds] at hc
  simp only [dpcRoutine, List.count_append, DpcAt.holds, List.count_nil, hc]
  omega

theorem Inv.changeReason {s : Irq} {r : Reasons} (h : Inv s) (hat : s.dpc = some (.change r)) :
    Inv (s.dpcRoutine (.change r)) := by
  simp only [dpcRoutine]
  split_ifs with hr
  · have hset : Inv { s with configUpdateEvent := true, changeOwed := false } :=
      { h with change := fun hfalse => nomatch hfalse }
    exact hset.advance hat rfl rfl (fun _ => id) (fun _ => id) (fun hfalse => nomatch hfalse)
  · exact h.advance hat rfl rfl (fun _ => id) (fun _ => id) (fun _ hd => absurd hd hr)

theorem Inv.dpcStep {s : Irq} {d : DpcAt} (h : Inv s) (hat : s.dpc = some d) :
    Inv (s.dpcRoutine d) := by
  cases d with
  | exchange => exact h.exchange hat
  | display r => exact h.display hat
  | displayHolds r v => exact h.displayHolds hat
  | cursor r => exact h.cursorRing hat
  | cursorHolds r b => exact h.cursorHolds hat
  | change r => exact h.changeReason hat

/-! ## Runs -/

theorem Inv.step {s s' : Irq} {e : IrqEvent} (h : Inv s) (hP : s.NothingPassedOver e)
    (hs : s.step e = some s') : Inv s' := by
  cases e with
  | addCtrl b cmd n =>
    obtain ⟨ch, hadd, rfl⟩ := Option.map_eq_some_iff.mp hs
    exact h.addCtrl hadd
  | addCursor b n =>
    obtain ⟨ch, hadd, rfl⟩ := Option.map_eq_some_iff.mp hs
    exact h.addCursor hadd
  | completeCtrl j =>
    obtain ⟨ch, hdone, rfl⟩ := Option.map_eq_some_iff.mp hs
    exact h.completeCtrl hdone
  | completeCursor j =>
    obtain ⟨ch, hdone, rfl⟩ := Option.map_eq_some_iff.mp hs
    exact h.completeCursor ch
  | configChange =>
    cases hs
    exact h.configChange
  | readIsr =>
    simp only [Irq.step] at hs
    split_ifs at hs with hstat
    cases hs
    exact h.readIsr (Option.isNone_iff_eq_none.mp hstat) hP
  | interrupt =>
    obtain ⟨isrstat, hstat, hs⟩ := Option.bind_eq_some_iff.mp hs
    cases hs
    exact h.interrupt hstat
  | dpcStart =>
    simp only [Irq.step] at hs
    split_ifs at hs with hidle
    cases hs
    exact h.dpcStart (Option.isNone_iff_eq_none.mp hidle.2)
  | dpcStep =>
    obtain ⟨d, hat, rfl⟩ := Option.map_eq_some_iff.mp hs
    exact h.dpcStep hat
  | workerWakes =>
    simp only [Irq.step] at hs
    split_ifs at hs
    cases hs
    exact { h with }

/-- **No lost interrupt.** In every run in which no reading of the ISR register passes over
anything that is not under way already, every quiescent state is drained. -/
theorem quiescent_drained (ctrlNum cursorNum : Nat) {s : Irq}
    (h : (system ctrlNum cursorNum).ReachableUnder NothingPassedOver s) (hq : s.Quiescent) :
    s.Drained :=
  (h.induct Inv (inv_start ctrlNum cursorNum) fun _ _ _ hInv hP hs => hInv.step hP hs).drained hq

/-- A completion and a configuration change arrive while the DPC for an earlier completion is
queued, and are read as 3. -/
def coalescedInTime : List IrqEvent :=
  [.addCtrl 0 (.resourceUnref 1) 2, .addCtrl 1 .getDisplayInfo 2, .completeCtrl 0, .readIsr,
    .interrupt, .completeCtrl 0, .configChange, .readIsr, .interrupt, .dpcStart, .dpcStep,
    .dpcStep, .dpcStep, .dpcStep, .dpcStep, .dpcStep, .dpcStep, .dpcStep, .dpcStep]

theorem quiescent_drained_coalesced :
    ∃ s, (system 8 8).runUnder NothingPassedOver coalescedInTime = some s ∧ s.Quiescent ∧
      s.released = [0] ∧ s.signalled = [1] ∧ s.Drained := by
  have hDrained : ∀ s, (system 8 8).runUnder NothingPassedOver coalescedInTime = some s →
      s.Quiescent → s.Drained := fun s hs hq =>
    quiescent_drained 8 8 (System.reachable_of_run hs) hq
  have hq : ∀ s, (system 8 8).runUnder NothingPassedOver coalescedInTime = some s →
      s.Quiescent := by
    intro s hs
    cases hs
    exact ⟨rfl, rfl, rfl, rfl, rfl⟩
  exact ⟨_, rfl, hq _ rfl, rfl, rfl, hDrained _ rfl (hq _ rfl)⟩

/-- A completion and a configuration change arrive together, are read as 3, and the DPC acts
on the change alone. -/
def coalesced : List IrqEvent :=
  [.addCtrl 0 .getDisplayInfo 2, .completeCtrl 0, .configChange, .readIsr, .interrupt,
    .dpcStart, .dpcStep, .dpcStep, .dpcStep, .dpcStep, .dpcStep]

/-- The completed vbuffer stays on the ring, and `AskDisplayInfo` waits for its event. -/
theorem not_always_drained :
    ¬∀ ctrlNum cursorNum s, (system ctrlNum cursorNum).Reachable s → s.Quiescent → s.Drained := by
  intro h
  have hrun : ∃ s, (system 8 8).run coalesced = some s ∧ s.Quiescent ∧
      s.ctrl.used = [(.of 0 .getDisplayInfo, 2)] :=
    ⟨_, rfl, ⟨rfl, rfl, rfl, rfl, rfl⟩, rfl⟩
  obtain ⟨s, hs, hq, hused⟩ := hrun
  have hDrained := h 8 8 s (System.reachable_of_run hs) hq
  rw [hDrained.ctrl] at hused
  cases hused

end Irq

end VioGpu.Device
