import VioGpu.Device.Callbacks
import VioGpu.Device.QueueMemoryRuns
import VioGpu.Device.QueueUse

/-!
# Queues are used while they are open

What a callback or another thread has yet to do on a queue object, it may do as long as the queue
is open. `GpuDeviceInit` keeps an open queue open, since it forgets the old virtqueues and deletes
none of them; only `GpuDeviceClose` ends it. So no queue is misused if callbacks with commands and
the worker begin with open queues and `GpuDeviceClose` waits for the other threads
(`queueUse_open`); the driver sees to neither.
-/

namespace VioGpu.Device

open Lib Queue

theorem QueueUse.next_queue {u v : QueueUse} {ok : Bool} (h : v ∈ u.next ok) :
    v.queue = u.queue := by
  obtain ⟨q, op⟩ := u
  cases q <;> cases op <;> cases ok <;> simp [QueueUse.next] at h
  all_goals first | exact congrArg QueueUse.queue h | (rcases h with rfl | rfl <;> rfl)

/-! ## Which callbacks use the queues -/

/-- The callback queues commands, as its arguments and the resources tell. -/
def QueueCall.UsesQueues (g : Gpu) : QueueCall → Prop
  | .setCurrentMode modes mode _ => ∃ m ∈ modes, m.modeNumber = mode
  | .setPointerShape .. | .setPointerPosition _ | .executePresentDisplayOnly .. => True
  | .setPowerState .. => False
  | .remove => g.cursorBuf ≠ none ∨ g.frameBuf ≠ none

instance (g : Gpu) (c : QueueCall) : Decidable (c.UsesQueues g) :=
  match c with
  | .setCurrentMode modes mode _ => inferInstanceAs (Decidable (∃ m ∈ modes, m.modeNumber = mode))
  | .setPointerShape .. | .setPointerPosition _ | .executePresentDisplayOnly .. => isTrue trivial
  | .setPowerState .. => isFalse id
  | .remove => inferInstanceAs (Decidable (g.cursorBuf ≠ none ∨ g.frameBuf ≠ none))

/-- A function of the device from its beginning. -/
def Task.Whole : Task → Prop
  | .gpuDeviceInit _ | .gpuDeviceClose | .stop => True
  | .use _ | .findQueues _ | .setCtrl | .setCursor | .ready | .deleteQueues | .closeCtrl
  | .closeCursor => False

theorem mem_commandTasks {g g' : Gpu} {t : Task} (h : t ∈ commandTasks g g') :
    ∃ q, t = .use ⟨q, .addBuf⟩ := by
  obtain ⟨e, -, he⟩ := List.mem_filterMap.mp h
  obtain ⟨q, -, rfl⟩ := Option.map_eq_some_iff.mp he
  exact ⟨q, rfl⟩

theorem commandTasks_self (g : Gpu) : commandTasks g g = [] := by
  simp [commandTasks]

theorem UsesQueues.of_setCurrentMode {g g' : Gpu} {modes : List VideoModeInformation} {mode : Nat}
    {a : Allocs} {ok : Bool} (h : g.setCurrentMode modes mode a = some (ok, g'))
    (hne : commandTasks g g' ≠ []) : ∃ m ∈ modes, m.modeNumber = mode := by
  by_contra hnone
  apply hne
  have hfind : modes.find? (·.modeNumber = mode) = none := by
    refine List.find?_eq_none.mpr fun m hm heq => hnone ⟨m, hm, by simpa using heq⟩
  unfold Gpu.setCurrentMode at h
  rw [hfind] at h
  cases h
  exact commandTasks_self g

theorem UsesQueues.of_remove {g g₁ g₂ : Gpu} (h₁ : g.destroyCursor = some g₁)
    (h₂ : g₁.destroyFrameBuffer = some g₂) (hne : commandTasks g g₂ ≠ []) :
    g.cursorBuf ≠ none ∨ g.frameBuf ≠ none := by
  by_contra hnone
  obtain ⟨hcursor, hframe⟩ := not_or.mp hnone
  apply hne
  rw [not_not] at hcursor hframe
  unfold Gpu.destroyCursor at h₁
  rw [hcursor] at h₁
  cases h₁
  unfold Gpu.destroyFrameBuffer at h₂
  rw [hframe] at h₂
  cases h₂
  exact commandTasks_self g

theorem powerTask_whole (state : DevicePowerState) (o : InitOutcomes) :
    (powerTask state o).Whole := by
  cases state <;> exact trivial

/-- The steps of a callback: first operations, if it uses the queues, and then whole functions. -/
theorem QueueCall.run_tasks {g g' : Gpu} {c : QueueCall} {todo : List Task}
    (h : c.run g = some (g', todo)) :
    ∃ uses rest, todo = uses ++ rest ∧ (∀ t ∈ uses, ∃ u, t = .use u) ∧
      (∀ t ∈ rest, t.Whole) ∧ (uses ≠ [] → c.UsesQueues g) := by
  have hcommands : ∀ g' : Gpu, (commandTasks g g' ≠ [] → c.UsesQueues g) →
      ∃ uses rest, commandTasks g g' = uses ++ rest ∧ (∀ t ∈ uses, ∃ u, t = .use u) ∧
        (∀ t ∈ rest, t.Whole) ∧ (uses ≠ [] → c.UsesQueues g) := by
    intro g' huses
    refine ⟨commandTasks g g', [], (List.append_nil _).symm, fun t ht => ?_, by simp, huses⟩
    obtain ⟨q, rfl⟩ := mem_commandTasks ht
    exact ⟨_, rfl⟩
  cases c with
  | setCurrentMode modes mode a =>
    obtain ⟨⟨ok, g₁⟩, hg, h⟩ := Option.bind_eq_some_iff.mp h
    cases h
    exact hcommands g' (UsesQueues.of_setCurrentMode hg)
  | setPointerShape shape a =>
    obtain ⟨g₁, -, h⟩ := Option.bind_eq_some_iff.mp h
    cases h
    exact hcommands g' fun _ => trivial
  | setPointerPosition p =>
    obtain ⟨g₁, -, h⟩ := Option.bind_eq_some_iff.mp h
    cases h
    exact hcommands g' fun _ => trivial
  | executePresentDisplayOnly bpp moves dirtyRects =>
    obtain ⟨g₁, -, h⟩ := Option.bind_eq_some_iff.mp h
    cases h
    exact hcommands g' fun _ => trivial
  | setPowerState state first second =>
    cases h
    refine ⟨[], [powerTask state first, powerTask state second], rfl, by simp, fun t ht => ?_,
      fun hne => absurd rfl hne⟩
    rcases List.mem_pair.mp ht with rfl | rfl <;> exact powerTask_whole _ _
  | remove =>
    obtain ⟨g₁, h₁, h⟩ := Option.bind_eq_some_iff.mp h
    obtain ⟨g₂, h₂, h⟩ := Option.bind_eq_some_iff.mp h
    cases h
    refine ⟨commandTasks g g', [.gpuDeviceClose, .stop], rfl, fun t ht => ?_, fun t ht => ?_,
      UsesQueues.of_remove h₁ h₂⟩
    · obtain ⟨q, rfl⟩ := mem_commandTasks ht
      exact ⟨_, rfl⟩
    · rcases List.mem_pair.mp ht with rfl | rfl <;> exact trivial

namespace QueueDriver

/-! ## The invariant -/

/-- Both queues are open. -/
def BothOpen (s : QueueDriver) : Prop := ∀ q, s.Open q

instance (s : QueueDriver) : Decidable s.BothOpen :=
  decidable_of_iff (s.Open .ctrl ∧ s.Open .cursor)
    ⟨fun h q => by cases q; exacts [h.1, h.2], fun h => ⟨h _, h _⟩⟩

/-- What the driver has come to when it gets to this piece of a function. -/
def Before (s : QueueDriver) : Task → Prop
  | .use _ => False
  | .gpuDeviceInit _ | .gpuDeviceClose | .stop => True
  | .findQueues _ => s.memory.Empty
  | .setCtrl => (s.memory.info ctrlIndex).vq ≠ none ∧ (s.memory.info cursorIndex).vq ≠ none
  | .setCursor => s.Open .ctrl ∧ (s.memory.info cursorIndex).vq ≠ none
  | .ready => s.BothOpen
  | .deleteQueues | .closeCtrl | .closeCursor => s.hardwareInit = false

/-- What the running callback has yet to do: operations, while the queues are open, then the rest
of the function it is in, then whole functions. -/
inductive Lined (s : QueueDriver) : List Task → Prop
  | nil : Lined s []
  | piece {t : Task} {todo : List Task} : s.Before t → (∀ u ∈ todo, u.Whole) → Lined s (t :: todo)
  | use {u : QueueUse} {todo : List Task} : s.BothOpen → Lined s todo → Lined s (.use u :: todo)

/-- No queue was misused, and every thread may do what it has yet to do. -/
structure Inv (s : QueueDriver) : Prop where
  tracks : ∃ lost, s.memory.Tracks lost
  hardware : s.hardwareInit = true → s.BothOpen
  todo : s.Lined s.todo
  others : ∀ uses ∈ s.others, ∀ u ∈ uses, s.Open u.queue
  wellUsed : s.misused = false

variable {s s' : QueueDriver}

theorem Lined.whole {todo : List Task} (h : ∀ t ∈ todo, t.Whole) : s.Lined todo := by
  cases todo with
  | nil => exact .nil
  | cons t todo =>
    have hbefore : s.Before t := by
      have hwhole := h t List.mem_cons_self
      cases t <;> first | exact trivial | exact hwhole.elim
    exact .piece hbefore fun u hu => h u (List.mem_cons_of_mem t hu)

theorem Lined.uses {uses rest : List Task} (hopen : uses ≠ [] → s.BothOpen)
    (huses : ∀ t ∈ uses, ∃ u, t = .use u) (hrest : s.Lined rest) : s.Lined (uses ++ rest) := by
  induction uses with
  | nil => exact hrest
  | cons t uses ih =>
    obtain ⟨u, rfl⟩ := huses t List.mem_cons_self
    have hboth := hopen (List.cons_ne_nil _ uses)
    exact .use hboth (ih (fun _ => hboth) fun v hv => huses v (List.mem_cons_of_mem _ hv))

theorem Lined.congr {todo : List Task} (h : s.Lined todo) (hbefore : ∀ t, s.Before t → s'.Before t)
    (hopen : s.BothOpen → s'.BothOpen) : s'.Lined todo := by
  induction h with
  | nil => exact .nil
  | piece ht hwhole => exact .piece (hbefore _ ht) hwhole
  | use hboth _ ih => exact .use (hopen hboth) ih

/-- A step of the callback that closes no queue. -/
theorem Inv.advance (hI : s.Inv) (htracks : ∃ lost, s'.memory.Tracks lost)
    (hopen : ∀ q, s.Open q → s'.Open q)
    (hhardware : s'.hardwareInit = true → s.hardwareInit = true ∨ s'.BothOpen)
    (htodo : s'.Lined s'.todo) (hothers : s'.others = s.others)
    (hmisused : s'.misused = s.misused) : s'.Inv := by
  refine ⟨htracks, fun hinit => ?_, htodo, ?_, hmisused.trans hI.wellUsed⟩
  · rcases hhardware hinit with hbefore | hboth
    · exact fun q => hopen q (hI.hardware hbefore q)
    · exact hboth
  · rw [hothers]
    exact fun uses huses u hu => hopen u.queue (hI.others uses huses u hu)

/-- A step of `GpuDeviceClose`, while no other thread is at work. -/
theorem Inv.closing (hI : s.Inv) (htracks : ∃ lost, s'.memory.Tracks lost)
    (hhardware : s'.hardwareInit = false) (htodo : s'.Lined s'.todo)
    (hothers : s'.others = s.others) (hidle : ∀ uses ∈ s.others, uses = [])
    (hmisused : s'.misused = s.misused) : s'.Inv := by
  refine ⟨htracks, fun hinit => ?_, htodo, ?_, hmisused.trans hI.wellUsed⟩
  · rw [hhardware] at hinit
    cases hinit
  · rw [hothers]
    intro uses huses u hu
    rw [hidle uses huses] at hu
    exact absurd hu List.not_mem_nil

/-! ## Steps of the device -/

/-- The virtqueue of an entry of the table exists. -/
theorem allocated_of_info {v : QueueMemory} {lost : Set Block} (h : v.Tracks lost)
    {i : Fin maxQueues} (hi : (v.info i).vq ≠ none) :
    ∃ n ∈ (v.info i).vq, Block.control n ∈ v.allocated := by
  obtain ⟨n, hn⟩ := Option.ne_none_iff_exists'.mp hi
  exact ⟨n, hn, (h.exact _).mpr (.inl ⟨i, hn⟩)⟩

/-- With an empty table `virtio_find_queues` deletes no virtqueue from before. -/
theorem allocated_findQueues {v : QueueMemory} {lost : Set Block} (h : v.Tracks lost)
    (hempty : v.Empty) (ctrl cursor : SetupOutcome) {b : Block} (hb : b ∈ v.allocated) :
    b ∈ (v.findQueues ctrl cursor).2.allocated := by
  obtain ⟨more, htracks, -⟩ := h.findQueues hempty ctrl cursor
  have hlost : b ∈ lost := ((h.exact b).mp hb).resolve_left (hempty.not_referenced b)
  exact (htracks.exact b).mpr (.inr (.inl hlost))

theorem findQueues_found {v : QueueMemory} {ctrl cursor : SetupOutcome}
    (h : (v.findQueues ctrl cursor).1 = true) :
    ((v.findQueues ctrl cursor).2.info ctrlIndex).vq ≠ none ∧
      ((v.findQueues ctrl cursor).2.info cursorIndex).vq ≠ none := by
  have hready : ctrl = .ready ∧ cursor = .ready := by
    cases ctrl <;> cases cursor <;> first | exact ⟨rfl, rfl⟩ | cases h
  obtain ⟨rfl, rfl⟩ := hready
  have hne : ctrlIndex ≠ cursorIndex := by decide
  rw [QueueMemory.findQueues_snd, if_pos rfl, if_pos rfl]
  constructor
  · rw [QueueMemory.setupVq_of_ne _ hne, QueueMemory.setupVq_ready_self]
    exact Option.some_ne_none _
  · rw [QueueMemory.setupVq_ready_self]
    exact Option.some_ne_none _

/-! ## Steps -/

theorem operate_misused (hopen : s.Open q) : (s.operate q).misused = s.misused := by
  simp [operate, hopen]

/-- `GpuDeviceClose` comes to a piece that closes a queue only when no other thread is at work. -/
def IdleAt (s : QueueDriver) : Task → Prop
  | .deleteQueues | .closeCtrl | .closeCursor => ∀ uses ∈ s.others, uses = []
  | .use _ | .gpuDeviceInit _ | .findQueues _ | .setCtrl | .setCursor | .ready | .gpuDeviceClose
  | .stop => True

instance (s : QueueDriver) (t : Task) : Decidable (s.IdleAt t) :=
  match t with
  | .deleteQueues | .closeCtrl | .closeCursor =>
    inferInstanceAs (Decidable (∀ uses ∈ s.others, uses = []))
  | .use _ | .gpuDeviceInit _ | .findQueues _ | .setCtrl | .setCursor | .ready | .gpuDeviceClose
  | .stop => isTrue trivial

/-- **One piece of a function of the device**, which `todo` no longer lists. -/
theorem Inv.piece {t : Task} {todo : List Task} {ok : Bool} (hI : s.Inv)
    (hbefore : s.Before t) (hwhole : ∀ u ∈ todo, u.Whole) (hidle : s.IdleAt t)
    (hstep : { s with todo }.perform ok t = some s') : s'.Inv := by
  obtain ⟨lost, htracks⟩ := hI.tracks
  cases t with
  | use u => exact hbefore.elim
  | gpuDeviceInit o =>
    cases hstep
    refine hI.advance ⟨_, htracks.zero.congr_device o.initialized⟩ (fun _ hq => hq) .inl ?_ rfl rfl
    dsimp only
    split_ifs
    · exact .piece (fun _ => rfl) hwhole
    · exact .whole hwhole
  | findQueues o =>
    cases hstep
    obtain ⟨more, hmore, -⟩ := htracks.findQueues hbefore o.ctrl o.cursor
    refine hI.advance ⟨_, hmore⟩ ?_ .inl ?_ rfl rfl
    · rintro q ⟨n, hn, hallocated⟩
      exact ⟨n, hn, allocated_findQueues htracks hbefore o.ctrl o.cursor hallocated⟩
    · by_cases hfound : (s.memory.findQueues o.ctrl o.cursor).1 = true
      · rw [if_pos hfound]
        exact .piece (findQueues_found hfound) hwhole
      · rw [if_neg hfound]
        exact .whole hwhole
  | setCtrl =>
    cases hstep
    refine hI.advance ⟨lost, htracks⟩ ?_ .inl ?_ rfl rfl
    · intro q hq
      cases q with
      | ctrl => exact allocated_of_info htracks hbefore.1
      | cursor => exact hq
    · exact .piece ⟨allocated_of_info htracks hbefore.1, hbefore.2⟩ hwhole
  | setCursor =>
    cases hstep
    refine hI.advance ⟨lost, htracks⟩ ?_ .inl ?_ rfl rfl
    · intro q hq
      cases q with
      | ctrl => exact hq
      | cursor => exact allocated_of_info htracks hbefore.2
    · refine .piece (fun q => ?_) hwhole
      cases q with
      | ctrl => exact hbefore.1
      | cursor => exact allocated_of_info htracks hbefore.2
  | ready =>
    cases hstep
    exact hI.advance ⟨lost, htracks⟩ (fun _ hq => hq) (fun _ => .inr hbefore) (.whole hwhole)
      rfl rfl
  | gpuDeviceClose =>
    cases hstep
    exact hI.advance ⟨lost, htracks⟩ (fun _ hq => hq) (fun h => .inl (by cases h))
      (.piece rfl hwhole) rfl rfl
  | deleteQueues =>
    obtain ⟨memory, hclose, hstep⟩ := Option.bind_eq_some_iff.mp hstep
    cases hstep
    exact hI.closing ⟨lost, (htracks.gpuDeviceClose hclose).1⟩ hbefore (.piece hbefore hwhole) rfl
      hidle rfl
  | closeCtrl =>
    cases hstep
    exact hI.closing ⟨lost, htracks⟩ hbefore (.piece hbefore hwhole) rfl hidle rfl
  | closeCursor =>
    cases hstep
    exact hI.closing ⟨lost, htracks⟩ hbefore (.whole hwhole) rfl hidle rfl
  | stop =>
    cases hstep
    exact hI.advance ⟨lost, htracks⟩ (fun _ hq => hq) .inl (.whole hwhole) rfl rfl

/-- **One step of the running callback.** -/
theorem Inv.main {t : Task} {todo : List Task} {ok : Bool} (hI : s.Inv) (htodo : s.todo = t :: todo)
    (hidle : s.IdleAt t) (hstep : { s with todo }.perform ok t = some s') : s'.Inv := by
  have hlined := hI.todo
  rw [htodo] at hlined
  cases hlined with
  | piece hbefore hwhole => exact hI.piece hbefore hwhole hidle hstep
  | @use u _ hboth hrest =>
    cases hstep
    have hrest' : s.Lined ((u.next ok).map Task.use ++ todo) := by
      refine .uses (fun _ => hboth) (fun t ht => ?_) hrest
      obtain ⟨v, -, rfl⟩ := List.mem_map.mp ht
      exact ⟨v, rfl⟩
    exact hI.advance hI.tracks (fun _ hq => hq) .inl (hrest'.congr (fun _ ht => ht) id) rfl
      (operate_misused (hboth u.queue))

theorem Inv.call {c : QueueCall} {g : Gpu} {todo : List Task} {removed : Bool} (hI : s.Inv)
    (hrun : c.run s.gpu = some (g, todo)) (hopen : c.UsesQueues s.gpu → s.BothOpen) :
    { s with gpu := g, todo, removed }.Inv := by
  obtain ⟨uses, rest, rfl, huses, hwhole, hmust⟩ := QueueCall.run_tasks hrun
  have hlined : s.Lined (uses ++ rest) := .uses (fun hne => hopen (hmust hne)) huses (.whole hwhole)
  exact hI.advance hI.tracks (fun _ hq => hq) .inl (hlined.congr (fun _ ht => ht) id) rfl rfl

/-- Another thread begins. -/
theorem Inv.begins {uses : List QueueUse} (hI : s.Inv) (hopen : ∀ u ∈ uses, s.Open u.queue) :
    { s with others := s.others ++ [uses] }.Inv := by
  refine ⟨hI.tracks, hI.hardware, hI.todo.congr (fun _ ht => ht) id, fun l hl => ?_, hI.wellUsed⟩
  rcases List.mem_append.mp hl with hold | hnew
  · exact hI.others l hold
  · rw [List.mem_singleton.mp hnew]
    exact hopen

/-- Another thread goes on. -/
theorem Inv.other {i : Nat} {u : QueueUse} {uses : List QueueUse} {ok : Bool} (hI : s.Inv)
    (hi : s.others[i]? = some (u :: uses)) :
    ({ s with others := s.others.set i (u.next ok ++ uses) }.operate u.queue).Inv := by
  have hold : ∀ v ∈ u :: uses, s.Open v.queue := hI.others _ (List.mem_of_getElem? hi)
  have hu : s.Open u.queue := hold u List.mem_cons_self
  refine ⟨hI.tracks, hI.hardware, hI.todo.congr (fun _ ht => ht) id, fun l hl v hv => ?_,
    (operate_misused hu).trans hI.wellUsed⟩
  rcases List.mem_or_eq_of_mem_set hl with hmem | rfl
  · exact hI.others l hmem v hv
  · rcases List.mem_append.mp hv with hnext | hrest
    · rw [QueueUse.next_queue hnext]
      exact hu
    · exact hold v (List.mem_cons_of_mem u hrest)

/-! ## Runs -/

/-- What has to hold before a step: a callback that queues commands begins with open queues, as does
the worker, and no other thread is at work when `GpuDeviceClose` deletes the virtqueues and clears
the pointers to them. -/
def Fits (s : QueueDriver) : QueueEvent → Prop
  | .call c => c.UsesQueues s.gpu → s.BothOpen
  | .main _ => ∀ t ∈ s.todo.head?, s.IdleAt t
  | .configChanged => s.Open .ctrl
  | .dpc _ | .other .. => True

instance (s : QueueDriver) (e : QueueEvent) : Decidable (s.Fits e) :=
  match e with
  | .call c => inferInstanceAs (Decidable (c.UsesQueues s.gpu → s.BothOpen))
  | .main _ => inferInstanceAs (Decidable (∀ t ∈ s.todo.head?, s.IdleAt t))
  | .configChanged => inferInstanceAs (Decidable (s.Open .ctrl))
  | .dpc _ | .other .. => isTrue trivial

theorem Inv.step {e : QueueEvent} (hI : s.Inv) (hfits : s.Fits e) (hstep : s.step e = some s') :
    s'.Inv := by
  have hused : ¬s.misused = true := by simp [hI.wellUsed]
  unfold QueueDriver.step at hstep
  rw [if_neg hused] at hstep
  cases e with
  | call c =>
    dsimp only at hstep
    split_ifs at hstep
    obtain ⟨⟨g, todo⟩, hrun, hstep⟩ := Option.bind_eq_some_iff.mp hstep
    cases hstep
    exact hI.call hrun hfits
  | main ok =>
    cases htodo : s.todo with
    | nil => simp [htodo] at hstep
    | cons t todo =>
      simp only [htodo] at hstep
      exact hI.main htodo (hfits t (by rw [htodo]; rfl)) hstep
  | configChanged =>
    dsimp only at hstep
    split_ifs at hstep
    cases hstep
    refine hI.begins fun u hu => ?_
    rw [List.mem_singleton.mp hu]
    exact hfits
  | dpc rounds =>
    dsimp only at hstep
    split_ifs at hstep with hinit
    cases hstep
    exact hI.begins fun u _ => hI.hardware hinit u.queue
  | other i ok =>
    dsimp only at hstep
    split at hstep
    · next u uses hi =>
      cases hstep
      exact hI.other hi
    · cases hstep

theorem Inv.start (mode : CurrentBddMode) : (start mode).Inv := by
  have hopen : (QueueDriver.start mode).BothOpen := by
    intro q
    cases q with
    | ctrl => exact ⟨1, rfl, (by decide : Block.control 1 ∈ QueueMemory.afterHwInit.allocated)⟩
    | cursor => exact ⟨3, rfl, (by decide : Block.control 3 ∈ QueueMemory.afterHwInit.allocated)⟩
  exact ⟨⟨∅, .afterHwInit⟩, fun _ => hopen, .nil, by simp [QueueDriver.start], rfl⟩

/-- **Queues are used while they are open.** In every run in which callbacks with commands and the
worker begin with open queues and `GpuDeviceClose` waits for the worker and the DPC, every operation
on a queue object finds the virtqueue of its latest `Init`, not deleted. -/
theorem queueUse_open {mode : CurrentBddMode} {s : QueueDriver}
    (h : (system mode).ReachableUnder Fits s) : s.misused = false :=
  (h.induct Inv (Inv.start mode) fun _ _ _ hI hfits hstep => hI.step hfits hstep).wellUsed

/-- The device goes to sleep. -/
def sleeps : List QueueEvent :=
  .call (.setPowerState .d3 PoweredDevice.setUp PoweredDevice.setUp) ::
    List.replicate 8 (.main true)

/-- It wakes up, a cursor is shown while the worker asks for the display information, and the device
is removed. -/
def wakesUp : List QueueEvent :=
  .call (.setPowerState .d0 PoweredDevice.setUp PoweredDevice.setUp) ::
    (List.replicate 10 (.main true) ++
      (.call (.setPointerShape arrow allocated) :: .configChanged :: .main true :: .other 0 true ::
        (List.replicate 8 (.main true) ++
          (.dpc [(true, true)] :: .other 0 true :: .other 1 true :: .other 1 false ::
            .other 1 false :: .call .remove :: List.replicate 9 (.main true)))))

theorem queueUse_open_wakesUp :
    ∃ s, (system firstMode).runUnder Fits (sleeps ++ wakesUp) = some s ∧ s.todo = [] ∧
      s.stopped = true ∧ s.misused = false := by
  have hrun : ((system firstMode).runUnder Fits (sleeps ++ wakesUp)).map
      (fun s => (s.todo, s.stopped)) = some ([], true) := by decide +kernel
  obtain ⟨s, hs, hend⟩ := Option.map_eq_some_iff.mp hrun
  obtain ⟨htodo, hstopped⟩ := Prod.mk.inj hend
  exact ⟨s, hs, htodo, hstopped, queueUse_open (System.reachable_of_run hs)⟩

/-- A cursor is shown while the device sleeps: `CreateResource` goes through `NULL`. -/
theorem not_always_open :
    ¬∀ s, (system firstMode).Reachable s → s.misused = false := by
  have hrun : ((system firstMode).run
      (sleeps ++ [.call (.setPointerShape arrow allocated), .main true])).map misused = some true :=
    by decide +kernel
  intro hall
  obtain ⟨s, hs, hmisused⟩ := Option.map_eq_some_iff.mp hrun
  have hnot := hall s (System.reachable_of_run hs)
  rw [hmisused] at hnot
  cases hnot

end QueueDriver

end VioGpu.Device
