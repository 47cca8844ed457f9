import VioGpu.Device.ScreenCalls

/-!
# What is shown is what was drawn

The host takes the commands while the driver draws, so that what it copies can be half drawn. The
invariant looks ahead: with the commands that are yet to be taken, every pixel of the frame buffer
ends with what is shown marked (`Screen.Followed`), whatever the host has copied by now. Once the
callback is done and the ring is empty there is nothing to look ahead to, and the host shows the
memory of the frame buffer.
-/

namespace VioGpu.Device

open Lib Queue

namespace Screen

/-- The commands that the host has yet to take: those in the ring, and those of the callback. -/
def yet (s : Screen) : List (Queued CtrlCommand) := s.ring ++ commands s.todo

/-- The resources after these commands. -/
def settled (s : Screen) : Resources := s.resources.run s.yet

/-- What is shown of the pixel is what the memory holds, after these commands. -/
def Followed (s : Screen) (px : Pixel) : Prop :=
  ∃ m, Marks.Sound px s.memory s.picture m ∧ (m.run px s.resources s.yet).shown = true

/-- What is left of a blit is in the rectangle that is sent after it. -/
structure Drawing (s : Screen) (obj : VioGpuObj) (x y width height : Nat) : Prop where
  frameBuf : s.gpu.frameBuf = some obj
  todo : commands s.todo =
    sendRect obj.number obj.hwRes (s.gpu.mode.dispInfo.width * 4) x y width height
  around : s.gpu.Around x y width height s.stores

/-- The invariant of the driver and the host. -/
structure Faithful (s : Screen) : Prop where
  tended : s.gpu.Tended s.settled
  followed : ∀ obj ∈ s.gpu.frameBuf, ∀ row < s.gpu.mode.dispInfo.height,
    ∀ column < s.gpu.mode.dispInfo.width, s.Followed (s.gpu.pixel obj row column)
  drawing : s.stores ≠ [] → ∃ obj x y width height, s.Drawing obj x y width height

/-- What the callbacks and the rings promise: a mode change and a present fit, there is an id for
the pointer, the source is not hidden, and a command finds room in its ring. -/
def Proper (s : Screen) : ScreenEvent → Prop
  | .setSourceModeAndPath modes pinned path a => s.gpu.FitsMode modes pinned path a
  | .setPointerShape .. => s.gpu.cursorBuf.isSome = true ∨ s.gpu.idr.HasClear
  | .setVidPnSourceVisibility visible => visible = true
  | .presentDisplayOnly _ off p =>
    (off || s.sourceNotVisible) = false → 4 ≤ p.bytesPerPixel → s.gpu.FitsPresent p
  | .perform entered => entered = true
  | .setPointerPosition _ | .store | .host => True

variable {s s' : Screen}

theorem faithful_start (acquired : DispInfo) (physicAddress : Nat) (memory : Nat → Int → Byte)
    (picture : Picture) : (start acquired physicAddress memory picture).Faithful where
  tended :=
    { ids :=
        { buffer := rfl
          reserved := rfl
          used := fun r hr => absurd rfl hr
          inUse := fun obj hobj => (by cases hobj)
          distinct := List.nodup_nil }
      format := rfl
      frameBuf := fun obj hobj => (by cases hobj) }
  followed obj hobj := by cases hobj
  drawing hne := absurd rfl hne

/-! ## The host -/

/-- The host takes a command. -/
theorem Faithful.host (hf : s.Faithful) (hs : s.step .host = some s') : s'.Faithful := by
  obtain ⟨dod, sourceNotVisible, memory, stores, todo, ring, resources, picture⟩ := s
  cases ring with
  | nil => cases hs
  | cons e ring =>
    cases hs
    refine ⟨hf.tended, fun obj hobj row hrow column hcolumn => ?_, fun hne => ?_⟩
    · obtain ⟨m, hsound, hshown⟩ := hf.followed obj hobj row hrow column hcolumn
      exact ⟨_, hsound.exec resources e, hshown⟩
    · obtain ⟨obj, x, y, width, height, hframe, htodo, haround⟩ := hf.drawing hne
      exact ⟨obj, x, y, width, height, hframe, htodo, haround⟩

/-! ## The driver between the callbacks -/

/-- The commands that are yet to be taken are the same. -/
theorem Faithful.sameYet (hf : s.Faithful) (hyet : s'.yet = s.yet) (hgpu : s'.gpu = s.gpu)
    (hmemory : s'.memory = s.memory) (hresources : s'.resources = s.resources)
    (hpicture : s'.picture = s.picture) (hstores : s'.stores = []) : s'.Faithful where
  tended := by
    rw [settled, hyet, hgpu, hresources]
    exact hf.tended
  followed obj hobj row hrow column hcolumn := by
    rw [hgpu] at hobj hrow hcolumn ⊢
    obtain ⟨m, hsound, hshown⟩ := hf.followed obj hobj row hrow column hcolumn
    refine ⟨m, ?_, ?_⟩
    · rw [hmemory, hpicture]
      exact hsound
    · rw [hyet, hresources]
      exact hshown
  drawing hne := absurd hstores hne

/-- An effect is done; a command enters the ring. -/
theorem Faithful.perform (hf : s.Faithful) (hs : s.step (.perform true) = some s') :
    s'.Faithful := by
  obtain ⟨dod, sourceNotVisible, memory, stores, todo, ring, resources, picture⟩ := s
  cases stores with
  | cons a stores => cases hs
  | nil =>
    cases todo with
    | nil => cases hs
    | cons e todo =>
      cases e with
      | ctrl n c =>
        cases hs
        refine hf.sameYet ?_ rfl rfl rfl rfl rfl
        exact List.append_assoc ring [(n, c)] (commands todo)
      | _ =>
        cases hs
        exact hf.sameYet rfl rfl rfl rfl rfl rfl

/-! ## A blit -/

/-- A byte that an access does not write is as before. -/
theorem storeTo_of_not_writes {a : Access} {n o : Nat} {k : Int}
    (h : o = n → ∀ v, ¬a.Writes k v) : s.storeTo n a o k = s.memory o k := by
  unfold storeTo
  by_cases hobj : o = n
  · subst hobj
    rw [Function.update_self]
    apply applyAll_of_not_writes
    intro v hwrites
    obtain ⟨st, hst, hv⟩ := hwrites
    cases a with
    | load p n => cases hst
    | store t =>
      obtain rfl := List.mem_singleton.mp hst
      exact h rfl v hv
  · rw [Function.update_of_ne hobj]

/-- The bytes of a pixel of the frame buffer. -/
theorem isPixel_address {g : Gpu} (hshows : g.Shows) (obj : VioGpuObj) {row column : Nat}
    (hcolumn : column < g.mode.dispInfo.width) {i : Nat} (hi : i < 4) :
    g.mode.IsPixel column row ((g.pixel obj row column).address + i : Nat) := by
  have haddress : (g.pixel obj row column).address =
      row * g.mode.dispInfo.pitch + column * 4 := by
    rw [hshows.pitch]
    rfl
  rw [haddress]
  exact ⟨Int.natCast_nonneg _, by exact_mod_cast hcolumn, by push_cast; omega,
    by push_cast; omega⟩

/-- **An access of a blit**, with the host at any point of the commands before. -/
theorem Faithful.store (hf : s.Faithful) (hs : s.step .store = some s') : s'.Faithful := by
  obtain ⟨dod, sourceNotVisible, memory, stores, todo, ring, resources, picture⟩ := s
  cases stores with
  | nil => cases hs
  | cons a stores =>
    obtain ⟨obj, x, y, width, height, hframe, htodo, haround⟩ := hf.drawing (List.cons_ne_nil _ _)
    obtain ⟨hshows, hhost⟩ := hf.tended.frameBuf obj hframe
    obtain ⟨n, hptr, hs⟩ := Option.bind_eq_some_iff.mp hs
    cases hs
    obtain ⟨obj', hobj', hptr', -⟩ := hshows.backed
    obtain rfl : obj' = obj := Option.some_inj.mp (hobj'.symm.trans hframe)
    obtain rfl : n = obj'.number := Option.some_inj.mp (hptr.symm.trans hptr')
    refine ⟨hf.tended, fun o ho row hrow column hcolumn => ?_, fun _ => ?_⟩
    · obtain rfl : o = obj' := Option.some_inj.mp (ho.symm.trans hframe)
      by_cases htouched : ∃ i < 4, ∃ v,
          a.Writes ((dod.device.pixel o row column).address + i : Nat) v
      · -- the marks of the pixel are taken, and the commands of the callback give them back
        obtain ⟨i, hi, v, hv⟩ := htouched
        obtain ⟨⟨hx, hx'⟩, hy, hy'⟩ := haround.covered a List.mem_cons_self _ v hv column row
          (isPixel_address hshows o hcolumn hi)
        refine ⟨⟨false, false⟩, Marks.sound_none _ _ _, ?_⟩
        show (Marks.run _ resources _ (ring ++ commands todo)).shown = true
        have hsettled : (resources.run ring).Shows (dod.device.pixel o row column) := by
          have hyet := hhost row column
          change (resources.run (ring ++ commands todo)).Shows _ at hyet
          change commands todo = _ at htodo
          rw [htodo, Resources.run_append, Resources.run_sendRect] at hyet
          exact hyet
        change commands todo = _ at htodo
        rw [htodo, Marks.run_append]
        exact Marks.run_sendRect_of_mem hsettled (haround.holds (Nat.zero_lt_of_lt hcolumn))
          ⟨by exact_mod_cast hx, by exact_mod_cast hx', by exact_mod_cast hy,
            by exact_mod_cast hy'⟩ _
      · obtain ⟨m, hsound, hshown⟩ := hf.followed o ho row hrow column hcolumn
        refine ⟨m, hsound.congr fun i hi => ?_, hshown⟩
        exact storeTo_of_not_writes fun _ v hv => htouched ⟨i, hi, v, hv⟩
    · exact ⟨obj', x, y, width, height, hframe, htodo, haround.holds,
        fun b hb => haround.covered b (List.mem_cons_of_mem a hb)⟩

/-! ## The callbacks -/

/-- A callback begins: its effects are `l`, and the host is where it was. -/
structure Begins (s s' : Screen) (l : List Effect) : Prop where
  idle : s.Idle
  todo : s'.todo = l
  ring : s'.ring = s.ring
  resources : s'.resources = s.resources
  memory : s'.memory = s.memory
  picture : s'.picture = s.picture

section Begins

variable {l : List Effect} {g : Gpu}

theorem begins_called (hidle : s.Idle) (heffects : g.effects = s.gpu.effects ++ l)
    (stores : List Access) :
    Begins s (s.called g stores) l where
  idle := hidle
  todo := by
    show g.effects.drop s.gpu.effects.length = l
    rw [heffects, List.drop_left]
  ring := rfl
  resources := rfl
  memory := rfl
  picture := rfl

theorem Begins.yet (hb : Begins s s' l) : s'.yet = s.yet ++ commands l := by
  unfold Screen.yet
  rw [hb.ring, hb.todo, hb.idle.2]
  exact congrArg (· ++ commands l) (List.append_nil s.ring).symm

theorem Begins.settled (hb : Begins s s' l) : s'.settled = s.settled.run (commands l) := by
  unfold Screen.settled
  rw [hb.yet, hb.resources, Resources.run_append]

/-- What the commands of the callback do to the marks of a pixel. -/
theorem Begins.followed (hb : Begins s s' l) {px : Pixel} {m : Marks}
    (hsound : Marks.Sound px s.memory s.picture m)
    (hshown : ((m.run px s.resources s.yet).run px s.settled (commands l)).shown = true) :
    s'.Followed px := by
  refine ⟨m, ?_, ?_⟩
  · rw [hb.memory, hb.picture]
    exact hsound
  · rw [hb.yet, hb.resources, Marks.run_append]
    exact hshown

/-- A callback that is about the cursor. -/
theorem Faithful.plain (hf : s.Faithful) (hb : Begins s s' l) (hp : Gpu.Plain s.gpu s'.gpu l)
    (hi : Ids s'.gpu.idr s'.gpu.liveObjs (s.settled.run (commands l)))
    (hstores : s'.stores = []) : s'.Faithful where
  tended := by
    rw [hb.settled]
    exact hf.tended.plain hp hi
  followed obj hobj row hrow column hcolumn := by
    rw [hp.frameBuf] at hobj
    rw [hp.mode] at hrow hcolumn
    have hpixel : s'.gpu.pixel obj row column = s.gpu.pixel obj row column := by
      unfold Gpu.pixel
      rw [hp.mode]
    obtain ⟨m, hsound, hshown⟩ := hf.followed obj hobj row hrow column hcolumn
    obtain ⟨-, hhost⟩ := hf.tended.frameBuf obj hobj
    rw [hpixel]
    refine hb.followed hsound ?_
    rw [(run_leaves (hp.leaves obj hobj) (hhost row column) _).2]
    exact hshown
  drawing hne := absurd hstores hne

/-- `SetVidPnSourceVisibility` makes the source visible. -/
theorem Faithful.setVisible (hf : s.Faithful)
    (hs : s.step (.setVidPnSourceVisibility true) = some s') : s'.Faithful := by
  unfold step at hs
  split_ifs at hs with hidle
  have hb : Begins s s' [] := by
    obtain ⟨h₁, h₂, h₃, h₄, h₅, h₆⟩ := begins_called (g := { s.gpu with
      mode := { s.gpu.mode with fullscreenPresent := true } }) hidle (List.append_nil _).symm []
    cases hs
    exact ⟨h₁, h₂, h₃, h₄, h₅, h₆⟩
  refine ⟨?_, fun obj hobj row hrow column hcolumn => ?_, fun hne => ?_⟩
  · rw [hb.settled]
    cases hs
    refine ⟨hf.tended.ids, hf.tended.format, fun obj hobj => ?_⟩
    obtain ⟨⟨h₁, h₂, h₃, h₄, h₅, h₆, h₇⟩, hhost⟩ := hf.tended.frameBuf obj hobj
    exact ⟨⟨h₁, h₂, h₃, h₄, h₅, h₆, h₇⟩, hhost⟩
  · have hold : ∃ m, Marks.Sound (s'.gpu.pixel obj row column) s.memory s.picture m ∧
        (m.run (s'.gpu.pixel obj row column) s.resources s.yet).shown = true := by
      cases hs
      exact hf.followed obj hobj row hrow column hcolumn
    obtain ⟨m, hsound, hshown⟩ := hold
    exact hb.followed hsound hshown
  · cases hs
    exact absurd rfl hne

/-- `SetPointerShape` -/
theorem Faithful.setPointerShape (hf : s.Faithful) {shape : PointerShape} {a : Allocs}
    (hp : s.Proper (.setPointerShape shape a))
    (hs : s.step (.setPointerShape shape a) = some s') : s'.Faithful := by
  unfold step at hs
  split_ifs at hs with hidle
  obtain ⟨g, hcall, rfl⟩ := Option.map_eq_some_iff.mp hs
  obtain ⟨l, hplain, hids⟩ := Gpu.setPointerShape_plain hf.tended.ids hp hcall
  exact hf.plain (begins_called hidle hplain.effects _) hplain hids rfl

/-- `SetPointerPosition` -/
theorem Faithful.setPointerPosition (hf : s.Faithful) {p : PointerPosition}
    (hs : s.step (.setPointerPosition p) = some s') : s'.Faithful := by
  unfold step at hs
  split_ifs at hs with hidle
  obtain ⟨g, hcall, rfl⟩ := Option.map_eq_some_iff.mp hs
  obtain ⟨l, hplain, hids⟩ := Gpu.setPointerPosition_plain hf.tended.ids hcall
  exact hf.plain (begins_called hidle hplain.effects _) hplain hids rfl

/-- `SetSourceModeAndPath`: the whole surface is sent to a new resource. -/
theorem Faithful.setSourceModeAndPath (hf : s.Faithful) {modes : List VideoModeInformation}
    {pinned : VidPnSourceMode} {path : VidPnPresentPath} {a : Allocs}
    (hp : s.Proper (.setSourceModeAndPath modes pinned path a))
    (hs : s.step (.setSourceModeAndPath modes pinned path a) = some s') : s'.Faithful := by
  unfold step at hs
  split_ifs at hs with hidle
  obtain ⟨⟨status, dod⟩, hcall, hs⟩ := Option.bind_eq_some_iff.mp hs
  cases hs
  obtain ⟨obj, l, before, heffects, hrenewed, htended⟩ :=
    Gpu.setSourceModeAndPath_renewed hf.tended hp hcall
  have hb : Begins s { s.called dod.device [] with dod } l := by
    obtain ⟨h₁, h₂, h₃, h₄, h₅, h₆⟩ := begins_called hidle heffects []
    exact ⟨h₁, h₂, h₃, h₄, h₅, h₆⟩
  refine ⟨by rw [hb.settled]; exact htended, fun o ho row hrow column hcolumn => ?_,
    fun hne => absurd rfl hne⟩
  obtain rfl : obj = o := Option.some_inj.mp (hrenewed.frameBuf.symm.trans ho)
  refine hb.followed (Marks.sound_none _ _ _) ?_
  rw [hrenewed.commands, Marks.run_append]
  refine Marks.run_sendRect_of_mem (hrenewed.host row column)
    ⟨Nat.le_of_eq (Nat.zero_add _), Nat.le_of_eq (Nat.zero_add _)⟩ ⟨Nat.zero_le _, ?_,
    Nat.zero_le _, ?_⟩ _
  · rw [Nat.zero_add]
    exact hcolumn
  · rw [Nat.zero_add]
    exact hrow

/-- `PresentDisplayOnly`: the marks stay until the blit takes them. -/
theorem Faithful.presentDisplayOnly (hf : s.Faithful) {source : Int → Byte} {off : Bool}
    {p : PresentDisplayOnly} (hp : s.Proper (.presentDisplayOnly source off p))
    (hs : s.step (.presentDisplayOnly source off p) = some s') : s'.Faithful := by
  unfold step at hs
  split_ifs at hs with hidle
  obtain ⟨⟨status, screen, g⟩, hcall, hs⟩ := Option.bind_eq_some_iff.mp hs
  cases hs
  obtain ⟨rfl, hnone⟩ | ⟨obj, x, y, width, height, l, hobj, rfl, hcommands, haround⟩ :=
    Gpu.presentDisplayOnly_sent (fun o ho => (hf.tended.frameBuf o ho).1) hp hcall
  · have hb := begins_called hidle (List.append_nil s.gpu.effects).symm screen.accesses
    exact hf.sameYet (by rw [hb.yet]; exact List.append_nil _) rfl rfl rfl rfl hnone
  · have hb : Begins s (s.called { s.gpu with effects := s.gpu.effects ++ l } screen.accesses) l :=
      begins_called hidle rfl _
    obtain ⟨hshows, hhost⟩ := hf.tended.frameBuf obj hobj
    refine ⟨?_, fun o ho row hrow column hcolumn => ?_, fun _ =>
      ⟨obj, x, y, width, height, hobj, ?_, haround.holds, haround.covered⟩⟩
    · rw [hb.settled, hcommands, Resources.run_sendRect]
      refine ⟨hf.tended.ids, hf.tended.format, fun o ho => ?_⟩
      exact ⟨(hf.tended.frameBuf o ho).1.congr rfl rfl, (hf.tended.frameBuf o ho).2⟩
    · obtain rfl : obj = o := Option.some_inj.mp (hobj.symm.trans ho)
      obtain ⟨m, hsound, hshown⟩ := hf.followed obj hobj row hrow column hcolumn
      refine hb.followed hsound ?_
      rw [hcommands]
      exact Marks.run_sendRect (hhost row column) (haround.holds (Nat.zero_lt_of_lt hcolumn))
        hshown
    · rw [hb.todo]
      exact hcommands

end Begins

/-! ## Runs -/

theorem Faithful.step (hf : s.Faithful) {e : ScreenEvent} (hp : s.Proper e)
    (hs : s.step e = some s') : s'.Faithful := by
  cases e with
  | setSourceModeAndPath modes pinned path a => exact hf.setSourceModeAndPath hp hs
  | setPointerShape shape a => exact hf.setPointerShape hp hs
  | setPointerPosition p => exact hf.setPointerPosition hs
  | setVidPnSourceVisibility visible =>
    obtain rfl : visible = true := hp
    exact hf.setVisible hs
  | presentDisplayOnly source off p => exact hf.presentDisplayOnly hp hs
  | store => exact hf.store hs
  | perform entered =>
    obtain rfl : entered = true := hp
    exact hf.perform hs
  | host => exact hf.host hs

section

variable {acquired : DispInfo} {physicAddress : Nat} {memory : Nat → Int → Byte}
  {picture : Picture}

theorem faithful (hr : (system acquired physicAddress memory picture).ReachableUnder Proper s) :
    s.Faithful :=
  hr.induct Faithful (faithful_start acquired physicAddress memory picture)
    fun _ _ _ hf hp hs => hf.step hp hs

/-- **What is shown is what was drawn**: when the callback is done and the host has taken every
command, scanout 0 shows the frame buffer, and every pixel that is shown is that of its memory. -/
theorem shown_eq_memory
    (hr : (system acquired physicAddress memory picture).ReachableUnder Proper s)
    (hidle : s.Idle) (hring : s.ring = []) {obj : VioGpuObj} (hobj : s.gpu.frameBuf = some obj) :
    s.resources.scanout = some obj.hwRes ∧
      ∀ row < s.gpu.mode.dispInfo.height, ∀ column < s.gpu.mode.dispInfo.width, ∀ i < 4,
        s.picture.shown row column i =
          s.memory obj.number (row * s.gpu.mode.dispInfo.pitch + column * 4 + i : Nat) := by
  have hf := faithful hr
  obtain ⟨hshows, hhost⟩ := hf.tended.frameBuf obj hobj
  have hyet : s.yet = [] := by
    unfold yet
    rw [hring, hidle.2]
    rfl
  have hsettled : s.settled = s.resources := by
    unfold settled
    rw [hyet]
    rfl
  refine ⟨?_, fun row hrow column hcolumn i hi => ?_⟩
  · rw [← hsettled]
    exact (hhost 0 0).scanout
  · obtain ⟨m, hsound, hshown⟩ := hf.followed obj hobj row hrow column hcolumn
    rw [hyet] at hshown
    rw [hshows.pitch]
    exact hsound.shown hshown i hi

/-- The memory, the effects and the host need no promise. -/
theorem reachable_of_run (events : List ScreenEvent)
    (hplain : ∀ e ∈ events, e = .store ∨ e = .perform true ∨ e = .host)
    (hr : (system acquired physicAddress memory picture).ReachableUnder Proper s)
    (hs : events.foldlM step s = some s') :
    (system acquired physicAddress memory picture).ReachableUnder Proper s' := by
  induction events generalizing s with
  | nil =>
    cases hs
    exact hr
  | cons e events ih =>
    rw [List.foldlM_cons] at hs
    obtain ⟨t, ht, hs⟩ := Option.bind_eq_some_iff.mp hs
    have hproper : s.Proper e := by
      obtain rfl | rfl | rfl := hplain e List.mem_cons_self
      · trivial
      · rfl
      · trivial
    exact ih (fun e' he' => hplain e' (List.mem_cons_of_mem e he')) (.step hr hproper ht) hs

end

/-- A source of 64 by 16 pixels. -/
def smallSource : VidPnSourceMode := ⟨.graphics, ⟨64, 16⟩, ⟨64, 16⟩, .a8r8g8b8, .scrgb, .direct⟩

def straightPath : VidPnPresentPath := ⟨0, 0, .default, .identity, .identity, .scrgb⟩

/-- The effects of a mode change; the host takes some of the commands. -/
def modeEvents : List ScreenEvent :=
  [.perform true, .perform true, .perform true, .host, .perform true, .host, .perform true, .host,
    .perform true]

/-- The host copies the surface while the driver draws a pixel. -/
def drawEvents : List ScreenEvent :=
  [.host, .store, .host, .store, .perform true, .perform true, .host, .host]

theorem shown_eq_memory_onePixel : ∃ s obj,
    (system ⟨800, 600, 3200, .x8r8g8b8, 0⟩ 0 (fun _ _ => 0)
      ⟨fun _ _ _ _ => 0, fun _ _ _ => 0⟩).ReachableUnder Proper s ∧
    s.gpu.frameBuf = some obj ∧ ∀ row < 16, ∀ column < 64, ∀ i < 4,
      s.picture.shown row column i = s.memory obj.number (row * 256 + column * 4 + i : Nat) := by
  have hfits : Gpu.FitsMode (.start (startDeviceMode ⟨800, 600, 3200, .x8r8g8b8, 0⟩ 0)) oneMode
      smallSource straightPath allocated :=
    ⟨rfl, ⟨_, rfl, rfl, rfl, rfl⟩, by decide, by decide, by decide, trivial, rfl,
      .inr (by decide)⟩
  have hmode := System.ReachableUnder.step
    (e := ScreenEvent.setSourceModeAndPath oneMode smallSource straightPath allocated)
    (@System.ReachableUnder.init _ _ (system ⟨800, 600, 3200, .x8r8g8b8, 0⟩ 0 (fun _ _ => 0)
      ⟨fun _ _ _ _ => 0, fun _ _ _ => 0⟩) Proper) hfits rfl
  have hready := reachable_of_run modeEvents (by simp [modeEvents]) hmode rfl
  have hpresent := System.ReachableUnder.step (e := ScreenEvent.presentDisplayOnly
    (fun k => BitVec.ofInt 8 (7 + k)) false (onePixel false)) hready (fun _ _ => by
      refine ⟨fun r hr => ?_, ⟨by decide, fun _ => Gpu.inside_of_unmoved (by decide) rfl rfl
        fun r hr => ?_⟩, by decide⟩
      all_goals
        rw [rects_onePixel hr]
        exact ⟨by decide, by decide, by decide⟩) rfl
  have hdone := reachable_of_run drawEvents (by simp [drawEvents]) hpresent rfl
  exact ⟨_, _, hdone, rfl, (shown_eq_memory hdone ⟨rfl, rfl⟩ rfl rfl).2⟩

/-! ## A hidden source -/

/-- Events that neither change the mode nor make the source visible or hide it. -/
def StaysHidden : ScreenEvent → Prop
  | .setSourceModeAndPath .. | .setVidPnSourceVisibility _ => False
  | .setPointerShape .. | .setPointerPosition _ | .presentDisplayOnly .. | .store | .perform _
  | .host => True

/-- The source is hidden, `bytes` bytes of the object `n` are zero or are to be zeroed, and no
command is to change the picture `shown`. -/
structure Hidden (shown : Nat → Nat → Nat → Byte) (n bytes : Nat) (s : Screen) : Prop where
  hidden : s.sourceNotVisible = true
  ptr : s.gpu.mode.ptr = some n
  shown : s.picture.shown = shown
  quiet : ∀ e ∈ s.yet, Quiet e
  zeroed : ∃ j, s.stores = (zeroMemory bytes).drop j ∧ ∀ k < j, k < bytes → s.memory n k = 0

theorem shown_of_quiet {e : Queued CtrlCommand} (hq : Quiet e) (memory : Nat → Int → Byte)
    (h : Resources) (p : Picture) : (p.exec memory h e).shown = p.shown := by
  obtain ⟨n, c⟩ := e
  cases c with
  | resourceFlush r width height x y => cases hq
  | getDisplayInfo => rfl
  | resourceUnref r => rfl
  | setScanout id r width height x y => rfl
  | resourceAttachBacking r ents => rfl
  | resourceDetachBacking r => rfl
  | resourceCreate2d r format width height =>
    simp only [Picture.exec]
    split <;> rfl
  | transferToHost2d r offset width height x y =>
    simp only [Picture.exec]
    split
    · split <;> rfl
    · rfl
    · rfl

@[simp] theorem length_zeroMemory (bytes : Nat) : (zeroMemory bytes).length = bytes := by
  simp [zeroMemory]

theorem drop_zeroMemory {bytes j : Nat} (hj : j < bytes) : (zeroMemory bytes).drop j =
    .store ⟨j, [0]⟩ :: (zeroMemory bytes).drop (j + 1) := by
  rw [List.drop_eq_getElem_cons (by rwa [length_zeroMemory])]
  simp only [zeroMemory, List.getElem_map, List.getElem_range]

section Hidden

variable {shown : Nat → Nat → Nat → Byte} {n bytes : Nat}

/-- `BlackOutScreen` zeroes the next byte. -/
theorem Hidden.store (hh : s.Hidden shown n bytes) (hs : s.step .store = some s') :
    s'.Hidden shown n bytes := by
  obtain ⟨dod, sourceNotVisible, memory, stores, todo, ring, resources, picture⟩ := s
  cases stores with
  | nil => cases hs
  | cons a stores =>
    obtain ⟨n', hptr, hs⟩ := Option.bind_eq_some_iff.mp hs
    cases hs
    obtain rfl : n' = n := Option.some_inj.mp (hptr.symm.trans hh.ptr)
    obtain ⟨j, hstores, hzero⟩ := hh.zeroed
    have hlt : j < bytes := by
      by_contra hge
      rw [List.drop_eq_nil_of_le (by simpa using hge)] at hstores
      cases hstores
    obtain ⟨rfl, rfl⟩ := List.cons.inj (hstores.trans (drop_zeroMemory hlt))
    refine ⟨hh.hidden, hh.ptr, hh.shown, hh.quiet, j + 1, rfl, fun k hk hk' => ?_⟩
    by_cases hkj : k = j
    · subst hkj
      show Function.update memory n' (applyAll [⟨k, [0]⟩] (memory n')) n' k = 0
      rw [Function.update_self]
      exact Store.apply_of_writes (s := ⟨k, [0]⟩) ⟨0, rfl, (Int.add_zero _).symm⟩ _
    · refine (storeTo_of_not_writes fun _ v hv => ?_).trans (hzero k (by omega) hk')
      obtain ⟨i, hi, hki⟩ := hv
      have hone : i < 1 := (List.getElem?_eq_some_iff.mp hi).1
      change (k : Int) = (j : Int) + i at hki
      omega

theorem Hidden.begins (hh : s.Hidden shown n bytes) {l : List Effect} (hb : Begins s s' l)
    (hquiet : ∀ e ∈ commands l, Quiet e) (hhidden : s'.sourceNotVisible = s.sourceNotVisible)
    (hmode : s'.gpu.mode = s.gpu.mode) (hstores : s'.stores = []) : s'.Hidden shown n bytes where
  hidden := hhidden.trans hh.hidden
  ptr := by
    rw [hmode]
    exact hh.ptr
  shown := by
    rw [hb.picture]
    exact hh.shown
  quiet := by
    rw [hb.yet]
    exact List.forall_mem_append.mpr ⟨hh.quiet, hquiet⟩
  zeroed := by
    obtain ⟨j, hj, hzero⟩ := hh.zeroed
    rw [hb.idle.1] at hj
    have hall := List.drop_eq_nil_iff.mp hj.symm
    rw [length_zeroMemory] at hall
    refine ⟨bytes, ?_, fun k hk _ => ?_⟩
    · rw [hstores, List.drop_eq_nil_of_le (by rw [length_zeroMemory])]
    · rw [hb.memory]
      exact hzero k (Nat.lt_of_lt_of_le hk hall) hk

theorem Hidden.step (hh : s.Hidden shown n bytes) {e : ScreenEvent} (he : StaysHidden e)
    (hs : s.step e = some s') : s'.Hidden shown n bytes := by
  cases e with
  | setSourceModeAndPath modes pinned path a => cases he
  | setVidPnSourceVisibility visible => cases he
  | setPointerShape shape a =>
    unfold Screen.step at hs
    split_ifs at hs with hidle
    obtain ⟨g, hcall, rfl⟩ := Option.map_eq_some_iff.mp hs
    obtain ⟨l, hu⟩ := Gpu.setPointerShape_unflushed hcall
    exact hh.begins (begins_called hidle hu.effects _) hu.quiet rfl hu.mode rfl
  | setPointerPosition p =>
    unfold Screen.step at hs
    split_ifs at hs with hidle
    obtain ⟨g, hcall, rfl⟩ := Option.map_eq_some_iff.mp hs
    obtain ⟨obj, x, y, -, rfl⟩ := Gpu.setPointerPosition_cases hcall
    exact hh.begins (begins_called hidle rfl _) (fun e he => (by cases he)) rfl rfl rfl
  | presentDisplayOnly source off p =>
    unfold Screen.step at hs
    split_ifs at hs with hidle
    obtain ⟨⟨status, screen, g⟩, hcall, hs⟩ := Option.bind_eq_some_iff.mp hs
    cases hs
    obtain ⟨rfl, hnone⟩ : g = s.gpu ∧ screen.accesses = [] := by
      rw [hh.hidden, Bool.or_true, Gpu.presentDisplayOnly] at hcall
      by_cases hbytes : p.bytesPerPixel < 4
      · rw [if_pos hbytes] at hcall
        cases hcall
        exact ⟨rfl, rfl⟩
      · rw [if_neg hbytes, if_pos rfl] at hcall
        cases hcall
        exact ⟨rfl, rfl⟩
    exact hh.begins (begins_called hidle (List.append_nil _).symm _) (fun e he => (by cases he)) rfl
      rfl hnone
  | store => exact hh.store hs
  | perform entered =>
    obtain ⟨dod, sourceNotVisible, memory, stores, todo, ring, resources, picture⟩ := s
    cases stores with
    | cons a stores => cases hs
    | nil =>
      cases todo with
      | nil => cases hs
      | cons effect todo =>
        cases effect with
        | ctrl m c =>
          cases hs
          refine ⟨hh.hidden, hh.ptr, hh.shown, fun e he => hh.quiet e ?_, hh.zeroed⟩
          show e ∈ ring ++ ((m, c) :: commands todo)
          cases entered with
          | true => exact List.append_assoc ring [(m, c)] (commands todo) ▸ he
          | false =>
            have he : e ∈ (ring ++ []) ++ commands todo := he
            rw [List.append_nil] at he
            exact List.mem_append.mpr ((List.mem_append.mp he).imp_right (List.mem_cons_of_mem _))
        | _ =>
          cases hs
          exact ⟨hh.hidden, hh.ptr, hh.shown, hh.quiet, hh.zeroed⟩
  | host =>
    obtain ⟨dod, sourceNotVisible, memory, stores, todo, ring, resources, picture⟩ := s
    cases ring with
    | nil => cases hs
    | cons e ring =>
      cases hs
      exact ⟨hh.hidden, hh.ptr,
        (shown_of_quiet (hh.quiet e List.mem_cons_self) memory resources picture).trans hh.shown,
        fun e' he' => hh.quiet e' (List.mem_cons_of_mem e he'), hh.zeroed⟩

/-- **A hidden source stays on show**: `BlackOutScreen` zeroes the memory of the surface and tells
the host nothing, and what is shown is as before, whatever is presented and whatever becomes of the
pointer, until the source is visible again or the mode changes. -/
theorem hidden_stays_shown {s₀ s₁ : Screen} (hquiet : ∀ e ∈ s₀.ring, Quiet e)
    (hblack : s₀.gpu.blackOutScreen = some (n, bytes))
    (hhide : s₀.step (.setVidPnSourceVisibility false) = some s₁)
    (hr : System.ReachableUnder ⟨s₁, Screen.step⟩ (fun _ e => StaysHidden e) s) :
    s.picture.shown = s₀.picture.shown ∧ (s.stores = [] → ∀ k < bytes, s.memory n k = 0) := by
  have hptr : s₀.gpu.mode.ptr = some n := by
    unfold Gpu.blackOutScreen at hblack
    split_ifs at hblack
    obtain ⟨m, hm, heq⟩ := Option.map_eq_some_iff.mp hblack
    cases heq
    exact hm
  unfold Screen.step at hhide
  split_ifs at hhide with hidle
  have hstart : Hidden s₀.picture.shown n bytes s₁ := by
    have hstores : s₁.stores = zeroMemory bytes := by
      cases hhide
      show s₀.gpu.blackOutScreen.elim [] _ = _
      rw [hblack]
      rfl
    have htodo : s₁.todo = [] := by
      cases hhide
      exact List.drop_length
    have hring : s₁.ring = s₀.ring := by
      cases hhide
      rfl
    have hyet : s₁.yet = s₀.ring := by
      unfold yet
      rw [hring, htodo]
      exact List.append_nil _
    refine ⟨?_, ?_, ?_, by rw [hyet]; exact hquiet, 0, hstores, fun k hk => absurd hk (by omega)⟩
    · cases hhide
      rfl
    · cases hhide
      exact hptr
    · cases hhide
      rfl
  have hh := hr.induct (Hidden s₀.picture.shown n bytes) hstart fun _ _ _ hh he hs => hh.step he hs
  refine ⟨hh.shown, fun hnone k hk => ?_⟩
  obtain ⟨j, hj, hzero⟩ := hh.zeroed
  rw [hnone] at hj
  have hall := List.drop_eq_nil_iff.mp hj.symm
  rw [length_zeroMemory] at hall
  exact hzero k (Nat.lt_of_lt_of_le hk hall) hk

end Hidden

/-- The host has taken every command of the mode change. -/
theorem hidden_stays_shown_oneMode : ∃ s₀ s₁,
    (start ⟨800, 600, 3200, .x8r8g8b8, 0⟩ 0 (fun _ _ => 1)
      ⟨fun _ _ _ _ => 0, fun _ _ _ => 0⟩).step
        (.setSourceModeAndPath oneMode smallSource straightPath allocated) >>=
      (modeEvents ++ [ScreenEvent.host, .host]).foldlM step = some s₀ ∧
    s₀.step (.setVidPnSourceVisibility false) = some s₁ ∧
    s₁.picture.shown = s₀.picture.shown := by
  refine ⟨_, _, rfl, rfl, (@hidden_stays_shown _ 0 4096 _ _ ?_ rfl rfl .init).1⟩
  intro e he
  cases he

end Screen

end VioGpu.Device
