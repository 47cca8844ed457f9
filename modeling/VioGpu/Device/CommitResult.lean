import VioGpu.Device.CommitRuns

/-!
# What a successful commit has done

`CreateFrameBuffer` returns nothing, and `SetSourceModeAndPath` reports success where no mode of
the list has the size of the surface. So `CommitVidPn` can succeed without a frame buffer of the
pinned size: `commitVidPn_shown_iff` says when it has one. The mode changes of the loop are
composed by `ChangedTo.cons`, and only the last of them decides about the frame buffer.
-/

namespace VioGpu.Device

open Lib Queue

namespace Gpu

/-- Every resource that is created among these effects has the size of the mode. -/
def Creates (mi : VideoModeInformation) (new : List Effect) : Prop :=
  ∀ n r format width height, .ctrl n (.resourceCreate2d r format width height) ∈ new →
    width = mi.visScreenWidth ∧ height = mi.visScreenHeight

theorem Creates.append {mi : VideoModeInformation} {new new' : List Effect} (h : Creates mi new)
    (h' : Creates mi new') : Creates mi (new ++ new') := by
  intro n r format width height hmem
  rcases List.mem_append.mp hmem with hmem | hmem
  · exact h n r format width height hmem
  · exact h' n r format width height hmem

/-- The object that `SetCurrentMode` creates for a mode: it is the frame buffer, and its resource
is created among the effects. -/
structure Made (g' : Gpu) (mi : VideoModeInformation) (new : List Effect) (obj : VioGpuObj) :
    Prop where
  frameBuf : g'.frameBuf = some obj
  memory : obj.vAddr = some mi.memorySize
  create : ∃ r format, .ctrl obj.number
    (.resourceCreate2d r format mi.visScreenWidth mi.visScreenHeight) ∈ new
  mode : g'.mode.ptr = some obj.number ∧ g'.mode.frameBufferIsActive = true

theorem createFrameBuffer_made {g g' : Gpu} {mi : VideoModeInformation} {a : Allocs}
    (h : g.createFrameBuffer mi a = some g') :
    g'.objects = g.objects + 1 ∧ ∃ new, g'.effects = g.effects ++ new ∧ Creates mi new ∧
      ((¬a.init.Succeeds ∧ g'.frameBuf = g.frameBuf ∧ g'.mode = g.mode) ∨
      (a.init.Succeeds ∧ ∃ obj, obj.number = g.objects ∧ g'.Made mi new obj ∧
        g'.mode = { g.mode with
          dispInfo := { g.mode.dispInfo with physicAddress := obj.physicalAddress }
          ptr := some obj.number
          frameBufferIsActive := true })) := by
  rcases createFrameBuffer_cases h with
    ⟨hfails, rfl⟩ | ⟨hsucceeds, obj, ⟨hnumber, -, -⟩, hmem, rfl⟩
  · exact ⟨rfl, _, rfl, by simp [Creates], .inl ⟨hfails, rfl, rfl⟩⟩
  · refine ⟨rfl, _, (List.append_assoc _ _ _).trans (List.append_assoc _ _ _), ?_,
      .inr ⟨hsucceeds, obj, hnumber, ⟨rfl, hmem, ⟨g.idr.getId.1,
        colorFormat g.mode.dispInfo.colorFormat, ?_⟩, ?_, rfl⟩, ?_⟩⟩
    · cases a.ents <;> simp [Creates]
    · rw [hnumber]
      exact List.mem_append_left _ (List.mem_cons_of_mem _ List.mem_cons_self)
    · rw [hnumber]
    · rw [hnumber]

theorem destroyFrameBuffer_made {g g' : Gpu} (h : g.destroyFrameBuffer = some g')
    (mi : VideoModeInformation) : g'.frameBuf = none ∧ g'.mode = g.mode ∧
      g'.objects = g.objects ∧ ∃ new, g'.effects = g.effects ++ new ∧ Creates mi new := by
  rcases destroyFrameBuffer_cases h with ⟨hnone, rfl⟩ | ⟨obj, g₂, -, hobj, rfl⟩
  · exact ⟨hnone, rfl, rfl, [], (List.append_nil _).symm, nofun⟩
  · rw [destroyObj_eq hobj]
    exact ⟨rfl, rfl, rfl, _, rfl, by simp [Creates]⟩

/-- **`SetCurrentMode`**, with its effects. -/
theorem setCurrentMode_made {g g' : Gpu} {modes : List VideoModeInformation} {mode : Nat}
    {mi : VideoModeInformation} {a : Allocs} {ok : Bool}
    (hfind : modes.find? (·.modeNumber = mode) = some mi)
    (h : g.setCurrentMode modes mode a = some (ok, g')) :
    ok = true ∧ g'.objects = g.objects + 1 ∧
      ∃ new, g'.effects = g.effects ++ new ∧ Creates mi new ∧
        ((¬a.init.Succeeds ∧ g'.frameBuf = none ∧ g'.mode = g.clearMode.mode) ∨
        (a.init.Succeeds ∧ ∃ obj, obj.number = g.objects ∧ g'.Made mi new obj ∧
          g'.mode = { g.mode with
            dispInfo := { g.mode.dispInfo with physicAddress := obj.physicalAddress }
            ptr := some obj.number
            frameBufferIsActive := true })) := by
  rcases setCurrentMode_cases h with ⟨hnone, -, -⟩ | ⟨m, g₁, hm, hok, hdestroy, hcreate⟩
  · rw [hnone] at hfind
    cases hfind
  obtain rfl : m = mi := Option.some_inj.mp (hm.symm.trans hfind)
  obtain ⟨hframe, hmode, hobjects, old, hold, hcreatesOld⟩ := destroyFrameBuffer_made hdestroy m
  obtain ⟨hobjects', new, hnew, hcreates, hend⟩ := createFrameBuffer_made hcreate
  have heffects : g'.effects = g.effects ++ (old ++ new) := by
    rw [hnew, ← List.append_assoc, ← hold]
    rfl
  refine ⟨hok, hobjects'.trans (congrArg (· + 1) hobjects), old ++ new, heffects,
    hcreatesOld.append hcreates, ?_⟩
  rcases hend with ⟨hfails, hframe', hmode'⟩ | ⟨hsucceeds, obj, hnumber, hmade, hmode'⟩
  · exact .inl ⟨hfails, hframe'.trans hframe, by simp [hmode', clearMode, hmode]⟩
  · obtain ⟨hframe', hmem, ⟨r, format, hcreate⟩, hptr⟩ := hmade
    exact .inr ⟨hsucceeds, obj, hnumber.trans hobjects,
      ⟨hframe', hmem, ⟨r, format, List.mem_append_right _ hcreate⟩, hptr⟩,
      by simp [hmode', clearMode, hmode]⟩

end Gpu

namespace Dod

/-- `m_CurrentModes[0]` when `SetSourceModeAndPath` looks for a mode. -/
def shownMode (mode : CurrentBddMode) (m : VidPnSourceMode) (path : VidPnPresentPath) :
    CurrentBddMode :=
  { sourceMode mode m path with fullscreenPresent := true }

/-- The index of the first mode of this size. -/
def sizeIndex (modes : List VideoModeInformation) (size : Region) : Option Nat :=
  modes.findIdx? (·.hasSize size.cx size.cy)

theorem sizeIndex_spec (modes : List VideoModeInformation) (size : Region) :
    (sizeIndex modes size).bind (modes[·]?) = modes.find? (·.hasSize size.cx size.cy) :=
  modeIndex_spec modes ⟨size.cx, size.cy, 0, .unknown, 0⟩

/-- Mode changes that come to the mode `mi`, the last of them along `path` with the outcomes
`a`. -/
structure ChangedTo (d d' : Dod Gpu) (modes : List VideoModeInformation) (m : VidPnSourceMode)
    (mi : VideoModeInformation) (tried : List (VidPnPresentPath × Allocs))
    (path : VidPnPresentPath) (a : Allocs) : Prop where
  index : sizeIndex modes m.primSurfSize = some d'.currentModeIndex
  mode : ∃ physicAddress ptr active, d'.device.mode = { shownMode d.device.mode m path with
    dispInfo := { (sourceMode d.device.mode m path).dispInfo with physicAddress := physicAddress }
    ptr := ptr
    frameBufferIsActive := active }
  objects : d.device.objects ≤ d'.device.objects
  effects : ∃ new, d'.device.effects = d.device.effects ++ new ∧ Gpu.Creates mi new ∧
    (a.init.Succeeds → ∃ obj, d'.device.Made mi new obj)
  failed : ¬a.init.Succeeds → d'.device.frameBuf = none ∧
    d'.device.mode.frameBufferIsActive = false ∧ d'.device.mode.dispInfo.physicAddress = 0
  samePtr : (∀ t ∈ tried, ¬t.2.init.Succeeds) → d'.device.mode.ptr = d.device.mode.ptr
  newPtr : ∀ t ∈ tried, t.2.init.Succeeds →
    ∃ n, d.device.objects ≤ n ∧ d'.device.mode.ptr = some n

theorem setSourceModeAndPath_cases {d d' : Dod Gpu} {modes : List VideoModeInformation}
    {m : VidPnSourceMode} {path : VidPnPresentPath} {a : Allocs} {status : Status}
    (h : setSourceModeAndPath gpuDevice d modes m path a = some (status, d')) :
    status = .success ∧ ((Gpu.chosenMode modes m.primSurfSize = none ∧
        d' = { d with device := { d.device with mode := shownMode d.device.mode m path } }) ∨
      ∃ mi, Gpu.chosenMode modes m.primSurfSize = some mi ∧
        ChangedTo d d' modes m mi [(path, a)] path a) := by
  obtain ⟨rfl, ⟨hnone, rfl⟩ | ⟨mi, mode, hchosen, hmi, hindex, hcall⟩⟩ :=
    setSourceModeAndPath_gpu h
  · exact ⟨rfl, .inl ⟨hnone, rfl⟩⟩
  obtain ⟨-, hobjects, new, heffects, hcreates, hend⟩ := Gpu.setCurrentMode_made hmi hcall
  refine ⟨rfl, .inr ⟨mi, hchosen, ?_⟩⟩
  have hle : d.device.objects ≤ d'.device.objects := Nat.le.intro hobjects.symm
  rcases hend with ⟨hfails, hframe, hmode⟩ | ⟨hsucceeds, obj, hnumber, hmade, hmode⟩
  · exact {
      index := hindex
      mode := ⟨_, _, _, hmode⟩
      objects := hle
      effects := ⟨new, heffects, hcreates, fun hok => absurd hok hfails⟩
      failed := fun _ => ⟨hframe, by simp [hmode, Gpu.clearMode], by simp [hmode, Gpu.clearMode]⟩
      samePtr := fun _ => by simp [hmode, Gpu.clearMode, sourceMode]
      newPtr := by simp [hfails] }
  · exact {
      index := hindex
      mode := ⟨_, _, _, hmode⟩
      objects := hle
      effects := ⟨new, heffects, hcreates, fun _ => ⟨obj, hmade⟩⟩
      failed := fun hfails => absurd hsucceeds hfails
      samePtr := fun hall => absurd hsucceeds (hall _ List.mem_cons_self)
      newPtr := fun _ _ _ => ⟨obj.number, Nat.le_of_eq hnumber.symm, hmade.mode.1⟩ }

/-- A mode change before others. -/
theorem ChangedTo.cons {d d₁ d' : Dod Gpu} {modes : List VideoModeInformation}
    {m : VidPnSourceMode} {mi : VideoModeInformation} {t : VidPnPresentPath × Allocs}
    {tried : List (VidPnPresentPath × Allocs)} {path : VidPnPresentPath} {a : Allocs}
    (h : ChangedTo d d₁ modes m mi [t] t.1 t.2) (h' : ChangedTo d₁ d' modes m mi tried path a) :
    ChangedTo d d' modes m mi (t :: tried) path a := by
  obtain ⟨_, _, _, hmode⟩ := h.mode
  obtain ⟨physicAddress, ptr, active, hmode'⟩ := h'.mode
  obtain ⟨new, heffects, hcreates, -⟩ := h.effects
  obtain ⟨new', heffects', hcreates', hmade⟩ := h'.effects
  refine {
    index := h'.index
    mode := ⟨physicAddress, ptr, active, by rw [hmode', hmode]; rfl⟩
    objects := Nat.le_trans h.objects h'.objects
    effects := ⟨new ++ new', ?_, hcreates.append hcreates', fun hok => ?_⟩
    failed := h'.failed
    samePtr := fun hall => ?_
    newPtr := fun u hu hok => ?_ }
  · rw [heffects', heffects, List.append_assoc]
  · obtain ⟨obj, hframe, hmem, ⟨r, format, hcreate⟩, hptr⟩ := hmade hok
    exact ⟨obj, hframe, hmem, ⟨r, format, List.mem_append_right _ hcreate⟩, hptr⟩
  · rw [h'.samePtr fun u hu => hall u (List.mem_cons_of_mem _ hu), h.samePtr]
    simpa using hall t List.mem_cons_self
  · by_cases hrest : ∃ u ∈ tried, u.2.init.Succeeds
    · obtain ⟨u, hu, hok⟩ := hrest
      obtain ⟨n, hle, hptr⟩ := h'.newPtr u hu hok
      exact ⟨n, Nat.le_trans h.objects hle, hptr⟩
    · have hnone : ∀ u ∈ tried, ¬u.2.init.Succeeds := fun u hu hok => hrest ⟨u, hu, hok⟩
      obtain rfl : u = t := by
        rcases List.mem_cons.mp hu with rfl | hu
        · rfl
        · exact absurd hok (hnone u hu)
      rw [h'.samePtr hnone]
      exact h.newPtr u List.mem_cons_self hok

/-- **The mode changes of a commit** on the `GpuDevice` path all succeed. -/
theorem changeModes_gpu {d d' : Dod Gpu} {modes : List VideoModeInformation} {m : VidPnSourceMode}
    {tried : List (VidPnPresentPath × Allocs)} {status : Status}
    (h : changeModes gpuDevice modes m d tried = some (status, d')) :
    status = .success ∧ (tried = [] → d' = d) ∧ ∀ path a, tried.getLast? = some (path, a) →
      (Gpu.chosenMode modes m.primSurfSize = none ∧
        d' = { d with device := { d.device with mode := shownMode d.device.mode m path } }) ∨
      ∃ mi, Gpu.chosenMode modes m.primSurfSize = some mi ∧
        ChangedTo d d' modes m mi tried path a := by
  induction tried generalizing d with
  | nil =>
    cases h
    exact ⟨rfl, fun _ => rfl, fun path a hlast => absurd hlast (by simp)⟩
  | cons t tried ih =>
    obtain ⟨first, d₁, hset, hfirst⟩ := changeModes_cons h
    obtain ⟨hok, hcases⟩ := setSourceModeAndPath_cases hset
    obtain ⟨hfails, -, -⟩ | ⟨-, hothers⟩ := hfirst
    · exact absurd hok hfails
    obtain ⟨rfl, hnil, hrest⟩ := ih hothers
    refine ⟨rfl, nofun, fun path a hlast => ?_⟩
    cases htried : tried.getLast? with
    | none =>
      obtain rfl : tried = [] := List.getLast?_eq_none_iff.mp htried
      cases hlast
      rw [hnil rfl]
      exact hcases
    | some last =>
      rw [List.getLast?_cons, htried] at hlast
      obtain rfl : last = (path, a) := by simpa using hlast
      rcases hcases with ⟨hnone, rfl⟩ | ⟨mi, hmi, hchanged⟩
      · rcases hrest path a htried with ⟨-, rfl⟩ | ⟨mi, hmi, -⟩
        · exact .inl ⟨hnone, rfl⟩
        · rw [hnone] at hmi
          cases hmi
      · rcases hrest path a htried with ⟨hnone, -⟩ | ⟨mi', hmi', hchanged'⟩
        · rw [hnone] at hmi
          cases hmi
        · obtain rfl : mi' = mi := Option.some_inj.mp (hmi'.symm.trans hmi)
          exact .inr ⟨mi', hmi, hchanged.cons hchanged'⟩

/-! ## A successful commit -/

/-- The commit is for a pinned mode and these paths, while the monitor is on. -/
structure Pins {ω : Type} (c : CommitVidPn ω) (m : VidPnSourceMode)
    (paths : List (PathAnswers ω)) : Prop where
  poweredOn : c.pathPoweredOff = false
  numPaths : ∃ n, c.numPaths = .ok (n + 1)
  pinned : c.pinned = .ok (some m)
  paths : c.paths = .ok paths

theorem Pins.course {δ ω : Type} {hw : HwDeviceInterface δ ω} {d d' : Dod δ} {c : CommitVidPn ω}
    {m : VidPnSourceMode} {paths : List (PathAnswers ω)} (hpins : Pins c m paths)
    (h : Follows hw d c .success d' c.course) : c.course = .loops m paths := by
  obtain ⟨poweredOff, interface, topology, numPaths, modeSet, pinned, modes, released, answers⟩ := c
  obtain ⟨hpower, ⟨n, hnum⟩, hpinned, hanswers⟩ := hpins
  subst hpower hnum hpinned hanswers
  unfold CommitVidPn.course at h ⊢
  rcases interface with code | u
  · exact absurd (h.2.mp rfl) nofun
  rcases topology with code | u
  · exact absurd (h.2.mp rfl) nofun
  rcases modeSet with code | u
  · exact absurd (h.2.mp rfl) nofun
  by_cases hvalid : isVidPnSourceModeFieldsValid m = .success
  · simp [hvalid]
  · simp only [Bool.false_eq_true, if_false, hvalid] at h
    obtain ⟨released, device, -, -, hiff⟩ := h
    exact absurd (hiff.mp rfl).2 nofun

/-- `m_pFrameBuf` is an object for whose resource of exactly this size the commit has queued the
creation, `FrameBuffer.Ptr` is its memory, and `DispInfo` and the current mode have this size. -/
structure Shown (d d' : Dod Gpu) (modes : List VideoModeInformation) (size : Region) : Prop where
  frameBuf : ∃ obj new r format, d'.device.frameBuf = some obj ∧ obj.vAddr.isSome = true ∧
    d'.device.effects = d.device.effects ++ new ∧
    .ctrl obj.number (.resourceCreate2d r format size.cx size.cy) ∈ new ∧
    d'.device.mode.ptr = some obj.number
  active : d'.device.mode.frameBufferIsActive = true
  dispInfo : d'.device.mode.dispInfo.width = size.cx ∧ d'.device.mode.dispInfo.height = size.cy
  listed : ∃ mi ∈ modes[d'.currentModeIndex]?, mi.hasSize size.cx size.cy = true

/-- The list has a mode of this size that is not hidden by another with its number. -/
def Listed (modes : List VideoModeInformation) (size : Region) : Prop :=
  ∃ mi ∈ Gpu.chosenMode modes size, mi.hasSize size.cx size.cy = true

theorem chosenMode_isSome {modes : List VideoModeInformation} {size : Region}
    {e : VideoModeInformation} (hmem : e ∈ modes) (hsize : e.hasSize size.cx size.cy = true) :
    Gpu.chosenMode modes size ≠ none := by
  obtain ⟨first, hfirst⟩ : ∃ first, modes.find? (·.hasSize size.cx size.cy) = some first := by
    rw [← Option.isSome_iff_exists, List.find?_isSome]
    exact ⟨e, hmem, hsize⟩
  obtain ⟨mi, hmi⟩ : ∃ mi, modes.find? (·.modeNumber = first.modeNumber) = some mi := by
    rw [← Option.isSome_iff_exists, List.find?_isSome]
    exact ⟨first, List.mem_of_find?_eq_some hfirst, by simp⟩
  intro hnone
  rw [Gpu.chosenMode, hfirst] at hnone
  change modes.find? _ = none at hnone
  rw [hmi] at hnone
  cases hnone

/-- **A successful commit** shows the pinned mode exactly if the mode is listed and the creation of
the frame buffer for the last path succeeds. -/
theorem commitVidPn_shown_iff {d d' : Dod Gpu} {c : CommitVidPn Allocs} {m : VidPnSourceMode}
    {paths : List (PathAnswers Allocs)} {calls : List OsCall} (hpins : Pins c m paths)
    (hne : paths ≠ []) (h : commitVidPn gpuDevice d c = some (.success, calls, d')) :
    Shown d d' c.modes m.primSurfSize ↔ Listed c.modes m.primSurfSize ∧
      ∃ last ∈ paths.getLast?, last.outcomes.init.Succeeds := by
  have hfollows := commitVidPn_course h
  rw [hpins.course hfollows] at hfollows
  obtain ⟨released, device, hrelease, -, hloop⟩ := hfollows
  rw [releaseOld_gpu] at hrelease
  cases hrelease
  obtain ⟨changed, hchanges, hiff⟩ := hloop rfl
  obtain ⟨rfl, hends⟩ := hiff.mp rfl
  obtain ⟨-, -, hcases⟩ := changeModes_gpu hchanges
  obtain ⟨last, hlast⟩ : ∃ last, paths.getLast? = some last :=
    ⟨_, List.getLast?_eq_some_getLast hne⟩
  obtain ⟨⟨path, a⟩, htried, ha⟩ : ∃ t, (tries paths).getLast? = some t ∧ t.2 = last.outcomes := by
    have hmap := congrArg List.getLast? (tries_outcomes hends)
    rw [List.getLast?_map, List.getLast?_map, hlast] at hmap
    exact Option.map_eq_some_iff.mp hmap
  simp only [hlast, Option.mem_some_iff, exists_eq_left', ← ha]
  rcases hcases path a htried with ⟨hnone, rfl⟩ | ⟨mi, hmi, hchanged⟩
  · refine iff_of_false (fun hshown => ?_) fun hlisted => ?_
    · obtain ⟨e, he, hsize⟩ := hshown.listed
      exact chosenMode_isSome (List.mem_of_getElem? he) hsize hnone
    · obtain ⟨mi, hmi, -⟩ := hlisted.1
      rw [hnone] at hmi
      cases hmi
  obtain ⟨physicAddress, ptr, active, hmode⟩ := hchanged.mode
  obtain ⟨new, heffects, hcreates, hmade⟩ := hchanged.effects
  simp only [Listed, hmi, Option.mem_some_iff, exists_eq_left']
  constructor
  · intro hshown
    obtain ⟨obj, new', r, format, hframe, -, heffects', hcreate, -⟩ := hshown.frameBuf
    obtain rfl : new' = new := List.append_cancel_left (heffects'.symm.trans heffects)
    obtain ⟨hwidth, hheight⟩ := hcreates _ _ _ _ _ hcreate
    refine ⟨by simp [VideoModeInformation.hasSize, hwidth, hheight], ?_⟩
    by_contra hfails
    rw [(hchanged.failed hfails).1] at hframe
    cases hframe
  · rintro ⟨hsize, hsucceeds⟩
    obtain ⟨obj, hframe, hmem, ⟨r, format, hcreate⟩, hptr, hactive⟩ := hmade hsucceeds
    obtain ⟨hwidth, hheight⟩ : m.primSurfSize.cx = mi.visScreenWidth ∧
        m.primSurfSize.cy = mi.visScreenHeight := by
      simpa [VideoModeInformation.hasSize] using hsize
    rw [← hwidth, ← hheight] at hcreate
    refine ⟨⟨obj, new, r, format, hframe, by rw [hmem]; rfl, heffects, hcreate, hptr⟩, hactive, ?_,
      ?_⟩
    · rw [hmode]
      exact ⟨rfl, rfl⟩
    · obtain ⟨hlt, hat, -⟩ := List.findIdx?_eq_some_iff_getElem.mp hchanged.index
      exact ⟨_, List.getElem?_eq_getElem hlt, hat⟩

theorem commitVidPn_shown_iff_oneCommit : ∃ calls d', commitVidPn gpuDevice
      ⟨.start (startDeviceMode ⟨800, 600, 3200, .x8r8g8b8, 0⟩ 0), 0⟩
      (oneCommit ⟨64, 16⟩ oneMode allocated) = some (.success, calls, d') ∧
    Shown ⟨.start (startDeviceMode ⟨800, 600, 3200, .x8r8g8b8, 0⟩ 0), 0⟩ d' oneMode ⟨64, 16⟩ := by
  obtain ⟨calls, d', h⟩ : ∃ calls d', commitVidPn gpuDevice
      ⟨.start (startDeviceMode ⟨800, 600, 3200, .x8r8g8b8, 0⟩ 0), 0⟩
      (oneCommit ⟨64, 16⟩ oneMode allocated) = some (.success, calls, d') := ⟨_, _, rfl⟩
  obtain ⟨m, p, hsize, hpins, hsucceeds⟩ : ∃ m p, m.primSurfSize = ⟨64, 16⟩ ∧
      Pins (oneCommit ⟨64, 16⟩ oneMode allocated) m [p] ∧ p.outcomes.init.Succeeds :=
    ⟨_, _, rfl, ⟨rfl, ⟨0, rfl⟩, rfl, rfl⟩, trivial⟩
  refine ⟨calls, d', h, ?_⟩
  rw [← hsize]
  refine (commitVidPn_shown_iff hpins (List.cons_ne_nil p []) h).mpr ⟨?_, p, rfl, hsucceeds⟩
  rw [hsize]
  exact ⟨_, rfl, rfl⟩

/-- Without memory for the frame buffer the commit succeeds too. -/
theorem not_always_shown : ¬∀ (acquired : DispInfo) (physicAddress : Nat) (d d' : Dod Gpu)
    (c : CommitVidPn Allocs) (m : VidPnSourceMode) (paths : List (PathAnswers Allocs))
    (calls : List OsCall), (gpuSystem acquired physicAddress).Reachable d → Pins c m paths →
    paths ≠ [] → commitVidPn gpuDevice d c = some (.success, calls, d') →
    Shown d d' c.modes m.primSurfSize := by
  intro hall
  obtain ⟨d', hframe, h⟩ : ∃ d' : Dod Gpu, d'.device.frameBuf = none ∧ commitVidPn gpuDevice
      (gpuSystem ⟨800, 600, 3200, .x8r8g8b8, 0⟩ 0).init
      (oneCommit ⟨64, 16⟩ oneMode ⟨true, .noMemory, true⟩) = some (.success, _, d') :=
    ⟨_, rfl, rfl⟩
  have hshown := hall _ _ _ _ _ _ _ _ .init ⟨rfl, ⟨0, rfl⟩, rfl, rfl⟩ (List.cons_ne_nil _ _) h
  obtain ⟨obj, _, _, _, hobj, -⟩ := hshown.frameBuf
  rw [hframe] at hobj
  cases hobj

end Dod

end VioGpu.Device
