import VioGpu.Device.VidPnOs

/-!
# The modes that are offered

Both `AddSingleSourceMode` and `AddSingleTargetMode` go through the mode list, and a mode that is
there already is passed over. The source modes have the sizes of the list. The target modes all
have the size of one entry, whose index is the source id and not the index of the loop.
-/

namespace VioGpu.Device

open Lib Program VidPnCall

namespace VidPnOs

variable {os os' os'' : VidPnOs}

/-- The modes of a mode set after one was added. -/
def withMode (modes : List NewMode) (mode : NewMode) : List NewMode :=
  if mode ∈ modes then modes else modes ++ [mode]

theorem size_mem_withMode (modes : List NewMode) (mode : NewMode) (size : Region) :
    size ∈ (withMode modes mode).map NewMode.size ↔
      size ∈ modes.map NewMode.size ∨ size = mode.size := by
  rw [withMode]
  split_ifs with hmem
  · constructor
    · exact .inl
    · rintro (h | rfl)
      · exact h
      · exact List.mem_map_of_mem hmem
  · simp

/-- Only mode infos differ, and the modes in open mode sets. -/
structure SameVidPn (os os' : VidPnOs) : Prop where
  pinned : ∀ s, (os'.opened s).pinned = (os.opened s).pinned
  paths : os'.paths = os.paths
  datasetIsEmpty : os'.datasetIsEmpty = os.datasetIsEmpty
  current : os'.current = os.current
  changes : os'.changes = os.changes

theorem SameVidPn.refl (os : VidPnOs) : SameVidPn os os := ⟨fun _ => rfl, rfl, rfl, rfl, rfl⟩

theorem SameVidPn.trans (h : SameVidPn os os') (h' : SameVidPn os' os'') : SameVidPn os os'' where
  pinned := fun s => (h'.pinned s).trans (h.pinned s)
  paths := h'.paths.trans h.paths
  datasetIsEmpty := h'.datasetIsEmpty.trans h.datasetIsEmpty
  current := h'.current.trans h.current
  changes := h'.changes.trans h.changes

/-- A mode info was created, and a mode written into it. -/
def withModeInfo (os : VidPnOs) (mode : NewMode) : VidPnOs :=
  { os with
    written := Function.update os.written os.newHandle (some mode)
    newHandle := os.newHandle + 1 }

theorem add_of_mem {mode : NewMode} {s : Nat} (h : mode ∈ (os.opened s).modes) :
    (os.withModeInfo mode).add s os.newHandle = (.alreadyInModeset, os.withModeInfo mode) := by
  simp [add, withModeInfo, h]

theorem add_of_not_mem {mode : NewMode} {s : Nat} (h : mode ∉ (os.opened s).modes) :
    (os.withModeInfo mode).add s os.newHandle = (.added, { os.withModeInfo mode with
      opened := Function.update os.opened s
        { os.opened s with modes := (os.opened s).modes ++ [mode] } }) := by
  simp [add, withModeInfo, h]

end VidPnOs

open VidPnOs

section GiveMode

variable {os os' : VidPnOs} {kind : ModeKind} {s i : Nat} {afterFailure : Nat → Option Status}

theorem exec_giveMode_added (h : os.add s i = (.added, os')) :
    (giveMode kind s i afterFailure).exec answer os = (.done none, os') :=
  exec_call_of_eq (show answer os (addMode kind s i) = _ from h) _

theorem exec_giveMode_already (h : os.add s i = (.alreadyInModeset, os')) :
    (giveMode kind s i afterFailure).exec answer os = (.done none, os') :=
  exec_call_of_eq (show answer os (addMode kind s i) = _ from h) _

end GiveMode

/-- One turn of the loops: the mode is in the mode set then. -/
theorem exec_addSingleMode (os : VidPnOs) (kind : ModeKind) (s : Nat) (mode : NewMode)
    (afterFailure : Nat → Option Status) :
    ∃ os', (addSingleMode kind s mode afterFailure).exec answer os = (.done none, os') ∧
      SameVidPn os os' ∧ (os'.opened s).modes = withMode (os.opened s).modes mode := by
  have hexec : (addSingleMode kind s mode afterFailure).exec answer os =
      (giveMode kind s os.newHandle afterFailure).exec answer (os.withModeInfo mode) := rfl
  rw [hexec, withMode]
  split_ifs with hmem
  · rw [exec_giveMode_already (add_of_mem hmem)]
    exact ⟨_, rfl, ⟨fun _ => rfl, rfl, rfl, rfl, rfl⟩, rfl⟩
  · rw [exec_giveMode_added (add_of_not_mem hmem)]
    refine ⟨_, rfl, ⟨?_, rfl, rfl, rfl, rfl⟩, by simp⟩
    intro s'
    by_cases hs : s' = s <;> simp [hs]

/-- The loop of `AddSingleSourceMode` succeeds, and the modes are in the mode set then. -/
theorem exec_addSourceModes (modes : List VideoModeInformation) (os : VidPnOs) (s : Nat) :
    ∃ os', (addSourceModes s modes).exec answer os = (.done .success, os') ∧ SameVidPn os os' ∧
      ∀ size, size ∈ (os'.opened s).modes.map NewMode.size ↔
        size ∈ (os.opened s).modes.map NewMode.size ∨
          ∃ mi ∈ modes, size = ⟨mi.visScreenWidth, mi.visScreenHeight⟩ := by
  induction modes generalizing os with
  | nil => exact ⟨os, rfl, .refl os, by simp⟩
  | cons mi modes ih =>
    obtain ⟨os₁, hexec₁, hsame₁, hmodes₁⟩ := exec_addSingleMode os .source s
      (.source (newSourceMode mi)) fun code => some (.os code)
    obtain ⟨os₂, hexec₂, hsame₂, hmodes₂⟩ := ih os₁
    refine ⟨os₂, ?_, hsame₁.trans hsame₂, ?_⟩
    · exact (exec_bind_of_done hexec₁ _).trans hexec₂
    · intro size
      rw [hmodes₂, hmodes₁, size_mem_withMode, List.exists_mem_cons_iff]
      exact or_assoc

/-- The loop of `AddSingleTargetMode` succeeds, and the mode is in the mode set then, if there
was a turn. -/
theorem exec_addTargetModes (mi : VideoModeInformation) (turns : Nat) (os : VidPnOs) (s : Nat) :
    ∃ os', (addTargetModes s mi turns).exec answer os = (.done .success, os') ∧
      SameVidPn os os' ∧
      ∀ size, size ∈ (os'.opened s).modes.map NewMode.size ↔
        size ∈ (os.opened s).modes.map NewMode.size ∨
          turns ≠ 0 ∧ size = ⟨mi.visScreenWidth, mi.visScreenHeight⟩ := by
  induction turns generalizing os with
  | zero => exact ⟨os, rfl, .refl os, by simp⟩
  | succ turns ih =>
    obtain ⟨os₁, hexec₁, hsame₁, hmodes₁⟩ := exec_addSingleMode os .target s
      (.target (newTargetMode mi)) fun _ => none
    obtain ⟨os₂, hexec₂, hsame₂, hmodes₂⟩ := ih os₁
    refine ⟨os₂, ?_, hsame₁.trans hsame₂, ?_⟩
    · exact (exec_bind_of_done hexec₁ _).trans hexec₂
    · intro size
      rw [hmodes₂, hmodes₁, size_mem_withMode]
      have hturn : turns + 1 ≠ 0 := Nat.succ_ne_zero turns
      change (_ ∨ size = ⟨mi.visScreenWidth, mi.visScreenHeight⟩) ∨ _ ↔ _
      tauto

/-! ## Sizes -/

/-- The sizes in a new mode set that was filled. -/
def VidPnOs.offeredSizes (os : VidPnOs) (addModes : Nat → VidPnProgram Status) : List Region :=
  (((addModes os.newHandle).exec answer (os.openSet ⟨none, []⟩)).2.opened
    os.newHandle).modes.map NewMode.size

variable (a : EnumVidPnCofuncModality)

/-- The size of an entry of `m_ModeInfo`. -/
def EnumVidPnCofuncModality.modeSize (i : Nat) : Region :=
  ⟨(a.modeInfo i).visScreenWidth, (a.modeInfo i).visScreenHeight⟩

theorem mem_offeredSizes_source (os : VidPnOs) (size : Region) :
    size ∈ os.offeredSizes (addSingleSourceMode a) ↔
      ∃ i < a.modeCount, size = a.modeSize i := by
  obtain ⟨os', hexec, -, hsizes⟩ := exec_addSourceModes ((List.range a.modeCount).map a.modeInfo)
    (os.openSet ⟨none, []⟩) os.newHandle
  rw [offeredSizes, addSingleSourceMode, hexec, hsizes]
  simp [openSet, EnumVidPnCofuncModality.modeSize]

theorem mem_offeredSizes_target (os : VidPnOs) (sourceId : Nat) (size : Region) :
    size ∈ os.offeredSizes (addSingleTargetMode a sourceId) ↔
      a.modeCount ≠ 0 ∧ size = a.modeSize sourceId := by
  obtain ⟨os', hexec, -, hsizes⟩ := exec_addTargetModes (a.modeInfo sourceId) a.modeCount
    (os.openSet ⟨none, []⟩) os.newHandle
  rw [offeredSizes, addSingleTargetMode, hexec, hsizes]
  simp [openSet, EnumVidPnCofuncModality.modeSize]

/-- The target modes have the sizes of the source modes exactly when all the modes of the list
have the size of the entry at the source id; and already every source mode has a target mode of
its size only then. -/
theorem offeredSizes_agree_iff (os os' : VidPnOs) (sourceId : Nat) :
    ((∀ size, size ∈ os'.offeredSizes (addSingleTargetMode a sourceId) ↔
        size ∈ os.offeredSizes (addSingleSourceMode a)) ↔
      ∀ i < a.modeCount, a.modeSize i = a.modeSize sourceId) ∧
    ((∀ size ∈ os.offeredSizes (addSingleSourceMode a),
        size ∈ os'.offeredSizes (addSingleTargetMode a sourceId)) ↔
      ∀ i < a.modeCount, a.modeSize i = a.modeSize sourceId) := by
  simp only [mem_offeredSizes_source, mem_offeredSizes_target]
  have hcovers : (∀ size, (∃ i < a.modeCount, size = a.modeSize i) →
      a.modeCount ≠ 0 ∧ size = a.modeSize sourceId) ↔
        ∀ i < a.modeCount, a.modeSize i = a.modeSize sourceId := by
    constructor
    · intro h i hi
      exact (h (a.modeSize i) ⟨i, hi, rfl⟩).2
    · rintro h _ ⟨i, hi, rfl⟩
      exact ⟨by omega, h i hi⟩
  refine ⟨⟨fun h => hcovers.mp fun size => (h size).mpr, fun h size => ⟨?_, hcovers.mpr h size⟩⟩,
    hcovers⟩
  rintro ⟨hcount, rfl⟩
  exact ⟨0, Nat.pos_of_ne_zero hcount, (h 0 (Nat.pos_of_ne_zero hcount)).symm⟩

/-- A list of two modes that are not of one size. -/
def twoModes : EnumVidPnCofuncModality where
  enumPivotType := .noPivot
  pivotSourceId := 0
  pivotTargetId := 0
  modeCount := 2
  modeInfo i := if i = 0 then ⟨0, 1024, 768, 4096⟩ else ⟨1, 1280, 1024, 5120⟩

/-- Of the sizes 1024 x 768 and 1280 x 1024 only the first is a size of a target mode. -/
theorem offeredSizes_not_always_agree :
    ¬∀ (a : EnumVidPnCofuncModality) (os os' : VidPnOs) (sourceId : Nat) (size : Region),
      size ∈ os'.offeredSizes (addSingleTargetMode a sourceId) ↔
        size ∈ os.offeredSizes (addSingleSourceMode a) := by
  intro h
  let os : VidPnOs := ⟨[], true, fun _ _ => ⟨none, []⟩, fun _ => ⟨none, []⟩, fun _ => none, 1, []⟩
  have hsource : (⟨1280, 1024⟩ : Region) ∈ os.offeredSizes (addSingleSourceMode twoModes) :=
    (mem_offeredSizes_source twoModes os _).mpr ⟨1, by decide, rfl⟩
  have htarget := (h twoModes os os 0 ⟨1280, 1024⟩).mpr hsource
  exact absurd ((mem_offeredSizes_target twoModes os 0 _).mp htarget).2 (by decide)

end VioGpu.Device
