import VioGpu.Device.VgaModeListRuns
import VioGpu.Lib.BitField

/-!
# What `VgaDevice::SetVideoModeInfo` computes of a block of the firmware

The filter of `GetModeList` looks at the size, the depth and the base address of a mode. What
`SetVideoModeInfo` divides by and shifts by it does not look at: the conversion is defined and the
masks are exact just when the block has planes and its fields are inside 32 bits
(`storesExactMasks_iff`).
-/

namespace VioGpu.Device

open Lib

/-- `SetVideoModeInfo` where a shift by 32 or more has no result, as a division by zero has none. -/
def videoModeInfo? (idx : Nat) (info : VbeModeInfo) : Option VgaModeEntry := do
  let entry ← videoModeInfo idx info
  let redMask ← bitField 32 info.linRedMaskSize.toNat info.linRedFieldPosition.toNat
  let greenMask ← bitField 32 info.linGreenMaskSize.toNat info.linGreenFieldPosition.toNat
  let blueMask ← bitField 32 info.linBlueMaskSize.toNat info.linBlueFieldPosition.toNat
  some { entry with redMask, greenMask, blueMask }

/-- `(2 ^ size - 1) * 2 ^ position` -/
def exactMask (maskSize fieldPosition : BitVec 8) : Nat :=
  (2 ^ maskSize.toNat - 1) * 2 ^ fieldPosition.toNat

/-- The masks of the entry are those of the fields of the block. -/
structure VgaModeEntry.HasExactMasks (entry : VgaModeEntry) (info : VbeModeInfo) : Prop where
  red : entry.redMask.toNat = exactMask info.linRedMaskSize info.linRedFieldPosition
  green : entry.greenMask.toNat = exactMask info.linGreenMaskSize info.linGreenFieldPosition
  blue : entry.blueMask.toNat = exactMask info.linBlueMaskSize info.linBlueFieldPosition

/-- **The conversion is defined**, and the stored masks are exact. -/
def StoresExactMasks (idx : Nat) (info : VbeModeInfo) : Prop :=
  ∃ entry, videoModeInfo? idx info = some entry ∧ entry.HasExactMasks info

/-- The field is inside 32 bits, and so are the counts of its shifts. -/
structure FieldFits (maskSize fieldPosition : BitVec 8) : Prop where
  size : maskSize.toNat < 32
  position : fieldPosition.toNat < 32
  inside : maskSize.toNat + fieldPosition.toNat ≤ 32

theorem fieldFits_iff {maskSize fieldPosition : BitVec 8} : FieldFits maskSize fieldPosition ↔
    ∃ mask, bitField 32 maskSize.toNat fieldPosition.toNat = some mask ∧
      mask.toNat = exactMask maskSize fieldPosition := by
  unfold exactMask
  rw [bitField_exact_iff]
  exact ⟨fun h => ⟨h.size, h.position, h.inside⟩, fun h => ⟨h.1, h.2.1, h.2.2⟩⟩

/-- Where the mask is defined, it is what the processor computes. -/
theorem fieldMask_of_bitField {maskSize fieldPosition : BitVec 8} {mask : BitVec 32}
    (h : bitField 32 maskSize.toNat fieldPosition.toNat = some mask) :
    fieldMask maskSize fieldPosition = mask := by
  obtain ⟨hsize, hposition, rfl⟩ := bitField_eq_some_iff.mp h
  apply BitVec.eq_of_toNat_eq
  rw [fieldMask, Nat.mod_eq_of_lt hsize, Nat.mod_eq_of_lt hposition, toNat_mask hsize,
    BitVec.natCast_eq_ofNat, BitVec.toNat_ofNat, Nat.shiftLeft_eq, Nat.one_shiftLeft]

theorem videoModeInfo?_eq_some_iff {idx : Nat} {info : VbeModeInfo} {entry : VgaModeEntry} :
    videoModeInfo? idx info = some entry ↔ ∃ e redMask greenMask blueMask,
      videoModeInfo idx info = some e ∧
      bitField 32 info.linRedMaskSize.toNat info.linRedFieldPosition.toNat = some redMask ∧
      bitField 32 info.linGreenMaskSize.toNat info.linGreenFieldPosition.toNat = some greenMask ∧
      bitField 32 info.linBlueMaskSize.toNat info.linBlueFieldPosition.toNat = some blueMask ∧
      entry = { e with redMask, greenMask, blueMask } := by
  constructor
  · intro h
    obtain ⟨e, he, h⟩ := Option.bind_eq_some_iff.mp h
    obtain ⟨redMask, hred, h⟩ := Option.bind_eq_some_iff.mp h
    obtain ⟨greenMask, hgreen, h⟩ := Option.bind_eq_some_iff.mp h
    obtain ⟨blueMask, hblue, h⟩ := Option.bind_eq_some_iff.mp h
    exact ⟨e, redMask, greenMask, blueMask, he, hred, hgreen, hblue, (Option.some.inj h).symm⟩
  · intro h
    obtain ⟨e, redMask, greenMask, blueMask, he, hred, hgreen, hblue, rfl⟩ := h
    rw [videoModeInfo?, he, hred, hgreen, hblue]
    rfl

/-- **Where the conversion is defined**, it is what is put into the table. -/
theorem videoModeInfo_of_defined {idx : Nat} {info : VbeModeInfo} {entry : VgaModeEntry}
    (h : videoModeInfo? idx info = some entry) : videoModeInfo idx info = some entry := by
  obtain ⟨e, redMask, greenMask, blueMask, he, hred, hgreen, hblue, rfl⟩ :=
    videoModeInfo?_eq_some_iff.mp h
  unfold videoModeInfo at he ⊢
  by_cases hzero : info.numberOfPlanes = 0
  · rw [if_pos hzero] at he
    cases he
  · rw [if_neg hzero] at he ⊢
    rw [← Option.some.inj he, fieldMask_of_bitField hred, fieldMask_of_bitField hgreen,
      fieldMask_of_bitField hblue]

theorem videoModeInfo_isSome_iff (idx : Nat) {info : VbeModeInfo} :
    (∃ entry, videoModeInfo idx info = some entry) ↔ info.numberOfPlanes ≠ 0 := by
  unfold videoModeInfo
  by_cases hzero : info.numberOfPlanes = 0
  · simp [hzero]
  · rw [if_neg hzero]
    exact iff_of_true ⟨_, rfl⟩ hzero

/-- The three fields of the block fit. -/
structure VbeModeInfo.FieldsFit (info : VbeModeInfo) : Prop where
  red : FieldFits info.linRedMaskSize info.linRedFieldPosition
  green : FieldFits info.linGreenMaskSize info.linGreenFieldPosition
  blue : FieldFits info.linBlueMaskSize info.linBlueFieldPosition

theorem StoresExactMasks.fieldsFit {idx : Nat} {info : VbeModeInfo}
    (h : StoresExactMasks idx info) : info.numberOfPlanes ≠ 0 ∧ info.FieldsFit := by
  obtain ⟨entry, hentry, hmasks⟩ := h
  obtain ⟨e, redMask, greenMask, blueMask, he, hred, hgreen, hblue, rfl⟩ :=
    videoModeInfo?_eq_some_iff.mp hentry
  refine ⟨(videoModeInfo_isSome_iff idx).mp ⟨e, he⟩, ?_⟩
  exact
    { red := fieldFits_iff.mpr ⟨redMask, hred, hmasks.red⟩
      green := fieldFits_iff.mpr ⟨greenMask, hgreen, hmasks.green⟩
      blue := fieldFits_iff.mpr ⟨blueMask, hblue, hmasks.blue⟩ }

theorem storesExactMasks_of_fieldsFit {idx : Nat} {info : VbeModeInfo}
    (hplanes : info.numberOfPlanes ≠ 0) (h : info.FieldsFit) : StoresExactMasks idx info := by
  obtain ⟨e, he⟩ := (videoModeInfo_isSome_iff idx).mpr hplanes
  obtain ⟨redMask, hred', hred⟩ := fieldFits_iff.mp h.red
  obtain ⟨greenMask, hgreen', hgreen⟩ := fieldFits_iff.mp h.green
  obtain ⟨blueMask, hblue', hblue⟩ := fieldFits_iff.mp h.blue
  exact ⟨_, videoModeInfo?_eq_some_iff.mpr
    ⟨e, redMask, greenMask, blueMask, he, hred', hgreen', hblue', rfl⟩, ⟨hred, hgreen, hblue⟩⟩

/-- **The conversion is exact** just when there are planes and the three fields fit, whether the
block passes the filter or not. -/
theorem storesExactMasks_iff (idx : Nat) (info : VbeModeInfo) :
    StoresExactMasks idx info ↔ info.numberOfPlanes ≠ 0 ∧ info.FieldsFit :=
  ⟨fun h => h.fieldsFit, fun h => storesExactMasks_of_fieldsFit h.1 h.2⟩

/-- A mode of 32 bits per pixel without planes. -/
def noPlanes : VbeModeInfo := { mode32 1024 768 with numberOfPlanes := 0 }

/-- It passes the filter, and the conversion divides by zero. -/
theorem not_always_storesExactMasks : ¬ ∀ (pDispInfo : DispInfo) (idx : Nat) (info : VbeModeInfo),
    (modeFilter pDispInfo).Suits info → StoresExactMasks idx info := by
  intro h
  have hsuits : (modeFilter ⟨0, 0, 0, .a8r8g8b8, 0⟩).Suits noPlanes := by decide
  obtain ⟨entry, hentry, -⟩ := h _ 0 noPlanes hsuits
  cases hentry

/-! ## The entries of the table -/

/-- **The masks of the table** are those of the modes that are listed, if their fields fit. -/
theorem VgaModes.Lists.exactMasks {t : VgaModes} {f : ModeFilter} {events : List BiosEvent}
    (h : t.Lists f events)
    (hfit : ∀ m ∈ wanted f.Suits (modeReadings ⟨0, 0⟩ events), m.2.FieldsFit) :
    ∃ infos, t.modeInfo = .array infos ∧
      ∀ (i : Nat) (entry : VgaModeEntry), (infos.take t.modeCount)[i]? = some entry →
        ∃ m, (wanted f.Suits (modeReadings ⟨0, 0⟩ events))[i]? = some m ∧
          entry.HasExactMasks m.2 := by
  obtain ⟨infos, -, hinfos, -, -, -, -, hentries⟩ := h.tables
  refine ⟨infos, hinfos, fun i entry hentry => ?_⟩
  have hposition := congrArg (·[i]?) hentries
  simp only [List.getElem?_map, List.getElem?_mapIdx, hentry, Option.map_some] at hposition
  obtain ⟨m, hm, hstored⟩ := Option.map_eq_some_iff.mp hposition.symm
  have hplanes := (videoModeInfo_isSome_iff i).mp ⟨entry, hstored⟩
  obtain ⟨e, hdefined, hmasks⟩ : StoresExactMasks i m.2 :=
    storesExactMasks_of_fieldsFit hplanes (hfit m (List.mem_of_getElem? hm))
  obtain rfl : e = entry :=
    Option.some.inj ((videoModeInfo_of_defined hdefined).symm.trans hstored)
  exact ⟨m, hm, hmasks⟩

end VioGpu.Device
