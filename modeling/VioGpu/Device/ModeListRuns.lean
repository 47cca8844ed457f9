import VioGpu.Device.ModeList

/-!
# Where `SetCustomDisplay` writes

`SetCustomDisplay` takes its entry from `m_ModeCount`, which is 0 until `GetModeList` has filled the
table: a worker that comes earlier writes entry 65535, and through `NULL` if nothing is allocated.
As long as the worker comes to `SetCustomDisplay` only with a count, both threads write inside the
table in every interleaving (`setCustomDisplay_inside`). `MainPc.Holds` is what `GetModeList` has
done at each of its steps; both threads in `SetCustomDisplay` keep the table `Filled`.
-/

namespace VioGpu.Device

open Lib

/-! ## Arrays -/

namespace ArrayPtr

variable {α : Type}

/-- The pointer is to an array of this length. -/
def HasLength (p : ArrayPtr α) (n : Nat) : Prop := ∃ xs, p = .array xs ∧ xs.length = n

theorem write_cases {p p' : ArrayPtr α} {i : Nat} {x : α} (h : p.write i x = some p') :
    ∃ xs, p = .array xs ∧ i < xs.length ∧ p' = .array (xs.set i x) := by
  cases p with
  | null => cases h
  | freed => cases h
  | array xs =>
    simp only [write] at h
    split_ifs at h with hi
    cases h
    exact ⟨xs, rfl, hi, rfl⟩

theorem HasLength.write {p p' : ArrayPtr α} {n i : Nat} {x : α} (hp : p.HasLength n)
    (h : p.write i x = some p') : p'.HasLength n := by
  obtain ⟨xs, rfl, hlength⟩ := hp
  obtain ⟨ys, hys, -, rfl⟩ := write_cases h
  cases hys
  exact ⟨_, rfl, by rw [List.length_set, hlength]⟩

end ArrayPtr

namespace ModeTable

variable {t t' : ModeTable}

/-- The entries up to `n` have their index as number. -/
def Numbered (t : ModeTable) (n : Nat) : Prop :=
  ∃ numbers, t.modeNumbers = .array numbers ∧ numbers.length = allocatedModes ∧
    ∀ i < n, numbers[i]? = some i

theorem Numbered.write {n : Nat} {numbers' : ArrayPtr Nat} (h : t.Numbered n)
    (hs : t.modeNumbers.write n n = some numbers') :
    { t with modeNumbers := numbers' }.Numbered (n + 1) := by
  obtain ⟨numbers, hnumbers, hlength, hall⟩ := h
  rw [hnumbers] at hs
  obtain ⟨xs, hxs, hlt, rfl⟩ := ArrayPtr.write_cases hs
  cases hxs
  refine ⟨_, rfl, by rw [List.length_set, hlength], fun i hi => ?_⟩
  by_cases heq : n = i
  · rw [heq, List.getElem?_set_self (heq ▸ hlt)]
  · rw [List.getElem?_set_ne heq]
    exact hall i (by omega)

/-- The table as `GetModeList` leaves it. -/
structure Filled (t : ModeTable) : Prop where
  modeInfo : t.modeInfo.HasLength allocatedModes
  modeNumbers : t.Numbered t.modeCount
  two_le : 2 ≤ t.modeCount
  le : t.modeCount ≤ allocatedModes
  customMode : t.customMode + 1 = t.modeCount ∨ t.customMode + 2 = t.modeCount

/-- The table as `GetModeList` leaves it when it succeeds: the current mode is not a custom one. -/
def Usable (t : ModeTable) : Prop := t.currentMode + 2 < t.modeCount

theorem setVideoModeInfo_cases {idx : Nat} {mode : GpuDispMode}
    (h : t.setVideoModeInfo idx mode = some t') :
    ∃ entry modeInfo, entry.visScreenWidth = mode.xResolution ∧
      entry.visScreenHeight = mode.yResolution ∧ t.modeInfo.write idx entry = some modeInfo ∧
      t' = { t with modeInfo := modeInfo } := by
  obtain ⟨modeInfo, hwrite, h⟩ := Option.bind_eq_some_iff.mp h
  cases h
  exact ⟨_, modeInfo, rfl, rfl, hwrite, rfl⟩

/-- The next custom entry is the other one, if the comparison is recent, and one of the two in any
case. -/
theorem Filled.nextCustomMode (h : t.Filled) (last : Bool) :
    t.nextCustomMode last + (if last then 2 else 1) = t.modeCount := by
  have htwo := h.two_le
  have hle : t.modeCount ≤ 6 := h.le
  unfold ModeTable.nextCustomMode u16 sub32
  cases last with
  | true =>
    simp only [if_true]
    omega
  | false =>
    simp only [Bool.false_eq_true, if_false]
    omega

theorem Filled.lastIsCustom_iff (h : t.Filled) :
    t.lastIsCustom = true ↔ t.customMode + 1 = t.modeCount := by
  have htwo := h.two_le
  have hle : t.modeCount ≤ 6 := h.le
  unfold lastIsCustom sub32
  rw [decide_eq_true_iff]
  omega

theorem Filled.assign (h : t.Filled) (last : Bool) :
    { t with customMode := t.nextCustomMode last }.Filled := by
  refine ⟨h.modeInfo, h.modeNumbers, h.two_le, h.le, ?_⟩
  have hnext := h.nextCustomMode last
  change t.nextCustomMode last + 1 = t.modeCount ∨ t.nextCustomMode last + 2 = t.modeCount
  split_ifs at hnext
  · exact .inr hnext
  · exact .inl hnext

theorem Filled.setVideoModeInfo (h : t.Filled) {idx : Nat} {mode : GpuDispMode}
    (hs : t.setVideoModeInfo idx mode = some t') : t'.Filled ∧ t'.modeCount = t.modeCount ∧
      t'.currentMode = t.currentMode ∧ t'.customMode = t.customMode := by
  obtain ⟨entry, modeInfo, -, -, hwrite, rfl⟩ := setVideoModeInfo_cases hs
  exact ⟨⟨h.modeInfo.write hwrite, h.modeNumbers, h.two_le, h.le, h.customMode⟩, rfl, rfl, rfl⟩

end ModeTable

/-! ## In `SetCustomDisplay` -/

/-- The entry that is about to be written is one of the two custom ones. -/
def CustomPc.Inside (t : ModeTable) : CustomPc → Prop
  | .write i _ _ => i + 1 = t.modeCount ∨ i + 2 = t.modeCount
  | .idle | .compare .. | .assign .. | .load .. => True

/-- **An access in `SetCustomDisplay`** keeps the table filled. -/
theorem CustomPc.step_filled {t t' : ModeTable} {pc pc' : CustomPc} (ht : t.Filled)
    (hs : pc.step t = some (pc', t')) : t'.Filled ∧ pc'.Inside t' ∧
      t'.modeCount = t.modeCount ∧ t'.currentMode = t.currentMode := by
  cases pc with
  | idle => cases hs
  | compare xres yres =>
    cases hs
    exact ⟨ht, trivial, rfl, rfl⟩
  | assign last xres yres =>
    cases hs
    exact ⟨ht.assign last, trivial, rfl, rfl⟩
  | load xres yres =>
    cases hs
    exact ⟨ht, ht.customMode, rfl, rfl⟩
  | write i xres yres =>
    obtain ⟨t₁, hset, h⟩ := Option.map_eq_some_iff.mp hs
    cases h
    obtain ⟨hfilled, hcount, hcurrent, -⟩ := ht.setVideoModeInfo hset
    exact ⟨hfilled, trivial, hcount, hcurrent⟩

/-! ## In `GetModeList` -/

/-- What `GetModeList` has done when it comes to a step. -/
def MainPc.Holds (t : ModeTable) : MainPc → Prop
  | .deleteModeInfo | .deleteModeNumbers | .clearModeInfo | .clearModeNumbers | .allocModeInfo =>
    t.modeCount = 0
  | .allocModeNumbers => t.modeCount = 0 ∧ t.modeInfo.HasLength allocatedModes
  | .resetCurrentMode =>
    t.modeCount = 0 ∧ t.modeInfo.HasLength allocatedModes ∧ t.Numbered 0
  | .fill k suitable => t.modeCount = 0 ∧ t.modeInfo.HasLength allocatedModes ∧
    t.Numbered suitable ∧ suitable ≤ k ∧ k ≤ gpuDispModes.length ∧
    (t.currentMode = 0 ∨ t.currentMode < suitable)
  | .setCustomMode suitable => t.modeCount = 0 ∧ t.modeInfo.HasLength allocatedModes ∧
    t.Numbered suitable ∧ suitable ≤ gpuDispModes.length ∧
    (t.currentMode = 0 ∨ t.currentMode < suitable)
  | .copy suitable k => t.modeCount = 0 ∧ t.modeInfo.HasLength allocatedModes ∧ t.Numbered k ∧
    suitable ≤ gpuDispModes.length ∧ k ≤ suitable + 2 ∧
    (t.currentMode = 0 ∨ t.currentMode < suitable) ∧ t.customMode = suitable
  | .setModeCount suitable => t.modeCount = 0 ∧ t.modeInfo.HasLength allocatedModes ∧
    t.Numbered (suitable + 2) ∧ suitable ≤ gpuDispModes.length ∧
    (t.currentMode = 0 ∨ t.currentMode < suitable) ∧ t.customMode = suitable
  | .getDisplayInfo status => t.Filled ∧ (status = .success → t.Usable)
  | .custom pc status => t.Filled ∧ (status = .success → t.Usable) ∧ pc.Inside t
  | .returned status =>
    (t.modeCount = 0 ∧ status ≠ .success) ∨ (t.Filled ∧ (status = .success → t.Usable))

/-- With a count, the table is filled. -/
theorem MainPc.Holds.filled {t : ModeTable} {pc : MainPc} (h : pc.Holds t)
    (hcount : t.modeCount ≠ 0) : t.Filled := by
  cases pc with
  | deleteModeInfo => exact absurd h hcount
  | deleteModeNumbers => exact absurd h hcount
  | clearModeInfo => exact absurd h hcount
  | clearModeNumbers => exact absurd h hcount
  | allocModeInfo => exact absurd h hcount
  | allocModeNumbers => exact absurd h.1 hcount
  | resetCurrentMode => exact absurd h.1 hcount
  | fill k suitable => exact absurd h.1 hcount
  | setCustomMode suitable => exact absurd h.1 hcount
  | copy suitable k => exact absurd h.1 hcount
  | setModeCount suitable => exact absurd h.1 hcount
  | getDisplayInfo status => exact h.1
  | custom pc status => exact h.1
  | returned status =>
    rcases h with ⟨hzero, -⟩ | ⟨hfilled, -⟩
    · exact absurd hzero hcount
    · exact hfilled

/-- What `GetModeList` has done is not undone by the worker in `SetCustomDisplay`. -/
theorem MainPc.Holds.of_filled {t t' : ModeTable} {pc : MainPc} (h : pc.Holds t)
    (hne : t.modeCount ≠ 0) (ht' : t'.Filled) (hcount : t'.modeCount = t.modeCount)
    (hcurrent : t'.currentMode = t.currentMode) : pc.Holds t' := by
  have husable : t.Usable → t'.Usable := by
    unfold ModeTable.Usable
    rw [hcount, hcurrent]
    exact id
  cases pc with
  | deleteModeInfo => exact absurd h hne
  | deleteModeNumbers => exact absurd h hne
  | clearModeInfo => exact absurd h hne
  | clearModeNumbers => exact absurd h hne
  | allocModeInfo => exact absurd h hne
  | allocModeNumbers => exact absurd h.1 hne
  | resetCurrentMode => exact absurd h.1 hne
  | fill k suitable => exact absurd h.1 hne
  | setCustomMode suitable => exact absurd h.1 hne
  | copy suitable k => exact absurd h.1 hne
  | setModeCount suitable => exact absurd h.1 hne
  | getDisplayInfo status => exact ⟨ht', fun hok => husable (h.2 hok)⟩
  | custom pc status =>
    refine ⟨ht', fun hok => husable (h.2.1 hok), ?_⟩
    cases pc with
    | write i xres yres =>
      rw [CustomPc.Inside, hcount]
      exact h.2.2
    | idle => trivial
    | compare xres yres => trivial
    | assign last xres yres => trivial
    | load xres yres => trivial
  | returned status =>
    rcases h with ⟨hzero, -⟩ | ⟨-, hsuccess⟩
    · exact absurd hzero hne
    · exact .inr ⟨ht', fun hok => husable (hsuccess hok)⟩

/-- One turn of the loop over `gpu_disp_modes`. -/
theorem ModeTable.fillMode_holds {t t' : ModeTable} {pDispInfo : DispInfo} {k suitable : Nat}
    {pc' : MainPc} (h : (MainPc.fill k suitable).Holds t) (hk : k < gpuDispModes.length)
    (hs : t.fillMode pDispInfo k suitable = some (pc', t')) : pc'.Holds t' := by
  obtain ⟨hcount, hinfo, hnumbered, hle, -, hcurrent⟩ := h
  obtain ⟨mode, -, hs⟩ := Option.bind_eq_some_iff.mp hs
  have hcurrent' : ∀ (p : Prop) [Decidable p], (if p then suitable else t.currentMode) = 0 ∨
      (if p then suitable else t.currentMode) < suitable + 1 := by
    intro p _
    split_ifs
    · exact .inr (Nat.lt_succ_self _)
    · omega
  split at hs
  · obtain ⟨numbers, hnumbers, hs⟩ := Option.bind_eq_some_iff.mp hs
    obtain ⟨t₁, hset, hs⟩ := Option.bind_eq_some_iff.mp hs
    cases hs
    obtain ⟨entry, modeInfo, -, -, hwrite, rfl⟩ := setVideoModeInfo_cases hset
    exact ⟨hcount, hinfo.write hwrite, hnumbered.write hnumbers, by omega, hk, hcurrent' _⟩
  · cases hs
    exact ⟨hcount, hinfo, hnumbered, by omega, hk, hcurrent⟩

/-- One turn of the loop over the custom entries. -/
theorem ModeTable.copyMode_holds {t t' : ModeTable} {suitable k : Nat}
    (h : (MainPc.copy suitable k).Holds t) (hk : k < suitable + 2) (hs : t.copyMode k = some t') :
    (MainPc.copy suitable (k + 1)).Holds t' := by
  obtain ⟨hcount, hinfo, hnumbered, hsuitable, -, hcurrent, hcustom⟩ := h
  obtain ⟨numbers, hnumbers, hs⟩ := Option.bind_eq_some_iff.mp hs
  obtain ⟨entry, -, hs⟩ := Option.bind_eq_some_iff.mp hs
  obtain ⟨modeInfo, hwrite, hs⟩ := Option.bind_eq_some_iff.mp hs
  cases hs
  exact ⟨hcount, hinfo.write hwrite, hnumbered.write hnumbers, hsuitable, hk, hcurrent, hcustom⟩

/-- The count is set last. -/
theorem ModeTable.setModeCount_holds {t : ModeTable} {suitable : Nat}
    (h : (MainPc.setModeCount suitable).Holds t) :
    (MainPc.getDisplayInfo (if suitable = 0 then .unsuccessful else .success)).Holds
      { t with modeCount := suitable + 2 } := by
  obtain ⟨-, hinfo, hnumbered, hsuitable, hcurrent, hcustom⟩ := h
  refine ⟨⟨hinfo, hnumbered, Nat.le_add_left _ _, ?_, .inr ?_⟩, fun hok => ?_⟩
  · exact Nat.add_le_add_right hsuitable 2
  · exact congrArg (· + 2) hcustom
  · have hne : suitable ≠ 0 := by
      intro hzero
      rw [if_pos hzero] at hok
      cases hok
    change t.currentMode + 2 < suitable + 2
    omega

/-- A step in `SetCustomDisplay`, or the return from it. -/
theorem MainPc.custom_step {t t' : ModeTable} {pDispInfo : DispInfo} {allocated : Bool}
    {xres yres : Nat} {pc : CustomPc} {status : Status} {pc' : MainPc}
    (hs : (MainPc.custom pc status).step pDispInfo t allocated xres yres = some (pc', t')) :
    (pc' = .returned status ∧ t' = t) ∨
      ∃ pc₁, pc.step t = some (pc₁, t') ∧ pc' = .custom pc₁ status := by
  have hmap : pc ≠ .idle → ∃ r, pc.step t = some r ∧
      (MainPc.custom r.1 status, r.2) = (pc', t') := by
    intro hne
    cases pc with
    | idle => exact absurd rfl hne
    | compare => exact Option.map_eq_some_iff.mp hs
    | assign => exact Option.map_eq_some_iff.mp hs
    | load => exact Option.map_eq_some_iff.mp hs
    | write => exact Option.map_eq_some_iff.mp hs
  by_cases hidle : pc = .idle
  · subst hidle
    cases hs
    exact .inl ⟨rfl, rfl⟩
  · obtain ⟨⟨pc₁, t₁⟩, hstep, heq⟩ := hmap hidle
    cases heq
    exact .inr ⟨pc₁, hstep, rfl⟩

/-- **A step of `GetModeList`.** The count does not go back to 0. -/
theorem MainPc.step_holds {t t' : ModeTable} {pDispInfo : DispInfo} {allocated : Bool}
    {xres yres : Nat} {pc pc' : MainPc} (h : pc.Holds t)
    (hs : pc.step pDispInfo t allocated xres yres = some (pc', t')) :
    pc'.Holds t' ∧ (t.modeCount ≠ 0 → t'.modeCount = t.modeCount) := by
  cases pc with
  | deleteModeInfo =>
    obtain ⟨modeInfo, -, hs⟩ := Option.bind_eq_some_iff.mp hs
    cases hs
    exact ⟨h, fun _ => rfl⟩
  | deleteModeNumbers =>
    obtain ⟨modeNumbers, -, hs⟩ := Option.bind_eq_some_iff.mp hs
    cases hs
    exact ⟨h, fun _ => rfl⟩
  | clearModeInfo =>
    cases hs
    exact ⟨h, fun _ => rfl⟩
  | clearModeNumbers =>
    cases hs
    exact ⟨h, fun _ => rfl⟩
  | allocModeInfo =>
    cases allocated with
    | true =>
      cases hs
      exact ⟨⟨h, _, rfl, rfl⟩, fun _ => rfl⟩
    | false =>
      cases hs
      exact ⟨.inl ⟨h, nofun⟩, fun _ => rfl⟩
  | allocModeNumbers =>
    cases allocated with
    | true =>
      cases hs
      exact ⟨⟨h.1, h.2, _, rfl, rfl, nofun⟩, fun _ => rfl⟩
    | false =>
      cases hs
      exact ⟨.inl ⟨h.1, nofun⟩, fun _ => rfl⟩
  | resetCurrentMode =>
    cases hs
    obtain ⟨hcount, hinfo, hnumbered⟩ := h
    exact ⟨⟨hcount, hinfo, hnumbered, Nat.le_refl 0, Nat.zero_le _, .inl rfl⟩, fun _ => rfl⟩
  | fill k suitable =>
    simp only [step] at hs
    split_ifs at hs with hk
    · exact ⟨ModeTable.fillMode_holds h hk hs, fun hne => absurd h.1 hne⟩
    · cases hs
      obtain ⟨hcount, hinfo, hnumbered, hle, hlast, hcurrent⟩ := h
      exact ⟨⟨hcount, hinfo, hnumbered, Nat.le_trans hle hlast, hcurrent⟩, fun _ => rfl⟩
  | setCustomMode suitable =>
    cases hs
    obtain ⟨hcount, hinfo, hnumbered, hle, hcurrent⟩ := h
    exact ⟨⟨hcount, hinfo, hnumbered, hle, by omega, hcurrent, rfl⟩, fun _ => rfl⟩
  | copy suitable k =>
    simp only [step] at hs
    split_ifs at hs with hk
    · obtain ⟨t₁, hcopy, hs⟩ := Option.map_eq_some_iff.mp hs
      cases hs
      exact ⟨ModeTable.copyMode_holds h hk hcopy, fun hne => absurd h.1 hne⟩
    · cases hs
      obtain ⟨hcount, hinfo, hnumbered, hsuitable, hle, hcurrent, hcustom⟩ := h
      obtain rfl : k = suitable + 2 := by omega
      exact ⟨⟨hcount, hinfo, hnumbered, hsuitable, hcurrent, hcustom⟩, fun _ => rfl⟩
  | setModeCount suitable =>
    cases hs
    exact ⟨ModeTable.setModeCount_holds h, fun hne => absurd h.1 hne⟩
  | getDisplayInfo status =>
    cases hs
    refine ⟨⟨h.1, h.2, ?_⟩, fun _ => rfl⟩
    unfold CustomPc.displayInfo
    split_ifs
    · trivial
    · trivial
  | custom pc status =>
    rcases MainPc.custom_step hs with ⟨rfl, rfl⟩ | ⟨pc₁, hstep, rfl⟩
    · exact ⟨.inr ⟨h.1, h.2.1⟩, fun _ => rfl⟩
    · obtain ⟨hfilled, hinside, hcount, hcurrent⟩ := CustomPc.step_filled h.1 hstep
      refine ⟨⟨hfilled, fun hok => ?_, hinside⟩, fun _ => hcount⟩
      have husable := h.2.1 hok
      unfold ModeTable.Usable
      rw [hcount, hcurrent]
      exact husable
  | returned status => cases hs

namespace HwInit

variable {pDispInfo : DispInfo} {customMode : Nat}

/-- The worker comes to `SetCustomDisplay` only after `m_ModeCount` has been set. -/
def Counted (s : HwInit) : HwInitEvent → Prop
  | .displayInfo xres yres => xres ≠ 0 → yres ≠ 0 → s.table.modeCount ≠ 0
  | .main .. | .worker => True

instance (s : HwInit) : (e : HwInitEvent) → Decidable (s.Counted e)
  | .displayInfo xres yres =>
    inferInstanceAs (Decidable (xres ≠ 0 → yres ≠ 0 → s.table.modeCount ≠ 0))
  | .main .. | .worker => isTrue trivial

/-- The invariant of a run: the worker is in `SetCustomDisplay` only with a count. -/
structure Inv (s : HwInit) : Prop where
  main : s.main.Holds s.table
  worker : s.worker ≠ .idle → s.table.modeCount ≠ 0
  inside : s.worker.Inside s.table

theorem inside_congr {t t' : ModeTable} {pc : CustomPc} (h : pc.Inside t)
    (hcount : t'.modeCount = t.modeCount) : pc.Inside t' := by
  cases pc with
  | write i xres yres =>
    rw [CustomPc.Inside, hcount]
    exact h
  | idle => trivial
  | compare xres yres => trivial
  | assign last xres yres => trivial
  | load xres yres => trivial

/-- **Every step** of either thread keeps the invariant. -/
theorem Inv.step {s s' : HwInit} {e : HwInitEvent} (h : s.Inv) (hcounted : s.Counted e)
    (hs : (system pDispInfo customMode).step s e = some s') : s'.Inv := by
  cases e with
  | main allocated xres yres =>
    obtain ⟨⟨pc', t'⟩, hstep, rfl⟩ := Option.map_eq_some_iff.mp hs
    obtain ⟨hholds, hcount⟩ := MainPc.step_holds h.main hstep
    by_cases hidle : s.worker = .idle
    · exact ⟨hholds, fun hne => absurd hidle hne, by rw [hidle]; trivial⟩
    · have hsame := hcount (h.worker hidle)
      exact ⟨hholds, fun _ => hsame.trans_ne (h.worker hidle), inside_congr h.inside hsame⟩
  | displayInfo xres yres =>
    simp only [system] at hs
    split_ifs at hs
    cases hs
    refine ⟨h.main, fun hne => ?_, ?_⟩
    · unfold CustomPc.displayInfo at hne
      split_ifs at hne with hboth
      · exact hcounted hboth.1 hboth.2
      · exact absurd rfl hne
    · unfold CustomPc.displayInfo
      split_ifs
      · trivial
      · trivial
  | worker =>
    obtain ⟨⟨pc', t'⟩, hstep, rfl⟩ := Option.map_eq_some_iff.mp hs
    have hne : s.table.modeCount ≠ 0 := by
      refine h.worker fun hidle => ?_
      rw [hidle] at hstep
      cases hstep
    obtain ⟨hfilled, hinside, hcount, hcurrent⟩ :=
      CustomPc.step_filled (h.main.filled hne) hstep
    exact ⟨h.main.of_filled hne hfilled hcount hcurrent, fun _ => hcount.trans_ne hne, hinside⟩

theorem inv_of_reachable {s : HwInit}
    (h : (system pDispInfo customMode).ReachableUnder Counted s) : s.Inv := by
  refine h.induct Inv ?_ fun s e s' hinv hcounted hs => hinv.step hcounted hs
  exact ⟨rfl, fun hne => absurd rfl hne, trivial⟩

/-- What either thread is about to write is an entry of the allocated table. -/
def WritesInside (s : HwInit) : Prop :=
  ∀ i xres yres, (s.worker = .write i xres yres ∨
      ∃ status, s.main = .custom (.write i xres yres) status) →
    ∃ entries, s.table.modeInfo = .array entries ∧ i < entries.length

/-- **`SetCustomDisplay` writes inside the table** in every interleaving in which the worker comes
to it only after `m_ModeCount` has been set. -/
theorem setCustomDisplay_inside (pDispInfo : DispInfo) (customMode : Nat) {s : HwInit}
    (h : (system pDispInfo customMode).ReachableUnder Counted s) : s.WritesInside := by
  have hinv := inv_of_reachable h
  have hin : ∀ i, s.table.Filled → (i + 1 = s.table.modeCount ∨ i + 2 = s.table.modeCount) →
      ∃ entries, s.table.modeInfo = .array entries ∧ i < entries.length := by
    intro i hfilled hi
    obtain ⟨entries, hentries, hlength⟩ := hfilled.modeInfo
    have hle := hfilled.le
    exact ⟨entries, hentries, by omega⟩
  intro i xres yres hwrite
  rcases hwrite with hworker | ⟨status, hmain⟩
  · have hinside := hinv.inside
    rw [hworker] at hinside
    refine hin i (hinv.main.filled (hinv.worker ?_)) hinside
    rw [hworker]
    nofun
  · have hholds := hinv.main
    rw [hmain] at hholds
    exact hin i hholds.1 hholds.2.2

/-- `MIN_WIDTH_SIZE` by `MIN_HEIGHT_SIZE`, in the colour format of the driver. -/
def smallDisplay : DispInfo := ⟨1024, 768, 4096, .a8r8g8b8, 0⟩

/-- A display event of the host, up to the write of the worker. -/
def eventToWrite : List HwInitEvent := [.displayInfo 1280 1024, .worker, .worker, .worker]

theorem setCustomDisplay_inside_afterCount : ∃ s, (system smallDisplay 0).runUnder Counted
      (List.replicate 17 (.main true 0 0) ++ eventToWrite) = some s ∧
    s.worker = .write 5 1280 1024 ∧ s.WritesInside := by
  obtain ⟨s, hs, hwrite⟩ : ∃ s, (system smallDisplay 0).runUnder Counted
      (List.replicate 17 (.main true 0 0) ++ eventToWrite) = some s ∧
      s.worker = .write 5 1280 1024 := ⟨_, rfl, rfl⟩
  exact ⟨s, hs, hwrite, setCustomDisplay_inside smallDisplay 0 (System.reachable_of_run hs)⟩

/-- An event that comes first: the worker writes entry 65535 through `NULL`. -/
theorem not_always_inside : ¬∀ pDispInfo customMode s,
    (system pDispInfo customMode).Reachable s → s.WritesInside := by
  intro hall
  obtain ⟨s, hs, hwrite, hnull⟩ : ∃ s, (system smallDisplay 0).run eventToWrite = some s ∧
      s.worker = .write 65535 1280 1024 ∧ s.table.modeInfo = .null := ⟨_, rfl, rfl, rfl⟩
  obtain ⟨entries, hentries, -⟩ :=
    hall _ _ s (System.reachable_of_run hs) 65535 1280 1024 (.inl hwrite)
  rw [hnull] at hentries
  cases hentries

end HwInit

end VioGpu.Device
