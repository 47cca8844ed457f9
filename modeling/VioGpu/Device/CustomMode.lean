import VioGpu.Device.CommitResult
import VioGpu.Device.ModeListRuns

/-!
# Display events and the current mode

After `GetModeList`, display events of the host (`SetCustomDisplay`) and mode commits
(`SetSourceModeAndPath`) come in any order. `SetCustomDisplay` takes the two custom entries in turn,
whichever of them is current. So an event keeps the entry of the current mode exactly if this is not
the custom entry before the last one (`setCustomDisplay_other_iff`), and over a run of such events
the current entry keeps the size of the mode that was set last (`currentMode_kept`).
-/

namespace VioGpu.Device

open Lib

/-- The table and the frame buffer. `lastSet` is the size of the mode that `SetCurrentMode` has set
last. -/
structure ModeUse where
  table : ModeTable
  gpu : Gpu
  lastSet : Option Region

/-- A display event with the size that the host answers, or a mode commit. -/
inductive ModeUseEvent
  | displayInfo (xres yres : Nat)
  | commit (m : VidPnSourceMode) (path : VidPnPresentPath) (a : Allocs)

namespace ModeUse

/-- `GetDisplayInfo` after the answer of the host. -/
def displayInfo (s : ModeUse) (xres yres : Nat) : Option ModeUse :=
  if xres ≠ 0 ∧ yres ≠ 0 then
    ({ s with table := · }) <$> s.table.setCustomDisplay (u16 xres) (u16 yres)
  else some s

/-- `SetSourceModeAndPath`, where `m_CurrentMode` is in the table. -/
def commit (s : ModeUse) (m : VidPnSourceMode) (path : VidPnPresentPath) (a : Allocs) :
    Option ModeUse := do
  let (_, d) ←
    Dod.setSourceModeAndPath gpuDevice ⟨s.gpu, s.table.currentMode⟩ s.table.modes m path a
  some
    { table := { s.table with currentMode := d.currentModeIndex }
      gpu := d.device
      lastSet := match Gpu.chosenMode s.table.modes m.primSurfSize with
        | none => s.lastSet
        | some mi => some ⟨mi.visScreenWidth, mi.visScreenHeight⟩ }

/-- The driver after `GetModeList` has left this table. -/
def system (table : ModeTable) (gpu : Gpu) : System ModeUse ModeUseEvent where
  init := ⟨table, gpu, none⟩
  step s
    | .displayInfo xres yres => s.displayInfo xres yres
    | .commit m path a => s.commit m path a

/-- The mode that `AddSingleMonitorMode` reports: `m_ModeInfo[m_CurrentMode]`. -/
def currentModeInfo (s : ModeUse) : Option VideoModeInformation :=
  s.table.modes[s.table.currentMode]?

/-- The current entry has the size of the mode that was set last. -/
def Kept (s : ModeUse) : Prop :=
  ∀ size ∈ s.lastSet, ∃ mi ∈ s.currentModeInfo, mi.hasSize size.cx size.cy = true

/-- The current mode is not a custom one, or it is the custom one that was written last. -/
def OtherIsFree (t : ModeTable) : Prop :=
  t.currentMode + 2 < t.modeCount ∨ t.currentMode = t.customMode

/-- An event with a display finds the other custom entry free. -/
def Fits (s : ModeUse) : ModeUseEvent → Prop
  | .displayInfo xres yres => xres ≠ 0 → yres ≠ 0 → OtherIsFree s.table
  | .commit .. => True

instance (t : ModeTable) : Decidable (OtherIsFree t) := inferInstanceAs (Decidable (_ ∨ _))

instance (s : ModeUse) : (e : ModeUseEvent) → Decidable (s.Fits e)
  | .displayInfo xres yres =>
    inferInstanceAs (Decidable (xres ≠ 0 → yres ≠ 0 → OtherIsFree s.table))
  | .commit .. => isTrue trivial

end ModeUse

/-! ## The modes of a filled table -/

namespace ModeTable

variable {t t' : ModeTable}

/-- The modes of a filled table, by their index. -/
theorem Filled.modes_eq (h : t.Filled) : ∃ entries, t.modeInfo = .array entries ∧
    entries.length = allocatedModes ∧ t.modes.length = t.modeCount ∧
    ∀ i < t.modeCount, ∀ e, entries[i]? = some e →
      t.modes[i]? = some ⟨i, e.visScreenWidth, e.visScreenHeight, e.screenStride⟩ := by
  obtain ⟨entries, hentries, hlength⟩ := h.modeInfo
  obtain ⟨numbers, hnumbers, hlength', hall⟩ := h.modeNumbers
  have hle := h.le
  have hmodes : t.modes = (entries.zipWith
      (fun e n => (⟨n, e.visScreenWidth, e.visScreenHeight, e.screenStride⟩ :
        VideoModeInformation)) numbers).take t.modeCount := by
    rw [modes, hentries, hnumbers]
  refine ⟨entries, hentries, hlength, ?_, fun i hi e he => ?_⟩
  · rw [hmodes, List.length_take, List.length_zipWith, hlength, hlength']
    omega
  · rw [hmodes, List.getElem?_take_of_lt hi, List.getElem?_zipWith_eq_some]
    exact ⟨e, i, he, hall i hi, rfl⟩

theorem Filled.lt_of_getElem? (h : t.Filled) {i : Nat} {mi : VideoModeInformation}
    (hmi : t.modes[i]? = some mi) : i < t.modeCount := by
  obtain ⟨entries, -, -, hcount, -⟩ := h.modes_eq
  rw [← hcount]
  exact (List.getElem?_eq_some_iff.mp hmi).1

/-- The number of a mode is its index. -/
theorem Filled.modeNumber_eq (h : t.Filled) {i : Nat} {mi : VideoModeInformation}
    (hmi : t.modes[i]? = some mi) : mi.modeNumber = i := by
  obtain ⟨entries, -, hlength, -, hmodes⟩ := h.modes_eq
  have hi := h.lt_of_getElem? hmi
  have hle := h.le
  rw [hmodes i hi _ (List.getElem?_eq_getElem (by omega))] at hmi
  cases hmi
  rfl

/-- The mode that `SetCurrentMode` finds by its number is the one that has been found by its
size. -/
theorem Filled.chosenMode_eq (h : t.Filled) {size : Region} {mi : VideoModeInformation} {idx : Nat}
    (hmi : Gpu.chosenMode t.modes size = some mi) (hidx : Dod.sizeIndex t.modes size = some idx) :
    ∃ e, t.modes[idx]? = some e ∧ e.hasSize size.cx size.cy = true ∧ mi = e := by
  have hspec := Dod.sizeIndex_spec t.modes size
  obtain ⟨e, hfirst, hnumber⟩ := Option.bind_eq_some_iff.mp hmi
  rw [hidx, hfirst] at hspec
  have he : t.modes[idx]? = some e := hspec
  have hsize : e.hasSize size.cx size.cy = true := by simpa using List.find?_some hfirst
  refine ⟨e, he, hsize, ?_⟩
  obtain ⟨j, hj⟩ := List.getElem?_of_mem (List.mem_of_find?_eq_some hnumber)
  have hsame : mi.modeNumber = e.modeNumber := by simpa using List.find?_some hnumber
  rw [h.modeNumber_eq hj, h.modeNumber_eq he] at hsame
  rw [hsame, he] at hj
  exact (Option.some_inj.mp hj).symm

/-- **`SetCustomDisplay`** writes the other custom entry and nothing else. -/
theorem Filled.setCustomDisplay (h : t.Filled) {xres yres : Nat}
    (hs : t.setCustomDisplay xres yres = some t') : t'.Filled ∧ t'.modeCount = t.modeCount ∧
      t'.currentMode = t.currentMode ∧ t'.customMode ≠ t.customMode ∧
      ∀ i < t.modeCount, i ≠ t'.customMode → t'.modes[i]? = t.modes[i]? := by
  have hassign := h.assign t.lastIsCustom
  obtain ⟨entry, modeInfo, -, -, hwrite, rfl⟩ := setVideoModeInfo_cases hs
  obtain ⟨hfilled, -, -, -⟩ := hassign.setVideoModeInfo hs
  have hnext := h.nextCustomMode t.lastIsCustom
  have hlast := h.lastIsCustom_iff
  refine ⟨hfilled, rfl, rfl, ?_, fun i hi hne => ?_⟩
  · change t.nextCustomMode t.lastIsCustom ≠ t.customMode
    have htwo := h.two_le
    by_cases hcustom : t.lastIsCustom = true
    · rw [if_pos hcustom] at hnext
      have heq := hlast.mp hcustom
      omega
    · rw [if_neg hcustom] at hnext
      have heq : t.customMode + 1 ≠ t.modeCount := fun heq => hcustom (hlast.mpr heq)
      omega
  · obtain ⟨entries, hentries, hlength, -, hmodes⟩ := h.modes_eq
    obtain ⟨entries', hentries', hlength', -, hmodes'⟩ := hfilled.modes_eq
    obtain ⟨xs, hxs, -, rfl⟩ := ArrayPtr.write_cases hwrite
    change t.modeInfo = .array xs at hxs
    rw [hentries] at hxs
    cases hxs
    cases hentries'
    have hle := h.le
    have hget : entries[i]? = some entries[i] := List.getElem?_eq_getElem (by omega)
    rw [hmodes i hi _ hget]
    apply hmodes' i hi _
    rw [List.getElem?_set_ne (Ne.symm hne), hget]

end ModeTable

namespace ModeUse

/-- **One event** keeps the current entry exactly if the other custom entry is free. -/
theorem setCustomDisplay_other_iff {t t' : ModeTable} (h : t.Filled)
    (hcurrent : t.currentMode < t.modeCount) {xres yres : Nat}
    (hs : t.setCustomDisplay xres yres = some t') :
    t'.customMode ≠ t.currentMode ↔ OtherIsFree t := by
  obtain ⟨hfilled, hcount, -, hne, -⟩ := h.setCustomDisplay hs
  have hold := h.customMode
  have hnew := hfilled.customMode
  unfold OtherIsFree
  omega

/-- The invariant of a run. -/
structure Inv (s : ModeUse) : Prop where
  filled : s.table.Filled
  current : s.table.currentMode < s.table.modeCount
  kept : s.Kept

/-- **A display event.** -/
theorem Inv.displayInfo {s s' : ModeUse} {xres yres : Nat} (h : s.Inv)
    (hfits : s.Fits (.displayInfo xres yres)) (hs : s.displayInfo xres yres = some s') :
    s'.Inv ∧ (xres ≠ 0 → yres ≠ 0 → s'.table.customMode ≠ s.table.currentMode) ∧
      s'.currentModeInfo = s.currentModeInfo := by
  unfold ModeUse.displayInfo at hs
  split_ifs at hs with hboth
  · obtain ⟨t, ht, rfl⟩ := Option.map_eq_some_iff.mp hs
    obtain ⟨hfilled, hcount, hcurrent, -, hsame⟩ := h.filled.setCustomDisplay ht
    have hother := (setCustomDisplay_other_iff h.filled h.current ht).mpr
      (hfits hboth.1 hboth.2)
    have hinfo : t.modes[t.currentMode]? = s.table.modes[s.table.currentMode]? := by
      rw [hcurrent]
      exact hsame _ h.current (Ne.symm hother)
    refine ⟨⟨hfilled, ?_, fun size hsize => ?_⟩, fun _ _ => hother, hinfo⟩
    · change t.currentMode < t.modeCount
      rw [hcurrent, hcount]
      exact h.current
    · obtain ⟨mi, hmi, hhas⟩ := h.kept size hsize
      exact ⟨mi, hinfo.trans hmi, hhas⟩
  · cases hs
    refine ⟨h, fun hx hy => absurd ⟨hx, hy⟩ hboth, rfl⟩

/-- **A commit** sets the mode of its size that is first in the list, or none. -/
theorem Inv.commit {s s' : ModeUse} {m : VidPnSourceMode} {path : VidPnPresentPath} {a : Allocs}
    (h : s.Inv) (hs : s.commit m path a = some s') : s'.Inv := by
  obtain ⟨⟨status, d⟩, hset, hs⟩ := Option.bind_eq_some_iff.mp hs
  cases hs
  obtain ⟨-, ⟨hnone, rfl⟩ | ⟨mi, hmi, hchanged⟩⟩ := Dod.setSourceModeAndPath_cases hset
  · refine ⟨⟨h.filled.modeInfo, h.filled.modeNumbers, h.filled.two_le, h.filled.le,
      h.filled.customMode⟩, h.current, ?_⟩
    simp only [Kept, hnone]
    exact h.kept
  · obtain ⟨e, he, hsize, rfl⟩ := h.filled.chosenMode_eq hmi hchanged.index
    have hlt : d.currentModeIndex < s.table.modeCount := h.filled.lt_of_getElem? he
    refine ⟨⟨h.filled.modeInfo, h.filled.modeNumbers, h.filled.two_le, h.filled.le,
      h.filled.customMode⟩, hlt, ?_⟩
    simp only [Kept, hmi]
    rintro size ⟨⟩
    exact ⟨mi, he, by simp [VideoModeInformation.hasSize]⟩

theorem inv_of_reachable {table : ModeTable} {gpu : Gpu} {s : ModeUse} (hfilled : table.Filled)
    (hcurrent : table.currentMode < table.modeCount)
    (h : (system table gpu).ReachableUnder Fits s) : s.Inv := by
  refine h.induct Inv ⟨hfilled, hcurrent, fun size hsize => by cases hsize⟩
    fun s e s' hinv hfits hs => ?_
  cases e with
  | displayInfo xres yres => exact (hinv.displayInfo hfits hs).1
  | commit m path a => exact hinv.commit hs

/-- **The entry of the current mode is never overwritten** and keeps the size of the mode that was
set last, in every run after `GetModeList` whose display events find the other custom entry
free. -/
theorem currentMode_kept {pDispInfo : DispInfo} {customMode : Nat} {s₀ : HwInit} {gpu : Gpu}
    {s : ModeUse} (h₀ : (HwInit.system pDispInfo customMode).ReachableUnder HwInit.Counted s₀)
    (hreturned : s₀.main = .returned .success)
    (h : (system s₀.table gpu).ReachableUnder Fits s) :
    s.Kept ∧ ∀ xres yres s', s.Fits (.displayInfo xres yres) →
      (system s₀.table gpu).step s (.displayInfo xres yres) = some s' →
      (xres ≠ 0 → yres ≠ 0 → s'.table.customMode ≠ s.table.currentMode) ∧
        s'.currentModeInfo = s.currentModeInfo := by
  have hholds := (HwInit.inv_of_reachable h₀).main
  rw [hreturned] at hholds
  obtain ⟨hfilled, husable⟩ : s₀.table.Filled ∧ s₀.table.Usable := by
    rcases hholds with ⟨-, hfails⟩ | ⟨hfilled, husable⟩
    · exact absurd rfl hfails
    · exact ⟨hfilled, husable rfl⟩
  have hcurrent : s₀.table.currentMode < s₀.table.modeCount :=
    Nat.lt_of_le_of_lt (Nat.le_add_right _ 2) husable
  have hinv := inv_of_reachable hfilled hcurrent h
  exact ⟨hinv.kept, fun xres yres s' hfits hs => (hinv.displayInfo hfits hs).2⟩

/-- `GetModeList` with everything going well and no display at its end. -/
def wholeGetModeList : List HwInitEvent := List.replicate 19 (.main true 0 0)

/-- A commit of this size. -/
def commitOf (size : Region) : ModeUseEvent :=
  .commit ⟨.graphics, size, size, .a8r8g8b8, .scrgb, .direct⟩
    ⟨0, 0, .default, .identity, .identity, .scrgb⟩ allocated

/-- A display event, a commit of its size, and another display event. -/
def eventCommitEvent : List ModeUseEvent :=
  [.displayInfo 1600 1200, commitOf ⟨1600, 1200⟩, .displayInfo 1100 800]

theorem currentMode_kept_eventCommitEvent : ∃ s₀ s,
    (HwInit.system HwInit.smallDisplay 0).runUnder HwInit.Counted wholeGetModeList = some s₀ ∧
      (system s₀.table (.start firstMode)).runUnder Fits eventCommitEvent = some s ∧
      s.lastSet = some ⟨1600, 1200⟩ ∧ s.Kept := by
  obtain ⟨s₀, s, h₀, hreturned, h, hlast⟩ : ∃ s₀ s,
      (HwInit.system HwInit.smallDisplay 0).runUnder HwInit.Counted wholeGetModeList = some s₀ ∧
        s₀.main = .returned .success ∧
        (system s₀.table (.start firstMode)).runUnder Fits eventCommitEvent = some s ∧
        s.lastSet = some ⟨1600, 1200⟩ := ⟨_, _, rfl, rfl, rfl, rfl⟩
  exact ⟨s₀, s, h₀, h, hlast, (currentMode_kept (System.reachable_of_run h₀) hreturned
    (System.reachable_of_run h)).1⟩

/-- One more display event overwrites the current mode. -/
theorem not_always_kept : ¬∀ pDispInfo customMode s₀ gpu s,
    (HwInit.system pDispInfo customMode).Reachable s₀ → s₀.main = .returned .success →
      (system s₀.table gpu).Reachable s → s.Kept := by
  intro hall
  obtain ⟨s₀, s, h₀, hreturned, h, hlast, hcurrent⟩ : ∃ s₀ s,
      (HwInit.system HwInit.smallDisplay 0).run wholeGetModeList = some s₀ ∧
        s₀.main = .returned .success ∧
        (system s₀.table (.start firstMode)).run (eventCommitEvent ++ [.displayInfo 1200 900]) =
          some s ∧
        s.lastSet = some ⟨1600, 1200⟩ ∧ s.currentModeInfo = some ⟨5, 1200, 900, 4800⟩ :=
    ⟨_, _, rfl, rfl, rfl, rfl, rfl⟩
  obtain ⟨mi, hmi, hsize⟩ := hall _ _ s₀ _ s (System.reachable_of_run h₀) hreturned
    (System.reachable_of_run h) ⟨1600, 1200⟩ hlast
  rw [hcurrent] at hmi
  cases hmi
  cases hsize

end ModeUse

end VioGpu.Device
