import VioGpu.Device.VgaRuns
import VioGpu.Lib.Ledger

/-!
# The mappings of the VGA frame buffer

`UnmapFrameBuffer` is told a length that `ReleaseFrameBuffer` computes from `DispInfo`, which
`SetSourceModeAndPath` overwrites. `CommitVidPn` releases the old frame buffer before its loop, so
that there is none while the geometry changes, as long as the loop has no second path.
-/

namespace VioGpu.Device

open Lib

/-- `VgaDevice` with the calls of `MmMapIoSpace` that mapped, and those of `MmUnmapIoSpace`: the
mapping, by its number, and the length. -/
structure MappedVga where
  vga : Vga
  ledger : List (Entry (Nat × Nat))

namespace MappedVga

/-- What `FrameBuffer.Ptr` and `DispInfo` say is mapped. -/
def mapped (t : MappedVga) : List (Nat × Nat) := t.vga.mode.ptr.toList.map (·, t.vga.length)

/-- `AcquireFrameBuffer`. `MapFrameBuffer` maps with the length as it is then. -/
def acquireFrameBuffer (t : MappedVga) (o : VgaOutcomes) : Status × MappedVga :=
  let (status, vga) := t.vga.acquireFrameBuffer o
  (status, ⟨vga, t.ledger ++
    if status = .success then [.acquire (t.vga.mappings, t.vga.length)] else []⟩)

/-- `ReleaseFrameBuffer`. `UnmapFrameBuffer` refuses a length of 0. -/
def releaseFrameBuffer (t : MappedVga) : Status × MappedVga :=
  let (status, vga) := t.vga.releaseFrameBuffer
  (status, ⟨vga, t.ledger ++ if t.vga.length = 0 then [] else t.mapped.map .release⟩)

/-- `SetCurrentMode` -/
def setCurrentMode (t : MappedVga) (o : VgaOutcomes) : Status × MappedVga :=
  let (status, vga) := t.vga.setCurrentMode o
  (status, { t with vga })

/-- `CleanUp` -/
def cleanUp (t : MappedVga) : MappedVga :=
  if t.vga.mode.ptr.isSome then t.releaseFrameBuffer.2 else t

end MappedVga

/-- The functions of `VgaDevice`. -/
def mappedVgaDevice : HwDeviceInterface MappedVga VgaOutcomes where
  currentMode t := t.vga.mode
  setMode t mode := { t with vga := { t.vga with mode } }
  acquireFrameBuffer t o := some (t.acquireFrameBuffer o)
  releaseFrameBuffer t _ := some t.releaseFrameBuffer
  setCurrentMode t _ _ o := some (t.setCurrentMode o)

/-- The driver on the `VgaDevice` path, one `CommitVidPn` after the other. -/
def Dod.mappingSystem (acquired : DispInfo) (physicAddress : Nat) (memory : Int → Byte) :
    System (Dod MappedVga) (CommitVidPn VgaOutcomes) where
  init := ⟨⟨.start (startDeviceMode acquired physicAddress) memory, []⟩, 0⟩
  step d c := (fun r => r.2.2) <$> commitVidPn mappedVgaDevice d c

/-- A functional VidPN as `IsSupportedVidPn` accepts it. -/
def CommitVidPn.Supported {ω : Type} (c : CommitVidPn ω) : Prop :=
  ∀ paths, c.paths = .ok paths → paths.length ≤ maxChildren

instance {ω : Type} (c : CommitVidPn ω) : Decidable c.Supported :=
  match h : c.paths with
  | .error _ => .isTrue fun _ heq => by rw [h] at heq; cases heq
  | .ok paths =>
    if hle : paths.length ≤ maxChildren then
      .isTrue fun _ heq => by rw [h] at heq; cases heq; exact hle
    else .isFalse fun hall => hle (hall paths h)

/-! ## One mapping at a time -/

namespace MappedVga

/-- What was mapped and not unmapped is what the driver says is mapped. -/
structure OneMapping (t : MappedVga) : Prop where
  maps : t.vga.mode.doNotMapOrUnmap = false
  held : held [] t.ledger = some t.mapped
  length_ne : t.vga.mode.ptr.isSome → t.vga.length ≠ 0

variable {t : MappedVga}

theorem mapped_of_none (h : t.vga.mode.ptr = none) : t.mapped = [] := by
  rw [mapped, h]
  rfl

/-- Releasing the frame buffer leaves nothing mapped. -/
theorem OneMapping.release (h : t.OneMapping) (hptr : t.vga.mode.ptr.isSome) :
    t.releaseFrameBuffer.1 = .success ∧ t.releaseFrameBuffer.2.OneMapping ∧
      t.releaseFrameBuffer.2.vga.mode.ptr = none := by
  have hlength := h.length_ne hptr
  obtain ⟨n, hn⟩ := Option.isSome_iff_exists.mp hptr
  have hmapped : t.mapped = [(n, t.vga.length)] := by
    rw [mapped, hn]
    rfl
  refine ⟨by simp [releaseFrameBuffer, Vga.releaseFrameBuffer, hn, hlength],
    ⟨h.maps, ?_, nofun⟩, rfl⟩
  rw [mapped_of_none rfl]
  have hledger : t.releaseFrameBuffer.2.ledger = t.ledger ++ [.release (n, t.vga.length)] := by
    simp [releaseFrameBuffer, hlength, hmapped]
  rw [hledger, held_append, h.held, hmapped]
  simp

/-- Acquiring one when nothing is mapped keeps the account. -/
theorem OneMapping.acquire (h : t.OneMapping) (hptr : t.vga.mode.ptr = none) (o : VgaOutcomes) :
    (t.acquireFrameBuffer o).2.OneMapping := by
  have hheld : Lib.held [] t.ledger = some [] := by rw [h.held, mapped_of_none hptr]
  unfold acquireFrameBuffer Vga.acquireFrameBuffer
  rw [if_neg (by simp [h.maps])]
  split_ifs with hbad hmaps
  · exact ⟨h.maps, by simpa [mapped, hptr, Status.invalidParameter] using hheld, by simp [hptr]⟩
  · rw [not_or] at hbad
    refine ⟨h.maps, ?_, fun _ => hbad.2⟩
    rw [held_append, hheld]
    rfl
  · exact ⟨h.maps, by simpa [mapped] using hheld, by simp⟩

end MappedVga

/-- The paths of the loop are those the OS answers with. -/
theorem CommitVidPn.paths_of_course {ω : Type} (c : CommitVidPn ω) {m : VidPnSourceMode}
    {paths : List (PathAnswers ω)} (h : c.course = .loops m paths) : c.paths = .ok paths := by
  unfold CommitVidPn.course at h
  split_ifs at h
  · split at h
    · cases h
    · split at h
      · cases h
      · split_ifs at h
        split at h
        · next heq =>
          cases h
          exact heq
        · cases h
      · cases h
    · cases h

namespace Dod

open MappedVga

theorem releaseOld_oneMapping {t t' : MappedVga} {o : VgaOutcomes} {status : Status}
    (ht : t.OneMapping) (h : releaseOld mappedVgaDevice t o = some (status, t')) :
    t'.OneMapping ∧ t'.vga.mode.ptr = none := by
  unfold releaseOld at h
  split_ifs at h with hptr
  · have hrelease := ht.release hptr.1
    cases h
    exact hrelease.2
  · cases h
    refine ⟨ht, ?_⟩
    rw [not_and] at hptr
    by_contra hne
    exact hptr (Option.isSome_iff_ne_none.mpr hne) ht.maps

/-- A mode change from a state in which nothing is mapped. -/
theorem setSourceModeAndPath_oneMapping {d d' : Dod MappedVga} {modes : List VideoModeInformation}
    {m : VidPnSourceMode} {path : VidPnPresentPath} {o : VgaOutcomes} {status : Status}
    (hd : d.device.OneMapping) (hptr : d.device.vga.mode.ptr = none)
    (h : setSourceModeAndPath mappedVgaDevice d modes m path o = some (status, d')) :
    d'.device.OneMapping := by
  unfold setSourceModeAndPath at h
  obtain ⟨⟨acquired, t⟩, hacquire, h⟩ := Option.bind_eq_some_iff.mp h
  -- the geometry changes while there is no mapping
  have hsource : (mappedVgaDevice.setMode d.device
      (sourceMode d.device.vga.mode m path)).OneMapping := by
    refine ⟨hd.maps, ?_, ?_⟩
    · have hnone : (mappedVgaDevice.setMode d.device
          (sourceMode d.device.vga.mode m path)).mapped = [] := mapped_of_none hptr
      rw [hnone]
      exact hd.held.trans (congrArg some (mapped_of_none hptr))
    · intro hsome
      have hsome : d.device.vga.mode.ptr.isSome := hsome
      rw [hptr] at hsome
      cases hsome
  have ht : t.OneMapping := by
    have hkeeps := hsource.acquire hptr o
    obtain rfl := congrArg Prod.snd (Option.some_inj.mp hacquire)
    exact hkeeps
  have hfull : (mappedVgaDevice.setMode t
      { t.vga.mode with fullscreenPresent := true }).OneMapping := ⟨ht.maps, ht.held, ht.length_ne⟩
  simp only at h
  split_ifs at h
  · cases h
    exact ht
  · split at h
    · cases h
      exact hfull
    · obtain ⟨modeInfo, -, h⟩ := Option.bind_eq_some_iff.mp h
      obtain ⟨⟨set, t'⟩, hset, h⟩ := Option.bind_eq_some_iff.mp h
      have ht' : t'.OneMapping := by
        obtain rfl := congrArg Prod.snd (Option.some_inj.mp hset)
        exact ⟨ht.maps, ht.held, ht.length_ne⟩
      cases h
      split_ifs
      · exact ht'
      · exact ht'

/-- At most one mode change for each path. -/
theorem length_tries {ω : Type} (paths : List (PathAnswers ω)) :
    (tries paths).length ≤ paths.length := by
  induction paths with
  | nil => exact Nat.le_refl 0
  | cons p paths ih =>
    rw [tries]
    cases p.valid? with
    | none => exact Nat.zero_le _
    | some path =>
      simp only [List.length_cons]
      split
      · exact Nat.succ_le_succ ih
      · exact Nat.succ_le_succ (Nat.zero_le _)

/-- A commit of a supported VidPN keeps the account. -/
theorem commitVidPn_oneMapping {d d' : Dod MappedVga} {c : CommitVidPn VgaOutcomes}
    {status : Status} {calls : List OsCall} (hd : d.device.OneMapping) (hc : c.Supported)
    (h : commitVidPn mappedVgaDevice d c = some (status, calls, d')) : d'.device.OneMapping := by
  have hfollows := commitVidPn_course h
  cases hcourse : c.course with
  | ends success =>
    rw [hcourse] at hfollows
    rw [hfollows.1]
    exact hd
  | releases success =>
    rw [hcourse] at hfollows
    obtain ⟨released, t, hrelease, rfl, -⟩ := hfollows
    exact (releaseOld_oneMapping hd hrelease).1
  | loops m paths =>
    rw [hcourse] at hfollows
    obtain ⟨released, t, hrelease, hfails, hloop⟩ := hfollows
    obtain ⟨ht, hptr⟩ := releaseOld_oneMapping hd hrelease
    by_cases hreleased : released = .success
    · obtain ⟨changed, hchanges, -⟩ := hloop hreleased
      -- there is one path at most, so that the loop changes the mode once at most
      have hone : (tries paths).length ≤ 1 :=
        (length_tries paths).trans (hc paths (c.paths_of_course hcourse))
      cases htries : tries paths with
      | nil =>
        rw [htries] at hchanges
        cases hchanges
        exact ht
      | cons t₁ rest =>
        obtain rfl : rest = [] := by
          rw [htries, List.length_cons] at hone
          exact List.length_eq_zero_iff.mp (by omega)
        rw [htries] at hchanges
        obtain ⟨first, d₁, hset, hrest⟩ := changeModes_cons hchanges
        have hd₁ := setSourceModeAndPath_oneMapping (d := { d with device := t }) ht hptr hset
        rcases hrest with ⟨-, -, rfl⟩ | ⟨-, hdone⟩
        · exact hd₁
        · cases hdone
          exact hd₁
    · rw [(hfails hreleased).1]
      exact ht

/-- **Every mapping of the VGA frame buffer is undone once, as it was made.** After any commits of
supported VidPNs `FrameBuffer.Ptr` tells of the one mapping there is, with the length it was made
with, and `CleanUp` leaves none. -/
theorem mappings_settled (acquired : DispInfo) (physicAddress : Nat) (memory : Int → Byte)
    {d : Dod MappedVga}
    (h : (mappingSystem acquired physicAddress memory).ReachableUnder (fun _ c => c.Supported) d) :
    (∃ mapped, held [] d.device.ledger = some mapped ∧
      ((d.device.vga.mode.ptr = none ∧ mapped = []) ∨
        ∃ n, d.device.vga.mode.ptr = some n ∧ mapped = [(n, d.device.vga.length)])) ∧
    Settled d.device.cleanUp.ledger := by
  have hd : d.device.OneMapping := by
    refine h.induct (fun d => d.device.OneMapping) ⟨rfl, rfl, nofun⟩ fun d c d' hd hc hs => ?_
    obtain ⟨⟨status, calls, d₁⟩, hcommit, rfl⟩ := Option.map_eq_some_iff.mp hs
    exact commitVidPn_oneMapping hd hc hcommit
  constructor
  · refine ⟨d.device.mapped, hd.held, ?_⟩
    cases hptr : d.device.vga.mode.ptr with
    | none => exact .inl ⟨rfl, mapped_of_none hptr⟩
    | some n => exact .inr ⟨n, rfl, by rw [mapped, hptr]; rfl⟩
  · unfold cleanUp
    split_ifs with hptr
    · obtain ⟨-, hreleased, hnone⟩ := hd.release hptr
      rw [Settled, hreleased.held, mapped_of_none hnone]
    · rw [Settled, hd.held, mapped_of_none (Option.not_isSome_iff_eq_none.mp hptr)]

/-- The frame buffer of two pixels is mapped, and mapped again for the next commit. -/
theorem mappings_settled_twoCommits :
    ∃ d, (mappingSystem ⟨0, 0, 0, .a8r8g8b8, 0⟩ 0xE0000000 fun _ => 0).runUnder
        (fun _ c => c.Supported) [twoPixels, twoPixels] =
        some d ∧
      d.device.ledger = [.acquire (0, 8), .release (0, 8), .acquire (1, 8)] ∧
      (∃ mapped, held [] d.device.ledger = some mapped ∧
        ((d.device.vga.mode.ptr = none ∧ mapped = []) ∨
          ∃ n, d.device.vga.mode.ptr = some n ∧ mapped = [(n, d.device.vga.length)])) ∧
      Settled d.device.cleanUp.ledger := by
  have hsettled : ∀ d, (mappingSystem ⟨0, 0, 0, .a8r8g8b8, 0⟩ 0xE0000000 fun _ => 0).runUnder
      (fun _ c => c.Supported) [twoPixels, twoPixels] =
      some d → _ := fun d hrun => mappings_settled _ _ _ (System.reachable_of_run hrun)
  exact ⟨_, rfl, rfl, hsettled _ rfl⟩

end Dod

end VioGpu.Device
