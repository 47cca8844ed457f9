import VioGpu.Device.FrameBuffer
import VioGpu.Queue.SgArrayRuns

/-!
# The page list of a frame buffer on its way to the host

`GpuObjectAttach` hands the pages of the frame buffer to `AttachBacking`, which sends them as the
data of one command. Each page takes 16 bytes of it and each page of these bytes an element of the
array of `QueueBufferLocked`, next to the command and the response. So the array has room for the
entries of 3584 pages, and the largest built-in mode has 4000 (`attachBacking_inside_iff`).
-/

namespace VioGpu.Device

open Lib Queue

/-- The vbuffer of an `AttachBacking`. -/
theorem build_attachBacking {pool pool' : Pool} {r b : Nat} {ents : List MemEntry}
    (h : pool.build (.ctrl (.resourceAttachBacking r ents)) = some (b, pool')) :
    (pool'.bufs b).sgCount = 2 + (16 * ents.length + 4095) / 4096 := by
  simp only [Pool.build, Pool.fill, Pool.getBuf, Pool.alloc] at h
  cases hfree : pool.free with
  | nil =>
    rw [hfree] at h
    cases h
  | cons head free =>
    rw [hfree] at h
    cases h
    simp only [Pool.setBuf, if_true, VBuffer.sgCount]
    change 1 + (16 * ents.length + 4096 - 1) / 4096 + 1 = _
    omega

/-- The array has room for 3584 entries. -/
theorem staysInside_attachBacking {pool pool' : Pool} {r b : Nat} {ents : List MemEntry}
    (h : pool.build (.ctrl (.resourceAttachBacking r ents)) = some (b, pool')) :
    (pool'.bufs b).StaysInside ↔ ents.length ≤ 3584 := by
  rw [VBuffer.staysInside_iff, build_attachBacking h]
  unfold sgEntries
  omega

namespace Gpu

variable {g g' : Gpu} {mi : VideoModeInformation} {a : Allocs} {pa : Nat → Nat}

/-- `QueueBufferLocked` stays inside its array for every `AttachBacking` that is new in `g'`. -/
def AttachesInside (g g' : Gpu) : Prop :=
  ∀ new, g'.effects = g.effects ++ new → ∀ n r ents,
    .ctrl n (.resourceAttachBacking r ents) ∈ new → ∀ (pool pool' : Pool) b,
      pool.build (.ctrl (.resourceAttachBacking r ents)) = some (b, pool') →
        (pool'.bufs b).StaysInside

/-- More than 3584 pages with an address. -/
theorem fillSgList_length_le_iff {pages : Nat} : (VioGpuObj.fillSgList pages pa).length ≤ 3584 ↔
    pages ≤ 3584 ∨ ∃ i ≤ 3584, pa i = 0 := by
  rw [← Nat.not_lt, VioGpuObj.lt_fillSgList_iff, Classical.not_and_iff_not_or_not, Nat.not_lt]
  simp only [not_forall, not_not, exists_prop]

/-- What a successful `Init` attaches. -/
theorem attachesInside_iff (h : g.createFrameBuffer mi a = some g') (hinit : a.init = .done pa) :
    AttachesInside g g' ↔ (a.ents = true →
      bytesToPages (u32 (mi.screenStride * mi.visScreenHeight)) ≤ 3584 ∨ ∃ i ≤ 3584, pa i = 0) := by
  obtain ⟨obj, new, -, -, hsgl, heffects, hattach⟩ := createFrameBuffer_done h hinit
  rw [← fillSgList_length_le_iff, ← hsgl]
  constructor
  · intro hinside hents
    have hmem := (hattach g.objects g.idr.getId.1 obj.sgList).mpr ⟨hents, rfl, rfl, rfl⟩
    obtain ⟨⟨b, pool⟩, hbuild⟩ : ∃ r, (Pool.init [true]).build
        (.ctrl (.resourceAttachBacking g.idr.getId.1 obj.sgList)) = some r := ⟨_, rfl⟩
    exact (staysInside_attachBacking hbuild).mp (hinside new heffects _ _ _ hmem _ _ _ hbuild)
  · intro hle new' hnew' n r ents hents pool pool' b hbuild
    rw [heffects] at hnew'
    rw [← List.append_cancel_left hnew'] at hents
    obtain ⟨hattached, -, -, rfl⟩ := (hattach n r ents).mp hents
    exact (staysInside_attachBacking hbuild).mpr (hle hattached)

/-- A failed `Init` attaches nothing. -/
theorem attachesInside_of_fails (h : g.createFrameBuffer mi a = some g')
    (hinit : ¬a.init.Succeeds) : AttachesInside g g' := by
  intro new hnew n r ents hents
  rcases createFrameBuffer_cases h with ⟨-, rfl⟩ | ⟨hsucceeds, -⟩
  · rw [← List.append_cancel_left hnew] at hents
    simp at hents
  · exact absurd hsucceeds hinit

/-- **The elements of the frame buffer stay inside the array** of `QueueBufferLocked` exactly if it
has at most 3584 pages, or one of the first 3585 has no address and ends the list. -/
theorem attachBacking_inside_iff (g : Gpu) (mi : VideoModeInformation) (a : Allocs) :
    (∀ g', g.createFrameBuffer mi a = some g' → AttachesInside g g') ↔
    (a.object = true → a.ents = true → ∀ pa, a.init = .done pa →
      bytesToPages (u32 (mi.screenStride * mi.visScreenHeight)) ≤ 3584 ∨
        ∃ i ≤ 3584, pa i = 0) := by
  constructor
  · intro hall hobject hents pa hinit
    have hsome : (g.createFrameBuffer mi a).isSome := createFrameBuffer_isSome hobject hinit
    obtain ⟨g', hg'⟩ := Option.isSome_iff_exists.mp hsome
    exact (attachesInside_iff hg' hinit).mp (hall g' hg') hents
  · intro hcond g' hg'
    by_cases hsucceeds : a.init.Succeeds
    · obtain ⟨pa, hinit⟩ := exists_done_of_succeeds hsucceeds
      exact (attachesInside_iff hg' hinit).mpr fun hents =>
        hcond (object_of_createFrameBuffer hg') hents pa hinit
    · exact attachesInside_of_fails hg' hsucceeds

/-- The largest built-in mode has 4000 pages. -/
theorem not_always_attachesInside : ¬∀ pDispInfo customMode s g mi a g',
    (HwInit.system pDispInfo customMode).Reachable s → mi ∈ s.table.modes →
      g.createFrameBuffer mi a = some g' → AttachesInside g g' := by
  intro hall
  obtain ⟨s, hs, hmode⟩ : ∃ s, (HwInit.system HwInit.smallDisplay 0).run
      (List.replicate 19 (.main true 0 0)) = some s ∧
      s.table.modes[3]? = some ⟨3, 2560, 1600, 10240⟩ := ⟨_, rfl, rfl⟩
  have hsome : ((start firstMode).createFrameBuffer ⟨3, 2560, 1600, 10240⟩ allocated).isSome :=
    createFrameBuffer_isSome rfl rfl
  obtain ⟨g', hg'⟩ := Option.isSome_iff_exists.mp hsome
  have hinside := hall _ _ s _ _ _ g' (System.reachable_of_run hs) (List.mem_of_getElem? hmode) hg'
  rcases (attachesInside_iff hg' rfl).mp hinside rfl with hpages | ⟨i, -, hzero⟩
  · revert hpages
    decide
  · omega

end Gpu

end VioGpu.Device
