import VioGpu.Device.CommitRuns
import VioGpu.Device.SystemWrite

/-!
# The range that is known to be zero

`BlackOutScreen` skips what `ZeroedOutStart` and `ZeroedOutEnd` say it has zeroed before. The range
is honest if all of its bytes are zero. Nothing but a black-out and `SystemDisplayWrite` can make
it lie: `PresentDisplayOnly` resets it, and `CommitVidPn` does not touch it. For these two the
condition is exact: `blackOutScreen_black_iff` says when a black-out leaves the frame buffer black,
and `screen_black` follows for every run of calls that meet their conditions.
-/

namespace VioGpu.Device

open Lib

namespace Vga

/-- All bytes of the frame buffer are zero, if it is active. -/
def Black (v : Vga) : Prop :=
  v.mode.frameBufferIsActive = true → ∀ k : Int, v.base ≤ k → k < v.base + v.length → v.memory k = 0

/-- Every byte of the range that is remembered as zeroed is zero. -/
def Honest (v : Vga) : Prop :=
  ∀ k : Int, v.zeroedOutStart ≤ k → k < v.zeroedOutEnd → v.memory k = 0

/-- What holds besides of the range and the mapping: the range is reset or starts with the frame
buffer, and an active frame buffer is mapped from its physical address on. -/
structure Aligned (physicAddress : Nat) (v : Vga) : Prop where
  address : v.mode.dispInfo.physicAddress = physicAddress
  range : (v.zeroedOutStart = 0 ∧ v.zeroedOutEnd = 0) ∨ v.zeroedOutStart = physicAddress ∧
    physicAddress ≤ v.zeroedOutEnd
  mapped : v.mode.frameBufferIsActive = true → v.base = physicAddress ∧ physicAddress ≠ 0

/-- What is left of the new frame buffer when the bytes that were zeroed before, and as many bytes
at its start as it is longer, are zero; nothing where the range has been reset. -/
def unzeroed (v : Vga) : Int → Prop := fun k =>
  v.mode.dispInfo.physicAddress ≤ v.zeroedOutEnd ∧ (v.zeroedOutEnd : Int) ≤ k ∧
    v.mode.dispInfo.physicAddress +
      (v.mode.dispInfo.physicAddress + v.length - v.zeroedOutEnd) ≤ k ∧
    k < v.mode.dispInfo.physicAddress + v.length

/-- A black-out meets its condition: what it leaves out of the frame buffer is zero already, which
for a frame buffer that is not active is all of it. -/
def BlackOutFits (v : Vga) : Prop :=
  if v.mode.frameBufferIsActive then ∀ k, v.unzeroed k → v.memory k = 0
  else ∀ k : Int, v.mode.dispInfo.physicAddress ≤ k →
    k < v.mode.dispInfo.physicAddress + v.length → v.memory k = 0

/-- What `SystemDisplayWrite` puts into the range is zero, unless a later pixel of the same write
replaces it. -/
def WriteFits (v : Vga) (w : SystemDisplayWrite) : Prop :=
  v.mode.ptr.isSome → ∀ k : Int, v.zeroedOutStart ≤ k → k < v.zeroedOutEnd →
    ∀ j i value, w.Puts v.mode v.base j i k value →
      (∀ j' i', j < j' ∨ j = j' ∧ i < i' → ∀ u, ¬w.Puts v.mode v.base j' i' k u) → value = 0

variable {v v' : Vga} {physicAddress : Nat}

theorem length_lt (v : Vga) : v.length < 4294967296 := Nat.mod_lt _ (by omega)

/-- Zeroing through the mapping. -/
theorem zeroMapped_cases {n : Nat} (h : v.zeroMapped n = some v') :
    v' = { v with memory := zeroMemory v.memory v.base n } := by
  unfold zeroMapped at h
  split_ifs at h with hn
  · cases h
    subst hn
    have hsame : zeroMemory v.memory v.base 0 = v.memory := by
      ext k : 1
      exact if_neg (by omega)
    rw [hsame]
  · obtain ⟨_, -, h⟩ := Option.map_eq_some_iff.mp h
    exact h.symm

theorem zeroUnzeroed_memory (h : v.zeroUnzeroed = some v') :
    ∃ memory, v' = { v with memory := memory } := by
  unfold zeroUnzeroed at h
  obtain ⟨u, hu, h⟩ := Option.bind_eq_some_iff.mp h
  have hfirst : ∃ memory, u = { v with memory := memory } := by
    split_ifs at hu
    · exact ⟨_, zeroMapped_cases hu⟩
    · exact ⟨_, zeroMapped_cases hu⟩
    · cases hu
      exact ⟨v.memory, rfl⟩
  obtain ⟨memory, rfl⟩ := hfirst
  split_ifs at h
  · rw [zeroMapped_cases h]
    exact ⟨_, rfl⟩
  · rw [zeroMapped_cases h]
    exact ⟨_, rfl⟩
  · cases h
    exact ⟨memory, rfl⟩

/-- **`BlackOutScreen` on an active frame buffer** zeroes all of it if the range is reset, and
otherwise as many bytes at its start as it is longer than the range. -/
theorem zeroUnzeroed_cases (ha : v.Aligned physicAddress)
    (hactive : v.mode.frameBufferIsActive = true) (h : v.zeroUnzeroed = some v') :
    (v.zeroedOutEnd < physicAddress ∧
      v' = { v with memory := zeroMemory v.memory physicAddress v.length }) ∨
    (physicAddress ≤ v.zeroedOutEnd ∧ v' = { v with
      memory := zeroMemory v.memory physicAddress
        (physicAddress + v.length - v.zeroedOutEnd) }) := by
  obtain ⟨hbase, hpos⟩ := ha.mapped hactive
  have hstart : ¬v.mode.dispInfo.physicAddress < v.zeroedOutStart := by
    rw [ha.address]
    rcases ha.range with ⟨hzero, -⟩ | ⟨hsame, -⟩
    · omega
    · omega
  have hlength := v.length_lt
  unfold zeroUnzeroed at h
  obtain ⟨u, hu, h⟩ := Option.bind_eq_some_iff.mp h
  rw [if_neg hstart] at hu
  cases hu
  simp only [ha.address] at h
  split_ifs at h with hlonger hreset
  · exact .inl ⟨hreset, by rw [zeroMapped_cases h, hbase]⟩
  · refine .inr ⟨by omega, ?_⟩
    have hsub : u32 (physicAddress + v.length - v.zeroedOutEnd) =
        physicAddress + v.length - v.zeroedOutEnd := Nat.mod_eq_of_lt (by omega)
    rw [zeroMapped_cases h, hbase, hsub]
  · cases h
    have hle : physicAddress ≤ v.zeroedOutEnd := by omega
    have hzero : physicAddress + v.length - v.zeroedOutEnd = 0 := by omega
    have hsame : zeroMemory v.memory physicAddress 0 = v.memory := by
      ext k : 1
      exact if_neg (by omega)
    exact .inr ⟨hle, by rw [hzero, hsame]⟩

/-- What `BlackOutScreen` changes. -/
theorem blackOutScreen_cases (h : v.blackOutScreen = some v') :
    ∃ memory, v' = { v with
      zeroedOutStart := v.mode.dispInfo.physicAddress
      zeroedOutEnd := v.mode.dispInfo.physicAddress + v.length
      memory := memory } ∧
    (v.mode.frameBufferIsActive = false → memory = v.memory) ∧
    ∀ physicAddress, v.Aligned physicAddress → v.mode.frameBufferIsActive = true →
      (v.zeroedOutEnd < physicAddress ∧ memory = zeroMemory v.memory physicAddress v.length) ∨
      (physicAddress ≤ v.zeroedOutEnd ∧ memory = zeroMemory v.memory physicAddress
        (physicAddress + v.length - v.zeroedOutEnd)) := by
  unfold blackOutScreen at h
  obtain ⟨w, hw, h⟩ := Option.bind_eq_some_iff.mp h
  cases h
  cases hactive : v.mode.frameBufferIsActive with
  | false =>
    rw [hactive] at hw
    cases hw
    exact ⟨v.memory, rfl, fun _ => rfl, nofun⟩
  | true =>
    rw [hactive] at hw
    rw [if_pos rfl] at hw
    obtain ⟨memory, rfl⟩ := zeroUnzeroed_memory hw
    refine ⟨memory, rfl, nofun, fun physicAddress ha _ => ?_⟩
    rcases zeroUnzeroed_cases ha hactive hw with ⟨hreset, heq⟩ | ⟨hle, heq⟩
    · exact .inl ⟨hreset, congrArg Vga.memory heq⟩
    · exact .inr ⟨hle, congrArg Vga.memory heq⟩

theorem honest_after (v : Vga) (memory : Int → Byte) : Honest { v with
      zeroedOutStart := v.mode.dispInfo.physicAddress
      zeroedOutEnd := v.mode.dispInfo.physicAddress + v.length
      memory := memory } ↔ ∀ k : Int, v.mode.dispInfo.physicAddress ≤ k →
        k < v.mode.dispInfo.physicAddress + v.length → memory k = 0 := by
  simp only [Honest, Int.natCast_add]

/-- **One black-out** leaves the range honest, and with it an active frame buffer black, exactly
when it meets its condition. -/
theorem blackOutScreen_honest_iff (ha : v.Aligned physicAddress) (hhonest : v.Honest)
    (h : v.blackOutScreen = some v') : v'.Honest ↔ v.BlackOutFits := by
  obtain ⟨memory, rfl, hinactive, hactive⟩ := blackOutScreen_cases h
  rw [honest_after, BlackOutFits]
  cases hflag : v.mode.frameBufferIsActive with
  | false => rw [hinactive hflag, if_neg (by simp)]
  | true =>
    rw [if_pos rfl]
    unfold unzeroed
    rw [ha.address]
    rcases hactive physicAddress ha hflag with ⟨hreset, rfl⟩ | ⟨hle, rfl⟩
    · refine iff_of_true (fun k hk hk' => if_pos ⟨hk, hk'⟩) ?_
      rintro k ⟨hle, -⟩
      omega
    · have hzeroed : ∀ k : Int, physicAddress ≤ k → k < v.zeroedOutEnd → v.memory k = 0 := by
        intro k hk hk'
        rcases ha.range with ⟨hzero, hzero'⟩ | ⟨hsame, -⟩
        · exact hhonest k (by omega) hk'
        · exact hhonest k (by rw [hsame]; exact hk) hk'
      constructor
      · rintro hall k ⟨-, hk, hk', hend⟩
        have hzero := hall k (by omega) hend
        rwa [zeroMemory, if_neg (by omega)] at hzero
      · intro hrest k hk hk'
        unfold zeroMemory
        split_ifs with hin
        · rfl
        · by_cases hold : k < v.zeroedOutEnd
          · exact hzeroed k hk hold
          · exact hrest k ⟨hle, by omega, by omega, hk'⟩

/-- An honest range that covers an active frame buffer makes it black. -/
theorem blackOutScreen_black (ha : v.Aligned physicAddress) (hhonest : v.Honest)
    (hfits : v.BlackOutFits) (h : v.blackOutScreen = some v') : v'.Black := by
  have hhonest' := (blackOutScreen_honest_iff ha hhonest h).mpr hfits
  obtain ⟨memory, rfl, -, -⟩ := blackOutScreen_cases h
  rw [honest_after] at hhonest'
  intro hactive k hk hk'
  obtain ⟨hbase, -⟩ := ha.mapped hactive
  change (v.base : Int) ≤ k at hk
  change k < (v.base : Int) + v.length at hk'
  rw [hbase, ← ha.address] at hk hk'
  exact hhonest' k hk hk'

/-! ## The other steps -/

/-- Zeroing bytes of video memory keeps the range honest. -/
theorem Honest.of_zeroed (h : v.Honest) (hstart : v'.zeroedOutStart = v.zeroedOutStart)
    (hend : v'.zeroedOutEnd = v.zeroedOutEnd)
    (hmemory : ∀ k, v.memory k = 0 → v'.memory k = 0) : v'.Honest := by
  intro k hk hk'
  rw [hstart] at hk
  rw [hend] at hk'
  exact hmemory k (h k hk hk')

/-- The invariant of a run: the range is aligned and honest. -/
structure Inv (physicAddress : Nat) (v : Vga) : Prop where
  aligned : v.Aligned physicAddress
  honest : v.Honest

theorem Inv.acquireFrameBuffer (h : v.Inv physicAddress) (o : VgaOutcomes) :
    (v.acquireFrameBuffer o).2.Inv physicAddress := by
  obtain ⟨⟨haddress, hrange, hmapped⟩, hhonest⟩ := h
  unfold Vga.acquireFrameBuffer
  split_ifs with hunmapped hzero ho
  · exact ⟨⟨haddress, hrange, hmapped⟩, hhonest⟩
  · exact ⟨⟨haddress, hrange, hmapped⟩, hhonest⟩
  · exact ⟨⟨haddress, hrange, fun _ => ⟨haddress, by rw [← haddress]; tauto⟩⟩, hhonest⟩
  · exact ⟨⟨haddress, hrange, hmapped⟩, hhonest⟩

/-- Nothing that `CommitVidPn` does to the device touches the range, and the BIOS only clears. -/
theorem keeps_inv (physicAddress : Nat) : vgaDevice.Keeps (Inv physicAddress) where
  source v m path h := ⟨⟨h.aligned.address, h.aligned.range, h.aligned.mapped⟩, h.honest⟩
  fullscreen v h := ⟨⟨h.aligned.address, h.aligned.range, h.aligned.mapped⟩, h.honest⟩
  acquire v o status v' h hs := by
    obtain rfl : (v.acquireFrameBuffer o).2 = v' := congrArg Prod.snd (Option.some_inj.mp hs)
    exact h.acquireFrameBuffer o
  release v o status v' h hs := by
    cases hs
    exact ⟨⟨h.aligned.address, h.aligned.range, nofun⟩, h.honest⟩
  mode v modes n o status v' h hs := by
    cases hs
    refine ⟨⟨h.aligned.address, h.aligned.range, h.aligned.mapped⟩, ?_⟩
    refine h.honest.of_zeroed rfl rfl fun k hk => ?_
    change (if o.cleared k then 0 else v.memory k) = 0
    rw [hk, ite_self]

/-- Drawing changes video memory only. -/
theorem draw_eq (v : Vga) (blits : Blt → Blt) :
    ∃ memory, v.draw blits = { v with memory := memory } := by
  unfold draw
  split_ifs
  · exact ⟨_, rfl⟩
  · exact ⟨v.memory, rfl⟩

/-- A present resets the range before it draws. -/
theorem Inv.presentDisplayOnly (h : v.Inv physicAddress) (source : Int → Byte)
    (p : PresentDisplayOnly) : (v.presentDisplayOnly source p).Inv physicAddress := by
  unfold Vga.presentDisplayOnly
  split_ifs
  · exact h
  · obtain ⟨memory, hmemory⟩ := draw_eq { v with zeroedOutStart := 0, zeroedOutEnd := 0 }
      fun b => b.presentRects { v.mode.dstBltInfo p with bits := v.base + v.mode.centerShift }
        (v.mode.srcBltInfo p) source p.rects
    rw [hmemory]
    refine ⟨⟨h.aligned.address, .inl ⟨rfl, rfl⟩, h.aligned.mapped⟩, fun k hk hk' => ?_⟩
    change ((0 : Nat) : Int) ≤ k at hk
    change k < ((0 : Nat) : Int) at hk'
    omega

/-- **`SystemDisplayWrite`** draws into the range without resetting it. -/
theorem systemDisplayWrite_honest_iff (hhonest : v.Honest) (w : SystemDisplayWrite) :
    (v.systemDisplayWrite w).Honest ↔ v.WriteFits w := by
  obtain ⟨memory, hmemory⟩ := draw_eq v fun b => b.bltBits
    (SystemDisplayWrite.dstBltInfo v.mode v.base) w.srcBltInfo w.source [w.rect]
  have hw : v.systemDisplayWrite w = { v with memory := memory } := hmemory
  have hrange : (v.systemDisplayWrite w).Honest ↔ ∀ k : Int, v.zeroedOutStart ≤ k →
      k < v.zeroedOutEnd → (v.systemDisplayWrite w).memory k = 0 := by
    rw [hw]
    rfl
  rw [hrange]
  by_cases hptr : v.mode.ptr.isSome
  · constructor
    · intro h _ k hk hk'
      exact (systemDisplayWrite_zero_iff w hptr (hhonest k hk hk')).mp (h k hk hk')
    · intro h k hk hk'
      exact (systemDisplayWrite_zero_iff w hptr (hhonest k hk hk')).mpr (h hptr k hk hk')
  · refine iff_of_true (fun k hk hk' => ?_) fun h => absurd h hptr
    rw [systemDisplayWrite, draw, if_neg hptr]
    exact hhonest k hk hk'

theorem Inv.systemDisplayWrite (h : v.Inv physicAddress) {w : SystemDisplayWrite}
    (hfits : v.WriteFits w) : (v.systemDisplayWrite w).Inv physicAddress := by
  refine ⟨?_, (systemDisplayWrite_honest_iff h.honest w).mpr hfits⟩
  obtain ⟨memory, hmemory⟩ := draw_eq v fun b => b.bltBits
    (SystemDisplayWrite.dstBltInfo v.mode v.base) w.srcBltInfo w.source [w.rect]
  rw [show v.systemDisplayWrite w = { v with memory := memory } from hmemory]
  exact ⟨h.aligned.address, h.aligned.range, h.aligned.mapped⟩

theorem Aligned.blackOutScreen (ha : v.Aligned physicAddress) (h : v.blackOutScreen = some v') :
    v'.Aligned physicAddress := by
  obtain ⟨memory, rfl, -, -⟩ := blackOutScreen_cases h
  exact ⟨ha.address, .inr ⟨ha.address, by simp only [ha.address]; omega⟩, ha.mapped⟩

/-- Hiding the source blacks out the screen. -/
theorem setVidPnSourceVisibility_cases {visible : Bool}
    (h : v.setVidPnSourceVisibility visible = some v') :
    (visible = true ∧ v' = { v with
      mode := { v.mode with fullscreenPresent := true }
      sourceNotVisible := false }) ∨
    (visible = false ∧ ∃ w, v.blackOutScreen = some w ∧
      v' = { w with sourceNotVisible := true }) := by
  obtain ⟨w, hw, h⟩ := Option.bind_eq_some_iff.mp h
  cases h
  cases visible with
  | true =>
    cases hw
    exact .inl ⟨rfl, rfl⟩
  | false => exact .inr ⟨rfl, w, hw, rfl⟩

end Vga

/-! ## Runs -/

namespace Dod

/-- The condition of each call: black-outs and `SystemDisplayWrite` have one. -/
def VgaFits (d : Dod Vga) : VgaEvent → Prop
  | .commitVidPn _ | .presentDisplayOnly .. => True
  | .setVidPnSourceVisibility visible => visible = false → d.device.BlackOutFits
  | .systemDisplayWrite w => d.device.WriteFits w

variable {acquired : DispInfo} {physicAddress : Nat} {memory : Int → Byte} {d : Dod Vga}

/-- **The range is honest** in every state that calls which meet their conditions lead to. -/
theorem vga_inv (h : (vgaSystem acquired physicAddress memory).ReachableUnder VgaFits d) :
    d.device.Inv (startDeviceMode acquired physicAddress).dispInfo.physicAddress := by
  refine h.induct
    (fun d => d.device.Inv (startDeviceMode acquired physicAddress).dispInfo.physicAddress) ?_
    fun d e d' hinv hfits hs => ?_
  · exact ⟨⟨rfl, .inl ⟨rfl, rfl⟩, nofun⟩, fun k hk hk' => by
      change ((0 : Nat) : Int) ≤ k at hk
      change k < ((0 : Nat) : Int) at hk'
      omega⟩
  · cases e with
    | commitVidPn c =>
      obtain ⟨⟨status, calls, d₁⟩, hcommit, rfl⟩ := Option.map_eq_some_iff.mp hs
      exact commitVidPn_keeps (Vga.keeps_inv _) hinv hcommit
    | presentDisplayOnly source p =>
      cases hs
      exact hinv.presentDisplayOnly source p
    | setVidPnSourceVisibility visible =>
      obtain ⟨v, hv, rfl⟩ := Option.map_eq_some_iff.mp hs
      rcases Vga.setVidPnSourceVisibility_cases hv with ⟨-, rfl⟩ | ⟨hhidden, w, hw, rfl⟩
      · exact ⟨⟨hinv.aligned.address, hinv.aligned.range, hinv.aligned.mapped⟩, hinv.honest⟩
      · have haligned := hinv.aligned.blackOutScreen hw
        have hhonest := (Vga.blackOutScreen_honest_iff hinv.aligned hinv.honest hw).mpr
          (hfits hhidden)
        exact ⟨⟨haligned.address, haligned.range, haligned.mapped⟩, hhonest⟩
    | systemDisplayWrite w =>
      cases hs
      exact hinv.systemDisplayWrite hfits

/-- **A black-out blacks out the screen**, and the range is honest, in every run of calls that meet
their conditions. -/
theorem screen_black (acquired : DispInfo) (physicAddress : Nat) (memory : Int → Byte)
    {d : Dod Vga} (h : (vgaSystem acquired physicAddress memory).ReachableUnder VgaFits d) :
    d.device.Honest ∧ ∀ d', VgaFits d (.setVidPnSourceVisibility false) →
      (vgaSystem acquired physicAddress memory).step d (.setVidPnSourceVisibility false) = some d' →
        d'.device.Black := by
  have hinv := vga_inv h
  refine ⟨hinv.honest, fun d' hfits hs => ?_⟩
  obtain ⟨v, hv, rfl⟩ := Option.map_eq_some_iff.mp hs
  rcases Vga.setVidPnSourceVisibility_cases hv with ⟨hvisible, -⟩ | ⟨-, w, hw, rfl⟩
  · cases hvisible
  · have hblack := Vga.blackOutScreen_black hinv.aligned hinv.honest (hfits rfl) hw
    exact fun hactive k hk hk' => hblack hactive k hk hk'

/-- A commit of two pixels in a row, with everything going well and the BIOS clearing video
memory. -/
def twoPixels : CommitVidPn VgaOutcomes where
  pathPoweredOff := false
  vidPnInterface := .ok ()
  topology := .ok ()
  numPaths := .ok 1
  sourceModeSet := .ok ()
  pinned := .ok (some ⟨.graphics, ⟨2, 1⟩, ⟨2, 1⟩, .a8r8g8b8, .scrgb, .direct⟩)
  modes := [⟨0, 2, 1, 8⟩]
  released := ⟨true, true, fun _ => true⟩
  paths := .ok [⟨.ok (), .ok ⟨0, 0, .default, .identity, .identity, .scrgb⟩,
    ⟨true, true, fun _ => true⟩, .ok ()⟩]

/-- A present of one white pixel. -/
def whitePresent : PresentDisplayOnly where
  bytesPerPixel := 4
  pitch := 8
  rotate := false
  moves := []
  dirtyRects := [⟨0, 0, 1, 1⟩]

/-- The display that the BIOS leaves, at the physical address 4096. -/
def biosDisplay : DispInfo := ⟨800, 600, 3200, .x8r8g8b8, 4096⟩

/-- Video memory that is not zero. -/
def noise : Int → Byte := fun _ => 0xaa

theorem screen_black_twoPixels :
    ∃ d d', (vgaSystem biosDisplay 0 noise).step d (.setVidPnSourceVisibility false) = some d' ∧
      d.device.memory 4096 = 0xff ∧ d'.device.mode.frameBufferIsActive = true ∧
      d'.device.Black := by
  obtain ⟨d, d', hreach, hstep, hreset, hwhite, hactive, hactive'⟩ : ∃ d d',
      (vgaSystem biosDisplay 0 noise).ReachableUnder VgaFits d ∧
        (vgaSystem biosDisplay 0 noise).step d (.setVidPnSourceVisibility false) = some d' ∧
        d.device.zeroedOutEnd < d.device.mode.dispInfo.physicAddress ∧
        d.device.memory 4096 = 0xff ∧ d.device.mode.frameBufferIsActive = true ∧
        d'.device.mode.frameBufferIsActive = true :=
    ⟨_, _, .step (e := .presentDisplayOnly (fun _ => 0xff) whitePresent)
      (.step (e := .commitVidPn twoPixels) .init trivial rfl) trivial rfl, rfl,
      by decide, by decide, by decide, by decide⟩
  have hfits : VgaFits d (.setVidPnSourceVisibility false) := by
    intro _
    rw [Vga.BlackOutFits, if_pos hactive]
    rintro k ⟨hle, -⟩
    omega
  exact ⟨d, d', hstep, hwhite, hactive', (screen_black biosDisplay 0 noise hreach).2 d' hfits hstep⟩

/-- A commit of so many rows of two pixels, with the BIOS leaving video memory alone. -/
def commitRows (height : Nat) : CommitVidPn VgaOutcomes where
  pathPoweredOff := false
  vidPnInterface := .ok ()
  topology := .ok ()
  numPaths := .ok 1
  sourceModeSet := .ok ()
  pinned := .ok (some ⟨.graphics, ⟨2, height⟩, ⟨2, height⟩, .a8r8g8b8, .scrgb, .direct⟩)
  modes := [⟨0, 2, height, 8⟩]
  released := ⟨true, true, fun _ => false⟩
  paths := .ok [⟨.ok (), .ok ⟨0, 0, .default, .identity, .identity, .scrgb⟩,
    ⟨true, true, fun _ => false⟩, .ok ()⟩]

/-- Between two black-outs the mode gets a second row; what is zeroed for it is the first row
again. -/
theorem not_always_black : ¬∀ (acquired : DispInfo) (physicAddress : Nat) (memory : Int → Byte)
    (d d' : Dod Vga), (vgaSystem acquired physicAddress memory).Reachable d →
    (vgaSystem acquired physicAddress memory).step d (.setVidPnSourceVisibility false) = some d' →
    d'.device.Black := by
  intro hall
  obtain ⟨d, d', hreach, hstep, hactive, hbase, hlength, hnoise⟩ : ∃ d d',
      (vgaSystem biosDisplay 0 noise).Reachable d ∧
        (vgaSystem biosDisplay 0 noise).step d (.setVidPnSourceVisibility false) = some d' ∧
        d'.device.mode.frameBufferIsActive = true ∧ d'.device.base = 4096 ∧
        d'.device.length = 16 ∧ d'.device.memory 4104 = 0xaa :=
    ⟨_, _, .step (e := .commitVidPn (commitRows 2))
      (.step (e := .setVidPnSourceVisibility false)
        (.step (e := .commitVidPn (commitRows 1)) .init trivial rfl) trivial rfl) trivial rfl, rfl,
      by decide, by decide, by decide, by decide⟩
  have hblack := hall biosDisplay 0 noise d d' hreach hstep hactive 4104 (by omega) (by omega)
  rw [hnoise] at hblack
  cases hblack

end Dod

end VioGpu.Device
