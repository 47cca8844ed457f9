import VioGpu.VirtIO.CapabilityMaps
import VioGpu.VirtIO.FindQueues

/-!
# What a modern device maps lies in its BARs

A capability is mapped with the length recorded for it, but only a minimum length of it is
checked against the BAR. The common configuration and the ISR byte are mapped with that minimum
length, and each queue that maps its own part of the notify structure, too. The notify structure
as a whole and the configuration of the device can reach past their BARs. The sum of the offset
and the length of an access to the configuration can wrap.
-/

namespace VioGpu.VirtIO

open Lib Device

/-! ## When everything stays inside -/

/-- `pci_get_resource_len` of the BAR that a capability names. -/
def capBarSize (c : ConfigSpace) (bars : Bars) (cap : BitVec 8) : Nat :=
  if h : (c.capBar cap).toNat < 6 then (bars ⟨(c.capBar cap).toNat, h⟩).size.toNat else 0

/-- An access to the configuration that passes the check does not do so because its offset and its
length sum up to more than a `u32` has. -/
def RegisterAccess.NoWrap (c : ConfigSpace) (caps : Capabilities) : RegisterAccess → Prop
  | .getConfig offset len | .setConfig offset len =>
    caps virtioPciCapDeviceCfg ≠ 0 → len = 1 ∨ len = 2 ∨ len = 4 →
      (offset + len).toNat ≤ min (c.capLength (caps virtioPciCapDeviceCfg)).toNat 4096 →
      offset.toNat + len.toNat < 2 ^ 32
  | .notify _ _ => True

/-- The notify structure, if it is mapped at once, and the configuration of the device, as much of
it as is mapped, end in their BARs. No access wraps. -/
structure FitsBars (c : ConfigSpace) (bars : Bars) (caps : Capabilities)
    (accesses : List RegisterAccess) : Prop where
  notify : let cap := caps virtioPciCapNotifyCfg
    MapsNotifyOnce (c.capLength cap) (c.capOffset cap) →
      (c.capOffset cap).toNat + (c.capLength cap).toNat ≤ capBarSize c bars cap
  config : let cap := caps virtioPciCapDeviceCfg
    cap ≠ 0 → (c.capOffset cap).toNat + min (c.capLength cap).toNat 4096 ≤ capBarSize c bars cap
  accesses : ∀ a ∈ accesses, a.NoWrap c caps

theorem MapsCapability.barSize {c : ConfigSpace} {bars : Bars} {cap : BitVec 8} {minlen : Nat}
    {start size : BitVec 32} {r : MappedRange}
    (h : MapsCapability c bars cap minlen start size r) :
    (bars r.bar).size.toNat = capBarSize c bars cap := by
  have hsix : (c.capBar cap).toNat < 6 := h.bar ▸ r.bar.isLt
  have hbar : r.bar = ⟨(c.capBar cap).toNat, hsix⟩ := Fin.ext h.bar
  rw [capBarSize, dif_pos hsix, hbar]

/-- What is recorded for a capability that is mapped from its start. -/
theorem MapsCapability.inside_iff {c : ConfigSpace} {bars : Bars} {cap : BitVec 8} {minlen : Nat}
    {size : BitVec 32} {r : MappedRange} (h : MapsCapability c bars cap minlen 0#32 size r) :
    BarSpan.Inside ⟨r.bar, r.offset.toNat, r.len.toNat⟩ bars ↔
      (c.capOffset cap).toNat + min (c.capLength cap).toNat size.toNat ≤ capBarSize c bars cap := by
  have hoffset := h.offset
  have hlen := h.len
  rw [BitVec.add_zero] at hoffset
  rw [BitVec.toNat_zero, Nat.sub_zero] at hlen
  rw [BarSpan.Inside, hoffset, hlen, h.barSize]

namespace Initialized

variable {c : ConfigSpace} {bars bars' : Bars} {caps : Capabilities} {vdev : ModernDevice}

/-- The common configuration ends where the check says. -/
theorem common_inside (h : Initialized c bars caps vdev bars') :
    BarSpan.Inside ⟨vdev.common.bar, vdev.common.offset.toNat, sizeofVirtioPciCommonCfg⟩ bars :=
  h.common.checked

theorem isr_inside (h : Initialized c bars caps vdev bars') :
    BarSpan.Inside ⟨vdev.isr.bar, vdev.isr.offset.toNat, 1⟩ bars :=
  h.isr.checked

/-- The notify structure is inside iff the capability is, where it is mapped at once. -/
theorem notify_inside_iff (h : Initialized c bars caps vdev bars') :
    (∀ r ∈ vdev.notifyBase, BarSpan.Inside ⟨r.bar, r.offset.toNat, r.len.toNat⟩ bars) ↔
      (MapsNotifyOnce (c.capLength (caps virtioPciCapNotifyCfg))
          (c.capOffset (caps virtioPciCapNotifyCfg)) →
        (c.capOffset (caps virtioPciCapNotifyCfg)).toNat +
          (c.capLength (caps virtioPciCapNotifyCfg)).toNat ≤
            capBarSize c bars (caps virtioPciCapNotifyCfg)) := by
  rcases h.notify with ⟨p, hp, honce, hmaps, -⟩ | ⟨hp, honce⟩
  · simp only [hp, Option.mem_some, forall_eq']
    rw [hmaps.inside_iff, min_self]
    exact ⟨fun hin _ => hin, fun hin => hin honce⟩
  · simp [hp, honce]

theorem config_inside_iff (h : Initialized c bars caps vdev bars') :
    (∀ r ∈ vdev.config, BarSpan.Inside ⟨r.bar, r.offset.toNat, r.len.toNat⟩ bars) ↔
      (caps virtioPciCapDeviceCfg ≠ 0 →
        (c.capOffset (caps virtioPciCapDeviceCfg)).toNat +
          min (c.capLength (caps virtioPciCapDeviceCfg)).toNat 4096 ≤
            capBarSize c bars (caps virtioPciCapDeviceCfg)) := by
  rcases h.config with ⟨p, hp, hcap, hmaps, -⟩ | ⟨hp, hcap⟩
  · simp only [hp, Option.mem_some, forall_eq']
    rw [hmaps.inside_iff]
    exact ⟨fun hin _ => hin, fun hin => hin hcap⟩
  · simp [hp, hcap]

/-- All structures are inside iff the two that are mapped with a length of their own are. -/
theorem structures_inside_iff (h : Initialized c bars caps vdev bars') :
    (∀ s ∈ vdev.structures, s.Inside bars) ↔
      (∀ r ∈ vdev.notifyBase, BarSpan.Inside ⟨r.bar, r.offset.toNat, r.len.toNat⟩ bars) ∧
        ∀ r ∈ vdev.config, BarSpan.Inside ⟨r.bar, r.offset.toNat, r.len.toNat⟩ bars := by
  simp [ModernDevice.structures, h.common_inside, h.isr_inside, or_imp, forall_and]

/-! Accesses, where the structures are inside. -/

/-- An access to the configuration stays inside iff its offset and length do not wrap: the last
byte of one that does is further on than any BAR is long. -/
theorem configSpan_inside_iff (h : Initialized c bars caps vdev bars')
    (hin : ∀ r ∈ vdev.config, BarSpan.Inside ⟨r.bar, r.offset.toNat, r.len.toNat⟩ bars)
    (offset len : BitVec 32) :
    (∀ s ∈ vdev.configSpan offset len, s.Inside bars) ↔
      (RegisterAccess.getConfig offset len).NoWrap c caps := by
  unfold ModernDevice.configSpan RegisterAccess.NoWrap
  rcases h.config with ⟨p, hp, hcap, hmaps, -⟩ | ⟨hp, hcap⟩
  · have hinside := hin p hp
    have hlen := hmaps.len
    rw [BitVec.toNat_zero, Nat.sub_zero, BitVec.toNat_ofNat] at hlen
    have hsum := BitVec.toNat_add offset len
    have hsize := (bars p.bar).size.isLt
    simp only [BarSpan.Inside] at hinside
    rw [hp]
    dsimp only
    split
    · rename_i hrefused
      -- the check refuses the access
      exact ⟨fun _ _ _ haccepted => by omega, fun _ => by simp⟩
    · rename_i haccepted
      split
      · rename_i hwidth
        simp only [Option.mem_some, forall_eq', BarSpan.Inside]
        constructor
        · intro hspan _ _ _
          omega
        · intro hwrap
          have hwrap := hwrap hcap hwidth (by omega)
          omega
      · rename_i hwidth
        exact ⟨fun _ _ hlen => absurd hlen hwidth, fun _ => by simp⟩
  · rw [hp]
    exact ⟨fun _ hpresent => absurd hcap hpresent, fun _ => by simp⟩

/-- The notifications of a queue stay inside. Where each queue maps its own part, that part is
checked. -/
theorem notifySpan_inside (h : Initialized c bars caps vdev bars')
    (hin : ∀ r ∈ vdev.notifyBase, BarSpan.Inside ⟨r.bar, r.offset.toNat, r.len.toNat⟩ bars)
    {bars₁ : Bars} (hkeeps : KeepsBars bars bars₁) (off : BitVec 16) (mapped : Option Nat) :
    KeepsBars bars (vdev.notifySpan c bars₁ off mapped).2 ∧
      ∀ s ∈ (vdev.notifySpan c bars₁ off mapped).1, s.Inside bars := by
  unfold ModernDevice.notifySpan
  rcases h.notify with ⟨p, hp, -⟩ | ⟨hp, -⟩
  · have hinside := hin p hp
    have hproduct : (off.setWidth 32 * vdev.notifyOffsetMultiplier).toNat ≤
        off.toNat * vdev.notifyOffsetMultiplier.toNat := by
      rw [BitVec.toNat_mul, BitVec.toNat_setWidth_of_le (by decide)]
      exact Nat.mod_le _ _
    simp only [BarSpan.Inside] at hinside
    rw [hp]
    dsimp only
    split
    · exact ⟨hkeeps, by simp⟩
    · refine ⟨hkeeps, ?_⟩
      simp only [Option.mem_some, forall_eq', BarSpan.Inside]
      omega
  · rw [hp]
    dsimp only
    split
    case h_1 r bars₂ hmap =>
      obtain ⟨hkeeps₂, hmaps⟩ := vioModernMapCapability_cases hmap
      refine ⟨hkeeps.trans hkeeps₂, ?_⟩
      simp only [Option.mem_some, forall_eq']
      exact (hkeeps.inside_iff _).mp (hmaps r rfl).1.checked
    case h_2 bars₂ hmap =>
      obtain ⟨hkeeps₂, -⟩ := vioModernMapCapability_cases hmap
      exact ⟨hkeeps.trans hkeeps₂, by simp⟩
    case h_3 => exact ⟨hkeeps, by simp⟩

/-- One access. -/
theorem access_inside_iff (h : Initialized c bars caps vdev bars')
    (hin : ∀ s ∈ vdev.structures, s.Inside bars) {bars₁ : Bars} (hkeeps : KeepsBars bars bars₁)
    (a : RegisterAccess) :
    KeepsBars bars (vdev.access c bars₁ a).2 ∧
      ((∀ s ∈ (vdev.access c bars₁ a).1, s.Inside bars) ↔ a.NoWrap c caps) := by
  obtain ⟨hnotify, hconfig⟩ := h.structures_inside_iff.mp hin
  cases a with
  | getConfig offset len => exact ⟨hkeeps, h.configSpan_inside_iff hconfig offset len⟩
  | setConfig offset len => exact ⟨hkeeps, h.configSpan_inside_iff hconfig offset len⟩
  | notify off mapped =>
    obtain ⟨hkeeps, hspan⟩ := h.notifySpan_inside hnotify hkeeps off mapped
    exact ⟨hkeeps, fun _ => trivial, fun _ => hspan⟩

/-- A sequence of accesses. -/
theorem touched_inside_iff (h : Initialized c bars caps vdev bars')
    (hin : ∀ s ∈ vdev.structures, s.Inside bars) (accesses : List RegisterAccess) {bars₁ : Bars}
    (hkeeps : KeepsBars bars bars₁) :
    (∀ s ∈ vdev.touched c bars₁ accesses, s.Inside bars) ↔ ∀ a ∈ accesses, a.NoWrap c caps := by
  induction accesses generalizing bars₁ with
  | nil => simp [ModernDevice.touched]
  | cons a accesses ih =>
    obtain ⟨hkeeps, hspan⟩ := h.access_inside_iff hin hkeeps a
    rw [List.forall_mem_cons, ← hspan, ← ih hkeeps]
    simp [ModernDevice.touched, or_imp, forall_and]

theorem staysInside_iff (h : Initialized c bars caps vdev bars') (accesses : List RegisterAccess) :
    vdev.StaysInside c bars' accesses ↔ FitsBars c bars caps accesses := by
  have hstays : vdev.StaysInside c bars' accesses ↔ (∀ s ∈ vdev.structures, s.Inside bars) ∧
      ∀ s ∈ vdev.touched c bars' accesses, s.Inside bars := by
    unfold ModernDevice.StaysInside
    simp only [h.keeps.inside_iff]
  rw [hstays]
  constructor
  · rintro ⟨hin, hspans⟩
    obtain ⟨hnotify, hconfig⟩ := h.structures_inside_iff.mp hin
    exact {
      notify := h.notify_inside_iff.mp hnotify
      config := h.config_inside_iff.mp hconfig
      accesses := (h.touched_inside_iff hin accesses h.keeps).mp hspans }
  · intro hfits
    have hin : ∀ s ∈ vdev.structures, s.Inside bars := by
      apply h.structures_inside_iff.mpr
      exact ⟨h.notify_inside_iff.mpr hfits.notify, h.config_inside_iff.mpr hfits.config⟩
    exact ⟨hin, (h.touched_inside_iff hin accesses h.keeps).mpr hfits.accesses⟩

end Initialized

theorem vioModernInitialize_cases {fuel : Nat} {c : ConfigSpace} {bars bars' : Bars}
    {mapped : Fin 5 → Option Nat} {vdev : ModernDevice}
    (h : vioModernInitialize c fuel bars mapped = .ok (vdev, bars')) :
    ∃ caps, c.findPciVendorCapabilities bars fuel = .ok caps ∧
      Initialized c bars caps vdev bars' := by
  obtain ⟨caps, hcaps, h⟩ := bind_eq_ok h
  exact ⟨caps, hcaps, initializeWith_cases h⟩

/-- The pointers of a device go where the BARs are mapped. -/
theorem vioModernInitialize_pointsInto {fuel : Nat} {c : ConfigSpace} {bars bars' : Bars}
    {mapped : Fin 5 → Option Nat} {vdev : ModernDevice}
    (h : vioModernInitialize c fuel bars mapped = .ok (vdev, bars')) {r : MappedRange}
    (hr : r ∈ [vdev.common, vdev.isr] ++ vdev.notifyBase.toList ++ vdev.config.toList) :
    r.PointsInto bars' := by
  obtain ⟨caps, -, h⟩ := vioModernInitialize_cases h
  simp only [List.mem_append, List.mem_cons, List.not_mem_nil, or_false, Option.mem_toList] at hr
  obtain ((rfl | rfl) | hr) | hr := hr
  · exact h.common_points
  · exact h.isr_points
  · obtain ⟨p, hp, -, -, hpoints⟩ | ⟨hp, -⟩ := h.notify
    · rw [hp] at hr
      exact Option.some.inj hr ▸ hpoints
    · rw [hp] at hr
      cases hr
  · obtain ⟨p, hp, -, -, hpoints⟩ | ⟨hp, -⟩ := h.config
    · rw [hp] at hr
      exact Option.some.inj hr ▸ hpoints
    · rw [hp] at hr
      cases hr

/-- What a device has mapped lies in its BARs, and accesses stay there, iff the notify structure
and the configuration fit into theirs and no access to the configuration wraps. -/
theorem vioModernInitialize_staysInside_iff {fuel : Nat} {c : ConfigSpace} {bars bars' : Bars}
    {mapped : Fin 5 → Option Nat} {vdev : ModernDevice}
    (h : vioModernInitialize c fuel bars mapped = .ok (vdev, bars'))
    (accesses : List RegisterAccess) :
    vdev.StaysInside c bars' accesses ↔
      ∀ caps, c.findPciVendorCapabilities bars fuel = .ok caps →
        FitsBars c bars caps accesses := by
  obtain ⟨caps, hcaps, h⟩ := vioModernInitialize_cases h
  rw [h.staysInside_iff accesses]
  constructor
  · intro hfits found hfound
    obtain rfl : caps = found := Except.ok.inj (hcaps.symm.trans hfound)
    exact hfits
  · intro hfits
    exact hfits caps hcaps

/-! ## The addresses of the queues -/

/-- The device as `virtio_find_queues` is given it. -/
def ModernDevice.withQueues (vdev : ModernDevice) : VirtIODevice :=
  .initialized (vdev.notifyBase.map (·.address)) vdev.notifyOffsetMultiplier.toNat
    (vdev.notifyBase.elim 0 (·.len.toNat))

/-- The notification address of a queue that is set up is that of the bytes above. -/
theorem notifyAddress_eq {vdev : ModernDevice} {r : MappedRange} (hbase : vdev.notifyBase = some r)
    (c : ConfigSpace) (bars : Bars) (a : QueueAnswers) (mapped : Option Nat) {address : Nat}
    (h : vdev.withQueues.notifyAddress a = .ok address) :
    ∃ first, (vdev.notifySpan c bars a.queueNotifyOff mapped).1 = some ⟨r.bar, first, 2⟩ ∧
      address + r.offset.toNat = r.address + first := by
  have hproduct : (a.queueNotifyOff.setWidth 32 * vdev.notifyOffsetMultiplier).toNat =
      u32 (a.queueNotifyOff.toNat * vdev.notifyOffsetMultiplier.toNat) := by
    rw [BitVec.toNat_mul, BitVec.toNat_setWidth_of_le (by decide)]
    rfl
  simp only [VirtIODevice.notifyAddress, ModernDevice.withQueues, VirtIODevice.initialized, hbase,
    Option.map_some, Option.elim_some] at h
  simp only [ModernDevice.notifySpan, hbase, hproduct]
  split at h
  · cases h
  · rename_i haccepted
    cases h
    rw [if_neg haccepted]
    exact ⟨_, rfl, by omega⟩

/-! ## Two configuration spaces -/

/-- A capability for BAR 0: its address, the next one, its type, the fields from the offset on. -/
def capBytes (address : Nat) (next cfgType : BitVec 8) (fields : List (BitVec 8)) :
    List (Nat × BitVec 8) :=
  ([0x09, next, 16, cfgType, 0, 0, 0, 0] ++ fields).mapIdx fun i b => (address + i, b)

/-- The common configuration, the ISR byte, the notify structure with a multiplier of 4, and the
configuration of the device: 0x1000 bytes from 0x1000 on. -/
def pageConfig : ConfigSpace where
  content address := (([(0x06, 0x10), (0x34, 0x40)] ++
    capBytes 0x40 0x50 1 [0x00, 0x00, 0, 0, 0x38, 0x00, 0, 0] ++
    capBytes 0x50 0x60 3 [0x00, 0x01, 0, 0, 0x01, 0x00, 0, 0] ++
    capBytes 0x60 0x78 2 [0x00, 0x02, 0, 0, 0x08, 0x00, 0, 0, 0x04, 0, 0, 0] ++
    capBytes 0x78 0x00 4 [0x00, 0x10, 0, 0, 0x00, 0x10, 0, 0]).lookup address).getD (0 : BitVec 8)
  fails _ _ := false

/-- BARs of a size, in the memory space. -/
def memoryBars (size : BitVec 32) : Bars := fun _ => .new 0xC0000000 size false true

/-- The device of these capabilities with the BAR, mapped at 0xF000. -/
def pageDevice (bar : Fin 6) : ModernDevice where
  common := ⟨bar, 0x0000, 56, 0xF000⟩
  isr := ⟨bar, 0x0100, 1, 0xF100⟩
  notifyBase := some ⟨bar, 0x0200, 8, 0xF200⟩
  notifyMapCap := 0
  notifyOffsetMultiplier := 4
  config := some ⟨bar, 0x1000, 0x1000, 0x10000⟩

theorem vioModernInitialize_staysInside_iff_page :
    ∃ bars', vioModernInitialize pageConfig 5 (memoryBars 0x2000) (fun _ => some 0xF000) =
        .ok (pageDevice 0, bars') ∧
      (pageDevice 0).StaysInside pageConfig bars'
        [.getConfig 0x0ffc 4, .notify 1 none, .setConfig 0x1000 1] := by
  obtain ⟨bars', hinit⟩ : ∃ bars', vioModernInitialize pageConfig 5 (memoryBars 0x2000)
      (fun _ => some 0xF000) = .ok (pageDevice 0, bars') := ⟨_, rfl⟩
  refine ⟨bars', hinit, (vioModernInitialize_staysInside_iff hinit _).mpr ?_⟩
  intro caps hcaps
  have hfound : (pageConfig.findPciVendorCapabilities (memoryBars 0x2000) 5).map
      (fun caps => (caps virtioPciCapNotifyCfg, caps virtioPciCapDeviceCfg)) = .ok (0x60, 0x78) :=
    rfl
  rw [hcaps] at hfound
  obtain ⟨hnotify, hdevice⟩ := Prod.ext_iff.mp (Except.ok.inj hfound)
  dsimp only at hnotify hdevice
  constructor
  · rw [hnotify]
    decide
  · rw [hdevice]
    decide
  · simp only [List.forall_mem_cons, List.not_mem_nil, false_implies, implies_true,
      RegisterAccess.NoWrap]
    rw [hdevice]
    decide

/-- In BARs of 0x1100 bytes the configuration of the device is mapped with all its bytes, too. -/
theorem config_past_bar : ¬∀ (fuel : Nat) (c : ConfigSpace) (bars bars' : Bars)
    (mapped : Fin 5 → Option Nat) (vdev : ModernDevice) (accesses : List RegisterAccess),
    vioModernInitialize c fuel bars mapped = .ok (vdev, bars') →
      vdev.StaysInside c bars' accesses := by
  intro hstays
  obtain ⟨bars', hinit⟩ : ∃ bars', vioModernInitialize pageConfig 5 (memoryBars 0x1100)
      (fun _ => some 0xF000) = .ok (pageDevice 0, bars') := ⟨_, rfl⟩
  obtain ⟨hstructures, -⟩ := hstays _ _ _ _ _ _ [] hinit
  obtain ⟨caps, -, h⟩ := vioModernInitialize_cases hinit
  have hconfig := hstructures ⟨0, 0x1000, 0x1000⟩ (by decide)
  rw [h.keeps.inside_iff, BarSpan.Inside] at hconfig
  exact absurd hconfig (by decide)

end VioGpu.VirtIO
