import VioGpu.Device.PciResourcesRuns
import VioGpu.VirtIO.ModernInit

/-!
# What a mapping of a capability has checked

`vio_modern_map_capability` checks a minimum length of the capability against the BAR and records a
length of its own. Mapping a BAR keeps the pointers that go into it, so that what holds of each
mapping holds of all at the end of the initialization.
-/

namespace VioGpu.VirtIO

open Lib Device

/-! ## The BARs -/

/-- What a pointer into the BAR is counted from: the port address, or where the BAR is mapped. -/
def barBase (b : CPciBar) : Option Nat :=
  if b.portSpace then some (b.basePA.setWidth 32).toNat else b.baseVA

/-- Mapping a BAR leaves its size as it was, and pointers into it stay what they are. -/
structure KeepsBars (bars bars' : Bars) : Prop where
  size : ∀ i, (bars' i).size = (bars i).size
  base : ∀ i base, barBase (bars i) = some base → barBase (bars' i) = some base

namespace KeepsBars

theorem refl (bars : Bars) : KeepsBars bars bars := ⟨fun _ => rfl, fun _ _ h => h⟩

theorem trans {bars bars' bars'' : Bars} (h : KeepsBars bars bars')
    (h' : KeepsBars bars' bars'') : KeepsBars bars bars'' :=
  ⟨fun i => (h'.size i).trans (h.size i), fun i base hb => h'.base i base (h.base i base hb)⟩

theorem update {bars : Bars} {i : Fin 6} {b : CPciBar} (hsize : b.size = (bars i).size)
    (hbase : ∀ base, barBase (bars i) = some base → barBase b = some base) :
    KeepsBars bars (Function.update bars i b) := by
  constructor
  · intro j
    rcases eq_or_ne j i with rfl | hj
    · rw [Function.update_self]
      exact hsize
    · rw [Function.update_of_ne hj]
  · intro j base hj
    rcases eq_or_ne j i with rfl | hij
    · rw [Function.update_self]
      exact hbase base hj
    · rw [Function.update_of_ne hij]
      exact hj

theorem inside_iff {bars bars' : Bars} (h : KeepsBars bars bars') (s : BarSpan) :
    s.Inside bars' ↔ s.Inside bars := by
  unfold BarSpan.Inside
  rw [h.size]

end KeepsBars

/-- The address is that of the offset in the BAR. -/
def MappedRange.PointsInto (r : MappedRange) (bars : Bars) : Prop :=
  ∃ base, barBase (bars r.bar) = some base ∧ r.address = base + r.offset.toNat

theorem MappedRange.PointsInto.keeps {r : MappedRange} {bars bars' : Bars}
    (h : r.PointsInto bars) (hk : KeepsBars bars bars') : r.PointsInto bars' := by
  obtain ⟨base, hbase, haddress⟩ := h
  exact ⟨base, hk.base _ base hbase, haddress⟩

theorem getVA_size (b : CPciBar) (mapped : Option Nat) : (b.getVA mapped).1.size = b.size := by
  unfold CPciBar.getVA
  split
  · rfl
  · split
    · split
      · rfl
      · rfl
    · rfl

theorem getVA_portSpace (b : CPciBar) (mapped : Option Nat) :
    (b.getVA mapped).1.portSpace = b.portSpace ∧ (b.getVA mapped).1.basePA = b.basePA := by
  unfold CPciBar.getVA
  split
  · exact ⟨rfl, rfl⟩
  · split
    · split
      · exact ⟨rfl, rfl⟩
      · exact ⟨rfl, rfl⟩
    · exact ⟨rfl, rfl⟩

theorem getVA_barBase {b : CPciBar} {base : Nat} (h : barBase b = some base)
    (mapped : Option Nat) : barBase (b.getVA mapped).1 = some base := by
  obtain ⟨hport, hpa⟩ := getVA_portSpace b mapped
  unfold barBase at h ⊢
  rw [hport, hpa]
  split
  · rename_i hp
    rw [if_pos hp] at h
    exact h
  · rename_i hp
    rw [if_neg hp] at h
    -- the BAR is mapped
    rw [CPciBar.getVA_mapped h]
    exact h

theorem getMappedAddress_size (b : CPciBar) (offset : BitVec 32) (mapped : Option Nat) :
    (b.getMappedAddress offset mapped).2.1.size = b.size := by
  unfold CPciBar.getMappedAddress
  split
  · exact getVA_size b mapped
  · rfl

theorem getMappedAddress_barBase {b : CPciBar} {base : Nat} (h : barBase b = some base)
    (offset : BitVec 32) (mapped : Option Nat) :
    barBase (b.getMappedAddress offset mapped).2.1 = some base := by
  unfold CPciBar.getMappedAddress
  split
  · exact getVA_barBase h mapped
  · exact h

/-- `GetMappedAddress` returns the address of the offset in the BAR as it is then. -/
theorem getMappedAddress_address {b : CPciBar} {offset : BitVec 32} {mapped : Option Nat}
    {address : Nat} (h : (b.getMappedAddress offset mapped).1 = some address) :
    ∃ base, barBase (b.getMappedAddress offset mapped).2.1 = some base ∧
      address = base + offset.toNat := by
  unfold CPciBar.getMappedAddress at h ⊢
  split
  · rename_i hoffset
    rw [if_pos hoffset] at h
    dsimp only at h ⊢
    obtain ⟨va, hva, rfl⟩ := Option.map_eq_some_iff.mp h
    unfold barBase
    split
    · exact ⟨_, rfl, rfl⟩
    · exact ⟨va, hva, rfl⟩
  · rename_i hoffset
    rw [if_neg hoffset] at h
    cases h

theorem pciMapAddressRange_cases {bars bars' : Bars} {bar : Fin 6} {offset maxlen : BitVec 32}
    {mapped : Option Nat} {r : Option MappedRange}
    (h : pciMapAddressRange bars bar offset maxlen mapped = (r, bars')) :
    KeepsBars bars bars' ∧ ∀ p, r = some p →
      p.bar = bar ∧ p.offset = offset ∧ p.len = maxlen ∧ p.PointsInto bars' := by
  obtain ⟨rfl, rfl⟩ := Prod.ext_iff.mp h
  constructor
  · apply KeepsBars.update
    · exact getMappedAddress_size (bars bar) offset mapped
    · intro base hbase
      exact getMappedAddress_barBase hbase offset mapped
  · intro p hp
    simp only [pciMapAddressRange, Option.map_eq_some_iff] at hp
    obtain ⟨address, haddress, rfl⟩ := hp
    refine ⟨rfl, rfl, rfl, ?_⟩
    unfold MappedRange.PointsInto
    simp only [pciMapAddressRange, Function.update_self]
    exact getMappedAddress_address haddress

/-! ## What a mapping has checked -/

/-- A capability is mapped from `start` on, and at least `minlen` bytes of it are in the BAR. -/
structure MapsCapability (c : ConfigSpace) (bars : Bars) (cap : BitVec 8) (minlen : Nat)
    (start size : BitVec 32) (r : MappedRange) : Prop where
  bar : r.bar.val = (c.capBar cap).toNat
  offset : r.offset = c.capOffset cap + start
  room : start.toNat + minlen ≤ (c.capLength cap).toNat
  len : r.len.toNat = min ((c.capLength cap).toNat - start.toNat) size.toNat
  checked : r.offset.toNat + minlen ≤ (bars r.bar).size.toNat

theorem MapsCapability.of_keepsBars {c : ConfigSpace} {bars bars' : Bars} {cap : BitVec 8}
    {minlen : Nat} {start size : BitVec 32} {r : MappedRange} (h : KeepsBars bars bars')
    (hr : MapsCapability c bars' cap minlen start size r) :
    MapsCapability c bars cap minlen start size r := by
  refine ⟨hr.bar, hr.offset, hr.room, hr.len, ?_⟩
  rw [← h.size]
  exact hr.checked

section

variable {c : ConfigSpace} {bars bars' : Bars} {cap : BitVec 8} {minlen : Nat}
  {alignment start size : BitVec 32} {mapped : Option Nat}

theorem pciReadConfigByte_some {address : Nat} {b : BitVec 8}
    (h : c.pciReadConfigByte address = some b) : b = c.content address := by
  unfold ConfigSpace.pciReadConfigByte at h
  split at h
  · cases h
  · exact (Option.some.inj h).symm

theorem pciReadConfigDword_some {address : Nat} {d : BitVec 32}
    (h : c.pciReadConfigDword address = some d) : d = c.dword address := by
  unfold ConfigSpace.pciReadConfigDword at h
  split at h
  · cases h
  · exact (Option.some.inj h).symm

/-- The length of the part from `start` on, cut to `size`. -/
theorem toNat_cut {length start size : BitVec 32} (h : start.toNat ≤ length.toNat) :
    (if length - start > size then size else length - start).toNat =
      min (length.toNat - start.toNat) size.toNat := by
  have hsub : (length - start).toNat = length.toNat - start.toNat := BitVec.toNat_sub_of_le h
  split
  · rename_i hgt
    have hgt : size.toNat < (length - start).toNat := hgt
    omega
  · rename_i hle
    have hle : ¬size.toNat < (length - start).toNat := hle
    omega

/-- What a mapping comes to: the BARs keep what they are, and a pointer is one that was checked. -/
theorem vioModernMapCapability_cases {r : Option MappedRange}
    (h : vioModernMapCapability c bars cap minlen alignment start size mapped = .ok (r, bars')) :
    KeepsBars bars bars' ∧
      ∀ p, r = some p → MapsCapability c bars cap minlen start size p ∧ p.PointsInto bars' := by
  unfold vioModernMapCapability at h
  split at h
  case h_2 => cases h
  case h_1 bar barOffset barLength hbar hoffset hlength =>
    obtain rfl := pciReadConfigByte_some hbar
    obtain rfl := pciReadConfigDword_some hoffset
    obtain rfl := pciReadConfigDword_some hlength
    have hnull : ∀ {r : Option MappedRange},
        (Except.ok (none, bars) : Except InitStop _) = .ok (r, bars') →
        KeepsBars bars bars' ∧
          ∀ p, r = some p → MapsCapability c bars cap minlen start size p ∧ p.PointsInto bars' := by
      rintro r ⟨⟩
      exact ⟨.refl _, nofun⟩
    unfold mapCapabilityFields at h
    split at h
    · exact hnull h
    · rename_i hroom
      dsimp only at h
      split at h
      · exact hnull h
      · split at h
        · rename_i hsix
          split at h
          · exact hnull h
          · rename_i hchecked
            obtain ⟨hkeeps, hsome⟩ := pciMapAddressRange_cases (Except.ok.inj h)
            refine ⟨hkeeps, fun p hp => ?_⟩
            obtain ⟨hb, ho, hl, hpoints⟩ := hsome p hp
            refine ⟨⟨?_, ho, ?_, ?_, ?_⟩, hpoints⟩
            · rw [hb]
              rfl
            · exact not_lt.mp hroom
            · rw [hl]
              exact toNat_cut (by omega)
            · rw [hb, ho]
              exact not_lt.mp hchecked
        · cases h

/-- The same for a mapping that the initialization needs. -/
theorem needed_cases {r : MappedRange}
    (h : (vioModernMapCapability c bars cap minlen alignment start size mapped >>=
      orInvalidParameter) = .ok (r, bars')) :
    KeepsBars bars bars' ∧ MapsCapability c bars cap minlen start size r ∧ r.PointsInto bars' := by
  obtain ⟨⟨_ | p, mid⟩, hmap, h⟩ := bind_eq_ok h
  · cases h
  · cases h
    obtain ⟨hkeeps, hp⟩ := vioModernMapCapability_cases hmap
    exact ⟨hkeeps, hp r rfl⟩

theorem mapNotify_cases {r : Option MappedRange}
    (h : mapNotify c bars cap mapped = .ok (r, bars')) :
    KeepsBars bars bars' ∧
      ((∃ p, r = some p ∧ MapsNotifyOnce (c.capLength cap) (c.capOffset cap) ∧
        MapsCapability c bars cap 2 0#32 (c.capLength cap) p ∧ p.PointsInto bars') ∨
      (r = none ∧ ¬MapsNotifyOnce (c.capLength cap) (c.capOffset cap))) := by
  unfold mapNotify at h
  split at h
  case h_2 => cases h
  case h_1 length offset hlength hoffset =>
    obtain rfl := pciReadConfigDword_some hlength
    obtain rfl := pciReadConfigDword_some hoffset
    split at h
    · rename_i honce
      obtain ⟨⟨p, mid⟩, hmap, h⟩ := bind_eq_ok h
      cases h
      obtain ⟨hkeeps, hp⟩ := needed_cases hmap
      exact ⟨hkeeps, .inl ⟨p, rfl, honce, hp⟩⟩
    · rename_i honce
      cases h
      exact ⟨.refl _, .inr ⟨rfl, honce⟩⟩

theorem mapConfig_cases {r : Option MappedRange}
    (h : mapConfig c bars cap mapped = .ok (r, bars')) :
    KeepsBars bars bars' ∧
      ((∃ p, r = some p ∧ cap ≠ 0 ∧ MapsCapability c bars cap 0 0#32 4096#32 p ∧
        p.PointsInto bars') ∨
      (r = none ∧ cap = 0)) := by
  unfold mapConfig at h
  split at h
  · rename_i hcap
    cases h
    exact ⟨.refl _, .inr ⟨rfl, hcap⟩⟩
  · rename_i hcap
    obtain ⟨⟨p, mid⟩, hmap, h⟩ := bind_eq_ok h
    cases h
    obtain ⟨hkeeps, hp⟩ := needed_cases hmap
    exact ⟨hkeeps, .inl ⟨p, rfl, hcap, hp⟩⟩

end

/-! ## What the initialization leaves -/

/-- The pointers of a device are mappings of the capabilities that were found. -/
structure Initialized (c : ConfigSpace) (bars : Bars) (caps : Capabilities) (vdev : ModernDevice)
    (bars' : Bars) : Prop where
  keeps : KeepsBars bars bars'
  common : MapsCapability c bars (caps virtioPciCapCommonCfg) sizeofVirtioPciCommonCfg 0#32
    (BitVec.ofNat 32 sizeofVirtioPciCommonCfg) vdev.common
  common_points : vdev.common.PointsInto bars'
  isr : MapsCapability c bars (caps virtioPciCapIsrCfg) 1 0#32 1#32 vdev.isr
  isr_points : vdev.isr.PointsInto bars'
  notify : (∃ p, vdev.notifyBase = some p ∧
      MapsNotifyOnce (c.capLength (caps virtioPciCapNotifyCfg))
        (c.capOffset (caps virtioPciCapNotifyCfg)) ∧
      MapsCapability c bars (caps virtioPciCapNotifyCfg) 2 0#32
        (c.capLength (caps virtioPciCapNotifyCfg)) p ∧ p.PointsInto bars') ∨
    (vdev.notifyBase = none ∧
      ¬MapsNotifyOnce (c.capLength (caps virtioPciCapNotifyCfg))
        (c.capOffset (caps virtioPciCapNotifyCfg)))
  config : (∃ p, vdev.config = some p ∧ caps virtioPciCapDeviceCfg ≠ 0 ∧
      MapsCapability c bars (caps virtioPciCapDeviceCfg) 0 0#32 4096#32 p ∧
      p.PointsInto bars') ∨
    (vdev.config = none ∧ caps virtioPciCapDeviceCfg = 0)

theorem initializeWith_cases {c : ConfigSpace} {bars bars' : Bars} {mapped : Fin 5 → Option Nat}
    {caps : Capabilities} {vdev : ModernDevice}
    (h : initializeWith c bars mapped caps = .ok (vdev, bars')) :
    Initialized c bars caps vdev bars' := by
  unfold initializeWith at h
  split at h
  · cases h
  · split at h
    · cases h
    · obtain ⟨⟨common, bars₁⟩, hcommon, h⟩ := bind_eq_ok h
      obtain ⟨⟨isr, bars₂⟩, hisr, h⟩ := bind_eq_ok h
      obtain ⟨⟨notifyBase, bars₃⟩, hnotify, h⟩ := bind_eq_ok h
      obtain ⟨⟨config, bars₄⟩, hconfig, h⟩ := bind_eq_ok h
      cases h
      obtain ⟨hkeeps₁, hcommon, hcommon'⟩ := needed_cases hcommon
      obtain ⟨hkeeps₂, hisr, hisr'⟩ := needed_cases hisr
      obtain ⟨hkeeps₃, hnotify⟩ := mapNotify_cases hnotify
      obtain ⟨hkeeps₄, hconfig⟩ := mapConfig_cases hconfig
      have hbefore₃ := hkeeps₁.trans hkeeps₂
      have hbefore₄ := hbefore₃.trans hkeeps₃
      have hafter₂ := hkeeps₃.trans hkeeps₄
      exact {
        keeps := hbefore₄.trans hkeeps₄
        common := hcommon
        common_points := hcommon'.keeps (hkeeps₂.trans hafter₂)
        isr := hisr.of_keepsBars hkeeps₁
        isr_points := hisr'.keeps hafter₂
        notify := hnotify.imp_left fun ⟨p, hp, honce, hmaps, hpoints⟩ =>
          ⟨p, hp, honce, hmaps.of_keepsBars hbefore₃, hpoints.keeps hkeeps₄⟩
        config := hconfig.imp_left fun ⟨p, hp, hcap, hmaps, hpoints⟩ =>
          ⟨p, hp, hcap, hmaps.of_keepsBars hbefore₄, hpoints⟩ }

end VioGpu.VirtIO
