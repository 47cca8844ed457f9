import VioGpu.VirtIO.CapabilityWalk
import VioGpu.VirtIO.ModernInitRuns

/-!
# Where the notifications of a queue go

`vio_modern_setup_vq` has two ways to the address for the notifications of a queue. With the notify
structure mapped as a whole, the offset of the queue is checked with 64 bits against the length.
Otherwise `vio_modern_map_capability` is handed the offset as a `u32` and adds it to that of the
capability, as a `u32` too: an offset that has wrapped is checked like any other.
-/

namespace VioGpu.VirtIO

open Lib Device

/-- `if (!vq->priv)` -/
def privOrStatus (address : Nat) : Except QueueStatus Nat :=
  if address = 0 then .error .insufficientResources else .ok address

/-- The part of `vio_modern_setup_vq` that sets `vq->priv`. `mapped` is what `DxgkCbMapMemory`
comes to if it is called. -/
def ModernDevice.setupNotify (vdev : ModernDevice) (c : ConfigSpace) (bars : Bars)
    (off : BitVec 16) (mapped : Option Nat) :
    Except InitStop (Except QueueStatus Nat × Bars) :=
  let start := off.setWidth 32 * vdev.notifyOffsetMultiplier
  match vdev.notifyBase with
  | some r =>
    if off.toNat * vdev.notifyOffsetMultiplier.toNat + 2 > r.len.toNat then
      .ok (.error .invalidParameter, bars)
    else .ok (privOrStatus (r.address + start.toNat), bars)
  | none =>
    match vioModernMapCapability c bars vdev.notifyMapCap 2 2 start 2 mapped with
    | .error stop => .error stop
    | .ok (none, bars) => .ok (.error .insufficientResources, bars)
    | .ok (some r, bars) => .ok (privOrStatus r.address, bars)

/-- An address that is found is that of the offset of the queue in the structure, which has room
for it. -/
def NotifyExact (c : ConfigSpace) (cap : BitVec 8) (vdev : ModernDevice) (bars : Bars)
    (off : BitVec 16) (mapped : Option Nat) : Prop :=
  ∃ result bars', vdev.setupNotify c bars off mapped = .ok (result, bars') ∧
    ∀ address, result = .ok address →
      off.toNat * vdev.notifyOffsetMultiplier.toNat + 2 ≤ (c.capLength cap).toNat ∧
      ∃ (h : (c.capBar cap).toNat < 6) (base : Nat),
        barBase (bars' ⟨(c.capBar cap).toNat, h⟩) = some base ∧
        address =
          base + (c.capOffset cap).toNat + off.toNat * vdev.notifyOffsetMultiplier.toNat

/-- The offset in the BAR as the code computes it when it maps the part of one queue. -/
def queueOffset (c : ConfigSpace) (cap : BitVec 8) (start : BitVec 32) : BitVec 32 :=
  c.capOffset cap + start

/-- The part of a queue that starts at `start` passes the checks, and its BAR has an address for
it. -/
structure PassesChecks (c : ConfigSpace) (cap : BitVec 8) (bars : Bars) (start : BitVec 32)
    (mapped : Option Nat) : Prop where
  room : start.toNat + 2 ≤ (c.capLength cap).toNat
  aligned : queueOffset c cap start &&& (2 - 1) = 0
  inBar : ∃ h : (c.capBar cap).toNat < 6,
    (queueOffset c cap start).toNat + 2 ≤ (bars ⟨(c.capBar cap).toNat, h⟩).size.toNat ∧
    ∃ address, address ≠ 0 ∧
      ((bars ⟨(c.capBar cap).toNat, h⟩).getMappedAddress (queueOffset c cap start) mapped).1 =
        some address

section

variable {c : ConfigSpace} {bars bars' : Bars} {cap : BitVec 8} {off : BitVec 16}
  {mapped : Option Nat}

/-! ## What a capability that was found has to be read -/

theorem vendorLoop_readCapBar {n : Nat} {offset : BitVec 8} {caps found : Capabilities}
    (h : c.vendorLoop bars n offset caps = .ok found)
    (hcaps : ∀ i, caps i ≠ 0 → c.readCapBar (caps i) = some (c.capBar (caps i))) :
    ∀ i, found i ≠ 0 → c.readCapBar (found i) = some (c.capBar (found i)) := by
  induction n generalizing offset caps with
  | zero =>
    obtain ⟨-, rfl⟩ | ⟨-, n', -, -, hn, -⟩ := vendorLoop_cases h
    · exact hcaps
    · omega
  | succ n ih =>
    obtain ⟨-, rfl⟩ | ⟨-, n', cfgType, bar, hn, -, hbar, hrest⟩ := vendorLoop_cases h
    · exact hcaps
    · obtain rfl : n = n' := by omega
      have hread : c.readCapBar offset = some (c.capBar offset) := by
        rw [ConfigSpace.readCapBar, hbar, pciReadConfigByte_some hbar]
        rfl
      refine ih hrest fun i hi => ?_
      unfold Capabilities.record at hi ⊢
      split_ifs at hi ⊢ with h₁ h₂ h₃
      · rcases eq_or_ne i ⟨cfgType.toNat, h₂⟩ with rfl | hne
        · rw [Function.update_self]
          exact hread
        · rw [Function.update_of_ne hne] at hi ⊢
          exact hcaps i hi
      · exact hcaps i hi
      · exact hcaps i hi
      · exact hcaps i hi

theorem findPciVendorCapabilities_readCapBar {n : Nat} {caps : Capabilities}
    (h : c.findPciVendorCapabilities bars n = .ok caps) (i : Fin 5) (hi : caps i ≠ 0) :
    c.readCapBar (caps i) = some (c.capBar (caps i)) :=
  vendorLoop_readCapBar h (fun _ hi => absurd rfl hi) i hi

/-! ## The two ways -/

theorem toNat_queueStart (off : BitVec 16) (multiplier : BitVec 32) :
    (off.setWidth 32 * multiplier).toNat = off.toNat * multiplier.toNat % 2 ^ 32 := by
  rw [BitVec.toNat_mul, BitVec.toNat_setWidth_of_le (by decide)]

/-- The structure is mapped as a whole: the address is exact. -/
theorem setupNotify_base {bars₀ bars₁ : Bars} {caps : Capabilities} {vdev : ModernDevice}
    (h : Initialized c bars₀ caps vdev bars₁) (hkeeps : KeepsBars bars₁ bars) {r : MappedRange}
    (hbase : vdev.notifyBase = some r) :
    NotifyExact c (caps virtioPciCapNotifyCfg) vdev bars off mapped := by
  obtain ⟨p, hp, -, hmaps, hpoints⟩ | ⟨hp, -⟩ := h.notify
  · obtain rfl : r = p := Option.some.inj (hbase.symm.trans hp)
    have hlen : r.len.toNat = (c.capLength (caps virtioPciCapNotifyCfg)).toNat := by
      rw [hmaps.len, BitVec.toNat_zero, Nat.sub_zero, Nat.min_self]
    have hoffset : r.offset = c.capOffset (caps virtioPciCapNotifyCfg) := by
      rw [hmaps.offset, BitVec.add_zero]
    obtain ⟨base, hbar, haddress⟩ := hpoints.keeps hkeeps
    have hsix : (c.capBar (caps virtioPciCapNotifyCfg)).toNat < 6 := hmaps.bar ▸ r.bar.isLt
    have hindex : r.bar = ⟨(c.capBar (caps virtioPciCapNotifyCfg)).toNat, hsix⟩ :=
      Fin.ext hmaps.bar
    by_cases hroom : off.toNat * vdev.notifyOffsetMultiplier.toNat + 2 > r.len.toNat
    · refine ⟨.error .invalidParameter, bars, ?_, fun _ h => by cases h⟩
      rw [ModernDevice.setupNotify, hbase]
      exact if_pos hroom
    · have hlt := r.len.isLt
      have hstart : (off.setWidth 32 * vdev.notifyOffsetMultiplier).toNat =
          off.toNat * vdev.notifyOffsetMultiplier.toNat := by
        rw [toNat_queueStart, Nat.mod_eq_of_lt (by omega)]
      refine ⟨privOrStatus (r.address + (off.setWidth 32 * vdev.notifyOffsetMultiplier).toNat),
        bars, ?_, fun address hok => ?_⟩
      · rw [ModernDevice.setupNotify, hbase]
        exact if_neg hroom
      · unfold privOrStatus at hok
        split_ifs at hok
        obtain rfl := Except.ok.inj hok
        refine ⟨by omega, hsix, base, hindex ▸ hbar, ?_⟩
        rw [hstart, haddress, hoffset]
  · rw [hbase] at hp
    cases hp

section

variable {bar : BitVec 8} {barOffset barLength alignment start size : BitVec 32} {minlen : Nat}

/-- What fails one of the checks is not mapped. -/
theorem mapCapabilityFields_eq_none (hsix : bar.toNat < 6)
    (hfail : start.toNat + minlen > barLength.toNat ∨ barOffset + start &&& (alignment - 1) ≠ 0 ∨
      (barOffset + start).toNat + minlen > (bars ⟨bar.toNat, hsix⟩).size.toNat) :
    mapCapabilityFields bars bar barOffset barLength minlen alignment start size mapped =
      .ok (none, bars) := by
  by_cases hroom : start.toNat + minlen > barLength.toNat
  · exact if_pos hroom
  rw [mapCapabilityFields, if_neg hroom]
  by_cases halign : barOffset + start &&& (alignment - 1) ≠ 0
  · exact if_pos halign
  have hin : (barOffset + start).toNat + minlen > (bars ⟨bar.toNat, hsix⟩).size.toNat :=
    (hfail.resolve_left hroom).resolve_left halign
  refine (if_neg halign).trans ((dif_pos hsix).trans ?_)
  exact if_pos hin

theorem mapCapabilityFields_eq_range (hsix : bar.toNat < 6)
    (hroom : start.toNat + minlen ≤ barLength.toNat)
    (halign : barOffset + start &&& (alignment - 1) = 0)
    (hin : (barOffset + start).toNat + minlen ≤ (bars ⟨bar.toNat, hsix⟩).size.toNat) :
    ∃ len, mapCapabilityFields bars bar barOffset barLength minlen alignment start size mapped =
      .ok (pciMapAddressRange bars ⟨bar.toNat, hsix⟩ (barOffset + start) len mapped) := by
  refine ⟨if barLength - start > size then size else barLength - start, ?_⟩
  rw [mapCapabilityFields, if_neg (not_lt.mpr hroom)]
  refine (if_neg (not_not.mpr halign)).trans ((dif_pos hsix).trans ?_)
  exact if_neg (not_lt.mpr hin)

end

section

variable {vdev : ModernDevice} (hbase : vdev.notifyBase = none)
  (hread : c.readCapBar vdev.notifyMapCap = some (c.capBar vdev.notifyMapCap))
  (hoffset : c.readCapOffset vdev.notifyMapCap = some (c.capOffset vdev.notifyMapCap))
  (hlength : c.readCapLength vdev.notifyMapCap = some (c.capLength vdev.notifyMapCap))

include hbase hread hoffset hlength

theorem setupNotify_of_none
    (hmap : mapCapabilityFields bars (c.capBar vdev.notifyMapCap) (c.capOffset vdev.notifyMapCap)
      (c.capLength vdev.notifyMapCap) 2 2 (off.setWidth 32 * vdev.notifyOffsetMultiplier) 2 mapped =
        .ok (none, bars)) :
    vdev.setupNotify c bars off mapped = .ok (.error .insufficientResources, bars) := by
  rw [ModernDevice.setupNotify, hbase, vioModernMapCapability, hread, hoffset, hlength]
  dsimp only
  rw [hmap]

/-- What is left of a range that passes the checks is whether the BAR has an address. -/
theorem setupNotify_of_range {bar : Fin 6} {offset len : BitVec 32}
    (hmap : mapCapabilityFields bars (c.capBar vdev.notifyMapCap) (c.capOffset vdev.notifyMapCap)
      (c.capLength vdev.notifyMapCap) 2 2 (off.setWidth 32 * vdev.notifyOffsetMultiplier) 2 mapped =
        .ok (pciMapAddressRange bars bar offset len mapped)) :
    vdev.setupNotify c bars off mapped =
      .ok (((bars bar).getMappedAddress offset mapped).1.elim (.error .insufficientResources)
          privOrStatus,
        Function.update bars bar ((bars bar).getMappedAddress offset mapped).2.1) := by
  rw [ModernDevice.setupNotify, hbase, vioModernMapCapability, hread, hoffset, hlength]
  dsimp only
  rw [hmap]
  simp only [pciMapAddressRange]
  cases ((bars bar).getMappedAddress offset mapped).1 with
  | none => rfl
  | some address => rfl

variable (bars off mapped) in
/-- Each queue maps its own part: it has an address if and only if the part passes the checks. -/
theorem setupNotify_mapped (hsix : (c.capBar vdev.notifyMapCap).toNat < 6) :
    let start := off.setWidth 32 * vdev.notifyOffsetMultiplier
    (PassesChecks c vdev.notifyMapCap bars start mapped ∧
      ∃ address bars' base, vdev.setupNotify c bars off mapped = .ok (.ok address, bars') ∧
        barBase (bars' ⟨(c.capBar vdev.notifyMapCap).toNat, hsix⟩) = some base ∧
        address = base + (queueOffset c vdev.notifyMapCap start).toNat) ∨
    (¬ PassesChecks c vdev.notifyMapCap bars start mapped ∧
      ∃ status bars', vdev.setupNotify c bars off mapped = .ok (.error status, bars')) := by
  intro start
  by_cases hfits : start.toNat + 2 ≤ (c.capLength vdev.notifyMapCap).toNat ∧
      c.capOffset vdev.notifyMapCap + start &&& (2 - 1) = 0 ∧
      (c.capOffset vdev.notifyMapCap + start).toNat + 2 ≤
        (bars ⟨(c.capBar vdev.notifyMapCap).toNat, hsix⟩).size.toNat
  · obtain ⟨hroom, halign, hin⟩ := hfits
    obtain ⟨len, hmap⟩ := mapCapabilityFields_eq_range hsix hroom halign hin
    have hsetup := setupNotify_of_range hbase hread hoffset hlength hmap
    rw [← queueOffset] at hsetup
    cases haddress : ((bars ⟨(c.capBar vdev.notifyMapCap).toNat, hsix⟩).getMappedAddress
        (queueOffset c vdev.notifyMapCap start) mapped).1 with
    | none =>
      rw [haddress, Option.elim_none] at hsetup
      refine .inr ⟨fun h => ?_, _, _, hsetup⟩
      obtain ⟨_, -, address, -, h⟩ := h.inBar
      rw [haddress] at h
      cases h
    | some address =>
      rw [haddress, Option.elim_some] at hsetup
      obtain ⟨base, hbar, hsum⟩ := getMappedAddress_address haddress
      by_cases hzero : address = 0
      · rw [privOrStatus, if_pos hzero] at hsetup
        refine .inr ⟨fun h => ?_, _, _, hsetup⟩
        obtain ⟨_, -, address', hne, h⟩ := h.inBar
        rw [haddress] at h
        exact hne ((Option.some.inj h).symm.trans hzero)
      · rw [privOrStatus, if_neg hzero] at hsetup
        refine .inl ⟨⟨hroom, halign, hsix, hin, address, hzero, haddress⟩,
          address, _, base, hsetup, ?_, hsum⟩
        rw [Function.update_self]
        exact hbar
  · refine .inr ⟨fun h => hfits ?_, _, _, setupNotify_of_none hbase hread hoffset hlength
      (mapCapabilityFields_eq_none hsix ?_)⟩
    · obtain ⟨_, hin, -⟩ := h.inBar
      exact ⟨h.room, h.aligned, hin⟩
    · simpa only [not_and_or, not_le] using hfits

end

/-! ## When the address is exact -/

/-- What the initialization leaves for the queues that map their own part. -/
theorem initializeWith_notifyMapCap {bars₀ bars₁ : Bars} {mapped₀ : Fin 5 → Option Nat}
    {caps : Capabilities} {vdev : ModernDevice}
    (h : initializeWith c bars₀ mapped₀ caps = .ok (vdev, bars₁)) (hbase : vdev.notifyBase = none) :
    vdev.notifyMapCap = caps virtioPciCapNotifyCfg ∧ caps virtioPciCapNotifyCfg ≠ 0 ∧
      c.readCapLength (caps virtioPciCapNotifyCfg) =
        some (c.capLength (caps virtioPciCapNotifyCfg)) ∧
      c.readCapOffset (caps virtioPciCapNotifyCfg) =
        some (c.capOffset (caps virtioPciCapNotifyCfg)) := by
  unfold initializeWith at h
  split at h
  · cases h
  · split at h
    · cases h
    · rename_i hcaps
      obtain ⟨⟨common, bars₂⟩, -, h⟩ := bind_eq_ok h
      obtain ⟨⟨isr, bars₃⟩, -, h⟩ := bind_eq_ok h
      obtain ⟨⟨notifyBase, bars₄⟩, hnotify, h⟩ := bind_eq_ok h
      obtain ⟨⟨config, bars₅⟩, -, h⟩ := bind_eq_ok h
      cases h
      refine ⟨?_, fun hzero => hcaps (.inr hzero), ?_⟩
      · dsimp only at hbase ⊢
        rw [hbase]
        rfl
      · unfold mapNotify at hnotify
        split at hnotify
        · rename_i length offset hlength hoffset
          rw [hlength, hoffset, pciReadConfigDword_some hlength, pciReadConfigDword_some hoffset]
          exact ⟨rfl, rfl⟩
        · cases hnotify

/-- The offsets that a queue maps its own part with fit in 32 bits. -/
def QueueFits (c : ConfigSpace) (cap : BitVec 8) (vdev : ModernDevice) (off : BitVec 16) : Prop :=
  (c.capOffset cap).toNat + off.toNat * vdev.notifyOffsetMultiplier.toNat < 2 ^ 32

variable (bars off mapped) in
theorem setupNotify_mapped_exact_iff {vdev : ModernDevice} (hbase : vdev.notifyBase = none)
    (hread : c.readCapBar vdev.notifyMapCap = some (c.capBar vdev.notifyMapCap))
    (hoffset : c.readCapOffset vdev.notifyMapCap = some (c.capOffset vdev.notifyMapCap))
    (hlength : c.readCapLength vdev.notifyMapCap = some (c.capLength vdev.notifyMapCap))
    (hsix : (c.capBar vdev.notifyMapCap).toNat < 6) :
    NotifyExact c vdev.notifyMapCap vdev bars off mapped ↔
      (QueueFits c vdev.notifyMapCap vdev off ∨
        ¬ PassesChecks c vdev.notifyMapCap bars (off.setWidth 32 * vdev.notifyOffsetMultiplier)
          mapped) := by
  obtain ⟨hpass, address, bars', base, hsetup, hbar, hsum⟩ | ⟨hfail, status, bars', hsetup⟩ :=
    setupNotify_mapped bars off mapped hbase hread hoffset hlength hsix
  · have hroom := hpass.room
    rw [toNat_queueStart] at hroom
    rw [queueOffset, BitVec.toNat_add, toNat_queueStart] at hsum
    constructor
    · intro h
      obtain ⟨result, bars'', hresult, hexact⟩ := h
      cases hresult.symm.trans hsetup
      obtain ⟨-, _, base', hbar', hsum'⟩ := hexact address rfl
      obtain rfl : base = base' := Option.some.inj (hbar.symm.trans hbar')
      refine .inl ?_
      have hmod := Nat.mod_lt ((c.capOffset vdev.notifyMapCap).toNat +
        off.toNat * vdev.notifyOffsetMultiplier.toNat % 2 ^ 32) (Nat.two_pow_pos 32)
      unfold QueueFits
      omega
    · intro h
      obtain hfits | hfail := h
      · unfold QueueFits at hfits
        have hstart := Nat.mod_eq_of_lt (show off.toNat * vdev.notifyOffsetMultiplier.toNat <
          2 ^ 32 by omega)
        rw [hstart] at hroom hsum
        rw [Nat.mod_eq_of_lt hfits] at hsum
        refine ⟨.ok address, bars', hsetup, fun address' hok => ?_⟩
        obtain rfl := Except.ok.inj hok
        exact ⟨hroom, hsix, base, hbar, by omega⟩
      · exact absurd hpass hfail
  · refine iff_of_true ⟨.error status, bars', hsetup, fun _ h => by cases h⟩ (.inr hfail)

/-- The address for the notifications of a queue is exact, or its setup fails, if and only if the
structure is mapped as a whole, the offsets fit in 32 bits or the wrapped ones do not pass the
checks. -/
theorem setupNotify_exact_iff {fuel : Nat} {bars₀ bars₁ : Bars} {mapped₀ : Fin 5 → Option Nat}
    {caps : Capabilities} {vdev : ModernDevice}
    (hcaps : c.findPciVendorCapabilities bars₀ fuel = .ok caps)
    (hinit : initializeWith c bars₀ mapped₀ caps = .ok (vdev, bars₁))
    (hkeeps : KeepsBars bars₁ bars) (off : BitVec 16) (mapped : Option Nat) :
    let cap := caps virtioPciCapNotifyCfg
    NotifyExact c cap vdev bars off mapped ↔
      (MapsNotifyOnce (c.capLength cap) (c.capOffset cap) ∨ QueueFits c cap vdev off ∨
        ¬ PassesChecks c cap bars (off.setWidth 32 * vdev.notifyOffsetMultiplier) mapped) := by
  intro cap
  have hdevice := initializeWith_cases hinit
  obtain ⟨r, hbase, honce, -⟩ | ⟨hbase, hmany⟩ := hdevice.notify
  · exact iff_of_true (setupNotify_base hdevice hkeeps hbase) (.inl honce)
  · obtain ⟨hcap, hpresent, hlength, hoffset⟩ := initializeWith_notifyMapCap hinit hbase
    obtain ⟨-, hsix, -⟩ := findPciVendorCapabilities_valid hcaps virtioPciCapNotifyCfg hpresent
    have hread := findPciVendorCapabilities_readCapBar hcaps virtioPciCapNotifyCfg hpresent
    have hiff := setupNotify_mapped_exact_iff bars off mapped hbase
      (by rw [hcap]; exact hread) (by rw [hcap]; exact hoffset) (by rw [hcap]; exact hlength)
      (by rw [hcap]; exact hsix)
    rw [hcap] at hiff
    rw [hiff]
    exact (or_iff_right hmany).symm

end

/-- The common configuration, the ISR byte and a notify structure of two pages, with a multiplier of
2 GiB. -/
def wideConfig : ConfigSpace where
  content address := (([(0x06, 0x10), (0x34, 0x40)] ++
    capBytes 0x40 0x50 1 [0x00, 0x00, 0, 0, 0x38, 0x00, 0, 0] ++
    capBytes 0x50 0x60 3 [0x00, 0x01, 0, 0, 0x01, 0x00, 0, 0] ++
    capBytes 0x60 0x00 2 [0x00, 0x20, 0, 0, 0x00, 0x20, 0, 0, 0, 0, 0, 0x80]).lookup
      address).getD (0 : BitVec 8)
  fails _ _ := false

/-- The device of these capabilities, with the BAR mapped at 0xF000. -/
def wideDevice : ModernDevice where
  common := ⟨⟨0, by decide⟩, 0x0000, 56, 0xF000⟩
  isr := ⟨⟨0, by decide⟩, 0x0100, 1, 0xF100⟩
  notifyBase := none
  notifyMapCap := 0x60
  notifyOffsetMultiplier := 0x80000000
  config := none

/-- It is initialized, and the third queue gets the address of the first one. -/
theorem wideConfig_found : ∃ caps bars₁ bars',
    wideConfig.findPciVendorCapabilities (memoryBars 0x4000) 5 = .ok caps ∧
      caps virtioPciCapNotifyCfg = 0x60 ∧
      initializeWith wideConfig (memoryBars 0x4000) (fun _ => some 0xF000) caps =
        .ok (wideDevice, bars₁) ∧
      wideDevice.setupNotify wideConfig bars₁ 2 none = .ok (.ok 0x11000, bars') :=
  ⟨_, _, _, rfl, rfl, rfl, rfl⟩

theorem setupNotify_exact_first : ∃ caps bars₁,
    initializeWith wideConfig (memoryBars 0x4000) (fun _ => some 0xF000) caps =
        .ok (wideDevice, bars₁) ∧
      NotifyExact wideConfig (caps virtioPciCapNotifyCfg) wideDevice bars₁ 0 none := by
  obtain ⟨caps, bars₁, -, hcaps, hcap, hinit, -⟩ := wideConfig_found
  refine ⟨caps, bars₁, hinit, (setupNotify_exact_iff hcaps hinit (.refl bars₁) 0 none).mpr ?_⟩
  refine .inr (.inl ?_)
  rw [hcap]
  show (wideConfig.capOffset 0x60).toNat + 0 * _ < 2 ^ 32
  decide

theorem setupNotify_not_exact : ¬ ∀ (fuel : Nat) (c : ConfigSpace) (bars₀ bars₁ bars : Bars)
    (mapped₀ : Fin 5 → Option Nat) (caps : Capabilities) (vdev : ModernDevice),
    c.findPciVendorCapabilities bars₀ fuel = .ok caps →
      initializeWith c bars₀ mapped₀ caps = .ok (vdev, bars₁) → KeepsBars bars₁ bars →
        ∀ (off : BitVec 16) (mapped : Option Nat),
          NotifyExact c (caps virtioPciCapNotifyCfg) vdev bars off mapped := by
  intro h
  obtain ⟨caps, bars₁, bars', hcaps, hcap, hinit, hsetup⟩ := wideConfig_found
  obtain ⟨result, bars'', hresult, hexact⟩ :=
    h 5 wideConfig _ bars₁ bars₁ _ caps wideDevice hcaps hinit
    (.refl bars₁) 2 none
  cases hsetup.symm.trans hresult
  obtain ⟨hroom, -⟩ := hexact 0x11000 rfl
  rw [hcap] at hroom
  exact absurd hroom (by decide)

end VioGpu.VirtIO
