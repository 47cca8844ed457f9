import Mathlib.Data.FinEnum
import VioGpu.Lib.Iterate
import VioGpu.VirtIO.CapabilityMaps

/-!
# The walk through the capabilities

The loop of `find_pci_vendor_capabilities` goes on from one capability to the next as the device
says. An offset is a byte, so that it ends within 256 turns or goes round. Where it ends, what it
has found names BARs that exist.
-/

namespace VioGpu.VirtIO

open Lib Device

/-! ## The list of the capabilities -/

section

variable {c : ConfigSpace} {bars : Bars}

/-- From a vendor capability to the next one. -/
def ConfigSpace.nextVendor (c : ConfigSpace) (offset : BitVec 8) : BitVec 8 :=
  c.findNextPciVendorCapability (offset + 1)

@[simp] theorem vendorLoop_zero (n : Nat) (caps : Capabilities) :
    c.vendorLoop bars n 0 caps = .ok caps := by
  cases n with
  | zero => rfl
  | succ n => rfl

/-- What a walk that ends does with a capability. -/
theorem vendorLoop_cases {n : Nat} {offset : BitVec 8} {caps found : Capabilities}
    (h : c.vendorLoop bars n offset caps = .ok found) :
    (offset = 0 ∧ found = caps) ∨ (offset ≠ 0 ∧ ∃ n' cfgType bar, n = n' + 1 ∧
      c.pciReadConfigByte (offset.toNat + 3) = some cfgType ∧
      c.pciReadConfigByte (offset.toNat + 4) = some bar ∧
      c.vendorLoop bars n' (c.nextVendor offset) (caps.record bars offset cfgType bar) =
        .ok found) := by
  by_cases hend : offset = 0
  · rw [hend, vendorLoop_zero] at h
    exact .inl ⟨hend, (Except.ok.inj h).symm⟩
  · cases n with
    | zero =>
      rw [ConfigSpace.vendorLoop, if_neg hend] at h
      cases h
    | succ n =>
      rw [ConfigSpace.vendorLoop, if_neg hend] at h
      split at h
      · rename_i cfgType bar htype hbar
        exact .inr ⟨hend, n, cfgType, bar, rfl, htype, hbar, h⟩
      · cases h

theorem vendorLoop_error {n : Nat} {offset : BitVec 8} {caps : Capabilities} {stop : InitStop}
    (h : c.vendorLoop bars n offset caps = .error stop) : stop = .noResult := by
  induction n generalizing offset caps with
  | zero =>
    unfold ConfigSpace.vendorLoop at h
    split at h
    · cases h
    · exact (Except.error.inj h).symm
  | succ n ih =>
    unfold ConfigSpace.vendorLoop at h
    split at h
    · cases h
    · split at h
      · exact ih h
      · exact (Except.error.inj h).symm

/-- A walk that ends got to the end of the list. -/
theorem vendorLoop_iterate {n : Nat} {offset : BitVec 8} {caps found : Capabilities}
    (h : c.vendorLoop bars n offset caps = .ok found) : ∃ k, c.nextVendor^[k] offset = 0 := by
  induction n generalizing offset caps with
  | zero =>
    obtain ⟨hend, -⟩ | ⟨-, n', -, -, hn, -⟩ := vendorLoop_cases h
    · exact ⟨0, hend⟩
    · omega
  | succ n ih =>
    obtain ⟨hend, -⟩ | ⟨-, n', cfgType, bar, hn, -, -, hrest⟩ := vendorLoop_cases h
    · exact ⟨0, hend⟩
    · obtain rfl : n = n' := by omega
      obtain ⟨k, hk⟩ := ih hrest
      exact ⟨k + 1, hk⟩

/-- It needs no more turns than it takes to get there. -/
theorem vendorLoop_turns {n k m : Nat} {offset : BitVec 8} {caps found : Capabilities}
    (h : c.vendorLoop bars n offset caps = .ok found) (hk : c.nextVendor^[k] offset = 0)
    (hkm : k ≤ m) : c.vendorLoop bars m offset caps = .ok found := by
  induction m generalizing n k offset caps with
  | zero =>
    obtain rfl : k = 0 := by omega
    obtain ⟨rfl, rfl⟩ | ⟨hend, -⟩ := vendorLoop_cases h
    · exact vendorLoop_zero _ _
    · exact absurd hk hend
  | succ m ih =>
    obtain ⟨rfl, rfl⟩ | ⟨hend, n', cfgType, bar, -, htype, hbar, hrest⟩ := vendorLoop_cases h
    · exact vendorLoop_zero _ _
    · cases k with
      | zero => exact absurd hk hend
      | succ k =>
        have hrest := ih hrest hk (by omega)
        rw [ConfigSpace.vendorLoop, if_neg hend, htype, hbar]
        exact hrest

theorem card_offset : Fintype.card (BitVec 8) = 256 := by
  rw [← FinEnum.card_eq_fintypeCard]
  rfl

/-- An offset is a byte, so that a list of capabilities with an end is walked in 256 turns. -/
theorem findPciVendorCapabilities_turns {n : Nat} {caps : Capabilities}
    (h : c.findPciVendorCapabilities bars n = .ok caps) :
    c.findPciVendorCapabilities bars 256 = .ok caps := by
  obtain ⟨n, hn⟩ := vendorLoop_iterate h
  obtain ⟨k, hk, hend⟩ := exists_iterate_lt_card hn
  rw [card_offset] at hk
  exact vendorLoop_turns h hend hk.le

/-- The converse, where no read fails. -/
theorem vendorLoop_returns (hreads : ∀ address length, c.fails address length = false) {n k : Nat}
    {offset : BitVec 8} (hk : c.nextVendor^[k] offset = 0) (hkn : k ≤ n) (caps : Capabilities) :
    ∃ found, c.vendorLoop bars n offset caps = .ok found := by
  induction n generalizing k offset caps with
  | zero =>
    obtain rfl : k = 0 := by omega
    obtain rfl : offset = 0 := hk
    exact ⟨caps, vendorLoop_zero 0 caps⟩
  | succ n ih =>
    by_cases hend : offset = 0
    · obtain rfl := hend
      exact ⟨caps, vendorLoop_zero _ caps⟩
    · cases k with
      | zero => exact absurd hk hend
      | succ k =>
        rw [ConfigSpace.vendorLoop, if_neg hend]
        simp only [ConfigSpace.pciReadConfigByte, hreads]
        exact ih (k := k) hk (by omega) _

theorem vioModernInitialize_turns {n : Nat} {mapped : Fin 5 → Option Nat}
    {result : ModernDevice × Bars} (h : vioModernInitialize c n bars mapped = .ok result) :
    vioModernInitialize c 256 bars mapped = .ok result := by
  obtain ⟨caps, hcaps, h⟩ := bind_eq_ok h
  rw [vioModernInitialize, findPciVendorCapabilities_turns hcaps]
  exact h

end

/-! ## When there is a result -/

section

variable {c : ConfigSpace} {bars : Bars}

/-- What is recorded is an offset whose capability has the type it is recorded for and names a BAR
that has bytes. -/
def Capabilities.Valid (c : ConfigSpace) (bars : Bars) (caps : Capabilities) : Prop :=
  ∀ i, caps i ≠ 0 → (c.content ((caps i).toNat + 3)).toNat = i.val ∧
    ∃ h : (c.capBar (caps i)).toNat < 6, 0 < (bars ⟨(c.capBar (caps i)).toNat, h⟩).size

theorem Capabilities.Valid.record {caps : Capabilities} (h : caps.Valid c bars)
    (offset : BitVec 8) :
    (caps.record bars offset (c.content (offset.toNat + 3)) (c.capBar offset)).Valid c bars := by
  unfold Capabilities.record
  split
  · rename_i hbar
    split
    · rename_i htype
      split
      · rename_i hsize
        intro i hi
        by_cases hcap : i = ⟨_, htype⟩
        · rw [hcap, Function.update_self]
          exact ⟨rfl, hbar, hsize⟩
        · rw [Function.update_of_ne hcap] at hi ⊢
          exact h i hi
      · exact h
    · exact h
  · exact h

theorem vendorLoop_valid {n : Nat} {offset : BitVec 8} {caps found : Capabilities}
    (h : c.vendorLoop bars n offset caps = .ok found) (hcaps : caps.Valid c bars) :
    found.Valid c bars := by
  induction n generalizing offset caps with
  | zero =>
    obtain ⟨-, rfl⟩ | ⟨-, n', -, -, hn, -⟩ := vendorLoop_cases h
    · exact hcaps
    · omega
  | succ n ih =>
    obtain ⟨-, rfl⟩ | ⟨-, n', cfgType, bar, hn, htype, hbar, hrest⟩ := vendorLoop_cases h
    · exact hcaps
    · obtain rfl : n = n' := by omega
      obtain rfl := pciReadConfigByte_some htype
      obtain rfl := pciReadConfigByte_some hbar
      exact ih hrest (hcaps.record offset)

theorem findPciVendorCapabilities_valid {n : Nat} {caps : Capabilities}
    (h : c.findPciVendorCapabilities bars n = .ok caps) : caps.Valid c bars :=
  vendorLoop_valid h fun _ hi => absurd rfl hi

theorem orInvalidParameter_avoids (x : Option MappedRange × Bars) :
    Avoids (· = .noResult) (orInvalidParameter x) := by
  obtain ⟨_ | r, bars'⟩ := x
  · exact .error (by decide)
  · exact .ok _

variable (hreads : ∀ address length, c.fails address length = false)

include hreads

theorem readCapBar_eq (cap : BitVec 8) : c.readCapBar cap = some (c.capBar cap) := by
  simp [ConfigSpace.readCapBar, ConfigSpace.pciReadConfigByte, ConfigSpace.capBar, hreads]

theorem readCapOffset_eq (cap : BitVec 8) : c.readCapOffset cap = some (c.capOffset cap) := by
  simp [ConfigSpace.readCapOffset, ConfigSpace.pciReadConfigDword, ConfigSpace.capOffset, hreads]

theorem readCapLength_eq (cap : BitVec 8) : c.readCapLength cap = some (c.capLength cap) := by
  simp [ConfigSpace.readCapLength, ConfigSpace.pciReadConfigDword, ConfigSpace.capLength, hreads]

/-- A capability that can be read and names a BAR has a pointer or none. -/
theorem vioModernMapCapability_avoids {cap : BitVec 8} (hcap : (c.capBar cap).toNat < 6)
    (minlen : Nat) (alignment start size : BitVec 32) (mapped : Option Nat) :
    Avoids (· = .noResult)
      (vioModernMapCapability c bars cap minlen alignment start size mapped) := by
  rw [vioModernMapCapability, readCapBar_eq hreads, readCapOffset_eq hreads,
    readCapLength_eq hreads]
  dsimp only [mapCapabilityFields]
  split
  · exact .ok _
  · split
    · exact .ok _
    -- the BAR is one of the six
    · split
      · exact .ok _
      · exact .ok _

theorem needed_avoids {cap : BitVec 8} (hcap : (c.capBar cap).toNat < 6) (minlen : Nat)
    (alignment start size : BitVec 32) (mapped : Option Nat) :
    Avoids (· = .noResult) (vioModernMapCapability c bars cap minlen alignment start size mapped >>=
      orInvalidParameter) := by
  apply (vioModernMapCapability_avoids hreads hcap minlen alignment start size mapped).bind
  intro x _
  exact orInvalidParameter_avoids x

theorem mapNotify_avoids {cap : BitVec 8} (hcap : (c.capBar cap).toNat < 6)
    (mapped : Option Nat) : Avoids (· = .noResult) (mapNotify c bars cap mapped) := by
  rw [mapNotify, readCapOffset_eq hreads, readCapLength_eq hreads]
  dsimp only
  split
  · apply (needed_avoids hreads hcap _ _ _ _ _).bind
    intro x _
    exact .ok _
  · exact .ok _

theorem mapConfig_avoids {cap : BitVec 8} (hcap : cap ≠ 0 → (c.capBar cap).toNat < 6)
    (mapped : Option Nat) : Avoids (· = .noResult) (mapConfig c bars cap mapped) := by
  unfold mapConfig
  split
  · exact .ok _
  · rename_i hpresent
    apply (needed_avoids hreads (hcap hpresent) _ _ _ _ _).bind
    intro x _
    exact .ok _

theorem initializeWith_avoids {caps : Capabilities} (hcaps : caps.Valid c bars)
    (mapped : Fin 5 → Option Nat) :
    Avoids (· = .noResult) (initializeWith c bars mapped caps) := by
  have hsix : ∀ i, caps i ≠ 0 → (c.capBar (caps i)).toNat < 6 := by
    intro i hi
    obtain ⟨-, hbar, -⟩ := hcaps i hi
    exact hbar
  unfold initializeWith
  split
  · exact .error (by decide)
  · rename_i hcommon
    split
    · exact .error (by decide)
    · rename_i hothers
      obtain ⟨hisr, hnotify⟩ := not_or.mp hothers
      apply (needed_avoids hreads (hsix _ hcommon) _ _ _ _ _).bind
      rintro ⟨common, bars₁⟩ -
      apply (needed_avoids hreads (hsix _ hisr) _ _ _ _ _).bind
      rintro ⟨isr, bars₂⟩ -
      apply (mapNotify_avoids hreads (hsix _ hnotify) _).bind
      rintro ⟨notifyBase, bars₃⟩ -
      apply (mapConfig_avoids hreads (hsix _) _).bind
      intro x _
      exact .ok _

/-- Where no read fails, `vio_modern_initialize` comes to a status unless the list of the
capabilities goes round: an index into `m_Bars` is one of its BARs. -/
theorem vioModernInitialize_avoids_iff (mapped : Fin 5 → Option Nat) :
    Avoids (· = .noResult) (vioModernInitialize c 256 bars mapped) ↔
      ∃ k, c.nextVendor^[k] c.findFirstPciVendorCapability = 0 := by
  constructor
  · intro hresult
    cases hcaps : c.findPciVendorCapabilities bars 256 with
    | ok caps => exact vendorLoop_iterate hcaps
    | error stop =>
      -- the walk has no other way to stop
      have hstop : stop = .noResult := vendorLoop_error hcaps
      refine absurd hstop (hresult stop ?_)
      rw [vioModernInitialize, hcaps, error_bind]
  · rintro ⟨n, hn⟩
    obtain ⟨k, hk, hend⟩ := exists_iterate_lt_card hn
    rw [card_offset] at hk
    obtain ⟨caps, hcaps⟩ := vendorLoop_returns hreads hend hk.le fun _ => 0
    have hcaps : c.findPciVendorCapabilities bars 256 = .ok caps := hcaps
    rw [vioModernInitialize, hcaps, ok_bind]
    exact initializeWith_avoids hreads (findPciVendorCapabilities_valid hcaps) mapped

end

end VioGpu.VirtIO
