import VioGpu.Lib.Search
import VioGpu.VirtIO.CapabilityWalk

/-!
# The list of the capabilities

The capabilities of the configuration space are linked cells: each has the pointer to the next one
in its second byte. `find_next_pci_vendor_capability` searches 48 of them for a vendor-specific one,
which are all there can be, and `find_pci_vendor_capabilities` goes on behind what it has found: it
comes to an end unless the list leads from a vendor-specific capability back to it. Where the list
ends, the capability kept for a type is the last of the list that has the type and can be used; the
first one is kept only if there is no other.
-/

namespace VioGpu.VirtIO

open Lib Device

namespace ConfigSpace

variable (c : ConfigSpace)

/-! ## The linked capabilities -/

/-- The capability that a pointer points to. The list ends, with 0, at a pointer into the header,
at an empty capability and where it cannot be read. -/
def capabilityAt (pointer : BitVec 8) : BitVec 8 :=
  if pointer < 0x40 then 0
  else
    let offset := pointer &&& ~~~3#8
    match c.pciReadConfigByte offset.toNat with
    | none => 0
    | some id => if id = 0xFF then 0 else offset

/-- The capability that the pointer at an address points to. -/
def linkedCapability (address : BitVec 8) : BitVec 8 :=
  match c.pciReadConfigByte address.toNat with
  | none => 0
  | some pointer => c.capabilityAt pointer

/-- The capability behind another one. -/
def nextCapability (offset : BitVec 8) : BitVec 8 :=
  if offset = 0 then 0 else c.linkedCapability (offset + 1)

/-- The capability the list starts with. -/
def firstCapability : BitVec 8 :=
  match c.pciReadConfigByte 0x0E, c.pciReadConfigWord 0x06 with
  | some hdrType, some status =>
    if status &&& 0x10 = 0 then 0
    else c.linkedCapability (capabilitiesPtr (hdrType &&& ~~~0x80#8))
  | _, _ => 0

/-- The capability is vendor-specific. -/
def IsVendor (offset : BitVec 8) : Prop :=
  offset ≠ 0 ∧ c.pciReadConfigByte offset.toNat = some pciCapabilityIdVendorSpecific

instance (offset : BitVec 8) : Decidable (c.IsVendor offset) :=
  inferInstanceAs (Decidable (_ ∧ _))

/-- The list leads from a vendor-specific capability back to it. -/
def VendorCycle : Prop := Loops c.nextCapability c.IsVendor c.firstCapability

/-- The capabilities of a list that ends, in its order. -/
def CapabilityList (l : List (BitVec 8)) : Prop :=
  Follows c.nextCapability c.firstCapability l 0 ∧ 0 ∉ l

/-- Where a capability can be: behind the header, at a multiple of 4. -/
def capabilityOffsets : Finset (BitVec 8) :=
  (Finset.range 48).image fun i => BitVec.ofNat 8 (0x40 + 4 * i)

theorem card_capabilityOffsets : capabilityOffsets.card ≤ 48 := by
  have h := Finset.card_image_le (s := Finset.range 48)
    (f := fun i => BitVec.ofNat 8 (0x40 + 4 * i))
  rwa [Finset.card_range] at h

theorem masked_mem {pointer : BitVec 8} (h : ¬ pointer < 0x40) :
    pointer &&& ~~~3#8 ∈ capabilityOffsets := by
  have hmask : ∀ p : BitVec 8, ¬ p < 0x40 → (p &&& ~~~3#8).toNat / 4 - 16 < 48 ∧
      BitVec.ofNat 8 (0x40 + 4 * ((p &&& ~~~3#8).toNat / 4 - 16)) = p &&& ~~~3#8 := by
    decide +kernel
  obtain ⟨hlt, heq⟩ := hmask pointer h
  exact Finset.mem_image.mpr ⟨_, Finset.mem_range.mpr hlt, heq⟩

theorem masked_ne_zero {pointer : BitVec 8} (h : ¬ pointer < 0x40) : pointer &&& ~~~3#8 ≠ 0 := by
  have hmask : ∀ p : BitVec 8, ¬ p < 0x40 → p &&& ~~~3#8 ≠ 0 := by
    decide +kernel
  exact hmask pointer h

theorem masked_add_one (pointer : BitVec 8) :
    ((pointer &&& ~~~3#8) + 1).toNat = (pointer &&& ~~~3#8).toNat + 1 := by
  have hmask : ∀ p : BitVec 8, ((p &&& ~~~3#8) + 1).toNat = (p &&& ~~~3#8).toNat + 1 := by
    decide +kernel
  exact hmask pointer

variable {c}

theorem capabilityAt_mem (pointer : BitVec 8) :
    c.capabilityAt pointer ∈ capabilityOffsets ∨ c.capabilityAt pointer = 0 := by
  unfold capabilityAt
  split_ifs with hlow
  · exact .inr rfl
  · dsimp only
    split
    · exact .inr rfl
    · split_ifs
      · exact .inr rfl
      · exact .inl (masked_mem hlow)

theorem linkedCapability_mem (address : BitVec 8) :
    c.linkedCapability address ∈ capabilityOffsets ∨ c.linkedCapability address = 0 := by
  unfold linkedCapability
  split
  · exact .inr rfl
  · exact capabilityAt_mem _

theorem nextCapability_mem (offset : BitVec 8) :
    c.nextCapability offset ∈ capabilityOffsets ∨ c.nextCapability offset = 0 := by
  unfold nextCapability
  split_ifs
  · exact .inr rfl
  · exact linkedCapability_mem _

theorem firstCapability_mem :
    c.firstCapability ∈ capabilityOffsets ∨ c.firstCapability = 0 := by
  unfold firstCapability
  split
  · split_ifs
    · exact .inr rfl
    · exact linkedCapability_mem _
  · exact .inr rfl

@[simp] theorem nextCapability_zero : c.nextCapability 0 = 0 := rfl

theorem not_isVendor_zero : ¬ c.IsVendor 0 := fun h => h.1 rfl

/-! ## The walk is a search -/

@[simp] theorem search_zero (n : Nat) : search c.nextCapability c.IsVendor 0 n 0 = 0 := by
  cases n with
  | zero => rfl
  | succ n => rfl

theorem nextVendorLoop_eq (n : Nat) (pointer : BitVec 8) :
    c.nextVendorLoop n pointer =
      search c.nextCapability c.IsVendor 0 n (c.capabilityAt pointer) := by
  induction n generalizing pointer with
  | zero => rfl
  | succ n ih =>
    rw [nextVendorLoop, capabilityAt]
    split_ifs with hlow
    · rfl
    · dsimp only
      cases hid : c.pciReadConfigByte (pointer &&& ~~~3#8).toNat with
      | none => rfl
      | some id =>
        dsimp only
        split_ifs with hempty hvendor
        · rfl
        · have hkind : c.IsVendor (pointer &&& ~~~3#8) :=
            ⟨masked_ne_zero hlow, by rw [hid, hvendor]⟩
          rw [search, if_neg (masked_ne_zero hlow), if_pos hkind]
        · have hkind : ¬ c.IsVendor (pointer &&& ~~~3#8) := by
            rintro ⟨-, h⟩
            rw [hid] at h
            exact hvendor (Option.some.inj h)
          rw [search, if_neg (masked_ne_zero hlow), if_neg hkind, nextCapability,
            if_neg (masked_ne_zero hlow), linkedCapability, masked_add_one]
          cases c.pciReadConfigByte ((pointer &&& ~~~3#8).toNat + 1) with
          | none => exact (search_zero n).symm
          | some next => exact ih next

theorem findNextPciVendorCapability_eq (address : BitVec 8) :
    c.findNextPciVendorCapability address =
      search c.nextCapability c.IsVendor 0 48 (c.linkedCapability address) := by
  rw [findNextPciVendorCapability, linkedCapability]
  cases c.pciReadConfigByte address.toNat with
  | none => rfl
  | some pointer => exact nextVendorLoop_eq 48 pointer

theorem nextVendor_eq {offset : BitVec 8} (h : offset ≠ 0) :
    c.nextVendor offset =
      search c.nextCapability c.IsVendor 0 48 (c.nextCapability offset) := by
  rw [nextVendor, findNextPciVendorCapability_eq, nextCapability, if_neg h]

theorem findFirstPciVendorCapability_eq :
    c.findFirstPciVendorCapability =
      search c.nextCapability c.IsVendor 0 48 c.firstCapability := by
  rw [findFirstPciVendorCapability, firstCapability]
  cases c.pciReadConfigByte 0x0E with
  | none => rfl
  | some hdrType =>
    cases c.pciReadConfigWord 0x06 with
    | none => rfl
    | some status =>
      dsimp only
      split_ifs
      · rfl
      · exact findNextPciVendorCapability_eq _

/-! ## The turns of `find_pci_vendor_capabilities` -/

variable (c) in
/-- The offsets that the loop of `find_pci_vendor_capabilities` has a turn for, if it is over after
`fuel` turns. A read that fails in a turn does not end it. -/
def vendorTurns : Nat → BitVec 8 → Option (List (BitVec 8))
  | 0, offset => if offset = 0 then some [] else none
  | fuel + 1, offset =>
    if offset = 0 then some []
    else (vendorTurns fuel (c.nextVendor offset)).map (offset :: ·)

variable (c) in
/-- `find_pci_vendor_capabilities` terminates. -/
def Terminates : Prop :=
  ∃ fuel offsets, c.vendorTurns fuel c.findFirstPciVendorCapability = some offsets

theorem exists_vendorTurns_iff {offset : BitVec 8} :
    (∃ fuel offsets, c.vendorTurns fuel offset = some offsets) ↔
      ∃ k, c.nextVendor^[k] offset = 0 := by
  constructor
  · intro hturns
    obtain ⟨fuel, offsets, h⟩ := hturns
    induction fuel generalizing offset offsets with
    | zero =>
      rw [vendorTurns] at h
      split_ifs at h with hend
      exact ⟨0, hend⟩
    | succ fuel ih =>
      rw [vendorTurns] at h
      split_ifs at h with hend
      · exact ⟨0, hend⟩
      · obtain ⟨rest, hrest, -⟩ := Option.map_eq_some_iff.mp h
        obtain ⟨k, hk⟩ := ih rest hrest
        exact ⟨k + 1, hk⟩
  · intro hends
    obtain ⟨k, hk⟩ := hends
    induction k generalizing offset with
    | zero => exact ⟨0, [], if_pos hk⟩
    | succ k ih =>
      obtain ⟨fuel, offsets, h⟩ := ih hk
      by_cases hend : offset = 0
      · exact ⟨0, [], if_pos hend⟩
      · refine ⟨fuel + 1, offset :: offsets, ?_⟩
        rw [vendorTurns, if_neg hend, h]
        rfl

/-- What the loop does in its turns, where the reads do not fail. -/
theorem vendorLoop_eq_turns {bars : Bars}
    (hreads : ∀ address length, c.fails address length = false)
    (fuel : Nat) (offset : BitVec 8) (caps : Capabilities) :
    c.vendorLoop bars fuel offset caps =
      match c.vendorTurns fuel offset with
      | none => .error .noResult
      | some offsets => .ok (offsets.foldl (fun caps o =>
          caps.record bars o (c.content (o.toNat + 3)) (c.capBar o)) caps) := by
  induction fuel generalizing offset caps with
  | zero =>
    rw [vendorLoop, vendorTurns]
    split_ifs
    · rfl
    · rfl
  | succ fuel ih =>
    rw [vendorLoop, vendorTurns]
    split_ifs
    · rfl
    · simp only [pciReadConfigByte, hreads]
      refine (ih (c.nextVendor offset) _).trans ?_
      cases c.vendorTurns fuel (c.nextVendor offset) with
      | none => rfl
      | some offsets => rfl

/-- `find_pci_vendor_capabilities` terminates if and only if the list of the capabilities does not
lead from a vendor-specific one back to it. -/
theorem findPciVendorCapabilities_terminates_iff (c : ConfigSpace) :
    c.Terminates ↔ ¬ c.VendorCycle := by
  rw [Terminates, exists_vendorTurns_iff, findFirstPciVendorCapability_eq]
  exact searches_end_iff nextCapability_zero not_isVendor_zero card_capabilityOffsets
    nextCapability_mem (fun v hv => nextVendor_eq hv) firstCapability_mem

/-- A configuration space with a vendor-specific capability at 0x40 that is linked to itself. -/
def selfLinked : ConfigSpace where
  content address :=
    if address = 0x06 then 0x10 else if address = 0x34 then 0x40
    else if address = 0x40 then 0x09 else if address = 0x41 then 0x40 else 0
  fails _ _ := false

theorem not_terminates_selfLinked : ¬ ∀ c : ConfigSpace, c.Terminates := by
  intro h
  obtain ⟨k, hk⟩ := exists_vendorTurns_iff.mp (h selfLinked)
  have hfirst : selfLinked.findFirstPciVendorCapability = 0x40 := by decide
  have hnext : selfLinked.nextVendor 0x40 = 0x40 := by decide
  rw [hfirst, Function.iterate_fixed hnext] at hk
  exact absurd hk (by decide)

/-! ## What is kept of the list -/

section Kept

variable {bars : Bars}

variable (c bars) in
/-- The capability can be used for a type: it is vendor-specific, has the type and names a BAR that
has bytes. -/
def Describes (i : Fin 5) (offset : BitVec 8) : Prop :=
  c.IsVendor offset ∧ (c.content (offset.toNat + 3)).toNat = i.val ∧
    ∃ h : (c.capBar offset).toNat < 6, 0 < (bars ⟨(c.capBar offset).toNat, h⟩).size

instance (i : Fin 5) (offset : BitVec 8) : Decidable (c.Describes bars i offset) :=
  inferInstanceAs (Decidable (_ ∧ _ ∧ ∃ _, _))

variable (c bars) in
/-- The first capability of a list that can be used for a type; 0 if there is none. -/
def firstDescribing (l : List (BitVec 8)) (i : Fin 5) : BitVec 8 :=
  (l.find? fun offset => c.Describes bars i offset).getD 0

variable (c bars) in
/-- The last one. -/
def lastDescribing (l : List (BitVec 8)) (i : Fin 5) : BitVec 8 :=
  (l.filter fun offset => c.Describes bars i offset).getLast?.getD 0

variable (c bars) in
/-- A turn of the loop, with what it reads. -/
def recordCapability (caps : Capabilities) (offset : BitVec 8) : Capabilities :=
  caps.record bars offset (c.content (offset.toNat + 3)) (c.capBar offset)

theorem recordCapability_apply {offset : BitVec 8} (h : c.IsVendor offset) (caps : Capabilities)
    (i : Fin 5) :
    c.recordCapability bars caps offset i =
      if c.Describes bars i offset then offset else caps i := by
  unfold recordCapability Capabilities.record
  by_cases hdescribes : c.Describes bars i offset
  · rw [if_pos hdescribes]
    obtain ⟨-, htype, hbar, hsize⟩ := hdescribes
    have hlt : (c.content (offset.toNat + 3)).toNat < 5 := htype ▸ i.isLt
    have hi : i = ⟨_, hlt⟩ := Fin.ext htype.symm
    rw [dif_pos hbar, dif_pos hlt, if_pos hsize, hi, Function.update_self]
  · rw [if_neg hdescribes]
    split_ifs with hbar htype hsize
    · refine Function.update_of_ne (fun hi => hdescribes ⟨h, ?_, hbar, hsize⟩) _ _
      rw [hi]
    · rfl
    · rfl
    · rfl

theorem foldl_recordCapability {l : List (BitVec 8)} (hl : ∀ o ∈ l, c.IsVendor o)
    (caps : Capabilities) (i : Fin 5) :
    l.foldl (c.recordCapability bars) caps i =
      (l.filter fun o => c.Describes bars i o).getLast?.getD (caps i) := by
  induction l generalizing caps with
  | nil => rfl
  | cons o l ih =>
    have hrest := ih (fun x hx => hl x (List.mem_cons_of_mem o hx)) (c.recordCapability bars caps o)
    rw [List.foldl_cons, hrest, recordCapability_apply (hl o List.mem_cons_self)]
    by_cases hdescribes : c.Describes bars i o
    · rw [if_pos hdescribes, List.filter_cons_of_pos (by simpa using hdescribes),
        List.getLast?_cons]
      rfl
    · rw [if_neg hdescribes, List.filter_cons_of_neg (by simpa using hdescribes)]

/-- Each vendor-specific capability of a list that ends has its turn, in order. -/
theorem vendorTurns_of_follows {fuel : Nat} {a : BitVec 8} {l : List (BitVec 8)}
    (h : Follows c.nextCapability a l 0) (hnot : 0 ∉ l) (hlen : l.length ≤ 48)
    (hfuel : l.length ≤ fuel) :
    c.vendorTurns fuel (search c.nextCapability c.IsVendor 0 48 a) =
      some (l.filter fun o => c.IsVendor o) := by
  induction fuel generalizing a l with
  | zero =>
    obtain rfl : l = [] := List.eq_nil_of_length_eq_zero (by omega)
    obtain rfl : a = 0 := h
    rw [search_zero]
    rfl
  | succ fuel ih =>
    obtain ⟨hend, hnone⟩ | ⟨v, l', hv, hne, hfilter, hwalk, hnot', hlt⟩ :=
      search_follows (P := c.IsVendor) h hnot hlen
    · rw [hend, hnone, vendorTurns, if_pos rfl]
    · rw [hv, hfilter, vendorTurns, if_neg hne, nextVendor_eq hne,
        ih hwalk hnot' (by omega) (by omega)]
      rfl

theorem CapabilityList.length_le {l : List (BitVec 8)} (h : c.CapabilityList l) :
    l.length ≤ 48 := by
  obtain ⟨hwalk, hnot⟩ := h
  have hcard := hwalk.length_le hnot (iterate_mem nextCapability_mem firstCapability_mem)
  exact hcard.trans card_capabilityOffsets

theorem CapabilityList.nodup {l : List (BitVec 8)} (h : c.CapabilityList l) : l.Nodup :=
  h.1.nodup h.2

/-- Of each type the last capability of the list is kept. -/
theorem findPciVendorCapabilities_eq_last
    (hreads : ∀ address length, c.fails address length = false)
    {l : List (BitVec 8)} (hl : c.CapabilityList l) {fuel : Nat} (hfuel : 48 ≤ fuel) :
    c.findPciVendorCapabilities bars fuel = .ok (c.lastDescribing bars l) := by
  have hturns := vendorTurns_of_follows hl.1 hl.2 hl.length_le (hl.length_le.trans hfuel)
  rw [findPciVendorCapabilities, vendorLoop_eq_turns hreads, findFirstPciVendorCapability_eq,
    hturns]
  refine congrArg Except.ok ?_
  ext i : 1
  have hvendors : ∀ o ∈ l.filter fun o => c.IsVendor o, c.IsVendor o := by
    intro o ho
    simpa using List.of_mem_filter ho
  have hkept : ∀ o, (decide (c.Describes bars i o) && decide (c.IsVendor o)) =
      decide (c.Describes bars i o) := by
    intro o
    by_cases h : c.Describes bars i o
    · simp [h, h.1]
    · simp [h]
  refine (foldl_recordCapability hvendors _ i).trans ?_
  rw [List.filter_filter, lastDescribing]
  simp only [hkept]

/-- The last one of some is the first one if and only if it is the only one. -/
theorem lastDescribing_eq_first_iff {l : List (BitVec 8)} (hl : c.CapabilityList l) (i : Fin 5) :
    c.lastDescribing bars l i = c.firstDescribing bars l i ↔
      (l.filter fun offset => c.Describes bars i offset).length ≤ 1 := by
  have hnodup := hl.nodup.filter fun offset => decide (c.Describes bars i offset)
  rw [lastDescribing, firstDescribing, ← List.head?_filter]
  cases hkept : l.filter fun offset => decide (c.Describes bars i offset) with
  | nil => simp
  | cons o rest =>
    rw [hkept, List.nodup_cons] at hnodup
    cases rest with
    | nil => simp
    | cons o' rest =>
      -- the last of several is another one than the first
      have hlast := List.getLast_mem (List.cons_ne_nil o' rest)
      constructor
      · intro h
        have hcell : (o' :: rest).getLast (List.cons_ne_nil o' rest) = o := by
          simpa [List.getLast?_eq_some_getLast] using h
        exact absurd (hcell ▸ hlast) hnodup.1
      · intro h
        simp at h

/-- For each type the first capability of the list is kept, if and only if there is no other one of
the type. -/
theorem findPciVendorCapabilities_first_iff
    (hreads : ∀ address length, c.fails address length = false)
    {l : List (BitVec 8)} (hl : c.CapabilityList l) (bars : Bars) :
    (∃ caps, (∃ fuel, c.findPciVendorCapabilities bars fuel = .ok caps) ∧
        ∀ i, caps i = c.firstDescribing bars l i) ↔
      ∀ i, (l.filter fun offset => c.Describes bars i offset).length ≤ 1 := by
  constructor
  · intro hfound i
    obtain ⟨caps, ⟨fuel, hcaps⟩, hfirst⟩ := hfound
    have hturns := findPciVendorCapabilities_turns hcaps
    rw [findPciVendorCapabilities_eq_last hreads hl (by decide)] at hturns
    rw [← lastDescribing_eq_first_iff hl, Except.ok.inj hturns]
    exact hfirst i
  · intro hone
    refine ⟨_, ⟨48, findPciVendorCapabilities_eq_last hreads hl le_rfl⟩, fun i => ?_⟩
    exact (lastDescribing_eq_first_iff hl i).mpr (hone i)

/-- A configuration space with two vendor-specific capabilities, of type 1 at 0x40 and of the given
type at 0x50. -/
def twoCapabilities (cfgType : BitVec 8) : ConfigSpace where
  content address :=
    if address = 0x06 then 0x10 else if address = 0x34 then 0x40
    else if address = 0x40 then 0x09 else if address = 0x41 then 0x50 else if address = 0x43 then 1
    else if address = 0x50 then 0x09 else if address = 0x53 then cfgType else 0
  fails _ _ := false

/-- BARs of a page each. -/
def pageBars : Bars := fun _ => .new 0 4096 false true

theorem twoCapabilities_list {cfgType : BitVec 8} (h : cfgType = 1 ∨ cfgType = 2) :
    (twoCapabilities cfgType).CapabilityList [0x40, 0x50] := by
  obtain rfl | rfl := h
  · exact ⟨⟨by decide, by decide, follows_nil.mpr (by decide)⟩, by decide⟩
  · exact ⟨⟨by decide, by decide, follows_nil.mpr (by decide)⟩, by decide⟩

theorem findPciVendorCapabilities_first_two : ∃ caps,
    (∃ fuel, (twoCapabilities 2).findPciVendorCapabilities pageBars fuel = .ok caps) ∧
      ∀ i, caps i = (twoCapabilities 2).firstDescribing pageBars [0x40, 0x50] i :=
  (findPciVendorCapabilities_first_iff (fun _ _ => rfl) (twoCapabilities_list (.inr rfl))
    pageBars).mpr
    (by decide)

theorem not_findPciVendorCapabilities_first : ¬ ∀ (c : ConfigSpace) (bars : Bars)
    (l : List (BitVec 8)), (∀ address length, c.fails address length = false) →
      c.CapabilityList l → ∀ fuel caps, c.findPciVendorCapabilities bars fuel = .ok caps →
        ∀ i, caps i = c.firstDescribing bars l i := by
  intro h
  have hlast : (twoCapabilities 1).findPciVendorCapabilities pageBars 48 =
      .ok ((twoCapabilities 1).lastDescribing pageBars [0x40, 0x50]) :=
    findPciVendorCapabilities_eq_last (fun _ _ => rfl) (twoCapabilities_list (.inl rfl)) le_rfl
  have hfirst := h (twoCapabilities 1) pageBars _ (fun _ _ => rfl)
    (twoCapabilities_list (.inl rfl)) 48 _
    hlast 1
  exact absurd hfirst (by decide)

end Kept

end ConfigSpace

end VioGpu.VirtIO
