import Mathlib.Data.List.FinRange
import VioGpu.Device.PciResources

/-!
# The BAR that has an address

`virtio_get_bar_index` takes one or two dwords of the header at a time, and so passes over the upper
halves: what it returns is the first slot that starts a BAR and has the address. It does not ask
whether there is a dword behind the last slot. If that one starts a 64-bit BAR, the dword behind the
array is read for its upper half.
-/

namespace VioGpu.Device

namespace PciHeader

variable (h : PciHeader)

/-- The slot has the type of 64-bit memory. -/
def Is64Bit (i : Fin 6) : Prop :=
  h.baseAddresses i &&& 0x01 = 0 ∧ h.baseAddresses i &&& 0x06 = 0x04

instance (i : Fin 6) : Decidable (h.Is64Bit i) := inferInstanceAs (Decidable (_ ∧ _))

/-- The slot starts a BAR: it is not the upper half of the one before. -/
def startsBar : Nat → Bool
  | 0 => true
  | i + 1 => if hi : i < 6 then !(startsBar i && decide (h.Is64Bit ⟨i, hi⟩)) else true

/-- The base address of the BAR that starts at a slot. There is none if its upper half would lie
behind the six slots. -/
def decodedBase (i : Fin 6) : Option (BitVec 64) :=
  let low := h.baseAddresses i
  if low &&& 0x01 ≠ 0 then some (0#32 ++ (low &&& 0xFFFFFFFC))
  else if h.Is64Bit i then
    if hi : i.val + 1 < 6 then some (h.baseAddresses ⟨i.val + 1, hi⟩ ++ (low &&& 0xFFFFFFF0))
    else none
  else some (0#32 ++ (low &&& 0xFFFFFFF0))

/-- The slot starts a BAR with the address. -/
def HasBase (basePA : BitVec 64) (i : Fin 6) : Prop :=
  h.startsBar i = true ∧ h.decodedBase i = some basePA

instance (basePA : BitVec 64) (i : Fin 6) : Decidable (h.HasBase basePA i) :=
  inferInstanceAs (Decidable (_ ∧ _))

/-- The index is that of the first BAR with the address; `none` is for an address no BAR has. -/
def IsFirstBar (basePA : BitVec 64) : Option (Fin 6) → Prop
  | some i => h.HasBase basePA i ∧ ∀ j < i, ¬ h.HasBase basePA j
  | none => ∀ j, ¬ h.HasBase basePA j

/-! ## What the loop compares and reads -/

/-- `BAR.QuadPart` -/
def quadPart (i : Fin 6) : BitVec 64 :=
  let low := h.baseAddresses i
  if low &&& 0x01 ≠ 0 then 0#32 ++ (low &&& 0xFFFFFFFC)
  else if low &&& 0x06 = 0x04 then h.nextAddress i ++ (low &&& 0xFFFFFFF0)
  else 0#32 ++ (low &&& 0xFFFFFFF0)

/-- The dwords that the loop reads, counted from the first base address. -/
def barIndexReads (basePA : BitVec 64) : Bool → List (Fin 6) → List Nat
  | _, [] => []
  | true, _ :: slots => barIndexReads basePA false slots
  | false, i :: slots =>
    i.val :: ((if h.Is64Bit i then [i.val + 1] else []) ++
      if h.quadPart i = basePA then [] else barIndexReads basePA (decide (h.Is64Bit i)) slots)

/-- The dwords that `virtio_get_bar_index` reads. -/
def virtioGetBarIndexReads (basePA : BitVec 64) : List Nat :=
  h.barIndexReads basePA false (List.finRange 6)

variable {h} {basePA : BitVec 64}

theorem barIndexLoop_cons (i : Fin 6) (slots : List (Fin 6)) :
    h.barIndexLoop basePA false (i :: slots) =
      if h.quadPart i = basePA then some i
      else h.barIndexLoop basePA (decide (h.Is64Bit i)) slots := by
  have hio : h.baseAddresses i &&& 0x01 ≠ 0 → ¬ h.Is64Bit i := fun hio h64 => hio h64.1
  rw [barIndexLoop, quadPart]
  by_cases hlow : h.baseAddresses i &&& 0x01 ≠ 0
  · rw [if_pos hlow, if_pos hlow, decide_eq_false (hio hlow)]
  · rw [if_neg hlow, if_neg hlow]
    by_cases h64 : h.baseAddresses i &&& 0x06 = 0x04
    · have h64' : h.Is64Bit i := ⟨not_not.mp hlow, h64⟩
      rw [if_pos h64, if_pos h64, decide_eq_true h64']
    · have h64' : ¬ h.Is64Bit i := fun h' => h64 h'.2
      rw [if_neg h64, if_neg h64, decide_eq_false h64']

/-- The comparison is with the address of the BAR, except for a 64-bit BAR in the last slot. -/
theorem quadPart_eq_iff {i : Fin 6} (hlast : i = 5 → ¬ h.Is64Bit i) :
    h.quadPart i = basePA ↔ h.decodedBase i = some basePA := by
  unfold quadPart decodedBase
  by_cases hlow : h.baseAddresses i &&& 0x01 ≠ 0
  · rw [if_pos hlow, if_pos hlow, Option.some.injEq]
  · rw [if_neg hlow, if_neg hlow]
    by_cases h64 : h.baseAddresses i &&& 0x06 = 0x04
    · have h64' : h.Is64Bit i := ⟨not_not.mp hlow, h64⟩
      have hi : i.val + 1 < 6 := by
        by_contra hi
        exact hlast (Fin.ext (by have := i.isLt; omega)) h64'
      rw [if_pos h64, if_pos h64', dif_pos hi, nextAddress, dif_pos hi, Option.some.injEq]
    · have h64' : ¬ h.Is64Bit i := fun h' => h64 h'.2
      rw [if_neg h64, if_neg h64', Option.some.injEq]

theorem startsBar_succ (i : Fin 6) :
    h.startsBar (i.val + 1) = !(h.startsBar i && decide (h.Is64Bit i)) := by
  rw [startsBar, dif_pos i.isLt]

/-- The slot that the loop stops at. -/
def Found (h : PciHeader) (basePA : BitVec 64) (i : Fin 6) : Prop :=
  h.startsBar i = true ∧ h.quadPart i = basePA

instance (i : Fin 6) : Decidable (h.Found basePA i) := inferInstanceAs (Decidable (_ ∧ _))

/-- The slots from one on: the first of them, and those behind it. -/
theorem drop_finRange {n : Nat} {i : Fin 6} {slots : List (Fin 6)}
    (hs : (List.finRange 6).drop n = i :: slots) :
    i.val = n ∧ slots = (List.finRange 6).drop (n + 1) := by
  have hn : n < 6 := by
    by_contra hn
    rw [List.drop_eq_nil_of_le (by simpa using hn)] at hs
    cases hs
  rw [List.drop_eq_getElem_cons (by simpa using hn)] at hs
  obtain ⟨hi, hrest⟩ := List.cons.inj hs
  rw [← hi]
  exact ⟨by simp, hrest.symm⟩

theorem barIndexLoop_eq_find {n : Nat} {slots : List (Fin 6)}
    (hs : (List.finRange 6).drop n = slots) :
    h.barIndexLoop basePA (!h.startsBar n) slots = slots.find? fun i => h.Found basePA i := by
  induction slots generalizing n with
  | nil =>
    cases !h.startsBar n with
    | false => rfl
    | true => rfl
  | cons i slots ih =>
    obtain ⟨rfl, hrest⟩ := drop_finRange hs
    have ih := ih hrest.symm
    rw [startsBar_succ, Bool.not_not] at ih
    cases hstart : h.startsBar i with
    | false =>
      rw [hstart, Bool.false_and] at ih
      rw [List.find?_cons_of_neg (by simp [Found, hstart])]
      exact ih
    | true =>
      rw [hstart, Bool.true_and] at ih
      rw [Bool.not_true, barIndexLoop_cons, ih]
      by_cases hbase : h.quadPart i = basePA
      · rw [if_pos hbase, List.find?_cons_of_pos (by simp [Found, hstart, hbase])]
      · rw [if_neg hbase, List.find?_cons_of_neg (by simp [Found, hbase])]

theorem virtioGetBarIndex_eq_find :
    h.virtioGetBarIndex basePA = (List.finRange 6).find? fun i => h.Found basePA i :=
  barIndexLoop_eq_find (n := 0) rfl

/-- The loop comes to a slot, from another one on. -/
def Reaches (h : PciHeader) (basePA : BitVec 64) (n : Nat) (k : Fin 6) : Prop :=
  n ≤ k ∧ h.startsBar k = true ∧ ∀ j : Fin 6, n ≤ j → j < k → ¬ h.Found basePA j

theorem reaches_self {i : Fin 6} (hstart : h.startsBar i = true) : h.Reaches basePA i i :=
  ⟨le_rfl, hstart, fun _ hj hji => absurd hji (by omega)⟩

theorem reaches_iff (i k : Fin 6) :
    h.Reaches basePA i k ↔
      (i = k ∧ h.startsBar i = true) ∨ (¬ h.Found basePA i ∧ h.Reaches basePA (i.val + 1) k) := by
  constructor
  · intro hreach
    obtain ⟨hik, hstart, hbefore⟩ := hreach
    obtain rfl | hne := eq_or_ne i k
    · exact .inl ⟨rfl, hstart⟩
    · have hlt : i < k := by have := Fin.val_ne_of_ne hne; omega
      exact .inr ⟨hbefore i le_rfl hlt, hlt, hstart, fun j hj => hbefore j (by omega)⟩
  · intro hcases
    obtain ⟨rfl, hstart⟩ | ⟨hpass, hik, hstart, hbefore⟩ := hcases
    · exact reaches_self hstart
    · refine ⟨by omega, hstart, fun j hj hjk => ?_⟩
      obtain rfl | hne := eq_or_ne i j
      · exact hpass
      · exact hbefore j (by have := Fin.val_ne_of_ne hne; omega) hjk

/-- A dword is read as the start of a BAR that the loop comes to, or behind it. -/
theorem mem_barIndexReads_iff {n m : Nat} {slots : List (Fin 6)}
    (hs : (List.finRange 6).drop n = slots) :
    m ∈ h.barIndexReads basePA (!h.startsBar n) slots ↔
      ∃ k, h.Reaches basePA n k ∧ (m = k ∨ h.Is64Bit k ∧ m = k.val + 1) := by
  induction slots generalizing n with
  | nil =>
    have hn : 6 ≤ n := by simpa using hs
    have hnone : m ∉ h.barIndexReads basePA (!h.startsBar n) [] := by
      cases !h.startsBar n with
      | false => exact List.not_mem_nil
      | true => exact List.not_mem_nil
    refine ⟨fun hm => absurd hm hnone, ?_⟩
    rintro ⟨k, ⟨hk, -⟩, -⟩
    exact absurd k.isLt (by omega)
  | cons i slots ih =>
    obtain ⟨rfl, hrest⟩ := drop_finRange hs
    have ih := ih hrest.symm
    rw [startsBar_succ, Bool.not_not] at ih
    simp only [reaches_iff i]
    cases hstart : h.startsBar i with
    | false =>
      have hpass : ¬ h.Found basePA i :=
        fun hfound => absurd (hstart.symm.trans hfound.1) (by decide)
      rw [hstart, Bool.false_and] at ih
      simp only [Bool.false_eq_true, and_false, false_or, hpass, not_false_eq_true, true_and]
      exact ih
    | true =>
      rw [hstart, Bool.true_and] at ih
      have hfound : h.Found basePA i ↔ h.quadPart i = basePA := and_iff_right hstart
      have hslot : m ∈ (if h.Is64Bit i then [i.val + 1] else []) ↔ h.Is64Bit i ∧ m = i.val + 1 := by
        by_cases h64 : h.Is64Bit i
        · simp [h64]
        · simp [h64]
      have hrest : m ∈ (if h.quadPart i = basePA then []
          else h.barIndexReads basePA (decide (h.Is64Bit i)) slots) ↔
          ¬ h.Found basePA i ∧
            ∃ k, h.Reaches basePA (i.val + 1) k ∧ (m = k ∨ h.Is64Bit k ∧ m = k.val + 1) := by
        rw [hfound]
        by_cases hbase : h.quadPart i = basePA
        · simp [hbase]
        · rw [if_neg hbase, ih]
          exact (and_iff_right hbase).symm
      rw [Bool.not_true, barIndexReads, List.mem_cons, List.mem_append, hslot, hrest]
      constructor
      · intro hread
        obtain hm | hm | ⟨hpass, k, hk, hm⟩ := hread
        · exact ⟨i, .inl ⟨rfl, rfl⟩, .inl hm⟩
        · exact ⟨i, .inl ⟨rfl, rfl⟩, .inr hm⟩
        · exact ⟨k, .inr ⟨hpass, hk⟩, hm⟩
      · intro hslot
        obtain ⟨k, ⟨rfl, -⟩ | ⟨hpass, hk⟩, hm⟩ := hslot
        · exact hm.imp_right .inl
        · exact .inr (.inr ⟨hpass, k, hk, hm⟩)

/-- The dword behind the six is read if and only if the last slot starts a BAR of 64-bit memory and
no slot before it has stopped the loop. -/
theorem reads_six_iff :
    (∀ m ∈ h.virtioGetBarIndexReads basePA, m < 6) ↔
      ¬ (h.startsBar 5 = true ∧ h.Is64Bit 5 ∧ ∀ j < 5, ¬ h.Found basePA j) := by
  have hmem : ∀ m, m ∈ h.virtioGetBarIndexReads basePA ↔
      ∃ k, h.Reaches basePA 0 k ∧ (m = k ∨ h.Is64Bit k ∧ m = k.val + 1) :=
    fun m => mem_barIndexReads_iff (n := 0) rfl
  constructor
  · intro hreads hwide
    obtain ⟨hstart, h64, hbefore⟩ := hwide
    have hread := (hmem 6).mpr ⟨5, ⟨Nat.zero_le _, hstart, fun j _ hj => hbefore j hj⟩,
      .inr ⟨h64, rfl⟩⟩
    exact absurd (hreads 6 hread) (by decide)
  · intro hlast m hm
    obtain ⟨k, ⟨-, hstart, hbefore⟩, rfl | ⟨h64, rfl⟩⟩ := (hmem m).mp hm
    · exact k.isLt
    · by_contra hsix
      obtain rfl : k = 5 := Fin.ext (by have := k.isLt; omega)
      exact hlast ⟨hstart, h64, fun j hj => hbefore j (Nat.zero_le _) hj⟩

theorem virtioGetBarIndex_eq_some_iff {i : Fin 6} :
    h.virtioGetBarIndex basePA = some i ↔
      h.Found basePA i ∧ ∀ j < i, ¬ h.Found basePA j := by
  rw [virtioGetBarIndex_eq_find, ← Fin.find?_eq_find?_finRange, Fin.find?_eq_some_iff]
  simp only [decide_eq_true_eq, decide_eq_false_iff_not]

theorem virtioGetBarIndex_eq_none_iff :
    h.virtioGetBarIndex basePA = none ↔ ∀ j, ¬ h.Found basePA j := by
  rw [virtioGetBarIndex_eq_find, ← Fin.find?_eq_find?_finRange, Fin.find?_eq_none_iff]
  simp only [decide_eq_false_iff_not]

/-- `virtio_get_bar_index` reads the six slots only and returns the first one with the address, if
and only if the last slot does not start a BAR of 64-bit memory, or a BAR before it has the
address. -/
theorem virtioGetBarIndex_first_iff (h : PciHeader) (basePA : BitVec 64) :
    (∀ m ∈ h.virtioGetBarIndexReads basePA, m < 6) ∧
        h.IsFirstBar basePA (h.virtioGetBarIndex basePA) ↔
      (h.startsBar 5 = true ∧ h.Is64Bit 5 → ∃ j < 5, h.HasBase basePA j) := by
  have hbefore : ∀ j < 5, (h.Found basePA j ↔ h.HasBase basePA j) := fun j hj =>
    and_congr_right' (quadPart_eq_iff fun h5 => absurd hj (by rw [h5]; decide))
  have hreads : (∀ m ∈ h.virtioGetBarIndexReads basePA, m < 6) ↔
      (h.startsBar 5 = true ∧ h.Is64Bit 5 → ∃ j < 5, h.HasBase basePA j) := by
    rw [reads_six_iff]
    constructor
    · intro hlast h5
      by_contra hnone
      exact hlast ⟨h5.1, h5.2, fun j hj hfound => hnone ⟨j, hj, (hbefore j hj).mp hfound⟩⟩
    · intro hlast hwide
      obtain ⟨hstart, h64, hnone⟩ := hwide
      obtain ⟨j, hj, hbase⟩ := hlast ⟨hstart, h64⟩
      exact hnone j hj ((hbefore j hj).mpr hbase)
  rw [hreads]
  refine and_iff_left_of_imp fun hlast => ?_
  cases hindex : h.virtioGetBarIndex basePA with
  | some i =>
    obtain ⟨hfound, hfirst⟩ := virtioGetBarIndex_eq_some_iff.mp hindex
    have hbase : i = 5 → ¬ h.Is64Bit i := by
      rintro rfl h64
      obtain ⟨j, hj, hbase⟩ := hlast ⟨hfound.1, h64⟩
      exact hfirst j hj ((hbefore j hj).mpr hbase)
    refine ⟨⟨hfound.1, (quadPart_eq_iff hbase).mp hfound.2⟩, fun j hj hbase => ?_⟩
    exact hfirst j hj ((hbefore j (by omega)).mpr hbase)
  | none =>
    have hnone := virtioGetBarIndex_eq_none_iff.mp hindex
    intro j hbase
    have h64 : j = 5 → ¬ h.Is64Bit j := by
      rintro rfl h64
      obtain ⟨k, hk, hbasek⟩ := hlast ⟨hbase.1, h64⟩
      exact hnone k ((hbefore k hk).mpr hbasek)
    exact hnone j ⟨hbase.1, (quadPart_eq_iff h64).mpr hbase.2⟩

/-- Six slots of which the last one has the type of 64-bit memory. -/
def wideLastBar : PciHeader where
  baseAddresses i := if i.val = 5 then 0xF0000004 else 0
  cis := 1

theorem virtioGetBarIndex_not_first : ¬ ∀ (h : PciHeader) (basePA : BitVec 64),
    (∀ m ∈ h.virtioGetBarIndexReads basePA, m < 6) ∧
      h.IsFirstBar basePA (h.virtioGetBarIndex basePA) := by
  intro h
  have hread := (h wideLastBar 0x1F0000000).1 6 (by decide)
  exact absurd hread (by decide)

end PciHeader

end VioGpu.Device
