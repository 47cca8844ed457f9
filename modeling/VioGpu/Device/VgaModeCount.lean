import VioGpu.Device.VgaModeList
import VioGpu.Lib.Scan

/-!
# How `VgaDevice::GetModeList` counts the modes of the BIOS

The list is where `VideoModePtr` points, and its end is data of the firmware. The offsets of the
entries wrap in the segment, so that the loop reads 32768 words again and again: it counts the
entries just when one of these words is an end (`countModes_counts_iff`), and without an end it
goes on for ever.
-/

namespace VioGpu.Device

open Lib Program BiosCall

/-! ## The memory of the BIOS -/

/-- The bytes at the linear addresses, and the accesses that `x86BiosReadMemory` refuses, with the
code of the status. -/
structure BiosMemory where
  byte : Nat → BitVec 8
  fails : BitVec 16 → BitVec 16 → Option Nat

/-- The offset of entry `k` of a list: each entry is a `USHORT`. -/
def entryOffset (ptr : BitVec 32) (k : Nat) : BitVec 16 :=
  ptr.setWidth 16 + BitVec.ofNat 16 (2 * k)

/-- `ModeTemp == 0xFFFF || ModeTemp == 0` -/
def IsListEnd (modeTemp : BitVec 16) : Prop := modeTemp = 0xFFFF ∨ modeTemp = 0

instance : DecidablePred IsListEnd := fun _ => inferInstanceAs (Decidable (_ ∨ _))

namespace BiosMemory

/-- The `USHORT` at `segment:offset`. -/
def word (m : BiosMemory) (segment offset : BitVec 16) : BitVec 16 :=
  let address := segment.toNat * 16 + offset.toNat
  m.byte (address + 1) ++ m.byte address

/-- `x86BiosReadMemory` of a `USHORT`. -/
def read (m : BiosMemory) (segment offset : BitVec 16) : Except Nat (BitVec 16) :=
  match m.fails segment offset with
  | some code => .error code
  | none => .ok (m.word segment offset)

/-- A BIOS with this memory. The other calls are answered by `others`. -/
def answer (m : BiosMemory) (others : (c : BiosCall) → c.Ans) (_ : Unit) (c : BiosCall) :
    c.Ans × Unit :=
  match c with
  | readModeNumber segment offset => (m.read segment offset, ())
  | c => (others c, ())

/-- Entry `k` of the list. -/
def entry (m : BiosMemory) (ptr : BitVec 32) (k : Nat) : BitVec 16 :=
  m.word (listSegment ptr) (entryOffset ptr k)

/-- The list has `count` entries before its end. -/
structure HasEntries (m : BiosMemory) (ptr : BitVec 32) (count : Nat) : Prop where
  ends : IsListEnd (m.entry ptr count)
  entries : ∀ k < count, ¬ IsListEnd (m.entry ptr k)

/-- **The loop counts the list**: it is over after some number of turns, and `ModeCount` is the
number of the entries before the end. -/
def CountsModes (m : BiosMemory) (others : (c : BiosCall) → c.Ans) (ptr : BitVec 32) : Prop :=
  ∃ fuel modeCount status,
    (countModes ptr fuel 0).exec (m.answer others) () = (.done (modeCount, status), ()) ∧
      m.HasEntries ptr modeCount.toNat

/-! ## The loop as a scan -/

/-- Whether the loop is over at `ModeCount = k`, and with which status. -/
def exit (m : BiosMemory) (ptr : BitVec 32) (k : Nat) : Option Status :=
  match m.read (listSegment ptr) (entryOffset ptr k) with
  | .error code => some (.os code)
  | .ok modeTemp => if IsListEnd modeTemp then some .success else none

/-- What a scan of the list comes to, as an outcome of the loop. -/
def outcome : Option (Nat × Status) → Outcome (BitVec 16 × Status)
  | some (k, status) => .done (.ofNat 16 k, status)
  | none => .unfinished

end BiosMemory

theorem listOffset_ofNat (ptr : BitVec 32) (k : Nat) :
    listOffset ptr (.ofNat 16 k) = entryOffset ptr k := by
  have hshift : BitVec.ofNat 16 k <<< 1 = BitVec.ofNat 16 (2 * k) := by
    apply BitVec.eq_of_toNat_eq
    rw [BitVec.toNat_shiftLeft, BitVec.toNat_ofNat, BitVec.toNat_ofNat, Nat.shiftLeft_eq]
    omega
  rw [listOffset, entryOffset, hshift]

/-- After 32768 entries the offset is the one of the first entry again. -/
theorem entryOffset_periodic (ptr : BitVec 32) : Function.Periodic (entryOffset ptr) 32768 := by
  intro k
  have hwrap : BitVec.ofNat 16 (2 * (k + 32768)) = BitVec.ofNat 16 (2 * k) := by
    apply BitVec.eq_of_toNat_eq
    rw [BitVec.toNat_ofNat, BitVec.toNat_ofNat]
    omega
  rw [entryOffset, hwrap, entryOffset]

section

variable (m : BiosMemory) (others : (c : BiosCall) → c.Ans) (ptr : BitVec 32)

open BiosMemory

theorem exit_periodic : Function.Periodic (m.exit ptr) 32768 := by
  intro k
  rw [BiosMemory.exit, entryOffset_periodic ptr k, ← BiosMemory.exit]

/-- The loop is the scan of the list, with a counter of 16 bits. -/
theorem countModes_exec (fuel k : Nat) :
    (countModes ptr fuel (.ofNat 16 k)).exec (m.answer others) () =
      (outcome (scan (m.exit ptr) fuel k), ()) := by
  induction fuel generalizing k with
  | zero => rfl
  | succ fuel ih =>
    have hnext : BitVec.ofNat 16 k + 1 = .ofNat 16 (k + 1) := (BitVec.ofNat_add k 1).symm
    rw [countModes, Program.ask_bind, exec_call, scan, BiosMemory.exit, listOffset_ofNat]
    dsimp only [BiosMemory.answer]
    cases hread : m.read (listSegment ptr) (entryOffset ptr k) with
    | error code => rfl
    | ok modeTemp =>
      dsimp only
      by_cases hend : modeTemp = 0xFFFF ∨ modeTemp = 0
      · rw [if_pos hend, if_pos (show IsListEnd modeTemp from hend)]
        rfl
      · rw [if_neg hend, if_neg (show ¬ IsListEnd modeTemp from hend), hnext]
        exact ih (k + 1)

variable {m ptr} {k : Nat}

theorem exit_of_reads (hreads : m.fails (listSegment ptr) (entryOffset ptr k) = none) :
    m.exit ptr k = if IsListEnd (m.entry ptr k) then some .success else none := by
  rw [BiosMemory.exit, BiosMemory.read, hreads]
  rfl

theorem exit_eq_none_iff : m.exit ptr k = none ↔
    m.fails (listSegment ptr) (entryOffset ptr k) = none ∧ ¬ IsListEnd (m.entry ptr k) := by
  cases hreads : m.fails (listSegment ptr) (entryOffset ptr k) with
  | none =>
    rw [exit_of_reads hreads]
    by_cases hend : IsListEnd (m.entry ptr k)
    · simp [hend]
    · simp [hend]
  | some code =>
    rw [BiosMemory.exit, BiosMemory.read, hreads]
    simp

variable (m ptr) in
/-- The loop is over, after some number of turns, at the first exit or never. -/
theorem countModes_done_iff {modeCount : BitVec 16} {status : Status} :
    (∃ fuel, (countModes ptr fuel 0).exec (m.answer others) () =
        (.done (modeCount, status), ())) ↔
      ∃ k, FirstExit (m.exit ptr) k status ∧ modeCount = .ofNat 16 k := by
  constructor
  · intro h
    obtain ⟨fuel, h⟩ := h
    rw [show (0 : BitVec 16) = .ofNat 16 0 from rfl, countModes_exec] at h
    cases hscan : scan (m.exit ptr) fuel 0 with
    | none =>
      rw [hscan] at h
      cases (Prod.mk.inj h).1
    | some found =>
      obtain ⟨k, status'⟩ := found
      rw [hscan] at h
      cases (Prod.mk.inj h).1
      exact ⟨k, exists_scan_iff.mp ⟨fuel, hscan⟩, rfl⟩
  · intro h
    obtain ⟨k, hfirst, rfl⟩ := h
    obtain ⟨fuel, hscan⟩ := exists_scan_iff.mpr hfirst
    refine ⟨fuel, ?_⟩
    rw [show (0 : BitVec 16) = .ofNat 16 0 from rfl, countModes_exec, hscan]
    rfl

variable (m ptr) in
/-- Without an exit the loop goes on for ever. -/
theorem countModes_unfinished (hnone : ∀ k, m.exit ptr k = none) (fuel : Nat) :
    (countModes ptr fuel 0).exec (m.answer others) () = (.unfinished, ()) := by
  rw [show (0 : BitVec 16) = .ofNat 16 0 from rfl, countModes_exec]
  cases hscan : scan (m.exit ptr) fuel 0 with
  | none => rfl
  | some found =>
    obtain ⟨k, status⟩ := found
    have hexit := (scan_eq_some_iff.mp hscan).2.2.1
    rw [hnone k] at hexit
    cases hexit

variable (m ptr) in
/-- **The loop counts the list** just when one of the 32768 words that it reads is an end, and no
read of an entry before fails. -/
theorem countModes_counts_iff : m.CountsModes others ptr ↔
    ∃ k < 32768, IsListEnd (m.entry ptr k) ∧
      ∀ j < k, m.fails (listSegment ptr) (entryOffset ptr j) = none := by
  constructor
  · intro h
    obtain ⟨fuel, modeCount, status, hrun, hends, hentries⟩ := h
    obtain ⟨k, hfirst, rfl⟩ := (countModes_done_iff m others ptr).mp ⟨fuel, hrun⟩
    have hlt := hfirst.lt_of_periodic (exit_periodic m ptr) (by decide)
    rw [BitVec.toNat_ofNat, Nat.mod_eq_of_lt (by omega)] at hends
    exact ⟨k, hlt, hends, fun j hj => (exit_eq_none_iff.mp (hfirst.first j hj)).1⟩
  · intro h
    obtain ⟨k, hk, hend, hreads⟩ := h
    obtain ⟨status, hexit⟩ : ∃ status, m.exit ptr k = some status := by
      refine Option.ne_none_iff_exists'.mp fun hnone => ?_
      exact (exit_eq_none_iff.mp hnone).2 hend
    obtain ⟨n, hnk, status, hfirst⟩ := exists_firstExit hexit
    -- the first exit is an end, since no read before the end fails
    have hends : IsListEnd (m.entry ptr n) := by
      obtain rfl | hlt := Nat.eq_or_lt_of_le hnk
      · exact hend
      · by_contra hnot
        have hnone := exit_eq_none_iff.mpr ⟨hreads n hlt, hnot⟩
        rw [hfirst.exits] at hnone
        cases hnone
    obtain ⟨fuel, hrun⟩ := (countModes_done_iff m others ptr).mpr ⟨n, hfirst, rfl⟩
    refine ⟨fuel, _, status, hrun, ?_⟩
    rw [BitVec.toNat_ofNat, Nat.mod_eq_of_lt (by omega)]
    exact ⟨hends, fun j hj => (exit_eq_none_iff.mp (hfirst.first j hj)).2⟩

end

/-- A memory whose bytes are all 1. -/
def ones : BiosMemory where
  byte _ := 1
  fails _ _ := none

/-- A BIOS that refuses every call. -/
def refuses : (c : BiosCall) → c.Ans
  | allocateBuffer _ => .error 0
  | freeBuffer _ _ => ()
  | writeMemory _ _ _ => .error 0
  | x86BiosCall _ => false
  | readInfo _ _ => .error 0
  | readModeNumber _ _ => .error 0
  | readModeInfo _ _ => .error 0
  | newTable _ => false

/-- No word is an end, and the loop goes on for ever. -/
theorem not_countsModes_ones :
    (∀ fuel, (countModes 0xC0000000 fuel 0).exec (ones.answer refuses) () = (.unfinished, ())) ∧
      ¬ ones.CountsModes refuses 0xC0000000 := by
  have hword : ∀ k, ¬ IsListEnd (ones.entry 0xC0000000 k) := by
    intro k
    show ¬ IsListEnd (1#8 ++ 1#8)
    decide
  have hunfinished : ∀ fuel,
      (countModes 0xC0000000 fuel 0).exec (ones.answer refuses) () = (.unfinished, ()) :=
    countModes_unfinished ones refuses 0xC0000000 fun k => exit_eq_none_iff.mpr ⟨rfl, hword k⟩
  refine ⟨hunfinished, fun hcounts => ?_⟩
  obtain ⟨fuel, modeCount, status, hrun, -⟩ := hcounts
  rw [hunfinished fuel] at hrun
  cases (Prod.mk.inj hrun).1

end VioGpu.Device
