import VioGpu.VirtIO.QueueAccount
import VioGpu.VirtIO.RingLayout

/-!
# The ring that a modern device gets

`vio_modern_setup_vq` tries to allocate the ring of a queue and halves its size for each attempt
that fails. The loop asks for a size above 0 after an attempt, so that the last one is for a ring
without entries. If that one succeeds, `initialize_virtqueue` is called for it.
-/

namespace VioGpu.VirtIO

open Lib

/-- `vio_modern_setup_vq` up to the creation of the ring: the number of its entries, and what
`vring_new_virtqueue` comes to, with its accesses checked against that number. -/
def modernRing (index : Nat) (a : QueueAnswers) :
    Except QueueStatus (Nat × Result (Option (Virtqueue Unit))) :=
  match vioModernQueryVqAlloc index a with
  | .error status => .error status
  | .ok size =>
    match allocRing a.rings 0 size with
    | none => .error .insufficientResources
    | some num =>
      if a.control = false then .error .insufficientResources
      else .ok (num, vringNewVirtqueue index true 0 (Vring.zeroed num fun _ => []))

/-- Where the ring is created without an end of its initialization, no state follows the setup. -/
theorem vioModernSetupVq_eq_none_iff {vdev : VirtIODevice} {index : Nat} {a : QueueAnswers}
    (hindex : index < vdev.infoSize) :
    vdev.vioModernSetupVq index a = none ↔
      ∃ num fault, modernRing index a = .ok (num, .error fault) := by
  unfold VirtIODevice.vioModernSetupVq modernRing
  cases vioModernQueryVqAlloc index a with
  | error status => simp
  | ok size =>
    simp only [if_neg (not_le.mpr hindex)]
    cases allocRing a.rings 0 size with
    | none => simp
    | some num =>
      dsimp only [VirtIODevice.setupControl]
      by_cases hcontrol : a.control = false
      · simp [hcontrol]
      · simp only [if_neg hcontrol]
        cases hnew : (vringNewVirtqueue index true 0 (Vring.zeroed num fun _ => []) :
            Result (Option (Virtqueue Unit))) with
        | error fault => simp
        | ok created =>
          cases created with
          | none => simp
          | some vq =>
            dsimp only
            split
            · simp
            · split_ifs
              · simp
              · simp

/-- The ring that is created, if any, has a power of 2 of entries, not more than the device offers.
Its initialization ends and accesses descriptors and tokens that it has, which lie in the memory
allocated for them. -/
def RingCreated (size : BitVec 16) :
    Except QueueStatus (Nat × Result (Option (Virtqueue Unit))) → Prop
  | .error _ => True
  | .ok (num, created) =>
    (∃ k, num = 2 ^ k) ∧ num ≤ size.toNat ∧ (∃ vq, created = .ok (some vq)) ∧
      16 * num ≤ (vringPciSize (BitVec.ofNat 16 num)).toNat ∧
      vringControlBlockSize.toNat + 8 * num ≤ (modernHeapSize size).toNat

/-- What the loop for a power of 2 comes to: one of the halves, or all attempts for them fail and
there is one more. -/
theorem allocRing_cases (rings : Nat → Bool) (attempt e : Nat) :
    (∃ i ≤ e, allocRing rings attempt (2 ^ e) = some (2 ^ i) ∧
        ∃ k ≤ e, rings (attempt + k) = true) ∨
      ((∀ k ≤ e, rings (attempt + k) = false) ∧
        allocRing rings attempt (2 ^ e) = if rings (attempt + (e + 1)) then some 0 else none) := by
  induction e generalizing attempt with
  | zero =>
    rw [allocRing]
    by_cases hfirst : rings attempt
    · exact .inl ⟨0, le_rfl, if_pos hfirst, 0, le_rfl, hfirst⟩
    · refine .inr ⟨fun k hk => ?_, ?_⟩
      · obtain rfl : k = 0 := by omega
        simpa using hfirst
      · rw [if_neg hfirst, if_pos (by decide), allocRing]
        rfl
  | succ e ih =>
    rw [allocRing]
    by_cases hfirst : rings attempt
    · exact .inl ⟨e + 1, le_rfl, if_pos hfirst, 0, Nat.zero_le _, hfirst⟩
    · have hhalf : 2 ^ (e + 1) / 2 = 2 ^ e := by
        rw [Nat.pow_succ, Nat.mul_div_cancel _ (by decide)]
      rw [if_neg hfirst, if_pos (Nat.two_pow_pos _), hhalf]
      obtain ⟨i, hi, halloc, k, hk, hring⟩ | ⟨hfail, halloc⟩ := ih (attempt + 1)
      · exact .inl ⟨i, by omega, halloc, k + 1, by omega, by rw [← hring]; congr 1; omega⟩
      · refine .inr ⟨fun k hk => ?_, ?_⟩
        · cases k with
          | zero => simpa using hfirst
          | succ k =>
            rw [← hfail k (by omega)]
            congr 1
            omega
        · rw [halloc, show attempt + 1 + (e + 1) = attempt + (e + 1 + 1) by omega]

theorem sixteen_mul_le_vringPciSize {num : Nat} (h : num ≤ 65535) :
    16 * num ≤ (vringPciSize (BitVec.ofNat 16 num)).toNat := by
  have hnum : (BitVec.ofNat 16 num).toNat = num := by
    rw [BitVec.toNat_ofNat, Nat.mod_eq_of_lt (by omega)]
  have hsize := vringSize_eq (num_le (BitVec.ofNat 16 num)) (show 6 < 32 by decide)
  rw [toNat_setWidth_num, hnum] at hsize
  have hround := le_roundUp (n := 18 * num + 6) (Nat.two_pow_pos 6)
  refine le_trans ?_ (vringSize_le_vringPciSize _)
  have halign : BitVec.twoPow 32 6 = smpCacheBytes := by decide
  rw [← halign, hsize, usedOffset]
  omega

theorem modernHeapSize_eq (size : BitVec 16) :
    (modernHeapSize size).toNat = vringControlBlockSize.toNat + 8 * size.toNat := by
  have hlt := size.isLt
  have hblock : vringControlBlockSize.toNat = 80 := rfl
  rw [modernHeapSize, BitVec.add_comm, vringDataSize_eq, BitVec.setWidth_ofNat_of_le (by decide),
    BitVec.toNat_ofNat, Nat.mod_eq_of_lt (by omega), hblock, Nat.add_comm]

/-- A device offers up to 2 ^ 15 entries. -/
theorem exponent_le {size : BitVec 16} {e : Nat} (hsize : size.toNat = 2 ^ e) : e ≤ 15 := by
  have hlt := size.isLt
  rw [hsize] at hlt
  exact Nat.le_of_lt_succ ((Nat.pow_lt_pow_iff_right (show 1 < 2 by decide)).mp hlt)

theorem vioModernQueryVqAlloc_eq {index : Nat} {a : QueueAnswers} {e : Nat}
    (hindex : index < a.numQueues.toNat) (hsize : a.queueSize.toNat = 2 ^ e) :
    vioModernQueryVqAlloc index a = .ok (2 ^ e) := by
  rw [vioModernQueryVqAlloc, if_neg (not_le.mpr hindex), hsize, if_neg (Nat.two_pow_pos e).ne',
    Nat.and_two_pow_sub_one_eq_mod, Nat.mod_self, if_neg (not_not.mpr rfl)]

/-- A ring with entries is initialized inside its memory. -/
theorem ringCreated_pow {size : BitVec 16} {i e : Nat} (hsize : size.toNat = 2 ^ e) (hi : i ≤ e)
    (index : Nat) :
    RingCreated size (.ok (2 ^ i, vringNewVirtqueue index true 0 (Vring.zeroed (2 ^ i)
      fun _ => []))) := by
  have he := exponent_le hsize
  have hle : 2 ^ i ≤ 2 ^ e := Nat.pow_le_pow_right (by decide) hi
  have hlt : 2 ^ e ≤ 32768 := Nat.pow_le_pow_right (n := 2) (by decide) he
  obtain ⟨vq, hnew, -⟩ := vringNewVirtqueue_spec (τ := Unit) (hi.trans he) index true 0 fun _ => []
  refine ⟨⟨i, rfl⟩, by omega, ⟨vq, hnew⟩, sixteen_mul_le_vringPciSize (by omega), ?_⟩
  rw [modernHeapSize_eq, hsize]
  omega

/-- The ring is created with entries, or the setup fails, unless all attempts for a ring with
entries fail and the one for a ring without does not. -/
theorem modernRing_created_iff (index : Nat) (a : QueueAnswers) {e : Nat}
    (hsize : a.queueSize.toNat = 2 ^ e) :
    RingCreated a.queueSize (modernRing index a) ↔
      ¬ (index < a.numQueues.toNat ∧ (∀ k ≤ e, a.rings k = false) ∧ a.rings (e + 1) = true ∧
        a.control = true) := by
  unfold modernRing
  by_cases hindex : index < a.numQueues.toNat
  · rw [vioModernQueryVqAlloc_eq hindex hsize]
    dsimp only
    obtain ⟨i, hi, halloc, k, hk, hring⟩ | ⟨hfail, halloc⟩ := allocRing_cases a.rings 0 e
    · -- a ring with entries
      rw [Nat.zero_add] at hring
      have hne : ¬ ∀ k ≤ e, a.rings k = false := fun hall => by
        rw [hall k hk] at hring
        cases hring
      refine iff_of_true ?_ fun h => hne h.2.1
      rw [halloc]
      dsimp only
      split_ifs
      · trivial
      · exact ringCreated_pow hsize hi index
    · simp only [Nat.zero_add] at hfail halloc
      rw [halloc]
      by_cases hlast : a.rings (e + 1)
      · rw [if_pos hlast]
        dsimp only
        by_cases hcontrol : a.control = true
        · -- the ring without entries
          rw [if_neg (by rw [hcontrol]; decide)]
          refine iff_of_false ?_ (not_not.mpr ⟨hindex, hfail, hlast, hcontrol⟩)
          intro hcreated
          obtain ⟨⟨k, hk⟩, -⟩ := hcreated
          exact absurd hk (Nat.two_pow_pos k).ne
        · rw [if_pos (Bool.eq_false_iff.mpr hcontrol)]
          exact iff_of_true trivial fun h => hcontrol h.2.2.2
      · rw [if_neg hlast]
        exact iff_of_true trivial fun h => hlast h.2.2.1
  · have hquery : vioModernQueryVqAlloc index a = .error .notFound := by
      rw [vioModernQueryVqAlloc, if_pos (not_lt.mp hindex)]
    rw [hquery]
    exact iff_of_true trivial fun h => hindex h.1

/-- A queue of 128 entries, with the attempts that succeed. -/
def queueOf128 (rings : Nat → Bool) : QueueAnswers where
  numQueues := 2
  queueSize := 128
  queueNotifyOff := 0
  rings := rings
  control := true
  notifyMapped := some 0xF000
  msixVector := virtioMsiNoVector
  queueVector := virtioMsiNoVector

theorem modernRing_created_second :
    RingCreated 128 (modernRing 0 (queueOf128 fun attempt => attempt == 1)) :=
  (modernRing_created_iff 0 (queueOf128 fun attempt => attempt == 1) (e := 7) rfl).mpr
    fun h => absurd (h.2.1 1 (by decide)) (by decide)

theorem modernRing_not_created : ¬ ∀ (index : Nat) (a : QueueAnswers) (e : Nat),
    a.queueSize.toNat = 2 ^ e → RingCreated a.queueSize (modernRing index a) := by
  intro h
  -- 128, 64, .., 1 fail, and there is memory for the ring without entries
  have hring := h 0 (queueOf128 fun attempt => attempt == 8) 7 rfl
  have halloc : allocRing (fun attempt => attempt == 8) 0 128 = some 0 := by
    simp [allocRing]
  have hcreated : modernRing 0 (queueOf128 fun attempt => attempt == 8) =
      .ok (0, .error (.outOfRange 0)) := by
    have hquery : vioModernQueryVqAlloc 0 (queueOf128 fun attempt => attempt == 8) = .ok 128 := rfl
    rw [modernRing, hquery]
    dsimp only [queueOf128]
    rw [halloc]
    rfl
  rw [hcreated] at hring
  obtain ⟨⟨k, hk⟩, -⟩ := hring
  exact absurd hk (Nat.two_pow_pos k).ne

end VioGpu.VirtIO
