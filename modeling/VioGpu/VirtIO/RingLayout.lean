import VioGpu.Lib.Align
import VioGpu.VirtIO.FindQueues

/-!
# The layout of a ring

`vring_init` of `virtio_ring.h` places the parts of a ring by rounding a pointer, `vring_size` sums
their sizes with a mask of 32 bits. The two agree, so that what is laid out lies in the memory that
is allocated for it; on a legacy device the control block with its tokens lies in the pages behind.
-/

namespace VioGpu.VirtIO

open Lib

/-! ## What the code computes -/

/-- `struct vring`: the addresses of its parts. -/
structure VringParts where
  num : BitVec 32
  desc : BitVec 64
  avail : BitVec 64
  used : BitVec 64
  deriving DecidableEq, Repr

/-- `vring_init` -/
def vringInit (num : BitVec 32) (p : BitVec 64) (align : BitVec 32) : VringParts :=
  let avail := p + num.setWidth 64 * 16
  -- `&vr->avail->ring[num]`
  let ringEnd := avail + 4 + num.setWidth 64 * 2
  { num := num
    desc := p
    avail := avail
    used := (ringEnd + 2 + align.setWidth 64 - 1) &&& ~~~(align.setWidth 64 - 1) }

/-- `vring_size`. The mask is an `unsigned long` and has no bits above the 32nd. -/
def vringSize (num align : BitVec 32) : BitVec 32 :=
  let sum := 16 * num.setWidth 64 + 2 * (3 + num).setWidth 64 + align.setWidth 64 - 1
  ((sum &&& (~~~(align - 1)).setWidth 64) + 2 * 3 + 8 * num.setWidth 64).setWidth 32

/-- `ROUND_TO_PAGES` -/
def roundToPages (size : BitVec 64) : BitVec 64 := (size + 4096 - 1) &&& ~~~(4096#64 - 1)

/-- `SMP_CACHE_BYTES` -/
def smpCacheBytes : BitVec 32 := 64

/-- `VIRTIO_PCI_VRING_ALIGN` -/
def virtioPciVringAlign : BitVec 32 := 4096

/-- `vring_control_block_size`: the size of a `vring_virtqueue`, as it is without `DEBUG`. -/
def vringControlBlockSize : BitVec 32 := 80

/-- `vring_pci_size` -/
def vringPciSize (num : BitVec 16) : BitVec 64 :=
  roundToPages ((vringSize (num.setWidth 32) smpCacheBytes).setWidth 64)

/-- What `vio_modern_query_vq_alloc` says of the heap. -/
def modernHeapSize (num : BitVec 16) : BitVec 32 :=
  (vringControlBlockSize.setWidth 64 + 8 * num.setWidth 64).setWidth 32

/-- `vio_legacy_query_vq_alloc`, with what it reads: the number of entries, the size of the ring and
that of the heap. -/
def vioLegacyQueryVqAlloc (num : BitVec 16) (pfn : BitVec 32) :
    Except QueueStatus (BitVec 16 × BitVec 32 × BitVec 32) :=
  if num = 0 ∨ pfn ≠ 0 then .error .notFound
  else
    let ringSize := (roundToPages
      ((vringSize (num.setWidth 32) virtioPciVringAlign).setWidth 64)).setWidth 32
    let dataSize := (roundToPages
      (8 * num.setWidth 64 + vringControlBlockSize.setWidth 64)).setWidth 32
    .ok (num, ringSize + dataSize, 0)

/-- Where `vio_legacy_setup_vq` has the control block. -/
def legacyControl (num : BitVec 16) (queue : BitVec 64) : BitVec 64 :=
  queue + roundToPages ((vringSize (num.setWidth 32) virtioPciVringAlign).setWidth 64)

/-! ## The parts -/

/-- The descriptors. -/
def VringParts.descRegion (vr : VringParts) : Region 64 := ⟨vr.desc, 16 * vr.num.toNat⟩

/-- The available ring with `used_event` behind it. -/
def VringParts.availRegion (vr : VringParts) : Region 64 := ⟨vr.avail, 4 + 2 * vr.num.toNat + 2⟩

/-- The used ring with `avail_event` behind it. -/
def VringParts.usedRegion (vr : VringParts) : Region 64 := ⟨vr.used, 4 + 8 * vr.num.toNat + 2⟩

/-- The control block with its tokens. -/
def controlRegion (num : BitVec 16) (control : BitVec 64) : Region 64 :=
  ⟨control, vringControlBlockSize.toNat + 8 * num.toNat⟩

/-- The parts are those of a ring of `num` entries, aligned, different memory and in `size` bytes
from `p` on. -/
structure VringParts.LaidOut (vr : VringParts) (num : BitVec 32) (p : BitVec 64) (size : Nat) :
    Prop where
  num : vr.num = num
  desc_avail : Disjoint vr.descRegion.bytes vr.availRegion.bytes
  desc_used : Disjoint vr.descRegion.bytes vr.usedRegion.bytes
  avail_used : Disjoint vr.availRegion.bytes vr.usedRegion.bytes
  desc_align : p.toNat % 16 = 0 → vr.desc.toNat % 16 = 0
  avail_align : vr.avail.toNat % 2 = 0
  used_align : vr.used.toNat % 4 = 0
  desc_inside : vr.descRegion.bytes ⊆ (Region.mk p size).bytes
  avail_inside : vr.availRegion.bytes ⊆ (Region.mk p size).bytes
  used_inside : vr.usedRegion.bytes ⊆ (Region.mk p size).bytes

/-! ## The offsets -/

section

variable {num : BitVec 32} {k : Nat}

/-- The offset of the used ring. -/
def usedOffset (num k : Nat) : Nat := roundUp (18 * num + 6) (2 ^ k)

theorem usedOffset_lt (hnum : num.toNat ≤ 65535) (hk : k < 32) :
    usedOffset num.toNat k < 2 ^ 31 + 2 ^ 21 := by
  have hpow : 2 ^ k ≤ 2 ^ 31 := Nat.pow_le_pow_right (by decide) (by omega)
  have hlt := roundUp_lt (n := 18 * num.toNat + 6) (Nat.two_pow_pos k)
  unfold usedOffset
  omega

theorem toNat_twoPow_of_lt {w : Nat} (hk : k < w) : (BitVec.twoPow w k).toNat = 2 ^ k := by
  rw [BitVec.toNat_twoPow, Nat.mod_eq_of_lt (Nat.pow_lt_pow_right (by decide) hk)]

/-- A mask of 32 bits. -/
theorem and_setWidth (x : BitVec 64) (mask : BitVec 32) :
    x &&& mask.setWidth 64 = (x.setWidth 32 &&& mask).setWidth 64 := by
  apply BitVec.eq_of_getLsbD_eq
  intro i hi
  simp only [BitVec.getLsbD_and, BitVec.getLsbD_setWidth, hi, decide_true, Bool.true_and]
  by_cases hi32 : i < 32
  · simp [hi32]
  · simp [hi32, BitVec.getLsbD_of_ge mask i (not_lt.mp hi32)]

theorem setWidth_eq_ofNat {w : Nat} (x : BitVec w) : x.setWidth 64 = BitVec.ofNat 64 x.toNat :=
  (BitVec.ofNat_toNat 64 x).symm

/-- The sum that `vring_size` masks. -/
theorem vringSum_eq (hnum : num.toNat ≤ 65535) (hk : k < 32) :
    16 * num.setWidth 64 + 2 * (3 + num).setWidth 64 + (BitVec.twoPow 32 k).setWidth 64 - 1 =
      BitVec.ofNat 64 (18 * num.toNat + 6 + 2 ^ k - 1) := by
  have hpos := Nat.two_pow_pos k
  have hthree : (3 + num).toNat = 3 + num.toNat := by
    rw [BitVec.toNat_add_of_lt]
    · rfl
    · show 3 + num.toNat < 2 ^ 32
      omega
  rw [setWidth_eq_ofNat, setWidth_eq_ofNat, setWidth_eq_ofNat, hthree, toNat_twoPow_of_lt hk]
  simp only [BitVec.ofNat_eq_ofNat, BitVec.ofNat_mul_ofNat, BitVec.ofNat_add_ofNat]
  rw [BitVec.ofNat_sub_ofNat_of_le _ _ (by decide) (by omega)]
  congr 1
  omega

theorem vringSize_eq (hnum : num.toNat ≤ 65535) (hk : k < 32) :
    (vringSize num (BitVec.twoPow 32 k)).toNat = usedOffset num.toNat k + 6 + 8 * num.toNat := by
  have hused := usedOffset_lt hnum hk
  have hpow : 2 ^ k ≤ 2 ^ 31 := Nat.pow_le_pow_right (by decide) (by omega)
  have hmasked : BitVec.ofNat 64 (18 * num.toNat + 6 + 2 ^ k - 1) &&&
      (~~~(BitVec.twoPow 32 k - 1)).setWidth 64 = BitVec.ofNat 64 (usedOffset num.toNat k) := by
    have hsum : (BitVec.ofNat 64 (18 * num.toNat + 6 + 2 ^ k - 1)).setWidth 32 =
        BitVec.ofNat 32 (18 * num.toNat + 6 + 2 ^ k - 1) :=
    BitVec.setWidth_ofNat_of_le (by decide) _
    rw [and_setWidth, setWidth_eq_ofNat, toNat_and_not_low _ hk, hsum, BitVec.toNat_ofNat,
      Nat.mod_eq_of_lt (by omega)]
    rfl
  have hsize : vringSize num (BitVec.twoPow 32 k) =
      BitVec.ofNat 32 (usedOffset num.toNat k + 6 + 8 * num.toNat) := by
    rw [vringSize, vringSum_eq hnum hk, hmasked, setWidth_eq_ofNat]
    simp only [BitVec.ofNat_eq_ofNat, BitVec.ofNat_mul_ofNat, BitVec.ofNat_add_ofNat]
    exact BitVec.setWidth_ofNat_of_le (by decide) _
  rw [hsize, BitVec.toNat_ofNat, Nat.mod_eq_of_lt (by omega)]

theorem vringInit_avail {p : BitVec 64} {align : BitVec 32} :
    (vringInit num p align).avail = p + BitVec.ofNat 64 (16 * num.toNat) := by
  show p + num.setWidth 64 * 16 = _
  rw [setWidth_eq_ofNat, Nat.mul_comm, BitVec.ofNat_mul]
  rfl

theorem vringInit_used (hnum : num.toNat ≤ 65535) (hk : k < 32) {p : BitVec 64}
    (hp : p.toNat % 2 ^ k = 0) :
    (vringInit num p (BitVec.twoPow 32 k)).used =
      p + BitVec.ofNat 64 (usedOffset num.toNat k) := by
  have hpow : 2 ^ k ≤ 2 ^ 31 := Nat.pow_le_pow_right (by decide) (by omega)
  have hpos := Nat.two_pow_pos k
  have hsum : p + num.setWidth 64 * 16 + 4 + num.setWidth 64 * 2 + 2 +
      (BitVec.twoPow 32 k).setWidth 64 - 1 =
      p + BitVec.ofNat 64 (18 * num.toNat + 6 + 2 ^ k - 1) := by
    have hassoc : ∀ a b : BitVec 64, p + a * 16 + 4 + a * 2 + 2 + b - 1 =
        p + (a * 16 + 4 + a * 2 + 2 + b - 1) := by
      intro a b
      simp only [BitVec.sub_eq_add_neg, BitVec.add_assoc]
    rw [hassoc, setWidth_eq_ofNat, setWidth_eq_ofNat, toNat_twoPow_of_lt hk]
    simp only [BitVec.ofNat_eq_ofNat, BitVec.ofNat_mul_ofNat, BitVec.ofNat_add_ofNat]
    rw [BitVec.ofNat_sub_ofNat_of_le _ _ (by decide) (by omega)]
    congr 2
    omega
  have hwidth : (BitVec.twoPow 32 k).setWidth 64 = BitVec.twoPow 64 k := by
    apply BitVec.eq_of_toNat_eq
    rw [BitVec.toNat_setWidth_of_le (by decide), toNat_twoPow_of_lt hk,
      toNat_twoPow_of_lt (show k < 64 by omega)]
  show (p + num.setWidth 64 * 16 + 4 + num.setWidth 64 * 2 + 2 +
      (BitVec.twoPow 32 k).setWidth 64 - 1) &&& ~~~((BitVec.twoPow 32 k).setWidth 64 - 1) = _
  rw [hsum, hwidth, mask_add (by omega) hp (by omega)]
  rfl

end

/-! ## The parts fit -/

/-- `vring_init` lays a ring out in the bytes that `vring_size` counts. -/
theorem vringInit_laidOut {num : BitVec 32} {k : Nat} (hnum : num.toNat ≤ 65535) (hk : 2 ≤ k)
    (hk' : k < 32) {p : BitVec 64} (hp : p.toNat % 2 ^ k = 0) :
    (vringInit num p (BitVec.twoPow 32 k)).LaidOut num p
      (vringSize num (BitVec.twoPow 32 k)).toNat := by
  have hused := usedOffset_lt hnum hk'
  have hle := le_roundUp (n := 18 * num.toNat + 6) (Nat.two_pow_pos k)
  have hsize := vringSize_eq hnum hk'
  have hfour : 4 ∣ 2 ^ k := Nat.pow_dvd_pow 2 hk
  have hp4 : p.toNat % 4 = 0 :=
    Nat.mod_eq_zero_of_dvd (Nat.dvd_trans hfour (Nat.dvd_of_mod_eq_zero hp))
  have hused4 : usedOffset num.toNat k % 4 = 0 :=
    Nat.mod_eq_zero_of_dvd (Nat.dvd_trans hfour (dvd_roundUp _ _))
  have hdescRegion : (vringInit num p (BitVec.twoPow 32 k)).descRegion =
      ⟨p + BitVec.ofNat 64 0, 16 * num.toNat⟩ := by
    rw [VringParts.descRegion]
    exact congrArg (Region.mk · _) (BitVec.add_zero p).symm
  have havailRegion : (vringInit num p (BitVec.twoPow 32 k)).availRegion =
      ⟨p + BitVec.ofNat 64 (16 * num.toNat), 4 + 2 * num.toNat + 2⟩ := by
    rw [VringParts.availRegion, vringInit_avail]
    rfl
  have husedRegion : (vringInit num p (BitVec.twoPow 32 k)).usedRegion =
      ⟨p + BitVec.ofNat 64 (usedOffset num.toNat k), 4 + 8 * num.toNat + 2⟩ := by
    rw [VringParts.usedRegion, vringInit_used hnum hk' hp]
    rfl
  have hbehind : 16 * num.toNat + (4 + 2 * num.toNat + 2) ≤ usedOffset num.toNat k := by
    unfold usedOffset
    omega
  constructor
  · rfl
  · rw [hdescRegion, havailRegion]
    exact disjoint_bytes (by omega) (by omega)
  · rw [hdescRegion, husedRegion]
    exact disjoint_bytes (by omega) (by omega)
  · rw [havailRegion, husedRegion]
    exact disjoint_bytes hbehind (by omega)
  · intro hp16
    exact hp16
  · rw [vringInit_avail, BitVec.toNat_add, BitVec.toNat_ofNat]
    omega
  · rw [vringInit_used hnum hk' hp, BitVec.toNat_add, BitVec.toNat_ofNat]
    omega
  · rw [hdescRegion]
    exact bytes_subset (by omega) (by omega)
  · rw [havailRegion]
    exact bytes_subset (by omega) (by omega)
  · rw [husedRegion]
    exact bytes_subset (by omega) (by omega)

/-! ## Whole pages -/

theorem toNat_roundToPages {size : BitVec 64} (h : size.toNat < 2 ^ 63) :
    (roundToPages size).toNat = roundUp size.toNat 4096 := by
  have hpage : (4096#64 - 1) = BitVec.twoPow 64 12 - 1 := by decide
  rw [roundToPages, hpage, toNat_and_not_low _ (by decide)]
  have hsum : (size + 4096 - 1).toNat = size.toNat + 4096 - 1 := by
    rw [BitVec.toNat_sub_of_le, BitVec.toNat_add_of_lt]
    · rfl
    · show size.toNat + 4096 < 2 ^ 64
      omega
    · rw [BitVec.le_def, BitVec.toNat_add_of_lt]
      · show 1 ≤ size.toNat + 4096
        omega
      · show size.toNat + 4096 < 2 ^ 64
        omega
  have htwelve : 2 ^ 12 = 4096 := by decide
  rw [hsum, htwelve, roundUp]

theorem toNat_setWidth_num (num : BitVec 16) : (num.setWidth 32).toNat = num.toNat :=
  BitVec.toNat_setWidth_of_le (by decide)

theorem num_le (num : BitVec 16) : (num.setWidth 32).toNat ≤ 65535 := by
  have hlt := num.isLt
  rw [toNat_setWidth_num]
  omega

/-- A ring of a modern device lies in the pages that are allocated for it. -/
theorem vringSize_le_vringPciSize (num : BitVec 16) :
    (vringSize (num.setWidth 32) smpCacheBytes).toNat ≤ (vringPciSize num).toNat := by
  have hlt := (vringSize (num.setWidth 32) smpCacheBytes).isLt
  have hwidth : ((vringSize (num.setWidth 32) smpCacheBytes).setWidth 64).toNat =
      (vringSize (num.setWidth 32) smpCacheBytes).toNat := BitVec.toNat_setWidth_of_le (by decide)
  rw [vringPciSize, toNat_roundToPages (by omega), hwidth]
  exact le_roundUp (by decide)

/-- The size of a control block with its tokens. -/
theorem vringDataSize_eq (num : BitVec 16) :
    8 * num.setWidth 64 + vringControlBlockSize.setWidth 64 =
      BitVec.ofNat 64 (8 * num.toNat + 80) := by
  have hblock : vringControlBlockSize.setWidth 64 = 80#64 := by decide
  rw [setWidth_eq_ofNat num, hblock]
  simp only [BitVec.ofNat_eq_ofNat, BitVec.ofNat_mul_ofNat, BitVec.ofNat_add_ofNat]

/-- The control block of a legacy queue lies in the memory that is allocated for its ring, in the
pages behind. -/
theorem legacyControl_inside {num : BitVec 16} (hnum : num ≠ 0) :
    ∃ ringSize, vioLegacyQueryVqAlloc num 0 = .ok (num, ringSize, 0) ∧
      ∀ queue, (controlRegion num (legacyControl num queue)).bytes ⊆
        (Region.mk queue ringSize.toNat).bytes := by
  have hnum' := num.isLt
  have hsize := vringSize_eq (num_le num) (show 12 < 32 by decide)
  have hused := usedOffset_lt (num_le num) (show 12 < 32 by decide)
  have hoffset := roundUp_lt (n := 18 * (num.setWidth 32).toNat + 6) (Nat.two_pow_pos 12)
  rw [usedOffset, toNat_setWidth_num] at hsize
  rw [toNat_setWidth_num] at hoffset
  have halign : BitVec.twoPow 32 12 = virtioPciVringAlign := by decide
  rw [halign] at hsize
  generalize hring : vringSize (num.setWidth 32) virtioPciVringAlign = ring at hsize
  have hwidth : (ring.setWidth 64).toNat = ring.toNat := BitVec.toNat_setWidth_of_le (by decide)
  have hdata : (8 * num.setWidth 64 + vringControlBlockSize.setWidth 64).toNat =
      8 * num.toNat + 80 := by
    rw [vringDataSize_eq, BitVec.toNat_ofNat, Nat.mod_eq_of_lt (by omega)]
  have hringPages := roundUp_lt (n := ring.toNat) (show 0 < 4096 by decide)
  have hdataPages := roundUp_lt (n := 8 * num.toNat + 80) (show 0 < 4096 by decide)
  have hdataLe := le_roundUp (n := 8 * num.toNat + 80) (show 0 < 4096 by decide)
  have hringRound : (roundToPages (ring.setWidth 64)).toNat = roundUp ring.toNat 4096 := by
    rw [toNat_roundToPages (by omega), hwidth]
  have hdataRound : (roundToPages (8 * num.setWidth 64 +
      vringControlBlockSize.setWidth 64)).toNat = roundUp (8 * num.toNat + 80) 4096 := by
    rw [toNat_roundToPages (by omega), hdata]
  refine ⟨_, by rw [vioLegacyQueryVqAlloc, if_neg (by simpa using hnum)], fun queue => ?_⟩
  rw [controlRegion, legacyControl, hring]
  have hcontrol : roundToPages (ring.setWidth 64) = BitVec.ofNat 64 (roundUp ring.toNat 4096) := by
    rw [← hringRound, BitVec.ofNat_toNat, BitVec.setWidth_eq]
  rw [hcontrol]
  apply bytes_subset
  · rw [← hcontrol]
    simp only [BitVec.toNat_add, BitVec.toNat_setWidth, hringRound, hdataRound]
    have hblock : vringControlBlockSize.toNat = 80 := rfl
    omega
  · exact (BitVec.isLt _).trans (by decide)

/-- **The layout of a ring.** The parts of a ring are aligned, different memory and in the bytes
that `vring_size` counts; the control block of a legacy queue ends in its memory. -/
theorem ring_layout {num : BitVec 16} (hnum : num ≠ 0) :
    (∀ (align : BitVec 32) (k : Nat) (p : BitVec 64), align.toNat = 2 ^ k → 4 ≤ align.toNat →
      p.toNat % align.toNat = 0 →
      (vringInit (num.setWidth 32) p align).LaidOut (num.setWidth 32) p
        (vringSize (num.setWidth 32) align).toNat) ∧
    ∃ ringSize, vioLegacyQueryVqAlloc num 0 = .ok (num, ringSize, 0) ∧
      ∀ queue, (controlRegion num (legacyControl num queue)).bytes ⊆
        (Region.mk queue ringSize.toNat).bytes := by
  refine ⟨fun align k p halign hfour hp => ?_, legacyControl_inside hnum⟩
  have hk' : k < 32 := by
    have hlt := align.isLt
    rw [halign] at hlt
    exact (Nat.pow_lt_pow_iff_right (by decide)).mp hlt
  have hk : 2 ≤ k := by
    rw [halign] at hfour
    exact (Nat.pow_le_pow_iff_right (a := 2) (n := 2) (by decide)).mp hfour
  obtain rfl : align = BitVec.twoPow 32 k :=
    BitVec.eq_of_toNat_eq (halign.trans (toNat_twoPow_of_lt hk').symm)
  rw [halign] at hp
  exact vringInit_laidOut (num_le num) hk hk' hp

theorem ring_layout_large :
    (vringInit 128 0x1000 64).LaidOut 128 0x1000 (vringSize 128 64).toNat := by
  have hnum : (128 : BitVec 16) ≠ 0 := by decide
  exact (ring_layout hnum).1 64 6 0x1000 (by decide) (by decide) (by decide)

end VioGpu.VirtIO
