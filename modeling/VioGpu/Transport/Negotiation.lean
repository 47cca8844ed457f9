import VioGpu.Transport.StatusRules

/-!
# The feature words

The features of a modern device are read and written in two windows of 32 bits, those of a legacy
device in one. What the driver leaves in the device is the word that it was asked for less the
transport features that `vring_transport_features` takes out. A legacy device shows no feature from
the 32nd on, and so never `VIRTIO_F_VERSION_1`.
-/

namespace VioGpu.Transport

open Lib VirtIO

/-! ## Words in two halves -/

theorem halves_eq (x : BitVec 64) :
    (x.extractLsb' 0 32).setWidth 64 ||| (x.extractLsb' 32 32).setWidth 64 <<< 32 = x := by
  apply BitVec.eq_of_getLsbD_eq
  intro i hi
  simp only [BitVec.getLsbD_or, BitVec.getLsbD_setWidth, BitVec.getLsbD_extractLsb',
    BitVec.getLsbD_shiftLeft]
  by_cases hlow : i < 32
  · simp [hi, hlow]
  · have hhigh : i - 32 < 32 := by omega
    have hback : 32 + (i - 32) = i := by omega
    simp [hi, hlow, hhigh, hback, show i - 32 < 64 by omega]

/-- A register of 64 bits that is written in two halves holds the word. -/
theorem highWritten_lowWritten (x v : BitVec 64) :
    Host.highWritten (Host.lowWritten x (v.setWidth 32)) ((v >>> 32).setWidth 32) = v := by
  apply BitVec.eq_of_getLsbD_eq
  intro i hi
  rw [Host.highWritten, Host.lowWritten, BitVec.getLsbD_append, BitVec.getLsbD_extractLsb']
  by_cases hlow : i < 32
  · rw [if_pos hlow, decide_eq_true hlow, Bool.true_and, Nat.zero_add]
    refine BitVec.getLsbD_append.trans ?_
    rw [if_pos hlow, BitVec.getLsbD_setWidth, decide_eq_true hlow, Bool.true_and]
  · have hhigh : i - 32 < 32 := by omega
    have hback : 32 + (i - 32) = i := by omega
    simp [hlow, hhigh, hback]

/-- A legacy device does not show `VIRTIO_F_VERSION_1`. -/
theorem version1_legacy (x : BitVec 32) :
    Device.virtioIsFeatureEnabled (x.setWidth 64) Device.virtioFVersion1 = false := by
  have hzero : x.setWidth 64 &&& (1#64 <<< Device.virtioFVersion1) = 0#64 := by
    apply BitVec.eq_of_getLsbD_eq
    intro i _
    rw [Device.virtioFVersion1, BitVec.getLsbD_and, BitVec.getLsbD_setWidth,
      BitVec.getLsbD_shiftLeft, BitVec.getLsbD_one, BitVec.getLsbD_zero]
    by_cases hi : i < 32
    · simp [hi]
    · rw [BitVec.getLsbD_of_ge x i (not_lt.mp hi)]
      simp
  rw [Device.virtioIsFeatureEnabled, hzero]
  rfl

/-! ## Frames -/

/-- The queues of the device and the memory stay. -/
structure Kept (h h' : Host) : Prop where
  queue : h'.queue = h.queue
  pages : h'.pages = h.pages
  blocks : h'.blocks = h.blocks

theorem Kept.refl (h : Host) : Kept h h := ⟨rfl, rfl, rfl⟩

theorem Kept.trans {h h' h'' : Host} (hk : Kept h h') (hk' : Kept h' h'') : Kept h h'' :=
  ⟨hk'.queue.trans hk.queue, hk'.pages.trans hk.pages, hk'.blocks.trans hk.blocks⟩

theorem OnlyStatus.kept {h h' : Host} (ho : OnlyStatus h h') : Kept h h' := by
  rw [OnlyStatus] at ho
  constructor
  · rw [ho]
  · rw [ho]
  · rw [ho]

namespace VirtIODevice

variable {vdev : VirtIODevice} {ops : DeviceOps} {h : Host} {bits : BitVec 8}

/-! ## Reading -/

/-- What `virtio_get_features` reads. -/
def shownFeatures (ops : DeviceOps) (h : Host) : BitVec 64 :=
  match ops with
  | .modern => h.offered
  | .legacy => (h.offered.extractLsb' 0 32).setWidth 64

/-- **`virtio_get_features`.** -/
theorem ensures_getFeatures (hdevice : vdev.device = some ops) (hidle : h.resetting = false) :
    hostInterface.Ensures vdev.virtioGetFeatures (fun v h' =>
      v = shownFeatures ops h ∧ ∃ sel, h' = { h with deviceFeatureSelect := sel }) h := by
  unfold virtioGetFeatures
  rw [hdevice]
  cases ops with
  | modern =>
    refine ensures_write_bind hidle fun h₁ hw => ?_
    obtain rfl : h₁ = { h with deviceFeatureSelect := 0 } := hw
    refine ensures_read_bind hidle fun low h₂ hread => ?_
    obtain ⟨rfl, rfl⟩ := hread
    refine ensures_write_bind hidle fun h₃ hw => ?_
    obtain rfl : h₃ = { h with deviceFeatureSelect := 1 } := hw
    refine ensures_read_bind hidle fun high h₄ hread => ?_
    obtain ⟨rfl, rfl⟩ := hread
    refine ⟨?_, 1, rfl⟩
    exact halves_eq h.offered
  | legacy =>
    refine ensures_read_bind hidle fun v h₁ hread => ?_
    obtain ⟨rfl, rfl⟩ := hread
    exact ⟨rfl, h₁.deviceFeatureSelect, rfl⟩

/-! ## Writing -/

/-- What the features are after they were written. -/
structure FeaturesWritten (h : Host) (features : BitVec 64) (h' : Host) : Prop where
  kept : Kept h h'
  status : h'.status = h.status
  resetting : h'.resetting = h.resetting
  offered : h'.offered = h.offered
  guestFeatures : h'.guestFeatures = vringTransportFeatures features

/-- **`vio_modern_set_features`.** -/
theorem ensures_modernSetFeatures {features : BitVec 64} (hasked : h.Negotiating) :
    hostInterface.Ensures (vioModernSetFeatures features) (fun r h' =>
      (r = .ok () → FeaturesWritten h features h') ∧ (r ≠ .ok () → h' = h)) h := by
  unfold vioModernSetFeatures
  by_cases hversion : Device.virtioIsFeatureEnabled (vringTransportFeatures features)
      Device.virtioFVersion1 = false
  · rw [if_pos hversion]
    exact ⟨fun hok => (by cases hok), fun _ => rfl⟩
  · rw [if_neg hversion]
    generalize hfeatures : vringTransportFeatures features = filtered
    refine ensures_write_bind hasked fun h₁ hw => ?_
    obtain rfl : h₁ = { h with guestFeatureSelect := 0 } := hw
    refine ensures_write_bind ⟨hasked.idle, hasked.driver, hasked.featuresOk⟩ fun h₂ hw => ?_
    obtain rfl : h₂ = { h with
        guestFeatureSelect := 0
        guestFeatures := Host.lowWritten h.guestFeatures (filtered.setWidth 32) } := hw
    refine ensures_write_bind ⟨hasked.idle, hasked.driver, hasked.featuresOk⟩ fun h₃ hw => ?_
    obtain rfl : h₃ = { h with
        guestFeatureSelect := 1
        guestFeatures := Host.lowWritten h.guestFeatures (filtered.setWidth 32) } := hw
    refine ensures_write_bind ⟨hasked.idle, hasked.driver, hasked.featuresOk⟩ fun h₄ hw => ?_
    obtain rfl : h₄ = { h with
        guestFeatureSelect := 1
        guestFeatures := Host.highWritten (Host.lowWritten h.guestFeatures (filtered.setWidth 32))
          ((filtered >>> 32).setWidth 32) } := hw
    refine ⟨fun _ => ⟨⟨rfl, rfl, rfl⟩, rfl, rfl, rfl, ?_⟩, fun hne => absurd rfl hne⟩
    rw [hfeatures]
    exact highWritten_lowWritten _ _

/-- `FEATURES_OK` may be added when the driver has made itself known. -/
theorem bitAsked_featuresOk (h : Host) : BitAsked h 3 virtioConfigSFeaturesOk where
  own := by decide
  pos := by decide
  driver := by decide
  featuresOk := by decide
  driverOk hok := absurd hok (by decide)

/-- How `virtio_set_features` ends on a modern device: the features stand, or were refused. -/
structure Agreed (h : Host) (features : BitVec 64) (r : Except TransportStatus Unit) (h' : Host) :
    Prop where
  kept : Kept h h'
  ok : r = .ok () → Phase h' 0xb ∧ h'.guestFeatures = vringTransportFeatures features
  refused : r ≠ .ok () → Phase h' 3

/-- **`virtio_set_features`** with `VIRTIO_F_VERSION_1`. -/
theorem ensures_setFeatures (hdevice : vdev.device = some .modern) (hp : Phase h 3)
    {features : BitVec 64}
    (hversion : Device.virtioIsFeatureEnabled features Device.virtioFVersion1 = true) :
    hostInterface.Ensures (vdev.virtioSetFeatures features) (Agreed h features) h := by
  have hasked : h.Negotiating := by
    refine ⟨hp.idle, (hp.has_iff (by decide)).mpr (by decide), fun hok => ?_⟩
    exact absurd ((hp.has_iff (by decide)).mp hok) (by decide)
  unfold virtioSetFeatures
  rw [hdevice]
  refine (ensures_modernSetFeatures hasked).bind fun r h₁ hr => ?_
  cases r with
  | error status =>
    obtain rfl := hr.2 (by simp)
    exact ⟨.refl h₁, fun hok => (by cases hok), fun _ => hp⟩
  | ok =>
    have hw := hr.1 rfl
    have hp₁ : Phase h₁ 3 := ⟨hw.resetting.trans hp.idle, by rw [hw.status]; exact hp.status⟩
    simp only [hversion, Bool.true_eq_false, if_false]
    refine (ensures_addStatus hdevice hp₁ (bitAsked_featuresOk h₁)).bind fun _ h₂ hadded => ?_
    obtain ⟨honly, next, hnext, hp₂⟩ := hadded
    have hguest : h₂.guestFeatures = h₁.guestFeatures := by rw [honly]
    unfold virtioGetStatus
    rw [hdevice]
    refine ensures_read_bind trivial fun v h₃ hread => ?_
    obtain ⟨hv, rfl⟩ := read_deviceStatus hp₂.idle hread
    have hbit : v &&& virtioConfigSFeaturesOk = next &&& virtioConfigSFeaturesOk := by
      rw [← hp₂.shown hv, BitVec.and_assoc]
      rfl
    rw [hbit]
    obtain rfl | ⟨-, rfl⟩ := hnext
    · rw [if_neg (by decide)]
      exact ⟨hw.kept.trans honly.kept, fun _ => ⟨hp₂, hguest.trans hw.guestFeatures⟩,
        fun hne => absurd rfl hne⟩
    · rw [if_pos (by decide)]
      exact ⟨hw.kept.trans honly.kept, fun hok => (by cases hok), fun _ => hp₂⟩

end VirtIODevice

end VioGpu.Transport
