import Mathlib.Data.BitVec
import VioGpu.Device.AdapterPower

/-!
# The feature words

`HWInit` and `GpuDeviceInit` read the features that the host offers, enable
`VIRTIO_F_VERSION_1` in `m_u64GuestFeatures` if it is among them, and hand the guest word to
`virtio_set_features`. The constructor does not set the guest word, so that it starts as what
`operator new` fills the object with: 0xCD, since `helper.h` defines `DBG` in every build. The
interface of the library asks for a subset of what `virtio_get_features` returned.
-/

namespace VioGpu.Device

/-- The byte that `operator new` fills an object with. -/
def fillByte : BitVec 8 := 0xCD

/-- A member of 64 bits that nothing was written to. -/
def fillWord : BitVec 64 := fillByte.replicate 8

/-- `virtio_is_feature_enabled` -/
def virtioIsFeatureEnabled (featuresList : BitVec 64) (feature : Nat) : Bool :=
  featuresList &&& (1#64 <<< feature) != 0#64

/-- `virtio_feature_enable` -/
def virtioFeatureEnable (featuresList : BitVec 64) (feature : Nat) : BitVec 64 :=
  featuresList ||| (1#64 <<< feature)

/-- `VIRTIO_F_VERSION_1` -/
def virtioFVersion1 : Nat := 32

/-- A call of `virtio_set_features` with the word `virtio_get_features` returned before. -/
structure SetFeatures where
  offered : BitVec 64
  features : BitVec 64
  deriving DecidableEq, Repr

/-- What the interface asks of `virtio_set_features`. -/
def SetFeatures.Subset (c : SetFeatures) : Prop := c.features &&& c.offered = c.features

instance (c : SetFeatures) : Decidable c.Subset :=
  inferInstanceAs (Decidable (c.features &&& c.offered = c.features))

/-- `m_u64HostFeatures`, `m_u64GuestFeatures` and the calls of `virtio_set_features`. -/
structure Features where
  host : BitVec 64
  guest : BitVec 64
  calls : List SetFeatures

/-- The answers in one initialization: of `virtio_device_initialize`, `false` for a failure,
and of `virtio_get_features`. -/
structure InitAnswers where
  virtIoDeviceInit : Bool
  getFeatures : BitVec 64

namespace Features

/-- The constructor of `GpuDevice`. -/
def new : Features := ⟨fillWord, fillWord, []⟩

/-- `AckFeature` -/
def ackFeature (f : Features) (feature : Nat) : Bool × Features :=
  if virtioIsFeatureEnabled f.host feature then
    (true, { f with guest := virtioFeatureEnable f.guest feature })
  else (false, f)

/-- The part that `HWInit` and `GpuDeviceInit` share, from `VirtIoDeviceInit` to
`virtio_set_features`; what comes after that does not touch the words. -/
def negotiate (f : Features) (a : InitAnswers) : Features :=
  if a.virtIoDeviceInit = false then f
  else
    let f := { f with host := a.getFeatures }
    let (acked, f) := f.ackFeature virtioFVersion1
    if acked = false then f
    else { f with calls := f.calls ++ [⟨f.host, f.guest⟩] }

/-- `HWInit`; `pciResources` is the result of `m_PciResources.Init`. -/
def hwInit (f : Features) (pciResources : Bool) (a : InitAnswers) : Features :=
  if pciResources then f.negotiate a else f

/-- `GpuDevice::SetPowerState` -/
def setPowerState (f : Features) (state : DevicePowerState) (a : InitAnswers) : Features :=
  match state with
  | .unspecified | .d0 => f.negotiate a
  | .d1 | .d2 | .d3 => f

end Features

/-- A call of `VioGpuDod::SetPowerState`. -/
def Features.powerCall (f : Features) (p : PowerCall InitAnswers) : Features :=
  (f.setPowerState p.state p.first).setPowerState p.state p.second

/-- The life of a `GpuDevice`: `HWInit`, then changes of the power state. -/
structure DeviceLife where
  pciResources : Bool
  hwInit : InitAnswers
  power : List (PowerCall InitAnswers)

/-- The words after a life in an object that `operator new` gave. -/
def Features.run (l : DeviceLife) : Features :=
  l.power.foldl powerCall (new.hwInit l.pciResources l.hwInit)

/-! ## The words that are set -/

/-- The word the host offers in an initialization that gets to ask for it. -/
def InitAnswers.offer (a : InitAnswers) : List (BitVec 64) :=
  if a.virtIoDeviceInit then [a.getFeatures] else []

def PowerCall.offers (p : PowerCall InitAnswers) : List (BitVec 64) :=
  match p.state with
  | .unspecified | .d0 => p.first.offer ++ p.second.offer
  | .d1 | .d2 | .d3 => []

/-- The words the host offers in a life, one for each initialization. -/
def DeviceLife.offers (l : DeviceLife) : List (BitVec 64) :=
  (if l.pciResources then l.hwInit.offer else []) ++ l.power.flatMap PowerCall.offers

/-- The calls for a list of offers, when the guest word is `guest` once `VIRTIO_F_VERSION_1` is
enabled in it. -/
def setFor (guest : BitVec 64) (offers : List (BitVec 64)) : List SetFeatures :=
  (offers.filter fun w => virtioIsFeatureEnabled w virtioFVersion1).map (⟨·, guest⟩)

theorem setFor_append (guest : BitVec 64) (l m : List (BitVec 64)) :
    setFor guest (l ++ m) = setFor guest l ++ setFor guest m := by
  simp [setFor]

/-- The guest word with `VIRTIO_F_VERSION_1`. -/
def Features.enabled (f : Features) : BitVec 64 := virtioFeatureEnable f.guest virtioFVersion1

theorem virtioFeatureEnable_twice (w : BitVec 64) (feature : Nat) :
    virtioFeatureEnable (virtioFeatureEnable w feature) feature =
      virtioFeatureEnable w feature := by
  rw [virtioFeatureEnable, virtioFeatureEnable, BitVec.or_assoc, BitVec.or_self]

namespace Features

/-- `f'` comes from `f` by initializations in which the host offers `offers`. -/
structure Negotiated (f f' : Features) (offers : List (BitVec 64)) : Prop where
  enabled : f'.enabled = f.enabled
  calls : f'.calls = f.calls ++ setFor f.enabled offers

theorem Negotiated.refl (f : Features) : Negotiated f f [] :=
  ⟨rfl, (List.append_nil _).symm⟩

theorem Negotiated.trans {f g h : Features} {l m : List (BitVec 64)} (hfg : Negotiated f g l)
    (hgh : Negotiated g h m) : Negotiated f h (l ++ m) where
  enabled := hgh.enabled.trans hfg.enabled
  calls := by rw [hgh.calls, hfg.calls, hfg.enabled, setFor_append, List.append_assoc]

theorem negotiate_negotiated (f : Features) (a : InitAnswers) :
    Negotiated f (f.negotiate a) a.offer := by
  cases hinit : a.virtIoDeviceInit with
  | false =>
    have hsame : f.negotiate a = f := by simp [negotiate, hinit]
    rw [hsame, InitAnswers.offer, hinit]
    exact .refl f
  | true =>
    have hoffer : a.offer = [a.getFeatures] := by simp [InitAnswers.offer, hinit]
    rw [hoffer]
    cases hv : virtioIsFeatureEnabled a.getFeatures virtioFVersion1 with
    | false =>
      have heq : f.negotiate a = { f with host := a.getFeatures } := by
        simp [negotiate, hinit, ackFeature, hv]
      rw [heq]
      exact ⟨rfl, by simp [setFor, hv]⟩
    | true =>
      have heq : f.negotiate a =
          ⟨a.getFeatures, f.enabled, f.calls ++ [⟨a.getFeatures, f.enabled⟩]⟩ := by
        simp [negotiate, hinit, ackFeature, hv, enabled]
      rw [heq]
      exact ⟨virtioFeatureEnable_twice _ _, by simp [setFor, hv]⟩

theorem powerCall_negotiated (f : Features) (p : PowerCall InitAnswers) :
    Negotiated f (f.powerCall p) p.offers := by
  have hon : Negotiated f ((f.negotiate p.first).negotiate p.second)
      (p.first.offer ++ p.second.offer) :=
    (negotiate_negotiated f p.first).trans (negotiate_negotiated _ p.second)
  rw [powerCall, PowerCall.offers]
  cases p.state with
  | unspecified => exact hon
  | d0 => exact hon
  | d1 => exact .refl f
  | d2 => exact .refl f
  | d3 => exact .refl f

theorem power_negotiated (power : List (PowerCall InitAnswers)) (f : Features) :
    Negotiated f (power.foldl powerCall f) (power.flatMap PowerCall.offers) := by
  induction power generalizing f with
  | nil => exact .refl f
  | cons p power ih =>
    rw [List.foldl_cons, List.flatMap_cons]
    exact (powerCall_negotiated f p).trans (ih _)

/-- Every initialization in which the host offers `VIRTIO_F_VERSION_1` sets the word the object
was filled with and that feature, and no other one sets any. -/
theorem run_calls (l : DeviceLife) : (run l).calls = setFor new.enabled l.offers := by
  have hinit : Negotiated new (new.hwInit l.pciResources l.hwInit)
      (if l.pciResources then l.hwInit.offer else []) := by
    cases hpci : l.pciResources with
    | false => exact .refl _
    | true => exact negotiate_negotiated _ _
  rw [run, (hinit.trans (power_negotiated l.power _)).calls]
  exact List.nil_append _

/-- **When the features set are among the ones offered**: exactly when each host that offers
`VIRTIO_F_VERSION_1` offers all features of the fill pattern too. -/
theorem run_subset_iff (l : DeviceLife) :
    (∀ c ∈ (run l).calls, c.Subset) ↔
      ∀ w ∈ l.offers, virtioIsFeatureEnabled w virtioFVersion1 →
        0xCDCDCDCDCDCDCDCD#64 &&& w = 0xCDCDCDCDCDCDCDCD#64 := by
  have henabled : new.enabled = 0xCDCDCDCDCDCDCDCD#64 := by decide
  rw [run_calls, setFor, henabled]
  simp only [List.forall_mem_map, List.mem_filter, and_imp]
  rfl

/-- A host that offers `VIRTIO_F_VERSION_1` alone. -/
def plainHost : InitAnswers := ⟨true, 0x100000000⟩

/-- The fill pattern goes to the device as features. -/
theorem fill_set : ¬∀ l, ∀ c ∈ (run l).calls, c.Subset := by
  intro hall
  have hsub := hall ⟨true, plainHost, []⟩ ⟨0x100000000, 0xCDCDCDCDCDCDCDCD⟩
  exact absurd (hsub (by decide)) (by decide)

end Features

end VioGpu.Device
