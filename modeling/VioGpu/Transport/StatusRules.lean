import VioGpu.Transport.Host

/-!
# The status of the device

Apart from the bit that the device sets by itself, the status is known along an initialization: it
is what the driver has written, bit by bit, and `FEATURES_OK` may have been refused. `Phase h bits`
says that it is `bits`. The lemmas here say what the status functions and the feature functions ask
of a phase, and which phase they lead to.
-/

namespace VioGpu.Transport

open Lib VirtIO

/-! ## Accesses -/

section

variable {h : Host} {w : Nat} {r : Register w} {β : Type} {post : β → Host → Prop}

theorem ensures_read_bind {f : BitVec w → TransportProgram β} (hasked : h.Requires (.read r))
    (hnext : ∀ v h', h.Read r v h' → hostInterface.Ensures (f v) post h') :
    hostInterface.Ensures (ioread r >>= f) post h := ⟨hasked, hnext⟩

theorem ensures_write_bind {v : BitVec w} {f : Unit → TransportProgram β}
    (hasked : h.WriteAsked r v)
    (hnext : ∀ h', h.Written r v h' → hostInterface.Ensures (f ()) post h') :
    hostInterface.Ensures (iowrite v r >>= f) post h := ⟨hasked, fun () => hnext⟩

theorem ensures_read {post : BitVec w → Host → Prop} (hasked : h.Requires (.read r))
    (hnext : ∀ v h', h.Read r v h' → post v h') :
    hostInterface.Ensures (ioread r) post h := ⟨hasked, hnext⟩

theorem ensures_write {post : Unit → Host → Prop} {v : BitVec w} (hasked : h.WriteAsked r v)
    (hnext : ∀ h', h.Written r v h' → post () h') :
    hostInterface.Ensures (iowrite v r) post h := ⟨hasked, fun () => hnext⟩

theorem ensures_call_of {c : TransportCall} {next : c.Ans → TransportProgram β}
    (hasked : h.Requires c)
    (hnext : ∀ answer h', h.Answers c answer h' → hostInterface.Ensures (next answer) post h') :
    hostInterface.Ensures (.call c next) post h := ⟨hasked, hnext⟩

end

theorem read_deviceStatus {h h' : Host} {v : BitVec 8} (hidle : h.resetting = false)
    (hread : h.Read .deviceStatus v h') : h.Shows v ∧ h' = h := by
  have hreset : ¬h.resetting = true := by rw [hidle]; exact Bool.false_ne_true
  simpa only [Host.Read, if_neg hreset] using hread

theorem read_resetting {h h' : Host} {v : BitVec 8} (hresetting : h.resetting = true)
    (hread : h.Read .deviceStatus v h') : (v ≠ 0 ∧ h' = h) ∨ (v = 0 ∧ h.Reset h') := by
  simpa only [Host.Read, if_pos hresetting] using hread

theorem written_deviceStatus {h h' : Host} {v : BitVec 8} (hv : v ≠ 0)
    (hw : h.Written .deviceStatus v h') : h.StatusWritten v h' := by
  simpa only [Host.Written, if_neg hv] using hw

theorem written_pciStatus {h h' : Host} {v : BitVec 8} (hv : v ≠ 0)
    (hw : h.Written .pciStatus v h') : h.StatusWritten v h' := by
  simpa only [Host.Written, if_neg hv] using hw

/-! ## Phases -/

/-- No reset is going on, and the status shows `bits` and maybe `DEVICE_NEEDS_RESET`. -/
structure Phase (h : Host) (bits : BitVec 8) : Prop where
  idle : h.resetting = false
  status : h.status &&& 0xbf = bits

theorem Phase.and_eq {h : Host} {bits b : BitVec 8} (hp : Phase h bits) (hb : 0xbf &&& b = b) :
    h.status &&& b = bits &&& b := by
  rw [← hp.status, BitVec.and_assoc, hb]

theorem Phase.has_iff {h : Host} {bits b : BitVec 8} (hp : Phase h bits) (hb : 0xbf &&& b = b) :
    h.Has b ↔ bits &&& b ≠ 0 := by
  rw [Host.Has, hp.and_eq hb]

theorem Phase.live_iff {h : Host} {bits : BitVec 8} (hp : Phase h bits) :
    h.Live ↔ bits &&& virtioConfigSDriverOk ≠ 0 :=
  hp.has_iff (by decide)

theorem Phase.shown {h : Host} {bits v : BitVec 8} (hp : Phase h bits) (hv : h.Shows v) :
    v &&& 0xbf = bits := by
  obtain rfl | rfl := hv
  · exact hp.status
  · have hbit : (0x40 : BitVec 8) &&& 0xbf = 0 := by decide
    rw [BitVec.and_or_distrib_right, hp.status, hbit]
    simp only [BitVec.ofNat_eq_ofNat, BitVec.or_zero]

theorem Phase.of_reset {h h' : Host} (hreset : h.Reset h') : Phase h' 0 where
  idle := hreset.resetting
  status := by simp only [hreset.status, BitVec.ofNat_eq_ofNat, BitVec.zero_and]

/-- What is not the status of the device stays. -/
def OnlyStatus (h h' : Host) : Prop := h' = { h with status := h'.status }

/-- The bits that follow when `bit` is added: the device may refuse `FEATURES_OK`. -/
def Follows (bits bit next : BitVec 8) : Prop :=
  next = bits ||| bit ∨
    (bits &&& virtioConfigSFeaturesOk = 0 ∧ next = (bits ||| bit) &&& ~~~virtioConfigSFeaturesOk)

/-- Which bit may be added in a phase. -/
structure BitAsked (h : Host) (bits bit : BitVec 8) : Prop where
  own : 0xbf &&& bit = bit
  pos : bit ≠ 0
  driver : (bits ||| bit) &&& virtioConfigSDriver ≠ 0 →
    (bits ||| bit) &&& virtioConfigSAcknowledge ≠ 0
  featuresOk : (bits ||| bit) &&& virtioConfigSFeaturesOk ≠ 0 →
    (bits ||| bit) &&& virtioConfigSDriver ≠ 0
  driverOk : (bits ||| bit) &&& virtioConfigSDriverOk ≠ 0 →
    bits &&& virtioConfigSFeaturesOk ≠ 0 ∧
      (bits &&& virtioConfigSDriverOk ≠ 0 ∨ (bits &&& virtioConfigSFailed = 0 ∧ h.Backed))

theorem or_and_eq {v bits bit b : BitVec 8} (hv : v &&& 0xbf = bits) (hb : 0xbf &&& b = b) :
    (v ||| bit) &&& b = (bits ||| bit) &&& b := by
  rw [BitVec.and_or_distrib_right, BitVec.and_or_distrib_right, ← hv, BitVec.and_assoc v, hb]

theorem and_not_or_self (x y z : BitVec 8) : x &&& ~~~(x ||| y ||| z) = 0 := by
  rw [BitVec.not_or, BitVec.not_or, ← BitVec.and_assoc, ← BitVec.and_assoc, BitVec.and_not_self]
  simp only [BitVec.zero_and, BitVec.ofNat_eq_ofNat]

theorem BitAsked.statusAsked {h : Host} {bits bit v : BitVec 8} (hp : Phase h bits)
    (hbit : BitAsked h bits bit) (hv : h.Shows v) : h.StatusAsked (v ||| bit) where
  idle := hp.idle
  keeps := by
    obtain rfl | rfl := hv
    · have hnone : h.status ||| bit = h.status ||| 0 ||| bit := by
        simp only [BitVec.ofNat_eq_ofNat, BitVec.or_zero]
      rw [hnone]
      exact and_not_or_self _ _ _
    · exact and_not_or_self _ _ _
  driver := by
    rw [or_and_eq (hp.shown hv) (by decide), or_and_eq (hp.shown hv) (by decide)]
    exact hbit.driver
  featuresOk := by
    rw [or_and_eq (hp.shown hv) (by decide), or_and_eq (hp.shown hv) (by decide)]
    exact hbit.featuresOk
  driverOk := by
    rw [or_and_eq (hp.shown hv) (by decide)]
    intro hok
    obtain hlive | ⟨hfailed, hbacked⟩ := (hbit.driverOk hok).2
    · exact .inl (hp.live_iff.mpr hlive)
    · exact .inr ⟨by rw [hp.and_eq (by decide)]; exact hfailed, hbacked⟩

theorem Phase.written {h h' : Host} {bits bit v : BitVec 8} (hp : Phase h bits)
    (hbit : 0xbf &&& bit = bit) (hv : h.Shows v) (hw : h.StatusWritten (v ||| bit) h') :
    OnlyStatus h h' ∧ ∃ next, Follows bits bit next ∧ Phase h' next := by
  have hmask : (v ||| bit) &&& 0xbf = bits ||| bit := by
    rw [or_and_eq (hp.shown hv) (by decide), ← hp.status, BitVec.and_or_distrib_right,
      BitVec.and_assoc, BitVec.and_self, BitVec.and_comm bit, hbit]
  obtain rfl | ⟨hrefuse, rfl⟩ := hw
  · exact ⟨rfl, _, .inl rfl, hp.idle, hmask⟩
  · refine ⟨rfl, _, .inr ⟨?_, rfl⟩, hp.idle, ?_⟩
    · rw [hp.has_iff (by decide), not_not] at hrefuse
      exact hrefuse
    · show (v ||| bit) &&& ~~~virtioConfigSFeaturesOk &&& 0xbf = _
      rw [BitVec.and_assoc, BitVec.and_comm _ 0xbf, ← BitVec.and_assoc, hmask]

namespace VirtIODevice

variable {vdev : VirtIODevice} {ops : DeviceOps} {h : Host} {bits : BitVec 8}

/-! ## The functions for the status -/

/-- **`virtio_add_status`.** -/
theorem ensures_addStatus (hdevice : vdev.device = some ops) (hp : Phase h bits) {bit : BitVec 8}
    (hbit : BitAsked h bits bit) :
    hostInterface.Ensures (vdev.virtioAddStatus bit)
      (fun _ h' => OnlyStatus h h' ∧ ∃ next, Follows bits bit next ∧ Phase h' next) h := by
  have hzero : ∀ v : BitVec 8, v ||| bit ≠ 0 := by
    intro v hv
    exact hbit.pos (BitVec.or_eq_zero_iff.mp hv).2
  have hdriverOk : ∀ v, h.Shows v → (v ||| bit) &&& virtioConfigSDriverOk ≠ 0 →
      h.Has virtioConfigSFeaturesOk := by
    intro v hv hok
    rw [or_and_eq (hp.shown hv) (by decide)] at hok
    exact (hp.has_iff (by decide)).mpr (hbit.driverOk hok).1
  unfold virtioAddStatus virtioGetStatus virtioSetStatus
  rw [hdevice]
  cases ops with
  | modern =>
    refine ensures_read_bind trivial fun v h₁ hread => ?_
    obtain ⟨hv, rfl⟩ := read_deviceStatus hp.idle hread
    refine ensures_write (.inr ⟨hbit.statusAsked hp hv, hdriverOk v hv⟩) fun h' hw => ?_
    exact hp.written hbit.own hv (written_deviceStatus (hzero v) hw)
  | legacy =>
    refine ensures_read_bind hp.idle fun v h₁ hread => ?_
    obtain ⟨hv, rfl⟩ : h.Shows v ∧ h₁ = h := hread
    refine ensures_write (.inr (hbit.statusAsked hp hv)) fun h' hw => ?_
    exact hp.written hbit.own hv (written_pciStatus (hzero v) hw)

theorem ensures_resetLoop (fuel : Nat) (hresetting : h.resetting = true) :
    hostInterface.Ensures (resetLoop fuel) (fun _ h' => h.Reset h') h := by
  induction fuel with
  | zero => trivial
  | succ fuel ih =>
    refine ensures_read_bind trivial fun v h' hread => ?_
    obtain ⟨hv, rfl⟩ | ⟨hv, hreset⟩ := read_resetting hresetting hread
    · rw [if_neg hv]
      refine ensures_call_of trivial fun _ h'' hsleep => ?_
      obtain rfl : h'' = h' := hsleep
      exact ih
    · rw [if_pos hv]
      exact hreset

/-- **`virtio_device_reset`** ends when the reset is done. -/
theorem ensures_reset (hdevice : vdev.device = some ops) (fuel : Nat) :
    hostInterface.Ensures (vdev.virtioDeviceReset fuel) (fun _ h' => h.Reset h') h := by
  unfold virtioDeviceReset
  rw [hdevice]
  cases ops with
  | modern =>
    refine ensures_write_bind (.inl rfl) fun h₁ hw => ?_
    obtain rfl : h₁ = { h with resetting := true } := by
      simpa only [Host.Written, if_pos] using hw
    refine (ensures_resetLoop fuel rfl).mono fun _ h' hreset => ?_
    exact ⟨hreset.status, hreset.resetting, hreset.enable, hreset.pfn, hreset.pages,
      hreset.blocks⟩
  | legacy =>
    refine ensures_write (.inl rfl) fun h' hw => ?_
    simpa only [Host.Written, if_pos] using hw

/-- After `virtio_device_initialize`: the device is reset and knows its driver. -/
structure Started (h h' : Host) : Prop where
  phase : Phase h' 3
  enable : ∀ q, (h'.queue q).enable = false
  pfn : ∀ q, (h'.queue q).pfn = 0
  pages : h'.pages = h.pages
  blocks : h'.blocks = h.blocks

/-- `ACKNOWLEDGE` and `DRIVER` may be added after a reset. -/
theorem bitAsked_acknowledge (h : Host) : BitAsked h 0 virtioConfigSAcknowledge where
  own := by decide
  pos := by decide
  driver := by decide
  featuresOk := by decide
  driverOk hok := absurd hok (by decide)

theorem bitAsked_driver (h : Host) : BitAsked h 1 virtioConfigSDriver where
  own := by decide
  pos := by decide
  driver := by decide
  featuresOk := by decide
  driverOk hok := absurd hok (by decide)

/-- The end of `virtio_device_initialize`. -/
theorem ensures_start {α : Type} (hdevice : vdev.device = some ops) (fuel : Nat) (result : α) :
    hostInterface.Ensures (do
      vdev.virtioDeviceReset fuel
      vdev.virtioAddStatus virtioConfigSAcknowledge
      vdev.virtioAddStatus virtioConfigSDriver
      return result) (fun r h' => r = result ∧ Started h h') h := by
  refine (ensures_reset hdevice fuel).bind fun _ h₁ hreset => ?_
  refine (ensures_addStatus hdevice (.of_reset hreset) (bitAsked_acknowledge h₁)).bind
    fun _ h₂ hadded => ?_
  obtain ⟨honly₂, next, hnext, hphase⟩ := hadded
  obtain rfl : next = 1 := by
    obtain rfl | ⟨-, rfl⟩ := hnext <;> rfl
  refine (ensures_addStatus hdevice hphase (bitAsked_driver h₂)).bind fun _ h₃ hadded => ?_
  obtain ⟨honly₃, next, hnext, hphase⟩ := hadded
  obtain rfl : next = 3 := by
    obtain rfl | ⟨-, rfl⟩ := hnext <;> rfl
  have hsame : h₃ = { h₁ with status := h₃.status } := by
    rw [honly₂] at honly₃
    exact honly₃
  refine ⟨rfl, hphase, ?_, ?_, ?_, ?_⟩
  · rw [hsame]
    exact hreset.enable
  · rw [hsame]
    exact hreset.pfn
  · rw [hsame]
    exact hreset.pages
  · rw [hsame]
    exact hreset.blocks

/-- What `virtio_device_initialize` makes of the device structure. -/
structure Made (vdev : VirtIODevice) (ops : DeviceOps) : Prop where
  device : vdev.device = some ops
  addr : ops = .modern → vdev.addr = 0
  maxQueues : vdev.maxQueues = VirtIO.VirtIODevice.maxQueuesPerDeviceDefault
  infoTable : vdev.infoTable = .inlineInfo
  infoSize : vdev.infoSize = VirtIO.VirtIODevice.maxQueuesPerDeviceDefault
  info : ∀ i, (vdev.info i).vq = none

/-- What holds after `virtio_device_initialize`. A device that fails has no operations. -/
def Initialized (h : Host) (r : Except TransportStatus Unit × VirtIODevice) (h' : Host) : Prop :=
  (r.1 = .ok () ∧ Started h h' ∧ ∃ ops, Made r.2 ops) ∨
    (r.1 ≠ .ok () ∧ h' = h ∧ r.2.device = none)

theorem ensures_findOperations (msixUsed : Bool) (h : Host) :
    hostInterface.Ensures (findOperations msixUsed) (fun r h' => h' = h ∧
      ((r.1 = .ok () ∧ ∃ ops, Made r.2 ops) ∨ (r.1 ≠ .ok () ∧ r.2.device = none))) h := by
  refine ensures_call_of trivial fun answer h₁ hanswer => ?_
  obtain rfl : h₁ = h := hanswer
  split
  · exact ⟨rfl, .inl ⟨rfl, .modern, rfl, fun _ => rfl, rfl, rfl, rfl, fun _ => rfl⟩⟩
  · refine ensures_call_of trivial fun addr h₂ hports => ?_
    obtain rfl : h₂ = h₁ := hports
    split
    · exact ⟨rfl, .inr ⟨by simp, rfl⟩⟩
    · have hmade : Made { zeroed msixUsed with addr := addr, device := some .legacy } .legacy :=
        ⟨rfl, fun hops => (by cases hops), rfl, rfl, rfl, fun _ => rfl⟩
      exact ⟨rfl, .inl ⟨rfl, .legacy, hmade⟩⟩
  · exact ⟨rfl, .inr ⟨by simp, rfl⟩⟩

/-- **`virtio_device_initialize`.** -/
theorem ensures_initialize (msixUsed : Bool) (fuel : Nat) (h : Host) :
    hostInterface.Ensures (virtioDeviceInitialize msixUsed fuel) (Initialized h) h := by
  refine (ensures_findOperations msixUsed h).bind fun r h₁ hr => ?_
  obtain ⟨status, vdev⟩ := r
  obtain ⟨rfl, ⟨hok, ops, hmade⟩ | ⟨hfail, hnone⟩⟩ := hr
  · cases hok
    refine (ensures_start hmade.device fuel _).mono fun r h' hr => ?_
    obtain ⟨rfl, hstarted⟩ := hr
    exact .inl ⟨rfl, hstarted, ops, hmade⟩
  · cases status with
    | ok => exact absurd rfl hfail
    | error status => exact .inr ⟨hfail, rfl, hnone⟩

end VirtIODevice

end VioGpu.Transport
