import VioGpu.Transport.QueueSetup

/-!
# The life of a device

`GpuDevice` starts its device in `HWInit` and `GpuDeviceInit` and stops it in `GpuDeviceClose`,
each any number of times and in any order. Whatever the order, and whatever the device and the
allocations answer, every access is one that the interface of the device asks for; hence the device
never uses memory that is not allocated while it is running. An initialization that succeeds leaves
a modern device with the features it was asked for and with its two queues in service.

A run need not come to an end: an assertion may fail, and a device may never complete its reset.
What is said of every access and of every moment is said of such a run up to there.
-/

namespace VioGpu.Transport

open Lib VirtIO

/-! ## Statuses between the operations -/

/-- What the status shows between two operations. -/
def KnownBits (bits : BitVec 8) : Prop :=
  bits = 0 ∨ bits = 0xf ∨ bits = 0x80 ∨ bits = 0x83 ∨ bits = 0x8b ∨ bits = 0x8f

/-- What it shows where an initialization has failed. -/
def FailingBits (bits : BitVec 8) : Prop := KnownBits bits ∨ bits = 3 ∨ bits = 0xb

theorem FailingBits.asked {bits : BitVec 8} (hb : FailingBits bits) (h : Host) :
    BitAsked h bits virtioConfigSFailed := by
  obtain (rfl | rfl | rfl | rfl | rfl | rfl) | rfl | rfl := hb
  all_goals
    exact ⟨by decide, by decide, by decide, by decide, fun hok =>
      ⟨by revert hok; decide, .inl (by revert hok; decide)⟩⟩

theorem FailingBits.failed {bits next : BitVec 8} (hb : FailingBits bits)
    (hnext : Follows bits virtioConfigSFailed next) : KnownBits next := by
  unfold KnownBits
  obtain (rfl | rfl | rfl | rfl | rfl | rfl) | rfl | rfl := hb
  all_goals
    obtain rfl | ⟨hclear, rfl⟩ := hnext
    · decide
    · revert hclear
      decide

/-- `DRIVER_OK` may be added when every enabled queue has its ring. -/
theorem bitAsked_driverOk {h : Host} (hb : h.Backed) : BitAsked h 0xb virtioConfigSDriverOk where
  own := by decide
  pos := by decide
  driver := by decide
  featuresOk := by decide
  driverOk _ := ⟨by decide, .inr ⟨by decide, hb⟩⟩

namespace GpuTransport

/-! ## Between the operations -/

/-- The device structure of a legacy device, which no queue was set up on. -/
structure Legacy (vdev : VirtIODevice) : Prop where
  device : vdev.device = some .legacy
  infoTable : vdev.infoTable = .inlineInfo
  info : ∀ i, (vdev.info i).vq = none

/-- A device structure that an initialization has left. -/
def Managed (vdev : VirtIODevice) : Prop := vdev.Modern ∨ Legacy vdev

/-- What holds between two operations: there are no operations of a device, or its status is known
and the memory of its queues is allocated. -/
def Resting (g : GpuTransport) (h : Host) : Prop :=
  g.vioDev.device = none ∨
    (Managed g.vioDev ∧ Table g.vioDev h ∧ ∃ bits, KnownBits bits ∧ Phase h bits)

/-- What holds where an initialization gives up. -/
def Failing (g : GpuTransport) (h : Host) : Prop :=
  g.vioDev.device = none ∨
    (Managed g.vioDev ∧ Table g.vioDev h ∧ ∃ bits, FailingBits bits ∧ Phase h bits)

variable {g : GpuTransport} {h : Host}

theorem Resting.failing (hr : Resting g h) : Failing g h := by
  obtain hnone | ⟨hm, ht, bits, hbits, hp⟩ := hr
  · exact .inl hnone
  · exact .inr ⟨hm, ht, bits, .inl hbits, hp⟩

theorem Managed.device {vdev : VirtIODevice} (hm : Managed vdev) :
    ∃ ops, vdev.device = some ops := by
  obtain hm | hl := hm
  · exact ⟨_, hm.device⟩
  · exact ⟨_, hl.device⟩

theorem table_of_none {vdev : VirtIODevice} (hnone : ∀ i, (vdev.info i).vq = none) (h : Host) :
    Table vdev h where
  owned i vq hvq := by
    rw [hnone i] at hvq
    cases hvq
  apart i j vq vq' _ hvq := by
    rw [hnone i] at hvq
    cases hvq

/-- The device has the features of the guest word, and exactly its two queues, each with its ring in
allocated pages. -/
structure Operating (g : GpuTransport) (h : Host) : Prop where
  modern : g.vioDev.device = some .modern
  status : Phase h 0xf
  features : h.guestFeatures = vringTransportFeatures g.guestFeatures
  version1 : Device.virtioIsFeatureEnabled g.guestFeatures Device.virtioFVersion1 = true
  enabled : ∀ q, (h.queue q).enable = true ↔ q.toNat < 2
  rings : ∀ i < 2, ∃ vq p, (g.vioDev.info i).vq = some vq ∧ p ∈ h.pages ∧ VringIn p vq.vring ∧
    Programmed p vq.vring (h.queue (BitVec.ofNat 16 i))
  table : Table g.vioDev h

/-- How an initialization ends. -/
structure Ends (r : Except TransportStatus Unit × GpuTransport) (h : Host) : Prop where
  resting : Resting r.2 h
  ok : r.1 = .ok () → Operating r.2 h

/-- `VIRTIO_CONFIG_S_FAILED` is set in the end. -/
theorem ensures_finish_error (hf : Failing g h) (status : TransportStatus) :
    hostInterface.Ensures (g.finish (.error status)) Ends h := by
  unfold finish
  obtain hnone | ⟨hm, ht, bits, hbits, hp⟩ := hf
  · unfold VirtIODevice.virtioAddStatus VirtIODevice.virtioGetStatus
    rw [hnone]
    trivial
  · obtain ⟨ops, hdevice⟩ := hm.device
    refine (VirtIODevice.ensures_addStatus hdevice hp (hbits.asked h)).bind fun _ h₁ hadded => ?_
    obtain ⟨honly, next, hnext, hp₁⟩ := hadded
    refine ⟨.inr ⟨hm, ht.kept honly.kept, next, hbits.failed hnext, hp₁⟩, fun hok => ?_⟩
    cases hok

/-- What an initialization has when nothing is left but to say that the driver is ready. -/
structure Prepared (g : GpuTransport) (h : Host) : Prop where
  modern : g.vioDev.Modern
  serving : Serving (vringTransportFeatures g.guestFeatures) g.vioDev h 2
  version1 : Device.virtioIsFeatureEnabled g.guestFeatures Device.virtioFVersion1 = true

theorem Prepared.failing (hp : Prepared g h) : Failing g h :=
  .inr ⟨.inl hp.modern, hp.serving.table, 0xb, .inr (.inr rfl), hp.serving.phase⟩

/-- **`virtio_device_ready`** in the end. -/
theorem ensures_finish_ok (hp : Prepared g h) :
    hostInterface.Ensures (g.finish (.ok ())) Ends h := by
  have hs := hp.serving
  unfold finish
  refine (VirtIODevice.ensures_addStatus hp.modern.device hs.phase
    (bitAsked_driverOk hs.backed)).bind fun _ h₁ hadded => ?_
  obtain ⟨honly, next, hnext, hp₁⟩ := hadded
  obtain rfl : next = 0xf := by
    obtain rfl | ⟨hclear, -⟩ := hnext
    · rfl
    · exact absurd hclear (by decide)
  have hk := honly.kept
  have ht := hs.table.kept hk
  have hguest : h₁.guestFeatures = h.guestFeatures := by rw [honly]
  refine ⟨.inr ⟨.inl hp.modern, ht, 0xf, .inr (.inl rfl), hp₁⟩, fun _ => ?_⟩
  refine ⟨hp.modern.device, hp₁, hguest.trans hs.features, hp.version1, fun q => ?_,
    fun i hi => ?_, ht⟩
  · rw [hk.queue]
    refine ⟨hs.enabled q, fun hq => ?_⟩
    have henable := (hs.programmed q.toNat hq).1
    rwa [BitVec.ofNat_toNat, BitVec.setWidth_eq] at henable
  · rw [hk.queue, hk.pages]
    exact (hs.programmed i hi).2

/-! ## Initializing -/

theorem version1_enabled (word : BitVec 64) : Device.virtioIsFeatureEnabled
    (Device.virtioFeatureEnable word Device.virtioFVersion1) Device.virtioFVersion1 = true := by
  have hne : (word ||| (1#64 <<< Device.virtioFVersion1)) &&& (1#64 <<< Device.virtioFVersion1) ≠
      0#64 := by
    rw [BitVec.and_or_distrib_right, BitVec.and_self]
    intro hzero
    exact absurd (BitVec.or_eq_zero_iff.mp hzero).2 (by decide)
  exact bne_iff_ne.mpr hne

/-- How `negotiate` ends. -/
structure Negotiated (r : Except TransportStatus Unit × GpuTransport) (h : Host) : Prop where
  ok : r.1 = .ok () → Prepared r.2 h
  error : ∀ status, r.1 = .error status → Failing r.2 h

open VirtIODevice in
/-- **From `virtio_get_features` to `virtio_find_queues`.** -/
theorem ensures_negotiate {h₀ : Host} {ops : DeviceOps} (hmade : Made g.vioDev ops)
    (hstarted : Started h₀ h) : hostInterface.Ensures g.negotiate Negotiated h := by
  have hmanaged : Managed g.vioDev := by
    cases ops with
    | modern => exact .inl hmade.modern
    | legacy => exact .inr ⟨hmade.device, hmade.infoTable, hmade.info⟩
  have hfailing : ∀ {g' : GpuTransport} {h' : Host}, g'.vioDev = g.vioDev → Phase h' 3 →
      Failing g' h' := by
    intro g' h' hsame hp
    rw [Failing, hsame]
    exact .inr ⟨hmanaged, table_of_none hmade.info h', 3, .inr (.inl rfl), hp⟩
  unfold negotiate
  refine (ensures_getFeatures hmade.device hstarted.phase.idle).bind fun offered h₁ hshown => ?_
  obtain ⟨hoffered, sel, rfl⟩ := hshown
  have hp₁ : Phase { h with deviceFeatureSelect := sel } 3 :=
    ⟨hstarted.phase.idle, hstarted.phase.status⟩
  unfold ackFeature
  dsimp only
  split
  · rename_i hacked
    have hversion := version1_enabled g.guestFeatures
    cases ops with
    | legacy =>
      have hnone := version1_legacy (h.offered.extractLsb' 0 32)
      rw [hoffered] at hacked
      exact absurd (hacked.symm.trans hnone) (by decide)
    | modern =>
      refine (ensures_setFeatures hmade.device hp₁ hversion).bind fun r h₂ hagreed => ?_
      cases r with
      | error status =>
        exact ⟨fun hok => (by cases hok), fun _ _ => hfailing rfl (hagreed.refused (by simp))⟩
      | ok =>
        obtain ⟨hp₂, hfeatures⟩ := hagreed.ok rfl
        have hserving : Serving (vringTransportFeatures (Device.virtioFeatureEnable
            g.guestFeatures Device.virtioFVersion1)) g.vioDev h₂ 0 := by
          refine ⟨hp₂, hfeatures, fun q => ?_, table_of_none hmade.info h₂, fun i hi => ?_,
            fun q hq => ?_, fun i _ => hmade.info i⟩
          · rw [hagreed.kept.queue]
            exact hstarted.pfn q
          · exact absurd hi (Nat.not_lt_zero i)
          · rw [hagreed.kept.queue] at hq
            exact absurd ((hstarted.enable q).symm.trans hq) (by decide)
        refine (ensures_findQueues (n := 2) hmade.modern hserving (by decide)).bind
          fun r h₃ hfound => ?_
        obtain ⟨result, vdev⟩ := r
        cases result with
        | error status =>
          refine ⟨fun hok => (by cases hok), fun _ _ => ?_⟩
          have hholding := hfound.error status rfl
          exact .inr ⟨.inl hfound.modern, hholding.table, 0xb, .inr (.inr rfl), hholding.phase⟩
        | ok vqs =>
          exact ⟨fun _ => ⟨hfound.modern, hfound.ok vqs rfl, hversion⟩,
            fun status hstatus => (by cases hstatus)⟩
  · exact ⟨fun hok => (by cases hok), fun _ _ => hfailing rfl hp₁⟩

theorem ensures_queryAllocation (hp : Prepared g h) (index : Nat) :
    hostInterface.Ensures (g.queryAllocation (BitVec.ofNat 32 index))
      (fun _ h' => Prepared g h') h := by
  unfold queryAllocation VirtIODevice.virtioQueryQueueAllocation
  rw [hp.modern.device]
  refine (VirtIODevice.ensures_modernQueryVqAlloc hp.serving.phase.idle index).bind
    fun r h₁ hr => ?_
  obtain ⟨⟨sel, rfl⟩, -⟩ := hr
  have hp₁ : Prepared g { h with select := sel } :=
    ⟨hp.modern, hp.serving.selected sel, hp.version1⟩
  cases r with
  | error status => exact hp₁
  | ok a => exact hp₁

theorem ensures_readConfig (hp : Prepared g h) :
    hostInterface.Ensures readConfig (fun _ h' => h' = h) h := by
  refine ensures_call_of hp.serving.phase.idle fun v h₁ hread => ?_
  obtain rfl : h₁ = h := hread
  exact ensures_call_of hp.serving.phase.idle fun v h₂ hread => hread

/-- The last steps of `GpuDeviceInit` and `HWInit`. -/
theorem ensures_ready (hp : Prepared g h) :
    hostInterface.Ensures (do readConfig; g.finish (.ok ())) Ends h := by
  refine (ensures_readConfig hp).bind fun _ h₁ hsame => ?_
  subst hsame
  exact ensures_finish_ok hp

/-- A device structure without operations. -/
theorem failing_of_none (hnone : g.vioDev.device = none) : Failing g h := .inl hnone

/-- **`GpuDeviceInit`**, from any state of the object, the device and the memory. -/
theorem ensures_gpuDeviceInit (g : GpuTransport) (h : Host) (fuel : Nat) :
    hostInterface.Ensures (g.gpuDeviceInit fuel) Ends h := by
  unfold gpuDeviceInit
  refine (VirtIODevice.ensures_initialize false fuel h).bind fun r h₁ hinit => ?_
  obtain ⟨status, vdev⟩ := r
  obtain ⟨hok, hstarted, ops, hmade⟩ | ⟨hfail, rfl, hnone⟩ := hinit
  · cases hok
    refine (ensures_negotiate (g := { g with vioDev := vdev }) hmade hstarted).bind
      fun r h₂ hneg => ?_
    obtain ⟨status, g₂⟩ := r
    cases status with
    | error status => exact ensures_finish_error (hneg.error status rfl) status
    | ok => exact ensures_ready (hneg.ok rfl)
  · cases status with
    | ok => exact absurd rfl hfail
    | error status => exact ⟨.inl hnone, fun hok => (by cases hok)⟩

/-- **`HWInit`.** Where the resources are missing, it uses what it finds. -/
theorem ensures_hwInit {pciResources : Bool} (hr : pciResources = false → Resting g h)
    (fuel : Nat) : hostInterface.Ensures (g.hwInit pciResources fuel) Ends h := by
  unfold hwInit
  split
  · rename_i hmissing
    exact ensures_finish_error (hr hmissing).failing _
  · refine (VirtIODevice.ensures_initialize false fuel h).bind fun r h₁ hinit => ?_
    obtain ⟨status, vdev⟩ := r
    obtain ⟨hok, hstarted, ops, hmade⟩ | ⟨hfail, rfl, hnone⟩ := hinit
    · cases hok
      refine (ensures_negotiate (g := { g with vioDev := vdev }) hmade hstarted).bind
        fun r h₂ hneg => ?_
      obtain ⟨status, g₂⟩ := r
      cases status with
      | error status => exact ensures_finish_error (hneg.error status rfl) status
      | ok =>
        refine (ensures_queryAllocation (hneg.ok rfl) 0).bind fun ctrl h₃ hp₃ => ?_
        refine (ensures_queryAllocation hp₃ 1).bind fun cursor h₄ hp₄ => ?_
        refine ensures_call_of trivial fun buf h₅ hbuf => ?_
        obtain rfl : h₅ = h₄ := hbuf
        cases buf with
        | false => exact ensures_finish_error hp₄.failing _
        | true =>
          refine ensures_call_of trivial fun idr h₆ hidr => ?_
          obtain rfl : h₆ = h₅ := hidr
          cases idr with
          | false => exact ensures_finish_error hp₄.failing _
          | true => exact ensures_ready hp₄
    · cases status with
      | ok => exact absurd rfl hfail
      | error status => exact ensures_finish_error (failing_of_none hnone) status

/-! ## Closing -/

open VirtIODevice in
/-- Without queues there is nothing to delete. -/
theorem ensures_deleteQueues_legacy {vdev : VirtIODevice} (hl : Legacy vdev) :
    hostInterface.Ensures vdev.virtioDeleteQueues (fun vdev' h' => vdev' = vdev ∧ h' = h) h := by
  unfold Transport.VirtIODevice.virtioDeleteQueues
  split
  · exact ⟨rfl, rfl⟩
  · refine Interface.Ensures.foldlM (P := fun vdev' h' => vdev' = vdev ∧ h' = h)
      (fun vdev' i h' hinv => ?_) ⟨rfl, rfl⟩
    obtain ⟨rfl, rfl⟩ := hinv
    unfold Transport.VirtIODevice.deleteQueue
    split
    · trivial
    · simp only [hl.info i]
      exact ⟨rfl, rfl⟩

theorem shutdown_inline {vdev : VirtIODevice} (hinline : vdev.infoTable = .inlineInfo) :
    vdev.virtioDeviceShutdown = .done vdev := by
  unfold VirtIODevice.virtioDeviceShutdown
  rw [hinline]
  rfl

open VirtIODevice in
/-- **`GpuDeviceClose`.** -/
theorem ensures_gpuDeviceClose (hr : Resting g h) (fuel : Nat) :
    hostInterface.Ensures (g.gpuDeviceClose fuel) Resting h := by
  unfold gpuDeviceClose
  obtain hnone | ⟨hm, ht, -⟩ := hr
  · unfold virtioDeviceReset
    rw [hnone]
    trivial
  · obtain ⟨ops, hdevice⟩ := hm.device
    refine (ensures_reset hdevice fuel).bind fun _ h₁ hreset => ?_
    have ht₁ : Table g.vioDev h₁ := by
      refine ht.grow (fun p hp => ?_) (fun b hb => ?_)
      · rw [hreset.pages]
        exact hp
      · rw [hreset.blocks]
        exact hb
    have hp₁ : Phase h₁ 0 := .of_reset hreset
    obtain hmodern | hl := hm
    · have hholding : Holding g.vioDev h₁ 0 := ⟨hp₁, hreset.pfn, ht₁⟩
      refine (ensures_deleteQueues hmodern hholding (by decide)).bind fun vdev h₂ hpost => ?_
      obtain ⟨hm₂, hh₂⟩ := hpost
      rw [shutdown_inline hm₂.infoTable]
      exact .inr ⟨.inl hm₂, hh₂.table, 0, .inl rfl, hh₂.phase⟩
    · refine (ensures_deleteQueues_legacy hl).bind fun vdev h₂ hpost => ?_
      obtain ⟨rfl, rfl⟩ := hpost
      rw [shutdown_inline hl.infoTable]
      exact .inr ⟨.inr hl, ht₁, 0, .inl rfl, hp₁⟩

end GpuTransport

/-! ## Whole lives -/

/-- What happens to a `GpuDevice`; every loop that waits for a reset is cut off after `fuel`
turns. -/
inductive GpuEvent
  | hwInit (pciResources : Bool) (fuel : Nat)
  | gpuDeviceInit (fuel : Nat)
  | gpuDeviceClose (fuel : Nat)

namespace GpuTransport

/-- One event. -/
def handle (g : GpuTransport) : GpuEvent → TransportProgram GpuTransport
  | .hwInit pciResources fuel => do
    let (_, g) ← g.hwInit pciResources fuel
    return g
  | .gpuDeviceInit fuel => do
    let (_, g) ← g.gpuDeviceInit fuel
    return g
  | .gpuDeviceClose fuel => g.gpuDeviceClose fuel

/-- The events of a life, one after the other. -/
def life (events : List GpuEvent) (g : GpuTransport) : TransportProgram GpuTransport :=
  events.foldlM handle g

theorem ensures_handle {g : GpuTransport} {h : Host} (hr : Resting g h) (e : GpuEvent) :
    hostInterface.Ensures (g.handle e) Resting h := by
  cases e with
  | hwInit pciResources fuel =>
    exact (ensures_hwInit (fun _ => hr) fuel).bind fun r h' hends => hends.resting
  | gpuDeviceInit fuel =>
    exact (ensures_gpuDeviceInit g h fuel).bind fun r h' hends => hends.resting
  | gpuDeviceClose fuel => exact ensures_gpuDeviceClose hr fuel

theorem ensures_life {g : GpuTransport} {h : Host} (hr : Resting g h) (events : List GpuEvent) :
    hostInterface.Ensures (life events g) Resting h :=
  Interface.Ensures.foldlM (fun _ e _ hg => ensures_handle hg e) hr

/-- **The accesses are in order**: whatever happens to a new `GpuDevice`, in whatever order, every
access and every call is one that the interface of the device asks for. -/
theorem life_keeps (events : List GpuEvent) {g : GpuTransport} (hnew : g.vioDev.device = none)
    (h : Host) : hostInterface.Keeps (life events g) h :=
  (ensures_life (.inl hnew) events).keeps

theorem life_keeps_powerCycle : hostInterface.Keeps (life
    [.hwInit true 8, .gpuDeviceClose 8, .gpuDeviceInit 8] ⟨.zeroed false, 0, 0⟩) .poweredOn :=
  life_keeps _ rfl _

/-- **What an initialization that succeeds leaves**, whatever state it began in. -/
theorem init_operating (g : GpuTransport) (h : Host) (fuel : Nat) :
    hostInterface.Yields (g.hwInit true fuel) (fun r h' => r.1 = .ok () → Operating r.2 h') h ∧
    hostInterface.Yields (g.gpuDeviceInit fuel)
      (fun r h' => r.1 = .ok () → Operating r.2 h') h := by
  have hinit : hostInterface.Ensures (g.hwInit true fuel) Ends h :=
    ensures_hwInit (fun hmissing => absurd hmissing (by decide)) fuel
  exact ⟨fun r h' hreach => (hinit.yields r h' hreach).ok,
    fun r h' hreach => ((ensures_gpuDeviceInit g h fuel).yields r h' hreach).ok⟩

end GpuTransport

end VioGpu.Transport
