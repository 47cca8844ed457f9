import VioGpu.Transport.LegacyTable

/-!
# The queues of a legacy device

`vio_legacy_setup_vq` gives the device the page frame number first and lays the ring out behind it.
The setup of the queues is all or nothing: where it fails, every number is taken back and every page
that it allocated is freed again. A run that faults has neither outcome; its accesses up to there
are those that the device asks for.
-/

namespace VioGpu.Transport

open Lib VirtIO

namespace VirtIODevice

variable {base : List Pages} {vdev : VirtIODevice} {h : Host} {n : Nat}

/-! ## Setting up -/

/-- What the setup of a queue of a legacy device is to leave. -/
structure LegacySetUp (base : List Pages) (vdev : VirtIODevice) (n : Nat)
    (r : Except TransportStatus Virtq × VirtIODevice) (h' : Host) : Prop where
  device : LegacyDevice r.2
  same : ∀ i, (r.2.info i).vq = (vdev.info i).vq
  ok : ∀ vq, r.1 = .ok vq →
    LegacyTable base (r.2.setInfo n { r.2.info n with vq := some vq }) h'
  error : ∀ status, r.1 = .error status → LegacyTable base r.2 h'

theorem LegacySetUp.failed {vdev' : VirtIODevice} (hl : LegacyDevice vdev')
    (hsame : ∀ i, (vdev'.info i).vq = (vdev.info i).vq) (ht : LegacyTable base vdev' h)
    (status : TransportStatus) : LegacySetUp base vdev n (.error status, vdev') h :=
  ⟨hl, hsame, fun vq hvq => (by cases hvq), fun _ _ => ht⟩

/-- `n` queues of the device are set up, and no others. -/
structure LegacyServing (base : List Pages) (vdev : VirtIODevice) (h : Host) (n : Nat) : Prop where
  device : LegacyDevice vdev
  table : LegacyTable base vdev h
  recorded : ∀ i, (vdev.info i).vq ≠ none ↔ i < n

theorem LegacyServing.blank (hs : LegacyServing base vdev h n) (i : Nat) (hi : n ≤ i) :
    (vdev.info i).vq = none := by
  by_contra hne
  exact absurd ((hs.recorded i).mp hne) (not_lt.mpr hi)

/-- A legacy device without queues that does not run yet. -/
structure LegacyStart (vdev : VirtIODevice) (h : Host) : Prop where
  device : LegacyDevice vdev
  info : ∀ i, (vdev.info i).vq = none
  idle : h.resetting = false
  live : ¬h.Live
  enable : ∀ q, (h.queue q).enable = false
  pfn : ∀ q, (h.queue q).pfn = 0

theorem LegacyStart.serving (hs : LegacyStart vdev h) : LegacyServing h.pages vdev h 0 where
  device := hs.device
  table := by
    refine ⟨hs.idle, hs.live, hs.enable, fun q hq => absurd (hs.pfn q) hq, hs.device.maxQueues,
      fun i hi => absurd (hs.info i) hi, fun i vq hvq => ?_, fun i j vq vq' _ hvq => ?_, ?_⟩
    · rw [hs.info i] at hvq
      cases hvq
    · rw [hs.info i] at hvq
      cases hvq
    · refine List.filter_eq_self.mpr fun p _ => ?_
      exact decide_eq_true fun i _ hi => absurd (hs.info i) hi
  recorded i := ⟨fun hi => absurd (hs.info i) hi, fun hi => absurd hi (Nat.not_lt_zero i)⟩

end VirtIODevice

end VioGpu.Transport
