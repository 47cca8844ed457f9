import Mathlib.Data.Nat.Bitwise
import VioGpu.VirtIO.Notification

/-!
# No notification is lost

The device sleeps when `avail->idx` is where it got, so that the entries it does not know of are
the ones added since. `num_added` counts all of these as long as no kick looked at them, and it
stays below 65535 between calls: the window of `vring_need_event` then reaches back to the index
the device published, and the kick notifies. Only 16 bits of each index are compared, which is
why the entries are counted from the moment the device fell asleep.
-/

namespace VioGpu.VirtIO

open Lib Virtqueue

variable {τ : Type}

/-! ## What the calls leave alone -/

/-- The fields that kicks are decided by are the same. -/
structure SameCounters (vq vq' : Virtqueue τ) : Prop where
  event : vq'.event = vq.event
  numAdded : vq'.numAdded = vq.numAdded
  availIdxShadow : vq'.availIdxShadow = vq.availIdxShadow
  availIdx : vq'.vring.avail.idx = vq.vring.avail.idx
  used : vq'.vring.used = vq.vring.used
  notified : vq'.notified = vq.notified

namespace SameCounters

variable {vq vq' vq'' : Virtqueue τ}

theorem refl (vq : Virtqueue τ) : SameCounters vq vq := ⟨rfl, rfl, rfl, rfl, rfl, rfl⟩

theorem trans (h : SameCounters vq vq') (h' : SameCounters vq' vq'') : SameCounters vq vq'' where
  event := h'.event.trans h.event
  numAdded := h'.numAdded.trans h.numAdded
  availIdxShadow := h'.availIdxShadow.trans h.availIdxShadow
  availIdx := h'.availIdx.trans h.availIdx
  used := h'.used.trans h.used
  notified := h'.notified.trans h.notified

theorem modifyDesc {i : Nat} {f : VringDesc → VringDesc} (h : vq.modifyDesc i f = .ok vq') :
    SameCounters vq vq' := by
  unfold Virtqueue.modifyDesc at h
  split at h
  · cases h
    exact ⟨rfl, rfl, rfl, rfl, rfl, rfl⟩
  · cases h

theorem writeData {i : Nat} {t : Option τ} (h : vq.writeData i t = .ok vq') :
    SameCounters vq vq' := by
  unfold Virtqueue.writeData at h
  split at h
  · cases h
    exact ⟨rfl, rfl, rfl, rfl, rfl, rfl⟩
  · cases h

theorem writeAvail {i head : Nat} (h : vq.writeAvail i head = .ok vq') : SameCounters vq vq' := by
  unfold Virtqueue.writeAvail at h
  split at h
  · cases h
    exact ⟨rfl, rfl, rfl, rfl, rfl, rfl⟩
  · cases h

theorem prepareHead {head : Nat} {data : τ} (h : VirtIO.prepareHead vq head data = .ok vq') :
    SameCounters vq vq' := by
  obtain ⟨vq₁, hdata, havail⟩ := bind_eq_ok h
  exact (writeData hdata).trans (writeAvail havail)

theorem fillDescs {flags : UInt16} {sgs : List Scatterlist} {i prev : Nat} {r : Nat × Nat}
    (h : VirtIO.fillDescs flags sgs vq i prev = .ok (vq', r)) : SameCounters vq vq' := by
  induction sgs generalizing vq i prev with
  | nil =>
    cases h
    exact refl _
  | cons sg rest ih =>
    obtain ⟨vq₁, hmod, h⟩ := bind_eq_ok h
    obtain ⟨d, -, h⟩ := bind_eq_ok h
    exact (modifyDesc hmod).trans (ih h)

theorem addDirect {out inn : List Scatterlist} {head : Nat}
    (h : VirtIO.addDirect vq out inn = .ok (head, vq')) : SameCounters vq vq' := by
  obtain ⟨⟨vq₁, i, prev⟩, hout, h⟩ := bind_eq_ok h
  obtain ⟨⟨vq₂, i, prev⟩, hin, h⟩ := bind_eq_ok h
  obtain ⟨vq₃, hlast, h⟩ := bind_eq_ok h
  cases h
  have hstart : SameCounters vq { vq with numFree := vq.numFree - outPlusIn out inn } :=
    ⟨rfl, rfl, rfl, rfl, rfl, rfl⟩
  have hend : SameCounters vq₃ { vq₃ with freeHead := i } := ⟨rfl, rfl, rfl, rfl, rfl, rfl⟩
  exact hstart.trans <| (fillDescs hout).trans <| (fillDescs hin).trans <|
    (modifyDesc hlast).trans hend

theorem vringAddIndirect {out inn : List Scatterlist} {phys head : Nat}
    (h : VirtIO.vringAddIndirect vq out inn phys = .ok (head, vq')) : SameCounters vq vq' := by
  obtain ⟨vq₁, hmod, h⟩ := bind_eq_ok h
  obtain ⟨d, -, h⟩ := bind_eq_ok h
  cases h
  have hsame := modifyDesc hmod
  exact ⟨hsame.event, hsame.numAdded, hsame.availIdxShadow, hsame.availIdx, hsame.used,
    hsame.notified⟩

theorem prepareBuf {out inn : List Scatterlist} {data : τ} {indirect : Option Nat}
    (h : VirtIO.prepareBuf vq out inn data indirect = .ok (some vq')) : SameCounters vq vq' := by
  have hdirect (h : (if vq.numFree < outPlusIn out inn then pure none
      else prepareDirect vq out inn data >>= fun r => pure (some r.2)) = .ok (some vq')) :
      SameCounters vq vq' := by
    split at h
    · cases h
    · obtain ⟨⟨head, vq₁⟩, hprep, h⟩ := bind_eq_ok h
      cases h
      obtain ⟨⟨head, vq₂⟩, hadd, hprep⟩ := bind_eq_ok hprep
      obtain ⟨vq₃, hhead, hprep⟩ := bind_eq_ok hprep
      cases hprep
      exact (addDirect hadd).trans (prepareHead hhead)
  cases indirect with
  | none => exact hdirect h
  | some phys =>
    simp only [ VirtIO.prepareBuf] at h
    split at h
    · obtain ⟨⟨head, vq₁⟩, hprep, h⟩ := bind_eq_ok h
      cases h
      obtain ⟨⟨head, vq₂⟩, hadd, hprep⟩ := bind_eq_ok hprep
      obtain ⟨vq₃, hhead, hprep⟩ := bind_eq_ok hprep
      cases hprep
      exact (vringAddIndirect hadd).trans (prepareHead hhead)
    · exact hdirect h

theorem detachWalk {fuel i : Nat} {r : Nat} (h : VirtIO.detachWalk vq fuel i = .ok (vq', r)) :
    SameCounters vq vq' := by
  induction fuel generalizing vq i with
  | zero => cases h
  | succ fuel ih =>
    obtain ⟨d, -, h⟩ := bind_eq_ok h
    split at h
    · have hstart : SameCounters vq { vq with numFree := vq.numFree + 1 } :=
        ⟨rfl, rfl, rfl, rfl, rfl, rfl⟩
      exact hstart.trans (ih h)
    · cases h
      exact refl _

theorem detachBuf {head : Nat} (h : VirtIO.detachBuf vq head = .ok vq') :
    SameCounters vq vq' := by
  obtain ⟨vq₁, hdata, h⟩ := bind_eq_ok h
  obtain ⟨⟨vq₂, i⟩, hwalk, h⟩ := bind_eq_ok h
  obtain ⟨vq₃, hmod, h⟩ := bind_eq_ok h
  cases h
  have hend : SameCounters vq₃ { vq₃ with freeHead := head, numFree := vq₃.numFree + 1 } :=
    ⟨rfl, rfl, rfl, rfl, rfl, rfl⟩
  exact (writeData hdata).trans <| (detachWalk hwalk).trans <| (modifyDesc hmod).trans hend

theorem advanceUsed (vq : Virtqueue τ) : SameCounters vq ( VirtIO.advanceUsed vq) := by
  unfold VirtIO.advanceUsed
  dsimp only
  split
  · exact ⟨rfl, rfl, rfl, rfl, rfl, rfl⟩
  · exact ⟨rfl, rfl, rfl, rfl, rfl, rfl⟩

theorem getBuf {r : GetResult τ} (h : virtqueueGetBuf vq = .ok (r, vq')) :
    SameCounters vq vq' := by
  unfold virtqueueGetBuf at h
  split at h
  · cases h
    exact refl vq
  split at h
  · cases h
    exact refl vq
  obtain ⟨e, -, h⟩ := bind_eq_ok h
  split at h
  · cases h
    exact refl vq
  obtain ⟨t, -, h⟩ := bind_eq_ok h
  cases t with
  | none =>
    cases h
    exact refl vq
  | some t =>
    obtain ⟨vq₁, hdetach, h⟩ := bind_eq_ok h
    cases h
    exact (detachBuf hdetach).trans (advanceUsed vq₁)

theorem linkFree {num fuel i j : Nat} (h : VirtIO.linkFree num fuel i vq = .ok (j, vq')) :
    SameCounters vq vq' := by
  induction fuel generalizing vq i with
  | zero => cases h
  | succ fuel ih =>
    unfold VirtIO.linkFree at h
    split at h
    · obtain ⟨vq₁, hmod, h⟩ := bind_eq_ok h
      obtain ⟨vq₂, hdata, h⟩ := bind_eq_ok h
      exact (modifyDesc hmod).trans ((writeData hdata).trans (ih h))
    · cases h
      exact refl _

end SameCounters

/-! ## The invariant -/

/-- A kick whose window holds the published index notifies. -/
theorem vringNeedEvent_window {e d a : Nat} (hd : 0 < d) (hda : d ≤ a)
    (ha : a < 65536) : vringNeedEvent e (u16 (e + d)) (sub16 (u16 (e + d)) a) = true := by
  have hnew : sub16 (u16 (e + d)) e = d := by
    unfold sub16 u16
    omega
  have hwindow : sub16 (u16 (e + d)) (sub16 (u16 (e + d)) a) = a := by
    unfold sub16 u16
    omega
  rw [vringNeedEvent, hnew, hwindow, decide_eq_true_eq]
  unfold sub16
  omega

namespace Doorbell

/-- What was added since the device got to `consumed` is among what no kick looked at. -/
def Unkicked (s : Doorbell τ) : Prop :=
  ∃ d ≤ s.vq.numAdded, s.vq.availIdxShadow = u16 (s.consumed + d)

/-- The invariant of the two sides. -/
structure Inv (s : Doorbell τ) : Prop where
  event : s.vq.event = true
  shadow : s.vq.vring.avail.idx = s.vq.availIdxShadow
  shadow_lt : s.vq.availIdxShadow < 65536
  consumed_lt : s.consumed < 65536
  added_lt : s.vq.numAdded < 65536
  wraps : s.vq.numAdded = 65535 → s.driver = .kicking
  published : s.device = .published → s.vq.vring.used.availEvent = s.consumed
  asleep : ∀ n, s.device = .asleep n → s.vq.vring.used.availEvent = s.consumed ∧
    (n < s.vq.notified ∨ n = s.vq.notified ∧ (s.driver = .notifying ∨ s.Unkicked))

theorem Inv.added_lt_of_idle {s : Doorbell τ} (h : s.Inv) (hidle : s.driver = .idle) :
    s.vq.numAdded < 65535 := by
  have hlt := h.added_lt
  have hne : s.vq.numAdded ≠ 65535 := fun heq => by
    rw [h.wraps heq] at hidle
    cases hidle
  omega

/-- A step that changes none of the counters, and the driver not to `idle` from `notifying`. -/
theorem Inv.sameCounters {s : Doorbell τ} {vq : Virtqueue τ} (h : s.Inv)
    (hsame : SameCounters s.vq vq) : Inv { s with vq } where
  event := hsame.event.trans h.event
  shadow := by rw [hsame.availIdx, hsame.availIdxShadow, h.shadow]
  shadow_lt := by rw [hsame.availIdxShadow]; exact h.shadow_lt
  consumed_lt := h.consumed_lt
  added_lt := by rw [hsame.numAdded]; exact h.added_lt
  wraps := by rw [hsame.numAdded]; exact h.wraps
  published := by rw [hsame.used]; exact h.published
  asleep n hn := by
    have hunkicked : Unkicked { s with vq } ↔ s.Unkicked := by
      simp only [Unkicked, hsame.numAdded, hsame.availIdxShadow]
    rw [hsame.used, hsame.notified, hunkicked]
    exact h.asleep n hn

/-- An idle driver that starts a kick, or is about to notify in any case. -/
theorem Inv.busy {s : Doorbell τ} (h : s.Inv) (hidle : s.driver = .idle) {at' : DriverAt} :
    Inv { s with driver := at' } where
  event := h.event
  shadow := h.shadow
  shadow_lt := h.shadow_lt
  consumed_lt := h.consumed_lt
  added_lt := h.added_lt
  wraps hwrap := by
    have hlt := h.added_lt_of_idle hidle
    have hwrap : s.vq.numAdded = 65535 := hwrap
    omega
  published := h.published
  asleep n hn := by
    obtain ⟨hevent, hlt | ⟨heq, hdriver | hun⟩⟩ := h.asleep n hn
    · exact ⟨hevent, .inl hlt⟩
    · rw [hidle] at hdriver
      cases hdriver
    · exact ⟨hevent, .inr ⟨heq, .inr hun⟩⟩

/-- The exposed entry is one more that no kick looked at. -/
theorem Inv.exposeHead {s : Doorbell τ} (h : s.Inv) (hidle : s.driver = .idle) :
    Inv { s with
      vq := VirtIO.exposeHead s.vq
      driver := if ( VirtIO.exposeHead s.vq).numAdded = 65535 then .kicking else .idle } where
  event := h.event
  shadow := rfl
  shadow_lt := Nat.mod_lt _ (by decide)
  consumed_lt := h.consumed_lt
  added_lt := by
    have hlt := h.added_lt_of_idle hidle
    show s.vq.numAdded + 1 < 65536
    omega
  wraps hwrap := if_pos hwrap
  published := h.published
  asleep n hn := by
    obtain ⟨hevent, hlt | ⟨heq, hdriver | ⟨d, hd, hshadow⟩⟩⟩ := h.asleep n hn
    · exact ⟨hevent, .inl hlt⟩
    · rw [hidle] at hdriver
      cases hdriver
    · refine ⟨hevent, .inr ⟨heq, .inr ⟨d + 1, Nat.succ_le_succ hd, ?_⟩⟩⟩
      show u16 (s.vq.availIdxShadow + 1) = u16 (s.consumed + (d + 1))
      rw [hshadow]
      unfold u16
      omega

/-- A kick that does not notify finds the device where the driver is. -/
theorem Inv.kickPrepare {s : Doorbell τ} (h : s.Inv) (hkick : s.driver = .kicking) :
    Inv { s with
      vq := (virtqueueKickPrepare s.vq).2
      driver := if (virtqueueKickPrepare s.vq).1 then .notifying else .idle } where
  event := h.event
  shadow := h.shadow
  shadow_lt := h.shadow_lt
  consumed_lt := h.consumed_lt
  added_lt := by show 0 < 65536; decide
  wraps hwrap := by cases hwrap
  published := h.published
  asleep n hn := by
    obtain ⟨hevent, hlt | ⟨heq, hdriver | ⟨d, hd, hshadow⟩⟩⟩ := h.asleep n hn
    · exact ⟨hevent, .inl hlt⟩
    · rw [hkick] at hdriver
      cases hdriver
    refine ⟨hevent, .inr ⟨heq, ?_⟩⟩
    have hneed : (virtqueueKickPrepare s.vq).1 = vringNeedEvent s.consumed
        (u16 (s.consumed + d)) (sub16 (u16 (s.consumed + d)) s.vq.numAdded) := by
      simp only [virtqueueKickPrepare, h.event, hevent, hshadow, if_true]
    by_cases hpos : 0 < d
    · rw [hneed, vringNeedEvent_window hpos hd h.added_lt]
      exact .inl rfl
    · obtain rfl : d = 0 := by omega
      exact .inr ⟨0, Nat.le_refl 0, hshadow⟩

/-- A kick that does not look at the ring. -/
theorem Inv.kickAlways {s : Doorbell τ} (h : s.Inv) :
    Inv { s with vq := { s.vq with numAdded := 0 }, driver := .notifying } where
  event := h.event
  shadow := h.shadow
  shadow_lt := h.shadow_lt
  consumed_lt := h.consumed_lt
  added_lt := by show 0 < 65536; decide
  wraps hwrap := by
    have hwrap : 0 = 65535 := hwrap
    omega
  published := h.published
  asleep n hn := by
    obtain ⟨hevent, hlt | ⟨heq, -⟩⟩ := h.asleep n hn
    · exact ⟨hevent, .inl hlt⟩
    · exact ⟨hevent, .inr ⟨heq, .inl rfl⟩⟩

/-- The notification itself. -/
theorem Inv.notify {s : Doorbell τ} (h : s.Inv) (hnotify : s.driver = .notifying) :
    Inv { s with vq := virtqueueNotify s.vq, driver := .idle } where
  event := h.event
  shadow := h.shadow
  shadow_lt := h.shadow_lt
  consumed_lt := h.consumed_lt
  added_lt := h.added_lt
  wraps hwrap := by
    have hkick := h.wraps hwrap
    rw [hnotify] at hkick
    cases hkick
  published := h.published
  asleep n hn := by
    obtain ⟨hevent, hlt | ⟨heq, -⟩⟩ := h.asleep n hn
    · exact ⟨hevent, .inl (Nat.lt_succ_of_lt hlt)⟩
    · exact ⟨hevent, .inl (by show n < s.vq.notified + 1; omega)⟩

/-- The device falls asleep: nothing was added since this moment. -/
theorem Inv.sleep {s : Doorbell τ} (h : s.Inv) (hdevice : s.device = .published)
    (hidx : s.vq.vring.avail.idx = s.consumed) :
    Inv { s with device := .asleep s.vq.notified } where
  event := h.event
  shadow := h.shadow
  shadow_lt := h.shadow_lt
  consumed_lt := h.consumed_lt
  added_lt := h.added_lt
  wraps := h.wraps
  published hp := by cases hp
  asleep n hn := by
    cases hn
    refine ⟨h.published hdevice, .inr ⟨rfl, .inr ⟨0, Nat.zero_le _, ?_⟩⟩⟩
    show s.vq.availIdxShadow = u16 (s.consumed + 0)
    rw [← h.shadow, hidx, Nat.add_zero, u16, Nat.mod_eq_of_lt h.consumed_lt]

/-- A step of the device to where it neither has published how far it got nor sleeps. -/
theorem Inv.deviceAt {s : Doorbell τ} (h : s.Inv) {at' : DeviceAt} (hpublished : at' ≠ .published)
    (hasleep : ∀ n, at' ≠ .asleep n) : Inv { s with device := at' } where
  event := h.event
  shadow := h.shadow
  shadow_lt := h.shadow_lt
  consumed_lt := h.consumed_lt
  added_lt := h.added_lt
  wraps := h.wraps
  published hp := absurd hp hpublished
  asleep n hn := absurd hn (hasleep n)

/-- The driver and the device keep the invariant in each step. -/
theorem Inv.step {s s' : Doorbell τ} {e : DoorbellEvent τ} (h : s.Inv)
    (hs : s.step e = some s') : s'.Inv := by
  cases e with
  | addBuf out inn data indirect =>
    simp only [Doorbell.step] at hs
    split_ifs at hs with hidle
    cases hprep : prepareBuf s.vq out inn data indirect with
    | error f => simp [hprep, Except.toOption] at hs
    | ok prepared =>
      simp only [hprep, Except.toOption, Option.map_some, Option.some.injEq] at hs
      subst hs
      cases prepared with
      | none => exact h.busy hidle
      | some vq => exact (h.sameCounters (.prepareBuf hprep)).exposeHead hidle
  | kick =>
    simp only [Doorbell.step] at hs
    split_ifs at hs with hidle
    cases hs
    exact h.busy hidle
  | kickAlways =>
    simp only [Doorbell.step] at hs
    split_ifs at hs with hidle
    cases hs
    exact h.kickAlways
  | kickPrepare =>
    by_cases hkick : s.driver = .kicking
    · simp only [Doorbell.step, if_pos hkick, Option.some.injEq] at hs
      subst hs
      exact h.kickPrepare hkick
    · simp [Doorbell.step, hkick] at hs
  | notify =>
    simp only [Doorbell.step] at hs
    split_ifs at hs with hnotify
    cases hs
    exact h.notify hnotify
  | getBuf =>
    simp only [Doorbell.step] at hs
    split_ifs at hs with hidle
    cases hget : virtqueueGetBuf s.vq with
    | error f => simp [hget, Except.toOption] at hs
    | ok r =>
      simp only [hget, Except.toOption, Option.map_some, Option.some.injEq] at hs
      subst hs
      exact h.sameCounters (.getBuf hget)
  | consume =>
    simp only [Doorbell.step] at hs
    split_ifs at hs with hcons
    cases hs
    have hdevice : s.device = .consuming := hcons.1
    refine ⟨h.event, h.shadow, h.shadow_lt, Nat.mod_lt _ (by decide), h.added_lt, h.wraps,
      fun hp => ?_, fun n hn => ?_⟩
    · rw [hdevice] at hp
      cases hp
    · rw [hdevice] at hn
      cases hn
  | publish =>
    simp only [Doorbell.step] at hs
    split_ifs at hs with hdevice
    cases hs
    refine ⟨h.event, h.shadow, h.shadow_lt, h.consumed_lt, h.added_lt, h.wraps, fun _ => rfl,
      fun n hn => ?_⟩
    cases hn
  | recheck =>
    simp only [Doorbell.step] at hs
    split_ifs at hs with hdevice hidx
    · cases hs
      exact h.sleep hdevice hidx
    · cases hs
      apply h.deviceAt
      · decide
      · intro n hn
        cases hn
  | wake =>
    cases hs
    apply h.deviceAt
    · decide
    · intro n hn
      cases hn
  | writeUsed flags idx ring =>
    cases hs
    exact ⟨h.event, h.shadow, h.shadow_lt, h.consumed_lt, h.added_lt, h.wraps, h.published,
      h.asleep⟩

/-- A fresh queue, on which nothing was added. -/
theorem inv_start {index num notified : Nat} {indirect : Nat → List VringDesc} {vq : Virtqueue τ}
    (hnew : vringNewVirtqueue index true notified (Vring.zeroed num indirect) = .ok (some vq)) :
    (start vq).Inv := by
  unfold vringNewVirtqueue at hnew
  split at hnew
  · cases hnew
  cases hinit : initializeVirtqueue (τ := τ) index true notified (Vring.zeroed num indirect) with
  | error f =>
    rw [hinit] at hnew
    cases hnew
  | ok vq₁ =>
    rw [hinit] at hnew
    obtain rfl : vq₁ = vq := Option.some.inj (Except.ok.inj hnew)
    obtain ⟨⟨i, vq₂⟩, hlink, hlast⟩ := bind_eq_ok hinit
    have hsame := (SameCounters.linkFree hlink).trans (.writeData hlast)
    have hshadow : vq₁.availIdxShadow = 0 := hsame.availIdxShadow
    have hadded : vq₁.numAdded = 0 := hsame.numAdded
    have hidx : vq₁.vring.avail.idx = 0 := hsame.availIdx
    refine ⟨hsame.event, hidx.trans hshadow.symm, ?_, Nat.zero_lt_succ _, ?_, ?_, nofun, nofun⟩
    · show vq₁.availIdxShadow < 65536
      omega
    · show vq₁.numAdded < 65536
      omega
    · intro hwrap
      have hwrap : vq₁.numAdded = 65535 := hwrap
      omega

/-- **No notification is lost.** Where the device sleeps, `avail->idx` is not where it got and no
entry waits for a kick, a notification was issued after it went to sleep; in the middle of a
kick it may be the driver's next step instead. -/
theorem notified_after_sleep {index num notified : Nat} {indirect : Nat → List VringDesc}
    {vq : Virtqueue τ}
    (hnew : vringNewVirtqueue index true notified (Vring.zeroed num indirect) = .ok (some vq))
    {s : Doorbell τ} (hr : (system vq).Reachable s) {n : Nat} (hsleep : s.device = .asleep n)
    (hidx : s.vq.vring.avail.idx ≠ s.consumed) (hadded : s.vq.numAdded = 0) :
    (s.driver = .idle → n < s.vq.notified) ∧ (n < s.vq.notified ∨ s.driver = .notifying) := by
  have hinv : s.Inv :=
    System.ReachableUnder.induct Inv (inv_start hnew) (fun _ _ _ h _ hs => h.step hs) hr
  obtain ⟨-, hlt | ⟨-, hdriver | ⟨d, hd, hshadow⟩⟩⟩ := hinv.asleep n hsleep
  · exact ⟨fun _ => hlt, .inl hlt⟩
  · refine ⟨fun hidle => ?_, .inr hdriver⟩
    rw [hdriver] at hidle
    cases hidle
  · exfalso
    obtain rfl : d = 0 := by omega
    apply hidx
    rw [hinv.shadow, hshadow, Nat.add_zero, u16, Nat.mod_eq_of_lt hinv.consumed_lt]

/-- The device falls asleep on a ring of two, and one buffer is added and kicked. -/
def sleepAndKick : List (DoorbellEvent Nat) :=
  [.publish, .recheck, .addBuf [⟨4096, 24⟩] [] 7 none, .kick, .kickPrepare, .notify]

theorem notified_after_sleep_oneKick :
    ∃ (vq : Virtqueue Nat) (s : Doorbell Nat),
      vringNewVirtqueue 0 true 0 (Vring.zeroed (2 ^ 1) fun _ => []) = .ok (some vq) ∧
      (system vq).run sleepAndKick = some s ∧ s.device = .asleep 0 ∧
      s.vq.vring.avail.idx ≠ s.consumed ∧ s.vq.numAdded = 0 ∧
      ((s.driver = .idle → 0 < s.vq.notified) ∧
        (0 < s.vq.notified ∨ s.driver = .notifying)) := by
  have hnotified : ∀ vq s,
      vringNewVirtqueue 0 true 0 (Vring.zeroed (2 ^ 1) fun _ => []) = .ok (some vq) →
      (system vq).run sleepAndKick = some s → s.device = .asleep 0 →
      s.vq.vring.avail.idx ≠ s.consumed → s.vq.numAdded = 0 →
      (s.driver = .idle → 0 < s.vq.notified) ∧
        (0 < s.vq.notified ∨ s.driver = .notifying) :=
    fun _ _ hnew hrun hsleep hidx hadded =>
      notified_after_sleep hnew (System.reachable_of_run hrun) hsleep hidx hadded
  exact ⟨_, _, rfl, rfl, rfl, by decide, rfl, hnotified _ _ rfl rfl rfl (by decide) rfl⟩

end Doorbell

end VioGpu.VirtIO
