import VioGpu.VirtIO.UsedEvent

/-!
# No interrupt is lost

While the driver waits, `used_event` is `delay` entries behind the index up to which it took, and
the index of the device is at most `delay` entries behind that, apart from the ones for which the
device has yet to look. When the device looks, either these are still within `delay` and the driver
puts up with them, or `used_event` is within the window of `vring_need_event` and it raises an
interrupt. Without `VIRTIO_RING_F_EVENT_IDX` the flag alone decides, and it is cleared.
-/

namespace VioGpu.VirtIO

open Lib Virtqueue

variable {τ β : Type}

/-! ## What buffers are kept in -/

/-- A view of a queue that shows nothing of what buffers are kept in: the descriptors, the tokens,
the free list and the available heads. -/
def Blind (view : Virtqueue τ → β) : Prop :=
  ∀ vq desc indirect ring data numFree freeHead,
    view { vq with
      vring := { vq.vring with
        desc := desc
        indirect := indirect
        avail := { vq.vring.avail with ring := ring } }
      data := data
      numFree := numFree
      freeHead := freeHead } = view vq

namespace Blind

variable {view : Virtqueue τ → β} {vq vq' : Virtqueue τ}

theorem free (hb : Blind view) (vq : Virtqueue τ) (numFree freeHead : Nat) :
    view { vq with numFree := numFree, freeHead := freeHead } = view vq :=
  hb vq vq.vring.desc vq.vring.indirect vq.vring.avail.ring vq.data numFree freeHead

theorem modifyDesc (hb : Blind view) {i : Nat} {f : VringDesc → VringDesc}
    (h : vq.modifyDesc i f = .ok vq') : view vq' = view vq := by
  unfold Virtqueue.modifyDesc at h
  split at h
  · cases h
    exact hb vq _ vq.vring.indirect vq.vring.avail.ring vq.data vq.numFree vq.freeHead
  · cases h

theorem writeData (hb : Blind view) {i : Nat} {t : Option τ} (h : vq.writeData i t = .ok vq') :
    view vq' = view vq := by
  unfold Virtqueue.writeData at h
  split at h
  · cases h
    exact hb vq vq.vring.desc vq.vring.indirect vq.vring.avail.ring _ vq.numFree vq.freeHead
  · cases h

theorem writeAvail (hb : Blind view) {i head : Nat} (h : vq.writeAvail i head = .ok vq') :
    view vq' = view vq := by
  unfold Virtqueue.writeAvail at h
  split at h
  · cases h
    exact hb vq vq.vring.desc vq.vring.indirect _ vq.data vq.numFree vq.freeHead
  · cases h

theorem prepareHead (hb : Blind view) {head : Nat} {data : τ}
    (h : VirtIO.prepareHead vq head data = .ok vq') : view vq' = view vq := by
  obtain ⟨vq₁, hdata, havail⟩ := bind_eq_ok h
  exact (hb.writeAvail havail).trans (hb.writeData hdata)

theorem fillDescs (hb : Blind view) {flags : UInt16} {sgs : List Scatterlist} {i prev : Nat}
    {r : Nat × Nat} (h : VirtIO.fillDescs flags sgs vq i prev = .ok (vq', r)) :
    view vq' = view vq := by
  induction sgs generalizing vq i prev with
  | nil =>
    cases h
    rfl
  | cons sg rest ih =>
    obtain ⟨vq₁, hmod, h⟩ := bind_eq_ok h
    obtain ⟨d, -, h⟩ := bind_eq_ok h
    exact (ih h).trans (hb.modifyDesc hmod)

theorem addDirect (hb : Blind view) {out inn : List Scatterlist} {head : Nat}
    (h : VirtIO.addDirect vq out inn = .ok (head, vq')) : view vq' = view vq := by
  obtain ⟨⟨vq₁, i, prev⟩, hout, h⟩ := bind_eq_ok h
  obtain ⟨⟨vq₂, i, prev⟩, hin, h⟩ := bind_eq_ok h
  obtain ⟨vq₃, hlast, h⟩ := bind_eq_ok h
  cases h
  calc view { vq₃ with freeHead := i }
      = view vq₃ := hb.free vq₃ vq₃.numFree i
    _ = view vq₂ := hb.modifyDesc hlast
    _ = view vq₁ := hb.fillDescs hin
    _ = view { vq with numFree := vq.numFree - outPlusIn out inn } := hb.fillDescs hout
    _ = view vq := hb.free vq _ vq.freeHead

theorem vringAddIndirect (hb : Blind view) {out inn : List Scatterlist} {phys head : Nat}
    (h : VirtIO.vringAddIndirect vq out inn phys = .ok (head, vq')) : view vq' = view vq := by
  obtain ⟨vq₁, hmod, h⟩ := bind_eq_ok h
  obtain ⟨d, -, h⟩ := bind_eq_ok h
  cases h
  calc view { vq₁ with freeHead := d.next }
      = view vq₁ := hb.free vq₁ vq₁.numFree d.next
    _ = _ := hb.modifyDesc hmod
    _ = view vq := hb vq vq.vring.desc _ vq.vring.avail.ring vq.data _ vq.freeHead

theorem prepareDirect (hb : Blind view) {out inn : List Scatterlist} {data : τ} {head : Nat}
    (h : VirtIO.prepareDirect vq out inn data = .ok (head, vq')) : view vq' = view vq := by
  obtain ⟨⟨head, vq₁⟩, hadd, h⟩ := bind_eq_ok h
  obtain ⟨vq₂, hhead, h⟩ := bind_eq_ok h
  cases h
  exact (hb.prepareHead hhead).trans (hb.addDirect hadd)

theorem prepareIndirect (hb : Blind view) {out inn : List Scatterlist} {data : τ}
    {phys head : Nat} (h : VirtIO.prepareIndirect vq out inn data phys = .ok (head, vq')) :
    view vq' = view vq := by
  obtain ⟨⟨head, vq₁⟩, hadd, h⟩ := bind_eq_ok h
  obtain ⟨vq₂, hhead, h⟩ := bind_eq_ok h
  cases h
  exact (hb.prepareHead hhead).trans (hb.vringAddIndirect hadd)

theorem prepareBuf (hb : Blind view) {out inn : List Scatterlist} {data : τ}
    {indirect : Option Nat} (h : VirtIO.prepareBuf vq out inn data indirect = .ok (some vq')) :
    view vq' = view vq := by
  have hdirect (h : (if vq.numFree < outPlusIn out inn then pure none
      else VirtIO.prepareDirect vq out inn data >>= fun r => pure (some r.2)) =
        .ok (some vq')) : view vq' = view vq := by
    split at h
    · cases h
    · obtain ⟨⟨head, vq₁⟩, hprep, h⟩ := bind_eq_ok h
      cases h
      exact hb.prepareDirect hprep
  cases indirect with
  | none => exact hdirect h
  | some phys =>
    simp only [ VirtIO.prepareBuf] at h
    split at h
    · obtain ⟨⟨head, vq₁⟩, hprep, h⟩ := bind_eq_ok h
      cases h
      exact hb.prepareIndirect hprep
    · exact hdirect h

theorem detachWalk (hb : Blind view) {fuel i : Nat} {r : Nat}
    (h : VirtIO.detachWalk vq fuel i = .ok (vq', r)) : view vq' = view vq := by
  induction fuel generalizing vq i with
  | zero => cases h
  | succ fuel ih =>
    obtain ⟨d, -, h⟩ := bind_eq_ok h
    split at h
    · exact (ih h).trans (hb.free vq _ vq.freeHead)
    · cases h
      rfl

theorem detachBuf (hb : Blind view) {head : Nat} (h : VirtIO.detachBuf vq head = .ok vq') :
    view vq' = view vq := by
  obtain ⟨vq₁, hdata, h⟩ := bind_eq_ok h
  obtain ⟨⟨vq₂, i⟩, hwalk, h⟩ := bind_eq_ok h
  obtain ⟨vq₃, hmod, h⟩ := bind_eq_ok h
  cases h
  calc view { vq₃ with freeHead := head, numFree := vq₃.numFree + 1 }
      = view vq₃ := hb.free vq₃ _ head
    _ = view vq₂ := hb.modifyDesc hmod
    _ = view vq₁ := hb.detachWalk hwalk
    _ = view vq := hb.writeData hdata

theorem linkFree (hb : Blind view) {num fuel i j : Nat}
    (h : VirtIO.linkFree num fuel i vq = .ok (j, vq')) : view vq' = view vq := by
  induction fuel generalizing vq i with
  | zero => cases h
  | succ fuel ih =>
    unfold VirtIO.linkFree at h
    split at h
    · obtain ⟨vq₁, hmod, h⟩ := bind_eq_ok h
      obtain ⟨vq₂, hdata, h⟩ := bind_eq_ok h
      exact (ih h).trans ((hb.writeData hdata).trans (hb.modifyDesc hmod))
    · cases h
      rfl

end Blind

/-- What says when the driver is to be interrupted. -/
structure Signals where
  event : Bool
  lastUsedIdx : Nat
  availFlagsShadow : UInt16
  availFlags : UInt16
  usedEvent : Nat
  used : VringUsed

namespace Virtqueue

def signals (vq : Virtqueue τ) : Signals where
  event := vq.event
  lastUsedIdx := vq.lastUsedIdx
  availFlagsShadow := vq.availFlagsShadow
  availFlags := vq.vring.avail.flags
  usedEvent := vq.vring.avail.usedEvent
  used := vq.vring.used

theorem blind_signals : Blind (signals : Virtqueue τ → Signals) := by
  intro vq desc indirect ring data numFree freeHead
  rfl

theorem signals_kick (vq : Virtqueue τ) : (virtqueueKick vq).signals = vq.signals := by
  unfold virtqueueKick
  dsimp only
  split <;> rfl

theorem signals_publishHead (vq : Virtqueue τ) : (publishHead vq).signals = vq.signals := by
  rw [publishHead_eq]
  split
  · exact signals_kick (exposeHead vq)
  · rfl

theorem signals_addBuf {vq vq' : Virtqueue τ} {out inn : List Scatterlist} {data : τ}
    {indirect : Option Nat} {status : AddStatus}
    (h : virtqueueAddBuf vq out inn data indirect = .ok (status, vq')) :
    vq'.signals = vq.signals := by
  rw [virtqueueAddBuf_eq] at h
  obtain ⟨prepared, hprep, h⟩ := bind_eq_ok h
  cases prepared with
  | none =>
    cases h
    split <;> rfl
  | some vq₁ =>
    cases h
    exact (signals_publishHead vq₁).trans (blind_signals.prepareBuf hprep)

/-- A fresh queue has callbacks enabled, at the first entry. -/
theorem signals_fresh {index num notified : Nat} {event : Bool}
    {indirect : Nat → List VringDesc} {vq : Virtqueue τ}
    (hnew : vringNewVirtqueue index event notified (Vring.zeroed num indirect) =
      .ok (some vq)) :
    vq.signals = ⟨event, 0, 0, 0, 0, (Vring.zeroed num indirect).used⟩ := by
  unfold vringNewVirtqueue at hnew
  split at hnew
  · cases hnew
  cases hinit : initializeVirtqueue (τ := τ) index event notified (Vring.zeroed num indirect) with
  | error f =>
    rw [hinit] at hnew
    cases hnew
  | ok vq₁ =>
    rw [hinit] at hnew
    obtain rfl : vq₁ = vq := Option.some.inj (Except.ok.inj hnew)
    obtain ⟨⟨i, vq₂⟩, hlink, hlast⟩ := bind_eq_ok hinit
    exact (blind_signals.writeData hlast).trans (blind_signals.linkFree hlink)

end Virtqueue

/-- `virtqueue_get_buf` up to the test of the flag: it returned a buffer and took one entry, or the
queue is as it was. -/
theorem getBufTake_cases {vq vq' : Virtqueue τ} {r : GetResult τ}
    (h : getBufTake vq = .ok (r, vq')) :
    (r.ret.isSome ∧ vq'.signals =
      { vq.signals with lastUsedIdx := u16 (vq.lastUsedIdx + 1) }) ∨
    (r.ret.isSome = false ∧ vq' = vq) := by
  unfold getBufTake at h
  split at h
  · cases h
    exact .inr ⟨rfl, rfl⟩
  split at h
  · cases h
    exact .inr ⟨rfl, rfl⟩
  obtain ⟨e, -, h⟩ := bind_eq_ok h
  split at h
  · cases h
    exact .inr ⟨rfl, rfl⟩
  obtain ⟨t, -, h⟩ := bind_eq_ok h
  cases t with
  | none =>
    cases h
    exact .inr ⟨rfl, rfl⟩
  | some t =>
    obtain ⟨vq₁, hdetach, h⟩ := bind_eq_ok h
    cases h
    have hsame := blind_signals.detachBuf hdetach
    have hlast : vq₁.lastUsedIdx = vq.lastUsedIdx := congrArg Signals.lastUsedIdx hsame
    refine .inl ⟨rfl, ?_⟩
    rw [← hsame, ← hlast]
    rfl

namespace Callbacks

/-! ## The invariant -/

/-- The index of the device is at most `delay` behind where the driver took, apart from the entries
for which the device has yet to look. -/
def Within (s : Callbacks τ) : Prop :=
  ∃ d ≤ s.delay + s.unsignalled, s.vq.vring.used.idx = u16 (s.vq.lastUsedIdx + d)

/-- `used_event` is where the driver wants it, if it wants interrupts at all. -/
def Aimed (s : Callbacks τ) : Prop :=
  virtqueueIsInterruptEnabled s.vq = true →
    s.vq.vring.avail.usedEvent = u16 (s.vq.lastUsedIdx + s.delay)

/-- The invariant of the two sides. -/
structure Inv (s : Callbacks τ) : Prop where
  flags : s.vq.vring.avail.flags = s.vq.availFlagsShadow
  last_lt : s.vq.lastUsedIdx < 65536
  used_lt : s.vq.vring.used.idx < 65536
  delay_lt : s.delay < 65536
  unsignalled_lt : s.unsignalled < 65536
  idle : s.driver = .idle → s.Aimed
  checking : ∀ delayed, s.driver = .checking delayed →
    s.Aimed ∧ s.delay = if delayed then delayedBufs s.vq else 0
  waiting : ∀ n, s.waiting = some n →
    s.driver = .idle ∧ virtqueueIsInterruptEnabled s.vq = true ∧
      (n < s.raised ∨ n = s.raised ∧ (s.raising = true ∨ s.Within))

variable {s : Callbacks τ} {vq : Virtqueue τ}

theorem delayedBufs_lt (vq : Virtqueue τ) : delayedBufs vq < 65536 := by
  unfold delayedBufs sub16
  omega

theorem isInterruptEnabled_of_signals {vq vq' : Virtqueue τ} (h : vq'.signals = vq.signals) :
    virtqueueIsInterruptEnabled vq' = virtqueueIsInterruptEnabled vq := by
  have hshadow : vq'.availFlagsShadow = vq.availFlagsShadow :=
    congrArg Signals.availFlagsShadow h
  unfold virtqueueIsInterruptEnabled
  rw [hshadow]

/-- A call of the idle driver that changes nothing the device looks at. -/
theorem Inv.sameSignals (h : s.Inv) (hidle : s.driver = .idle)
    (hsame : vq.signals = s.vq.signals) : Inv { s with vq } := by
  have henabled := isInterruptEnabled_of_signals hsame
  have hshadow : vq.availFlagsShadow = s.vq.availFlagsShadow :=
    congrArg Signals.availFlagsShadow hsame
  have hflags : vq.vring.avail.flags = s.vq.vring.avail.flags :=
    congrArg Signals.availFlags hsame
  have hlast : vq.lastUsedIdx = s.vq.lastUsedIdx := congrArg Signals.lastUsedIdx hsame
  have hevent : vq.vring.avail.usedEvent = s.vq.vring.avail.usedEvent :=
    congrArg Signals.usedEvent hsame
  have hused : vq.vring.used = s.vq.vring.used := congrArg Signals.used hsame
  refine ⟨by rw [hflags, hshadow, h.flags], by rw [hlast]; exact h.last_lt,
    by rw [hused]; exact h.used_lt, h.delay_lt, h.unsignalled_lt, fun _ hen => ?_,
    fun delayed hc => ?_, fun n hn => ?_⟩
  · rw [henabled] at hen
    rw [hevent, hlast]
    exact h.idle hidle hen
  · rw [hidle] at hc
    cases hc
  · rw [henabled]
    simp only [Within, hlast, hused]
    exact h.waiting n hn

/-- A driver that is busy, or that does not wait and takes interrupts for what it is not. -/
theorem Inv.stopWaiting (h : s.Inv) : Inv { s with waiting := none } where
  flags := h.flags
  last_lt := h.last_lt
  used_lt := h.used_lt
  delay_lt := h.delay_lt
  unsignalled_lt := h.unsignalled_lt
  idle := h.idle
  checking := h.checking
  waiting n hn := by cases hn

/-- `virtqueue_get_buf` found nothing: the driver waits. -/
theorem Inv.startWaiting (h : s.Inv) (hidle : s.driver = .idle)
    (henabled : virtqueueIsInterruptEnabled s.vq = true)
    (hwithin : sub16 s.vq.vring.used.idx s.vq.lastUsedIdx ≤ s.delay) :
    Inv { s with waiting := some s.raised } where
  flags := h.flags
  last_lt := h.last_lt
  used_lt := h.used_lt
  delay_lt := h.delay_lt
  unsignalled_lt := h.unsignalled_lt
  idle := h.idle
  checking := h.checking
  waiting n hn := by
    cases hn
    have hlast := h.last_lt
    have hused := h.used_lt
    refine ⟨hidle, henabled, .inr ⟨rfl, .inr ⟨_, hwithin.trans (Nat.le_add_right _ _), ?_⟩⟩⟩
    show s.vq.vring.used.idx = u16 (s.vq.lastUsedIdx + sub16 _ _)
    unfold u16 sub16
    omega

/-- The state of the driver between its writes to the ring, when it does not wait. -/
theorem Inv.busy (h : s.Inv) {at' : CallbackAt} (hidle : at' ≠ .idle)
    (hchecking : ∀ delayed, at' ≠ .checking delayed) :
    Inv { s with driver := at', waiting := none } where
  flags := h.flags
  last_lt := h.last_lt
  used_lt := h.used_lt
  delay_lt := h.delay_lt
  unsignalled_lt := h.unsignalled_lt
  idle hi := absurd hi hidle
  checking delayed hc := absurd hc (hchecking delayed)
  waiting n hn := by cases hn

/-- A buffer was taken; the driver is before the end of `virtqueue_get_buf`. -/
theorem Inv.take (h : s.Inv)
    (htake : vq.signals = { s.vq.signals with lastUsedIdx := u16 (s.vq.lastUsedIdx + 1) }) :
    Inv { s with vq := vq, driver := .taken, waiting := none } := by
  have hshadow : vq.availFlagsShadow = s.vq.availFlagsShadow :=
    congrArg Signals.availFlagsShadow htake
  have hflags : vq.vring.avail.flags = s.vq.vring.avail.flags :=
    congrArg Signals.availFlags htake
  have hlast : vq.lastUsedIdx = u16 (s.vq.lastUsedIdx + 1) := congrArg Signals.lastUsedIdx htake
  have hused : vq.vring.used = s.vq.vring.used := congrArg Signals.used htake
  refine ⟨by rw [hflags, hshadow, h.flags], ?_, by rw [hused]; exact h.used_lt, h.delay_lt,
    h.unsignalled_lt, fun hi => (by cases hi), fun _ hc => (by cases hc),
    fun _ hn => (by cases hn)⟩
  rw [hlast]
  exact Nat.mod_lt _ (Nat.succ_pos _)

/-- The end of `virtqueue_get_buf`. -/
theorem Inv.expect (h : s.Inv) (htaken : s.driver = .taken) :
    Inv { s with vq := expectNext s.vq, driver := .idle, delay := 0 } := by
  have hnone : s.waiting = none := by
    cases hw : s.waiting with
    | none => rfl
    | some n =>
      have hidle := (h.waiting n hw).1
      rw [htaken] at hidle
      cases hidle
  unfold expectNext
  by_cases henabled : virtqueueIsInterruptEnabled s.vq = true
  · rw [if_pos henabled]
    refine ⟨h.flags, h.last_lt, h.used_lt, Nat.succ_pos _, h.unsignalled_lt, fun _ _ => ?_,
      fun _ hc => (by cases hc), fun n hn => ?_⟩
    · show s.vq.lastUsedIdx = u16 (s.vq.lastUsedIdx + 0)
      rw [Nat.add_zero, u16, Nat.mod_eq_of_lt h.last_lt]
    · rw [hnone] at hn
      cases hn
  · rw [if_neg henabled]
    refine ⟨h.flags, h.last_lt, h.used_lt, Nat.succ_pos _, h.unsignalled_lt,
      fun _ hen => absurd hen henabled, fun _ hc => (by cases hc), fun n hn => ?_⟩
    rw [hnone] at hn
    cases hn

/-- Callbacks are disabled, at any moment of another call. -/
theorem Inv.disableCb (h : s.Inv) :
    Inv { s with vq := virtqueueDisableCb s.vq, waiting := none } := by
  unfold virtqueueDisableCb
  by_cases henabled : virtqueueIsInterruptEnabled s.vq = true
  · rw [if_pos henabled]
    refine ⟨rfl, h.last_lt, h.used_lt, h.delay_lt, h.unsignalled_lt,
      fun hi _ => h.idle hi henabled, fun delayed hc => ?_, fun _ hn => (by cases hn)⟩
    exact ⟨fun _ => (h.checking delayed hc).1 henabled, (h.checking delayed hc).2⟩
  · rw [if_neg henabled]
    exact h.stopWaiting

/-- The flag is cleared. -/
theorem Inv.enableCb (h : s.Inv) (delayed : Bool) :
    Inv { s with
      vq := clearNoInterrupt s.vq, driver := .enabling delayed, waiting := none } := by
  have hbusy : Inv { s with driver := .enabling delayed, waiting := none } :=
    h.busy (fun hi => (by cases hi)) (fun _ hc => (by cases hc))
  unfold clearNoInterrupt
  split
  · exact hbusy
  · exact ⟨rfl, hbusy.last_lt, hbusy.used_lt, hbusy.delay_lt, hbusy.unsignalled_lt,
      fun hi => (by cases hi), fun _ hc => (by cases hc), fun _ hn => (by cases hn)⟩

/-- `used_event` is written. -/
theorem Inv.writeUsedEvent (h : s.Inv) {delayed : Bool} (hat : s.driver = .enabling delayed) :
    Inv { s with
      vq := s.vq.writeUsedEvent
        (u16 (s.vq.lastUsedIdx + if delayed then delayedBufs s.vq else 0))
      driver := .checking delayed
      delay := if delayed then delayedBufs s.vq else 0 } where
  flags := h.flags
  last_lt := h.last_lt
  used_lt := h.used_lt
  delay_lt := by
    show (if delayed then delayedBufs s.vq else 0) < 65536
    have hlt := delayedBufs_lt s.vq
    split <;> omega
  unsignalled_lt := h.unsignalled_lt
  idle hi := by cases hi
  checking d hc := by
    cases hc
    exact ⟨fun _ => rfl, rfl⟩
  waiting n hn := by
    have hidle := (h.waiting n hn).1
    rw [hat] at hidle
    cases hidle

/-- The last test: the driver may wait when there is not more than it put up with. -/
theorem Inv.check (h : s.Inv) {delayed : Bool} (hat : s.driver = .checking delayed) :
    Inv { s with
      driver := .idle
      waiting := if virtqueueIsInterruptEnabled s.vq ∧ quiet s.vq delayed = true then
        some s.raised else none } := by
  obtain ⟨haimed, hdelay⟩ := h.checking delayed hat
  have hidle : Inv { s with driver := .idle, waiting := none } :=
    ⟨h.flags, h.last_lt, h.used_lt, h.delay_lt, h.unsignalled_lt, fun _ => haimed,
      fun _ hc => (by cases hc), fun _ hn => (by cases hn)⟩
  split
  · rename_i hquiet
    refine hidle.startWaiting rfl hquiet.1 ?_
    show sub16 s.vq.vring.used.idx s.vq.lastUsedIdx ≤ s.delay
    rw [hdelay]
    have hq := hquiet.2
    unfold quiet at hq
    cases delayed with
    | true =>
      have hle : ¬delayedBufs s.vq < sub16 s.vq.vring.used.idx s.vq.lastUsedIdx := by
        simpa using hq
      exact Nat.le_of_not_lt hle
    | false =>
      have heq : s.vq.lastUsedIdx = s.vq.vring.used.idx := by
        simpa [moreUsed] using hq
      rw [heq]
      show sub16 _ _ ≤ 0
      unfold sub16
      omega
  · exact hidle

/-- The device publishes an entry. -/
theorem Inv.publish (h : s.Inv) (hlt : s.unsignalled < 65535) (flags : UInt16)
    (ring : Nat → VringUsedElem) (availEvent : Nat) :
    Inv { s with
      vq := s.vq.withUsed ⟨flags, u16 (s.vq.vring.used.idx + 1), ring, availEvent⟩
      unsignalled := s.unsignalled + 1 } where
  flags := h.flags
  last_lt := h.last_lt
  used_lt := Nat.mod_lt _ (Nat.succ_pos _)
  delay_lt := h.delay_lt
  unsignalled_lt := Nat.succ_lt_succ hlt
  idle := h.idle
  checking := h.checking
  waiting n hn := by
    obtain ⟨hidle, henabled, hcount⟩ := h.waiting n hn
    refine ⟨hidle, henabled, ?_⟩
    obtain hraised | ⟨heq, hraising | ⟨d, hd, hused⟩⟩ := hcount
    · exact .inl hraised
    · exact .inr ⟨heq, .inl hraising⟩
    · refine .inr ⟨heq, .inr ⟨d + 1, Nat.succ_le_succ hd, ?_⟩⟩
      show u16 (s.vq.vring.used.idx + 1) = u16 (s.vq.lastUsedIdx + (d + 1))
      rw [hused]
      unfold u16
      omega

/-- Where more is published than the driver puts up with, the device raises an interrupt. -/
theorem Inv.wanted (h : s.Inv) (hidle : s.driver = .idle)
    (henabled : virtqueueIsInterruptEnabled s.vq = true) {d : Nat}
    (hd : d ≤ s.delay + s.unsignalled)
    (hused : s.vq.vring.used.idx = u16 (s.vq.lastUsedIdx + d)) (hmore : s.delay < d) :
    s.wanted = true := by
  unfold Callbacks.wanted
  split
  · have haimed := h.idle hidle henabled
    have hidx : s.vq.vring.used.idx =
        u16 (u16 (s.vq.lastUsedIdx + s.delay) + (d - s.delay)) := by
      rw [hused]
      unfold u16
      omega
    rw [haimed, hidx]
    exact vringNeedEvent_window (by omega) (by omega) h.unsignalled_lt
  · rw [h.flags]
    exact henabled

/-- The device looks at what the driver wants. -/
theorem Inv.signal (h : s.Inv) (hraising : s.raising = false) :
    Inv { s with raising := s.wanted, unsignalled := 0 } where
  flags := h.flags
  last_lt := h.last_lt
  used_lt := h.used_lt
  delay_lt := h.delay_lt
  unsignalled_lt := Nat.succ_pos _
  idle := h.idle
  checking := h.checking
  waiting n hn := by
    obtain ⟨hidle, henabled, hcount⟩ := h.waiting n hn
    refine ⟨hidle, henabled, ?_⟩
    obtain hraised | ⟨heq, hr | ⟨d, hd, hused⟩⟩ := hcount
    · exact .inl hraised
    · rw [hraising] at hr
      cases hr
    · refine .inr ⟨heq, ?_⟩
      by_cases hmore : s.delay < d
      · exact .inl (h.wanted hidle henabled hd hused hmore)
      · exact .inr ⟨d, Nat.le_of_not_lt hmore, hused⟩

/-- The interrupt itself. -/
theorem Inv.interrupt (h : s.Inv) :
    Inv { s with raising := false, raised := s.raised + 1 } where
  flags := h.flags
  last_lt := h.last_lt
  used_lt := h.used_lt
  delay_lt := h.delay_lt
  unsignalled_lt := h.unsignalled_lt
  idle := h.idle
  checking := h.checking
  waiting n hn := by
    obtain ⟨hidle, henabled, hcount⟩ := h.waiting n hn
    refine ⟨hidle, henabled, .inl ?_⟩
    show n < s.raised + 1
    omega

/-- The driver and the device keep the invariant in each step. -/
theorem Inv.step {s' : Callbacks τ} {e : CallbackEvent τ} (h : s.Inv)
    (hs : s.step e = some s') : s'.Inv := by
  cases e with
  | addBuf out inn data indirect =>
    simp only [Callbacks.step] at hs
    split_ifs at hs with hidle
    cases hadd : virtqueueAddBuf s.vq out inn data indirect with
    | error f => simp [hadd, Except.toOption] at hs
    | ok r =>
      simp only [hadd, Except.toOption, Option.map_some, Option.some.injEq] at hs
      subst hs
      exact h.sameSignals hidle (signals_addBuf hadd)
  | kick =>
    simp only [Callbacks.step] at hs
    split_ifs at hs with hidle
    cases hs
    exact h.sameSignals hidle (signals_kick s.vq)
  | getBuf =>
    by_cases hidle : s.driver = .idle
    swap
    · simp [Callbacks.step, hidle] at hs
    simp only [Callbacks.step, if_pos hidle] at hs
    cases hget : getBufTake s.vq with
    | error f => simp [hget, Except.toOption] at hs
    | ok r =>
      simp only [hget, Except.toOption, Option.map_some, Option.some.injEq] at hs
      subst hs
      obtain ⟨hsome, htake⟩ | ⟨hnone, hvq⟩ := getBufTake_cases hget
      · rw [if_pos hsome]
        exact h.take htake
      · rw [if_neg (by rw [hnone]; exact Bool.false_ne_true), hvq]
        split
        · rename_i hquiet
          refine h.startWaiting hidle hquiet.1 ?_
          have heq : s.vq.lastUsedIdx = s.vq.vring.used.idx := by
            simpa [moreUsed] using hquiet.2
          rw [heq]
          unfold sub16
          omega
        · exact h.stopWaiting
  | expect =>
    simp only [Callbacks.step] at hs
    split_ifs at hs with htaken
    cases hs
    exact h.expect htaken
  | disableCb =>
    cases hs
    exact h.disableCb
  | enableCb delayed =>
    simp only [Callbacks.step] at hs
    split_ifs at hs with hidle
    cases hs
    exact h.enableCb delayed
  | writeUsedEvent =>
    cases hat : s.driver with
    | enabling delayed =>
      simp only [Callbacks.step, hat, Option.some.injEq] at hs
      subst hs
      exact h.writeUsedEvent hat
    | idle => simp [Callbacks.step, hat] at hs
    | taken => simp [Callbacks.step, hat] at hs
    | checking delayed => simp [Callbacks.step, hat] at hs
  | check =>
    cases hat : s.driver with
    | checking delayed =>
      simp only [Callbacks.step, hat, Option.some.injEq] at hs
      subst hs
      exact h.check hat
    | idle => simp [Callbacks.step, hat] at hs
    | taken => simp [Callbacks.step, hat] at hs
    | enabling delayed => simp [Callbacks.step, hat] at hs
  | publish flags ring availEvent =>
    simp only [Callbacks.step] at hs
    split_ifs at hs with hlt
    cases hs
    exact h.publish hlt flags ring availEvent
  | signal =>
    simp only [Callbacks.step] at hs
    split_ifs at hs with hsignal
    cases hs
    exact h.signal hsignal.1
  | interrupt =>
    simp only [Callbacks.step] at hs
    split_ifs at hs with hraising
    cases hs
    exact h.interrupt

/-- A fresh queue, with callbacks enabled. -/
theorem inv_start {index num notified : Nat} {event : Bool} {indirect : Nat → List VringDesc}
    (hnew : vringNewVirtqueue index event notified (Vring.zeroed num indirect) =
      .ok (some vq)) : (start vq).Inv := by
  have hfresh := signals_fresh hnew
  have hshadow : vq.availFlagsShadow = 0 := congrArg Signals.availFlagsShadow hfresh
  have hflags : vq.vring.avail.flags = 0 := congrArg Signals.availFlags hfresh
  have hlast : vq.lastUsedIdx = 0 := congrArg Signals.lastUsedIdx hfresh
  have hevent : vq.vring.avail.usedEvent = 0 := congrArg Signals.usedEvent hfresh
  have hused : vq.vring.used = (Vring.zeroed num indirect).used := congrArg Signals.used hfresh
  refine ⟨hflags.trans hshadow.symm, ?_, ?_, Nat.succ_pos _, Nat.succ_pos _, fun _ _ => ?_,
    fun _ hc => (by cases hc), fun _ hn => (by cases hn)⟩
  · show vq.lastUsedIdx < 65536
    omega
  · show vq.vring.used.idx < 65536
    rw [hused]
    exact Nat.succ_pos _
  · show vq.vring.avail.usedEvent = u16 (vq.lastUsedIdx + 0)
    rw [hevent, hlast]
    rfl

end Callbacks

end VioGpu.VirtIO
