import VioGpu.Device.Vga

/-!
# The power state of the adapter

`VioGpuDod::SetPowerState` remembers the state of the adapter in `m_AdapterPowerState`, which the
constructor sets to D0, to hide the sources when the adapter comes back from D3. It writes it
only where the new state is D0.
-/

namespace VioGpu.Device

/-- What `SetPowerState` uses of the device class and of `m_CurrentModes[0]`. The status of
`HwDeviceInterface::SetPowerState` is a matter of the answers alone; `none` stands for an access
through `NULL`. -/
structure PowerInterface (δ ω : Type) where
  setPowerState : δ → DevicePowerState → ω → δ
  succeeds : ω → Bool
  sourceNotVisible : δ → Bool
  setVidPnSourceVisibility : δ → Bool → Option δ

/-- A call of `SetPowerState` for the adapter. It calls the device twice. -/
structure PowerCall (ω : Type) where
  state : DevicePowerState
  first : ω
  second : ω

/-- `VioGpuDod` -/
structure PowerDod (δ : Type) where
  device : δ
  adapterPowerState : DevicePowerState

namespace PowerDod

variable {δ ω : Type} (hw : PowerInterface δ ω)

/-- `SetPowerState`; `true` for a status that `NT_SUCCESS` takes. -/
def setPowerState (d : PowerDod δ) (c : PowerCall ω) : Option (Bool × PowerDod δ) := do
  let d := { d with device := hw.setPowerState d.device c.state c.first }
  let d ← if hw.succeeds c.first = true ∧ c.state = .d0 then do
      let device ← if d.adapterPowerState = .d3 then
          hw.setVidPnSourceVisibility d.device false
        else some d.device
      some ⟨device, c.state⟩
    else some d
  some (hw.succeeds c.second, { d with device := hw.setPowerState d.device c.state c.second })

/-- After a list of calls. -/
def setPowerStates (d : PowerDod δ) (calls : List (PowerCall ω)) : Option (PowerDod δ) :=
  calls.foldlM (fun d c => Prod.snd <$> d.setPowerState hw c) d

/-- The state the adapter was set to last, by a call that returned success. -/
def lastSet (calls : List (PowerCall ω)) : DevicePowerState :=
  ((calls.filter fun c => hw.succeeds c.second).getLast?.map PowerCall.state).getD .d0

/-- After each call that returns success the state is remembered, and the source is hidden if
the call brought the adapter back from D3. -/
def Remembers (d : PowerDod δ) (calls : List (PowerCall ω)) : Prop :=
  ∀ before c after d₁ d₂, calls = before ++ c :: after →
    d.setPowerStates hw before = some d₁ → d₁.setPowerState hw c = some (true, d₂) →
      d₂.adapterPowerState = c.state ∧
        (lastSet hw before = .d3 → c.state = .d0 → hw.sourceNotVisible d₂.device = true)

variable {hw}

/-- While D3 is not what is remembered, a call goes through to the device alone. -/
theorem setPowerState_of_ne {d : PowerDod δ} (h : d.adapterPowerState = .d0) (c : PowerCall ω) :
    d.setPowerState hw c = some (hw.succeeds c.second,
      ⟨hw.setPowerState (hw.setPowerState d.device c.state c.first) c.state c.second, .d0⟩) := by
  obtain ⟨device, adapterPowerState⟩ := d
  obtain rfl : adapterPowerState = .d0 := h
  by_cases hc : hw.succeeds c.first = true ∧ c.state = .d0
  · simp [setPowerState, hc]
  · simp [setPowerState, hc]

/-- Nothing but D0 is ever remembered. -/
theorem setPowerStates_eq (calls : List (PowerCall ω)) {d : PowerDod δ}
    (h : d.adapterPowerState = .d0) :
    ∃ device, d.setPowerStates hw calls = some ⟨device, .d0⟩ := by
  induction calls generalizing d with
  | nil =>
    obtain ⟨device, adapterPowerState⟩ := d
    obtain rfl : adapterPowerState = .d0 := h
    exact ⟨device, rfl⟩
  | cons c calls ih =>
    obtain ⟨device, hrest⟩ := ih (d := ⟨hw.setPowerState (hw.setPowerState d.device c.state
      c.first) c.state c.second, .d0⟩) rfl
    refine ⟨device, ?_⟩
    rw [setPowerStates, List.foldlM_cons, setPowerState_of_ne h]
    exact hrest

theorem lastSet_eq_d0 {calls : List (PowerCall ω)}
    (h : ∀ c ∈ calls, hw.succeeds c.second = true → c.state = .d0) : lastSet hw calls = .d0 := by
  rw [lastSet]
  cases hlast : (calls.filter fun c => hw.succeeds c.second).getLast? with
  | none => rfl
  | some c =>
    obtain ⟨hmem, hsucc⟩ := List.mem_filter.mp (List.mem_of_getLast? hlast)
    exact h c hmem hsucc

/-- The state after the constructor and `StartDevice`. -/
def start (device : δ) : PowerDod δ := ⟨device, .d0⟩

/-- **When the power state is remembered.** It is exactly when every call for which the device
succeeds sets D0. -/
theorem remembers_iff (hw : PowerInterface δ ω) (device : δ) (calls : List (PowerCall ω)) :
    (start device).Remembers hw calls ↔
      ∀ c ∈ calls, hw.succeeds c.second = true → c.state = .d0 := by
  constructor
  · intro hrem c hc hsucc
    obtain ⟨before, after, rfl⟩ := List.append_of_mem hc
    obtain ⟨device', hbefore⟩ : ∃ device', (start device).setPowerStates hw before =
        some ⟨device', .d0⟩ := setPowerStates_eq before rfl
    have hcall : PowerDod.setPowerState hw ⟨device', .d0⟩ c = _ := setPowerState_of_ne rfl c
    rw [hsucc] at hcall
    exact (hrem before c after _ _ rfl hbefore hcall).1.symm
  · intro hall before c after d₁ d₂ heq hbefore hcall
    obtain ⟨device', hrun⟩ : ∃ device', (start device).setPowerStates hw before =
        some ⟨device', .d0⟩ := setPowerStates_eq before rfl
    obtain rfl : d₁ = ⟨device', .d0⟩ := Option.some.inj (hbefore.symm.trans hrun)
    rw [setPowerState_of_ne rfl, Option.some.injEq, Prod.mk.injEq] at hcall
    obtain ⟨hsucc, rfl⟩ := hcall
    have hlast : lastSet hw before = .d0 :=
      lastSet_eq_d0 fun c' hc' => hall c' (by simp [heq, hc'])
    refine ⟨(hall c (by simp [heq]) hsucc).symm, fun hd3 => ?_⟩
    rw [hlast] at hd3
    cases hd3

end PowerDod

/-! ## The two device classes -/

/-- `GpuDevice` with `SourceNotVisible`, and what `BlackOutScreen` wrote. -/
structure GpuSource where
  gpu : Gpu
  sourceNotVisible : Bool
  blackedOut : List (Nat × Nat)

/-- `SetVidPnSourceVisibility` -/
def GpuSource.setVidPnSourceVisibility (g : GpuSource) (visible : Bool) : GpuSource :=
  if visible then
    { g with
      gpu := { g.gpu with mode := { g.gpu.mode with fullscreenPresent := true } }
      sourceNotVisible := false }
  else
    { g with
      blackedOut := g.blackedOut ++ g.gpu.blackOutScreen.toList, sourceNotVisible := true }

/-- `GpuDevice::SetPowerState` always returns `STATUS_SUCCESS`. -/
def gpuPower : PowerInterface GpuSource DeviceInit where
  setPowerState g state init := { g with gpu := g.gpu.setPowerState state init }
  succeeds _ := true
  sourceNotVisible g := g.sourceNotVisible
  setVidPnSourceVisibility g visible := some (g.setVidPnSourceVisibility visible)

/-- `VgaDevice::SetPowerState` asks the BIOS, whose answer is its status. -/
def vgaPower : PowerInterface Vga Bool where
  setPowerState v _ _ := v
  succeeds biosCall := biosCall
  sourceNotVisible v := v.sourceNotVisible
  setVidPnSourceVisibility v visible := v.setVidPnSourceVisibility visible

/-- Down to D3 and up again, on either device: the source is not hidden. -/
theorem sleep_not_remembered :
    (¬∀ device calls, (PowerDod.start device).Remembers gpuPower calls) ∧
      ¬∀ device calls, (PowerDod.start device).Remembers vgaPower calls := by
  constructor
  · intro hall
    have hrem := hall ⟨.start firstMode, false, []⟩ [⟨.d3, .ready, .ready⟩, ⟨.d0, .ready, .ready⟩]
    have hafter := hrem [⟨.d3, .ready, .ready⟩] ⟨.d0, .ready, .ready⟩ [] _ _ rfl rfl rfl
    exact absurd (hafter.2 rfl rfl) (by decide)
  · intro hall
    have hrem := hall (.start firstMode fun _ => 0) [⟨.d3, true, true⟩, ⟨.d0, true, true⟩]
    have hafter := hrem [⟨.d3, true, true⟩] ⟨.d0, true, true⟩ [] _ _ rfl rfl rfl
    exact absurd (hafter.2 rfl rfl) (by decide)

end VioGpu.Device
