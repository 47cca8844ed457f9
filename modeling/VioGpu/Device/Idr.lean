import VioGpu.Lib.Bitmap

/-!
# Resource ids (`viogpu_idr.cpp`)

`VioGpuIdr` hands out the resource ids. A set bit of its one-page bitmap marks an id in use;
`Init` marks the ids below `start` for good.
-/

namespace VioGpu.Device

open Lib

/-- `m_IdBitMap`: the buffer, `none` for `NULL`. -/
structure VioGpuIdr where
  startIndex : Nat
  buffer : Option (Nat → Bool)

namespace VioGpuIdr

/-- `SizeOfBitMap`: `CHAR_BIT * PAGE_SIZE`. -/
def sizeOfBitMap : Nat := 8 * 4096

/-- What `RtlFindClearBitsAndSet` returns when there is no clear bit. -/
def noBits : Nat := 0xFFFFFFFF

/-- `VioGpuIdr::Init` -/
def init (start : Nat) : VioGpuIdr where
  startIndex := start
  buffer := some fun i => decide (i < start)

/-- `VioGpuIdr::GetId`, with `RtlFindClearBitsAndSet` for one bit from hint 0. -/
def getId (idr : VioGpuIdr) : Nat × VioGpuIdr :=
  match idr.buffer with
  | none => (0, idr)
  | some bits =>
    match findClear bits sizeOfBitMap 0 with
    | none => (noBits, idr)
    | some id => (id, { idr with buffer := some (Function.update bits id true) })

/-- `RtlAreBitsSet` for one bit. -/
def isSet (idr : VioGpuIdr) (id : Nat) : Bool := idr.buffer.elim false (· id)

/-- `VioGpuIdr::PutId`. A bit that is not set is reported and cleared all the same. -/
def putId (idr : VioGpuIdr) (id : Nat) : VioGpuIdr :=
  { idr with buffer := idr.buffer.map fun bits => Function.update bits id false }

/-- There is an id to give. -/
def HasClear (idr : VioGpuIdr) : Prop :=
  (idr.buffer.bind fun bits => findClear bits sizeOfBitMap 0).isSome = true

instance (idr : VioGpuIdr) : Decidable idr.HasClear := inferInstanceAs (Decidable (_ = true))

/-! ## What the functions do to the bits -/

@[simp] theorem isSet_init (start id : Nat) : (init start).isSet id = decide (id < start) := rfl

/-- **`GetId`** marks the lowest id that is not in use, and nothing else. -/
theorem getId_spec {idr : VioGpuIdr} (h : idr.HasClear) :
    ∃ id idr', idr.getId = (id, idr') ∧ id < sizeOfBitMap ∧ idr.isSet id = false ∧
      (∀ j, j < id → idr.isSet j = true) ∧ ∀ j, idr'.isSet j = (idr.isSet j || decide (j = id)) := by
  unfold HasClear at h
  cases hb : idr.buffer with
  | none => simp [hb] at h
  | some bits =>
    cases hf : findClear bits sizeOfBitMap 0 with
    | none => simp [hb, hf] at h
    | some id =>
      obtain ⟨_, hlt, hclear, hbelow⟩ := findClear_spec hf
      refine ⟨id, { idr with buffer := some (Function.update bits id true) }, ?_, by omega, ?_,
        ?_, ?_⟩
      · simp only [getId, hb, hf]
      · simpa [isSet, hb] using hclear
      · intro j hj
        simpa [isSet, hb] using hbelow j (Nat.zero_le j) hj
      · intro j
        by_cases hj : j = id <;> simp [isSet, hb, hj, hclear]

theorem isSet_putId (idr : VioGpuIdr) (id j : Nat) :
    (idr.putId id).isSet j = (idr.isSet j && decide (j ≠ id)) := by
  cases hb : idr.buffer with
  | none => simp [isSet, putId, hb]
  | some bits => by_cases hj : j = id <;> simp [isSet, putId, hb, hj]

/-- `GetId` succeeds while some id of the bitmap is not in use. -/
theorem hasClear_of_clear {idr : VioGpuIdr} {id : Nat} (hbuf : idr.buffer.isSome = true)
    (hid : id < sizeOfBitMap) (hclear : idr.isSet id = false) : idr.HasClear := by
  obtain ⟨bits, hb⟩ := Option.isSome_iff_exists.mp hbuf
  rw [HasClear, hb]
  exact findClear_isSome (Nat.zero_le id) (by omega) (by simpa [isSet, hb] using hclear)

theorem buffer_getId {idr : VioGpuIdr} (h : idr.buffer.isSome = true) :
    idr.getId.2.buffer.isSome = true := by
  unfold getId
  split
  · exact h
  · split
    · exact h
    · rfl

@[simp] theorem buffer_putId (idr : VioGpuIdr) (id : Nat) :
    (idr.putId id).buffer.isSome = idr.buffer.isSome := by
  simp [putId]

end VioGpuIdr

end VioGpu.Device
