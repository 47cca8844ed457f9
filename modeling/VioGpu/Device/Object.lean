import VioGpu.Lib.Word
import VioGpu.Queue.Command

/-!
# GPU objects (`VioGpuObj` of `viogpu_queue.cpp`)

A `VioGpuObj` owns the memory of a resource together with its MDL and its scatter-gather
list. Objects are numbered in the order of their creation; the number tells the memory of one
object from that of another.
-/

namespace VioGpu.Device

open Lib Queue

/-- `m_pMdl`: `freed` is a pointer to an MDL that was given to `IoFreeMdl`. -/
inductive Mdl
  | null
  | locked
  | freed
  deriving DecidableEq, Repr

structure VioGpuObj where
  /-- the number of the object -/
  number : Nat
  /-- `m_uiHwRes` -/
  hwRes : Nat
  /-- the size of the memory at `m_pVAddr` -/
  vAddr : Option Nat
  /-- `GetPhysicalAddress` -/
  physicalAddress : Nat
  mdl : Mdl
  sgList : List MemEntry
  deriving DecidableEq, Repr

/-- How far `VioGpuObj::Init` gets. -/
inductive InitOutcome
  /-- the allocation of the memory fails -/
  | noMemory
  /-- `IoAllocateMdl` fails -/
  | noMdl
  /-- `MmProbeAndLockPages` raises an exception -/
  | lockFailed
  /-- the allocation of the scatter-gather list fails -/
  | noSgList
  /-- everything succeeds; `pa i` is the physical address of page `i` -/
  | done (pa : Nat → Nat)

def InitOutcome.Succeeds : InitOutcome → Prop
  | .done _ => True
  | .noMemory | .noMdl | .lockFailed | .noSgList => False

instance : (o : InitOutcome) → Decidable o.Succeeds
  | .done _ => isTrue trivial
  | .noMemory | .noMdl | .lockFailed | .noSgList => isFalse id

/-- `BYTES_TO_PAGES` -/
def bytesToPages (size : Nat) : Nat := size / pageSize + if size % pageSize = 0 then 0 else 1

namespace VioGpuObj

/-- `VioGpuObj::VioGpuObj` -/
def new (number : Nat) : VioGpuObj where
  number := number
  hwRes := 0
  vAddr := none
  physicalAddress := 0
  mdl := .null
  sgList := []

/-- The entries of the first pages, up to the first whose address is 0. -/
def fillSgList (pages : Nat) (pa : Nat → Nat) : List MemEntry :=
  (((List.range pages).map pa).takeWhile (· ≠ 0)).map fun addr => ⟨addr, pageSize⟩

/-- `VioGpuObj::Init`. Without a scatter-gather list the code writes through `NULL`, and no
state follows. -/
def init (obj : VioGpuObj) (size : Nat) : InitOutcome → Option (Bool × VioGpuObj)
  | .noMemory => some (false, obj)
  | .noMdl => some (false, { obj with vAddr := some (u32 (bytesToPages size * pageSize)) })
  | .lockFailed =>
    some (false, { obj with vAddr := some (u32 (bytesToPages size * pageSize)), mdl := .freed })
  | .noSgList => none
  | .done pa => some (true, { obj with
      vAddr := some (u32 (bytesToPages size * pageSize))
      physicalAddress := pa 0
      mdl := .locked
      sgList := fillSgList (bytesToPages size) pa })

/-- `VioGpuObj::Close`: what is left of the object in `~VioGpuObj`. No state follows the use
of an MDL that was freed. -/
def close (obj : VioGpuObj) : Option VioGpuObj :=
  if obj.mdl = .freed then none else some { obj with vAddr := none, mdl := .null, sgList := [] }

/-- **`Init`** keeps the number and the resource id, and succeeds exactly when all its steps
do; then the object has an MDL of its own. -/
theorem init_spec {obj obj' : VioGpuObj} {size : Nat} {o : InitOutcome} {ok : Bool}
    (h : obj.init size o = some (ok, obj')) :
    obj'.number = obj.number ∧ obj'.hwRes = obj.hwRes ∧ (ok = true ↔ o.Succeeds) ∧
      (ok = true → obj'.mdl = .locked ∧ obj'.vAddr = some (u32 (bytesToPages size * pageSize))) := by
  cases o with
  | noSgList => cases h
  | noMemory => cases h; simp [InitOutcome.Succeeds]
  | noMdl => cases h; simp [InitOutcome.Succeeds]
  | lockFailed => cases h; simp [InitOutcome.Succeeds]
  | done pa => cases h; simp [InitOutcome.Succeeds]

end VioGpuObj

end VioGpu.Device
