import VioGpu.Device.Object
import VioGpu.Lib.Ledger

/-!
# The resources of a GPU object

`VioGpuObj.init` and `VioGpuObj.close` say what becomes of an object. Here the two functions
also write down what they acquire and release: the memory, the MDL, the lock on the pages and
the scatter-gather list. `none` stands for a write through `NULL`.
-/

namespace VioGpu.Device

open Lib Queue

/-- What `Init` acquires. -/
inductive ObjectResource
  | memory (bytes : Nat)
  | mdl
  /-- from `MmProbeAndLockPages` to `MmUnlockPages` -/
  | lock
  | sgList
  deriving DecidableEq, Repr

/-- What the OS answers in `Init`; `pa i` is the physical address of page `i`. -/
structure ObjectAnswers where
  memory : Bool
  mdl : Bool
  lock : Bool
  sgList : Bool
  pa : Nat → Nat

/-- How far `Init` gets. -/
def ObjectAnswers.outcome (a : ObjectAnswers) : InitOutcome :=
  if a.memory = false then .noMemory
  else if a.mdl = false then .noMdl
  else if a.lock = false then .lockFailed
  else if a.sgList = false then .noSgList
  else .done a.pa

/-- The pointers of a `VioGpuObj`, with the size of the memory and the entries of the list, and
what was acquired and released so far. -/
structure ObjectLife where
  /-- `m_pVAddr` -/
  vAddr : Option Nat
  /-- `m_pMdl` is not `NULL` -/
  mdl : Bool
  /-- `m_pSGList` -/
  sgList : Option (List MemEntry)
  ledger : List (Entry ObjectResource)

namespace ObjectLife

/-- `VioGpuObj::VioGpuObj` -/
def new : ObjectLife := ⟨none, false, none, []⟩

def log (l : ObjectLife) (e : Entry ObjectResource) : ObjectLife :=
  { l with ledger := l.ledger ++ [e] }

/-- `VioGpuObj::Init` -/
def init (l : ObjectLife) (size : Nat) (a : ObjectAnswers) : Option (Bool × ObjectLife) :=
  let pages := bytesToPages size
  let size := u32 (pages * pageSize)
  if a.memory = false then some (false, l)
  else
    let l := { l with vAddr := some size }.log (.acquire (.memory size))
    if a.mdl = false then some (false, l)
    else
      let l := { l with mdl := true }.log (.acquire .mdl)
      -- the exception handler leaves `m_pMdl` as it is
      if a.lock = false then some (false, l.log (.release .mdl))
      else
        let l := l.log (.acquire .lock)
        if a.sgList = false then none
        else some (true,
          { l with sgList := some (VioGpuObj.fillSgList pages a.pa) }.log (.acquire .sgList))

/-- `MmUnlockPages` and `IoFreeMdl` in `Close`. -/
def closeMdl (l : ObjectLife) : ObjectLife :=
  if l.mdl then { (l.log (.release .lock)).log (.release .mdl) with mdl := false } else l

/-- `delete [] m_pVAddr` -/
def deleteMemory (l : ObjectLife) : ObjectLife :=
  match l.vAddr with
  | none => l
  | some size => { l.log (.release (.memory size)) with vAddr := none }

/-- `delete []` of the list. -/
def deleteSgList (l : ObjectLife) : ObjectLife :=
  match l.sgList with
  | none => l
  | some _ => { l.log (.release .sgList) with sgList := none }

/-- `VioGpuObj::Close` -/
def close (l : ObjectLife) : ObjectLife := l.closeMdl.deleteMemory.deleteSgList

/-- An object is created, `Init` is called and the object is deleted. -/
def lifetime (size : Nat) (a : ObjectAnswers) : Option ObjectLife := do
  let (_, l) ← new.init size a
  some l.close

/-! ## The object of `VioGpuObj.init` -/

/-- What the pointers say is held. -/
def owned (l : ObjectLife) : List ObjectResource :=
  (if l.mdl then [.lock, .mdl] else []) ++ (l.vAddr.map .memory).toList ++
    (l.sgList.map fun _ => .sgList).toList

/-- The pointers are those of the object. -/
structure Matches (l : ObjectLife) (obj : VioGpuObj) : Prop where
  vAddr : obj.vAddr = l.vAddr
  mdl : obj.mdl ≠ .null ↔ l.mdl = true
  sgList : obj.sgList = l.sgList.getD []

/-- **`Init`** succeeds, fails or writes through `NULL` as `VioGpuObj.init` does, and leaves
the pointers of that object. -/
theorem init_matches (number size : Nat) (a : ObjectAnswers) :
    Option.Rel (fun r r' => r.1 = r'.1 ∧ r.2.Matches r'.2) (new.init size a)
      ((VioGpuObj.new number).init size a.outcome) := by
  unfold init ObjectAnswers.outcome
  split_ifs with hmemory hmdl hlock hsg
  · exact .some ⟨rfl, rfl, by simp [new, VioGpuObj.new], rfl⟩
  · exact .some ⟨rfl, rfl, by simp [new, log, VioGpuObj.new], rfl⟩
  · exact .some ⟨rfl, rfl, by simp [log], rfl⟩
  · exact .none
  · exact .some ⟨rfl, rfl, by simp [log], rfl⟩

/-! ## What is held -/

/-- `Close` releases what the pointers say. -/
theorem close_ledger (l : ObjectLife) : l.close.ledger = l.ledger ++ l.owned.map .release := by
  obtain ⟨vAddr, mdl, sgList, ledger⟩ := l
  cases mdl <;> cases vAddr <;> cases sgList <;>
    simp [close, closeMdl, deleteMemory, deleteSgList, log, owned]

/-- After `Init` the pointers say what is held, unless the pages could not be locked: then
they say that the MDL is held, which was freed. -/
theorem init_held {size : Nat} {a : ObjectAnswers} {ok : Bool} {l : ObjectLife}
    (h : new.init size a = some (ok, l)) :
    ∃ after, held [] l.ledger = some after ∧
      (after.Perm l.owned ↔ (a.memory = true → a.mdl = true → a.lock = true)) := by
  unfold init at h
  split_ifs at h with hmemory hmdl hlock hsg
  all_goals
    rw [Option.some.injEq, Prod.mk.injEq] at h
    obtain ⟨-, rfl⟩ := h
    refine ⟨_, rfl, ?_⟩
  · simp [hmemory, owned, new]
  · simp [hmdl, owned, new, log]
  · constructor
    · intro hperm
      cases hperm.length_eq
    · intro hall
      simp_all
  · have hlocked := (Bool.not_eq_false _).mp hlock
    simp only [hlocked, implies_true, iff_true]
    change ([ObjectResource.sgList] ++ _).Perm _
    exact List.perm_append_comm

/-- An object is created, initialized and deleted without a write through `NULL`, and what was
acquired for it, each at most once, was released exactly once; nothing else was. -/
def ReleasesOnce (size : Nat) (a : ObjectAnswers) : Prop :=
  ∃ l, lifetime size a = some l ∧ Settled l.ledger ∧ ∀ r, l.ledger.count (.acquire r) ≤ 1

/-- Nothing is acquired twice. -/
theorem init_acquires {size : Nat} {a : ObjectAnswers} {ok : Bool} {l : ObjectLife}
    (h : new.init size a = some (ok, l)) (r : ObjectResource) :
    l.ledger.count (.acquire r) ≤ 1 := by
  unfold init at h
  split_ifs at h
  all_goals
    rw [Option.some.injEq, Prod.mk.injEq] at h
    obtain ⟨-, rfl⟩ := h
    cases r <;> simp [log, new, List.count_cons]
  all_goals split <;> omega

theorem init_eq_none_iff {size : Nat} {a : ObjectAnswers} :
    new.init size a = none ↔
      a.memory = true ∧ a.mdl = true ∧ a.lock = true ∧ a.sgList = false := by
  unfold init
  split_ifs <;> simp_all

/-- `Close` settles everything exactly when what the pointers say is what is held. -/
theorem close_settled_iff {l : ObjectLife} {after : List ObjectResource}
    (h : held [] l.ledger = some after) : Settled l.close.ledger ↔ after.Perm l.owned := by
  rw [close_ledger, Settled, held_append, h, Option.bind_some, held_releases_eq_nil]

/-- `VioGpuObj.close` has a state exactly when everything is settled. -/
theorem close_isSome_iff {number size : Nat} {a : ObjectAnswers} {ok ok' : Bool} {l : ObjectLife}
    {obj : VioGpuObj} (h : new.init size a = some (ok, l))
    (hobj : (VioGpuObj.new number).init size a.outcome = some (ok', obj)) :
    obj.close.isSome ↔ Settled l.close.ledger := by
  obtain ⟨after, hheld, hperm⟩ := init_held h
  rw [close_settled_iff hheld, hperm]
  unfold ObjectAnswers.outcome at hobj
  split_ifs at hobj
  all_goals cases hobj
  all_goals simp_all [VioGpuObj.close, VioGpuObj.new]

/-- **What an object acquires is released exactly once**, unless its pages cannot be locked or
there is no memory for its list. -/
theorem releasesOnce_iff (size : Nat) (a : ObjectAnswers) :
    ReleasesOnce size a ↔ (a.memory = true → a.mdl = true → a.lock = true ∧ a.sgList = true) := by
  cases h : new.init size a with
  | none =>
    obtain ⟨hmemory, hmdl, hlock, hsg⟩ := init_eq_none_iff.mp h
    simp [ReleasesOnce, lifetime, h, hmemory, hmdl, hsg]
  | some r =>
    obtain ⟨ok, l⟩ := r
    have hlife : lifetime size a = some l.close := by simp [lifetime, h]
    obtain ⟨after, hheld, hperm⟩ := init_held h
    have hacq : ∀ r, l.close.ledger.count (.acquire r) ≤ 1 := by
      intro r
      have hr := init_acquires h r
      have hrel : (l.owned.map Entry.release).count (.acquire r) = 0 := by
        simp [List.count_eq_zero]
      rwa [close_ledger, List.count_append, hrel, Nat.add_zero]
    have hsg : ¬(a.memory = true ∧ a.mdl = true ∧ a.lock = true ∧ a.sgList = false) := by
      rw [← init_eq_none_iff, h]
      nofun
    constructor
    · rintro ⟨l', hl', hs, -⟩ hmemory hmdl
      cases hlife.symm.trans hl'
      have hlock := hperm.mp ((close_settled_iff hheld).mp hs) hmemory hmdl
      exact ⟨hlock, by simpa [hmemory, hmdl, hlock] using hsg⟩
    · intro hall
      have hs := (close_settled_iff hheld).mpr (hperm.mpr fun hm hd => (hall hm hd).1)
      exact ⟨l.close, hlife, hs, hacq⟩

/-- The pages cannot be locked: the MDL is freed and the object keeps the pointer to it. -/
def noLock : ObjectAnswers := ⟨true, true, false, true, fun i => 4096 * (i + 1)⟩

/-- `Close` unlocks pages that are not locked. -/
theorem not_releasesOnce : ¬∀ size a, ReleasesOnce size a := by
  intro h
  obtain ⟨l, hl, hs, -⟩ := h 4096 noLock
  cases hl
  revert hs
  decide

end ObjectLife

end VioGpu.Device
