import Mathlib.Data.List.Perm.Basic
import VioGpu.Device.PciResources
import VioGpu.Lib.History

/-!
# What `CPciResources::Init` and `CPciBar` come to

`Init` decides its result from `bar`, which each port or memory descriptor overwrites, also one
that no BAR has: with an interrupt in the list it returns what the last such descriptor came
to. A mapping of a `CPciBar` is in its `m_BaseVA`, `Unmap` clears that, and calls the port
driver for the one kind that `GetVA` did not map.
-/

namespace VioGpu.Device

open Lib

namespace PartialDescriptor

/-- The start of a port or memory range. -/
def range? : PartialDescriptor → Option (BitVec 64)
  | .port start _ _ | .memory start _ => some start
  | .interrupt _ | .other => none

/-- A port or memory descriptor that matches a BAR. -/
def HasBar (h : PciHeader) (d : PartialDescriptor) : Prop :=
  ∃ start ∈ d.range?, (h.virtioGetBarIndex start).isSome

/-- A port or memory descriptor that matches no BAR. -/
def HasNoBar (h : PciHeader) (d : PartialDescriptor) : Prop :=
  ∃ start ∈ d.range?, (h.virtioGetBarIndex start).isNone

def IsInterrupt (d : PartialDescriptor) : Prop := ∃ flags, d = .interrupt flags

theorem HasBar.not_hasNoBar {h : PciHeader} {d : PartialDescriptor} (hd : d.HasBar h) :
    ¬d.HasNoBar h := by
  rintro ⟨start', hs', hnone⟩
  obtain ⟨start, hs, hsome⟩ := hd
  obtain rfl : start = start' := Option.mem_unique hs hs'
  rw [Option.isNone_iff_eq_none.mp hnone] at hsome
  cases hsome

end PartialDescriptor

open PartialDescriptor

namespace CPciResources

variable {h : PciHeader} {list : List PartialDescriptor} {d : PartialDescriptor}

theorem descriptors_concat :
    descriptors h (list ++ [d]) = (descriptors h list).descriptor h d := by
  rw [descriptors, descriptors, List.foldl_append]
  rfl

theorem setBar_bar (r : CPciResources) (bar : Option (Fin 6)) (b : CPciBar) :
    (r.setBar bar b).bar = bar := by
  cases bar <;> rfl

theorem setBar_interruptFound (r : CPciResources) (bar : Option (Fin 6)) (b : CPciBar) :
    (r.setBar bar b).interruptFound = r.interruptFound := by
  cases bar <;> rfl

/-- What one descriptor makes of `bar`. -/
theorem descriptor_bar (r : CPciResources) :
    (r.descriptor h d).bar =
      (d.range?).elim r.bar fun start => h.virtioGetBarIndex start := by
  cases d with
  | port start length flags => exact setBar_bar _ _ _
  | interrupt flags => rfl
  | memory start length => exact setBar_bar _ _ _
  | other => rfl

theorem descriptor_interruptFound (r : CPciResources) :
    (r.descriptor h d).interruptFound = true ↔ r.interruptFound = true ∨ d.IsInterrupt := by
  cases d with
  | port start length flags => simp [descriptor, setBar_interruptFound, IsInterrupt]
  | interrupt flags => simp [descriptor, IsInterrupt]
  | memory start length => simp [descriptor, setBar_interruptFound, IsInterrupt]
  | other => simp [descriptor, IsInterrupt]

theorem interruptFound_iff :
    (descriptors h list).interruptFound = true ↔ ∃ d ∈ list, d.IsInterrupt := by
  induction list using List.reverseRecOn with
  | nil => simp [descriptors, start]
  | append_singleton list d ih =>
    rw [descriptors_concat, descriptor_interruptFound, ih]
    simp [or_and_right, exists_or]

theorem hasBar_or (h : PciHeader) (d : PartialDescriptor) :
    d.HasBar h ∨ d.HasNoBar h ∨ d.range? = none := by
  cases hs : d.range? with
  | none => exact .inr (.inr rfl)
  | some start =>
    cases hbar : h.virtioGetBarIndex start with
    | none => exact .inr (.inl ⟨start, hs, by simp [hbar]⟩)
    | some i => exact .inl ⟨start, hs, by simp [hbar]⟩

/-- The last port or memory descriptor decides. -/
theorem bar_isSome_iff :
    (descriptors h list).bar.isSome ↔ Since (HasBar h) (HasNoBar h) list := by
  induction list using List.reverseRecOn with
  | nil => simp [descriptors, start, not_since_nil]
  | append_singleton list d ih =>
    rw [since_concat, descriptors_concat, descriptor_bar, ← ih]
    rcases hasBar_or h d with hd | hd | hd
    · have hno := hd.not_hasNoBar
      obtain ⟨start, hs, hsome⟩ := id hd
      simp [Option.mem_def.mp hs, hsome, hd]
    · have hbar : ¬d.HasBar h := fun hbar => hbar.not_hasNoBar hd
      obtain ⟨start, hs, hnone⟩ := id hd
      simp [Option.mem_def.mp hs, Option.isNone_iff_eq_none.mp hnone, hd, hbar]
    · have hbar : ¬d.HasBar h := by simp [HasBar, hd]
      have hno : ¬d.HasNoBar h := by simp [HasNoBar, hd]
      simp [hd, hbar, hno]

theorem init_eq_true_iff :
    (init (some h) list).1 = true ↔
      Since (HasBar h) (HasNoBar h) list ∧ ∃ d ∈ list, d.IsInterrupt := by
  rw [← bar_isSome_iff, ← interruptFound_iff]
  cases hb : (descriptors h list).bar <;> cases hi : (descriptors h list).interruptFound <;>
    simp [init, hb, hi]

/-- What `Init` is there to say: a port or memory descriptor matches a BAR, and an interrupt is
there. -/
def Enumerates (h : PciHeader) (list : List PartialDescriptor) : Prop :=
  (∃ d ∈ list, d.HasBar h) ∧ ∃ d ∈ list, d.IsInterrupt

theorem Enumerates.perm {list' : List PartialDescriptor} (hp : list'.Perm list) :
    Enumerates h list' ↔ Enumerates h list := by
  simp only [Enumerates, hp.mem_iff]

theorem init_iff_enumerates :
    ((init (some h) list).1 = true ↔ Enumerates h list) ↔
      (Enumerates h list → Since (HasBar h) (HasNoBar h) list) := by
  rw [init_eq_true_iff]
  constructor
  · intro hiff henum
    exact (hiff.mpr henum).1
  · intro hsince
    constructor
    · rintro ⟨⟨before, d, after, rfl, hd, -⟩, hint⟩
      exact ⟨⟨d, by simp, hd⟩, hint⟩
    · intro henum
      exact ⟨hsince henum, henum.2⟩

/-- **When `Init` enumerates the resources.** Its result says so for the list at hand exactly when
a matching range is not followed by one that no BAR has, and it is the same in every order
exactly when there is no range that no BAR has, or nothing to enumerate. -/
theorem init_order_iff (h : PciHeader) (list : List PartialDescriptor) :
    (((init (some h) list).1 = true ↔ Enumerates h list) ↔
      (Enumerates h list → Since (HasBar h) (HasNoBar h) list)) ∧
    ((((init (some h) list).1 = true ↔ Enumerates h list) ∧
        ∀ list', list'.Perm list → (init (some h) list').1 = (init (some h) list).1) ↔
      (Enumerates h list → ∀ d ∈ list, ¬d.HasNoBar h)) := by
  classical
  refine ⟨init_iff_enumerates, ?_, ?_⟩
  · rintro ⟨hiff, hperm⟩ henum e he hno
    -- the same list with the range that no BAR has moved to its end
    have hlast : (list.erase e ++ [e]).Perm list :=
      List.perm_append_comm.trans (List.perm_cons_erase he).symm
    have htrue := hiff.mpr henum
    rw [← hperm _ hlast, init_eq_true_iff, since_concat] at htrue
    rcases htrue.1 with hbar | ⟨hno', -⟩
    · exact hbar.not_hasNoBar hno
    · exact hno' hno
  · intro hcond
    have hiff : ∀ list', list'.Perm list →
        ((init (some h) list').1 = true ↔ Enumerates h list') := by
      intro list' hp
      apply init_iff_enumerates.mpr
      intro henum
      obtain ⟨d, hd, hbar⟩ := henum.1
      obtain ⟨before, after, rfl⟩ := List.append_of_mem hd
      refine ⟨before, d, after, rfl, hbar, fun e he => ?_⟩
      exact hcond ((Enumerates.perm hp).mp henum) e (hp.mem_iff.mp (by simp [he]))
    refine ⟨hiff list (List.Perm.refl list), fun list' hp => ?_⟩
    rw [Bool.eq_iff_iff, hiff list' hp, hiff list (List.Perm.refl list), Enumerates.perm hp]

/-- The header of a device whose second BAR is at `0xFEBD0000`. -/
def oneBar : PciHeader where
  baseAddresses i := if i = 1 then 0xFEBD0000 else 0
  cis := 0

/-- The BAR, the interrupt, and behind them the range of the legacy VGA memory. -/
theorem init_legacy_range : ¬∀ h list,
    ((init (some h) list).1 = true ↔ Enumerates h list) ∧
      ∀ list', list'.Perm list → (init (some h) list').1 = (init (some h) list).1 := by
  intro hall
  have hiff := (hall oneBar
    [.memory 0xFEBD0000 4096, .interrupt 0, .memory 0xA0000 0x20000]).1
  have henum : Enumerates oneBar
      [.memory 0xFEBD0000 4096, .interrupt 0, .memory 0xA0000 0x20000] :=
    ⟨⟨_, List.mem_cons_self, _, rfl, by decide⟩, .interrupt 0, by simp, 0, rfl⟩
  exact absurd (hiff.mpr henum) (by decide)

end CPciResources

/-! ## Mappings -/

/-- The three kinds of BAR that `Init` constructs. -/
inductive BarKind
  | portIo
  | portMapped
  | memory
  deriving DecidableEq, Repr

/-- A BAR of the kind, as it is constructed. -/
def BarKind.bar (k : BarKind) (basePA : BitVec 64) (size : BitVec 32) : CPciBar :=
  match k with
  | .portIo => .new basePA size true false
  | .portMapped => .new basePA size true true
  | .memory => .new basePA size false true

/-- Every BAR is of one of the kinds, and not mapped, after `Init`. -/
theorem CPciResources.init_bars (header : Option PciHeader) (list : List PartialDescriptor)
    (i : Fin 6) : ∃ k basePA size, (init header list).2.bars i = BarKind.bar k basePA size := by
  have hstart : ∃ k basePA size, start.bars i = BarKind.bar k basePA size := ⟨.memory, 0, 0, rfl⟩
  have hset (r : CPciResources) (bar : Option (Fin 6)) (b : CPciBar)
      (hr : ∃ k basePA size, r.bars i = BarKind.bar k basePA size)
      (hb : ∃ k basePA size, b = BarKind.bar k basePA size) :
      ∃ k basePA size, (r.setBar bar b).bars i = BarKind.bar k basePA size := by
    cases bar with
    | none => exact hr
    | some j =>
      by_cases hj : i = j
      · subst hj
        simpa [setBar] using hb
      · simpa [setBar, hj] using hr
  cases header with
  | none => exact hstart
  | some h =>
    show ∃ k basePA size, (descriptors h list).bars i = BarKind.bar k basePA size
    induction list using List.reverseRecOn with
    | nil => exact hstart
    | append_singleton list d ih =>
      rw [descriptors_concat]
      cases d with
      | port start length flags =>
        apply hset _ _ _ ih
        by_cases hio : flags &&& cmResourcePortIo ≠ 0
        · exact ⟨.portIo, start, length, by rw [if_pos hio]; rfl⟩
        · exact ⟨.portMapped, start, length, by rw [if_neg hio]; rfl⟩
      | interrupt flags => exact ih
      | memory start length => exact hset _ _ _ ih ⟨.memory, start, length, rfl⟩
      | other => exact ih

/-- A call of a member function, with what `DxgkCbMapMemory` would come to in it. -/
inductive BarCall
  | getVA (mapped : Option Nat)
  | getMappedAddress (offset : BitVec 32) (mapped : Option Nat)
  | unmap

/-- The outcome of `DxgkCbMapMemory` in a call that gets as far as `GetVA`. -/
def BarCall.getVA? (size : BitVec 32) : BarCall → Option (Option Nat)
  | .getVA mapped => some mapped
  | .getMappedAddress offset mapped => if offset < size then some mapped else none
  | .unmap => none

/-- What a call of the port driver does to the mappings. -/
def MemoryCall.entry? : MemoryCall → Option (Entry Unit)
  | .mapMemory _ _ _ mapped => if mapped.isSome then some (.acquire ()) else none
  | .unmapMemory => some (.release ())

namespace CPciBar

def call (b : CPciBar) : BarCall → CPciBar × List MemoryCall
  | .getVA mapped => b.getVA mapped
  | .getMappedAddress offset mapped => (b.getMappedAddress offset mapped).2
  | .unmap => b.unmap

/-- The bar and all calls to the port driver after a sequence of calls. -/
def calls (b : CPciBar) (ops : List BarCall) : CPciBar × List MemoryCall :=
  ops.foldl (fun s op => ((s.1.call op).1, s.2 ++ (s.1.call op).2)) (b, [])

/-- The mappings made and undone in a sequence of calls. -/
def ledger (b : CPciBar) (ops : List BarCall) : List (Entry Unit) :=
  (b.calls ops).2.filterMap MemoryCall.entry?

/-- While there is an address, `GetVA` returns it and the port driver is not called. -/
def KeepsAddress (b : CPciBar) (ops : List BarCall) : Prop :=
  ∀ before between after, ops = before ++ between ++ after → .unmap ∉ between →
    ∀ va, (b.calls before).1.baseVA = some va → ∀ mapped,
      ((b.calls (before ++ between)).1.getVA mapped).1.baseVA = some va ∧
        (b.calls (before ++ between ++ [.getVA mapped])).2 = (b.calls before).2

variable {b : CPciBar} {ops : List BarCall} {op : BarCall}

theorem calls_concat : b.calls (ops ++ [op]) =
    (((b.calls ops).1.call op).1, (b.calls ops).2 ++ ((b.calls ops).1.call op).2) := by
  rw [calls, List.foldl_append]
  rfl

theorem ledger_concat : b.ledger (ops ++ [op]) =
    b.ledger ops ++ ((b.calls ops).1.call op).2.filterMap MemoryCall.entry? := by
  rw [ledger, calls_concat, List.filterMap_append]
  rfl

/-- A call is one of `GetVA` or `Unmap`, or does nothing. -/
theorem call_cases (b : CPciBar) (op : BarCall) :
    (∃ mapped, op.getVA? b.size = some mapped ∧ b.call op = b.getVA mapped) ∨
      (op = .unmap ∧ b.call op = b.unmap) ∨
      (op.getVA? b.size = none ∧ op ≠ .unmap ∧ b.call op = (b, [])) := by
  cases op with
  | getVA mapped => exact .inl ⟨mapped, rfl, rfl⟩
  | getMappedAddress offset mapped =>
    by_cases hoff : offset < b.size
    · refine .inl ⟨mapped, by simp [BarCall.getVA?, hoff], ?_⟩
      simp [call, getMappedAddress, hoff]
    · refine .inr (.inr ⟨by simp [BarCall.getVA?, hoff], by simp, ?_⟩)
      simp [call, getMappedAddress, hoff]
  | unmap => exact .inr (.inl ⟨rfl, rfl⟩)

theorem getVA_mapped {va : Nat} (hva : b.baseVA = some va) (mapped : Option Nat) :
    b.getVA mapped = (b, []) := by
  simp [getVA, hva]

/-- While there is an address, only `Unmap` does anything. -/
theorem call_mapped {va : Nat} (hva : b.baseVA = some va) (hop : op ≠ .unmap) :
    b.call op = (b, []) := by
  rcases call_cases b op with ⟨mapped, -, hcall⟩ | ⟨hu, -⟩ | ⟨-, -, hcall⟩
  · rw [hcall, getVA_mapped hva]
  · exact absurd hu hop
  · exact hcall

theorem calls_append_mapped {before between : List BarCall} {va : Nat}
    (hva : (b.calls before).1.baseVA = some va) (hmem : .unmap ∉ between) :
    b.calls (before ++ between) = b.calls before := by
  induction between using List.reverseRecOn with
  | nil => rw [List.append_nil]
  | append_singleton between op ih =>
    have hop : op ≠ .unmap := fun heq => hmem (by simp [heq])
    have hsame := ih fun hu => hmem (by simp [hu])
    rw [← List.append_assoc, calls_concat, hsame, call_mapped hva hop, List.append_nil]

theorem keepsAddress (b : CPciBar) (ops : List BarCall) : b.KeepsAddress ops := by
  intro before between after _ hmem va hva mapped
  rw [calls_concat, calls_append_mapped hva hmem]
  have hcall : (b.calls before).1.call (.getVA mapped) = ((b.calls before).1, []) :=
    getVA_mapped hva mapped
  rw [hcall, getVA_mapped hva]
  exact ⟨hva, List.append_nil _⟩

theorem getVA_fst (b : CPciBar) (mapped : Option Nat) :
    ∃ va, (b.getVA mapped).1 = { b with baseVA := va } := by
  cases hb : b.baseVA with
  | some va => exact ⟨some va, by rw [getVA_mapped hb, ← hb]⟩
  | none =>
    cases hp : b.portSpace <;> cases hio : b.ioMapped <;> simp [getVA, hb, hp, hio]

/-- The bar is as constructed or has an address besides. -/
theorem calls_cases (hb : b.baseVA = none) (ops : List BarCall) :
    (b.calls ops).1 = b ∨ ∃ va, (b.calls ops).1 = { b with baseVA := some va } := by
  have hself : { b with baseVA := none } = b := by rw [← hb]
  induction ops using List.reverseRecOn with
  | nil => exact .inl rfl
  | append_singleton ops op ih =>
    rw [calls_concat]
    rcases ih with hfresh | ⟨va, hva⟩
    · rw [hfresh]
      rcases call_cases b op with ⟨mapped, -, hcall⟩ | ⟨-, hcall⟩ | ⟨-, -, hcall⟩
      · obtain ⟨va, hva⟩ := getVA_fst b mapped
        rw [hcall, hva]
        cases va with
        | none => exact .inl hself
        | some va => exact .inr ⟨va, rfl⟩
      · rw [hcall]
        exact .inl hself
      · rw [hcall]
        exact .inl rfl
    · by_cases hop : op = .unmap
      · subst hop
        rw [hva]
        exact .inl hself
      · rw [hva, call_mapped rfl hop]
        exact .inr ⟨va, rfl⟩

/-- `GetVA` of a bar that is to be mapped. -/
theorem getVA_ioMapped (hb : b.baseVA = none) (hio : b.ioMapped = true) (mapped : Option Nat) :
    b.getVA mapped =
      ({ b with baseVA := mapped }, [.mapMemory b.basePA b.size b.portSpace mapped]) := by
  cases hp : b.portSpace <;> simp [getVA, hb, hio, hp]

/-- Of a bar that is mapped nothing is ever unmapped, and a mapping is made as soon as a call
comes to one. -/
theorem ledger_ioMapped (hb : b.baseVA = none) (hio : b.ioMapped = true) (ops : List BarCall) :
    .release () ∉ b.ledger ops ∧ ((b.calls ops).1 ≠ b → .acquire () ∈ b.ledger ops) ∧
      (.acquire () ∈ b.ledger ops ↔ ∃ op ∈ ops, ∃ va, op.getVA? b.size = some (some va)) := by
  induction ops using List.reverseRecOn with
  | nil => simp [ledger, calls]
  | append_singleton ops op ih =>
    obtain ⟨hrel, hmoved, hacq⟩ := ih
    rw [ledger_concat, calls_concat]
    rcases calls_cases hb ops with hfresh | ⟨va, hva⟩
    · rw [hfresh]
      rcases call_cases b op with ⟨mapped, hget, hcall⟩ | ⟨hu, hcall⟩ | ⟨hget, -, hcall⟩
      · rw [hcall, getVA_ioMapped hb hio]
        have hself : { b with baseVA := none } = b := by rw [← hb]
        cases mapped with
        | none => simpa [MemoryCall.entry?, hrel, hself, hget, or_and_right, exists_or] using hacq
        | some va => simp [MemoryCall.entry?, hrel, hget, or_and_right, exists_or]
      · subst hu
        have hself : { b with baseVA := none } = b := by rw [← hb]
        simpa [hcall, unmap, hb, hself, hrel, BarCall.getVA?, or_and_right, exists_or] using hacq
      · simpa [hcall, hrel, hget, or_and_right, exists_or] using hacq
    · have hmade : .acquire () ∈ b.ledger ops := by
        apply hmoved
        rw [hva]
        intro heq
        rw [← heq] at hb
        cases hb
      have hcalls : ((b.calls ops).1.call op).2.filterMap MemoryCall.entry? = [] := by
        by_cases hop : op = .unmap
        · subst hop
          simp [hva, call, unmap, hio]
        · rw [hva, call_mapped rfl hop]
          rfl
      rw [hcalls, List.append_nil]
      refine ⟨hrel, fun _ => hmade, fun _ => ?_, fun _ => hmade⟩
      obtain ⟨op', hmem, hget⟩ := hacq.mp hmade
      exact ⟨op', by simp [hmem], hget⟩

/-- A bar in port I/O space is never mapped; its address is undone once one was taken. -/
theorem ledger_portIo (basePA : BitVec 64) (size : BitVec 32) (ops : List BarCall) :
    let b := BarKind.portIo.bar basePA size
    .acquire () ∉ b.ledger ops ∧ (((b.calls ops).1 ≠ b ∨ .release () ∈ b.ledger ops) ↔
      basePA ≠ 0#64 ∧ ∃ op ∈ ops, (op.getVA? size).isSome) := by
  intro b
  have hb : b.baseVA = none := rfl
  induction ops using List.reverseRecOn with
  | nil => simp [ledger, calls]
  | append_singleton ops op ih =>
    obtain ⟨hacq, hmoved⟩ := ih
    rw [ledger_concat, calls_concat]
    rcases calls_cases hb ops with hfresh | ⟨va, hva⟩
    · rw [hfresh] at hmoved ⊢
      have hmoved : .release () ∈ b.ledger ops ↔
          basePA ≠ 0#64 ∧ ∃ op ∈ ops, (op.getVA? size).isSome := by simpa using hmoved
      rcases call_cases b op with ⟨mapped, hget, hcall⟩ | ⟨hu, hcall⟩ | ⟨hget, -, hcall⟩
      · have hget : op.getVA? size = some mapped := hget
        rw [hcall]
        by_cases hpa : basePA = 0#64
        · subst hpa
          have hsame : b.getVA mapped = (b, []) := rfl
          simpa [hsame, hacq] using hmoved
        · have hset : b.getVA mapped = ({ b with baseVA := some basePA.toNat }, []) := by
            simp [getVA, b, BarKind.bar, CPciBar.new, hpa]
          have hne : { b with baseVA := some basePA.toNat } ≠ b := fun heq => by
            rw [← heq] at hb
            cases hb
          simp [hset, hne, hacq, hpa, hget, or_and_right, exists_or]
      · subst hu
        have hsame : b.call .unmap = (b, []) := rfl
        simpa [hsame, hacq, BarCall.getVA?, or_and_right, exists_or] using hmoved
      · have hget : op.getVA? size = none := hget
        simpa [hcall, hacq, hget, or_and_right, exists_or] using hmoved
    · have hne : (b.calls ops).1 ≠ b := fun heq => by
        rw [hva] at heq
        rw [← heq] at hb
        cases hb
      have hex : basePA ≠ 0#64 ∧ ∃ op' ∈ ops ++ [op], (op'.getVA? size).isSome := by
        obtain ⟨hpa, op', hmem, hget⟩ := hmoved.mp (.inl hne)
        exact ⟨hpa, op', by simp [hmem], hget⟩
      rw [hva] at hne ⊢
      by_cases hop : op = .unmap
      · subst hop
        have hcall : (call { b with baseVA := some va } .unmap).2 = [.unmapMemory] := rfl
        rw [hcall]
        have hout : .release () ∈ b.ledger ops ++
            [MemoryCall.unmapMemory].filterMap MemoryCall.entry? := by
          simp [MemoryCall.entry?]
        exact ⟨by simp [hacq, MemoryCall.entry?], fun _ => hex, fun _ => .inr hout⟩
      · rw [call_mapped rfl hop, List.filterMap_nil, List.append_nil]
        exact ⟨hacq, fun _ => hex, fun _ => .inl hne⟩

end CPciBar

/-- No call takes an address: a mapping fails in each call of `GetVA`; in port I/O space the
address is 0 or `GetVA` is not called. -/
def BarKind.NothingMapped (k : BarKind) (basePA : BitVec 64) (size : BitVec 32)
    (ops : List BarCall) : Prop :=
  match k with
  | .portIo => basePA = 0#64 ∨ ∀ op ∈ ops, op.getVA? size = none
  | .portMapped | .memory => ∀ op ∈ ops, ∀ va, op.getVA? size ≠ some (some va)

theorem settled_ioMapped_iff {b : CPciBar} (hb : b.baseVA = none) (hio : b.ioMapped = true)
    (ops : List BarCall) : Settled (b.ledger (ops ++ [.unmap])) ↔
      ∀ op ∈ ops, ∀ va, op.getVA? b.size ≠ some (some va) := by
  obtain ⟨hrel, -, hacq⟩ := CPciBar.ledger_ioMapped hb hio (ops ++ [.unmap])
  rw [settled_iff_of_no_release fun _ => hrel]
  constructor
  · intro hnone op hop va hget
    apply hnone ()
    exact hacq.mpr ⟨op, by simp [hop], va, hget⟩
  · intro hnone _ hmem
    obtain ⟨op, hop, va, hget⟩ := hacq.mp hmem
    rcases List.mem_append.mp hop with hop | hop
    · exact hnone op hop va hget
    · rw [List.mem_singleton.mp hop] at hget
      cases hget

theorem settled_portIo_iff (basePA : BitVec 64) (size : BitVec 32) (ops : List BarCall) :
    Settled ((BarKind.portIo.bar basePA size).ledger (ops ++ [.unmap])) ↔
      basePA = 0#64 ∨ ∀ op ∈ ops, op.getVA? size = none := by
  obtain ⟨hacq, hmoved⟩ := CPciBar.ledger_portIo basePA size ops
  obtain ⟨hacq', -⟩ := CPciBar.ledger_portIo basePA size (ops ++ [.unmap])
  rw [settled_iff_of_no_acquire fun _ => hacq', CPciBar.ledger_concat]
  have hb : (BarKind.portIo.bar basePA size).baseVA = none := rfl
  constructor
  · intro hnone
    by_contra hcond
    rw [not_or] at hcond
    have hex : ∃ op ∈ ops, (op.getVA? size).isSome := by
      by_contra hall
      apply hcond.2
      intro op hop
      rw [← Option.not_isSome_iff_eq_none]
      exact fun hsome => hall ⟨op, hop, hsome⟩
    rcases hmoved.mpr ⟨hcond.1, hex⟩ with hne | hmem
    · -- the address is there, and `Unmap` undoes it
      obtain ⟨va, hva⟩ := (CPciBar.calls_cases hb ops).resolve_left hne
      apply hnone ()
      rw [hva]
      exact List.mem_append_right _ List.mem_cons_self
    · exact hnone () (List.mem_append_left _ hmem)
  · intro hcond _ hmem
    have hstill : ¬((CPciBar.calls (BarKind.portIo.bar basePA size) ops).1 ≠
        BarKind.portIo.bar basePA size ∨
          .release () ∈ (BarKind.portIo.bar basePA size).ledger ops) := by
      rw [hmoved]
      rintro ⟨hpa, op, hop, hget⟩
      rcases hcond with hzero | hnone
      · exact hpa hzero
      · rw [hnone op hop] at hget
        cases hget
    rw [not_or, not_not] at hstill
    rw [hstill.1] at hmem
    rcases List.mem_append.mp hmem with hmem | hmem
    · exact hstill.2 hmem
    · cases hmem

/-- **When the mappings of a BAR are undone.** They are, with nothing else unmapped, exactly when
there were none: the kinds that `GetVA` maps are never unmapped, the one it does not map is. -/
theorem unmap_once_iff (k : BarKind) (basePA : BitVec 64) (size : BitVec 32)
    (ops : List BarCall) :
    (Settled ((k.bar basePA size).ledger (ops ++ [.unmap])) ∧
      (k.bar basePA size).KeepsAddress (ops ++ [.unmap])) ↔ k.NothingMapped basePA size ops := by
  rw [and_iff_left (CPciBar.keepsAddress _ _)]
  cases k with
  | portIo => exact settled_portIo_iff basePA size ops
  | portMapped => exact settled_ioMapped_iff rfl rfl ops
  | memory => exact settled_ioMapped_iff rfl rfl ops

/-- A memory BAR that is mapped once and never unmapped. -/
theorem memory_bar_leaks : ¬∀ (k : BarKind) (basePA : BitVec 64) (size : BitVec 32)
    (ops : List BarCall), Settled ((k.bar basePA size).ledger (ops ++ [.unmap])) ∧
      (k.bar basePA size).KeepsAddress (ops ++ [.unmap]) := by
  intro hall
  have hsettled := (hall .memory 0xFEBD0000 4096 [.getVA (some 0x80000000)]).1
  exact absurd hsettled (by decide)

end VioGpu.Device
