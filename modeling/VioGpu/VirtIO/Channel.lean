import Mathlib.Data.List.Perm.Basic
import Mathlib.Tactic.Common
import VioGpu.Lib.Splice
import VioGpu.Lib.Transition

/-!
# A virtqueue as its users see it

A queue with room for a number of descriptors: tokens are accepted while there is room, the
device completes accepted tokens in any order, and each completed token is returned once, in
the order of completion. A token takes its descriptors from the add that accepts it to the
get that returns it.
-/

namespace VioGpu.VirtIO

open Lib

/-- `pending` are the tokens the device has not completed, `used` those it has completed and
the driver has not got back, each with its number of descriptors. -/
structure Channel (τ : Type) where
  numFree : Nat
  pending : List (τ × Nat)
  used : List (τ × Nat)

namespace Channel

variable {τ : Type}

def new (num : Nat) : Channel τ := ⟨num, [], []⟩

/-- The queue has room for `n` descriptors. -/
def HasRoom (ch : Channel τ) (n : Nat) : Prop := n ≤ ch.numFree

instance (ch : Channel τ) (n : Nat) : Decidable (ch.HasRoom n) :=
  inferInstanceAs (Decidable (_ ≤ _))

/-- `none` for `-ENOSPC`. -/
def addBuf (ch : Channel τ) (t : τ) (n : Nat) : Option (Channel τ) :=
  if ch.HasRoom n then
    some { ch with numFree := ch.numFree - n, pending := ch.pending ++ [(t, n)] }
  else none

/-- The device completes the `i`-th token it has not completed. -/
def complete (ch : Channel τ) (i : Nat) : Option (Channel τ) := do
  let e ← ch.pending[i]?
  some { ch with pending := ch.pending.eraseIdx i, used := ch.used ++ [e] }

/-- The next completed token, `none` for `NULL`. -/
def getBuf (ch : Channel τ) : Option (τ × Channel τ) :=
  match ch.used with
  | [] => none
  | (t, n) :: used => some (t, { ch with numFree := ch.numFree + n, used := used })

/-- The driver adds or gets, or the device completes. -/
inductive Event (τ : Type)
  | addBuf (t : τ) (n : Nat)
  | complete (i : Nat)
  | getBuf

def step (ch : Channel τ) : Event τ → Option (Channel τ)
  | .addBuf t n => ch.addBuf t n
  | .complete i => ch.complete i
  | .getBuf => Prod.snd <$> ch.getBuf

def system (num : Nat) : System (Channel τ) (Event τ) where
  init := new num
  step := step

/-- The tokens of the outstanding chains. -/
def tokens (ch : Channel τ) : List τ := (ch.pending ++ ch.used).map Prod.fst

@[simp] theorem new_tokens (num : Nat) : (new num : Channel τ).tokens = [] := rfl

theorem addBuf_isSome_iff {ch : Channel τ} {t : τ} {n : Nat} :
    (ch.addBuf t n).isSome ↔ ch.HasRoom n := by
  unfold addBuf
  split <;> simp_all

theorem addBuf_eq_some {ch ch' : Channel τ} {t : τ} {n : Nat} (h : ch.addBuf t n = some ch') :
    n ≤ ch.numFree ∧
      ch' = { ch with numFree := ch.numFree - n, pending := ch.pending ++ [(t, n)] } := by
  unfold addBuf at h
  split at h
  · next hroom => exact ⟨hroom, (Option.some.inj h).symm⟩
  · cases h

theorem tokens_addBuf {ch ch' : Channel τ} {t : τ} {n : Nat} (h : ch.addBuf t n = some ch') :
    ch'.tokens.Perm (t :: ch.tokens) := by
  obtain ⟨-, rfl⟩ := addBuf_eq_some h
  simp only [tokens, List.map_append, List.map_cons, List.append_assoc, List.singleton_append]
  exact List.perm_middle

theorem used_addBuf {ch ch' : Channel τ} {t : τ} {n : Nat} (h : ch.addBuf t n = some ch') :
    ch'.used = ch.used := by
  obtain ⟨-, rfl⟩ := addBuf_eq_some h
  rfl

theorem getBuf_eq_none_iff {ch : Channel τ} : ch.getBuf = none ↔ ch.used = [] := by
  unfold getBuf
  split <;> simp_all

theorem complete_eq {ch : Channel τ} {l m : List (τ × Nat)} {e : τ × Nat}
    (h : ch.pending = l ++ e :: m) :
    ch.complete l.length = some { ch with pending := l ++ m, used := ch.used ++ [e] } := by
  have hget : ch.pending[l.length]? = some e := by simp [h]
  have herase : ch.pending.eraseIdx l.length = l ++ m := by simp [h, List.eraseIdx_append]
  simp [complete, hget, herase]

theorem complete_eq_some {ch ch' : Channel τ} {i : Nat} (h : ch.complete i = some ch') :
    ∃ e l m, ch.pending = l ++ e :: m ∧
      ch' = { ch with pending := l ++ m, used := ch.used ++ [e] } := by
  unfold complete at h
  cases he : ch.pending[i]? with
  | none => simp [he] at h
  | some e =>
    rw [he] at h
    cases h
    refine ⟨e, ch.pending.take i, ch.pending.drop (i + 1), eq_take_cons_drop he, ?_⟩
    rw [List.eraseIdx_eq_take_drop_succ]

theorem tokens_complete {ch ch' : Channel τ} {i : Nat} (h : ch.complete i = some ch') :
    ch'.tokens.Perm ch.tokens := by
  obtain ⟨e, l, m, hpending, rfl⟩ := complete_eq_some h
  apply List.Perm.map _
  rw [hpending, List.append_assoc, List.append_assoc]
  apply List.Perm.append_left l
  rw [List.cons_append, ← List.append_assoc]
  exact List.perm_append_singleton e (m ++ ch.used)

theorem getBuf_eq_some {ch ch' : Channel τ} {t : τ} (h : ch.getBuf = some (t, ch')) :
    ∃ n used, ch.used = (t, n) :: used ∧
      ch' = { ch with numFree := ch.numFree + n, used := used } := by
  unfold getBuf at h
  split at h
  · cases h
  · next hused =>
    cases h
    exact ⟨_, _, hused, rfl⟩

theorem tokens_getBuf {ch ch' : Channel τ} {t : τ} (h : ch.getBuf = some (t, ch')) :
    ch.tokens.Perm (t :: ch'.tokens) := by
  obtain ⟨n, used, hused, rfl⟩ := getBuf_eq_some h
  simp only [tokens, hused, List.map_append, List.map_cons]
  exact List.perm_middle

/-! ## Descriptors -/

/-- The descriptors of the outstanding chains. -/
def inUse (ch : Channel τ) : Nat := ((ch.pending ++ ch.used).map Prod.snd).sum

theorem step_room {ch ch' : Channel τ} {e : Event τ} (h : ch.step e = some ch') :
    ch'.numFree + ch'.inUse = ch.numFree + ch.inUse := by
  cases e with
  | addBuf t n =>
    obtain ⟨hroom, rfl⟩ := addBuf_eq_some h
    simp only [inUse, List.map_append, List.sum_append, List.map_cons, List.map_nil, List.sum_cons,
      List.sum_nil]
    omega
  | complete i =>
    obtain ⟨e, l, m, hpending, rfl⟩ := complete_eq_some h
    simp only [inUse, hpending, List.map_append, List.map_cons, List.map_nil, List.sum_append,
      List.sum_cons, List.sum_nil]
    omega
  | getBuf =>
    obtain ⟨⟨t, ch'⟩, hget, rfl⟩ := Option.map_eq_some_iff.mp h
    obtain ⟨n, used, hused, rfl⟩ := getBuf_eq_some hget
    simp only [inUse, hused, List.map_append, List.map_cons, List.sum_append, List.sum_cons]
    omega

/-- No descriptor is lost, in any run. -/
theorem room {num : Nat} {ch : Channel τ} (h : (system num).Reachable ch) :
    ch.numFree + ch.inUse = num :=
  h.induct (fun ch => ch.numFree + ch.inUse = num) rfl
    fun _ _ _ hroom _ hstep => (step_room hstep).trans hroom

end Channel

end VioGpu.VirtIO
