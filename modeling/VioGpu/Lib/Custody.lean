import VioGpu.Lib.Program
import Mathlib.Data.Multiset.AddSub
import Mathlib.Data.Multiset.Count

/-!
# Custody of objects

Objects that a program acquires, uses and gives back by its calls. What a call does to objects
is a list of deeds, which depends on the answer; a release can fail, and leaves the object held.
`Custody` replays deeds: to use or to release what is not held has no result.

`Triple own p post` is the rule of a program that starts with the objects `own` to its name:
what it uses and gives back it has, and `post` tells the objects it has at the end. An object
whose release failed may stay behind.
-/

namespace VioGpu.Lib

inductive Deed (α : Type)
  | acquire (a : α)
  | use (a : α)
  | release (a : α) (ok : Bool)
  deriving DecidableEq, Repr

/-- The objects held, and those whose release failed, once for each failure. -/
structure Custody (α : Type) where
  held : Multiset α
  failed : Multiset α

namespace Custody

variable {α : Type}

/-- At the start nothing is held. -/
def empty : Custody α := ⟨0, 0⟩

/-- Only objects whose release failed are left. -/
def Settled (m : Custody α) : Prop := m.held ≤ m.failed

/-! ## Owners -/

/-- A part of the program owns `own`; apart from that only what could not be released is held. -/
def Owned (own : Multiset α) (m : Custody α) : Prop :=
  ∃ left, m.held = own + left ∧ left ≤ m.failed

theorem owned_empty : Owned 0 (empty : Custody α) := ⟨0, rfl, le_rfl⟩

theorem Owned.settled {m : Custody α} (h : Owned 0 m) : m.Settled := by
  obtain ⟨left, hheld, hleft⟩ := h
  rw [Settled, hheld, Multiset.zero_add]
  exact hleft

theorem Owned.mem {own : Multiset α} {m : Custody α} (h : Owned own m) {a : α} (ha : a ∈ own) :
    a ∈ m.held := by
  obtain ⟨left, hheld, -⟩ := h
  rw [hheld]
  exact Multiset.mem_add.mpr (.inl ha)

/-! ## Deeds -/

variable [DecidableEq α]

instance (m : Custody α) : Decidable m.Settled := inferInstanceAs (Decidable (_ ≤ _))

/-- What is held after one more deed. -/
def post (m : Custody α) : Deed α → Option (Custody α)
  | .acquire a => some { m with held := a ::ₘ m.held }
  | .use a => if a ∈ m.held then some m else none
  | .release a true => if a ∈ m.held then some { m with held := m.held.erase a } else none
  | .release a false => if a ∈ m.held then some { m with failed := a ::ₘ m.failed } else none

/-- What is held after more deeds. -/
def replay (m : Custody α) (deeds : List (Deed α)) : Option (Custody α) := deeds.foldlM post m

@[simp] theorem replay_nil (m : Custody α) : m.replay [] = some m := rfl

theorem replay_cons (m : Custody α) (deed : Deed α) (deeds : List (Deed α)) :
    m.replay (deed :: deeds) = (m.post deed).bind fun m' => m'.replay deeds := rfl

/-- What an owner has after deeds. An object whose release failed may be kept or left behind. -/
inductive After : Multiset α → List (Deed α) → Multiset α → Prop
  | nil (own) : After own [] own
  | acquire {own own' a deeds} : After (a ::ₘ own) deeds own' →
      After own (.acquire a :: deeds) own'
  | use {own own' a deeds} : a ∈ own → After own deeds own' → After own (.use a :: deeds) own'
  | release {own own' a deeds} : After own deeds own' →
      After (a ::ₘ own) (.release a true :: deeds) own'
  | keep {own own' a deeds} : a ∈ own → After own deeds own' →
      After own (.release a false :: deeds) own'
  | leave {own own' a deeds} : After own deeds own' →
      After (a ::ₘ own) (.release a false :: deeds) own'

/-- Deeds with one's own objects are always possible. -/
theorem After.replay {own own' : Multiset α} {deeds : List (Deed α)} (h : After own deeds own')
    {m : Custody α} (hm : Owned own m) : ∃ m', m.replay deeds = some m' ∧ Owned own' m' := by
  induction h generalizing m with
  | nil own => exact ⟨m, rfl, hm⟩
  | acquire _ ih =>
    obtain ⟨left, hheld, hleft⟩ := hm
    rw [replay_cons]
    exact ih ⟨left, by rw [hheld, Multiset.cons_add], hleft⟩
  | use ha _ ih =>
    rw [replay_cons, post, if_pos (hm.mem ha)]
    exact ih hm
  | @release own own' a deeds _ ih =>
    have hmem : a ∈ m.held := hm.mem (Multiset.mem_cons_self a own)
    obtain ⟨left, hheld, hleft⟩ := hm
    rw [replay_cons, post, if_pos hmem]
    apply ih
    refine ⟨left, ?_, hleft⟩
    change m.held.erase a = own + left
    rw [hheld, Multiset.cons_add, Multiset.erase_cons_head]
  | keep ha _ ih =>
    rw [replay_cons, post, if_pos (hm.mem ha)]
    obtain ⟨left, hheld, hleft⟩ := hm
    exact ih ⟨left, hheld, hleft.trans (Multiset.le_cons_self _ _)⟩
  | @leave own own' a deeds _ ih =>
    have hmem : a ∈ m.held := hm.mem (Multiset.mem_cons_self a own)
    obtain ⟨left, hheld, hleft⟩ := hm
    rw [replay_cons, post, if_pos hmem]
    apply ih
    refine ⟨a ::ₘ left, ?_, Multiset.cons_le_cons a hleft⟩
    rw [hheld, Multiset.cons_add, Multiset.add_cons]

end Custody

/-! ## Programs -/

namespace Program

variable {α C β γ : Type} {Ans : C → Type} [DecidableEq α]
variable (deeds : Answered C Ans → List (Deed α)) (allowed : Answered C Ans → Prop)

/-- The deeds of a run. -/
def custody (events : List (Answered C Ans)) : Option (Custody α) :=
  events.foldlM (fun m e => m.replay (deeds e)) Custody.empty

/-- As long as the answers are allowed, a program that starts with `own` has no fault, acts on
its own objects only, and ends as `post` says. -/
def Triple (own : Multiset α) (p : Program C Ans β) (post : β → Multiset α → Prop) : Prop :=
  ∀ m, Custody.Owned own m →
    p.Meets (fun m e => m.replay (deeds e)) allowed
      (fun b m' => ∃ own', post b own' ∧ Custody.Owned own' m') m

variable {deeds allowed} {own own' : Multiset α} {post : β → Multiset α → Prop}

theorem Triple.done {b : β} (h : post b own) : Triple deeds allowed own (.done b) post := by
  intro m hm
  exact ⟨own, h, hm⟩

theorem Triple.unfinished : Triple deeds allowed own (.unfinished : Program C Ans β) post := by
  intro m _
  trivial

theorem Triple.call {c : C} {next : Ans c → Program C Ans β}
    (h : ∀ answer, allowed ⟨c, answer⟩ → ∃ own', Custody.After own (deeds ⟨c, answer⟩) own' ∧
      Triple deeds allowed own' (next answer) post) :
    Triple deeds allowed own (.call c next) post := by
  intro m hm answer hanswer
  obtain ⟨own', hafter, hnext⟩ := h answer hanswer
  obtain ⟨m', hm', howned⟩ := hafter.replay hm
  exact ⟨m', hm', hnext m' howned⟩

theorem Triple.bind {p : Program C Ans β} {f : β → Program C Ans γ}
    {post' : γ → Multiset α → Prop} (h : Triple deeds allowed own p post)
    (hf : ∀ b own', post b own' → Triple deeds allowed own' (f b) post') :
    Triple deeds allowed own (p >>= f) post' := by
  intro m hm
  apply (h m hm).bind
  rintro b m' ⟨own', hpost, hm'⟩
  exact hf b own' hpost m' hm'

theorem Triple.mono {p : Program C Ans β} {post' : β → Multiset α → Prop}
    (h : Triple deeds allowed own p post) (himp : ∀ b own', post b own' → post' b own') :
    Triple deeds allowed own p post' := by
  intro m hm
  apply (h m hm).mono
  rintro b m' ⟨own', hpost, hm'⟩
  exact ⟨own', himp b own' hpost, hm'⟩

/-- What is said of the result holds at the end of a run. -/
theorem Triple.post_of_run {p : Program C Ans β} (h : Triple deeds allowed 0 p post)
    {events : List (Answered C Ans)} {b : β} (hrun : Run p events (.done b))
    (hallowed : ∀ e ∈ events, allowed e) : ∃ own', post b own' := by
  obtain ⟨-, m, -, hpost⟩ := hrun.meets (h _ Custody.owned_empty) hallowed
  obtain ⟨own', hb, -⟩ := hpost b rfl
  exact ⟨own', hb⟩

/-- A program that starts and ends with nothing to its name: no run with allowed answers
faults, all objects used and released are held, and those left at the end are objects whose
release failed. -/
theorem Triple.settled {p : Program C Ans β} (h : Triple deeds allowed 0 p fun _ own' => own' = 0)
    {events : List (Answered C Ans)} {outcome : Outcome β} (hrun : Run p events outcome)
    (hallowed : ∀ e ∈ events, allowed e) :
    outcome ≠ .fault ∧ ∃ m, custody deeds events = some m ∧
      ∀ b, outcome = .done b → m.Settled := by
  obtain ⟨hfault, m, hm, hpost⟩ := hrun.meets (h _ Custody.owned_empty) hallowed
  refine ⟨hfault, m, hm, ?_⟩
  intro b hb
  obtain ⟨own', rfl, howned⟩ := hpost b hb
  exact howned.settled

end Program

end VioGpu.Lib
