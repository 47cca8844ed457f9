import Mathlib.Logic.Function.Basic
import VioGpu.Lib.History
import VioGpu.Queue.Command

/-!
# A host that processes commands in order

The host keeps a table of the resources that were created and not dropped since the last reset,
and of their backing. Commands are well formed when each finds the table it needs; in terms of
the commands alone, when each may follow those before it (`wellFormed_iff`). The host can do
without any command but `CREATE_2D`, `ATTACH_BACKING` and `UNREF`: where one of the others is
missing, the table has at least the backing it would have had, and more backing does no harm.
-/

namespace VioGpu.Device

open Lib Queue

/-- For each live resource, whether its backing is attached. -/
abbrev Host := Nat → Option Bool

namespace Host

def empty : Host := fun _ => none

/-- The table after a command, `none` if the command is not well formed here: it names resource
0 or one that is not live, creates one that is live, or reads the backing of one that has
none. -/
def exec (t : Host) : CtrlCommand → Option Host
  | .getDisplayInfo => some t
  | .resourceCreate2d r .. =>
    if r ≠ 0 ∧ t r = none then some (Function.update t r (some false)) else none
  | .resourceUnref r => if r ≠ 0 ∧ t r ≠ none then some (Function.update t r none) else none
  | .resourceAttachBacking r _ =>
    if r ≠ 0 ∧ t r ≠ none then some (Function.update t r (some true)) else none
  | .resourceDetachBacking r =>
    if r ≠ 0 ∧ t r ≠ none then some (Function.update t r (some false)) else none
  | .resourceFlush r .. => if r ≠ 0 ∧ t r ≠ none then some t else none
  | .setScanout _ r .. | .transferToHost2d r .. =>
    if r ≠ 0 ∧ t r = some true then some t else none

/-- The commands, processed from an empty table, are all well formed. -/
def WellFormed (l : List CtrlCommand) : Prop := (l.foldlM exec empty).isSome = true

/-! ## What well formed means -/

def Creates (r : Nat) (c : CtrlCommand) : Prop :=
  ∃ format width height, c = .resourceCreate2d r format width height

def Attaches (r : Nat) (c : CtrlCommand) : Prop := ∃ ents, c = .resourceAttachBacking r ents

/-- `r` was created and not dropped since. -/
def Live (l : List CtrlCommand) (r : Nat) : Prop := Since (Creates r) (· = .resourceUnref r) l

/-- A backing was attached to `r`, and neither detached nor dropped with `r` since. -/
def Backed (l : List CtrlCommand) (r : Nat) : Prop :=
  Since (Attaches r) (fun c => c = .resourceUnref r ∨ c = .resourceDetachBacking r) l

/-- A command may follow these: the resource it names is not 0, is live exactly if it does not
create it, and has a backing if it reads one. -/
def MayFollow (l : List CtrlCommand) (c : CtrlCommand) : Prop :=
  ∀ r, c.resourceId? = some r →
    r ≠ 0 ∧ (Live l r ↔ ¬Creates r c) ∧ (c.readsBacking = true → Backed l r)

/-- What a command does to the entry of a resource. -/
theorem exec_spec {t u : Host} {c : CtrlCommand} (h : t.exec c = some u) (r : Nat) :
    (u r ≠ none ↔ Creates r c ∨ (c ≠ .resourceUnref r ∧ t r ≠ none)) ∧
      (u r = some true ↔ Attaches r c ∨
        (¬(c = .resourceUnref r ∨ c = .resourceDetachBacking r) ∧ t r = some true)) := by
  cases c with
  | getDisplayInfo =>
    cases h
    simp [Creates, Attaches]
  | resourceCreate2d r' =>
    simp only [exec] at h
    split_ifs at h with hr
    cases h
    by_cases hrr : r = r'
    · subst hrr
      simp [Creates, Attaches, hr]
    · simp [Creates, Attaches, hrr, Ne.symm hrr]
  | resourceUnref r' =>
    simp only [exec] at h
    split_ifs at h with hr
    cases h
    by_cases hrr : r = r'
    · subst hrr
      simp [Creates, Attaches]
    · simp [Creates, Attaches, hrr, Ne.symm hrr]
  | resourceAttachBacking r' =>
    simp only [exec] at h
    split_ifs at h with hr
    cases h
    by_cases hrr : r = r'
    · subst hrr
      simp [Creates, Attaches, hr]
    · simp [Creates, Attaches, hrr, Ne.symm hrr]
  | resourceDetachBacking r' =>
    simp only [exec] at h
    split_ifs at h with hr
    cases h
    by_cases hrr : r = r'
    · subst hrr
      simp [Creates, Attaches, hr]
    · simp [Creates, Attaches, hrr, Ne.symm hrr]
  | resourceFlush r' =>
    simp only [exec] at h
    split_ifs at h
    cases h
    simp [Creates, Attaches]
  | setScanout _ r' =>
    simp only [exec] at h
    split_ifs at h
    cases h
    simp [Creates, Attaches]
  | transferToHost2d r' =>
    simp only [exec] at h
    split_ifs at h
    cases h
    simp [Creates, Attaches]

/-- The table is what the commands since say of it. -/
theorem table_spec {l : List CtrlCommand} {t : Host} (h : l.foldlM exec empty = some t) (r : Nat) :
    (t r ≠ none ↔ Live l r) ∧ (t r = some true ↔ Backed l r) := by
  induction l using List.reverseRecOn generalizing t with
  | nil =>
    cases h
    exact ⟨iff_of_false (by simp [empty]) not_since_nil,
      iff_of_false (by simp [empty]) not_since_nil⟩
  | append_singleton l c ih =>
    rw [List.foldlM_append] at h
    obtain ⟨t₀, ht₀, hc⟩ := Option.bind_eq_some_iff.mp h
    obtain ⟨hlive, hbacked⟩ := ih ht₀
    have hexec : t₀.exec c = some t := by simpa using hc
    obtain ⟨hu, hu'⟩ := exec_spec hexec r
    rw [Live, Backed, since_concat, since_concat, hu, hu', hlive, hbacked]
    exact ⟨Iff.rfl, Iff.rfl⟩

theorem exec_isSome_iff {l : List CtrlCommand} {t : Host} {c : CtrlCommand}
    (h : l.foldlM exec empty = some t) : (t.exec c).isSome = true ↔ MayFollow l c := by
  have hlive : ∀ r, t r = some true → t r ≠ none := fun r hr => by simp [hr]
  unfold MayFollow
  simp only [← (table_spec h _).1, ← (table_spec h _).2]
  cases c <;> simp [exec, CtrlCommand.resourceId?, CtrlCommand.readsBacking, Creates]
  case setScanout r _ _ _ _ => exact fun _ => hlive r
  case transferToHost2d r _ _ _ _ _ => exact fun _ => hlive r

theorem wellFormed_concat {l : List CtrlCommand} {c : CtrlCommand} :
    WellFormed (l ++ [c]) ↔ WellFormed l ∧ MayFollow l c := by
  unfold WellFormed
  rw [List.foldlM_append]
  cases ht : l.foldlM exec empty with
  | none => simp
  | some t =>
    rw [← exec_isSome_iff ht]
    simp

/-- **Well-formed commands.** Each command may follow those before it. -/
theorem wellFormed_iff {l : List CtrlCommand} :
    WellFormed l ↔ ∀ before c after, l = before ++ c :: after → MayFollow before c := by
  induction l using List.reverseRecOn with
  | nil => simp [WellFormed]
  | append_singleton l c ih => rw [wellFormed_concat, ih, forall_split_concat]

/-! ## Missing commands -/

/-- The same resources are live, and `t'` has at least the backing of `t`. -/
def LessBacked (t t' : Host) : Prop := ∀ r, t' r = t r ∨ (t r = some false ∧ t' r = some true)

theorem LessBacked.refl (t : Host) : LessBacked t t := fun _ => .inl rfl

theorem LessBacked.trans {t t' t'' : Host} (h : LessBacked t t') (h' : LessBacked t' t'') :
    LessBacked t t'' := by
  intro r
  rcases h r with h | ⟨hf, ht⟩ <;> rcases h' r with h' | ⟨hf', ht'⟩
  · exact .inl (h'.trans h)
  · exact .inr ⟨h ▸ hf', ht'⟩
  · exact .inr ⟨hf, h'.trans ht⟩
  · exact .inr ⟨hf, ht'⟩

theorem LessBacked.update {t t' : Host} (h : LessBacked t t') (r : Nat) (b : Option Bool) :
    LessBacked (Function.update t r b) (Function.update t' r b) := by
  intro j
  by_cases hj : j = r
  · subst hj
    simp
  · simpa [hj] using h j

theorem LessBacked.eq_none_iff {t t' : Host} (h : LessBacked t t') (r : Nat) :
    t' r = none ↔ t r = none := by
  rcases h r with h | ⟨hf, ht⟩
  · rw [h]
  · simp [hf, ht]

theorem LessBacked.backed {t t' : Host} (h : LessBacked t t') {r : Nat} (hr : t r = some true) :
    t' r = some true := by
  rcases h r with h | ⟨hf, ht⟩
  · rw [h, hr]
  · exact ht

/-- More backing does no harm. -/
theorem exec_lessBacked {t t' u : Host} {c : CtrlCommand} (h : LessBacked t t')
    (hc : t.exec c = some u) : ∃ u', t'.exec c = some u' ∧ LessBacked u u' := by
  cases c with
  | getDisplayInfo =>
    cases hc
    exact ⟨t', rfl, h⟩
  | resourceCreate2d r =>
    simp only [exec, h.eq_none_iff] at hc ⊢
    split_ifs at hc ⊢
    cases hc
    exact ⟨_, rfl, h.update r _⟩
  | resourceUnref r =>
    simp only [exec, Ne, h.eq_none_iff] at hc ⊢
    split_ifs at hc ⊢
    cases hc
    exact ⟨_, rfl, h.update r _⟩
  | resourceAttachBacking r =>
    simp only [exec, Ne, h.eq_none_iff] at hc ⊢
    split_ifs at hc ⊢
    cases hc
    exact ⟨_, rfl, h.update r _⟩
  | resourceDetachBacking r =>
    simp only [exec, Ne, h.eq_none_iff] at hc ⊢
    split_ifs at hc ⊢
    cases hc
    exact ⟨_, rfl, h.update r _⟩
  | resourceFlush r =>
    simp only [exec, Ne, h.eq_none_iff] at hc ⊢
    split_ifs at hc ⊢
    cases hc
    exact ⟨_, rfl, h⟩
  | setScanout _ r =>
    simp only [exec] at hc ⊢
    split_ifs at hc with hr
    cases hc
    rw [if_pos ⟨hr.1, h.backed hr.2⟩]
    exact ⟨_, rfl, h⟩
  | transferToHost2d r =>
    simp only [exec] at hc ⊢
    split_ifs at hc with hr
    cases hc
    rw [if_pos ⟨hr.1, h.backed hr.2⟩]
    exact ⟨_, rfl, h⟩

/-- The commands that must not be missing. -/
def Essential : CtrlCommand → Prop
  | .resourceCreate2d .. | .resourceAttachBacking .. | .resourceUnref _ => True
  | .getDisplayInfo | .setScanout .. | .resourceFlush .. | .transferToHost2d ..
  | .resourceDetachBacking _ => False

instance : (c : CtrlCommand) → Decidable (Essential c)
  | .resourceCreate2d .. | .resourceAttachBacking .. | .resourceUnref _ => isTrue trivial
  | .getDisplayInfo | .setScanout .. | .resourceFlush .. | .transferToHost2d ..
  | .resourceDetachBacking _ => isFalse id

/-- Any other command can be missing. -/
theorem exec_missing {t u : Host} {c : CtrlCommand} (hc : t.exec c = some u)
    (hmissing : ¬Essential c) : LessBacked u t := by
  cases c with
  | resourceCreate2d => exact absurd trivial hmissing
  | resourceAttachBacking => exact absurd trivial hmissing
  | resourceUnref => exact absurd trivial hmissing
  | getDisplayInfo =>
    cases hc
    exact .refl t
  | resourceDetachBacking r =>
    simp only [exec] at hc
    split_ifs at hc with hr
    cases hc
    intro j
    by_cases hj : j = r
    · subst hj
      obtain ⟨b, hb⟩ := Option.ne_none_iff_exists'.mp hr.2
      cases b <;> simp [hb]
    · simp [hj]
  | resourceFlush r =>
    simp only [exec] at hc
    split_ifs at hc
    cases hc
    exact .refl t
  | setScanout _ r =>
    simp only [exec] at hc
    split_ifs at hc
    cases hc
    exact .refl t
  | transferToHost2d r =>
    simp only [exec] at hc
    split_ifs at hc
    cases hc
    exact .refl t

end Host

end VioGpu.Device
