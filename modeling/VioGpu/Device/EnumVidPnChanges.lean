import VioGpu.Device.EnumVidPnModes
import VioGpu.Device.EnumVidPnRuns
import Mathlib.Algebra.Order.BigOperators.Group.List
import Mathlib.Algebra.Order.Ring.Nat

/-!
# What is changed in the VidPn

With callbacks that succeed, `EnumVidPnCofuncModality` goes through all paths and changes the
VidPn as its guards let it. That is what is neither pinned nor the pivot, but for the rotation:
the guard of `RotationSupport` compares the type of the pivot the wrong way round.
-/

namespace VioGpu.Device

open Lib Program VidPnCall VidPnOs

/-! ## Programs and their changes -/

/-- The VidPn was changed so, and its topology and pinned modes are as they were. -/
structure Changed (os : VidPnOs) (changes : List VidPnChange) (os' : VidPnOs) : Prop where
  paths : os'.paths = os.paths
  datasetIsEmpty : os'.datasetIsEmpty = os.datasetIsEmpty
  pinned : ∀ kind id, (os'.current kind id).pinned = (os.current kind id).pinned
  changes : os'.changes = os.changes ++ changes

theorem Changed.refl (os : VidPnOs) : Changed os [] os :=
  ⟨rfl, rfl, fun _ _ => rfl, (List.append_nil _).symm⟩

theorem Changed.trans {os os' os'' : VidPnOs} {first second : List VidPnChange}
    (h : Changed os first os') (h' : Changed os' second os'') :
    Changed os (first ++ second) os'' where
  paths := h'.paths.trans h.paths
  datasetIsEmpty := h'.datasetIsEmpty.trans h.datasetIsEmpty
  pinned kind id := (h'.pinned kind id).trans (h.pinned kind id)
  changes := by rw [h'.changes, h.changes, List.append_assoc]

/-- The program returns, with a result and with changes as said. -/
def Makes {β : Type} (os : VidPnOs) (p : VidPnProgram β) (post : β → Prop)
    (changes : List VidPnChange) : Prop :=
  ∃ b os', p.exec answer os = (.done b, os') ∧ post b ∧ Changed os changes os'

variable {β γ : Type} {os : VidPnOs} {post : β → Prop} {changes : List VidPnChange}

theorem Makes.done {b : β} (h : post b) : Makes os (.done b) post [] :=
  ⟨b, os, rfl, h, .refl os⟩

theorem Makes.mono {p : VidPnProgram β} {post' : β → Prop} (h : Makes os p post changes)
    (himp : ∀ b, post b → post' b) : Makes os p post' changes := by
  obtain ⟨b, os', hexec, hpost, hchanged⟩ := h
  exact ⟨b, os', hexec, himp b hpost, hchanged⟩

theorem Makes.bind {p : VidPnProgram β} {f : β → VidPnProgram γ} {post' : γ → Prop}
    {changes' : List VidPnChange} (h : Makes os p post changes)
    (hf : ∀ b os', post b → Changed os changes os' → Makes os' (f b) post' changes') :
    Makes os (p >>= f) post' (changes ++ changes') := by
  obtain ⟨b, os', hexec, hpost, hchanged⟩ := h
  obtain ⟨c, os'', hexec', hpost', hchanged'⟩ := hf b os' hpost hchanged
  exact ⟨c, os'', (exec_bind_of_done hexec f).trans hexec', hpost', hchanged.trans hchanged'⟩

theorem Makes.call {c : VidPnCall} {next : c.Ans → VidPnProgram β} {changes' : List VidPnChange}
    (hchanged : Changed os changes (answer os c).2)
    (h : Makes (answer os c).2 (next (answer os c).1) post changes') :
    Makes os (.call c next) post (changes ++ changes') := by
  obtain ⟨b, os', hexec, hpost, hchanged'⟩ := h
  exact ⟨b, os', hexec, hpost, hchanged.trans hchanged'⟩

/-- A call that changes nothing. -/
theorem Makes.read {c : VidPnCall} {next : c.Ans → VidPnProgram β}
    (hchanged : Changed os [] (answer os c).2)
    (h : Makes (answer os c).2 (next (answer os c).1) post changes) :
    Makes os (.call c next) post changes := .call hchanged h

/-- The part of the loop body is gone through, to variables as said. -/
def GoesOn (post : EnumVars → Prop) (flow : Flow EnumVars) : Prop :=
  ∃ v, flow = .goOn v ∧ post v

theorem Makes.andThen {part : VidPnProgram (Flow EnumVars)}
    {next : EnumVars → VidPnProgram (Flow EnumVars)} {post : EnumVars → Prop}
    {post' : Flow EnumVars → Prop} {changes' : List VidPnChange}
    (h : Makes os part (GoesOn post) changes)
    (hnext : ∀ v os', post v → Changed os changes os' → Makes os' (next v) post' changes') :
    Makes os (andThen part next) post' (changes ++ changes') := by
  apply h.bind
  rintro _ os' ⟨v, rfl, hv⟩ hchanged
  exact hnext v os' hv hchanged

theorem Makes.goOn {v : EnumVars} {post : EnumVars → Prop} (h : post v) :
    Makes os (return .goOn v) (GoesOn post) [] := .done ⟨v, rfl, h⟩

theorem makes_theHandle {handle : Option Nat} {h : Nat} (hh : handle = some h)
    {next : Nat → VidPnProgram β} (hnext : Makes os (next h) post changes) :
    Makes os (theHandle handle >>= next) post changes := by
  rw [hh]
  exact hnext

/-! ## Mode sets -/

variable {v : EnumVars} {kind : ModeKind}

theorem changed_openSet (os : VidPnOs) (modeSet : ModeSet) : Changed os [] (os.openSet modeSet) :=
  ⟨rfl, rfl, fun _ _ => rfl, (List.append_nil _).symm⟩

theorem makes_acquireModes (kind : ModeKind) (id : Nat) (v : EnumVars) :
    Makes os (acquireModes kind id v) (GoesOn (Sets v kind fun w =>
      w.modeSet ≠ none ∧ (w.pinned = none ↔ (os.current kind id).pinned = none))) [] := by
  apply Makes.read (changed_openSet os _)
  apply Makes.read (.refl _)
  apply Makes.goOn
  refine ⟨_, rfl, by simp, ?_⟩
  simp [answer, openSet]

theorem makes_releaseModes (kind : ModeKind) (hs : (v.of kind).modeSet ≠ none)
    (hpinned : (v.of kind).pinned = none) :
    Makes os (releaseModes kind v)
      (GoesOn (Sets v kind fun w => w.modeSet = none ∧ w.pinned = none)) [] := by
  obtain ⟨s, hs⟩ := Option.ne_none_iff_exists'.mp hs
  apply makes_theHandle hs
  apply Makes.read (.refl _)
  exact .goOn ⟨_, rfl, rfl, hpinned⟩

theorem makes_releasePinned (kind : ModeKind) (hs : (v.of kind).modeSet ≠ none)
    (hpinned : (v.of kind).pinned ≠ none) :
    Makes os (releasePinned kind v)
      (GoesOn (Sets v kind fun w => w.modeSet ≠ none ∧ w.pinned = none)) [] := by
  obtain ⟨s, hs⟩ := Option.ne_none_iff_exists'.mp hs
  obtain ⟨i, hi⟩ := Option.ne_none_iff_exists'.mp hpinned
  apply makes_theHandle hs
  apply makes_theHandle hi
  apply Makes.read (.refl _)
  exact .goOn ⟨_, rfl, by simp [hs], rfl⟩

/-- Modes that are added to an open mode set change nothing, and do not pin a mode. -/
def AddsModes (addModes : Nat → VidPnProgram Status) : Prop :=
  ∀ (os : VidPnOs) (s : Nat), ∃ os', (addModes s).exec answer os = (.done .success, os') ∧
    SameVidPn os os'

theorem changed_assign {os os' : VidPnOs} (h : SameVidPn os os') {id s : Nat}
    (hpinned : (os.opened s).pinned = none) (hcurrent : (os.current kind id).pinned = none) :
    Changed os [.modeSet kind id] (os'.assign kind id s) where
  paths := h.paths
  datasetIsEmpty := h.datasetIsEmpty
  pinned kind' id' := by
    rw [← h.current] at hcurrent ⊢
    by_cases hkind : kind' = kind
    · subst hkind
      by_cases hid : id' = id
      · subst hid
        simp [assign, h.pinned, hpinned, hcurrent]
      · simp [assign, hid]
    · simp [assign, hkind]
  changes := by
    rw [← h.changes]
    rfl

theorem makes_createModes (kind : ModeKind) {id : Nat} {addModes : Nat → VidPnProgram Status}
    (hadd : AddsModes addModes) (hpinned : (v.of kind).pinned = none)
    (hcurrent : (os.current kind id).pinned = none) :
    Makes os (createModes kind id addModes v)
      (GoesOn (Sets v kind fun w => w.modeSet = none ∧ w.pinned = none)) [.modeSet kind id] := by
  apply Makes.read (changed_openSet os _)
  apply makes_theHandle (by rw [EnumVars.of_set])
  obtain ⟨os', hexec, hsame⟩ := hadd (os.openSet ⟨none, []⟩) os.newHandle
  have hassign : Changed (os.openSet ⟨none, []⟩) [.modeSet kind id]
      (os'.assign kind id os.newHandle) :=
    changed_assign hsame (by simp [openSet]) hcurrent
  refine ⟨_, _, (exec_bind_of_done hexec _).trans rfl, ⟨_, rfl, ?_⟩, hassign⟩
  exact ⟨_, EnumVars.set_set v _ _ kind, rfl, by rw [EnumVars.of_set]; exact hpinned⟩

theorem makes_replaceModes (kind : ModeKind) {id : Nat} {addModes : Nat → VidPnProgram Status}
    (hadd : AddsModes addModes) (hs : (v.of kind).modeSet ≠ none)
    (hpinned : (v.of kind).pinned = none) (hcurrent : (os.current kind id).pinned = none) :
    Makes os (replaceModes kind id addModes v)
      (GoesOn (Sets v kind fun w => w.modeSet = none ∧ w.pinned = none)) [.modeSet kind id] := by
  apply Makes.andThen (makes_releaseModes kind hs hpinned)
  rintro v' os' hsets hchanged
  have hcurrent' : (os'.current kind id).pinned = none := (hchanged.pinned kind id).trans hcurrent
  obtain ⟨flow, os'', hexec, ⟨v'', rfl, hsets'⟩, hchanged'⟩ :=
    makes_createModes kind hadd hsets.post.2 hcurrent'
  obtain ⟨w, rfl, -⟩ := hsets
  exact ⟨_, os'', hexec, ⟨v'', rfl, hsets'.of_set⟩, hchanged'⟩

theorem addsModes_source (a : EnumVidPnCofuncModality) : AddsModes (addSingleSourceMode a) := by
  intro os s
  obtain ⟨os', hexec, hsame, -⟩ := exec_addSourceModes _ os s
  exact ⟨os', hexec, hsame⟩

theorem addsModes_target (a : EnumVidPnCofuncModality) (sourceId : Nat) :
    AddsModes (addSingleTargetMode a sourceId) := by
  intro os s
  obtain ⟨os', hexec, hsame, -⟩ := exec_addTargetModes _ _ os s
  exact ⟨os', hexec, hsame⟩

/-! ## One path -/

/-- The variables hold a path, and no other. -/
def AtPath (k : Nat) (v : EnumVars) : Prop := v.path = some k ∧ v.pathTemp = none

theorem AtPath.onPath {k : Nat} (h : AtPath k v) : OnPath v := ⟨by simp [h.1], h.2⟩

theorem Sets.atPath {w : ModeSetVars → Prop} {v' : EnumVars} {k : Nat} (h : Sets v kind w v')
    (hv : AtPath k v) : AtPath k v' := by
  obtain ⟨w, rfl, -⟩ := h
  cases kind <;> exact hv

theorem makes_thePath {k : Nat} {path : VidPnPresentPath} (hv : AtPath k v)
    (hpath : os.paths[k]? = some path) {next : VidPnPresentPath → VidPnProgram β}
    (hnext : Makes os (next path) post changes) : Makes os (thePath v >>= next) post changes := by
  have hread : (answer os (readPathInfo k)).1 = path := by
    simp [answer, List.getD_eq_getElem?_getD, hpath]
  rw [thePath, hv.1]
  apply Makes.read (.refl os)
  rw [hread]
  exact hnext

variable (a : EnumVidPnCofuncModality)

/-- What the loop does with the source mode set of a path. -/
def sourceChanges (pinned : ModeKind → Nat → Option Nat) (path : VidPnPresentPath) :
    List VidPnChange :=
  if pinned .source path.vidPnSourceId = none ∧
      ¬(a.enumPivotType = .vidPnSource ∧ a.pivotSourceId = path.vidPnSourceId) then
    [.modeSet .source path.vidPnSourceId]
  else []

/-- What the loop does with the target mode set of a path. -/
def targetChanges (pinned : ModeKind → Nat → Option Nat) (path : VidPnPresentPath) :
    List VidPnChange :=
  if pinned .target path.vidPnTargetId = none ∧
      ¬(a.enumPivotType = .vidPnTarget ∧ a.pivotTargetId = path.vidPnTargetId) then
    [.modeSet .target path.vidPnTargetId]
  else []

/-- The pinned modes of the VidPn. -/
def VidPnOs.pinnedMode (os : VidPnOs) (kind : ModeKind) (id : Nat) : Option Nat :=
  (os.current kind id).pinned

theorem makes_sourceModes {k : Nat} {path : VidPnPresentPath} (hv : AtPath k v)
    (hpath : os.paths[k]? = some path) (htarget : Clear .target v) :
    Makes os (sourceModes a v)
      (GoesOn fun v' => AtPath k v' ∧ Clear .target v' ∧
        (v'.source.pinned ≠ none → v'.source.modeSet ≠ none))
      (sourceChanges a os.pinnedMode path) := by
  apply makes_thePath hv hpath
  rw [← List.nil_append (sourceChanges _ _ _)]
  apply Makes.andThen (makes_acquireModes .source _ v)
  intro v' os' hsets hchanged
  have hv' : AtPath k v' := hsets.atPath hv
  have htarget' : Clear .target v' := hsets.clear_of_ne (by simp) htarget
  obtain ⟨hs, hpinned⟩ : v'.source.modeSet ≠ none ∧
      (v'.source.pinned = none ↔ os.pinnedMode .source path.vidPnSourceId = none) :=
    hsets.post
  by_cases hpivot : a.enumPivotType = .vidPnSource ∧ a.pivotSourceId = path.vidPnSourceId
  · have hchanges : sourceChanges a os.pinnedMode path = [] := if_neg fun h => h.2 hpivot
    rw [if_neg (not_not.mpr hpivot), hchanges]
    exact .goOn ⟨hv', htarget', fun _ => hs⟩
  rw [if_pos hpivot]
  by_cases hnone : v'.source.pinned = none
  · have hchanges : sourceChanges a os.pinnedMode path = [.modeSet .source path.vidPnSourceId] :=
      if_pos ⟨hpinned.mp hnone, hpivot⟩
    have hcurrent : (os'.current .source path.vidPnSourceId).pinned = none :=
      (hchanged.pinned _ _).trans (hpinned.mp hnone)
    rw [if_pos hnone, hchanges]
    apply (makes_replaceModes .source (addsModes_source a) hs hnone hcurrent).mono
    rintro _ ⟨v'', rfl, hsets'⟩
    refine ⟨v'', rfl, hsets'.atPath hv', hsets'.clear_of_ne (by simp) htarget', ?_⟩
    intro hne
    exact absurd hsets'.post.2 hne
  · have hchanges : sourceChanges a os.pinnedMode path = [] :=
      if_neg fun h => hnone (hpinned.mpr h.1)
    rw [if_neg hnone, hchanges]
    exact .goOn ⟨hv', htarget', fun _ => hs⟩

theorem makes_targetModes {k : Nat} {path : VidPnPresentPath} (hv : AtPath k v)
    (hpath : os.paths[k]? = some path) (htarget : Clear .target v) :
    Makes os (targetModes a v)
      (GoesOn fun v' => AtPath k v' ∧ Clear .target v' ∧ v'.source = v.source)
      (targetChanges a os.pinnedMode path) := by
  apply makes_thePath hv hpath
  by_cases hpivot : a.enumPivotType = .vidPnTarget ∧ a.pivotTargetId = path.vidPnTargetId
  · have hchanges : targetChanges a os.pinnedMode path = [] := if_neg fun h => h.2 hpivot
    rw [if_neg (not_not.mpr hpivot), hchanges]
    exact .goOn ⟨hv, htarget, rfl⟩
  rw [if_pos hpivot, ← List.nil_append (targetChanges _ _ _)]
  apply Makes.andThen (makes_acquireModes .target _ v)
  intro v' os' hsets hchanged
  have hv' : AtPath k v' := hsets.atPath hv
  have hsource : v'.source = v.source := hsets.of_ne .source (by simp)
  obtain ⟨hs, hpinned⟩ : v'.target.modeSet ≠ none ∧
      (v'.target.pinned = none ↔ os.pinnedMode .target path.vidPnTargetId = none) :=
    hsets.post
  by_cases hnone : v'.target.pinned = none
  · have hchanges : targetChanges a os.pinnedMode path = [.modeSet .target path.vidPnTargetId] :=
      if_pos ⟨hpinned.mp hnone, hpivot⟩
    have hcurrent : (os'.current .target path.vidPnTargetId).pinned = none :=
      (hchanged.pinned _ _).trans (hpinned.mp hnone)
    rw [if_pos hnone, hchanges]
    apply (makes_replaceModes .target (addsModes_target a _) hs hnone hcurrent).mono
    rintro _ ⟨v'', rfl, hsets'⟩
    have hsource' : v''.source = v'.source := hsets'.of_ne .source (by simp)
    exact ⟨v'', rfl, hsets'.atPath hv', hsets'.clear fun _ => id, hsource'.trans hsource⟩
  · have hchanges : targetChanges a os.pinnedMode path = [] :=
      if_neg fun h => hnone (hpinned.mpr h.1)
    rw [if_neg hnone, hchanges]
    change Makes os' _ _ ([] ++ [])
    apply Makes.andThen (makes_releasePinned .target hs hnone)
    intro v'' os'' hsets' _
    have hv'' : AtPath k v'' := hsets'.atPath hv'
    have hsource' : v''.source = v'.source := hsets'.of_ne .source (by simp)
    apply (makes_releaseModes .target hsets'.post.1 hsets'.post.2).mono
    rintro _ ⟨v₃, rfl, hsets''⟩
    have hsource'' : v₃.source = v''.source := hsets''.of_ne .source (by simp)
    exact ⟨v₃, rfl, hsets''.atPath hv'', hsets''.clear fun _ => id,
      hsource''.trans (hsource'.trans hsource)⟩

theorem makes_releaseSource {k : Nat} (hv : AtPath k v) (htarget : Clear .target v)
    (hs : v.source.pinned ≠ none → v.source.modeSet ≠ none) :
    Makes os (releaseSource v)
      (GoesOn fun v' => AtPath k v' ∧ Clear .source v' ∧ Clear .target v') [] := by
  have hunpinned : Makes os
      (if v.source.pinned ≠ none then releasePinned .source v else return .goOn v)
      (GoesOn fun v' => AtPath k v' ∧ v'.source.pinned = none ∧ Clear .target v') [] := by
    split_ifs with hpinned
    · apply (makes_releasePinned .source (hs hpinned) hpinned).mono
      rintro _ ⟨v', rfl, hsets⟩
      exact ⟨v', rfl, hsets.atPath hv, hsets.post.2, hsets.clear_of_ne (by simp) htarget⟩
    · exact .goOn ⟨hv, not_not.mp hpinned, htarget⟩
  change Makes os _ _ ([] ++ [])
  apply hunpinned.andThen
  rintro v' os' ⟨hv', hpinned, htarget'⟩ _
  split_ifs with hset
  · apply (makes_releaseModes .source hset hpinned).mono
    rintro _ ⟨v'', rfl, hsets⟩
    exact ⟨v'', rfl, hsets.atPath hv', hsets.clear fun _ => id,
      hsets.clear_of_ne (by simp) htarget'⟩
  · exact .goOn ⟨hv', ⟨not_not.mp hset, hpinned⟩, htarget'⟩

theorem makes_supportFields {k : Nat} {path : VidPnPresentPath} (hv : AtPath k v)
    (hpath : os.paths[k]? = some path) (post : EnumVars → Prop) (hpost : post v) :
    Makes os (supportFields a v) (GoesOn post) (localPath a path).changes := by
  apply makes_thePath hv hpath
  dsimp only
  split_ifs with hmodified
  · rw [← List.append_nil (localPath a path).changes]
    apply Makes.call
    · exact ⟨rfl, rfl, fun _ _ => rfl, rfl⟩
    · exact .goOn hpost
  · rw [not_or, Option.not_isSome_iff_eq_none, Option.not_isSome_iff_eq_none] at hmodified
    rw [LocalPath.changes, hmodified.1, hmodified.2]
    exact .goOn hpost

theorem makes_nextPath_more {k : Nat} (hv : AtPath k v) (hsource : Clear .source v)
    (htarget : Clear .target v) (hmore : k + 1 < os.paths.length) :
    Makes os (nextPath v)
      (GoesOn fun v' => AtPath (k + 1) v' ∧ Clear .source v' ∧ Clear .target v') [] := by
  have hnext : (answer os (acquireNextPathInfo k)).1 = .ok (.path (k + 1)) := by
    simp [answer, next, hmore]
  apply makes_theHandle hv.1
  apply Makes.read (.refl os)
  rw [hnext]
  apply Makes.read (.refl os)
  exact .goOn ⟨⟨rfl, rfl⟩, hsource, htarget⟩

/-- The variables hold nothing. -/
def Released (v : EnumVars) : Prop :=
  v.path = none ∧ v.pathTemp = none ∧ Clear .source v ∧ Clear .target v

theorem makes_nextPath_last {k : Nat} (hv : AtPath k v) (hsource : Clear .source v)
    (htarget : Clear .target v) (hlast : ¬k + 1 < os.paths.length) :
    Makes os (nextPath v) (fun flow => ∃ v', flow = .stop v' .success ∧ Released v') [] := by
  have hnext : (answer os (acquireNextPathInfo k)).1 = .ok .noMoreElements := by
    simp [answer, next, hlast]
  apply makes_theHandle hv.1
  apply Makes.read (.refl os)
  rw [hnext]
  apply Makes.read (.refl os)
  exact .done ⟨_, rfl, rfl, rfl, hsource, htarget⟩

/-! ## All paths -/

/-- What a turn of the loop does. -/
def pathChanges (pinned : ModeKind → Nat → Option Nat) (path : VidPnPresentPath) :
    List VidPnChange :=
  sourceChanges a pinned path ++ (targetChanges a pinned path ++ (localPath a path).changes)

theorem makes_enumPath {k : Nat} {path : VidPnPresentPath} {post : Flow EnumVars → Prop}
    (hv : AtPath k v) (htarget : Clear .target v)
    (hpath : os.paths[k]? = some path)
    (hnext : ∀ v os', AtPath k v → Clear .source v → Clear .target v →
      os'.paths = os.paths → Makes os' (nextPath v) post []) :
    Makes os (enumPath a v) post (pathChanges a os.pinnedMode path) := by
  apply (makes_sourceModes a hv hpath htarget).andThen
  rintro v₁ os₁ ⟨hv₁, htarget₁, hs₁⟩ hchanged₁
  have hpath₁ : os₁.paths[k]? = some path := by rw [hchanged₁.paths, hpath]
  have hpinned : os₁.pinnedMode = os.pinnedMode := by
    ext kind id : 2
    exact hchanged₁.pinned kind id
  rw [← hpinned]
  apply (makes_targetModes a hv₁ hpath₁ htarget₁).andThen
  rintro v₂ os₂ ⟨hv₂, htarget₂, hsource₂⟩ hchanged₂
  rw [← List.nil_append (localPath a path).changes]
  apply (makes_releaseSource hv₂ htarget₂ (by rw [hsource₂]; exact hs₁)).andThen
  rintro v₃ os₃ ⟨hv₃, hsource₃, htarget₃⟩ hchanged₃
  have hpaths₃ : os₃.paths = os.paths := by
    rw [hchanged₃.paths, hchanged₂.paths, hchanged₁.paths]
  have hpath₃ : os₃.paths[k]? = some path := by rw [hpaths₃, hpath]
  rw [← List.append_nil (localPath a path).changes]
  apply Makes.andThen (makes_supportFields a hv₃ hpath₃
    (fun v => AtPath k v ∧ Clear .source v ∧ Clear .target v) ⟨hv₃, hsource₃, htarget₃⟩)
  rintro v₄ os₄ ⟨hv₄, hsource₄, htarget₄⟩ hchanged₄
  exact hnext v₄ os₄ hv₄ hsource₄ htarget₄ (hchanged₄.paths.trans hpaths₃)

/-- The loop from a path on, by induction on its turns. -/
theorem makes_enumPaths {k : Nat} (turns : Nat) (hv : AtPath k v) (htarget : Clear .target v)
    (hk : k < os.paths.length) (hturns : os.paths.length - k ≤ turns) :
    Makes os (enumPaths a turns v) (fun r => r.2 = .success ∧ Released r.1)
      ((os.paths.drop k).flatMap (pathChanges a os.pinnedMode)) := by
  induction turns generalizing k v os with
  | zero => omega
  | succ turns ih =>
    rw [List.drop_eq_getElem_cons hk, List.flatMap_cons]
    have hpath : os.paths[k]? = some os.paths[k] := List.getElem?_eq_getElem hk
    by_cases hmore : k + 1 < os.paths.length
    · have hturn := makes_enumPath a hv htarget hpath fun v os' hv hs ht hpaths =>
        makes_nextPath_more hv hs ht (by rw [hpaths]; exact hmore)
      apply hturn.bind
      rintro _ os' ⟨v', rfl, hv', -, htarget'⟩ hchanged
      have hpinned : os'.pinnedMode = os.pinnedMode := funext fun _ => funext fun _ =>
        hchanged.pinned _ _
      rw [← hpinned, ← hchanged.paths] at *
      exact ih hv' htarget' hmore (by omega)
    · have hturn := makes_enumPath a hv htarget hpath fun v os' hv hs ht hpaths =>
        makes_nextPath_last hv hs ht (by rw [hpaths]; exact hmore)
      rw [List.drop_eq_nil_of_le (by omega)]
      apply hturn.bind
      rintro _ os' ⟨v', rfl, hreleased⟩ -
      exact .done ⟨rfl, hreleased⟩

theorem cleanUp_of_released (h : Released v) : cleanUp v = .done () := by
  obtain ⟨⟨s, si, sp⟩, ⟨t, ti, tp⟩, path, pathTemp⟩ := v
  obtain ⟨rfl, rfl, ⟨rfl, rfl⟩, ⟨rfl, rfl⟩⟩ := h
  cases si <;> cases ti <;> rfl

theorem makes_loopFrom (turns : Nat) (hfirst : os.paths = [] → os.datasetIsEmpty = false)
    (hturns : os.paths.length ≤ turns) :
    Makes os (loopFrom a turns os.first) (fun r => r.2 = .success ∧ Released r.1)
      (os.paths.flatMap (pathChanges a os.pinnedMode)) := by
  by_cases hpaths : os.paths = []
  · have hnone : os.first = .noMoreElements := by simp [first, hpaths, hfirst hpaths]
    rw [loopFrom, if_pos hnone, hpaths]
    refine .done ⟨rfl, ?_, rfl, ⟨rfl, rfl⟩, ⟨rfl, rfl⟩⟩
    rw [hnone]
    rfl
  · have hsome : os.first = .path 0 := by simp [first, hpaths]
    rw [loopFrom, if_neg (by simp [hsome]), hsome]
    have hlength : 0 < os.paths.length := List.length_pos_iff.mpr hpaths
    rw [← os.paths.drop_zero]
    exact makes_enumPaths a turns ⟨rfl, rfl⟩ ⟨rfl, rfl⟩ hlength (by omega)

/-- With callbacks that succeed and a topology that is not answered to be empty, the function
succeeds, and this is what it changes. -/
theorem makes_enumVidPnCofuncModality (turns : Nat)
    (hfirst : os.paths = [] → os.datasetIsEmpty = false) (hturns : os.paths.length ≤ turns) :
    Makes os (enumVidPnCofuncModality a turns) (· = .success)
      (os.paths.flatMap (pathChanges a os.pinnedMode)) := by
  apply Makes.read (.refl os)
  apply Makes.read (.refl os)
  apply Makes.read (.refl os)
  rw [← List.append_nil (os.paths.flatMap _)]
  apply (makes_loopFrom a turns hfirst hturns).bind
  rintro ⟨v, status⟩ os' ⟨rfl, hreleased⟩ -
  dsimp only
  rw [cleanUp_of_released hreleased]
  exact .done rfl

/-- On an empty dataset the loop starts with a path that is `NULL`. -/
theorem exec_datasetIsEmpty (os : VidPnOs) (hpaths : os.paths = [])
    (hempty : os.datasetIsEmpty = true) (turns : Nat) :
    ((enumVidPnCofuncModality a turns).exec answer os).1 ≠ .done .success := by
  have hfirst : answer os acquireFirstPathInfo = (.ok .datasetIsEmpty, os) := by
    simp [answer, first, hpaths, hempty]
  have hexec : (enumVidPnCofuncModality a turns).exec answer os =
      (loopFrom a turns .datasetIsEmpty >>= fun r => cleanUp r.1 >>= fun _ => done r.2).exec
        answer os := by
    apply (exec_call_of_eq (show answer os queryVidPnInterface = (.ok (), os) from rfl) _).trans
    apply (exec_call_of_eq (show answer os getTopology = (.ok (), os) from rfl) _).trans
    exact exec_call_of_eq hfirst _
  rw [hexec]
  cases turns with
  | zero => exact fun h => by cases h
  | succ turns => exact fun h => by cases h

/-! ## What should be changed -/

/-- The parts of a path that are neither pinned nor the pivot. -/
def unpinnedChanges (pinned : ModeKind → Nat → Option Nat) (path : VidPnPresentPath) :
    List VidPnChange :=
  (if pinned .source path.vidPnSourceId = none ∧
      ¬(a.enumPivotType = .vidPnSource ∧ a.pivotSourceId = path.vidPnSourceId) then
    [.modeSet .source path.vidPnSourceId] else []) ++
  (if pinned .target path.vidPnTargetId = none ∧
      ¬(a.enumPivotType = .vidPnTarget ∧ a.pivotTargetId = path.vidPnTargetId) then
    [.modeSet .target path.vidPnTargetId] else []) ++
  (if path.scaling = .unpinned ∧ ¬(a.enumPivotType = .scaling ∧ a.isPivotPath path) then
    [.scalingSupport path.vidPnSourceId path.vidPnTargetId ⟨true, true, false, false, false⟩]
    else []) ++
  (if path.rotation = .unpinned ∧ ¬(a.enumPivotType = .rotation ∧ a.isPivotPath path) then
    [.rotationSupport path.vidPnSourceId path.vidPnTargetId ⟨true, true, false, false⟩] else [])

/-- The rotation of the path is unpinned, and the pivot has its source and its target. -/
def RotationAtPivot (path : VidPnPresentPath) : Prop :=
  path.rotation = .unpinned ∧ a.isPivotPath path

theorem toList_map_ite {α γ : Type} (p : Prop) [Decidable p] (x : α) (f : α → γ) :
    ((if p then some x else none).map f).toList = if p then [f x] else [] := by
  split_ifs <;> rfl

/-- Up to the rotation the loop changes what it should. -/
theorem changes_agree_upTo (pinned : ModeKind → Nat → Option Nat) (path : VidPnPresentPath) :
    ∃ common rotation, pathChanges a pinned path = common ++
        (if ¬(a.enumPivotType ≠ .rotation ∧ a.isPivotPath path) ∧ path.rotation = .unpinned then
          [rotation] else []) ∧
      unpinnedChanges a pinned path = common ++
        (if path.rotation = .unpinned ∧ ¬(a.enumPivotType = .rotation ∧ a.isPivotPath path) then
          [rotation] else []) := by
  refine ⟨_, _, ?_, rfl⟩
  simp only [pathChanges, LocalPath.changes, localPath, sourceChanges, targetChanges,
    toList_map_ite, List.append_assoc]
  congr 3
  simp only [and_comm]

theorem changes_of_not_rotationAtPivot (pinned : ModeKind → Nat → Option Nat)
    {path : VidPnPresentPath} (h : ¬RotationAtPivot a path) :
    pathChanges a pinned path = unpinnedChanges a pinned path := by
  obtain ⟨common, rotation, hmade, hdue⟩ := changes_agree_upTo a pinned path
  rw [hmade, hdue]
  congr 1
  apply if_congr _ rfl rfl
  rw [RotationAtPivot] at h
  tauto

/-- At the rotation pivot one change too many is made. -/
theorem length_of_rotation (pinned : ModeKind → Nat → Option Nat) {path : VidPnPresentPath}
    (htype : a.enumPivotType = .rotation) (h : RotationAtPivot a path) :
    (unpinnedChanges a pinned path).length < (pathChanges a pinned path).length := by
  obtain ⟨common, rotation, hmade, hdue⟩ := changes_agree_upTo a pinned path
  have hm : ¬(a.enumPivotType ≠ .rotation ∧ a.isPivotPath path) ∧ path.rotation = .unpinned :=
    ⟨fun hne => hne.1 htype, h.1⟩
  rw [hmade, hdue, if_pos hm, if_neg fun hne => hne.2 ⟨htype, h.2⟩]
  simp

/-- At another pivot with the ids of the path, the rotation is left out. -/
theorem length_of_not_rotation (pinned : ModeKind → Nat → Option Nat) {path : VidPnPresentPath}
    (htype : a.enumPivotType ≠ .rotation) (h : RotationAtPivot a path) :
    (pathChanges a pinned path).length < (unpinnedChanges a pinned path).length := by
  obtain ⟨common, rotation, hmade, hdue⟩ := changes_agree_upTo a pinned path
  have hd : path.rotation = .unpinned ∧ ¬(a.enumPivotType = .rotation ∧ a.isPivotPath path) :=
    ⟨h.1, fun hne => htype hne.1⟩
  rw [hmade, hdue, if_pos hd, if_neg fun hne => hne.1 ⟨htype, h.2⟩]
  simp

/-- Lists put together from parts, some longer and none shorter, have different lengths. -/
theorem flatMap_ne {α γ : Type} {l : List α} {f g : α → List γ}
    (hle : ∀ x ∈ l, (f x).length ≤ (g x).length) {x : α} (hx : x ∈ l)
    (hlt : (f x).length < (g x).length) : l.flatMap f ≠ l.flatMap g := by
  intro heq
  have hlength := congrArg List.length heq
  rw [List.length_flatMap, List.length_flatMap] at hlength
  have hsum := List.sum_lt_sum (fun x => (f x).length) (fun x => (g x).length) hle ⟨x, hx, hlt⟩
  omega

theorem flatMap_changes_iff (pinned : ModeKind → Nat → Option Nat)
    (paths : List VidPnPresentPath) :
    paths.flatMap (pathChanges a pinned) = paths.flatMap (unpinnedChanges a pinned) ↔
      ∀ path ∈ paths, ¬RotationAtPivot a path := by
  constructor
  · intro heq path hpath hat
    by_cases htype : a.enumPivotType = .rotation
    · refine flatMap_ne ?_ hpath (length_of_rotation a pinned htype hat) heq.symm
      intro other _
      by_cases hother : RotationAtPivot a other
      · exact (length_of_rotation a pinned htype hother).le
      · rw [changes_of_not_rotationAtPivot a pinned hother]
    · refine flatMap_ne ?_ hpath (length_of_not_rotation a pinned htype hat) heq
      intro other _
      by_cases hother : RotationAtPivot a other
      · exact (length_of_not_rotation a pinned htype hother).le
      · rw [changes_of_not_rotationAtPivot a pinned hother]
  · intro hnot
    apply List.flatMap_congr
    intro path hpath
    exact changes_of_not_rotationAtPivot a pinned (hnot path hpath)

/-- With callbacks that succeed, and as many turns as there are paths or more, the function
returns with success after it changed for each path what is neither pinned nor the pivot, in the
order of the paths, and nothing else, exactly when a topology without paths is not answered to
be an empty dataset, and no path with the ids of the pivot has an unpinned rotation. -/
theorem enumVidPnCofuncModality_changes_iff (os : VidPnOs) (more : Nat) :
    (∃ os', (enumVidPnCofuncModality a (os.paths.length + more)).exec answer os =
        (.done .success, os') ∧
      os'.changes = os.changes ++ os.paths.flatMap (unpinnedChanges a os.pinnedMode)) ↔
    (os.paths = [] → os.datasetIsEmpty = false) ∧ ∀ path ∈ os.paths, ¬RotationAtPivot a path := by
  constructor
  · rintro ⟨os', hexec, hchanges⟩
    have hfirst : os.paths = [] → os.datasetIsEmpty = false := by
      intro hpaths
      by_contra hempty
      have hnot := exec_datasetIsEmpty a os hpaths (by simpa using hempty)
        (os.paths.length + more)
      rw [hexec] at hnot
      exact hnot rfl
    refine ⟨hfirst, ?_⟩
    obtain ⟨status, os'', hexec', rfl, hchanged⟩ := makes_enumVidPnCofuncModality a
      (os.paths.length + more) hfirst (Nat.le_add_right _ _)
    obtain ⟨-, rfl⟩ := Prod.mk.inj (hexec.symm.trans hexec')
    rw [hchanged.changes] at hchanges
    exact (flatMap_changes_iff a _ _).mp (List.append_cancel_left hchanges)
  · rintro ⟨hfirst, hpaths⟩
    obtain ⟨status, os', hexec, rfl, hchanged⟩ := makes_enumVidPnCofuncModality a
      (os.paths.length + more) hfirst (Nat.le_add_right _ _)
    refine ⟨os', hexec, ?_⟩
    rw [hchanged.changes, (flatMap_changes_iff a _ _).mpr hpaths]

/-- One path, with pinned modes and an unpinned rotation. -/
def unpinnedRotation : VidPnOs where
  paths := [{ pinnedPath with rotation := .unpinned }]
  datasetIsEmpty := true
  current := fun _ _ => ⟨some 1, []⟩
  opened := fun _ => ⟨none, []⟩
  written := fun _ => none
  newHandle := 1
  changes := []

/-- The rotation of the path is the pivot, and its support field is rewritten. -/
theorem enumVidPnCofuncModality_not_always_changes :
    ¬∀ (a : EnumVidPnCofuncModality) (os : VidPnOs) (more : Nat),
      ∃ os', (enumVidPnCofuncModality a (os.paths.length + more)).exec answer os =
          (.done .success, os') ∧
        os'.changes = os.changes ++ os.paths.flatMap (unpinnedChanges a os.pinnedMode) := by
  intro h
  obtain ⟨os', hexec, hchanges⟩ :=
    h { targetPivot with enumPivotType := .rotation } unpinnedRotation 0
  have hmade : os'.changes = [.rotationSupport 0 0 ⟨true, true, false, false⟩] := by
    rw [← (Prod.mk.inj hexec).2]
    rfl
  rw [hmade] at hchanges
  cases hchanges

end VioGpu.Device
