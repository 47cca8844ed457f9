import VioGpu.Device.EnumVidPn
import Mathlib.Tactic.Abel

/-!
# Who holds the objects of the VidPn

The variables of `EnumVidPnCofuncModality` describe at every exit what it holds: `owned`. Each
part of the loop body keeps that, as long as the topology answers with a path or with
`STATUS_GRAPHICS_NO_MORE_ELEMENTS_IN_DATASET`, and the cleanup gives all of it back.
-/

namespace VioGpu.Device

open Lib Program VidPnCall

namespace EnumVars

/-- What the variables say is held, in the order of the cleanup. -/
def owned (v : EnumVars) : Multiset VidPnObject :=
  maybe (v.source.pinned.map (.modeInfo .source)) +
    (maybe (v.target.pinned.map (.modeInfo .target)) +
      (maybe (v.path.map .path) +
        (maybe (v.pathTemp.map .path) +
          (maybe (v.source.modeSet.map (.modeSet .source)) +
            maybe (v.target.modeSet.map (.modeSet .target))))))

/-- A pinned mode comes with its interface and its mode set. -/
structure Sound (v : EnumVars) : Prop where
  interface : ∀ kind, (v.of kind).pinned ≠ none → (v.of kind).interface = true
  modeSet : ∀ kind, (v.of kind).pinned ≠ none → (v.of kind).modeSet ≠ none

variable {v : EnumVars} {w : ModeSetVars} {kind : ModeKind}

@[simp] theorem of_set (v : EnumVars) (w : ModeSetVars) (kind : ModeKind) :
    (v.set w kind).of kind = w := by
  cases kind <;> rfl

theorem Sound.set (h : v.Sound) (hinterface : w.pinned ≠ none → w.interface = true)
    (hmodeSet : w.pinned ≠ none → w.modeSet ≠ none) : (v.set w kind).Sound := by
  constructor
  · intro other
    cases kind <;> cases other
    exacts [hinterface, h.interface .target, h.interface .source, hinterface]
  · intro other
    cases kind <;> cases other
    exacts [hmodeSet, h.modeSet .target, h.modeSet .source, hmodeSet]

@[simp] theorem set_set (v : EnumVars) (w w' : ModeSetVars) (kind : ModeKind) :
    (v.set w kind).set w' kind = v.set w' kind := by
  cases kind <;> rfl

@[simp] theorem set_of (v : EnumVars) (kind : ModeKind) : v.set (v.of kind) kind = v := by
  cases kind <;> rfl

/-- The part of the variables of one kind in what is held. -/
theorem owned_set (v : EnumVars) (w : ModeSetVars) (kind : ModeKind) :
    (v.set w kind).owned = maybe (w.pinned.map (.modeInfo kind)) +
      (maybe (w.modeSet.map (.modeSet kind)) + (v.set {} kind).owned) := by
  cases kind
  · simp only [owned, set, Option.map_none, maybe_none, Multiset.zero_add]
    abel
  · simp only [owned, set, Option.map_none, maybe_none, Multiset.zero_add]
    abel

theorem owned_of (v : EnumVars) (kind : ModeKind) :
    v.owned = maybe ((v.of kind).pinned.map (.modeInfo kind)) +
      (maybe ((v.of kind).modeSet.map (.modeSet kind)) + (v.set {} kind).owned) := by
  rw [← owned_set, set_of]

/-- A mode set that the variables hold is one object of theirs. -/
theorem owned_of_modeSet {s : Nat} (h : (v.of kind).modeSet = some s) :
    v.owned = .modeSet kind s ::ₘ (v.set { v.of kind with modeSet := none } kind).owned := by
  rw [owned_set, owned_of v kind, h]
  simp only [Option.map_some, Option.map_none, maybe_some, maybe_none, Multiset.singleton_add,
    Multiset.add_cons, Multiset.zero_add]

/-- A pinned mode that the variables hold is one object of theirs. -/
theorem owned_of_pinned {i : Nat} (h : (v.of kind).pinned = some i) :
    v.owned = .modeInfo kind i ::ₘ (v.set { v.of kind with pinned := none } kind).owned := by
  rw [owned_set, owned_of v kind, h]
  simp only [Option.map_some, Option.map_none, maybe_some, maybe_none, Multiset.singleton_add,
    Multiset.zero_add]

theorem modeSet_mem_owned {s : Nat} (h : (v.of kind).modeSet = some s) :
    .modeSet kind s ∈ v.owned := by
  rw [owned_of_modeSet h]
  exact Multiset.mem_cons_self _ _

theorem pinned_mem_owned {i : Nat} (h : (v.of kind).pinned = some i) :
    .modeInfo kind i ∈ v.owned := by
  rw [owned_of_pinned h]
  exact Multiset.mem_cons_self _ _

end EnumVars

/-! ## Parts of the loop body -/

/-- Answers to the topology's calls that the loop is made for. -/
def Expected (e : Answered VidPnCall VidPnCall.Ans) : Prop :=
  match e.call, e.answer with
  | acquireFirstPathInfo, answer => answer ≠ .ok .datasetIsEmpty
  | acquireNextPathInfo _, answer => ∃ next, answer = .ok next ∧ next ≠ .datasetIsEmpty
  | _, _ => True

/-- A program that owns what it needs, as long as the answers are the expected ones. -/
abbrev Keeps {β : Type} (own : Multiset VidPnObject) (p : VidPnProgram β)
    (post : β → Multiset VidPnObject → Prop) : Prop :=
  Triple vidPnDeeds Expected own p post

/-- At the end of a part the variables describe what is held. -/
def Flow.Ends (post : EnumVars → Prop) : Flow EnumVars → Multiset VidPnObject → Prop
  | .goOn v, own => own = v.owned ∧ v.Sound ∧ post v
  | .stop v _, own => own = v.owned ∧ v.Sound

theorem Flow.Ends.mono {post post' : EnumVars → Prop} {flow : Flow EnumVars}
    {own : Multiset VidPnObject} (h : flow.Ends post own) (himp : ∀ v, post v → post' v) :
    flow.Ends post' own := by
  cases flow with
  | goOn v => exact ⟨h.1, h.2.1, himp v h.2.2⟩
  | stop v status => exact h

variable {v : EnumVars} {kind : ModeKind} {own : Multiset VidPnObject}

theorem keeps_goOn {post : EnumVars → Prop} (h : v.Sound) (hpost : post v) :
    Keeps v.owned (return .goOn v) (Flow.Ends post) :=
  .done ⟨rfl, h, hpost⟩

theorem keeps_stop {post : EnumVars → Prop} (h : v.Sound) (status : Status) :
    Keeps v.owned (return .stop v status) (Flow.Ends post) :=
  .done ⟨rfl, h⟩

theorem keeps_andThen {part : VidPnProgram (Flow EnumVars)}
    {next : EnumVars → VidPnProgram (Flow EnumVars)}
    {post post' : EnumVars → Prop} (h : Keeps own part (Flow.Ends post))
    (hnext : ∀ v, v.Sound → post v → Keeps v.owned (next v) (Flow.Ends post')) :
    Keeps own (andThen part next) (Flow.Ends post') := by
  apply h.bind
  intro flow own' hflow
  cases flow with
  | goOn v =>
    obtain ⟨rfl, hsound, hpost⟩ := hflow
    exact hnext v hsound hpost
  | stop v status =>
    obtain ⟨rfl, hsound⟩ := hflow
    exact keeps_stop hsound status

/-- The modes that are added leave the driver nothing, and need the mode set only. -/
theorem keeps_addSingleMode {s : Nat} (hs : .modeSet kind s ∈ own) (mode : NewMode)
    (afterFailure : Nat → Option Status) :
    Keeps own (addSingleMode kind s mode afterFailure) fun _ own' => own' = own := by
  have hinfo : ∀ i, VidPnObject.modeSet kind s ∈ VidPnObject.modeInfo kind i ::ₘ own :=
    fun i => Multiset.mem_cons_of_mem hs
  -- a mode that was not taken is released, or left behind
  have hrelease : ∀ (i : Nat) (result : Option Status),
      Keeps (.modeInfo kind i ::ₘ own) (ask (releaseModeInfo kind s i) >>= fun _ => .done result)
        fun _ own' => own' = own := by
    intro i result
    apply Triple.call
    intro answer _
    cases answer with
    | error code => exact ⟨own, .use (hinfo i) (.leave (.nil own)), .done rfl⟩
    | ok => exact ⟨own, .use (hinfo i) (.release (.nil own)), .done rfl⟩
  apply Triple.call
  intro answer _
  cases answer with
  | error code => exact ⟨own, .use hs (.nil own), .done rfl⟩
  | ok i =>
    refine ⟨.modeInfo kind i ::ₘ own, .use hs (.acquire (.nil _)), ?_⟩
    apply Triple.call
    intro _ _
    refine ⟨_, .use (Multiset.mem_cons_self _ own) (.nil _), ?_⟩
    apply Triple.call
    intro answer _
    cases answer with
    | added => exact ⟨own, .use (hinfo i) (.release (.nil own)), .done rfl⟩
    | alreadyInModeset =>
      exact ⟨_, .use (hinfo i) (.use (Multiset.mem_cons_self _ own) (.nil _)), hrelease i _⟩
    | failed code =>
      exact ⟨_, .use (hinfo i) (.use (Multiset.mem_cons_self _ own) (.nil _)), hrelease i _⟩

theorem keeps_addSourceModes {s : Nat} (hs : .modeSet .source s ∈ own)
    (modes : List VideoModeInformation) :
    Keeps own (addSourceModes s modes) fun _ own' => own' = own := by
  induction modes with
  | nil => exact .done rfl
  | cons modeInfo modes ih =>
    apply (keeps_addSingleMode hs _ _).bind
    rintro status own' rfl
    cases status with
    | none => exact ih
    | some status => exact .done rfl

theorem keeps_addTargetModes {s : Nat} (hs : .modeSet .target s ∈ own)
    (modeInfo : VideoModeInformation) (turns : Nat) :
    Keeps own (addTargetModes s modeInfo turns) fun _ own' => own' = own := by
  induction turns with
  | zero => exact .done rfl
  | succ turns ih =>
    apply (keeps_addSingleMode hs _ _).bind
    rintro status own' rfl
    cases status with
    | none => exact ih
    | some status => exact .done rfl

/-! ### Mode sets -/

/-- Only the variables of one kind have changed, and they are as said. -/
def Sets (v : EnumVars) (kind : ModeKind) (post : ModeSetVars → Prop) (v' : EnumVars) : Prop :=
  ∃ w, v' = v.set w kind ∧ post w

theorem Sets.post {post : ModeSetVars → Prop} {v' : EnumVars} (h : Sets v kind post v') :
    post (v'.of kind) := by
  obtain ⟨w, rfl, hw⟩ := h
  rwa [EnumVars.of_set]

theorem Sets.of_ne {post : ModeSetVars → Prop} {v' : EnumVars} (h : Sets v kind post v')
    (other : ModeKind) (hne : other ≠ kind) : v'.of other = v.of other := by
  obtain ⟨w, rfl, -⟩ := h
  cases kind <;> cases other
  exacts [absurd rfl hne, rfl, rfl, absurd rfl hne]

theorem keeps_acquireModes (h : v.Sound) (hclear : (v.of kind).modeSet = none)
    (hpinned : (v.of kind).pinned = none) (id : Nat) :
    Keeps v.owned (acquireModes kind id v) (Flow.Ends (Sets v kind fun w => w.modeSet ≠ none)) := by
  apply Triple.call
  intro answer _
  cases answer with
  | error code => exact ⟨_, .nil _, keeps_stop h _⟩
  | ok s =>
    -- from here on the variables hold the mode set
    have howned : ∀ w : ModeSetVars, w.modeSet = some s → w.pinned = none →
        (v.set w kind).owned = .modeSet kind s ::ₘ v.owned := by
      intro w hs hp
      rw [EnumVars.owned_set, EnumVars.owned_of v kind, hs, hp, hclear, hpinned]
      simp
    have hsound : ∀ w : ModeSetVars, w.modeSet = some s → w.interface = true →
        (v.set w kind).Sound := fun w hs hi => h.set (fun _ => hi) (fun _ => by simp [hs])
    refine ⟨_, .acquire (.nil _), ?_⟩
    apply Triple.call
    intro answer _
    have hmem : VidPnObject.modeSet kind s ∈ .modeSet kind s ::ₘ v.owned :=
      Multiset.mem_cons_self _ _
    rcases answer with code | _ | i
    · refine ⟨_, .use hmem (.nil _), ?_⟩
      rw [← howned { v.of kind with modeSet := some s, interface := true } rfl hpinned]
      exact keeps_stop (hsound _ rfl rfl) _
    · refine ⟨_, .use hmem (.nil _), ?_⟩
      rw [← howned { modeSet := some s, interface := true, pinned := none } rfl rfl]
      exact keeps_goOn (hsound _ rfl rfl) ⟨_, rfl, by simp⟩
    · refine ⟨_, .use hmem (.acquire (.nil _)), ?_⟩
      have hcons : .modeInfo kind i ::ₘ .modeSet kind s ::ₘ v.owned =
          (v.set { modeSet := some s, interface := true, pinned := some i } kind).owned := by
        rw [EnumVars.owned_set, EnumVars.owned_of v kind, hclear, hpinned]
        simpa using Multiset.cons_swap _ _ _
      rw [hcons]
      exact keeps_goOn (hsound _ rfl rfl) ⟨_, rfl, by simp⟩

theorem keeps_releaseModes (kind : ModeKind) (h : v.Sound) (hs : (v.of kind).modeSet ≠ none)
    (hpinned : (v.of kind).pinned = none) :
    Keeps v.owned (releaseModes kind v)
      (Flow.Ends (Sets v kind fun w => w.modeSet = none ∧ w.pinned = none)) := by
  obtain ⟨s, hs⟩ := Option.ne_none_iff_exists'.mp hs
  apply triple_theHandle hs
  apply Triple.call
  intro answer _
  rw [EnumVars.owned_of_modeSet hs]
  cases answer with
  | error code =>
    refine ⟨_, .keep (Multiset.mem_cons_self _ _) (.nil _), ?_⟩
    rw [← EnumVars.owned_of_modeSet hs]
    exact keeps_stop h _
  | ok =>
    refine ⟨_, .release (.nil _), keeps_goOn ?_ ⟨_, rfl, rfl, hpinned⟩⟩
    exact h.set (fun hne => absurd hpinned hne) (fun hne => absurd hpinned hne)

theorem keeps_releasePinned (kind : ModeKind) (h : v.Sound) (hpinned : (v.of kind).pinned ≠ none) :
    Keeps v.owned (releasePinned kind v)
      (Flow.Ends (Sets v kind fun w => w.modeSet ≠ none ∧ w.pinned = none)) := by
  obtain ⟨s, hs⟩ := Option.ne_none_iff_exists'.mp (h.modeSet kind hpinned)
  obtain ⟨i, hi⟩ := Option.ne_none_iff_exists'.mp hpinned
  apply triple_theHandle hs
  apply triple_theHandle hi
  apply Triple.call
  intro answer _
  have hmem := EnumVars.modeSet_mem_owned hs
  cases answer with
  | error code =>
    exact ⟨_, .use hmem (.keep (EnumVars.pinned_mem_owned hi) (.nil _)), keeps_stop h _⟩
  | ok =>
    refine ⟨(v.set { v.of kind with pinned := none } kind).owned, .use hmem ?_,
      keeps_goOn ?_ ⟨_, rfl, by simp [hs], rfl⟩⟩
    · rw [EnumVars.owned_of_pinned hi]
      exact .release (.nil _)
    · exact h.set (fun hne => absurd rfl hne) (fun hne => absurd rfl hne)

theorem Sets.of_set {w : ModeSetVars} {post : ModeSetVars → Prop} {v' : EnumVars}
    (h : Sets (v.set w kind) kind post v') : Sets v kind post v' := by
  obtain ⟨w', rfl, hw'⟩ := h
  exact ⟨w', v.set_set w w' kind, hw'⟩

theorem keeps_fillModes {addModes : Nat → VidPnProgram Status} (h : v.Sound)
    (hs : (v.of kind).modeSet ≠ none) (hpinned : (v.of kind).pinned = none) (id : Nat)
    (hadd : ∀ s own, .modeSet kind s ∈ own → Keeps own (addModes s) fun _ own' => own' = own) :
    Keeps v.owned (fillModes kind id addModes v)
      (Flow.Ends (Sets v kind fun w => w.modeSet = none ∧ w.pinned = none)) := by
  obtain ⟨s, hs⟩ := Option.ne_none_iff_exists'.mp hs
  have hmem := EnumVars.modeSet_mem_owned hs
  apply triple_theHandle hs
  apply (hadd s _ hmem).bind
  rintro status own' rfl
  split
  · exact keeps_stop h status
  · apply Triple.call
    intro answer _
    cases answer with
    | error code => exact ⟨_, .use hmem (.nil _), keeps_stop h _⟩
    | ok =>
      refine ⟨_, ?_, keeps_goOn ?_ ⟨_, rfl, rfl, hpinned⟩⟩
      · rw [EnumVars.owned_of_modeSet hs]
        exact .release (.nil _)
      · exact h.set (fun hne => absurd hpinned hne) (fun hne => absurd hpinned hne)

theorem keeps_createModes {addModes : Nat → VidPnProgram Status} (h : v.Sound)
    (hclear : (v.of kind).modeSet = none) (hpinned : (v.of kind).pinned = none) (id : Nat)
    (hadd : ∀ s own, .modeSet kind s ∈ own → Keeps own (addModes s) fun _ own' => own' = own) :
    Keeps v.owned (createModes kind id addModes v)
      (Flow.Ends (Sets v kind fun w => w.modeSet = none ∧ w.pinned = none)) := by
  apply Triple.call
  intro answer _
  cases answer with
  | error code => exact ⟨_, .nil _, keeps_stop h _⟩
  | ok s =>
    refine ⟨_, .acquire (.nil _), ?_⟩
    have howned : (v.set { v.of kind with modeSet := some s, interface := true } kind).owned =
        .modeSet kind s ::ₘ v.owned := by
      rw [EnumVars.owned_set, EnumVars.owned_of v kind, hclear, hpinned]
      simp
    rw [← howned]
    apply (keeps_fillModes (h.set (fun _ => rfl) (by simp)) (by simp) (by simpa) id hadd).mono
    exact fun flow own hends => hends.mono fun v' => Sets.of_set

theorem keeps_replaceModes (kind : ModeKind) {addModes : Nat → VidPnProgram Status} (h : v.Sound)
    (hs : (v.of kind).modeSet ≠ none) (hpinned : (v.of kind).pinned = none) (id : Nat)
    (hadd : ∀ s own, .modeSet kind s ∈ own → Keeps own (addModes s) fun _ own' => own' = own) :
    Keeps v.owned (replaceModes kind id addModes v)
      (Flow.Ends (Sets v kind fun w => w.modeSet = none ∧ w.pinned = none)) := by
  apply keeps_andThen (keeps_releaseModes kind h hs hpinned)
  rintro _ hsound ⟨w, rfl, hw, hp⟩
  apply (keeps_createModes hsound (by simpa) (by simpa) id hadd).mono
  exact fun flow own hends => hends.mono fun v' => Sets.of_set

/-! ### One turn -/

/-- The variables of one kind hold nothing. -/
def Clear (kind : ModeKind) (v : EnumVars) : Prop :=
  (v.of kind).modeSet = none ∧ (v.of kind).pinned = none

/-- There is a path, and no other. -/
def OnPath (v : EnumVars) : Prop := v.path ≠ none ∧ v.pathTemp = none

theorem Sets.onPath {post : ModeSetVars → Prop} {v' : EnumVars} (h : Sets v kind post v')
    (hv : OnPath v) : OnPath v' := by
  obtain ⟨w, rfl, -⟩ := h
  cases kind <;> exact hv

theorem Sets.clear {post : ModeSetVars → Prop} {v' : EnumVars} (h : Sets v kind post v')
    (hpost : ∀ w, post w → w.modeSet = none ∧ w.pinned = none) : Clear kind v' :=
  hpost _ h.post

theorem Sets.clear_of_ne {post : ModeSetVars → Prop} {v' : EnumVars} {other : ModeKind}
    (h : Sets v kind post v') (hne : other ≠ kind) (hv : Clear other v) : Clear other v' := by
  rw [Clear, h.of_ne other hne]
  exact hv

theorem path_mem_owned {p : Nat} (hp : v.path = some p) : .path p ∈ v.owned := by
  simp [EnumVars.owned, hp]

theorem keeps_thePath (hv : OnPath v) {β : Type} {next : VidPnPresentPath → VidPnProgram β}
    {post : β → Multiset VidPnObject → Prop} (hnext : ∀ path, Keeps v.owned (next path) post) :
    Keeps v.owned (thePath v >>= next) post := by
  obtain ⟨p, hp⟩ := Option.ne_none_iff_exists'.mp hv.1
  rw [thePath, hp]
  apply Triple.call
  intro path _
  exact ⟨_, .use (path_mem_owned hp) (.nil _), hnext path⟩

variable (a : EnumVidPnCofuncModality)

theorem keeps_sourceModes (h : v.Sound) (hv : OnPath v) (hsource : Clear .source v)
    (htarget : Clear .target v) :
    Keeps v.owned (sourceModes a v) (Flow.Ends fun v' => OnPath v' ∧ Clear .target v') := by
  apply keeps_thePath hv
  intro path
  apply keeps_andThen (keeps_acquireModes h hsource.1 hsource.2 _)
  intro v' hsound hsets
  have hv' : OnPath v' := hsets.onPath hv
  have htarget' : Clear .target v' := hsets.clear_of_ne (by simp) htarget
  split_ifs with hpivot hpinned
  · exact keeps_goOn hsound ⟨hv', htarget'⟩
  · apply (keeps_replaceModes .source hsound hsets.post hpinned _
      fun s own hs => keeps_addSourceModes hs _).mono
    intro flow own hends
    exact hends.mono fun _ hsets' => ⟨hsets'.onPath hv', hsets'.clear_of_ne (by simp) htarget'⟩
  · exact keeps_goOn hsound ⟨hv', htarget'⟩

theorem keeps_targetModes (h : v.Sound) (hv : OnPath v) (htarget : Clear .target v) :
    Keeps v.owned (targetModes a v) (Flow.Ends fun v' => OnPath v' ∧ Clear .target v') := by
  apply keeps_thePath hv
  intro path
  split_ifs with hpivot
  · exact keeps_goOn h ⟨hv, htarget⟩
  · apply keeps_andThen (keeps_acquireModes h htarget.1 htarget.2 _)
    intro v' hsound hsets
    have hv' : OnPath v' := hsets.onPath hv
    split_ifs with hpinned
    · apply (keeps_replaceModes .target hsound hsets.post hpinned _
        fun s own hs => keeps_addTargetModes hs _ _).mono
      intro flow own hends
      exact hends.mono fun _ hsets' => ⟨hsets'.onPath hv', hsets'.clear fun _ => id⟩
    · apply keeps_andThen (keeps_releasePinned .target hsound hpinned)
      intro v'' hsound' hsets'
      have hv'' : OnPath v'' := hsets'.onPath hv'
      apply (keeps_releaseModes .target hsound' hsets'.post.1 hsets'.post.2).mono
      intro flow own hends
      exact hends.mono fun _ hsets' => ⟨hsets'.onPath hv'', hsets'.clear fun _ => id⟩

theorem keeps_releaseSource (h : v.Sound) (hv : OnPath v) (htarget : Clear .target v) :
    Keeps v.owned (releaseSource v)
      (Flow.Ends fun v' => OnPath v' ∧ Clear .source v' ∧ Clear .target v') := by
  have hunpinned : Keeps v.owned
      (if v.source.pinned ≠ none then releasePinned .source v else return .goOn v)
      (Flow.Ends fun v' => OnPath v' ∧ v'.source.pinned = none ∧ Clear .target v') := by
    split_ifs with hpinned
    · apply (keeps_releasePinned .source h hpinned).mono
      intro flow own hends
      apply hends.mono
      intro v' hsets
      exact ⟨hsets.onPath hv, hsets.post.2, hsets.clear_of_ne (by simp) htarget⟩
    · exact keeps_goOn h ⟨hv, not_not.mp hpinned, htarget⟩
  apply keeps_andThen hunpinned
  rintro v' hsound ⟨hv', hpinned, htarget'⟩
  split_ifs with hs
  · apply (keeps_releaseModes .source hsound hs hpinned).mono
    intro flow own hends
    apply hends.mono
    intro v'' hsets
    exact ⟨hsets.onPath hv', hsets.clear fun _ => id, hsets.clear_of_ne (by simp) htarget'⟩
  · exact keeps_goOn hsound ⟨hv', ⟨not_not.mp hs, hpinned⟩, htarget'⟩

theorem keeps_supportFields {post : EnumVars → Prop} (h : v.Sound) (hv : OnPath v)
    (hpost : post v) : Keeps v.owned (supportFields a v) (Flow.Ends post) := by
  apply keeps_thePath hv
  intro path
  dsimp only
  split_ifs
  · apply Triple.call
    intro answer _
    cases answer with
    | error code => exact ⟨_, .nil _, keeps_stop h _⟩
    | ok => exact ⟨_, .nil _, keeps_goOn h hpost⟩
  · exact keeps_goOn h hpost

/-- At the start of a turn the variables hold one path and nothing else. -/
structure TurnStart (v : EnumVars) : Prop where
  onPath : OnPath v
  source : Clear .source v
  target : Clear .target v

theorem owned_of_clear (hsource : Clear .source v) (htarget : Clear .target v) :
    v.owned = maybe (v.path.map .path) + maybe (v.pathTemp.map .path) := by
  obtain ⟨hs, hp⟩ := hsource
  obtain ⟨ht, hq⟩ := htarget
  simp only [EnumVars.of] at hs hp ht hq
  simp only [EnumVars.owned, hs, hp, ht, hq, Option.map_none, maybe_none, Multiset.zero_add,
    Multiset.add_zero]

theorem sound_of_clear (hsource : Clear .source v) (htarget : Clear .target v) : v.Sound := by
  constructor
  · intro kind hne
    cases kind
    exacts [absurd hsource.2 hne, absurd htarget.2 hne]
  · intro kind hne
    cases kind
    exacts [absurd hsource.2 hne, absurd htarget.2 hne]

theorem keeps_releaseLast (hsource : Clear .source v) (htarget : Clear .target v)
    (hlast : v.pathTemp ≠ none) {next : NextPath} (hnext : next ≠ .noMoreElements → v.path ≠ none) :
    Keeps v.owned (releaseLast next v) (Flow.Ends TurnStart) := by
  obtain ⟨last, hlast⟩ := Option.ne_none_iff_exists'.mp hlast
  generalize hmoved : { v with pathTemp := none } = moved
  have hms : Clear .source moved := hmoved ▸ hsource
  have hmt : Clear .target moved := hmoved ▸ htarget
  have howned : v.owned = .path last ::ₘ moved.owned := by
    rw [owned_of_clear hsource htarget, owned_of_clear hms hmt, ← hmoved, hlast,
      ← Multiset.singleton_add]
    simp [add_comm]
  have hsound : v.Sound := sound_of_clear hsource htarget
  apply triple_theHandle hlast
  apply Triple.call
  intro answer _
  cases answer with
  | error code =>
    refine ⟨_, .keep ?_ (.nil _), keeps_stop hsound _⟩
    rw [howned]
    exact Multiset.mem_cons_self _ _
  | ok =>
    refine ⟨moved.owned, howned ▸ .release (.nil _), ?_⟩
    have hgoal : Keeps moved.owned
        (if next = .noMoreElements then return .stop moved .success else return .goOn moved)
        (Flow.Ends TurnStart) := by
      have hmoved' : moved.Sound := sound_of_clear hms hmt
      split_ifs with hmore
      · exact keeps_stop hmoved' _
      · exact keeps_goOn hmoved' ⟨⟨hmoved ▸ hnext hmore, hmoved ▸ rfl⟩, hms, hmt⟩
    rw [← hmoved] at hgoal ⊢
    exact hgoal

/-- Moving on to the next path, the variables hold two paths for a while. -/
theorem keeps_nextPath (hv : TurnStart v) : Keeps v.owned (nextPath v) (Flow.Ends TurnStart) := by
  obtain ⟨p, hp⟩ := Option.ne_none_iff_exists'.mp hv.onPath.1
  apply triple_theHandle hp
  apply Triple.call
  intro answer hanswer
  obtain ⟨next, rfl, hnext⟩ := hanswer
  have howned : v.owned = {.path p} := by
    rw [owned_of_clear hv.source hv.target, hp, hv.onPath.2]
    rfl
  have hmem : .path p ∈ v.owned := path_mem_owned hp
  have hsource : Clear .source { v with path := next.handle, pathTemp := some p } := hv.source
  have htarget : Clear .target { v with path := next.handle, pathTemp := some p } := hv.target
  have hmoved := owned_of_clear hsource htarget
  cases next with
  | path q =>
    refine ⟨_, .use hmem (.acquire (.nil _)), ?_⟩
    have hcons : .path q ::ₘ v.owned =
        { v with path := (NextPath.path q).handle, pathTemp := some p }.owned := by
      rw [hmoved, howned]
      rfl
    rw [hcons]
    exact keeps_releaseLast hsource htarget (by simp) (fun _ => by simp [NextPath.handle])
  | noMoreElements =>
    refine ⟨_, .use hmem (.nil _), ?_⟩
    have hsame : v.owned =
        { v with path := NextPath.noMoreElements.handle, pathTemp := some p }.owned := by
      rw [hmoved, howned]
      rfl
    rw [hsame]
    exact keeps_releaseLast hsource htarget (by simp) (fun hne => absurd rfl hne)
  | datasetIsEmpty => exact absurd rfl hnext

theorem keeps_enumPath (h : v.Sound) (hv : TurnStart v) :
    Keeps v.owned (enumPath a v) (Flow.Ends TurnStart) := by
  apply keeps_andThen (keeps_sourceModes a h hv.onPath hv.source hv.target)
  rintro v₁ h₁ ⟨hpath₁, htarget₁⟩
  apply keeps_andThen (keeps_targetModes a h₁ hpath₁ htarget₁)
  rintro v₂ h₂ ⟨hpath₂, htarget₂⟩
  apply keeps_andThen (keeps_releaseSource h₂ hpath₂ htarget₂)
  rintro v₃ h₃ ⟨hpath₃, hsource₃, htarget₃⟩
  have hv₃ : TurnStart v₃ := ⟨hpath₃, hsource₃, htarget₃⟩
  apply keeps_andThen (keeps_supportFields a h₃ hpath₃ hv₃)
  exact fun v₄ _ hv₄ => keeps_nextPath hv₄

/-- The loop, by induction on its turns. -/
theorem keeps_enumPaths (turns : Nat) (h : v.Sound) (hv : TurnStart v) :
    Keeps v.owned (enumPaths a turns v) fun r own => own = r.1.owned ∧ r.1.Sound := by
  induction turns generalizing v with
  | zero => exact .unfinished
  | succ turns ih =>
    apply (keeps_enumPath a h hv).bind
    intro flow own hflow
    cases flow with
    | goOn v' =>
      obtain ⟨rfl, h', hv'⟩ := hflow
      exact ih h' hv'
    | stop v' status => exact .done hflow

/-! ## The cleanup -/

/-- The cleanup gives back all that the variables hold. -/
theorem keeps_cleanUp (h : v.Sound) : Keeps v.owned (cleanUp v) fun _ own => own = 0 := by
  have hmodeSet : ∀ kind, (v.of kind).pinned ≠ none → ∃ s, (v.of kind).modeSet = some s :=
    fun kind hne => Option.ne_none_iff_exists'.mp (h.modeSet kind hne)
  apply (triple_cleanUpPinned (h.interface .source) ?_).bind
  · rintro _ _ rfl
    apply (triple_cleanUpPinned (h.interface .target) ?_).bind
    · rintro _ _ rfl
      apply (triple_cleanUpPath v.path).bind
      rintro _ _ rfl
      apply (triple_cleanUpPath v.pathTemp).bind
      rintro _ _ rfl
      apply (triple_cleanUpModeSet v.source.modeSet).bind
      rintro _ _ rfl
      rw [← Multiset.add_zero (maybe _)]
      exact triple_cleanUpModeSet v.target.modeSet
    · intro hne
      obtain ⟨s, hs⟩ := hmodeSet .target hne
      exact ⟨s, hs, by simp [show v.target.modeSet = some s from hs]⟩
  · intro hne
    obtain ⟨s, hs⟩ := hmodeSet .source hne
    exact ⟨s, hs, by simp [show v.source.modeSet = some s from hs]⟩

/-! ## The whole function -/

theorem keeps_loopFrom (turns : Nat) {first : NextPath} (hfirst : first ≠ .datasetIsEmpty) :
    Keeps (maybe (first.handle.map .path)) (loopFrom a turns first)
      fun r own => own = r.1.owned ∧ r.1.Sound := by
  have hsound : EnumVars.Sound { path := first.handle } := sound_of_clear ⟨rfl, rfl⟩ ⟨rfl, rfl⟩
  have howned : maybe (first.handle.map .path) = EnumVars.owned { path := first.handle } := by
    rw [owned_of_clear ⟨rfl, rfl⟩ ⟨rfl, rfl⟩]
    exact (Multiset.add_zero _).symm
  rw [howned, loopFrom]
  split_ifs with hmore
  · exact .done ⟨rfl, hsound⟩
  · apply keeps_enumPaths a turns hsound
    refine ⟨⟨?_, rfl⟩, ⟨rfl, rfl⟩, ⟨rfl, rfl⟩⟩
    cases first with
    | path p => simp [NextPath.handle]
    | noMoreElements => exact absurd rfl hmore
    | datasetIsEmpty => exact absurd rfl hfirst

theorem keeps_enumVidPnCofuncModality (turns : Nat) :
    Keeps 0 (enumVidPnCofuncModality a turns) fun _ own => own = 0 := by
  apply Triple.call
  intro answer _
  rcases answer with code | _
  · exact ⟨0, .nil 0, .done rfl⟩
  · refine ⟨0, .nil 0, ?_⟩
    apply Triple.call
    intro answer _
    rcases answer with code | _
    · exact ⟨0, .nil 0, .done rfl⟩
    · refine ⟨0, .nil 0, ?_⟩
      apply Triple.call
      intro answer hanswer
      rcases answer with code | first
      · exact ⟨0, .nil 0, .done rfl⟩
      · have hfirst : first ≠ .datasetIsEmpty := fun h => hanswer (by rw [h])
        refine ⟨maybe (first.handle.map .path), ?_, ?_⟩
        · cases first with
          | path p => exact .acquire (.nil _)
          | noMoreElements => exact .nil _
          | datasetIsEmpty => exact .nil _
        · apply (keeps_loopFrom a turns hfirst).bind
          rintro ⟨v, status⟩ own ⟨rfl, hv⟩
          apply (keeps_cleanUp hv).bind
          rintro _ _ rfl
          exact .done rfl

end VioGpu.Device
