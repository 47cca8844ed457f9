import VioGpu.Device.EnumVidPnCustody

/-!
# Runs of `EnumVidPnCofuncModality`

Only the loop over the paths is cut off, and only after as many turns as were asked for: a run
that goes on to fewer paths than that comes to its end. It faults nowhere, and what it acquires
it gives back, unless the topology answers with an empty dataset or fails to move on to the next
path: then the pointer to the path is `NULL` where it is read, or two variables hold it.
-/

namespace VioGpu.Device

open Lib Program VidPnCall

/-! ## Where a run ends -/

theorem total_addSingleMode (kind : ModeKind) (s : Nat) (mode : NewMode)
    (afterFailure : Nat → Option Status) : (addSingleMode kind s mode afterFailure).Total := by
  rintro (code | i)
  · trivial
  · rintro _ (_ | _ | code)
    · trivial
    · exact fun _ => trivial
    · exact fun _ => trivial

theorem total_acquireModes (kind : ModeKind) (id : Nat) (v : EnumVars) :
    (acquireModes kind id v).Total := by
  rintro (code | s)
  · trivial
  · rintro (code | pinned) <;> trivial

theorem total_releaseModes (kind : ModeKind) (v : EnumVars) : (releaseModes kind v).Total := by
  apply (total_theHandle _).bind
  rintro s (code | _) <;> trivial

theorem total_releasePinned (kind : ModeKind) (v : EnumVars) : (releasePinned kind v).Total := by
  apply (total_theHandle _).bind
  intro s
  apply (total_theHandle _).bind
  rintro i (code | _) <;> trivial

theorem total_addSourceModes (s : Nat) (modes : List VideoModeInformation) :
    (addSourceModes s modes).Total := by
  induction modes with
  | nil => trivial
  | cons modeInfo modes ih =>
    apply (total_addSingleMode _ _ _ _).bind
    rintro (_ | status)
    · exact ih
    · trivial

theorem total_addTargetModes (s : Nat) (modeInfo : VideoModeInformation) (turns : Nat) :
    (addTargetModes s modeInfo turns).Total := by
  induction turns with
  | zero => trivial
  | succ turns ih =>
    apply (total_addSingleMode _ _ _ _).bind
    rintro (_ | status)
    · exact ih
    · trivial

theorem total_replaceModes (kind : ModeKind) (id : Nat) {addModes : Nat → VidPnProgram Status}
    (hadd : ∀ s, (addModes s).Total) (v : EnumVars) : (replaceModes kind id addModes v).Total := by
  apply total_andThen (total_releaseModes kind v)
  rintro v (code | s)
  · trivial
  · apply (total_theHandle _).bind
    intro s
    apply (hadd s).bind
    intro status
    dsimp only
    split_ifs
    · trivial
    · rintro (code | _) <;> trivial

theorem total_thePath (v : EnumVars) : (thePath v).Total :=
  (total_theHandle _).bind fun _ _ => trivial

variable (a : EnumVidPnCofuncModality)

theorem total_sourceModes (v : EnumVars) : (sourceModes a v).Total := by
  apply (total_thePath v).bind
  intro path
  apply total_andThen (total_acquireModes _ _ _)
  intro v
  split_ifs
  · trivial
  · exact total_replaceModes _ _ (fun s => total_addSourceModes s _) v
  · trivial

theorem total_targetModes (v : EnumVars) : (targetModes a v).Total := by
  apply (total_thePath v).bind
  intro path
  split_ifs
  · trivial
  · apply total_andThen (total_acquireModes _ _ _)
    intro v
    split_ifs
    · exact total_replaceModes _ _ (fun s => total_addTargetModes s _ _) v
    · exact total_andThen (total_releasePinned _ _) fun v => total_releaseModes _ _

theorem total_releaseSource (v : EnumVars) : (releaseSource v).Total := by
  apply total_andThen
  · split_ifs
    · exact total_releasePinned _ _
    · trivial
  · intro v
    split_ifs
    · exact total_releaseModes _ _
    · trivial

theorem total_supportFields (v : EnumVars) : (supportFields a v).Total := by
  apply (total_thePath v).bind
  intro path
  dsimp only
  split_ifs
  · rintro (code | _) <;> trivial
  · trivial

theorem total_nextPath (v : EnumVars) : (nextPath v).Total := by
  apply (total_theHandle _).bind
  rintro last (code | next)
  · trivial
  · rintro (code | _)
    · trivial
    · dsimp only
      split_ifs <;> trivial

theorem total_enumPath (v : EnumVars) : (enumPath a v).Total :=
  total_andThen (total_sourceModes a v) fun v =>
    total_andThen (total_targetModes a v) fun v =>
      total_andThen (total_releaseSource v) fun v =>
        total_andThen (total_supportFields a v) total_nextPath

/-- The topology has moved on to something other than its end. -/
def movesOn (e : Answered VidPnCall VidPnCall.Ans) : Bool :=
  match e.call, e.answer with
  | acquireNextPathInfo _, .ok next => next ≠ .noMoreElements
  | _, _ => false

theorem run_andThen_goOn {part : VidPnProgram (Flow EnumVars)}
    {next : EnumVars → VidPnProgram (Flow EnumVars)}
    {events : List (Answered VidPnCall VidPnCall.Ans)} {v : EnumVars}
    (h : Run (andThen part next) events (.done (.goOn v))) :
    ∃ v' first second, events = first ++ second ∧ Run (next v') second (.done (.goOn v)) := by
  obtain ⟨flow, first, second, rfl, -, hsecond⟩ := h.of_bind_done
  cases flow with
  | goOn v' => exact ⟨v', first, second, rfl, hsecond⟩
  | stop v' status => cases hsecond

theorem nextPath_movesOn {v v' : EnumVars} {events : List (Answered VidPnCall VidPnCall.Ans)}
    (h : Run (nextPath v) events (.done (.goOn v'))) : 1 ≤ events.countP movesOn := by
  rw [nextPath] at h
  cases hp : v.path with
  | none =>
    rw [hp] at h
    cases h
  | some last =>
    rw [hp] at h
    obtain ⟨answer, rest, rfl, hrest⟩ := Run.of_call h
    rcases answer with code | next
    · cases hrest
    · obtain ⟨answer, last, rfl, hlast⟩ := Run.of_call hrest
      rcases answer with code | _
      · cases hlast
      · have hmore : next ≠ .noMoreElements := by
          rintro rfl
          cases hlast
        simp [movesOn, hmore]

/-- A turn that goes on has moved on to something. -/
theorem enumPath_movesOn {v v' : EnumVars} {events : List (Answered VidPnCall VidPnCall.Ans)}
    (h : Run (enumPath a v) events (.done (.goOn v'))) : 1 ≤ events.countP movesOn := by
  obtain ⟨v₁, first₁, events₁, rfl, h₁⟩ := run_andThen_goOn h
  obtain ⟨v₂, first₂, events₂, rfl, h₂⟩ := run_andThen_goOn h₁
  obtain ⟨v₃, first₃, events₃, rfl, h₃⟩ := run_andThen_goOn h₂
  obtain ⟨v₄, first₄, events₄, rfl, h₄⟩ := run_andThen_goOn h₃
  have hnext := nextPath_movesOn h₄
  simp only [List.countP_append]
  omega

/-- The loop is cut off only after as many turns as it was given. -/
theorem enumPaths_unfinished {turns : Nat} {v : EnumVars}
    {events : List (Answered VidPnCall VidPnCall.Ans)}
    (h : Run (enumPaths a turns v) events .unfinished) : turns ≤ events.countP movesOn := by
  induction turns generalizing v events with
  | zero => exact Nat.zero_le _
  | succ turns ih =>
    obtain ⟨flow, first, second, rfl, hfirst, hsecond⟩ | ⟨-, h⟩ | ⟨h, -⟩ := h.of_bind
    · cases flow with
      | goOn v' =>
        have hone := enumPath_movesOn a hfirst
        have hrest := ih hsecond
        rw [List.countP_append]
        omega
      | stop v' status => cases hsecond
    · cases h
    · exact absurd rfl (h.ne_unfinished (total_enumPath a v))

theorem total_cleanUp (v : EnumVars) : (cleanUp v).Total :=
  (total_cleanUpPinned _ _).bind fun _ =>
    (total_cleanUpPinned _ _).bind fun _ =>
      (total_cleanUpPath _).bind fun _ =>
        (total_cleanUpPath _).bind fun _ =>
          (total_cleanUpModeSet _ _).bind fun _ => total_cleanUpModeSet _ _

/-- A run that moves on to fewer paths than there are turns comes to its end. -/
theorem enumVidPnCofuncModality_unfinished {turns : Nat}
    {events : List (Answered VidPnCall VidPnCall.Ans)}
    (h : Run (enumVidPnCofuncModality a turns) events .unfinished) :
    turns ≤ events.countP movesOn := by
  obtain ⟨answer, events, rfl, h₁⟩ := Run.of_call h
  rcases answer with code | _
  · cases h₁
  obtain ⟨answer, events, rfl, h₂⟩ := Run.of_call h₁
  rcases answer with code | _
  · cases h₂
  obtain ⟨answer, events, rfl, h₃⟩ := Run.of_call h₂
  rcases answer with code | first
  · cases h₃
  have hfrom : Run (loopFrom a turns first >>= fun r => cleanUp r.1 >>= fun _ => done r.2)
      events .unfinished := h₃
  have hloop : turns ≤ events.countP movesOn := by
    obtain ⟨⟨v, status⟩, loop, rest, rfl, -, hrest⟩ | ⟨-, hout⟩ | ⟨hloop, -⟩ := hfrom.of_bind
    · have htotal : (cleanUp v >>= fun _ => done status).Total :=
        (total_cleanUp v).bind fun _ => trivial
      exact absurd rfl (Run.ne_unfinished hrest htotal)
    · cases hout
    · rw [loopFrom] at hloop
      split_ifs at hloop
      · cases hloop
      · exact enumPaths_unfinished a hloop
  simp only [List.countP_cons]
  omega

/-! ## What a run gives back -/

/-- Every run whose answers are the expected ones keeps custody of the objects, and comes to its
end in as many turns as there are paths. -/
theorem enumVidPnCofuncModality_inCustody (turns : Nat)
    {events : List (Answered VidPnCall VidPnCall.Ans)} {outcome : Outcome Status}
    (hrun : Run (enumVidPnCofuncModality a turns) events outcome)
    (hexpected : ∀ e ∈ events, Expected e) :
    InCustody events outcome ∧ (events.countP movesOn < turns → outcome ≠ .unfinished) := by
  refine ⟨(keeps_enumVidPnCofuncModality a turns).settled hrun hexpected, ?_⟩
  rintro hturns rfl
  have hle := enumVidPnCofuncModality_unfinished a hrun
  omega

/-- A path whose source mode is pinned, and whose target is the pivot. -/
def pinnedPath : VidPnPresentPath where
  vidPnSourceId := 0
  vidPnTargetId := 0
  gammaRampType := .default
  scaling := .identity
  rotation := .identity
  vidPnTargetColorBasis := .scrgb

def targetPivot : EnumVidPnCofuncModality where
  enumPivotType := .vidPnTarget
  pivotSourceId := 0
  pivotTargetId := 0
  modeCount := 0
  modeInfo := fun _ => ⟨0, 0, 0, 0⟩

/-- The calls for this path, at 7, until it is left. -/
def pinnedPathCalls : List (Answered VidPnCall VidPnCall.Ans) :=
  [⟨queryVidPnInterface, .ok ()⟩, ⟨getTopology, .ok ()⟩, ⟨acquireFirstPathInfo, .ok (.path 7)⟩,
    ⟨readPathInfo 7, pinnedPath⟩, ⟨acquireModeSet .source 0, .ok 1⟩,
    ⟨acquirePinnedModeInfo .source 1, .ok (some 2)⟩, ⟨readPathInfo 7, pinnedPath⟩,
    ⟨releaseModeInfo .source 1 2, .ok ()⟩, ⟨releaseModeSet .source 1, .ok ()⟩,
    ⟨readPathInfo 7, pinnedPath⟩]

theorem enumVidPnCofuncModality_inCustody_pinnedPath :
    InCustody (pinnedPathCalls ++
      [⟨acquireNextPathInfo 7, .ok .noMoreElements⟩, ⟨releasePathInfo 7, .ok ()⟩])
      (.done .success) := by
  have hrun : Run (enumVidPnCofuncModality targetPivot 1) (pinnedPathCalls ++
      [⟨acquireNextPathInfo 7, .ok .noMoreElements⟩, ⟨releasePathInfo 7, .ok ()⟩])
      (.done .success) := by
    iterate 12 apply Run.call
    exact Run.done _
  exact (enumVidPnCofuncModality_inCustody targetPivot 1 hrun
    (by simp [pinnedPathCalls, Expected])).1

/-- Where the topology has no path, the first path is read through `NULL`. -/
theorem enumVidPnCofuncModality_not_inCustody :
    ¬∀ (a : EnumVidPnCofuncModality) (turns : Nat)
      (events : List (Answered VidPnCall VidPnCall.Ans)) (outcome : Outcome Status),
        Run (enumVidPnCofuncModality a turns) events outcome → InCustody events outcome := by
  intro h
  have hrun : Run (enumVidPnCofuncModality targetPivot 1)
      [⟨queryVidPnInterface, .ok ()⟩, ⟨getTopology, .ok ()⟩,
        ⟨acquireFirstPathInfo, .ok .datasetIsEmpty⟩] .fault := by
    iterate 3 apply Run.call
    exact Run.fault
  exact (h _ _ _ _ hrun).1 rfl

/-- Where the next path cannot be acquired, the last one is released twice. -/
example : ∃ events, Run (enumVidPnCofuncModality targetPivot 1) events (.done (.os 5)) ∧
    custody vidPnDeeds events = none := by
  refine ⟨pinnedPathCalls ++ [⟨acquireNextPathInfo 7, .error 5⟩, ⟨releasePathInfo 7, .ok ()⟩,
    ⟨releasePathInfo 7, .ok ()⟩], ?_, rfl⟩
  iterate 13 apply Run.call
  exact Run.done _

end VioGpu.Device
