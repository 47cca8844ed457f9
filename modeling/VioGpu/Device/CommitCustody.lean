import VioGpu.Device.VidPnHandles
import Mathlib.Tactic.Abel

/-!
# Who holds the objects in `CommitVidPn`

`CommitVidPn` as a program that calls the OS, with the variables that `CommitVidPnExit` looks at.
The steps of the driver itself, its checks of the fields and what it asks of the device, are
calls too, so that they can have any outcome. `CommitVidPn` of the module on commits tells what
these steps do.
-/

namespace VioGpu.Device

open Lib Program VidPnCall

/-- The variables at `CommitVidPnExit`: whether `pVidPnInterface` is set, whether
`hVidPnTopology` and `pVidPnTopologyInterface` are, the source mode set with the pinned mode, and
`pVidPnPresentPath`. -/
structure CommitVars where
  vidPnInterface : Bool := false
  topology : Bool := false
  source : ModeSetVars := {}
  path : Option Nat := none

/-- The mode is set on a path, which is then released. -/
def commitThePath (v : CommitVars) : VidPnProgram (Flow CommitVars) := do
  let path ← theHandle v.path
  let status ← ask (VidPnCall.isVidPnPathFieldsValid path)
  if status ≠ .success then return .stop v status
  else
    let modeInfo ← theHandle v.source.pinned
    let status ← ask (setSourceModeAndPath modeInfo path)
    if status ≠ .success then return .stop v status
    else
      match ← ask (releasePathInfo path) with
      | .error code => return .stop v (.os code)
      | .ok () => return .goOn { v with path := none }

/-- One turn of the loop over the paths from the source. -/
def commitPath (pathIndex : Nat) (v : CommitVars) : VidPnProgram (Flow CommitVars) := do
  match ← ask (enumPathTargetsFromSource pathIndex) with
  | .error code => return .stop v (.os code)
  | .ok targetId =>
    match ← ask (acquirePathInfo targetId) with
    | .error code => return .stop v (.os code)
    | .ok path => commitThePath { v with path := some path }

/-- The loop over the paths from the source, from a path on. -/
def commitPaths (pathIndex : Nat) : Nat → CommitVars → VidPnProgram (CommitVars × Status)
  | 0, v => return (v, .success)
  | rest + 1, v => do
    match ← commitPath pathIndex v with
    | .goOn v => commitPaths (pathIndex + 1) rest v
    | .stop v status => return (v, status)

/-- From the pinned mode on. -/
def commitPinned (v : CommitVars) : VidPnProgram (CommitVars × Status) := do
  -- the answer is a success, too, where no frame buffer is mapped
  let status ← ask releaseFrameBuffer
  if status ≠ .success then return (v, status)
  else
    match v.source.pinned with
    | none => return (v, .success)
    | some modeInfo => do
      let status ← ask (VidPnCall.isVidPnSourceModeFieldsValid modeInfo)
      if status ≠ .success then return (v, status)
      else
        match ← ask getNumPathsFromSource with
        | .error code => return (v, .os code)
        | .ok numPaths => commitPaths 0 numPaths v

/-- The source mode set and its pinned mode. -/
def commitModes (sourceId : Nat) (v : CommitVars) : VidPnProgram (CommitVars × Status) := do
  match ← ask (acquireModeSet .source sourceId) with
  | .error code => return (v, .os code)
  | .ok modeSet =>
    let source : ModeSetVars := { v.source with modeSet := some modeSet, interface := true }
    match ← ask (acquirePinnedModeInfo .source modeSet) with
    | .error code => return ({ v with source }, .os code)
    | .ok pinned => commitPinned { v with source := { source with pinned } }

/-- `CommitVidPn` up to `CommitVidPnExit`. -/
def commitToExit (pathPoweredOff : Bool) (sourceId : Nat) :
    VidPnProgram (CommitVars × Status) := do
  if pathPoweredOff then return ({}, .success)
  else
    match ← ask queryVidPnInterface with
    | .error code => return ({}, .os code)
    | .ok () =>
      match ← ask getTopology with
      | .error code => return ({ vidPnInterface := true }, .os code)
      | .ok () =>
        let v : CommitVars := { vidPnInterface := true, topology := true }
        match ← ask getNumPaths with
        | .error code => return (v, .os code)
        | .ok numPaths => if numPaths ≠ 0 then commitModes sourceId v else commitPinned v

/-- A step of the cleanup, where an interface is set. -/
def onlyIf (interface : Bool) (release : VidPnProgram Unit) : VidPnProgram Unit :=
  if interface then release else return ()

/-- What follows `CommitVidPnExit`. -/
def commitExit (v : CommitVars) : VidPnProgram Unit := do
  onlyIf v.source.modeSet.isSome (cleanUpPinned .source v.source)
  onlyIf v.vidPnInterface (cleanUpModeSet .source v.source.modeSet)
  onlyIf v.topology (cleanUpPath v.path)

/-- `CommitVidPn` -/
def commitVidPn (pathPoweredOff : Bool) (sourceId : Nat) : VidPnProgram Status := do
  let (v, status) ← commitToExit pathPoweredOff sourceId
  commitExit v
  return status

/-! ## Custody -/

namespace CommitVars

/-- What the variables say is held, in the order of the exit. -/
def owned (v : CommitVars) : Multiset VidPnObject :=
  maybe (v.source.pinned.map (.modeInfo .source)) +
    (maybe (v.source.modeSet.map (.modeSet .source)) + maybe (v.path.map .path))

/-- What is held comes with the interfaces by which it is released. -/
structure Sound (v : CommitVars) : Prop where
  interface : v.source.pinned ≠ none → v.source.interface = true
  modeSet : v.source.pinned ≠ none → v.source.modeSet ≠ none
  vidPnInterface : v.source.modeSet ≠ none → v.vidPnInterface = true
  topology : v.path ≠ none → v.topology = true

end CommitVars

/-- A program that owns what it needs, whatever is answered. -/
abbrev AlwaysKeeps {β : Type} (own : Multiset VidPnObject) (p : VidPnProgram β)
    (post : β → Multiset VidPnObject → Prop) : Prop :=
  Triple vidPnDeeds (fun _ => True) own p post

/-- On the way to the exit the variables describe what is held. -/
def AtCommitExit (r : CommitVars × Status) (own : Multiset VidPnObject) : Prop :=
  own = r.1.owned ∧ r.1.Sound

variable {v : CommitVars}

theorem pinned_mem_owned {i : Nat} (hi : v.source.pinned = some i) :
    .modeInfo .source i ∈ v.owned := by
  simp [CommitVars.owned, hi]

theorem owned_of_path {p : Nat} (hp : v.path = some p) :
    v.owned = .path p ::ₘ { v with path := none }.owned := by
  simp only [CommitVars.owned, hp, Option.map_some, Option.map_none, maybe_some, maybe_none,
    ← Multiset.singleton_add]
  abel

/-- On the way through the loop: a mode is pinned, and its path is held or none is. -/
structure OnTheWay (v : CommitVars) : Prop extends v.Sound where
  pinned : v.source.pinned ≠ none
  topologySet : v.topology = true

theorem OnTheWay.setPath (h : OnTheWay v) (path : Option Nat) :
    OnTheWay { v with path := path } where
  interface := h.interface
  modeSet := h.modeSet
  vidPnInterface := h.vidPnInterface
  topology := fun _ => h.topologySet
  pinned := h.pinned
  topologySet := h.topologySet

/-- At the end of a turn the variables describe what is held, and where the loop goes on no
path is. -/
def EndsTurn : Flow CommitVars → Multiset VidPnObject → Prop
  | .goOn v, own => own = v.owned ∧ OnTheWay v ∧ v.path = none
  | .stop v status, own => AtCommitExit (v, status) own

theorem keeps_commitThePath (h : OnTheWay v) (hpath : v.path ≠ none) :
    AlwaysKeeps v.owned (commitThePath v) EndsTurn := by
  obtain ⟨p, hp⟩ := Option.ne_none_iff_exists'.mp hpath
  obtain ⟨i, hi⟩ := Option.ne_none_iff_exists'.mp h.pinned
  have hmem : .path p ∈ v.owned := by
    rw [owned_of_path hp]
    exact Multiset.mem_cons_self _ _
  apply triple_theHandle hp
  apply Triple.call
  intro status _
  refine ⟨_, .use hmem (.nil _), ?_⟩
  dsimp only [Program.bind]
  split_ifs with hstatus
  · exact .done ⟨rfl, h.toSound⟩
  apply triple_theHandle hi
  apply Triple.call
  intro status _
  refine ⟨_, .use (pinned_mem_owned hi) (.use hmem (.nil _)), ?_⟩
  dsimp only [Program.bind]
  split_ifs with hstatus
  · exact .done ⟨rfl, h.toSound⟩
  apply Triple.call
  intro answer _
  cases answer with
  | error code => exact ⟨_, .keep hmem (.nil _), .done ⟨rfl, h.toSound⟩⟩
  | ok =>
    refine ⟨_, ?_, .done ⟨rfl, h.setPath none, rfl⟩⟩
    rw [owned_of_path hp]
    exact .release (.nil _)

/-- A turn of the loop holds its path until it is released. -/
theorem keeps_commitPath (pathIndex : Nat) (h : OnTheWay v) (hpath : v.path = none) :
    AlwaysKeeps v.owned (commitPath pathIndex v) EndsTurn := by
  apply Triple.call
  intro answer _
  cases answer with
  | error code => exact ⟨_, .nil _, .done ⟨rfl, h.toSound⟩⟩
  | ok targetId =>
    refine ⟨_, .nil _, ?_⟩
    apply Triple.call
    intro answer _
    cases answer with
    | error code => exact ⟨_, .nil _, .done ⟨rfl, h.toSound⟩⟩
    | ok p =>
      refine ⟨_, .acquire (.nil _), ?_⟩
      have howned : .path p ::ₘ v.owned = { v with path := some p }.owned := by
        rw [owned_of_path (v := { v with path := some p }) rfl, ← hpath]
      rw [howned]
      exact keeps_commitThePath (h.setPath _) (by simp)

/-- The loop, by induction on the paths that are left. -/
theorem keeps_commitPaths (pathIndex rest : Nat) (h : OnTheWay v) (hpath : v.path = none) :
    AlwaysKeeps v.owned (commitPaths pathIndex rest v) AtCommitExit := by
  induction rest generalizing pathIndex v with
  | zero => exact .done ⟨rfl, h.toSound⟩
  | succ rest ih =>
    apply (keeps_commitPath pathIndex h hpath).bind
    intro flow own hflow
    cases flow with
    | goOn v' =>
      obtain ⟨rfl, h', hpath'⟩ := hflow
      exact ih (pathIndex + 1) h' hpath'
    | stop v' status => exact .done hflow

theorem keeps_commitPinned (h : v.Sound) (htopology : v.topology = true) (hpath : v.path = none) :
    AlwaysKeeps v.owned (commitPinned v) AtCommitExit := by
  apply Triple.call
  intro status _
  refine ⟨_, .nil _, ?_⟩
  dsimp only [Program.bind]
  split_ifs with hstatus
  · exact .done ⟨rfl, h⟩
  split
  · exact .done ⟨rfl, h⟩
  · rename_i i hi
    apply Triple.call
    intro status _
    refine ⟨_, .use (pinned_mem_owned hi) (.nil _), ?_⟩
    dsimp only [Program.bind]
    split_ifs with hstatus
    · exact .done ⟨rfl, h⟩
    apply Triple.call
    intro answer _
    cases answer with
    | error code => exact ⟨_, .nil _, .done ⟨rfl, h⟩⟩
    | ok numPaths =>
      refine ⟨_, .nil _, keeps_commitPaths 0 numPaths ?_ hpath⟩
      exact { toSound := h, pinned := by simp [hi], topologySet := htopology }

/-- The variables before the source mode set is acquired. -/
def beforeModes : CommitVars where
  vidPnInterface := true
  topology := true

theorem sound_beforeModes : beforeModes.Sound := by
  constructor <;> intro h <;> exact absurd rfl h

theorem sound_of_modeSet {w : ModeSetVars} (hs : w.modeSet ≠ none) (hi : w.interface = true) :
    CommitVars.Sound { beforeModes with source := w } where
  interface := fun _ => hi
  modeSet := fun _ => hs
  vidPnInterface := fun _ => rfl
  topology := fun h => absurd rfl h

theorem keeps_commitModes (sourceId : Nat) :
    AlwaysKeeps 0 (commitModes sourceId beforeModes) AtCommitExit := by
  apply Triple.call
  rintro (code | s) _
  · exact ⟨_, .nil _, .done ⟨rfl, sound_beforeModes⟩⟩
  refine ⟨_, .acquire (.nil _), ?_⟩
  have hmem : .modeSet .source s ∈ (VidPnObject.modeSet .source s ::ₘ 0) :=
    Multiset.mem_cons_self _ _
  have hsound : ∀ pinned, CommitVars.Sound { beforeModes with
      source := { modeSet := some s, interface := true, pinned := pinned } } :=
    fun pinned => sound_of_modeSet (by simp) rfl
  apply Triple.call
  rintro (code | pinned) _
  · exact ⟨_, .use hmem (.nil _), .done ⟨rfl, hsound none⟩⟩
  · have hpinned := keeps_commitPinned (hsound pinned) rfl rfl
    cases pinned with
    | none => exact ⟨_, .use hmem (.nil _), hpinned⟩
    | some i => exact ⟨_, .use hmem (.acquire (.nil _)), hpinned⟩

theorem keeps_commitToExit (pathPoweredOff : Bool) (sourceId : Nat) :
    AlwaysKeeps 0 (commitToExit pathPoweredOff sourceId) AtCommitExit := by
  have hnothing : ∀ (v : CommitVars) (status : Status), v.source = {} → v.path = none →
      AlwaysKeeps 0 (return (v, status)) AtCommitExit := by
    rintro ⟨interface, topology, source, path⟩ status rfl rfl
    refine .done ⟨rfl, ?_⟩
    constructor <;> intro h <;> exact absurd rfl h
  rw [commitToExit]
  split_ifs with hoff
  · exact hnothing _ _ rfl rfl
  apply Triple.call
  rintro (code | _) _
  · exact ⟨0, .nil 0, hnothing _ _ rfl rfl⟩
  refine ⟨0, .nil 0, ?_⟩
  apply Triple.call
  rintro (code | _) _
  · exact ⟨0, .nil 0, hnothing _ _ rfl rfl⟩
  refine ⟨0, .nil 0, ?_⟩
  apply Triple.call
  rintro (code | numPaths) _
  · exact ⟨0, .nil 0, hnothing _ _ rfl rfl⟩
  refine ⟨0, .nil 0, ?_⟩
  have hgoal : AlwaysKeeps 0
      (if numPaths ≠ 0 then commitModes sourceId beforeModes else commitPinned beforeModes)
      AtCommitExit := by
    split_ifs with hpaths
    · exact keeps_commitModes sourceId
    · exact keeps_commitPinned sound_beforeModes rfl rfl
  exact hgoal

/-- Where the interface is not set, there is nothing to release. -/
theorem keeps_onlyIf {interface : Bool} {release : VidPnProgram Unit} {object : Option VidPnObject}
    {own : Multiset VidPnObject} (hset : object ≠ none → interface = true)
    (h : interface = true → AlwaysKeeps (maybe object + own) release fun _ own' => own' = own) :
    AlwaysKeeps (maybe object + own) (onlyIf interface release) fun _ own' => own' = own := by
  rw [onlyIf]
  split_ifs with hi
  · exact h hi
  · have hnone : object = none := not_not.mp fun hne => hi (hset hne)
    refine .done ?_
    rw [hnone]
    exact Multiset.zero_add _

/-- The exit gives back all that the variables hold. -/
theorem keeps_commitExit (h : v.Sound) :
    AlwaysKeeps v.owned (commitExit v) fun _ own => own = 0 := by
  have hsome : ∀ {β : Type} {f : Nat → β} {o : Option Nat}, o.map f ≠ none → o ≠ none := by
    rintro β f o hne rfl
    exact hne rfl
  have hpinned : v.source.pinned ≠ none → v.source.modeSet.isSome = true :=
    fun hne => Option.isSome_iff_ne_none.mpr (h.modeSet hne)
  apply (keeps_onlyIf (fun hne => hpinned (hsome hne)) fun hs => ?_).bind
  · rintro _ _ rfl
    apply (keeps_onlyIf (fun hne => h.vidPnInterface (hsome hne)) fun _ =>
      triple_cleanUpModeSet v.source.modeSet).bind
    rintro _ _ rfl
    rw [← Multiset.add_zero (maybe _)]
    exact keeps_onlyIf (fun hne => h.topology (hsome hne)) fun _ => triple_cleanUpPath v.path
  · obtain ⟨s, hs⟩ := Option.isSome_iff_exists.mp hs
    exact triple_cleanUpPinned h.interface fun _ => ⟨s, hs, by simp [hs]⟩

theorem keeps_commitVidPn (pathPoweredOff : Bool) (sourceId : Nat) :
    AlwaysKeeps 0 (commitVidPn pathPoweredOff sourceId) fun _ own => own = 0 := by
  apply (keeps_commitToExit pathPoweredOff sourceId).bind
  rintro ⟨v, status⟩ own ⟨rfl, h⟩
  apply (keeps_commitExit h).bind
  rintro _ _ rfl
  exact .done rfl

/-! ## Every run -/

theorem total_commitThePath (v : CommitVars) : (commitThePath v).Total := by
  apply (total_theHandle _).bind
  intro p status
  dsimp only [Program.bind]
  split_ifs
  · trivial
  · apply (total_theHandle _).bind
    intro i status
    dsimp only [Program.bind]
    split_ifs
    · trivial
    · rintro (code | _) <;> trivial

theorem total_commitPaths (pathIndex rest : Nat) (v : CommitVars) :
    (commitPaths pathIndex rest v).Total := by
  induction rest generalizing pathIndex v with
  | zero => trivial
  | succ rest ih =>
    have hpath : (commitPath pathIndex v).Total := by
      rintro (code | targetId)
      · trivial
      rintro (code | p)
      · trivial
      exact total_commitThePath _
    apply hpath.bind
    rintro (v' | ⟨v', status⟩)
    · exact ih _ _
    · trivial

theorem total_commitPinned (v : CommitVars) : (commitPinned v).Total := by
  intro status
  dsimp only [Program.bind]
  split_ifs
  · trivial
  · split
    · trivial
    · intro status
      dsimp only [Program.bind]
      split_ifs
      · trivial
      · rintro (code | numPaths)
        · trivial
        · exact total_commitPaths _ _ _

theorem total_commitToExit (pathPoweredOff : Bool) (sourceId : Nat) :
    (commitToExit pathPoweredOff sourceId).Total := by
  rw [commitToExit]
  split_ifs
  · trivial
  rintro (code | _)
  · trivial
  rintro (code | _)
  · trivial
  rintro (code | numPaths)
  · trivial
  have hmodes : (commitModes sourceId beforeModes).Total := by
    rintro (code | s)
    · trivial
    rintro (code | pinned)
    · trivial
    exact total_commitPinned _
  have hgoal : (if numPaths ≠ 0 then commitModes sourceId beforeModes
      else commitPinned beforeModes).Total := by
    split_ifs
    · exact hmodes
    · exact total_commitPinned _
  exact hgoal

theorem total_onlyIf {interface : Bool} {release : VidPnProgram Unit} (h : release.Total) :
    (onlyIf interface release).Total := by
  rw [onlyIf]
  split_ifs
  · exact h
  · trivial

theorem total_commitVidPn (pathPoweredOff : Bool) (sourceId : Nat) :
    (commitVidPn pathPoweredOff sourceId).Total := by
  apply (total_commitToExit _ _).bind
  rintro ⟨v, status⟩
  have hexit : (commitExit v).Total :=
    (total_onlyIf (total_cleanUpPinned _ _)).bind fun _ =>
      (total_onlyIf (total_cleanUpModeSet _ _)).bind fun _ => total_onlyIf (total_cleanUpPath _)
  exact hexit.bind fun _ => trivial

/-- `CommitVidPn` returns, whatever the callbacks and its own steps answer; it has then released
each object that it acquired, or tried to, and nothing that it did not hold. -/
theorem commitVidPn_inCustody (pathPoweredOff : Bool) (sourceId : Nat)
    {events : List (Answered VidPnCall VidPnCall.Ans)} {outcome : Outcome Status}
    (hrun : Run (commitVidPn pathPoweredOff sourceId) events outcome) :
    (∃ status, outcome = .done status) ∧ InCustody events outcome := by
  have hcustody : InCustody events outcome :=
    (keeps_commitVidPn pathPoweredOff sourceId).settled hrun fun _ _ => trivial
  refine ⟨?_, hcustody⟩
  cases outcome with
  | done status => exact ⟨status, rfl⟩
  | fault => exact absurd rfl hcustody.1
  | unfinished => exact absurd rfl (hrun.ne_unfinished (total_commitVidPn _ _))

/-- A path with a gamma ramp stops the loop; at the exit its release fails. -/
theorem commitVidPn_inCustody_gammaRamp :
    InCustody [⟨queryVidPnInterface, .ok ()⟩, ⟨getTopology, .ok ()⟩, ⟨getNumPaths, .ok 1⟩,
      ⟨acquireModeSet .source 0, .ok 1⟩, ⟨acquirePinnedModeInfo .source 1, .ok (some 2)⟩,
      ⟨releaseFrameBuffer, .success⟩, ⟨VidPnCall.isVidPnSourceModeFieldsValid 2, .success⟩,
      ⟨getNumPathsFromSource, .ok 1⟩, ⟨enumPathTargetsFromSource 0, .ok 0⟩,
      ⟨acquirePathInfo 0, .ok 3⟩,
      ⟨VidPnCall.isVidPnPathFieldsValid 3, .graphicsGammaRampNotSupported⟩,
      ⟨releaseModeInfo .source 1 2, .ok ()⟩, ⟨releaseModeSet .source 1, .ok ()⟩,
      ⟨releasePathInfo 3, .error 5⟩] (.done .graphicsGammaRampNotSupported) := by
  apply (commitVidPn_inCustody false 0 _).2
  iterate 14 apply Run.call
  exact Run.done _

end VioGpu.Device
