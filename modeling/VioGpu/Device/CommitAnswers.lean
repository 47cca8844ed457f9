import VioGpu.Device.CommitCustody

/-!
# The answers of a commit

`CommitVidPn` is told twice: by `Dod.commitVidPn`, which is given all answers of the OS at the
start and computes what the device makes of them, and by the program `commitVidPn`, which calls
the OS. Here the program is run against an OS and a device that give the answers of a commit. Both
come to the same status and the same device, and acquire and release in the same order
(`commitVidPn_returns`).
-/

namespace VioGpu.Device

open Lib Program VidPnCall

variable {δ ω : Type}

/-- The path with this index from the source. The driver knows it by its index. -/
def CommitVidPn.path? (c : CommitVidPn ω) (pathIndex : Nat) : Option (PathAnswers ω) :=
  match c.paths with
  | .error _ => none
  | .ok paths => paths[pathIndex]?

/-- The path that was acquired, with the outcomes of the device's steps for it. -/
def CommitVidPn.info? (c : CommitVidPn ω) (pathIndex : Nat) : Option (VidPnPresentPath × ω) := do
  let p ← c.path? pathIndex
  match p.info with
  | .error _ => none
  | .ok path => some (path, p.outcomes)

def CommitVidPn.pinnedMode? (c : CommitVidPn ω) : Option VidPnSourceMode :=
  match c.pinned with
  | .error _ => none
  | .ok pinned => pinned

/-- A step of the device with a status; where it goes through `NULL` it has no answer. -/
def deviceStep (d : Dod δ) (step : Option (Status × Dod δ)) : Status × Dod δ :=
  step.getD (.unsuccessful, d)

/-- The answers, and what the device does. What is not asked for is refused. -/
def CommitVidPn.answer (hw : HwDeviceInterface δ ω) (c : CommitVidPn ω) (d : Dod δ) :
    (call : VidPnCall) → call.Ans × Dod δ
  | queryVidPnInterface => (c.vidPnInterface, d)
  | getTopology => (c.topology, d)
  | getNumPaths => (c.numPaths, d)
  | getNumPathsFromSource => (c.paths.map List.length, d)
  | enumPathTargetsFromSource pathIndex =>
    (((c.path? pathIndex).elim (.error 0) PathAnswers.target).map fun _ => pathIndex, d)
  | acquirePathInfo pathIndex =>
    (((c.path? pathIndex).elim (.error 0) PathAnswers.info).map fun _ => pathIndex, d)
  | releasePathInfo pathIndex => ((c.path? pathIndex).elim (.error 0) PathAnswers.release, d)
  | acquireModeSet .source sourceId => (c.sourceModeSet.map fun _ => sourceId, d)
  | acquirePinnedModeInfo .source sourceId => (c.pinned.map (Option.map fun _ => sourceId), d)
  | releaseFrameBuffer => deviceStep d do
      let (status, device) ← Dod.releaseOld hw d.device c.released
      some (status, { d with device })
  | VidPnCall.isVidPnSourceModeFieldsValid _ =>
    (c.pinnedMode?.elim .unsuccessful Device.isVidPnSourceModeFieldsValid, d)
  | VidPnCall.isVidPnPathFieldsValid pathIndex =>
    ((c.info? pathIndex).elim .unsuccessful fun p => Device.isVidPnPathFieldsValid p.1, d)
  | setSourceModeAndPath _ pathIndex => deviceStep d do
      let pinned ← c.pinnedMode?
      let (path, outcomes) ← c.info? pathIndex
      Dod.setSourceModeAndPath hw d c.modes pinned path outcomes
  | releaseModeInfo _ _ _ => (.ok (), d)
  | releaseModeSet _ _ => (.ok (), d)
  | acquireFirstPathInfo => (.error 0, d)
  | acquireNextPathInfo _ => (.error 0, d)
  | readPathInfo _ => (⟨0, 0, .uninitialized, .uninitialized, .uninitialized, .uninitialized⟩, d)
  | updatePathSupportInfo _ => (.error 0, d)
  | acquireModeSet .target _ => (.error 0, d)
  | acquirePinnedModeInfo .target _ => (.error 0, d)
  | createNewModeSet _ _ => (.error 0, d)
  | assignModeSet _ _ _ => (.error 0, d)
  | createNewModeInfo _ _ => (.error 0, d)
  | writeModeInfo _ _ _ => ((), d)
  | addMode _ _ _ => (.failed 0, d)

/-- The calls that acquire and release. -/
def VidPnCall.osCall : VidPnCall → Option OsCall
  | acquireModeSet _ _ => some .acquireSourceModeSet
  | releaseModeSet _ _ => some .releaseSourceModeSet
  | acquirePinnedModeInfo _ _ => some .acquirePinnedModeInfo
  | releaseModeInfo _ _ _ => some .releaseModeInfo
  | acquirePathInfo _ => some .acquirePathInfo
  | releasePathInfo _ => some .releasePathInfo
  | _ => none

def osCalls (events : List (Answered VidPnCall VidPnCall.Ans)) : List OsCall :=
  events.filterMap fun e => e.call.osCall

theorem osCalls_cons (e : Answered VidPnCall VidPnCall.Ans)
    (events : List (Answered VidPnCall VidPnCall.Ans)) :
    osCalls (e :: events) = e.call.osCall.toList ++ osCalls events := by
  unfold osCalls
  rw [List.filterMap_cons]
  cases e.call.osCall <;> rfl

theorem osCalls_append (l m : List (Answered VidPnCall VidPnCall.Ans)) :
    osCalls (l ++ m) = osCalls l ++ osCalls m := List.filterMap_append

/-! ## The way to the exit -/

/-- What the variables say is held is what is yet to be released. -/
structure CommitVars.Describes (v : CommitVars) (e : Dod.AtExit δ) : Prop where
  modeSet : v.source.modeSet.isSome = e.modeSet
  pinned : v.source.pinned.isSome = e.pinned
  path : v.path.isSome = e.path

variable {hw : HwDeviceInterface δ ω} {c : CommitVidPn ω} {d : Dod δ} {v : CommitVars}

/-- The program comes to the exit as `e` says, after calls that acquire and release as `e` says. -/
def ReachesExit (hw : HwDeviceInterface δ ω) (c : CommitVidPn ω)
    (p : VidPnProgram (CommitVars × Status)) (d : Dod δ) (calls : List OsCall)
    (e : Dod.AtExit δ) : Prop :=
  ∃ trace v, Returns (c.answer hw) p d trace (v, e.status) e.dod ∧ v.Describes e ∧
    e.calls = calls ++ osCalls trace

theorem ReachesExit.done {status : Status} {calls : List OsCall} {modeSet pinned path : Bool}
    (hmodeSet : v.source.modeSet.isSome = modeSet) (hpinned : v.source.pinned.isSome = pinned)
    (hpath : v.path.isSome = path) : ReachesExit hw c (.done (v, status)) d calls
      ⟨status, d, modeSet, pinned, path, calls⟩ :=
  ⟨[], v, .done _ _, ⟨hmodeSet, hpinned, hpath⟩, (List.append_nil _).symm⟩

section Calls

variable {asked : VidPnCall} {answer : asked.Ans} {d' : Dod δ}
  {next : asked.Ans → VidPnProgram (CommitVars × Status)} {calls : List OsCall} {e : Dod.AtExit δ}

/-- A call that acquires or releases. -/
theorem ReachesExit.osCall {osCall : OsCall} (hanswer : c.answer hw d asked = (answer, d'))
    (hasked : asked.osCall = some osCall)
    (h : ReachesExit hw c (next answer) d' (calls ++ [osCall]) e) :
    ReachesExit hw c (.call asked next) d calls e := by
  obtain ⟨trace, v, hreturns, hdescribes, hcalls⟩ := h
  refine ⟨_, v, .call hanswer hreturns, hdescribes, ?_⟩
  rw [hcalls, List.append_assoc, osCalls_cons, hasked]
  rfl

/-- Another call. -/
theorem ReachesExit.call (hanswer : c.answer hw d asked = (answer, d'))
    (hasked : asked.osCall = none) (h : ReachesExit hw c (next answer) d' calls e) :
    ReachesExit hw c (.call asked next) d calls e := by
  obtain ⟨trace, v, hreturns, hdescribes, hcalls⟩ := h
  refine ⟨_, v, .call hanswer hreturns, hdescribes, ?_⟩
  rw [hcalls, osCalls_cons, hasked]
  rfl

end Calls

theorem path?_of_drop {all paths : List (PathAnswers ω)} {p : PathAnswers ω} {pathIndex : Nat}
    (hpaths : c.paths = .ok all) (hdrop : all.drop pathIndex = p :: paths) :
    c.path? pathIndex = some p := by
  have hget : (all.drop pathIndex)[0]? = some p := by rw [hdrop]; rfl
  rw [List.getElem?_drop, Nat.add_zero] at hget
  simp only [CommitVidPn.path?, hpaths, hget]

section Path

variable {p : PathAnswers ω} {path : VidPnPresentPath} {pathIndex : Nat}

theorem answer_target (hp : c.path? pathIndex = some p) :
    c.answer hw d (enumPathTargetsFromSource pathIndex) =
      (p.target.map fun _ => pathIndex, d) := by
  simp only [CommitVidPn.answer, hp, Option.elim_some]

theorem answer_info (hp : c.path? pathIndex = some p) :
    c.answer hw d (acquirePathInfo pathIndex) = (p.info.map fun _ => pathIndex, d) := by
  simp only [CommitVidPn.answer, hp, Option.elim_some]

theorem answer_release (hp : c.path? pathIndex = some p) :
    c.answer hw d (releasePathInfo pathIndex) = (p.release, d) := by
  simp only [CommitVidPn.answer, hp, Option.elim_some]

theorem info?_of_path? (hp : c.path? pathIndex = some p) (hinfo : p.info = .ok path) :
    c.info? pathIndex = some (path, p.outcomes) := by
  simp [CommitVidPn.info?, hp, hinfo]

theorem answer_pathFields (hinfo : c.info? pathIndex = some (path, p.outcomes)) :
    c.answer hw d (VidPnCall.isVidPnPathFieldsValid pathIndex) =
      (Device.isVidPnPathFieldsValid path, d) := by
  simp only [CommitVidPn.answer, hinfo, Option.elim_some]

theorem answer_setSourceModeAndPath {pinned : VidPnSourceMode} {result : Status × Dod δ}
    (hpinned : c.pinnedMode? = some pinned) (hinfo : c.info? pathIndex = some (path, p.outcomes))
    (h : Dod.setSourceModeAndPath hw d c.modes pinned path p.outcomes = some result)
    (modeInfo : Nat) : c.answer hw d (setSourceModeAndPath modeInfo pathIndex) = result := by
  simp [CommitVidPn.answer, deviceStep, hpinned, hinfo, h]

end Path

/-- The mode is set on a path that was acquired; `onward` and `next` are the paths after it. -/
theorem commitThePath_reachesExit {p : PathAnswers ω} {path : VidPnPresentPath}
    {pathIndex i : Nat} {pinned : VidPnSourceMode} {calls : List OsCall} {e : Dod.AtExit δ}
    {onward : Dod δ → Option (Dod.AtExit δ)}
    {next : CommitVars → VidPnProgram (CommitVars × Status)}
    (hp : c.path? pathIndex = some p) (hinfo : c.info? pathIndex = some (path, p.outcomes))
    (hpinned : c.pinnedMode? = some pinned) (hmodeSet : v.source.modeSet.isSome = true)
    (hmode : v.source.pinned = some i) (hpath : v.path = some pathIndex)
    (h : (if Device.isVidPnPathFieldsValid path ≠ .success then
        some ⟨Device.isVidPnPathFieldsValid path, d, true, true, true, calls⟩
      else do
        let (status, d) ← Dod.setSourceModeAndPath hw d c.modes pinned path p.outcomes
        if status ≠ .success then some ⟨status, d, true, true, true, calls⟩
        else
          match p.release with
          | .error code => some ⟨.os code, d, true, true, true, calls ++ [.releasePathInfo]⟩
          | .ok () => onward d) = some e)
    (hnext : ∀ d', onward d' = some e →
      ReachesExit hw c (next { v with path := none }) d' (calls ++ [.releasePathInfo]) e) :
    ReachesExit hw c (do
      match ← commitThePath v with
      | .goOn v => next v
      | .stop v status => return (v, status)) d calls e := by
  have hpinned' : v.source.pinned.isSome = true := by rw [hmode]; rfl
  have hpath' : v.path.isSome = true := by rw [hpath]; rfl
  rw [commitThePath, hpath, hmode]
  apply ReachesExit.call (answer_pathFields hinfo) rfl
  dsimp only [Program.bind]
  split_ifs at h ⊢ with hfields
  · cases h
    exact .done hmodeSet hpinned' hpath'
  obtain ⟨⟨status, d'⟩, hset, h⟩ := Option.bind_eq_some_iff.mp h
  apply ReachesExit.call (answer_setSourceModeAndPath hpinned hinfo hset i) rfl
  dsimp only [Program.bind] at h ⊢
  split_ifs at h ⊢ with hstatus
  · cases h
    exact .done hmodeSet hpinned' hpath'
  apply ReachesExit.osCall (answer_release hp) rfl
  cases hrelease : p.release with
  | error code =>
    rw [hrelease] at h
    cases h
    exact .done hmodeSet hpinned' hpath'
  | ok _ =>
    rw [hrelease] at h
    exact hnext d' h

/-- The loop, by induction on the paths that are left. -/
theorem commitPaths_reachesExit {all paths : List (PathAnswers ω)} {pinned : VidPnSourceMode}
    (hpaths : c.paths = .ok all) (hpinned : c.pinnedMode? = some pinned)
    (hmodeSet : v.source.modeSet.isSome = true) (hmode : v.source.pinned.isSome = true)
    (hpath : v.path.isSome = false) {pathIndex : Nat} (hdrop : all.drop pathIndex = paths)
    {calls : List OsCall} {e : Dod.AtExit δ}
    (h : Dod.commitPaths hw c.modes pinned d calls paths = some e) :
    ReachesExit hw c (commitPaths pathIndex paths.length v) d calls e := by
  induction paths generalizing pathIndex d calls v with
  | nil =>
    cases h
    exact .done hmodeSet hmode hpath
  | cons p paths ih =>
    have hp := path?_of_drop hpaths hdrop
    have hdrop' : all.drop (pathIndex + 1) = paths := by
      rw [← List.drop_drop, hdrop]
      rfl
    rw [Dod.commitPaths] at h
    apply ReachesExit.call (answer_target hp) rfl
    cases htarget : p.target with
    | error code =>
      rw [htarget] at h
      cases h
      exact .done hmodeSet hmode hpath
    | ok _ =>
      apply ReachesExit.osCall (answer_info hp) rfl
      cases hinfo : p.info with
      | error code =>
        simp only [htarget, hinfo] at h
        cases h
        exact .done hmodeSet hmode hpath
      | ok path =>
        simp only [htarget, hinfo] at h
        obtain ⟨i, hi⟩ := Option.isSome_iff_exists.mp hmode
        exact commitThePath_reachesExit (v := { v with path := some pathIndex }) hp
          (info?_of_path? hp hinfo) hpinned hmodeSet hi rfl h fun d' h' =>
            ih (v := { v with path := none }) hmodeSet hmode rfl hdrop' h'

theorem answer_releaseFrameBuffer {status : Status} {device : δ}
    (h : Dod.releaseOld hw d.device c.released = some (status, device)) :
    c.answer hw d releaseFrameBuffer = (status, { d with device }) := by
  simp [CommitVidPn.answer, deviceStep, h]

theorem answer_modeFields {pinned : VidPnSourceMode} (hpinned : c.pinnedMode? = some pinned)
    (modeInfo : Nat) : c.answer hw d (VidPnCall.isVidPnSourceModeFieldsValid modeInfo) =
      (Device.isVidPnSourceModeFieldsValid pinned, d) := by
  simp only [CommitVidPn.answer, hpinned, Option.elim_some]

/-- From the pinned mode on. -/
theorem commitPinned_reachesExit {pinned : Option VidPnSourceMode} {modeSet : Bool}
    {calls : List OsCall} {e : Dod.AtExit δ} (hmodeSet : v.source.modeSet.isSome = modeSet)
    (hmode : v.source.pinned.isSome = pinned.isSome) (hpath : v.path.isSome = false)
    (hpinned : pinned.isSome → modeSet = true ∧ c.pinnedMode? = pinned)
    (h : Dod.commitPinned hw d c modeSet calls pinned = some e) :
    ReachesExit hw c (commitPinned v) d calls e := by
  obtain ⟨⟨status, device⟩, hreleased, h⟩ := Option.bind_eq_some_iff.mp h
  apply ReachesExit.call (answer_releaseFrameBuffer hreleased) rfl
  dsimp only [Program.bind] at h ⊢
  split_ifs at h ⊢ with hstatus
  · cases h
    exact .done hmodeSet hmode hpath
  cases pinned with
  | none =>
    cases h
    have hnone : v.source.pinned = none :=
      Option.isNone_iff_eq_none.mp (Option.isSome_eq_false_iff.mp hmode)
    rw [hnone]
    exact .done hmodeSet hmode hpath
  | some sourceMode =>
    obtain ⟨i, hi⟩ := Option.isSome_iff_exists.mp hmode
    obtain ⟨rfl, hpinnedMode⟩ := hpinned rfl
    rw [hi]
    apply ReachesExit.call (answer_modeFields hpinnedMode i) rfl
    dsimp only [Program.bind] at h ⊢
    split_ifs at h ⊢ with hfields
    · cases h
      exact .done hmodeSet hmode hpath
    have hnum : c.answer hw { d with device } getNumPathsFromSource =
        (c.paths.map List.length, { d with device }) := rfl
    apply ReachesExit.call hnum rfl
    cases hpaths : c.paths with
    | error code =>
      rw [hpaths] at h
      cases h
      exact .done hmodeSet hmode hpath
    | ok paths =>
      rw [hpaths] at h
      exact commitPaths_reachesExit hpaths hpinnedMode hmodeSet hmode hpath rfl h

/-- The source mode set and its pinned mode. -/
theorem commitModes_reachesExit {e : Dod.AtExit δ} (sourceId : Nat)
    (hpath : v.path.isSome = false) (hmodeSet : v.source.modeSet.isSome = false)
    (hmode : v.source.pinned.isSome = false)
    (h : (match c.sourceModeSet, c.pinned with
      | .error code, _ => some ⟨.os code, d, false, false, false, [.acquireSourceModeSet]⟩
      | .ok (), .error code =>
        some ⟨.os code, d, true, false, false, [.acquireSourceModeSet, .acquirePinnedModeInfo]⟩
      | .ok (), .ok pinned => Dod.commitPinned hw d c true
          [.acquireSourceModeSet, .acquirePinnedModeInfo] pinned) = some e) :
    ReachesExit hw c (commitModes sourceId v) d [] e := by
  have hset : c.answer hw d (acquireModeSet .source sourceId) =
      (c.sourceModeSet.map fun _ => sourceId, d) := rfl
  apply ReachesExit.osCall hset rfl
  cases hmodes : c.sourceModeSet with
  | error code =>
    rw [hmodes] at h
    cases h
    exact .done hmodeSet hmode hpath
  | ok _ =>
    have hinfo : c.answer hw d (acquirePinnedModeInfo .source sourceId) =
        (c.pinned.map (Option.map fun _ => sourceId), d) := rfl
    apply ReachesExit.osCall hinfo rfl
    cases hpinned : c.pinned with
    | error code =>
      rw [hmodes, hpinned] at h
      cases h
      exact .done rfl hmode hpath
    | ok pinned =>
      rw [hmodes, hpinned] at h
      have hpinned' : c.pinnedMode? = pinned := by rw [CommitVidPn.pinnedMode?, hpinned]
      exact commitPinned_reachesExit rfl (by simp) hpath (fun _ => ⟨rfl, hpinned'⟩) h

theorem commitToExit_reachesExit {e : Dod.AtExit δ} (sourceId : Nat)
    (h : Dod.commitToExit hw d c = some e) :
    ReachesExit hw c (commitToExit c.pathPoweredOff sourceId) d [] e := by
  rw [Dod.commitToExit] at h
  rw [commitToExit]
  split_ifs at h ⊢ with hoff
  · cases h
    exact .done rfl rfl rfl
  have hinterface : c.answer hw d queryVidPnInterface = (c.vidPnInterface, d) := rfl
  apply ReachesExit.call hinterface rfl
  cases hi : c.vidPnInterface with
  | error code =>
    rw [hi] at h
    cases h
    exact .done rfl rfl rfl
  | ok _ =>
    have htopology : c.answer hw d getTopology = (c.topology, d) := rfl
    apply ReachesExit.call htopology rfl
    cases ht : c.topology with
    | error code =>
      rw [hi, ht] at h
      cases h
      exact .done rfl rfl rfl
    | ok _ =>
      have hnum : c.answer hw d getNumPaths = (c.numPaths, d) := rfl
      apply ReachesExit.call hnum rfl
      cases hn : c.numPaths with
      | error code =>
        rw [hi, ht, hn] at h
        cases h
        exact .done rfl rfl rfl
      | ok numPaths =>
        rw [hi, ht, hn] at h
        cases numPaths with
        | zero => exact commitPinned_reachesExit rfl rfl rfl (by simp) h
        | succ numPaths => exact commitModes_reachesExit sourceId rfl rfl rfl h

/-! ## The exit -/

/-- A part of the exit leaves the device as it is, and makes these calls. -/
def CleansUp (hw : HwDeviceInterface δ ω) (c : CommitVidPn ω) (d : Dod δ) (p : VidPnProgram Unit)
    (calls : List OsCall) : Prop :=
  ∃ trace, Returns (c.answer hw) p d trace () d ∧ osCalls trace = calls

theorem CleansUp.bind {p q : VidPnProgram Unit} {calls calls' : List OsCall}
    (h : CleansUp hw c d p calls) (hq : CleansUp hw c d q calls') :
    CleansUp hw c d (p >>= fun _ => q) (calls ++ calls') := by
  obtain ⟨trace, hreturns, rfl⟩ := h
  obtain ⟨trace', hreturns', rfl⟩ := hq
  exact ⟨_, hreturns.bind hreturns', osCalls_append _ _⟩

theorem CleansUp.onlyIf {interface : Bool} {p : VidPnProgram Unit} {calls : List OsCall}
    (h : interface = true → CleansUp hw c d p calls) (hnone : interface = false → calls = []) :
    CleansUp hw c d (onlyIf interface p) calls := by
  cases interface with
  | true => exact h rfl
  | false =>
    rw [hnone rfl]
    exact ⟨[], .done _ _, rfl⟩

theorem cleansUp_pinned {w : ModeSetVars} {handle : Nat} (hmodeSet : w.modeSet = some handle)
    (hinterface : w.pinned ≠ none → w.interface = true) :
    CleansUp hw c d (cleanUpPinned .source w)
      (if w.pinned.isSome then [.releaseModeInfo] else []) := by
  obtain ⟨modeSet, interface, pinned⟩ := w
  cases hmodeSet
  cases pinned with
  | none => cases interface <;> exact ⟨[], .done _ _, rfl⟩
  | some i =>
    obtain rfl : interface = true := hinterface (by simp)
    exact ⟨_, .call rfl (.done _ _), rfl⟩

theorem cleansUp_modeSet (modeSet : Option Nat) :
    CleansUp hw c d (cleanUpModeSet .source modeSet)
      (if modeSet.isSome then [.releaseSourceModeSet] else []) := by
  cases modeSet with
  | none => exact ⟨[], .done _ _, rfl⟩
  | some handle => exact ⟨_, .call rfl (.done _ _), rfl⟩

theorem cleansUp_path (path : Option Nat) :
    CleansUp hw c d (cleanUpPath path) (if path.isSome then [.releasePathInfo] else []) := by
  cases path with
  | none => exact ⟨[], .done _ _, rfl⟩
  | some handle => exact ⟨_, .call rfl (.done _ _), rfl⟩

theorem commitExit_cleansUp (h : v.Sound) : CleansUp hw c d (commitExit v)
    ((if v.source.modeSet.isSome && v.source.pinned.isSome then [.releaseModeInfo] else []) ++
      ((if v.source.modeSet.isSome then [.releaseSourceModeSet] else []) ++
        if v.path.isSome then [.releasePathInfo] else [])) := by
  apply CleansUp.bind
  · apply CleansUp.onlyIf
    · intro hs
      obtain ⟨handle, hhandle⟩ := Option.isSome_iff_exists.mp hs
      rw [hs, Bool.true_and]
      exact cleansUp_pinned hhandle h.interface
    · intro hs
      rw [hs, Bool.false_and]
      rfl
  · apply CleansUp.bind
    · apply CleansUp.onlyIf fun _ => cleansUp_modeSet v.source.modeSet
      intro hinterface
      cases hs : v.source.modeSet with
      | none => rfl
      | some handle => simp [h.vidPnInterface (by simp [hs])] at hinterface
    · apply CleansUp.onlyIf fun _ => cleansUp_path v.path
      intro htopology
      cases hp : v.path with
      | none => rfl
      | some handle => simp [h.topology (by simp [hp])] at htopology

/-! ## The whole function -/

/-- **The two tellings of `CommitVidPn` agree**: with the answers of the commit, the program
returns the status, leaves the device, and makes the calls that acquire and release. -/
theorem commitVidPn_returns {status : Status} {calls : List OsCall} {d' : Dod δ} (sourceId : Nat)
    (h : Dod.commitVidPn hw d c = some (status, calls, d')) :
    ∃ trace, Returns (c.answer hw) (commitVidPn c.pathPoweredOff sourceId) d trace status d' ∧
      osCalls trace = calls := by
  obtain ⟨e, he, h⟩ := Option.bind_eq_some_iff.mp h
  cases h
  obtain ⟨trace, v, hreturns, hdescribes, hcalls⟩ := commitToExit_reachesExit sourceId he
  obtain ⟨own, -, hsound⟩ :=
    (keeps_commitToExit c.pathPoweredOff sourceId).post_of_run hreturns.run fun _ _ => trivial
  have hcleansUp : CleansUp hw c e.dod (commitExit v) _ := commitExit_cleansUp hsound
  obtain ⟨trace', hexit, hreleases⟩ := hcleansUp
  refine ⟨_, hreturns.bind (hexit.bind (.done _ _)), ?_⟩
  rw [osCalls_append, osCalls_append, hreleases, ← List.nil_append (osCalls trace), ← hcalls,
    hdescribes.modeSet, hdescribes.pinned, hdescribes.path, Dod.AtExit.cleanUp]
  simp [osCalls]

/-- In a commit the objects of the OS are in custody. -/
theorem commitVidPn_inCustody_of_commit {status : Status} {calls : List OsCall} {d' : Dod δ}
    (h : Dod.commitVidPn hw d c = some (status, calls, d')) :
    ∃ trace, osCalls trace = calls ∧ InCustody trace (.done status) := by
  obtain ⟨trace, hreturns, hcalls⟩ := commitVidPn_returns 0 h
  exact ⟨trace, hcalls,
    (keeps_commitVidPn c.pathPoweredOff 0).settled hreturns.run fun _ _ => trivial⟩

end VioGpu.Device
