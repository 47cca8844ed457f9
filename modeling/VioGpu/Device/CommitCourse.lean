import VioGpu.Device.Commit

/-!
# The course of a commit

`CommitVidPn` has about ten exits, but the answers of the OS alone decide which of them it takes,
as long as the device fails nothing. `CommitVidPn.course` reads off the answers how far the call
comes, `tries` the mode changes of its loop, and `changeModes` runs these one after the other up to
the first that fails. `commitVidPn_course` says that the call does just that, for either device.
-/

namespace VioGpu.Device

variable {δ ω : Type}

/-- How far the answers of the OS let `CommitVidPn` come. -/
inductive Course (ω : Type)
  /-- it ends before the old frame buffer is released -/
  | ends (success : Bool)
  /-- it ends after that, without a mode change -/
  | releases (success : Bool)
  /-- it comes to the loop over the paths -/
  | loops (m : VidPnSourceMode) (paths : List (PathAnswers ω))

/-- The course of a commit with these answers. -/
def CommitVidPn.course (c : CommitVidPn ω) : Course ω :=
  if c.pathPoweredOff then .ends true
  else
    match c.vidPnInterface, c.topology, c.numPaths with
    | .ok (), .ok (), .ok 0 => .releases true
    | .ok (), .ok (), .ok (_ + 1) =>
      match c.sourceModeSet, c.pinned with
      | .ok (), .ok none => .releases true
      | .ok (), .ok (some m) =>
        if isVidPnSourceModeFieldsValid m = .success then
          match c.paths with
          | .ok paths => .loops m paths
          | .error _ => .releases false
        else .releases false
      | _, _ => .ends false
    | _, _, _ => .ends false

/-- The path of the answers, if it is one for which the loop calls `SetSourceModeAndPath`. -/
def PathAnswers.valid? (p : PathAnswers ω) : Option VidPnPresentPath :=
  match p.target, p.info with
  | .ok (), .ok path => if isVidPnPathFieldsValid path = .success then some path else none
  | _, _ => none

/-- The mode changes of the loop, if none of them fails: it ends with the first path that is not
valid or that the OS does not take back. -/
def tries : List (PathAnswers ω) → List (VidPnPresentPath × ω)
  | [] => []
  | p :: paths =>
    match p.valid? with
    | none => []
    | some path => (path, p.outcomes) :: if p.release.isOk then tries paths else []

/-- The OS lets the loop come to its end. -/
def LoopEnds (paths : List (PathAnswers ω)) : Prop :=
  ∀ p ∈ paths, p.valid?.isSome = true ∧ p.release.isOk = true

/-- A loop that comes to its end tries all paths. -/
theorem tries_outcomes {paths : List (PathAnswers ω)} (h : LoopEnds paths) :
    (tries paths).map Prod.snd = paths.map PathAnswers.outcomes := by
  induction paths with
  | nil => rfl
  | cons p paths ih =>
    obtain ⟨hvalid, hrelease⟩ := h p List.mem_cons_self
    obtain ⟨path, hpath⟩ := Option.isSome_iff_exists.mp hvalid
    have hrest := ih fun q hq => h q (List.mem_cons_of_mem _ hq)
    simp only [tries, hpath, hrelease, if_true, List.map_cons, hrest]

namespace Dod

variable (hw : HwDeviceInterface δ ω)

/-- One mode change after the other, up to the first that fails. -/
def changeModes (modes : List VideoModeInformation) (m : VidPnSourceMode) (d : Dod δ) :
    List (VidPnPresentPath × ω) → Option (Status × Dod δ)
  | [] => some (.success, d)
  | (path, outcomes) :: rest => do
    let (status, d) ← setSourceModeAndPath hw d modes m path outcomes
    if status ≠ .success then some (status, d) else changeModes modes m d rest

variable {hw}

/-- The first mode change, and the others if it succeeds. -/
theorem changeModes_cons {modes : List VideoModeInformation} {m : VidPnSourceMode} {d d' : Dod δ}
    {t : VidPnPresentPath × ω} {rest : List (VidPnPresentPath × ω)} {status : Status}
    (h : changeModes hw modes m d (t :: rest) = some (status, d')) :
    ∃ first d₁, setSourceModeAndPath hw d modes m t.1 t.2 = some (first, d₁) ∧
      ((first ≠ .success ∧ status = first ∧ d' = d₁) ∨
      (first = .success ∧ changeModes hw modes m d₁ rest = some (status, d'))) := by
  obtain ⟨⟨first, d₁⟩, hset, h⟩ := Option.bind_eq_some_iff.mp h
  refine ⟨first, d₁, hset, ?_⟩
  simp only at h
  split_ifs at h with hfirst
  · cases h
    exact .inl ⟨hfirst, rfl, rfl⟩
  · exact .inr ⟨not_not.mp hfirst, h⟩

theorem valid?_cases (p : PathAnswers ω) : (p.valid? = none ∧ ((∃ code, p.target = .error code) ∨
      (p.target = .ok () ∧ ∃ code, p.info = .error code) ∨
      (p.target = .ok () ∧ ∃ path, p.info = .ok path ∧
        isVidPnPathFieldsValid path ≠ .success))) ∨
    ∃ path, p.valid? = some path ∧ p.target = .ok () ∧ p.info = .ok path ∧
      isVidPnPathFieldsValid path = .success := by
  unfold PathAnswers.valid?
  cases p.target with
  | error code => exact .inl ⟨rfl, .inl ⟨code, rfl⟩⟩
  | ok u =>
    cases p.info with
    | error code => exact .inl ⟨rfl, .inr (.inl ⟨rfl, code, rfl⟩)⟩
    | ok path =>
      by_cases hvalid : isVidPnPathFieldsValid path = .success
      · exact .inr ⟨path, by simp [hvalid], rfl, rfl, hvalid⟩
      · exact .inl ⟨by simp [hvalid], .inr (.inr ⟨rfl, path, rfl, hvalid⟩)⟩

/-- **The loop over the paths** makes its mode changes, and succeeds if they do and the OS lets it
come to its end. -/
theorem commitPaths_changeModes {modes : List VideoModeInformation} {m : VidPnSourceMode}
    {paths : List (PathAnswers ω)} {d : Dod δ} {calls : List OsCall} {e : AtExit δ}
    (h : commitPaths hw modes m d calls paths = some e) :
    ∃ status, changeModes hw modes m d (tries paths) = some (status, e.dod) ∧
      (e.status = .success ↔ status = .success ∧ LoopEnds paths) := by
  induction paths generalizing d calls with
  | nil =>
    cases h
    exact ⟨.success, rfl, by simp [LoopEnds]⟩
  | cons p paths ih =>
    rcases valid?_cases p with ⟨hnone, hanswers⟩ | ⟨path, hpath, htarget, hinfo, hvalid⟩
    · have hends : ¬LoopEnds (p :: paths) := fun hall => by
        have hsome := (hall p List.mem_cons_self).1
        rw [hnone] at hsome
        cases hsome
      have hfails : e.status ≠ .success ∧ e.dod = d := by
        rcases hanswers with ⟨code, htarget⟩ | ⟨htarget, code, hinfo⟩ |
          ⟨htarget, path, hinfo, hinvalid⟩
        · simp only [commitPaths, htarget] at h
          cases h
          exact ⟨nofun, rfl⟩
        · simp only [commitPaths, htarget, hinfo] at h
          cases h
          exact ⟨nofun, rfl⟩
        · simp only [commitPaths, htarget, hinfo, if_pos hinvalid] at h
          cases h
          exact ⟨hinvalid, rfl⟩
      refine ⟨.success, ?_, ?_⟩
      · rw [tries, hnone, hfails.2]
        rfl
      · exact iff_of_false hfails.1 fun hboth => hends hboth.2
    · simp only [commitPaths, htarget, hinfo, hvalid, ne_eq, not_true_eq_false, if_false] at h
      obtain ⟨⟨status, d₁⟩, hset, h⟩ := Option.bind_eq_some_iff.mp h
      have hcons : ∀ rest, changeModes hw modes m d ((path, p.outcomes) :: rest) =
          if status ≠ .success then some (status, d₁) else changeModes hw modes m d₁ rest := by
        intro rest
        rw [changeModes, hset]
        rfl
      by_cases hstatus : status = .success
      · subst hstatus
        simp only [ne_eq, not_true_eq_false, if_false] at h hcons
        cases hrelease : p.release with
        | error code =>
          simp only [hrelease] at h
          cases h
          refine ⟨.success, ?_, iff_of_false nofun fun hboth => ?_⟩
          · simp only [tries, hpath, hrelease, hcons]
            rfl
          · have hok := (hboth.2 p List.mem_cons_self).2
            rw [hrelease] at hok
            cases hok
        | ok u =>
          simp only [hrelease] at h
          obtain ⟨status, hrest, hiff⟩ := ih h
          refine ⟨status, ?_, ?_⟩
          · simpa only [tries, hpath, hrelease, hcons, Except.isOk, Except.toBool, if_true]
              using hrest
          · rw [hiff]
            simp [LoopEnds, hpath, hrelease, Except.isOk, Except.toBool]
      · simp only [if_pos hstatus] at h
        cases h
        refine ⟨status, ?_, by simp [hstatus]⟩
        simp only [tries, hpath, hcons, ne_eq, hstatus, not_false_eq_true, if_true]

/-- What `CommitVidPn` does on a course. -/
def Follows (hw : HwDeviceInterface δ ω) (d : Dod δ) (c : CommitVidPn ω) (status : Status)
    (d' : Dod δ) : Course ω → Prop
  | .ends success => d' = d ∧ (status = .success ↔ success = true)
  | .releases success => ∃ released device, releaseOld hw d.device c.released =
      some (released, device) ∧ d' = { d with device := device } ∧
      (status = .success ↔ released = .success ∧ success = true)
  | .loops m paths => ∃ released device, releaseOld hw d.device c.released =
      some (released, device) ∧
      (released ≠ .success → d' = { d with device := device } ∧ status ≠ .success) ∧
      (released = .success → ∃ changed,
        changeModes hw c.modes m { d with device := device } (tries paths) = some (changed, d') ∧
        (status = .success ↔ changed = .success ∧ LoopEnds paths))

theorem commitPinned_none {d : Dod δ} {c : CommitVidPn ω} {modeSet : Bool} {calls : List OsCall}
    {e : AtExit δ} (h : commitPinned hw d c modeSet calls none = some e) :
    Follows hw d c e.status e.dod (.releases true) := by
  obtain ⟨⟨released, device⟩, hrelease, h⟩ := Option.bind_eq_some_iff.mp h
  refine ⟨released, device, hrelease, ?_⟩
  simp only at h
  split_ifs at h with hstatus
  · cases h
    exact ⟨rfl, by simp⟩
  · cases h
    exact ⟨rfl, by simp [not_not.mp hstatus]⟩

theorem commitPinned_some {d : Dod δ} {c : CommitVidPn ω} {modeSet : Bool} {calls : List OsCall}
    {m : VidPnSourceMode} {e : AtExit δ}
    (h : commitPinned hw d c modeSet calls (some m) = some e) :
    Follows hw d c e.status e.dod (if isVidPnSourceModeFieldsValid m = .success then
      match c.paths with
      | .ok paths => .loops m paths
      | .error _ => .releases false
    else .releases false) := by
  obtain ⟨⟨released, device⟩, hrelease, h⟩ := Option.bind_eq_some_iff.mp h
  simp only at h
  by_cases hvalid : isVidPnSourceModeFieldsValid m = .success
  · rw [if_pos hvalid]
    simp only [hvalid, ne_eq, not_true_eq_false, if_false] at h
    split_ifs at h with hstatus
    · cases hpaths : c.paths with
      | error code =>
        rw [hpaths] at h
        cases h
        exact ⟨released, device, hrelease, rfl, by simp⟩
      | ok paths =>
        rw [hpaths] at h
        exact ⟨released, device, hrelease, fun hne => absurd hstatus hne,
          fun _ => commitPaths_changeModes h⟩
    · cases h
      cases c.paths with
      | error code => exact ⟨released, device, hrelease, rfl, by simp [hstatus]⟩
      | ok paths =>
        exact ⟨released, device, hrelease, fun _ => ⟨rfl, hstatus⟩, fun hok => absurd hok hstatus⟩
  · rw [if_neg hvalid]
    simp only [hvalid, ne_eq, not_false_eq_true, if_true] at h
    split_ifs at h with hstatus
    · cases h
      exact ⟨released, device, hrelease, rfl, by simp [hvalid]⟩
    · cases h
      exact ⟨released, device, hrelease, rfl, by simp [hstatus]⟩

/-- **`CommitVidPn` follows the course** that the answers of the OS determine. -/
theorem commitVidPn_course {d d' : Dod δ} {c : CommitVidPn ω} {status : Status}
    {calls : List OsCall} (h : commitVidPn hw d c = some (status, calls, d')) :
    Follows hw d c status d' c.course := by
  obtain ⟨e, hexit, h⟩ := Option.bind_eq_some_iff.mp h
  cases h
  obtain ⟨poweredOff, interface, topology, numPaths, modeSet, pinned, modes, released, paths⟩ := c
  unfold commitToExit at hexit
  unfold CommitVidPn.course
  cases poweredOff with
  | true =>
    cases hexit
    exact ⟨rfl, by simp⟩
  | false =>
    rcases interface with code | u
    · cases hexit
      exact ⟨rfl, by simp⟩
    rcases topology with code | u
    · cases hexit
      exact ⟨rfl, by simp⟩
    rcases numPaths with code | (_ | n)
    · cases hexit
      exact ⟨rfl, by simp⟩
    · exact commitPinned_none hexit
    rcases modeSet with code | u
    · cases hexit
      exact ⟨rfl, by simp⟩
    rcases pinned with code | (_ | m)
    · cases hexit
      exact ⟨rfl, by simp⟩
    · exact commitPinned_none hexit
    · exact commitPinned_some hexit

end Dod

end VioGpu.Device
