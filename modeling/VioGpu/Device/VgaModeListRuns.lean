import VioGpu.Device.VgaModeList

/-!
# What `VgaDevice::GetModeList` puts into its tables

The second pass takes a mode if `tmpModeInfo` passes the filter, whether it was read in this turn or
is left over from an earlier one: the status of a failed read is overwritten in the next turn. So
the tables are those of the listed modes, each with its own information, just when no failed read
leaves information that passes (`getModeList_lists_iff`).
-/

namespace VioGpu.Device

open Lib Program BiosCall

abbrev BiosEvent := Answered BiosCall BiosCall.Ans

/-! ## The list and the readings of a run -/

/-- A mode number, and where in the segment of the list it is. -/
structure ListedMode where
  offset : BitVec 16
  number : BitVec 16
  deriving DecidableEq, Repr

/-- The mode of the list that was read last. -/
def ListedMode.after (last : ListedMode) : BiosEvent → ListedMode
  | ⟨.readModeNumber _ offset, .ok number⟩ => ⟨offset, number⟩
  | _ => last

/-- The information about a mode, if the call reads it, and if the read succeeds. -/
def BiosCall.modeInfo? : BiosEvent → Option (Option VbeModeInfo)
  | ⟨.readModeInfo _ _, answer⟩ => some answer.toOption
  | _ => none

/-- The reads of information about a mode, each with the mode of the list that was read before. -/
def modeReadings : ListedMode → List BiosEvent → List (Reading ListedMode VbeModeInfo)
  | _, [] => []
  | last, e :: es => ((modeInfo? e).map (Reading.mk last)).toList ++ modeReadings (last.after e) es

theorem modeReadings_append (last : ListedMode) (a b : List BiosEvent) :
    modeReadings last (a ++ b) =
      modeReadings last a ++ modeReadings (a.foldl ListedMode.after last) b := by
  induction a generalizing last with
  | nil => rfl
  | cons e a ih => rw [List.cons_append, modeReadings, ih, modeReadings, List.append_assoc,
      List.foldl_cons]

theorem modeReadings_eq_nil {es : List BiosEvent} (h : ∀ e ∈ es, modeInfo? e = none)
    (last : ListedMode) : modeReadings last es = [] := by
  induction es generalizing last with
  | nil => rfl
  | cons e es ih =>
    obtain ⟨he, hes⟩ := List.forall_mem_cons.mp h
    rw [modeReadings, he, ih hes]
    rfl

/-- The call reads the number of a mode, not the end of the list. -/
def BiosCall.findsMode : BiosEvent → Bool
  | ⟨.readModeNumber _ _, .ok number⟩ => decide ¬(number = 0xFFFF ∨ number = 0)
  | _ => false

/-- The call allocates a table. -/
def BiosCall.allocates : BiosEvent → Bool
  | ⟨.newTable _, _⟩ => true
  | _ => false

/-- How many modes the first pass has found. The tables are allocated after it. -/
def foundModes (events : List BiosEvent) : Nat :=
  (events.takeWhile (!allocates ·)).countP findsMode

theorem foundModes_append {a : List BiosEvent} (h : ∀ e ∈ a, allocates e = false)
    (b : List BiosEvent) : foundModes (a ++ b) = a.countP findsMode + foundModes b := by
  have hall : ∀ e ∈ a, (!allocates e) = true := fun e he => by rw [h e he]; rfl
  rw [foundModes, List.takeWhile_append_of_pos hall, List.countP_append, foundModes]

/-- **The tables are those of the list**: every mode that the first pass has found was asked about,
in the order of the list (they are counted with 16 bits); the entries are those of the modes whose
own information was read and passes the filter, in this order; they fit into the tables, and the
current mode is one of them. -/
structure VgaModes.Lists (t : VgaModes) (f : ModeFilter) (events : List BiosEvent) : Prop where
  all : (modeReadings ⟨0, 0⟩ events).length = u16 (foundModes events)
  positions : ∃ segment offset info, ⟨readInfo segment offset, .ok info⟩ ∈ events ∧
    (modeReadings ⟨0, 0⟩ events).map (fun r => r.key.offset) =
      (List.range (modeReadings ⟨0, 0⟩ events).length).map
        fun k => listOffset info.videoModePtr (.ofNat 16 k)
  tables : ∃ infos numbers, t.modeInfo = .array infos ∧ t.modeNumbers = .array numbers ∧
    t.modeCount ≤ infos.length ∧ t.modeCount ≤ numbers.length ∧
    numbers.take t.modeCount =
      (wanted f.Suits (modeReadings ⟨0, 0⟩ events)).map (fun m => m.1.number) ∧
    (infos.take t.modeCount).map some =
      (wanted f.Suits (modeReadings ⟨0, 0⟩ events)).mapIdx fun i m => videoModeInfo i m.2
  current : t.currentMode < t.modeCount

/-! ## The second pass -/

/-- The tables have room for `size` modes and contain these so far. -/
structure FilterVars.Holds (v : FilterVars) (size : Nat) (ms : List (ListedMode × VbeModeInfo)) :
    Prop where
  suitable : v.suitable = ms.length
  current : v.modes.currentMode = 0 ∨ v.modes.currentMode < ms.length
  tables : ∃ infos numbers, v.modes.modeInfo = .array infos ∧
    v.modes.modeNumbers = .array numbers ∧ infos.length = size ∧ numbers.length = size ∧
    numbers.take ms.length = ms.map (fun m => m.1.number) ∧
    (infos.take ms.length).map some = ms.mapIdx fun i m => videoModeInfo i m.2

theorem take_succ_set {α : Type} {xs : List α} {i : Nat} (h : i < xs.length) (x : α) :
    (xs.set i x).take (i + 1) = xs.take i ++ [x] := by
  rw [List.take_succ_eq_append_getElem (by simpa using h), List.take_set_of_le (Nat.le_refl i),
    List.getElem_set_self]

/-- **One turn adds** the mode if the variable passes the filter. -/
theorem FilterVars.Holds.addMode {v v' : FilterVars} {f : ModeFilter} {size : Nat}
    {ms : List (ListedMode × VbeModeInfo)} (listed : ListedMode)
    (hadd : v.addMode f listed.number = some v') (h : v.Holds size ms) (hroom : ms.length < size)
    (hsize : size ≤ 65536) :
    v'.Holds size (ms ++ if f.Suits v.tmpModeInfo then [(listed, v.tmpModeInfo)] else []) ∧
      v'.tmpModeInfo = v.tmpModeInfo ∧ v'.status = v.status := by
  unfold FilterVars.addMode at hadd
  by_cases hsuits : f.Suits v.tmpModeInfo
  · rw [if_pos hsuits] at hadd ⊢
    obtain ⟨infos, numbers, hinfos, hnumbers, hlength, hlength', hms, hms'⟩ := h.tables
    have hwrite : ∀ {α : Type} (xs : List α) (x : α), xs.length = size →
        ArrayPtr.write (.array xs) ms.length x = some (.array (xs.set ms.length x)) := by
      intro α xs x hxs
      exact if_pos (by omega)
    rw [hinfos, hnumbers, h.suitable, hwrite _ _ hlength'] at hadd
    obtain ⟨_, ⟨⟩, hadd⟩ := Option.bind_eq_some_iff.mp hadd
    obtain ⟨entry, hentry, hadd⟩ := Option.bind_eq_some_iff.mp hadd
    rw [hwrite _ _ hlength] at hadd
    cases hadd
    refine ⟨⟨by simp, ?_, _, _, rfl, rfl, by simpa using hlength, by simpa using hlength', ?_, ?_⟩,
      rfl, rfl⟩
    · have hcurrent := h.current
      have hindex : u16 ms.length = ms.length := Nat.mod_eq_of_lt (by omega)
      rw [List.length_append, List.length_singleton]
      dsimp only
      split_ifs
      · exact .inr (by omega)
      · omega
    · rw [List.length_append, List.length_singleton, take_succ_set (by omega), hms,
        List.map_append]
      rfl
    · rw [List.length_append, List.length_singleton, take_succ_set (by omega), List.map_append,
        hms', List.mapIdx_append]
      simp [hentry]
  · rw [if_neg hsuits] at hadd ⊢
    cases hadd
    rw [List.append_nil]
    exact ⟨h, rfl, rfl⟩

section

variable {ptr : BitVec 32} {segment offset : BitVec 16} {f : ModeFilter} {size : Nat}
  {events : List BiosEvent}

/-- **The second pass** takes what passes when it is looked at, if it ends with success. The
induction is on the modes that are left, and `c` have been read. -/
theorem filterModes_run {n c : Nat} {v v' : FilterVars} {ms : List (ListedMode × VbeModeInfo)}
    (hrun : Run (filterModes ptr segment offset f n (.ofNat 16 c) v) events (.done (true, v')))
    (h : v.Holds size ms) (hroom : ms.length + n ≤ size) (hsize : size ≤ 65536)
    (hsuccess : v'.status = .success) :
    ∃ rs, (∀ last, modeReadings last events = rs) ∧
      rs.map (fun r => r.key.offset) =
        (List.range' c n).map (fun k => listOffset ptr (.ofNat 16 k)) ∧
      v'.Holds size (ms ++ taken f.Suits v.tmpModeInfo rs) := by
  induction n generalizing c v ms events with
  | zero =>
    cases hrun
    exact ⟨[], fun _ => rfl, rfl, by rwa [taken, List.append_nil]⟩
  | succ n ih =>
    obtain ⟨number, events₁, rfl, hrun₁⟩ := hrun.of_call
    cases number with
    | error code =>
      cases hrun₁
      cases hsuccess
    | ok modeTemp =>
      obtain ⟨called, events₂, rfl, hrun₂⟩ := hrun₁.of_call
      cases called with
      | false => cases hrun₂
      | true =>
        obtain ⟨answer, events₃, rfl, hrun₃⟩ := hrun₂.of_call
        replace hrun₃ : Run (accessed ((v.readInto answer).addMode f modeTemp) >>= fun v =>
            filterModes ptr segment offset f n (.ofNat 16 c + 1) v) events₃
          (.done (true, v')) := hrun₃
        -- the reading of this turn, and the variable after it
        let r : Reading ListedMode VbeModeInfo :=
          ⟨⟨listOffset ptr (.ofNat 16 c), modeTemp⟩, answer.toOption⟩
        have hvalue : (v.readInto answer).tmpModeInfo = r.value.getD v.tmpModeInfo := by
          cases answer <;> rfl
        have hread : (v.readInto answer).Holds size ms := by
          cases answer <;> exact ⟨h.suitable, h.current, h.tables⟩
        cases hadd : (v.readInto answer).addMode f modeTemp with
        | none =>
          rw [hadd, accessed, fault_bind] at hrun₃
          cases hrun₃
        | some v₁ =>
          rw [hadd, accessed, done_bind] at hrun₃
          obtain ⟨hholds, hkeeps, -⟩ := FilterVars.Holds.addMode r.key hadd hread (by omega) hsize
          have hnext : (BitVec.ofNat 16 c + 1) = .ofNat 16 (c + 1) :=
            (BitVec.ofNat_add c 1).symm
          rw [hnext] at hrun₃
          have hlength : (ms ++ if f.Suits (v.readInto answer).tmpModeInfo then
              [(r.key, (v.readInto answer).tmpModeInfo)] else []).length ≤ ms.length + 1 := by
            rw [List.length_append]
            split_ifs <;> simp
          obtain ⟨rs, hrs, hpositions, htaken⟩ := ih hrun₃ hholds (by omega)
          refine ⟨r :: rs, fun last => congrArg (List.cons r) (hrs r.key), ?_, ?_⟩
          · rw [List.map_cons, hpositions, List.range'_succ, List.map_cons]
          · rw [hkeeps, List.append_assoc, hvalue] at htaken
            rwa [taken_cons]

/-- Nothing is read about a mode. -/
def Silent (events : List BiosEvent) : Prop := ∀ e ∈ events, modeInfo? e = none

theorem silent_cons {e : BiosEvent} : Silent (e :: events) ↔ modeInfo? e = none ∧ Silent events :=
  List.forall_mem_cons

theorem silent_nil : Silent [] := List.forall_mem_nil _

/-- **The first pass** counts the modes that it finds. -/
theorem countModes_run {fuel : Nat} {c : BitVec 16} {r : BitVec 16 × Status}
    (hrun : Run (countModes ptr fuel c) events (.done r)) : Silent events ∧
      (∀ e ∈ events, allocates e = false) ∧
      r.1 = c + BitVec.ofNat 16 (events.countP findsMode) := by
  induction fuel generalizing c events with
  | zero => cases hrun
  | succ fuel ih =>
    obtain ⟨answer, rest, rfl, hrest⟩ := hrun.of_call
    cases answer with
    | error code =>
      cases hrest
      exact ⟨silent_cons.mpr ⟨rfl, silent_nil⟩, by simp [allocates], (BitVec.add_zero c).symm⟩
    | ok modeTemp =>
      replace hrest : Run (if modeTemp = 0xFFFF ∨ modeTemp = 0 then return (c, .success)
        else countModes ptr fuel (c + 1)) rest (.done r) := hrest
      split_ifs at hrest with hend
      · cases hrest
        refine ⟨silent_cons.mpr ⟨rfl, silent_nil⟩, by simp [allocates], ?_⟩
        have hnone : findsMode ⟨readModeNumber (listSegment ptr) (listOffset ptr c),
            .ok modeTemp⟩ = false := decide_eq_false (not_not.mpr hend)
        rw [List.countP_cons_of_neg (by rw [hnone]; exact Bool.false_ne_true)]
        exact (BitVec.add_zero c).symm
      · obtain ⟨hsilent, hbefore, hcount⟩ := ih hrest
        refine ⟨silent_cons.mpr ⟨rfl, hsilent⟩, List.forall_mem_cons.mpr ⟨rfl, hbefore⟩, ?_⟩
        have hfinds : findsMode ⟨readModeNumber (listSegment ptr) (listOffset ptr c),
            .ok modeTemp⟩ = true := decide_eq_true hend
        rw [hcount, List.countP_cons_of_pos hfinds, Nat.add_comm, BitVec.ofNat_add,
          BitVec.add_assoc]
        rfl

/-- The call comes before the passes. -/
def Preliminary (e : BiosEvent) : Prop :=
  modeInfo? e = none ∧ allocates e = false ∧ findsMode e = false

/-- The part before the passes has read the information of the BIOS, if it does not fail. -/
theorem getVbeInfo_run {r : Except Status ((BitVec 16 × BitVec 16) × VbeInfo)}
    (hrun : Run getVbeInfo events (.done r)) : (∀ e ∈ events, Preliminary e) ∧ r ≠ .error .success ∧
      ∀ memory info, r = .ok (memory, info) →
        ∃ segment offset, ⟨readInfo segment offset, .ok info⟩ ∈ events := by
  obtain ⟨buffer, events₁, rfl, hrun₁⟩ := hrun.of_call
  cases buffer with
  | error code =>
    cases hrun₁
    exact ⟨by simp [Preliminary, modeInfo?, allocates, findsMode], by simp, by simp⟩
  | ok memory =>
    obtain ⟨written, events₂, rfl, hrun₂⟩ := hrun₁.of_call
    cases written with
    | error code =>
      cases hrun₂
      exact ⟨by simp [Preliminary, modeInfo?, allocates, findsMode], by simp, by simp⟩
    | ok _ =>
      obtain ⟨called, events₃, rfl, hrun₃⟩ := hrun₂.of_call
      cases called with
      | false =>
        cases hrun₃
        exact ⟨by simp [Preliminary, modeInfo?, allocates, findsMode], by simp, by simp⟩
      | true =>
        obtain ⟨answer, events₄, rfl, hrun₄⟩ := hrun₃.of_call
        cases answer with
        | error code =>
          cases hrun₄
          exact ⟨by simp [Preliminary, modeInfo?, allocates, findsMode], by simp, by simp⟩
        | ok info =>
          replace hrun₄ : Run (if info.signature ≠ vesa then return .error .unsuccessful
            else return .ok (memory, info)) events₄ (.done r) := hrun₄
          split_ifs at hrun₄
          · cases hrun₄
            exact ⟨by simp [Preliminary, modeInfo?, allocates, findsMode], by simp, by simp⟩
          · cases hrun₄
            refine ⟨by simp [Preliminary, modeInfo?, allocates, findsMode], by simp, ?_⟩
            intro memory' info' heq
            cases heq
            exact ⟨memory.1, memory.2, by simp⟩

/-- New tables are empty, and their allocation is what comes first. -/
theorem allocateTables_run {modes : VgaModes} {n : Nat} {r : Except VgaModes VgaModes}
    (hrun : Run (allocateTables modes n) events (.done r)) : Silent events ∧
      (∀ rest, foundModes (events ++ rest) = 0) ∧
      ∀ modes', r = .ok modes' → ∀ info status,
        (FilterVars.mk modes' 0 info status).Holds n [] := by
  unfold allocateTables at hrun
  cases hinfo : modes.modeInfo.delete with
  | none =>
    rw [hinfo] at hrun
    cases hrun
  | some _ =>
    cases hnumbers : modes.modeNumbers.delete with
    | none =>
      rw [hinfo, hnumbers] at hrun
      cases hrun
    | some _ =>
      rw [hinfo, hnumbers] at hrun
      obtain ⟨first, events₁, rfl, hrun₁⟩ := hrun.of_call
      cases first with
      | false =>
        cases hrun₁
        exact ⟨by simp [Silent, modeInfo?], fun _ => rfl, by simp⟩
      | true =>
        obtain ⟨second, events₂, rfl, hrun₂⟩ := hrun₁.of_call
        cases second with
        | false =>
          cases hrun₂
          exact ⟨by simp [Silent, modeInfo?], fun _ => rfl, by simp⟩
        | true =>
          cases hrun₂
          refine ⟨by simp [Silent, modeInfo?], fun _ => rfl, ?_⟩
          intro modes' heq info status
          cases heq
          exact ⟨rfl, .inl rfl, _, _, rfl, rfl, by simp, by simp, by simp, by simp⟩

theorem finish_run {v : FilterVars} {modes : VgaModes}
    (hrun : Run (finish segment offset v) events (.done (.success, modes))) : Silent events ∧
      v.suitable ≠ 0 ∧ v.status = .success ∧ modes = { v.modes with modeCount := v.suitable } := by
  have hreturn : Silent events ∧ ((if v.suitable = 0 then .unsuccessful else v.status : Status),
      { v.modes with modeCount := v.suitable }) = (Status.success, modes) := by
    by_cases hsegment : segment = 0
    · rw [finish, if_pos hsegment] at hrun
      obtain ⟨rfl, hresult⟩ := hrun.of_done
      exact ⟨silent_nil, hresult⟩
    · rw [finish, if_neg hsegment] at hrun
      obtain ⟨_, events₁, rfl, hrun₁⟩ := hrun.of_call
      obtain ⟨rfl, hresult⟩ := hrun₁.of_done
      exact ⟨silent_cons.mpr ⟨rfl, silent_nil⟩, hresult⟩
  obtain ⟨hsilent, hresult⟩ := hreturn
  obtain ⟨hstatus, hmodes⟩ := Prod.mk.inj hresult
  split_ifs at hstatus with hzero
  exact ⟨hsilent, hzero, hstatus, hmodes.symm⟩

end

/-- **What a run leaves** that returns `STATUS_SUCCESS`: every mode that was found was asked about,
and the tables contain what was taken. -/
theorem getModeList_run {pDispInfo : DispInfo} {fuel : Nat} {tmpModeInfo : VbeModeInfo}
    {modes modes' : VgaModes} {events : List BiosEvent}
    (hrun : Run (getModeList pDispInfo fuel tmpModeInfo modes) events
      (.done (.success, modes'))) :
    ∃ (v : FilterVars) (size : Nat), v.suitable ≠ 0 ∧
      modes' = { v.modes with modeCount := v.suitable } ∧
      v.Holds size (taken (modeFilter pDispInfo).Suits tmpModeInfo (modeReadings ⟨0, 0⟩ events)) ∧
      (modeReadings ⟨0, 0⟩ events).length = u16 (foundModes events) ∧
      ∃ segment offset info, ⟨readInfo segment offset, .ok info⟩ ∈ events ∧
        (modeReadings ⟨0, 0⟩ events).map (fun r => r.key.offset) =
          (List.range (modeReadings ⟨0, 0⟩ events).length).map
            fun k => listOffset info.videoModePtr (.ofNat 16 k) := by
  obtain ⟨r, es₁, rest₁, rfl, hrun₁, hrest₁⟩ := hrun.of_bind_done
  obtain ⟨hfirst, hfails, hinfo⟩ := getVbeInfo_run hrun₁
  cases r with
  | error status =>
    cases hrest₁
    exact absurd rfl hfails
  | ok r =>
    obtain ⟨⟨segment, offset⟩, info⟩ := r
    obtain ⟨segment', offset', hmem⟩ := hinfo _ _ rfl
    obtain ⟨⟨n, status⟩, es₂, rest₂, rfl, hrun₂, hrest₂⟩ := hrest₁.of_bind_done
    obtain ⟨r, es₃, rest₃, rfl, hrun₃, hrest₃⟩ := hrest₂.of_bind_done
    obtain ⟨hsilent₂, hbefore, hcount⟩ := countModes_run hrun₂
    obtain ⟨hsilent₃, hnothing, hempty⟩ := allocateTables_run hrun₃
    cases r with
    | error modes => cases hrest₃
    | ok modes₁ =>
      obtain ⟨⟨ended, v⟩, es₄, es₅, rfl, hrun₄, hrun₅⟩ := hrest₃.of_bind_done
      cases ended with
      | false => cases hrun₅
      | true =>
        obtain ⟨hsilent₅, hsuitable, hsuccess, hmodes⟩ := finish_run hrun₅
        have hsize : n.toNat ≤ 65536 := by
          have := n.isLt
          omega
        obtain ⟨rs, hrs, hpositions, hholds⟩ := filterModes_run hrun₄
          (hempty _ rfl tmpModeInfo status) (by simp) hsize hsuccess
        have hreadings : modeReadings ⟨0, 0⟩ (es₁ ++ (es₂ ++ (es₃ ++ (es₄ ++ es₅)))) = rs := by
          simp only [modeReadings_append, modeReadings_eq_nil fun e he => (hfirst e he).1,
            modeReadings_eq_nil hsilent₂, modeReadings_eq_nil hsilent₃,
            modeReadings_eq_nil hsilent₅, hrs, List.nil_append, List.append_nil]
        have hlength := congrArg List.length hpositions
        rw [List.length_map, List.length_map, List.length_range'] at hlength
        -- what is found is found in the first pass, and counted with 16 bits
        have hfound : n.toNat = u16 (foundModes (es₁ ++ (es₂ ++ (es₃ ++ (es₄ ++ es₅))))) := by
          have hnone : es₁.countP findsMode = 0 :=
            List.countP_eq_zero.mpr fun e he => by simp [(hfirst e he).2.2]
          rw [foundModes_append fun e he => (hfirst e he).2.1, foundModes_append hbefore,
            hnothing, hnone, Nat.zero_add, Nat.add_zero, show n = _ from hcount, BitVec.toNat_add,
            BitVec.toNat_ofNat]
          exact (Nat.zero_add _ ▸ Nat.mod_mod _ _)
        rw [hreadings]
        refine ⟨v, _, hsuitable, hmodes, hholds, hlength.trans hfound, segment', offset', info,
          List.mem_append_left _ hmem, ?_⟩
        rw [hpositions, hlength, List.range_eq_range']

section

variable {pDispInfo : DispInfo} {fuel : Nat} {tmpModeInfo : VbeModeInfo} {modes modes' : VgaModes}
  {events : List BiosEvent}

/-- If the tables are those of the list, nothing that was left over is in them: as many modes were
taken as pass the filter on their own. -/
theorem VgaModes.Lists.not_takesLeftover (hlists : modes'.Lists (modeFilter pDispInfo) events)
    (hrun : Run (getModeList pDispInfo fuel tmpModeInfo modes) events
      (.done (.success, modes'))) :
    ¬TakesLeftover (modeFilter pDispInfo).Suits tmpModeInfo (modeReadings ⟨0, 0⟩ events) := by
  obtain ⟨v, size, -, rfl, hholds, -⟩ := getModeList_run hrun
  obtain ⟨-, numbers, -, hnumbers, -, -, htaken, -⟩ := hholds.tables
  obtain ⟨-, numbers', -, hnumbers', -, -, hwanted, -⟩ := hlists.tables
  have hsame : numbers = numbers' := ArrayPtr.array.inj (hnumbers.symm.trans hnumbers')
  subst hsame
  rw [show v.suitable = _ from hholds.suitable] at hwanted
  have hcount := congrArg List.length (htaken.symm.trans hwanted)
  rw [List.length_map, List.length_map] at hcount
  rw [← taken_eq_wanted_iff]
  exact ((wanted_sublist_taken _ tmpModeInfo (modeReadings ⟨0, 0⟩ events)).eq_of_length
    hcount.symm).symm

/-- If nothing that was left over is taken, the tables are those of the list. -/
theorem lists_of_not_takesLeftover (hrun : Run (getModeList pDispInfo fuel tmpModeInfo modes) events
      (.done (.success, modes')))
    (hown : ¬TakesLeftover (modeFilter pDispInfo).Suits tmpModeInfo
      (modeReadings ⟨0, 0⟩ events)) :
    modes'.Lists (modeFilter pDispInfo) events := by
  obtain ⟨v, size, hsuitable, rfl, hholds, hall, hpositions⟩ := getModeList_run hrun
  obtain ⟨infos, numbers, hinfos, hnumbers, hlength, hlength', htaken, htaken'⟩ := hholds.tables
  have hsuits := hholds.suitable
  have hcurrent := hholds.current
  rw [(taken_eq_wanted_iff _ _).mpr hown] at htaken htaken' hsuits hcurrent
  have hroom : v.suitable ≤ numbers.length := by
    have hcount := congrArg List.length htaken
    rw [List.length_take, List.length_map] at hcount
    omega
  rw [← hsuits] at htaken htaken'
  refine ⟨hall, hpositions, ⟨infos, numbers, hinfos, hnumbers, ?_, hroom, htaken, htaken'⟩, ?_⟩
  · show v.suitable ≤ infos.length
    omega
  · show v.modes.currentMode < v.suitable
    omega

/-- **The tables are those of the list** just when no failed read leaves information that passes the
filter. -/
theorem getModeList_lists_iff (hrun : Run (getModeList pDispInfo fuel tmpModeInfo modes) events
      (.done (.success, modes'))) :
    modes'.Lists (modeFilter pDispInfo) events ↔
      ¬TakesLeftover (modeFilter pDispInfo).Suits tmpModeInfo (modeReadings ⟨0, 0⟩ events) :=
  ⟨fun hlists => hlists.not_takesLeftover hrun, lists_of_not_takesLeftover hrun⟩

end

/-! ## A BIOS with three modes -/

/-- The information about a mode with 32 bits per pixel. -/
def mode32 (width height : BitVec 16) : VbeModeInfo where
  xResolution := width
  yResolution := height
  numberOfPlanes := 1
  bitsPerPixel := 32
  physBasePtr := 0xE0000000
  linBytesPerScanLine := width * 4
  linRedMaskSize := 8
  linRedFieldPosition := 16
  linGreenMaskSize := 8
  linGreenFieldPosition := 8
  linBlueMaskSize := 8
  linBlueFieldPosition := 0

/-- A BIOS that lists the modes 0x118, 0x11B and 0x11F; `middle` is the answer about the second
one. Its state is the mode that it was asked about last. -/
def threeModes (middle : Except Nat VbeModeInfo) : BitVec 32 → (c : BiosCall) → c.Ans × BitVec 32
  | last, allocateBuffer _ => (.ok (0x2000, 0), last)
  | last, freeBuffer _ _ => ((), last)
  | last, writeMemory _ _ _ => (.ok (), last)
  | _, x86BiosCall regs => (true, regs.ecx)
  | last, readInfo _ _ => (.ok ⟨vesa, 0xC0000000⟩, last)
  | last, readModeNumber _ offset =>
    (.ok ([0x118, 0x11B, 0x11F].getD (offset.toNat / 2) 0xFFFF), last)
  | last, readModeInfo _ _ =>
    (if last = 0x118 then .ok (mode32 1024 768) else if last = 0x11B then middle
      else .ok (mode32 1600 1200), last)
  | last, newTable _ => (true, last)

/-- `GetModeList` of a device that has just been made. -/
def firstModeList : BiosProgram (Status × VgaModes) :=
  getModeList ⟨0, 0, 0, .a8r8g8b8, 0⟩ 4 (mode32 0 0) ⟨.null, .null, 0, 0⟩

theorem getModeList_lists_iff_threeModes : ∃ modes' : VgaModes,
    modes'.Lists ⟨1024, 768, 32⟩
      (firstModeList.events (threeModes (.ok (mode32 1280 1024))) 0) := by
  have hrun := run_exec (threeModes (.ok (mode32 1280 1024))) firstModeList 0
  exact ⟨_, (getModeList_lists_iff hrun).mpr ((taken_eq_wanted_iff _ _).mp rfl)⟩

/-- With a failed read in the middle, mode 0x11B has the information of mode 0x118. -/
theorem not_always_lists : ¬∀ pDispInfo fuel tmpModeInfo modes modes' events,
    Run (getModeList pDispInfo fuel tmpModeInfo modes) events (.done (.success, modes')) →
      modes'.Lists (modeFilter pDispInfo) events := by
  intro h
  have hrun := run_exec (threeModes (.error 0xC000000D)) firstModeList 0
  have hlists := h _ _ _ _ _ _ hrun
  refine hlists.not_takesLeftover hrun ?_
  exact ⟨[⟨⟨0, 0x118⟩, some (mode32 1024 768)⟩], ⟨⟨2, 0x11B⟩, none⟩,
    [⟨⟨4, 0x11F⟩, some (mode32 1600 1200)⟩], rfl, rfl, by decide⟩

end VioGpu.Device
