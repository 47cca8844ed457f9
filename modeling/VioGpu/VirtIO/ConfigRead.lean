import VioGpu.Lib.Program
import VioGpu.VirtIO.ModernInitRuns

/-!
# Reading the configuration of the device

`virtio_get_config` reads a field of the configuration with one access if it can, and otherwise with
several. The device may change its configuration between any two accesses, and counts these updates
in the 8 bits of `config_generation`. `virtio_cread_many` reads again until the generation is the
same before and after. What it returns is the configuration at one instant, unless there are 256
updates or more between two reads of the generation. A turn that has to be repeated saw an update,
so the loop ends after one turn more than there are updates.
-/

namespace VioGpu.VirtIO

open Lib Device

/-! ## The driver -/

/-- An access to the registers of the device. -/
inductive ConfigCall
  | generation
  | field (offset : BitVec 32) (len : Nat)

/-- The bytes of a field are counted from its offset. -/
abbrev ConfigAnswer : ConfigCall → Type
  | .generation => BitVec 8
  | .field _ _ => Nat → BitVec 8

abbrev ConfigProgram := Program ConfigCall ConfigAnswer

/-- The memory from `buf` on. -/
abbrev Buffer := Nat → BitVec 8

/-- Bytes that are written at a position. -/
def Buffer.write (buf : Buffer) (pos len : Nat) (bytes : Nat → BitVec 8) : Buffer :=
  fun i => if pos ≤ i ∧ i < pos + len then bytes (i - pos) else buf i

section

variable (vdev : ModernDevice)

/-- `vio_modern_get_config` -/
def vioModernGetConfig (offset : BitVec 32) (buf : Buffer) (pos : Nat) (len : BitVec 32) :
    ConfigProgram Buffer :=
  match vdev.config with
  | none => pure buf
  | some r =>
    if (offset + len).toNat > r.len.toNat then pure buf
    else if len = 1 ∨ len = 2 ∨ len = 4 then do
      let bytes ← Program.ask (.field offset len.toNat)
      pure (buf.write pos len.toNat bytes)
    else pure buf

/-- The inner loop of `virtio_cread_many` after `n` turns. -/
def readFields (offset : BitVec 32) (bytes : Nat) : Nat → Buffer → ConfigProgram Buffer
  | 0, buf => pure buf
  | n + 1, buf => do
    let buf ← readFields offset bytes n buf
    vioModernGetConfig vdev (BitVec.ofNat 32 (offset.toNat + bytes * n)) buf (n * bytes)
      (BitVec.ofNat 32 bytes)

/-- The outer loop of `virtio_cread_many`, followed for `fuel` turns; `old` is the last generation
read. -/
def creadLoop (offset : BitVec 32) (count bytes : Nat) :
    Nat → BitVec 8 → Buffer → ConfigProgram Buffer
  | 0, _, _ => .unfinished
  | fuel + 1, old, buf => do
    let buf ← readFields vdev offset bytes count buf
    let gen ← Program.ask .generation
    if gen = old then pure buf else creadLoop offset count bytes fuel gen buf

/-- `virtio_cread_many` -/
def virtioCreadMany (fuel : Nat) (offset : BitVec 32) (buf : Buffer) (count bytes : Nat) :
    ConfigProgram Buffer := do
  let gen ← Program.ask .generation
  creadLoop vdev offset count bytes fuel gen buf

/-- `virtio_get_config` -/
def virtioGetConfig (fuel : Nat) (offset : BitVec 32) (buf : Buffer) (len : BitVec 32) :
    ConfigProgram Buffer :=
  if len = 1 ∨ len = 2 ∨ len = 4 then vioModernGetConfig vdev offset buf 0 len
  else if len = 8 then virtioCreadMany vdev fuel offset buf 2 4
  else virtioCreadMany vdev fuel offset buf len.toNat 1

end

/-! ## The device -/

/-- The configuration, and `config_generation`. -/
structure ConfigState where
  content : Nat → BitVec 8
  generation : BitVec 8

/-- An update by the device, or an access of the driver with what it reads. -/
inductive ConfigEvent
  | update (content : Nat → BitVec 8)
  | access (e : Answered ConfigCall ConfigAnswer)

/-- What an access reads. -/
def ConfigState.Answers (s : ConfigState) : Answered ConfigCall ConfigAnswer → Prop
  | ⟨.generation, g⟩ => g = s.generation
  | ⟨.field offset len, bytes⟩ => ∀ i < len, bytes i = s.content (offset.toNat + i)

namespace ConfigEvent

def IsUpdate : ConfigEvent → Bool
  | .update _ => true
  | .access _ => false

/-- The access, if it is one. -/
def access? : ConfigEvent → Option (Answered ConfigCall ConfigAnswer)
  | .update _ => none
  | .access e => some e

end ConfigEvent

/-- The accesses of an interleaving. -/
def accesses (es : List ConfigEvent) : List (Answered ConfigCall ConfigAnswer) :=
  es.filterMap ConfigEvent.access?

/-- The updates of an interleaving. -/
def updates (es : List ConfigEvent) : Nat := es.countP ConfigEvent.IsUpdate

/-- The state that the events of an interleaving leave. -/
def ConfigState.after (s : ConfigState) : List ConfigEvent → ConfigState
  | [] => s
  | .update content :: es => ConfigState.after ⟨content, s.generation + 1⟩ es
  | .access _ :: es => ConfigState.after s es

/-- Each access reads the state at its time. -/
def ConfigState.AnswersAll (s : ConfigState) : List ConfigEvent → Prop
  | [] => True
  | .update content :: es => ConfigState.AnswersAll ⟨content, s.generation + 1⟩ es
  | .access e :: es => s.Answers e ∧ ConfigState.AnswersAll s es

/-- The access reads the generation. -/
def ReadsGeneration (e : Answered ConfigCall ConfigAnswer) : Prop := e.call = .generation

/-- There are fewer than 256 updates between two reads of the generation with none between. -/
def FewUpdates (es : List ConfigEvent) : Prop :=
  ∀ a b c e e', es = a ++ .access e :: (b ++ .access e' :: c) → ReadsGeneration e →
    ReadsGeneration e' → (∀ x ∈ accesses b, ¬ ReadsGeneration x) → updates b < 256

/-- The first `len` bytes of the buffer are those of the configuration after a part of the
interleaving. -/
def Snapshot (s : ConfigState) (es : List ConfigEvent) (offset : BitVec 32) (len : Nat)
    (buf : Buffer) : Prop :=
  ∃ es₁ es₂, es = es₁ ++ es₂ ∧ ∀ i < len, buf i = (s.after es₁).content (offset.toNat + i)

/-! ## Interleavings -/

section

variable {s : ConfigState} {es es' : List ConfigEvent}

@[simp] theorem updates_update (content : Nat → BitVec 8) (es : List ConfigEvent) :
    updates (.update content :: es) = updates es + 1 := List.countP_cons_of_pos rfl

@[simp] theorem updates_access (e : Answered ConfigCall ConfigAnswer) (es : List ConfigEvent) :
    updates (.access e :: es) = updates es := List.countP_cons_of_neg Bool.false_ne_true

theorem updates_append (es es' : List ConfigEvent) :
    updates (es ++ es') = updates es + updates es' := List.countP_append

theorem after_append : s.after (es ++ es') = (s.after es).after es' := by
  induction es generalizing s with
  | nil => rfl
  | cons e es ih =>
    cases e with
    | update content => exact ih
    | access e => exact ih

theorem answersAll_append :
    s.AnswersAll (es ++ es') ↔ s.AnswersAll es ∧ (s.after es).AnswersAll es' := by
  induction es generalizing s with
  | nil => exact (iff_of_eq (true_and _)).symm
  | cons e es ih =>
    cases e with
    | update content => exact ih
    | access e => exact (and_congr_right' ih).trans and_assoc.symm

/-- The generation counts the updates modulo 256. -/
theorem after_generation :
    (s.after es).generation = s.generation + BitVec.ofNat 8 (updates es) := by
  induction es generalizing s with
  | nil => exact (BitVec.add_zero _).symm
  | cons e es ih =>
    cases e with
    | update content =>
      rw [ConfigState.after, ih, updates_update, BitVec.ofNat_add, BitVec.add_assoc,
        BitVec.add_comm (BitVec.ofNat 8 (updates es))]
      rfl
    | access e => rw [ConfigState.after, ih, updates_access]

/-- Without an update all accesses read one state. -/
theorem answers_of_no_update (hnone : updates es = 0) (hall : s.AnswersAll es) :
    ∀ e ∈ accesses es, s.Answers e := by
  induction es with
  | nil => simp [accesses]
  | cons e es ih =>
    cases e with
    | update content => simp at hnone
    | access e =>
      rw [updates_access] at hnone
      obtain ⟨hfirst, hrest⟩ := hall
      intro x hx
      obtain rfl | hx := List.mem_cons.mp hx
      · exact hfirst
      · exact ih hnone hrest x hx

/-- What is a snapshot of the events behind an access is one of all of them. -/
theorem Snapshot.of_after {e : Answered ConfigCall ConfigAnswer} {offset : BitVec 32} {len : Nat}
    {buf : Buffer} (h : Snapshot (s.after es) es' offset len buf) :
    Snapshot s (es ++ .access e :: es') offset len buf := by
  obtain ⟨es₁, es₂, rfl, hbytes⟩ := h
  refine ⟨es ++ .access e :: es₁, es₂, by simp, fun i hi => ?_⟩
  rw [hbytes i hi, after_append]
  rfl

theorem FewUpdates.of_append (h : FewUpdates (es ++ es')) : FewUpdates es' := by
  rintro a b c e e' rfl
  exact h (es ++ a) b c e e' (List.append_assoc _ _ _).symm

theorem fewUpdates_of_updates_lt (h : updates es < 256) : FewUpdates es := by
  rintro a b c e e' rfl - - -
  simp only [updates, List.countP_append, List.countP_cons] at h ⊢
  omega

/-- The interleaving up to an access and behind it. -/
theorem accesses_eq_append_cons {first rest : List (Answered ConfigCall ConfigAnswer)}
    {e : Answered ConfigCall ConfigAnswer} (h : accesses es = first ++ e :: rest) :
    ∃ b c, es = b ++ .access e :: c ∧ accesses b = first ∧ accesses c = rest := by
  obtain ⟨b, c, rfl, hb, hc⟩ := List.filterMap_eq_append_iff.mp h
  obtain ⟨d, x, c, rfl, hd, hx, hrest⟩ := List.filterMap_eq_cons_iff.mp hc
  obtain rfl : x = .access e := by
    cases x with
    | update content => cases hx
    | access x => exact congrArg ConfigEvent.access (Option.some.inj hx)
  refine ⟨b ++ d, c, by simp, ?_, hrest⟩
  rw [accesses, List.filterMap_append, List.filterMap_eq_nil_iff.mpr hd, List.append_nil]
  exact hb

theorem accesses_eq_cons {e : Answered ConfigCall ConfigAnswer}
    {rest : List (Answered ConfigCall ConfigAnswer)} (h : accesses es = e :: rest) :
    ∃ b c, es = b ++ .access e :: c ∧ accesses b = [] ∧ accesses c = rest :=
  accesses_eq_append_cons h

end

/-! ## What the driver reads -/

section

variable {vdev : ModernDevice} {r : MappedRange} (hconfig : vdev.config = some r)

include hconfig

/-- A field inside the configuration is read at once. -/
theorem vioModernGetConfig_run {offset len : BitVec 32} {buf : Buffer} {pos : Nat}
    {events : List (Answered ConfigCall ConfigAnswer)} {outcome : Outcome Buffer}
    (hlen : len = 1 ∨ len = 2 ∨ len = 4) (hin : offset.toNat + len.toNat ≤ r.len.toNat)
    (hrun : Program.Run (vioModernGetConfig vdev offset buf pos len) events outcome) :
    ∃ bytes, events = [⟨.field offset len.toNat, bytes⟩] ∧
      outcome = .done (buf.write pos len.toNat bytes) := by
  have hlt := r.len.isLt
  have hsum : (offset + len).toNat = offset.toNat + len.toNat :=
    BitVec.toNat_add_of_lt (by omega)
  rw [vioModernGetConfig, hconfig] at hrun
  dsimp only at hrun
  rw [if_neg (by omega), if_pos hlen, Program.ask_bind] at hrun
  obtain ⟨bytes, rest, rfl, hrest⟩ := hrun.of_call
  cases hrest
  exact ⟨bytes, rfl, rfl⟩

/-- The fields are read to the end. Where all accesses read one state, they are those of the
state. -/
theorem readFields_run {offset : BitVec 32} {bytes n : Nat} {buf : Buffer}
    {events : List (Answered ConfigCall ConfigAnswer)} {outcome : Outcome Buffer}
    (hbytes : bytes = 1 ∨ bytes = 4) (hin : offset.toNat + bytes * n ≤ r.len.toNat)
    (hrun : Program.Run (readFields vdev offset bytes n buf) events outcome) :
    (∀ e ∈ events, ¬ ReadsGeneration e) ∧ ∃ buf', outcome = .done buf' ∧
      ∀ s : ConfigState, (∀ e ∈ events, s.Answers e) →
        ∀ i < bytes * n, buf' i = s.content (offset.toNat + i) := by
  induction n generalizing events outcome with
  | zero =>
    cases hrun
    exact ⟨fun _ he => absurd he List.not_mem_nil, buf, rfl, fun _ _ i hi => absurd hi (by omega)⟩
  | succ n ih =>
    have hlt := r.len.isLt
    have hstep : bytes * (n + 1) = bytes * n + bytes := Nat.mul_succ bytes n
    obtain ⟨buf₁, first, second, rfl, hfirst, hsecond⟩ | ⟨hcut, -⟩ | ⟨hcut, -⟩ := hrun.of_bind
    · obtain ⟨hnone, buf₁, ⟨⟩, hfields⟩ := ih (by omega) hfirst
      have hoffset : (BitVec.ofNat 32 (offset.toNat + bytes * n)).toNat =
          offset.toNat + bytes * n := by
        rw [BitVec.toNat_ofNat, Nat.mod_eq_of_lt (by omega)]
      have hlen : (BitVec.ofNat 32 bytes).toNat = bytes := by
        rw [BitVec.toNat_ofNat, Nat.mod_eq_of_lt (by omega)]
      have hsize : BitVec.ofNat 32 bytes = 1 ∨ BitVec.ofNat 32 bytes = 2 ∨
          BitVec.ofNat 32 bytes = 4 := by
        obtain rfl | rfl := hbytes
        · exact .inl rfl
        · exact .inr (.inr rfl)
      obtain ⟨answer, rfl, rfl⟩ := vioModernGetConfig_run hconfig hsize
        (by rw [hoffset, hlen]; omega) hsecond
      refine ⟨fun e he => ?_, _, rfl, fun s hs i hi => ?_⟩
      · obtain he | he := List.mem_append.mp he
        · exact hnone e he
        · obtain rfl := List.mem_singleton.mp he
          exact fun h => by cases h
      · have hanswer : ∀ j < (BitVec.ofNat 32 bytes).toNat, answer j =
            s.content ((BitVec.ofNat 32 (offset.toNat + bytes * n)).toNat + j) :=
          hs _ (List.mem_append_right _ List.mem_cons_self)
        rw [hlen, hoffset] at hanswer
        rw [Buffer.write, hlen, Nat.mul_comm n bytes]
        split_ifs with hwritten
        · rw [hanswer _ (by omega)]
          congr 1
          omega
        · exact hfields s (fun e he => hs e (List.mem_append_left _ he)) i (by omega)
    · obtain ⟨-, _, ⟨⟩, -⟩ := ih (by omega) hcut
    · obtain ⟨-, _, ⟨⟩, -⟩ := ih (by omega) hcut

/-- The loop returns what the configuration is at one instant, if `old` is the generation before
it. It is cut off only if there were as many updates as turns. -/
theorem creadLoop_run {offset : BitVec 32} {count bytes fuel : Nat} {old : BitVec 8}
    {buf : Buffer} {outcome : Outcome Buffer} {s : ConfigState} {es : List ConfigEvent}
    (hbytes : bytes = 1 ∨ bytes = 4) (hin : offset.toNat + bytes * count ≤ r.len.toNat)
    (hrun : Program.Run (creadLoop vdev offset count bytes fuel old buf) (accesses es) outcome)
    (hanswers : s.AnswersAll es) (hold : old = s.generation)
    (hfew : FewUpdates (.access ⟨.generation, old⟩ :: es)) :
    (∃ buf', outcome = .done buf' ∧ Snapshot s es offset (bytes * count) buf') ∨
      (outcome = .unfinished ∧ fuel ≤ updates es) := by
  induction fuel generalizing old buf s es with
  | zero =>
    rw [creadLoop] at hrun
    generalize accesses es = events at hrun
    cases hrun
    exact .inr ⟨rfl, Nat.zero_le _⟩
  | succ fuel ih =>
    rw [creadLoop] at hrun
    obtain ⟨buf₁, first, second, hes, hfirst, hsecond⟩ | ⟨hcut, -⟩ | ⟨hcut, -⟩ := hrun.of_bind
    · rw [Program.ask_bind] at hsecond
      obtain ⟨gen, rest, rfl, hrest⟩ := hsecond.of_call
      obtain ⟨b, c, rfl, rfl, rfl⟩ := accesses_eq_append_cons hes
      obtain ⟨hnone, buf₁, ⟨⟩, hfields⟩ := readFields_run hconfig hbytes hin hfirst
      have hlt : updates b < 256 :=
        hfew [] b c ⟨.generation, old⟩ ⟨.generation, gen⟩ rfl rfl rfl hnone
      obtain ⟨hb, hgen, hc⟩ := answersAll_append.mp hanswers
      have hgen : gen = (s.after b).generation := hgen
      have hcount : gen = old + BitVec.ofNat 8 (updates b) := by rw [hgen, after_generation, hold]
      split_ifs at hrest with hsame
      · -- as many updates as a multiple of 256, that is none
        generalize accesses c = rest at hrest
        cases hrest
        rw [hsame] at hcount
        have hzero : BitVec.ofNat 8 (updates b) = 0 := BitVec.add_right_eq_self.mp hcount.symm
        have hnoUpdate : updates b = 0 := by
          have htoNat := congrArg BitVec.toNat hzero
          rw [BitVec.toNat_ofNat, Nat.mod_eq_of_lt hlt] at htoNat
          exact htoNat
        exact .inl ⟨buf₁, rfl, [], b ++ .access ⟨.generation, gen⟩ :: c, rfl,
          hfields s (answers_of_no_update hnoUpdate hb)⟩
      · have hupdate : updates b ≠ 0 := by
          intro hzero
          rw [hzero] at hcount
          exact hsame (hcount.trans (BitVec.add_zero _))
        rw [← List.cons_append] at hfew
        obtain ⟨buf', rfl, hsnapshot⟩ | ⟨rfl, hfuel⟩ := ih hrest hc hgen hfew.of_append
        · exact .inl ⟨buf', rfl, hsnapshot.of_after⟩
        · refine .inr ⟨rfl, ?_⟩
          rw [updates_append, updates_access]
          omega
    · obtain ⟨-, _, ⟨⟩, -⟩ := readFields_run hconfig hbytes hin hcut
    · obtain ⟨-, _, ⟨⟩, -⟩ := readFields_run hconfig hbytes hin hcut

/-- `virtio_cread_many` -/
theorem virtioCreadMany_run {offset : BitVec 32} {count bytes fuel : Nat} {buf : Buffer}
    {outcome : Outcome Buffer} {s : ConfigState} {es : List ConfigEvent}
    (hbytes : bytes = 1 ∨ bytes = 4) (hin : offset.toNat + bytes * count ≤ r.len.toNat)
    (hrun : Program.Run (virtioCreadMany vdev fuel offset buf count bytes) (accesses es) outcome)
    (hanswers : s.AnswersAll es) (hfew : FewUpdates es) :
    (∃ buf', outcome = .done buf' ∧ Snapshot s es offset (bytes * count) buf') ∨
      (outcome = .unfinished ∧ fuel ≤ updates es) := by
  rw [virtioCreadMany, Program.ask_bind] at hrun
  obtain ⟨gen, rest, hes, hrest⟩ := hrun.of_call
  obtain ⟨b, c, rfl, -, rfl⟩ := accesses_eq_cons hes
  obtain ⟨-, hgen, hc⟩ := answersAll_append.mp hanswers
  obtain ⟨buf', rfl, hsnapshot⟩ | ⟨rfl, hfuel⟩ :=
    creadLoop_run hconfig hbytes hin hrest hc hgen hfew.of_append
  · exact .inl ⟨buf', rfl, hsnapshot.of_after⟩
  · refine .inr ⟨rfl, ?_⟩
    rw [updates_append, updates_access]
    omega

end

/-- **A field of the configuration is read at one instant.** If the device makes fewer than 256
updates between two reads of the generation, then `virtio_get_config` returns the bytes of the
configuration after a part of the events, unless it was followed for no more turns than there are
updates. -/
theorem virtioGetConfig_snapshot {vdev : ModernDevice} {r : MappedRange}
    (hconfig : vdev.config = some r) {offset len : BitVec 32}
    (hin : offset.toNat + len.toNat ≤ r.len.toNat) {fuel : Nat} {buf : Buffer}
    {outcome : Outcome Buffer} {s : ConfigState} {es : List ConfigEvent}
    (hrun : Program.Run (virtioGetConfig vdev fuel offset buf len) (accesses es) outcome)
    (hanswers : s.AnswersAll es) (hfew : FewUpdates es) :
    (∃ buf', outcome = .done buf' ∧ Snapshot s es offset len.toNat buf') ∨
      (outcome = .unfinished ∧ fuel ≤ updates es) := by
  unfold virtioGetConfig at hrun
  split_ifs at hrun with hsingle height
  · obtain ⟨bytes, hes, rfl⟩ := vioModernGetConfig_run hconfig hsingle hin hrun
    obtain ⟨b, c, rfl, -, -⟩ := accesses_eq_cons hes
    obtain ⟨-, hread, -⟩ := answersAll_append.mp hanswers
    refine .inl ⟨_, rfl, b, _, rfl, fun i hi => ?_⟩
    rw [Buffer.write, if_pos ⟨Nat.zero_le i, by omega⟩, Nat.sub_zero]
    exact hread i hi
  · subst height
    exact virtioCreadMany_run hconfig (.inr rfl) hin hrun hanswers hfew
  · rw [← Nat.one_mul len.toNat]
    exact virtioCreadMany_run hconfig (.inl rfl) (by omega) hrun hanswers hfew

/-- The two halves of 8 bytes are read before and after an update, and then once more. -/
def tornRead : List ConfigEvent :=
  [.access ⟨.generation, 7#8⟩, .access ⟨.field 0 4, fun _ => 0⟩, .update fun _ => 1,
    .access ⟨.field 4 4, fun _ => 1⟩, .access ⟨.generation, 8#8⟩,
    .access ⟨.field 0 4, fun _ => 1⟩, .access ⟨.field 4 4, fun _ => 1⟩,
    .access ⟨.generation, 8#8⟩]

/-- The driver reads like this, and returns what the device has after the update. -/
theorem virtioGetConfig_snapshot_torn : ∃ buf' : Buffer,
    Program.Run (virtioGetConfig (pageDevice 0) 2 0 (fun _ => 0) 8) (accesses tornRead)
      (.done buf') ∧ Snapshot ⟨fun _ => 0, 7⟩ tornRead 0 8 buf' := by
  have hrun : ∃ buf', Program.Run (virtioGetConfig (pageDevice 0) 2 0 (fun _ => 0) 8)
      (accesses tornRead) (.done buf') := by
    have step : ∀ (c : ConfigCall) {next : ConfigAnswer c → ConfigProgram Buffer}
        (answer : ConfigAnswer c) {events : List (Answered ConfigCall ConfigAnswer)}
        {outcome : Outcome Buffer}, (next answer).Run events outcome →
          (Program.call c next).Run (⟨c, answer⟩ :: events) outcome :=
      fun _ _ answer _ _ => .call answer
    apply Exists.intro
    refine step .generation 7#8 ?_
    refine step (.field 0 4) (fun _ => 0) ?_
    refine step (.field 4 4) (fun _ => 1) ?_
    refine step .generation 8#8 ?_
    refine step (.field 0 4) (fun _ => 1) ?_
    refine step (.field 4 4) (fun _ => 1) ?_
    refine step .generation 8#8 ?_
    exact .done _
  obtain ⟨buf', hrun⟩ := hrun
  have hanswers : ConfigState.AnswersAll ⟨fun _ => 0, 7⟩ tornRead :=
    ⟨rfl, fun _ _ => rfl, fun _ _ => rfl, rfl, fun _ _ => rfl, fun _ _ => rfl, rfl, trivial⟩
  obtain ⟨_, ⟨⟩, hsnapshot⟩ | ⟨⟨⟩, -⟩ := virtioGetConfig_snapshot
    (r := ⟨0, 0x1000, 0x1000, 0x10000⟩) rfl (by decide) hrun hanswers
      (fewUpdates_of_updates_lt (by decide))
  exact ⟨buf', hrun, hsnapshot⟩

end VioGpu.VirtIO
