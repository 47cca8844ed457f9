import VioGpu.Lib.Except
import VioGpu.Queue.SgArray

/-!
# What the elements of a command stand for, and how many there are

The elements `QueueBufferLocked` makes stand for the bytes of the command, of its data and of its
response (`queueBufferLocked_denotes`). Nothing but an assertion after the writes keeps them in the
array: they stay inside exactly for vbuffers of at most 16 pieces (`staysInside_iff`).
-/

namespace VioGpu.Queue

open Lib VirtIO

/-! ## The loop over the data -/

namespace AddressSpace

variable {m : AddressSpace}

/-- What the elements `es` are made for: they stand for these bytes and have a length. -/
structure StandFor (m : AddressSpace) (es : List Scatterlist) (va size : Nat) : Prop where
  bytes : es.flatMap elementBytes = m.bytes va size
  length : ∀ e ∈ es, 1 ≤ e.length ∧ e.length ≤ pageSize

theorem StandFor.nil (va : Nat) : m.StandFor [] va 0 := ⟨rfl, by simp⟩

theorem StandFor.single {va size : Nat} (hpos : 1 ≤ size) (h : WithinPage va size) :
    m.StandFor [⟨m.mmGetPhysicalAddress va, size⟩] va size := by
  refine ⟨?_, ?_⟩
  · rw [List.flatMap_singleton, elementBytes_eq h]
  · intro e he
    rw [List.mem_singleton.mp he]
    exact ⟨hpos, Nat.le_of_add_left_le h⟩

theorem StandFor.append {es fs : List Scatterlist} {va n k : Nat} (hes : m.StandFor es va n)
    (hfs : m.StandFor fs (va + n) k) : m.StandFor (es ++ fs) va (n + k) := by
  refine ⟨?_, ?_⟩
  · rw [List.flatMap_append, hes.bytes, hfs.bytes, bytes_add]
  · intro e he
    rcases List.mem_append.mp he with he | he
    · exact hes.length e he
    · exact hfs.length e he

theorem buildSGElement_eq {a : SgArray} {buf size : Nat} (hsize : size ≠ 0)
    (hvalid : m.mmIsAddressValid buf = true) : m.buildSGElement a buf size =
      (a.write ⟨m.mmGetPhysicalAddress buf, min size pageSize⟩).map fun a => (true, a) := by
  rw [buildSGElement, if_pos ⟨hsize, hvalid⟩]
  rfl

theorem ValidRange.head {va size : Nat} (h : m.ValidRange va size) (hsize : size ≠ 0) :
    m.mmIsAddressValid va = true := h 0 (Nat.pos_of_ne_zero hsize)

/-- A page further. -/
theorem ValidRange.next {va size : Nat} (h : m.ValidRange va size) :
    m.ValidRange (va + pageSize) (size - min size pageSize) := by
  intro i hi
  rw [Nat.add_assoc]
  exact h _ (by omega)

/-- Where the loop goes on at a page, it goes on at its start. -/
theorem next_aligned {va size : Nat} (h : va % pageSize = 0 ∨ WithinPage va size) :
    (va + pageSize) % pageSize = 0 ∨ WithinPage (va + pageSize) (size - min size pageSize) := by
  rcases h with h | h
  · left
    rwa [Nat.add_mod_right]
  · right
    unfold WithinPage at *
    rw [Nat.add_mod_right]
    omega

/-- An element is within its page. -/
theorem withinPage_min {va size : Nat} (h : va % pageSize = 0 ∨ WithinPage va size) :
    WithinPage va (min size pageSize) := by
  unfold WithinPage at *
  omega

/-- The element of one turn, followed by those of the rest of the data. -/
theorem StandFor.cons {es : List Scatterlist} {va size : Nat} (hsize : size ≠ 0)
    (hva : va % pageSize = 0 ∨ WithinPage va size)
    (h : m.StandFor es (va + pageSize) (size - min size pageSize)) :
    m.StandFor (⟨m.mmGetPhysicalAddress va, min size pageSize⟩ :: es) va size := by
  have hpos : 1 ≤ min size pageSize := Nat.le_min.mpr ⟨Nat.pos_of_ne_zero hsize, by decide⟩
  have hfirst := StandFor.single (m := m) hpos (withinPage_min hva)
  have hrest : m.StandFor es (va + min size pageSize) (size - min size pageSize) := by
    rcases Nat.le_total size pageSize with hle | hle
    · rw [Nat.min_eq_left hle, Nat.sub_self] at h ⊢
      exact ⟨h.bytes.trans (bytes_zero _), h.length⟩
    · rwa [Nat.min_eq_right hle] at h ⊢
  have hall := hfirst.append hrest
  rwa [Nat.add_sub_cancel' (Nat.min_le_left size pageSize)] at hall

/-- The number of pages data of this size takes. -/
def dataPages (size : Nat) : Nat := (size + pageSize - 1) / pageSize

theorem dataPages_zero : dataPages 0 = 0 := rfl

/-- One turn takes one page. -/
theorem dataPages_succ {size : Nat} (h : size ≠ 0) :
    dataPages size = dataPages (size - min size pageSize) + 1 := by
  unfold dataPages pageSize
  omega

/-- One turn of the loop. -/
theorem dataLoop_turn {dataBuf dataSize : Nat} {a : SgArray} (hsize : dataSize ≠ 0)
    (hvalid : m.mmIsAddressValid dataBuf = true) (hout : a.outcnt < sgEntries)
    (hin : a.incnt = 0) : ∃ a', (∀ fuel, m.dataLoop (fuel + 1) dataBuf dataSize a =
        m.dataLoop fuel (dataBuf + pageSize) (dataSize - min dataSize pageSize) a') ∧
      a'.out = a.out ++ [⟨m.mmGetPhysicalAddress dataBuf, min dataSize pageSize⟩] ∧
      a'.outcnt = a.outcnt + 1 ∧ a'.incnt = 0 := by
  obtain ⟨a', hwrite, hspec⟩ :=
    SgArray.write_countOut (e := ⟨m.mmGetPhysicalAddress dataBuf, min dataSize pageSize⟩) hout hin
  refine ⟨a'.countOut, fun fuel => ?_, hspec⟩
  rw [dataLoop, if_neg hsize, buildSGElement_eq hsize hvalid, hwrite]
  rfl

theorem dataLoop_zero (fuel dataBuf : Nat) (a : SgArray) : m.dataLoop fuel dataBuf 0 a = .ok a := by
  cases fuel <;> rfl

/-- **The loop over the data** ends and adds an element for each page of it. -/
theorem dataLoop_standFor {pages dataBuf dataSize : Nat} {a : SgArray}
    (hpages : dataPages dataSize = pages) (hvalid : m.ValidRange dataBuf dataSize)
    (hdata : dataBuf % pageSize = 0 ∨ WithinPage dataBuf dataSize)
    (hroom : a.outcnt + pages ≤ sgEntries) (hin : a.incnt = 0) :
    ∃ a' es, (∀ fuel, pages ≤ fuel → m.dataLoop fuel dataBuf dataSize a = .ok a') ∧
      a'.out = a.out ++ es ∧ m.StandFor es dataBuf dataSize ∧
      a'.outcnt = a.outcnt + pages ∧ a'.incnt = 0 := by
  induction pages generalizing dataBuf dataSize a with
  | zero =>
    have hzero : dataSize = 0 := by
      unfold dataPages pageSize at hpages
      omega
    subst hzero
    exact ⟨a, [], fun fuel _ => dataLoop_zero fuel dataBuf a, (List.append_nil _).symm, .nil _,
      rfl, hin⟩
  | succ pages ih =>
    have hsize : dataSize ≠ 0 := by
      intro hzero
      rw [hzero, dataPages_zero] at hpages
      cases hpages
    have hrest := dataPages_succ hsize
    obtain ⟨a₁, hturn, hout₁, hcnt₁, hin₁⟩ :=
      dataLoop_turn hsize (hvalid.head hsize) (by omega) hin
    obtain ⟨a', es, hloop, hout, hes, hcnt, hin'⟩ :=
      ih (by omega) hvalid.next (next_aligned hdata) (by omega) hin₁
    refine ⟨a', ⟨m.mmGetPhysicalAddress dataBuf, min dataSize pageSize⟩ :: es, fun fuel hfuel => ?_,
      ?_, .cons hsize hdata hes, by omega, hin'⟩
    · obtain ⟨fuel, rfl⟩ := Nat.exists_eq_add_of_le' (Nat.le_of_add_left_le hfuel)
      rw [hturn, hloop fuel (by omega)]
    · rw [hout, hout₁, List.append_assoc]
      rfl

/-! ## The whole list -/

/-- The element of the command. -/
theorem command_built {p : PlacedVBuffer} (h : p.Proper m) : ∃ a,
    m.buildSGElement .empty p.buf p.vbuf.size = .ok (true, a) ∧
      a.countOut.out = [⟨m.mmGetPhysicalAddress p.buf, p.vbuf.size⟩] ∧
      a.countOut.outcnt = 1 ∧ a.countOut.incnt = 0 := by
  have hsize : p.vbuf.size ≠ 0 := Nat.ne_of_gt h.size_pos
  obtain ⟨a, hwrite, hspec⟩ := SgArray.write_countOut
    (e := ⟨m.mmGetPhysicalAddress p.buf, min p.vbuf.size pageSize⟩) (a := .empty) (by decide) rfl
  rw [Nat.min_eq_left h.size_le] at hwrite hspec
  refine ⟨a, ?_, hspec⟩
  rw [buildSGElement_eq hsize (h.valid.1.head hsize), Nat.min_eq_left h.size_le, hwrite]
  rfl

theorem room_of_proper {p : PlacedVBuffer} (h : p.Proper m) :
    1 + dataPages p.vbuf.dataSize + (if p.vbuf.respSize ≠ 0 then 1 else 0) ≤ sgEntries := by
  have hpieces := h.pieces
  rwa [VBuffer.sgCount, if_pos (Nat.ne_of_gt h.size_pos)] at hpieces

/-- The test before the loop makes no difference. -/
theorem queueData_eq (fuel : Nat) (p : PlacedVBuffer) (a : SgArray) :
    m.queueData fuel p a = m.dataLoop fuel p.dataBuf p.vbuf.dataSize a := by
  unfold queueData
  by_cases hzero : p.vbuf.dataSize = 0
  · rw [hzero, dataLoop_zero]
    rfl
  · rw [if_pos hzero]

/-- The element of the response, where there is one. -/
theorem response_built {p : PlacedVBuffer} (h : p.Proper m) {a : SgArray} (hin : a.incnt = 0)
    (hroom : a.outcnt + (if p.vbuf.respSize ≠ 0 then 1 else 0) ≤ sgEntries) :
    ∃ a', m.queueResponse p a = .ok a' ∧ a'.out = a.out ∧
      m.StandFor a'.inn p.respBuf p.vbuf.respSize := by
  unfold queueResponse
  by_cases hzero : p.vbuf.respSize = 0
  · rw [hzero]
    refine ⟨a, rfl, rfl, ?_⟩
    rw [SgArray.inn, hin]
    exact .nil _
  · rw [if_pos hzero] at hroom
    obtain ⟨a', hwrite, hout, hinn, -, -⟩ := SgArray.write_countIn
      (e := ⟨m.mmGetPhysicalAddress p.respBuf, min p.vbuf.respSize pageSize⟩) (by omega) hin
    rw [if_pos hzero, buildSGElement_eq hzero (h.valid.2.2.head hzero), hwrite]
    refine ⟨a'.countIn, rfl, hout, ?_⟩
    rw [hinn, Nat.min_eq_left h.respSize_le]
    exact .single (Nat.pos_of_ne_zero hzero) h.resp

/-- **The list of a command** is made within as many turns of the loop as its data has pages. The
elements the device reads stand for the command and its data, in this order, those it writes for
the response, and each has between one byte and a page. -/
theorem queueBufferLocked_denotes (m : AddressSpace) (p : PlacedVBuffer) (h : p.Proper m) :
    ∃ a, (∀ fuel, dataPages p.vbuf.dataSize ≤ fuel → m.queueBufferLocked fuel p = .ok a) ∧
      a.out.flatMap elementBytes =
        m.bytes p.buf p.vbuf.size ++ m.bytes p.dataBuf p.vbuf.dataSize ∧
      a.inn.flatMap elementBytes = m.bytes p.respBuf p.vbuf.respSize ∧
      ∀ e ∈ a.out ++ a.inn, 1 ≤ e.length ∧ e.length ≤ pageSize := by
  obtain ⟨a₀, hbuilt, hout₀, hcnt₀, hin₀⟩ := command_built h
  have hroom := room_of_proper h
  obtain ⟨a₁, es, hloop, hout₁, hes, hcnt₁, hin₁⟩ :=
    dataLoop_standFor rfl h.valid.2.1 h.data (a := a₀.countOut) (by omega) hin₀
  rw [hcnt₀] at hcnt₁
  obtain ⟨a, hresp, hout, hinn⟩ := response_built h hin₁ (by rwa [hcnt₁])
  have hcmd := StandFor.single (m := m) h.size_pos h.buf
  have hcut : a.out = [⟨m.mmGetPhysicalAddress p.buf, p.vbuf.size⟩] ++ es := by
    rw [hout, hout₁, hout₀]
  refine ⟨a, fun fuel hfuel => ?_, ?_, hinn.bytes, fun e he => ?_⟩
  · rw [queueBufferLocked, hbuilt]
    simp only [ok_bind, if_true, queueData_eq, hloop fuel hfuel]
    exact hresp
  · rw [hcut, List.flatMap_append, hcmd.bytes, hes.bytes]
  · rw [hcut] at he
    rcases List.mem_append.mp he with he | he
    · rcases List.mem_append.mp he with he | he
      · exact hcmd.length e he
      · exact hes.length e he
    · exact hinn.length e he

/-- Memory whose pages are all valid, in frames of the other order of the even and the odd. -/
def swapped : AddressSpace := ⟨fun _ => true, fun n => if n % 2 = 0 then n + 1 else n - 1⟩

/-- `AttachBacking` with 300 entries, which take two pages. -/
def twoPages : PlacedVBuffer where
  vbuf := ⟨some (.ctrl (.resourceAttachBacking 1 (.replicate 300 ⟨4096, 4096⟩))), 32, some 0, 4800,
    none, 24, false⟩
  buf := 8200
  dataBuf := 16384
  respBuf := 8232

theorem queueBufferLocked_denotes_twoPages : ∃ a,
    swapped.queueBufferLocked 2 twoPages = .ok a ∧
      a.out.flatMap elementBytes = swapped.bytes 8200 32 ++ swapped.bytes 16384 4800 ∧
      a.inn.flatMap elementBytes = swapped.bytes 8232 24 := by
  have hproper : twoPages.Proper swapped :=
    ⟨by decide, by decide, by decide, by decide, by unfold WithinPage; decide,
      by unfold WithinPage; decide, .inl rfl, fun _ _ => rfl, fun _ _ => rfl, fun _ _ => rfl⟩
  obtain ⟨a, hloop, hout, hinn, -⟩ := queueBufferLocked_denotes swapped twoPages hproper
  exact ⟨a, hloop 2 (by decide), hout, hinn⟩

/-! ## The end of the array -/

theorem buildSGElement_inside {a : SgArray} (h : a.outcnt + a.incnt < sgEntries) (buf size : Nat) :
    ∃ built a', m.buildSGElement a buf size = .ok (built, a') ∧ a'.outcnt = a.outcnt ∧
      a'.incnt = a.incnt ∧ (built = true → size ≠ 0) := by
  unfold buildSGElement
  split_ifs with hbuild
  · obtain ⟨a', hwrite, hout, hin, -⟩ := SgArray.write_eq
      (e := ⟨m.mmGetPhysicalAddress buf, min size pageSize⟩) h
    rw [hwrite]
    exact ⟨true, a', rfl, hout, hin, fun _ => hbuild.1⟩
  · exact ⟨false, a, rfl, rfl, rfl, nofun⟩

/-- Behind the end of the array there is no room. -/
theorem buildSGElement_outside {a : SgArray} {buf size : Nat} (hsize : size ≠ 0)
    (hvalid : m.mmIsAddressValid buf = true) (h : a.outcnt + a.incnt = sgEntries) :
    m.buildSGElement a buf size = .error (.outOfRange sgEntries) := by
  rw [buildSGElement_eq hsize hvalid, SgArray.write, if_neg (by omega), h]
  rfl

/-- With room for a page of data the loop stays in the array. -/
theorem dataLoop_inside (fuel dataBuf dataSize : Nat) {a : SgArray}
    (hroom : a.outcnt + dataPages dataSize ≤ sgEntries) (hin : a.incnt = 0) :
    m.dataLoop fuel dataBuf dataSize a = .error .unbounded ∨
      ∃ a', m.dataLoop fuel dataBuf dataSize a = .ok a' ∧
        a'.outcnt ≤ a.outcnt + dataPages dataSize ∧ a'.incnt = 0 := by
  induction fuel generalizing dataBuf dataSize a with
  | zero =>
    by_cases hzero : dataSize = 0
    · subst hzero
      exact .inr ⟨a, rfl, Nat.le_add_right _ _, hin⟩
    · exact .inl (if_neg hzero)
  | succ fuel ih =>
    by_cases hzero : dataSize = 0
    · subst hzero
      exact .inr ⟨a, rfl, Nat.le_add_right _ _, hin⟩
    · have hpages := dataPages_succ hzero
      obtain ⟨built, a₁, hbuilt, hout₁, hin₁, -⟩ :=
        m.buildSGElement_inside (a := a) (by omega) dataBuf dataSize
      rw [dataLoop, if_neg hzero, hbuilt]
      cases built with
      | true =>
        have hcnt : a₁.countOut.outcnt = a.outcnt + 1 := by rw [SgArray.countOut, hout₁]
        have hrest := @ih (dataBuf + pageSize) (dataSize - min dataSize pageSize) a₁.countOut
          (by omega) (hin₁.trans hin)
        have hsum : a.outcnt + 1 + dataPages (dataSize - min dataSize pageSize) =
            a.outcnt + dataPages dataSize := by omega
        rw [hcnt, hsum] at hrest
        exact hrest
      | false =>
        have hrest := @ih dataBuf dataSize a₁ (by omega) (hin₁.trans hin)
        rw [hout₁] at hrest
        exact hrest

/-- Without room for a page of data the loop leaves the array. -/
theorem dataLoop_outside {pages dataSize : Nat} (dataBuf : Nat) {a : SgArray}
    (hpages : dataPages dataSize = pages) (hvalid : ∀ va, m.mmIsAddressValid va = true)
    (hroom : sgEntries < a.outcnt + pages) (hout : a.outcnt ≤ sgEntries) (hin : a.incnt = 0) :
    m.dataLoop pages dataBuf dataSize a = .error (.outOfRange sgEntries) := by
  induction pages generalizing dataBuf dataSize a with
  | zero => omega
  | succ pages ih =>
    have hsize : dataSize ≠ 0 := by
      intro hzero
      rw [hzero, dataPages_zero] at hpages
      cases hpages
    have hrest := dataPages_succ hsize
    by_cases hfull : a.outcnt = sgEntries
    · rw [dataLoop, if_neg hsize, buildSGElement_outside hsize (hvalid _) (by omega)]
      rfl
    · obtain ⟨a₁, hturn, -, hcnt₁, hin₁⟩ := dataLoop_turn hsize (hvalid dataBuf) (by omega) hin
      rw [hturn]
      exact ih _ (by omega) (by omega) (by omega) hin₁

/-- The command takes at most one element. -/
theorem command_inside (p : PlacedVBuffer) : ∃ built a,
    m.buildSGElement .empty p.buf p.vbuf.size = .ok (built, a) ∧
      (if built then a.countOut else a).outcnt ≤ (if p.vbuf.size ≠ 0 then 1 else 0) ∧
      (if built then a.countOut else a).incnt = 0 := by
  obtain ⟨built, a, hbuilt, hout, hin, hsize⟩ :=
    m.buildSGElement_inside (a := .empty) (by decide) p.buf p.vbuf.size
  refine ⟨built, a, hbuilt, ?_, ?_⟩
  · cases built with
    | true =>
      rw [if_pos (hsize rfl), if_pos rfl, SgArray.countOut, hout]
      rfl
    | false =>
      rw [if_neg Bool.false_ne_true, hout]
      exact Nat.zero_le _
  · cases built <;> exact hin

/-- With room for the response it is put inside the array. -/
theorem queueResponse_inside {p : PlacedVBuffer} {a : SgArray} (hin : a.incnt = 0)
    (hroom : a.outcnt + (if p.vbuf.respSize ≠ 0 then 1 else 0) ≤ sgEntries) :
    ∃ a', m.queueResponse p a = .ok a' := by
  unfold queueResponse
  split_ifs with hresp
  · rw [if_pos hresp] at hroom
    obtain ⟨built, a', hbuilt, -⟩ :=
      m.buildSGElement_inside (a := a) (by omega) p.respBuf p.vbuf.respSize
    rw [hbuilt]
    exact ⟨_, rfl⟩
  · exact ⟨a, rfl⟩

/-- In valid memory a command with a size takes one element. -/
theorem command_counts (p : PlacedVBuffer) (hvalid : ∀ va, m.mmIsAddressValid va = true) :
    ∃ built a, m.buildSGElement .empty p.buf p.vbuf.size = .ok (built, a) ∧
      (if built then a.countOut else a).outcnt = (if p.vbuf.size ≠ 0 then 1 else 0) ∧
      (if built then a.countOut else a).incnt = 0 := by
  by_cases hzero : p.vbuf.size = 0
  · rw [hzero]
    exact ⟨false, .empty, rfl, rfl, rfl⟩
  · obtain ⟨a, hwrite, -, hcnt, hin⟩ := SgArray.write_countOut
      (e := ⟨m.mmGetPhysicalAddress p.buf, min p.vbuf.size pageSize⟩) (a := .empty) (by decide) rfl
    rw [buildSGElement_eq hzero (hvalid _), hwrite, if_pos hzero]
    exact ⟨true, a, rfl, hcnt, hin⟩

end AddressSpace

namespace VBuffer

open AddressSpace

/-- Wherever the vbuffer is and whatever is valid, `QueueBufferLocked` writes inside `sg`. -/
def StaysInside (v : VBuffer) : Prop :=
  ∀ (m : AddressSpace) (fuel : Nat) (p : PlacedVBuffer) (i : Nat), p.vbuf = v →
    m.queueBufferLocked fuel p ≠ .error (.outOfRange i)

theorem staysInside_of_le {v : VBuffer} (h : v.sgCount ≤ sgEntries) : StaysInside v := by
  intro m fuel p i hp hfault
  subst hp
  change (if p.vbuf.size ≠ 0 then 1 else 0) + dataPages p.vbuf.dataSize +
    (if p.vbuf.respSize ≠ 0 then 1 else 0) ≤ sgEntries at h
  obtain ⟨built, a, hbuilt, hcnt, hin⟩ := m.command_inside p
  rw [queueBufferLocked, hbuilt, ok_bind] at hfault
  simp only [queueData_eq] at hfault
  rcases m.dataLoop_inside fuel p.dataBuf p.vbuf.dataSize
    (a := if built then a.countOut else a) (by omega) hin with hloop | ⟨a₁, hloop, hcnt₁, hin₁⟩
  · rw [hloop] at hfault
    cases hfault
  · obtain ⟨a₂, hresp⟩ := m.queueResponse_inside (p := p) hin₁ (by omega)
    rw [hloop, ok_bind, hresp] at hfault
    cases hfault

/-- Where everything is valid, a vbuffer at address 0 takes all its elements. -/
theorem not_staysInside_of_lt {v : VBuffer} (h : sgEntries < v.sgCount) : ¬StaysInside v := by
  intro hinside
  let m : AddressSpace := ⟨fun _ => true, id⟩
  have hvalid : ∀ va, m.mmIsAddressValid va = true := fun _ => rfl
  let p : PlacedVBuffer := ⟨v, 0, 0, 0⟩
  change sgEntries < (if v.size ≠ 0 then 1 else 0) + dataPages v.dataSize +
    (if v.respSize ≠ 0 then 1 else 0) at h
  obtain ⟨built, a, hbuilt, hcnt, hin⟩ := m.command_counts p hvalid
  change _ = (if v.size ≠ 0 then 1 else 0) at hcnt
  have hone : (if v.size ≠ 0 then 1 else 0) ≤ 1 := by split <;> omega
  have hfits : 1 ≤ sgEntries := by decide
  apply hinside m (dataPages v.dataSize) p sgEntries rfl
  rw [queueBufferLocked, hbuilt, ok_bind]
  simp only [queueData_eq]
  generalize (if built then a.countOut else a) = a₁ at hcnt hin ⊢
  rw [← hcnt] at h hone
  by_cases hdata : sgEntries < a₁.outcnt + dataPages v.dataSize
  · rw [dataLoop_outside 0 rfl hvalid hdata (by omega) hin]
    rfl
  · obtain ⟨a₂, es, hloop, -, -, hcnt₂, hin₂⟩ := dataLoop_standFor (m := m) (a := a₁)
      (rfl : dataPages v.dataSize = _) (fun i _ => hvalid _) (.inl (rfl : 0 % pageSize = 0))
      (by omega) hin
    have hresp : v.respSize ≠ 0 := by
      intro hzero
      rw [hzero, if_neg (by decide)] at h
      omega
    rw [if_pos hresp] at h
    rw [hloop _ (Nat.le_refl _), ok_bind, queueResponse, if_pos hresp,
      buildSGElement_outside hresp (hvalid _) (by omega)]
    rfl

/-- **`QueueBufferLocked` writes inside `sg`** exactly for vbuffers of at most 16 pieces. -/
theorem staysInside_iff {v : VBuffer} : StaysInside v ↔ v.sgCount ≤ sgEntries := by
  constructor
  · intro h
    apply Nat.le_of_not_lt
    intro hlt
    exact not_staysInside_of_lt hlt h
  · exact staysInside_of_le

end VBuffer

end VioGpu.Queue
