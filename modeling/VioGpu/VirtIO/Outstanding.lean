import VioGpu.VirtIO.SessionRuns

/-!
# Which buffers are outstanding

A step of a session makes no other buffer outstanding than the one that is added, and a head that
the device has taken and not completed belongs to an outstanding buffer.
-/

namespace VioGpu.VirtIO.Session

open Lib Virtqueue

variable {τ : Type} {k : Nat} {s s' : Session τ} {j : Nat} {a : AddedBuf τ}

/-- A step that forgets none of the buffers and none of the completions that are returned. -/
theorem Outstanding.of_same (h : s'.Outstanding j a) (hadded : s'.allAdded = s.allAdded)
    (hback : (s.completed.take s.returned.length).Sublist
      (s'.completed.take s'.returned.length)) : s.Outstanding j a := by
  obtain ⟨hget, hnot⟩ := h
  rw [hadded] at hget
  exact ⟨hget, fun hmem => hnot ((hback.map _).subset hmem)⟩

/-- A buffer that an add makes outstanding is the one that is added. -/
theorem outstanding_of_addBuf {out inn : List Scatterlist} {t : τ}
    (hs : s.step (.addBuf out inn t) = some s') (h : s'.Outstanding j a) :
    j ≠ s.added.length ∧ s.Outstanding j a ∨
      j = s.added.length ∧ a.out = out ∧ a.inn = inn ∧ a.token = t := by
  have hold : ∀ s' : Session τ, s.adding = none → s'.allAdded = s.allAdded →
      s'.completed = s.completed → s'.returned = s.returned → s'.Outstanding j a →
      j ≠ s.added.length ∧ s.Outstanding j a := by
    intro s' hnone hadded hcompleted hreturned h
    have h' : s.Outstanding j a := h.of_same hadded (by rw [hcompleted, hreturned])
    refine ⟨?_, h'⟩
    have hlt := (List.getElem?_eq_some_iff.mp h'.1).1
    rw [allAdded, hnone, Option.toList_none, List.append_nil] at hlt
    exact Nat.ne_of_lt hlt
  simp only [Session.step] at hs
  split_ifs at hs with hadm hroom hout
  · cases hs
    exact .inl (hold _ (Option.isNone_iff_eq_none.mp hadm.1.2.1) rfl rfl rfl h)
  · cases hs
    exact .inl (hold _ (Option.isNone_iff_eq_none.mp hadm.1.2.1) rfl rfl rfl h)
  · have hnone := Option.isNone_iff_eq_none.mp hadm.1.2.1
    cases hprepare : prepareDirect s.vq out inn t with
    | error f =>
      rw [hprepare] at hs
      cases hs
      exact .inl (hold _ hnone rfl rfl rfl h)
    | ok r =>
      rw [hprepare] at hs
      cases hs
      obtain ⟨hget, hnot⟩ := h
      change (s.added ++ [⟨r.1, out, inn, t⟩])[j]? = some a at hget
      rcases Nat.lt_trichotomy j s.added.length with hlt | rfl | hgt
      · rw [List.getElem?_append_left hlt] at hget
        refine .inl ⟨Nat.ne_of_lt hlt, ?_, hnot⟩
        rw [allAdded, hnone, Option.toList_none, List.append_nil]
        exact hget
      · rw [List.getElem?_concat_length] at hget
        cases hget
        exact .inr ⟨rfl, rfl, rfl, rfl⟩
      · rw [List.getElem?_eq_none (by rw [List.length_append]; exact hgt)] at hget
        cases hget

/-- Another step makes no buffer outstanding. -/
theorem outstanding_of_step (hinv : Inv k s) {e : SessionEvent τ}
    (he : ∀ out inn t, e ≠ .addBuf out inn t) (hs : s.step e = some s')
    (h : s'.Outstanding j a) : s.Outstanding j a := by
  cases e with
  | addBuf out inn t => exact absurd rfl (he out inn t)
  | exposeBuf =>
    obtain ⟨buf, hbuf, hs⟩ := Option.bind_eq_some_iff.mp hs
    cases hs
    refine h.of_same ?_ (List.Sublist.refl _)
    rw [allAdded, allAdded, hbuf, Option.toList_none, List.append_nil]
    rfl
  | getBuf =>
    simp only [Session.step] at hs
    split_ifs at hs
    · cases hs
      exact h
    · cases hs
      exact h
  | takeUsed =>
    simp only [Session.step] at hs
    split_ifs at hs
    cases htake : VirtIO.takeUsed s.vq with
    | error f =>
      rw [htake] at hs
      cases hs
      exact h
    | ok r =>
      rw [htake] at hs
      cases hs
      unfold Session.answer at h
      split_ifs at h
      · refine h.of_same rfl ?_
        rw [List.length_append]
        exact List.take_sublist_take_left (Nat.le_add_right _ _)
      · exact h
  | deviceTake =>
    simp only [Session.step] at hs
    split_ifs at hs
    cases hs
    exact h
  | deviceWrite index len =>
    simp only [Session.step] at hs
    split_ifs at hs
    obtain ⟨id, -, hs⟩ := Option.bind_eq_some_iff.mp hs
    cases hs
    exact h
  | devicePublish =>
    obtain ⟨c, -, hs⟩ := Option.bind_eq_some_iff.mp hs
    cases hs
    refine h.of_same rfl ?_
    rw [List.take_append_of_le_length hinv.history.returnedLe]
  | deviceFlags flags availEvent =>
    cases hs
    exact h

/-- A head that the device has taken and not completed is that of an outstanding buffer. -/
theorem outstanding_of_taken (hinv : Inv k s) {head : Nat}
    (htaken : s.taken[j]? = some head) (hnot : j ∉ s.completed.map Completion.index) :
    ∃ a, s.added[j]? = some a ∧ a.head = head ∧ s.Outstanding j a := by
  have hlt := (List.getElem?_eq_some_iff.mp htaken).1
  rw [hinv.history.takenInOrder, List.getElem?_map, List.getElem?_take, if_pos hlt] at htaken
  obtain ⟨a, ha, hhead⟩ := Option.map_eq_some_iff.mp htaken
  refine ⟨a, ha, hhead, ?_, fun hmem => hnot ?_⟩
  · rw [allAdded, List.getElem?_append_left (List.getElem?_eq_some_iff.mp ha).1, ha]
  · exact ((List.take_sublist _ _).map _).subset hmem

/-- What a get returns behind its read barrier, and that the buffer was outstanding. -/
theorem Inv.returned_of_takeUsed (hinv : Inv k s) (hk : k ≤ 15) (hs : s.step .takeUsed = some s') :
    ∃ c a, s.completed[s.returned.length]? = some c ∧ s.added[c.index]? = some a ∧
      s.Outstanding c.index a ∧
      s'.returned = s.returned ++ [⟨some a.token, some c.elem.len⟩] := by
  simp only [Session.step] at hs
  split_ifs at hs with hgetting
  have hlt := hinv.history.getting hgetting
  obtain ⟨r, vq, hrun, hsome, hinv'⟩ := hinv.take hk hlt
  obtain ⟨a, hadded, -, hout⟩ := hinv.nextReturned hlt
  rw [hrun] at hs
  cases hs
  have hreturned := hinv'.history.returnedInOrder
  have hresult : r = s.resultOf s.completed[s.returned.length] := by
    rw [List.length_append, List.length_singleton, take_succ_eq hlt, List.map_append] at hreturned
    exact List.singleton_inj.mp (List.append_inj_right' hreturned rfl)
  rw [resultOf, hadded] at hresult
  refine ⟨_, a, List.getElem?_eq_getElem hlt, hadded, hout, ?_⟩
  rw [answer, if_pos hsome, hresult]
  rfl

end VioGpu.VirtIO.Session
