import VioGpu.Device.BlitRuns
import VioGpu.Device.Present

/-!
# What the blits of a present store

A present makes one `BltBits` for each rectangle. With a rotation that `bitops.cpp` does not know,
or a depth that it cannot convert, they store nothing (`presentRects_idle`); otherwise they store
bytes of each pixel of each rectangle, and nothing else (`presentRects_accesses`).
-/

namespace VioGpu.Device

open Lib

/-! ## Copies that store nothing -/

/-- The access is no store of a byte. -/
def Access.Silent (a : Access) : Prop := ∀ k v, ¬a.Writes k v

namespace Blt

/-- The result, be it an exception or not, is that of accesses that store nothing. -/
def Idle (result : Except Blt Blt) (b : Blt) : Prop :=
  ∃ accesses, (∀ a ∈ accesses, a.Silent) ∧
    (result = .ok (b.after accesses) ∨ result = .error (b.after accesses))

theorem idle_ok (b : Blt) : Idle (.ok b) b := ⟨[], by simp, .inl (by rw [after_nil])⟩

theorem Idle.bind {result : Except Blt Blt} {b : Blt} {f : Blt → Except Blt Blt}
    (h : Idle result b) (hf : ∀ b, Idle (f b) b) : Idle (result >>= f) b := by
  obtain ⟨accesses, hsilent, rfl | rfl⟩ := h
  · obtain ⟨more, hmore, hresult⟩ := hf (b.after accesses)
    refine ⟨accesses ++ more, List.forall_mem_append.mpr ⟨hsilent, hmore⟩, ?_⟩
    rw [← after_after]
    exact hresult
  · exact ⟨accesses, hsilent, .inr rfl⟩

variable {dst src : BltInfo} {memory : Int → Byte}

theorem copyPixel_idle (pSrc : Option Int) {pDst : Option Int}
    (h : conversion dst.bitsPerPel src.bitsPerPel = none ∨ pDst = none) (b : Blt) :
    Idle (b.copyPixel dst src memory pDst pSrc) b := by
  unfold copyPixel
  cases hconv : conversion dst.bitsPerPel src.bitsPerPel with
  | none => exact idle_ok b
  | some c =>
    obtain rfl : pDst = none := h.resolve_left (by simp [hconv])
    cases pSrc with
    | none => exact ⟨[], by simp, .inr (by rw [after_nil]; rfl)⟩
    | some q =>
      refine ⟨[.load q c.1], ?_, .inr rfl⟩
      simp [Access.Silent, Access.Writes]

theorem copyPixels_idle {pDst : Option Int}
    (h : conversion dst.bitsPerPel src.bitsPerPel = none ∨ pDst = none) (n : Nat)
    (pSrc : Option Int) (b : Blt) : Idle (copyPixels dst src memory n pDst pSrc b) b := by
  induction n generalizing pDst pSrc b with
  | zero => exact idle_ok b
  | succ n ih => exact (copyPixel_idle pSrc h b).bind fun b => ih (h.imp_right (by simp [·])) _ b

theorem copyRows_idle {pDst : Option Int}
    (h : conversion dst.bitsPerPel src.bitsPerPel = none ∨ pDst = none) (numPixels n : Nat)
    (pSrc : Option Int) (b : Blt) : Idle (copyRows dst src memory numPixels n pDst pSrc b) b := by
  induction n generalizing pDst pSrc b with
  | zero => exact idle_ok b
  | succ n ih =>
    exact (copyPixels_idle h numPixels pSrc b).bind fun b => ih (h.imp_right (by simp [·])) _ b

/-- **Without a rotation or a conversion** nothing is stored. -/
theorem bltBits_idle (memory : Int → Byte)
    (h : conversion dst.bitsPerPel src.bitsPerPel = none ∨ ¬dst.Turned)
    (rects : List Rect) (b : Blt) :
    ∃ accesses, (∀ a ∈ accesses, a.Silent) ∧ b.bltBits dst src memory rects = b.after accesses := by
  have hgeneric : ¬(dst.bitsPerPel = 32 ∧ src.bitsPerPel = 32 ∧ dst.rotation = .identity ∧
      src.rotation = .identity) := by
    rintro ⟨hb, hb', ht, -⟩
    rcases h with h | h
    · simp [conversion, hb, hb'] at h
    · exact h (.inl ht)
  have hnull : ∀ r, conversion dst.bitsPerPel src.bitsPerPel = none ∨ dst.getRowStart r = none := by
    refine fun r => h.imp_right fun ht => ?_
    unfold BltInfo.Turned at ht
    unfold BltInfo.getRowStart
    cases hrotation : dst.rotation <;> simp [hrotation] at ht ⊢
  have hidle : Idle (b.copyBitsGeneric dst src memory rects) b := by
    unfold copyBitsGeneric
    induction rects generalizing b with
    | nil => exact idle_ok b
    | cons r rects ih =>
      rw [List.foldlM_cons]
      exact (copyRows_idle (hnull r) _ _ _ b).bind fun b => ih b
  obtain ⟨accesses, hsilent, hresult⟩ := hidle
  refine ⟨accesses, hsilent, ?_⟩
  rw [bltBits, if_neg hgeneric]
  rcases hresult with hresult | hresult
  · rw [hresult]
  · rw [hresult]

theorem presentRects_idle (memory : Int → Byte)
    (h : conversion dst.bitsPerPel src.bitsPerPel = none ∨ ¬dst.Turned)
    (rects : List Rect) (b : Blt) : ∃ accesses, (∀ a ∈ accesses, a.Silent) ∧
      b.presentRects dst src memory rects = b.after accesses := by
  induction rects generalizing b with
  | nil => exact ⟨[], by simp, by rw [after_nil]; rfl⟩
  | cons r rects ih =>
    obtain ⟨first, hfirst, hb⟩ := bltBits_idle memory h [r] b
    obtain ⟨rest, hrest, hb'⟩ := ih (b.after first)
    refine ⟨first ++ rest, List.forall_mem_append.mpr ⟨hfirst, hrest⟩, ?_⟩
    rw [← after_after, ← hb', ← hb]
    rfl

/-- The bytes that the blits store, if they store `len` bytes for a pixel. -/
theorem presentRects_accesses (memory : Int → Byte) {n len : Nat} {convert : List Byte → List Byte}
    (hconv : conversion dst.bitsPerPel src.bitsPerPel = some (n, convert))
    (hlen : ∀ l : List Byte, l.length = n → (convert l).length = len) (hd : dst.Depth)
    (ht : dst.Turned) (ht' : src.Turned) {rects : List Rect} (hrects : ∀ r ∈ rects, r.Within dst)
    (b : Blt) : ∃ accesses, b.presentRects dst src memory rects = b.after accesses ∧
      (∀ k, (∃ a ∈ accesses, ∃ v, a.Writes k v) ↔ ∃ r ∈ rects, ∃ x y, r.Mem x y ∧
        ∃ i : Nat, i < len ∧ k = dst.address x y + i) ∧
      ∀ a ∈ accesses, ∀ k v, a.Writes k v → ∃ q, v ∈ convert (readAt memory q n) := by
  induction rects generalizing b with
  | nil => exact ⟨[], by rw [after_nil]; rfl, by simp, by simp⟩
  | cons r rects ih =>
    obtain ⟨hr, hrest⟩ := List.forall_mem_cons.mp hrects
    obtain ⟨first, q, hb, -, -, hwrites⟩ := bltBits_accesses memory hconv hd ht ht'
      (List.forall_mem_singleton.mpr hr) b
    obtain ⟨rest, hb', hwrites', hvalues⟩ := ih hrest (b.after first)
    refine ⟨first ++ rest, ?_, fun k => ?_, fun a ha k v hv => ?_⟩
    · rw [← after_after, ← hb', ← hb]
      rfl
    · have hhead : (∃ a ∈ first, ∃ v, a.Writes k v) ↔ ∃ x y, r.Mem x y ∧
          ∃ i : Nat, i < len ∧ k = dst.address x y + i := by
        constructor
        · rintro ⟨a, ha, v, hv⟩
          obtain ⟨s, hs, x, y, hmem, i, hi, rfl⟩ := (hwrites k v).mp ⟨a, ha, hv⟩
          obtain rfl : s = r := by simpa using hs
          refine ⟨x, y, hmem, i, ?_, rfl⟩
          rw [← hlen _ (length_readAt memory (q s x y) n)]
          exact (List.getElem?_eq_some_iff.mp hi).1
        · rintro ⟨x, y, hmem, i, hi, rfl⟩
          rw [← hlen _ (length_readAt memory (q r x y) n)] at hi
          obtain ⟨a, ha, hv⟩ := (hwrites _ _).mpr
            ⟨r, by simp, x, y, hmem, i, List.getElem?_eq_getElem hi, rfl⟩
          exact ⟨a, ha, _, hv⟩
      constructor
      · rintro ⟨a, ha, v, hv⟩
        rcases List.mem_append.mp ha with ha | ha
        · exact ⟨r, List.mem_cons_self, hhead.mp ⟨a, ha, v, hv⟩⟩
        · obtain ⟨s, hs, h⟩ := (hwrites' k).mp ⟨a, ha, v, hv⟩
          exact ⟨s, List.mem_cons_of_mem r hs, h⟩
      · rintro ⟨s, hs, h⟩
        rcases List.mem_cons.mp hs with rfl | hs
        · obtain ⟨a, ha, hv⟩ := hhead.mpr h
          exact ⟨a, List.mem_append_left rest ha, hv⟩
        · obtain ⟨a, ha, hv⟩ := (hwrites' k).mpr ⟨s, hs, h⟩
          exact ⟨a, List.mem_append_right first ha, hv⟩
    · obtain ha | ha := List.mem_append.mp ha
      · obtain ⟨r, -, x, y, -, i, hi, -⟩ := (hwrites k v).mp ⟨a, ha, hv⟩
        exact ⟨q r x y, List.mem_of_getElem? hi⟩
      · exact hvalues a ha k v hv

end Blt

/-- With a destination of 32 bits, three or four bytes are stored for a pixel. Those of a pixel of
zeros are zero. -/
theorem conversion_32 {bits n : Nat} {convert : List Byte → List Byte}
    (h : conversion 32 bits = some (n, convert)) :
    (∃ len, 3 ≤ len ∧ len ≤ 4 ∧ ∀ l : List Byte, l.length = n → (convert l).length = len) ∧
      ∀ v ∈ convert (List.replicate n 0), v = 0 := by
  unfold conversion at h
  split_ifs at h
  · cases h
    exact ⟨⟨3, by omega, by omega, fun l hl => hl⟩, fun v hv => List.eq_of_mem_replicate hv⟩
  · cases h
    exact ⟨⟨4, by omega, by omega, fun l hl => hl⟩, fun v hv => List.eq_of_mem_replicate hv⟩
  · cases h
    refine ⟨⟨4, by omega, by omega, fun l _ => by simp [wordBytes]⟩, ?_⟩
    decide
  all_goals omega

end VioGpu.Device
