import LineShell.Host.Sparse
import LineShell.Proofs.Content

/-!
# Contents with holes are contents

A content that is kept as its writes has the same bytes as one that is kept byte by byte: what is read from it is read from
all that is in it (`Sparse.read_eq`), and writing and cutting make of that what they make of any content
(`Sparse.content_write`, `Sparse.content_resize`).
-/

namespace LineShell.Host.Sparse

open Content (Edit byteAfter)

/-- No write goes past the length. -/
def Bounded (s : Sparse) : Prop :=
  ∀ write ∈ s.writes, write.1 + write.2.length ≤ s.size

/-- The byte at an index after writes, the latest first. -/
def byteOf (writes : List (Nat × Bytes)) : Nat → UInt8 :=
  byteAfter [] (writes.map fun write => .write write.1 write.2)

theorem byteOf_nil (i : Nat) : byteOf [] i = 0 := by
  simp [byteOf, byteAfter]

theorem byteOf_cons (write : Nat × Bytes) (before : List (Nat × Bytes)) (i : Nat) :
    byteOf (write :: before) i =
      if write.1 ≤ i ∧ i < write.1 + write.2.length then write.2.getD (i - write.1) 0 else byteOf before i := rfl

/-- There is nothing behind the end of each write. -/
theorem byteOf_eq_zero {writes : List (Nat × Bytes)} {i : Nat} (h : ∀ write ∈ writes, write.1 + write.2.length ≤ i) :
    byteOf writes i = 0 := by
  induction writes with
  | nil => exact byteOf_nil i
  | cons write before ih =>
    have hwrite := h write List.mem_cons_self
    rw [byteOf_cons, if_neg (by omega)]
    exact ih fun other hother => h other (List.mem_cons_of_mem _ hother)

/-! ## Reading -/

theorem length_overlay (start : Nat) (window : Bytes) (write : Nat × Bytes) :
    (overlay start window write).length = window.length := by
  simp only [overlay]
  split
  · rfl
  · next hseen =>
    simp only [Bool.or_eq_true, decide_eq_true_eq, not_or, Nat.not_le] at hseen
    simp only [List.length_append, List.length_take, List.length_drop]
    omega

/-- A write is seen where it reaches the window. -/
theorem getD_overlay (start : Nat) (window : Bytes) (write : Nat × Bytes) {i : Nat} (h : i < window.length) :
    (overlay start window write).getD i 0 =
      if write.1 ≤ start + i ∧ start + i < write.1 + write.2.length then write.2.getD (start + i - write.1) 0
      else window.getD i 0 := by
  obtain ⟨origin, data⟩ := write
  simp only [overlay]
  split
  · next hunseen =>
    simp only [Bool.or_eq_true, decide_eq_true_eq, List.isEmpty_iff, List.drop_eq_nil_iff] at hunseen
    rw [if_neg (by omega)]
  · next hseen =>
    simp only [Bool.or_eq_true, decide_eq_true_eq, not_or, Nat.not_le, List.isEmpty_iff, List.drop_eq_nil_iff] at hseen
    have hfront : (window.take (origin - start)).length = origin - start := by
      rw [List.length_take]
      omega
    have hpart : ((data.drop (start - origin)).take (window.length - (origin - start))).length =
        min (window.length - (origin - start)) (data.length - (start - origin)) := by
      rw [List.length_take, List.length_drop]
    simp only [List.getD_eq_getElem?_getD]
    by_cases hbefore : i < origin - start
    · rw [if_neg (by omega), List.append_assoc, List.getElem?_append_left (by omega), List.getElem?_take,
        if_pos hbefore]
    · by_cases hafter : i < origin - start + (data.length - (start - origin))
      · rw [if_pos (by omega), List.getElem?_append_left (by rw [List.length_append]; omega),
          List.getElem?_append_right (by omega), hfront, List.getElem?_take, if_pos (by omega), List.getElem?_drop]
        congr 2
        omega
      · rw [if_neg (by omega), List.getElem?_append_right (by rw [List.length_append]; omega), List.getElem?_drop,
          List.length_append, hfront]
        congr 2
        omega

/-- A window onto a content is as long as it was, and holds the bytes of the writes. -/
theorem window_eq (start count : Nat) (writes : List (Nat × Bytes)) :
    (writes.foldr (fun write window => overlay start window write) (List.replicate count 0)).length = count ∧
    ∀ i < count, (writes.foldr (fun write window => overlay start window write) (List.replicate count 0)).getD i 0 =
      byteOf writes (start + i) := by
  induction writes with
  | nil =>
    refine ⟨List.length_replicate, fun i hi => ?_⟩
    rw [byteOf_nil, List.foldr_nil, List.getD_replicate _ hi]
  | cons write before ih =>
    obtain ⟨hlength, hbyte⟩ := ih
    refine ⟨(length_overlay ..).trans hlength, fun i hi => ?_⟩
    rw [List.foldr_cons, getD_overlay _ _ _ (hlength.symm ▸ hi), byteOf_cons, hbyte i hi]

variable (s : Sparse)

theorem length_read (offset count : Nat) : (s.read offset count).length = min count (s.size - offset) :=
  (window_eq offset _ s.writes).1

theorem length_content : s.content.length = s.size := by
  rw [content, length_read]
  omega

theorem getD_content {i : Nat} (h : i < s.size) : s.content.getD i 0 = byteOf s.writes i := by
  have hbyte := (window_eq 0 (min s.size (s.size - 0)) s.writes).2 i (by omega)
  rwa [Nat.zero_add] at hbyte

/-- **A read** shows what is there. -/
theorem read_eq (offset count : Nat) : s.read offset count = Content.readAt s.content offset count := by
  have hlength := s.length_read offset count
  refine Content.ext (by rw [hlength, Content.length_readAt, length_content]) fun i hi => ?_
  rw [hlength] at hi
  have hshown : (s.read offset count).getD i 0 = byteOf s.writes (offset + i) := (window_eq offset _ s.writes).2 i hi
  rw [hshown, List.getD_eq_getElem?_getD, Content.getElem?_readAt _ _ _ (by omega), ← List.getD_eq_getElem?_getD,
    getD_content s (by omega)]

/-! ## Writing -/

variable {s}

/-- Nothing is behind the end, so every index of a bounded content shows what its writes left there. -/
theorem Bounded.getD_content (h : s.Bounded) (i : Nat) : s.content.getD i 0 = byteOf s.writes i := by
  by_cases hi : i < s.size
  · exact Sparse.getD_content s hi
  · rw [List.getD_eq_default _ _ (by rw [length_content]; omega),
      byteOf_eq_zero fun write hwrite => Nat.le_trans (h write hwrite) (by omega)]

/-- Writing keeps the length a bound, and the length and the bytes are those of a write. -/
theorem write_spec (h : s.Bounded) {data : Bytes} (hdata : data ≠ []) (offset : Nat) :
    (s.write offset data).Bounded ∧ (s.write offset data).size = max s.size (offset + data.length) ∧
    ∀ i, byteOf (s.write offset data).writes i =
      if offset ≤ i ∧ i < offset + data.length then data.getD (i - offset) 0 else byteOf s.writes i := by
  have hne : data.isEmpty = false := by simpa using hdata
  simp only [write, hne, Bool.false_eq_true, ↓reduceIte]
  split
  · -- all that there was is written over
    next hwhole =>
    simp only [Bool.and_eq_true, decide_eq_true_eq] at hwhole
    obtain ⟨rfl, hsize⟩ := hwhole
    simp only [ofBytes, hne, Bool.false_eq_true, ↓reduceIte]
    refine ⟨by simp [Bounded], by omega, fun i => ?_⟩
    rw [byteOf_cons, byteOf_nil]
    split
    · rfl
    · next hout =>
      simp only [Nat.zero_le, Nat.zero_add, true_and, Nat.not_lt] at hout
      exact (byteOf_eq_zero fun write hwrite => Nat.le_trans (h write hwrite) (Nat.le_trans hsize hout)).symm
  · split
    · next start latest before hwrites =>
      have hlatest := h (start, latest) (hwrites ▸ List.mem_cons_self)
      have hbefore : ∀ write ∈ before, write.1 + write.2.length ≤ s.size :=
        fun write hwrite => h write (hwrites ▸ List.mem_cons_of_mem _ hwrite)
      split
      · -- the write goes on where the latest one ended
        next hjoined =>
        refine ⟨?_, rfl, fun i => ?_⟩
        · rintro write hwrite
          rcases List.mem_cons.1 hwrite with rfl | hold
          · simp only [List.length_append]
            omega
          · exact Nat.le_trans (hbefore write hold) (Nat.le_max_left ..)
        · rw [byteOf_cons, hwrites, byteOf_cons]
          simp only [List.length_append]
          by_cases hin : offset ≤ i ∧ i < offset + data.length
          · rw [if_pos hin, if_pos (by omega), List.getD_append_right _ _ _ _ (by omega)]
            congr 1
            omega
          · rw [if_neg hin]
            by_cases hfront : start ≤ i ∧ i < start + latest.length
            · rw [if_pos hfront, if_pos (by omega), List.getD_append _ _ _ _ (by omega)]
            · rw [if_neg hfront, if_neg (by omega)]
      · refine ⟨?_, rfl, fun i => byteOf_cons ..⟩
        rintro write hwrite
        rcases List.mem_cons.1 hwrite with rfl | hold
        · exact Nat.le_max_right ..
        · exact Nat.le_trans (h write hold) (Nat.le_max_left ..)
    · next hwrites => exact ⟨List.forall_mem_singleton.2 (Nat.le_max_right ..), rfl, fun i => by rw [byteOf_cons, hwrites]⟩

/-- **Writing** is what it is for every content. -/
theorem content_write (h : s.Bounded) {data : Bytes} (hdata : data ≠ []) (offset : Nat) :
    (s.write offset data).content = Content.writeAt s.content offset data := by
  obtain ⟨hbounded, hsize, hbyte⟩ := write_spec h hdata offset
  refine Content.ext (by rw [length_content, hsize, Content.length_writeAt, length_content]) fun i _ => ?_
  rw [hbounded.getD_content, hbyte, Content.getD_writeAt, h.getD_content]

/-! ## Cutting -/

/-- The bytes below a length are left by writes that are cut there. -/
theorem byteOf_cut (length : Nat) (writes : List (Nat × Bytes)) (i : Nat) :
    byteOf ((writes.map fun write => (write.1, write.2.take (length - write.1))).filter (!·.2.isEmpty)) i =
      if i < length then byteOf writes i else 0 := by
  induction writes with
  | nil => simp [byteOf_nil]
  | cons write before ih =>
    obtain ⟨origin, data⟩ := write
    rw [List.map_cons, byteOf_cons]
    by_cases hempty : (data.take (length - origin)).isEmpty = true
    · rw [List.filter_cons_of_neg (by simp [hempty]), ih]
      rw [List.isEmpty_iff, List.take_eq_nil_iff] at hempty
      by_cases hi : i < length
      · have hout : ¬ (origin ≤ i ∧ i < origin + data.length) := by
          rcases hempty with hzero | rfl
          · omega
          · simp
        rw [if_pos hi, if_pos hi, if_neg hout]
      · rw [if_neg hi, if_neg hi]
    · rw [List.filter_cons_of_pos (by simpa using hempty), byteOf_cons, ih]
      simp only [List.length_take]
      by_cases hi : i < length
      · rw [if_pos hi]
        by_cases hin : origin ≤ i ∧ i < origin + data.length
        · rw [if_pos hin, if_pos hi, if_pos (by omega), List.getD_eq_getElem?_getD, List.getElem?_take,
            if_pos (by omega), ← List.getD_eq_getElem?_getD]
        · rw [if_neg hin, if_neg (by omega), if_pos hi]
      · rw [if_neg hi, if_neg hi, if_neg (by omega)]

theorem resize_bounded (s : Sparse) (length : Nat) : (s.resize length).Bounded := by
  rintro write hwrite
  obtain ⟨hmem, hne⟩ := List.mem_filter.1 hwrite
  obtain ⟨⟨origin, data⟩, -, rfl⟩ := List.mem_map.1 hmem
  have hsome : data.take (length - origin) ≠ [] := by simpa using hne
  rw [Ne, List.take_eq_nil_iff, not_or] at hsome
  show origin + (data.take (length - origin)).length ≤ length
  rw [List.length_take]
  omega

/-- **Cutting** is what it is for every content. -/
theorem content_resize (h : s.Bounded) (length : Nat) :
    (s.resize length).content = Content.resize s.content length := by
  have hlength : (s.resize length).content.length = length := length_content _
  refine Content.ext (by rw [hlength, Content.length_resize]) fun i _ => ?_
  rw [(resize_bounded s length).getD_content, Content.getD_resize, h.getD_content]
  exact byteOf_cut length s.writes i

theorem empty_bounded : Bounded {} := by
  simp [Bounded]

end LineShell.Host.Sparse
