import LineShell.Content
import Mathlib.Data.List.GetD

/-!
# What a file holds after many changes

A file is a length and a byte at each index; from the length on there is nothing but NUL to see. Both can be told from the
history of its writes and cuts alone, latest first: the byte at an index is the one that was written there last, unless the
file was cut below it since (`Content.byteAfter`), and the length is that of the last cut or reaches up to the end of the
furthest write since (`Content.lengthAfter`).

- `Content.length_writeAt`, `Content.getD_writeAt` and their like: one change;
- `Content.length_after`, `Content.getD_after`: a history of changes.
-/

namespace LineShell.Content

/-! ## One change -/

/-- Contents of the same length that agree at each index are the same. -/
theorem ext {content content' : Bytes} (hlength : content.length = content'.length)
    (hbyte : ∀ i < content.length, content.getD i 0 = content'.getD i 0) : content = content' := by
  refine List.ext_getElem hlength fun i h h' => ?_
  rw [← List.getD_eq_getElem content 0 h, ← List.getD_eq_getElem content' 0 h']
  exact hbyte i h

theorem length_resize (content : Bytes) (length : Nat) : (resize content length).length = length := by
  simp only [resize, List.length_append, List.length_take, List.length_replicate]
  omega

/-- Cutting leaves what is below the new length, and filling up adds NUL. -/
theorem getD_resize (content : Bytes) (length i : Nat) :
    (resize content length).getD i 0 = if i < length then content.getD i 0 else 0 := by
  unfold resize
  by_cases hkept : i < (content.take length).length
  · have hlength : i < length := by rw [List.length_take] at hkept; omega
    rw [List.getD_append _ _ _ _ hkept, if_pos hlength, List.getD_eq_getElem?_getD, List.getElem?_take, if_pos hlength,
      ← List.getD_eq_getElem?_getD]
  · -- only NUL comes behind what is kept, and there was nothing to keep
    have hfilled : (List.replicate (length - content.length) (0 : UInt8)).getD
        (i - (content.take length).length) 0 = 0 := by
      rw [List.getD_eq_getElem?_getD, List.getElem?_getD_replicate_default_eq]
    rw [List.getD_append_right _ _ _ _ (Nat.le_of_not_lt hkept), hfilled]
    split
    · rw [List.getD_eq_default]
      rw [List.length_take] at hkept
      omega
    · rfl

theorem length_writeAt (content : Bytes) (offset : Nat) (data : Bytes) :
    (writeAt content offset data).length = max content.length (offset + data.length) := by
  simp only [writeAt, List.length_append, length_resize, List.length_drop]
  omega

/-- A write is seen where it went, and all else is as it was. -/
theorem getD_writeAt (content : Bytes) (offset : Nat) (data : Bytes) (i : Nat) :
    (writeAt content offset data).getD i 0 =
      if offset ≤ i ∧ i < offset + data.length then data.getD (i - offset) 0 else content.getD i 0 := by
  have hfront : (resize content offset ++ data).length = offset + data.length := by
    rw [List.length_append, length_resize]
  unfold writeAt
  by_cases hend : i < offset + data.length
  · rw [List.getD_append _ _ _ _ (hfront ▸ hend)]
    by_cases hstart : offset ≤ i
    · rw [if_pos ⟨hstart, hend⟩, List.getD_append_right _ _ _ _ (by rwa [length_resize]), length_resize]
    · rw [if_neg (fun h => hstart h.1), List.getD_append _ _ _ _ (by rw [length_resize]; omega), getD_resize,
        if_pos (by omega)]
  · rw [if_neg (fun h => hend h.2), List.getD_append_right _ _ _ _ (by rw [hfront]; omega), hfront,
      List.getD_eq_getElem?_getD, List.getElem?_drop, ← List.getD_eq_getElem?_getD]
    congr 1
    omega

/-- What is written in two pieces, one behind the other, is written as one. -/
theorem writeAt_append (content : Bytes) (offset : Nat) (first rest : Bytes) :
    writeAt (writeAt content offset first) (offset + first.length) rest = writeAt content offset (first ++ rest) := by
  refine ext (by simp only [length_writeAt, List.length_append]; omega) fun i _ => ?_
  simp only [getD_writeAt, List.length_append]
  by_cases hrest : offset + first.length ≤ i
  · rw [List.getD_append_right _ _ _ _ (by omega), Nat.sub_add_eq]
    by_cases hend : i < offset + first.length + rest.length
    · rw [if_pos ⟨hrest, hend⟩, if_pos (by omega)]
    · rw [if_neg (by omega), if_neg (by omega), if_neg (by omega)]
  · rw [if_neg (by omega)]
    by_cases hstart : offset ≤ i
    · rw [if_pos (by omega), if_pos (by omega), List.getD_append _ _ _ _ (by omega)]
    · rw [if_neg (by omega), if_neg (by omega)]

theorem length_readAt (content : Bytes) (offset count : Nat) :
    (readAt content offset count).length = min count (content.length - offset) := by
  rw [readAt, List.length_take, List.length_drop]

/-- A read shows what is there. -/
theorem getElem?_readAt (content : Bytes) (offset count : Nat) {i : Nat} (h : i < count) :
    (readAt content offset count)[i]? = content[offset + i]? := by
  rw [readAt, List.getElem?_take, if_pos h, List.getElem?_drop]

/-- What is read in two pieces, one behind the other, is read as one. -/
theorem readAt_add (content : Bytes) (offset first rest : Nat) :
    readAt content offset (first + rest) = readAt content offset first ++ readAt content (offset + first) rest := by
  rw [readAt, List.take_add, List.drop_drop]
  rfl

/-- Bytes that stand in a content from `offset` on are what is read there. -/
theorem eq_readAt {content data : Bytes} {offset : Nat} (h : ∀ i < data.length, data[i]? = content[offset + i]?) :
    data = readAt content offset data.length := by
  refine List.ext_getElem? fun i => ?_
  by_cases hi : i < data.length
  · rw [h i hi, getElem?_readAt _ _ _ hi]
  · rw [List.getElem?_eq_none (by omega), List.getElem?_eq_none (by rw [length_readAt]; omega)]

/-! ## A history -/

/-- A change of what a file holds. -/
inductive Edit
  | write (offset : Nat) (data : Bytes)
  /-- The length becomes another one. -/
  | cut (length : Nat)
deriving DecidableEq, Repr

def Edit.apply : Edit → Bytes → Bytes
  | write offset data, content => writeAt content offset data
  | cut length, content => resize content length

/-- What a file that held `start` holds after changes, the latest first. -/
def after (start : Bytes) (history : List Edit) : Bytes :=
  history.foldr Edit.apply start

/-- The length after changes, the latest first: that of the last cut, or the end of what was written furthest since. -/
def lengthAfter (start : Bytes) : List Edit → Nat
  | [] => start.length
  | .write offset data :: before => max (lengthAfter start before) (offset + data.length)
  | .cut length :: _ => length

/-- The byte at an index after changes, the latest first: the one that was written there last, and NUL if there is none or
if the file was cut below it since. -/
def byteAfter (start : Bytes) : List Edit → Nat → UInt8
  | [], i => start.getD i 0
  | .write offset data :: before, i =>
    if offset ≤ i ∧ i < offset + data.length then data.getD (i - offset) 0 else byteAfter start before i
  | .cut length :: before, i => if i < length then byteAfter start before i else 0

theorem length_after (start : Bytes) (history : List Edit) :
    (after start history).length = lengthAfter start history := by
  induction history with
  | nil => rfl
  | cons edit before ih =>
    cases edit with
    | write offset data => exact (length_writeAt _ _ _).trans (by rw [lengthAfter, ← ih]; rfl)
    | cut length => exact length_resize _ _

/-- **The last writer or NUL**: what a file holds at an index is what was written there last. -/
theorem getD_after (start : Bytes) (history : List Edit) (i : Nat) :
    (after start history).getD i 0 = byteAfter start history i := by
  induction history with
  | nil => rfl
  | cons edit before ih =>
    cases edit with
    | write offset data => exact (getD_writeAt _ _ _ _).trans (by rw [byteAfter, ← ih]; rfl)
    | cut length => exact (getD_resize _ _ _).trans (by rw [byteAfter, ← ih]; rfl)

theorem getElem?_after (start : Bytes) (history : List Edit) {i : Nat} (h : i < lengthAfter start history) :
    (after start history)[i]? = some (byteAfter start history i) := by
  rw [← length_after] at h
  rw [← getD_after, List.getD_eq_getElem _ 0 h, List.getElem?_eq_getElem h]

end LineShell.Content
