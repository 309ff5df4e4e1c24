import LineShell.Text

/-!
# Texts and their bytes

Decoding takes back what `Text.bytes` writes and nothing else (`Text.decode?_eq_some_iff`), so bytes are a text in at
most one way. A newline is a character wherever it stands among the bytes of a text, so it cuts the text into two
(`Text.bytes_cut`).
-/

namespace LineShell.Text

/-! ## Decoding -/

theorem bytes_injective {a b : String} (h : bytes a = bytes b) : a = b := by
  rw [← String.toByteArray_inj]
  exact ByteArray.ext (Array.toList_inj.1 h)

theorem bytes_append (a b : String) : bytes (a ++ b) = bytes a ++ bytes b := by
  simp [bytes, String.toByteArray_append]

/-- The empty text alone takes no bytes. -/
theorem bytes_eq_nil_iff {text : String} : bytes text = [] ↔ text = "" :=
  ⟨fun h => bytes_injective h, fun h => h ▸ rfl⟩

theorem length_bytes (text : String) : (bytes text).length = size text := by
  rfl

theorem decode?_bytes (text : String) : decode? (bytes text) = some text := by
  have h : (⟨(bytes text).toArray⟩ : ByteArray) = text.toByteArray := ByteArray.ext (by simp [bytes])
  rw [decode?, h, String.fromUTF8?, dif_pos text.isValidUTF8]
  rfl

/-- Bytes are a text exactly if the text is written as them. -/
theorem decode?_eq_some_iff {data : Bytes} {text : String} : decode? data = some text ↔ data = bytes text := by
  refine ⟨fun h => ?_, fun h => h ▸ decode?_bytes text⟩
  rw [decode?, String.fromUTF8?] at h
  split at h
  · cases h
    rfl
  · cases h

/-! ## Newlines -/

/-- The bytes of a text are those of its characters. -/
theorem bytes_eq_flatMap (text : String) : bytes text = text.toList.flatMap String.utf8EncodeChar := by
  have hbytes : text.toByteArray = text.toList.utf8Encode := String.utf8Encode_toList.symm
  rw [bytes, hbytes, List.utf8Encode]
  simp

/-- One more character in front of a text takes its own bytes. -/
theorem size_cons (c : Char) (chars : List Char) :
    size (String.ofList (c :: chars)) = c.utf8Size + size (String.ofList chars) := by
  simp [← length_bytes, bytes_eq_flatMap]

/-- Every byte of a character is past the newline, unless the character takes one byte. -/
theorem encodeChar_cases (c : Char) :
    (∃ b, String.utf8EncodeChar c = [b]) ∨ ∀ b ∈ String.utf8EncodeChar c, 0x80 ≤ b.toNat := by
  rw [String.utf8EncodeChar_eq_utf8EncodeCharFast, String.utf8EncodeCharFast]
  split
  · exact .inl ⟨_, rfl⟩
  · refine .inr fun b hb => ?_
    have hmark (x y : UInt8) (hy : 0x80 ≤ y.toNat) : 0x80 ≤ (x ||| y).toNat := by
      rw [UInt8.toNat_or]
      exact Nat.le_trans hy Nat.right_le_or
    split at hb
    · simp only [List.mem_cons, List.not_mem_nil, or_false] at hb
      rcases hb with rfl | rfl <;> exact hmark _ _ (by decide)
    · split at hb
      · simp only [List.mem_cons, List.not_mem_nil, or_false] at hb
        rcases hb with rfl | rfl | rfl <;> exact hmark _ _ (by decide)
      · simp only [List.mem_cons, List.not_mem_nil, or_false] at hb
        rcases hb with rfl | rfl | rfl | rfl <;> exact hmark _ _ (by decide)

/-- Bytes of characters, cut at a newline, are bytes of characters on both sides. -/
theorem flatMap_encodeChar_cut : ∀ {chars : List Char} {before after : Bytes},
    chars.flatMap String.utf8EncodeChar = before ++ newline :: after →
    ∃ front back : List Char, before = front.flatMap String.utf8EncodeChar ∧
      after = back.flatMap String.utf8EncodeChar
  | [], before, after, h => by simp at h
  | c :: chars, before, after, h => by
    rw [List.flatMap_cons] at h
    rcases List.append_eq_append_iff.1 h with ⟨more, hbefore, hrest⟩ | ⟨more, hchar, hafter⟩
    · -- the newline is behind the character
      obtain ⟨front, back, hfront, hback⟩ := flatMap_encodeChar_cut hrest
      exact ⟨c :: front, back, by rw [hbefore, hfront, List.flatMap_cons], hback⟩
    · cases more with
      | nil =>
        -- the character ends where the newline stands
        have hrest : chars.flatMap String.utf8EncodeChar = [] ++ newline :: after := hafter.symm
        obtain ⟨front, back, -, hback⟩ := flatMap_encodeChar_cut hrest
        exact ⟨[c], back, by simpa using hchar.symm, hback⟩
      | cons b more =>
        obtain ⟨rfl, hrest⟩ := List.cons.inj hafter
        rcases encodeChar_cases c with ⟨b, hb⟩ | hall
        · -- the newline is the character
          rw [hb] at hchar
          have hlength := congrArg List.length hchar
          simp only [List.length_append, List.length_cons, List.length_nil] at hlength
          have hnil : before = [] ∧ more = [] :=
            ⟨List.eq_nil_of_length_eq_zero (by omega), List.eq_nil_of_length_eq_zero (by omega)⟩
          exact ⟨[], chars, hnil.1, by rw [hrest, hnil.2]; rfl⟩
        · have hlow := hall newline (by simp [hchar])
          exact absurd hlow (by decide)

/-- **A newline cuts a text** into two texts. -/
theorem bytes_cut {text : String} {before after : Bytes} (h : bytes text = before ++ newline :: after) :
    ∃ front back : String, before = bytes front ∧ after = bytes back := by
  rw [bytes_eq_flatMap] at h
  obtain ⟨front, back, hfront, hback⟩ := flatMap_encodeChar_cut h
  exact ⟨.ofList front, .ofList back, by simp [bytes_eq_flatMap, hfront], by simp [bytes_eq_flatMap, hback]⟩

end LineShell.Text
