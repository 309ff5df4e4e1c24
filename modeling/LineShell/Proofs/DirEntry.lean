import LineShell.DirEntry
import LineShell.Proofs.Text
import Mathlib.Data.FinEnum
import Mathlib.Order.Bounds.Basic

/-!
# Names in directory entries

A field holds as much of a name as has room in it, cut between two characters, and is filled up with NUL. A NUL of the name
looks the same, so what is read back ends at the first one (`DirEntry.name_eq`).

- `Text.isBoundary_iff`: a place is found to be a boundary by the byte behind it, and is one between two characters;
- `Text.take_lastBoundary`: the bytes up to the last boundary within the room are those of the longest beginning
  (`Text.cut`) that has room;
- `DirEntry.ofName_keeps_longest`: what of a name is in the field, and what an entry shows of it.
-/

namespace LineShell

namespace Text

/-! ## NUL -/

/-- The text up to its first NUL. -/
def beforeNul (text : String) : String :=
  .ofList (text.toList.takeWhile (· != '\x00'))

theorem beforeNul_eq_self {text : String} (h : '\x00' ∉ text.toList) : beforeNul text = text := by
  have hall : ∀ c ∈ text.toList, (c != '\x00') = true := by
    intro c hc
    simp only [bne_iff_ne]
    rintro rfl
    exact h hc
  have htake : (text.toList ++ []).takeWhile (· != '\x00') = text.toList := by
    rw [List.takeWhile_append_of_pos hall, List.takeWhile_nil, List.append_nil]
  rw [List.append_nil] at htake
  rw [beforeNul, htake, String.ofList_toList]

/-- What is up to the first NUL has none. -/
theorem not_mem_beforeNul (text : String) : '\x00' ∉ (beforeNul text).toList := by
  rw [beforeNul, String.toList_ofList]
  intro h
  have hne := List.all_eq_true.1 List.all_takeWhile _ h
  exact absurd hne (by decide)

theorem beforeNul_eq_self_iff {text : String} : beforeNul text = text ↔ '\x00' ∉ text.toList :=
  ⟨fun h => h ▸ not_mem_beforeNul text, beforeNul_eq_self⟩

theorem mem_of_mem_beforeNul {text : String} {c : Char} (h : c ∈ (beforeNul text).toList) : c ∈ text.toList := by
  rw [beforeNul, String.toList_ofList] at h
  exact (List.takeWhile_prefix _).subset h

/-- NUL is the only character with a NUL among its bytes. -/
theorem encodeChar_nul {c : Char} (h : (0 : UInt8) ∈ String.utf8EncodeChar c) : c = '\x00' := by
  rcases encodeChar_cases c with ⟨b, hb⟩ | hall
  · rw [hb, List.mem_singleton] at h
    subst h
    have hbytes : bytes (.ofList [c]) = bytes (.ofList ['\x00']) := by
      rw [bytes_eq_flatMap, bytes_eq_flatMap]
      simp [hb]
      rfl
    have hchars := congrArg String.toList (bytes_injective hbytes)
    simpa using hchars
  · exact absurd (hall 0 h) (by decide)

/-- The bytes up to the first NUL are those of the text up to there. -/
theorem takeWhile_bytes (text : String) : (bytes text).takeWhile (· != 0) = bytes (beforeNul text) := by
  rw [bytes_eq_flatMap, bytes_eq_flatMap, beforeNul, String.toList_ofList]
  induction text.toList with
  | nil => rfl
  | cons c chars ih =>
    rw [List.flatMap_cons]
    by_cases hc : c = '\x00'
    · subst hc
      rfl
    · have hall : ∀ b ∈ String.utf8EncodeChar c, (b != 0) = true := by
        intro b hb
        simp only [bne_iff_ne]
        rintro rfl
        exact hc (encodeChar_nul hb)
      rw [List.takeWhile_append_of_pos hall, ih, List.takeWhile_cons_of_pos (by simpa using hc), List.flatMap_cons]

/-! ## Cutting -/

/-- The longest beginning of `chars` that takes at most `room` bytes. -/
def fitting (room : Nat) : List Char → List Char
  | [] => []
  | c :: rest => if c.utf8Size ≤ room then c :: fitting (room - c.utf8Size) rest else []

/-- The longest beginning of `text` that takes at most `room` bytes. -/
def cut (room : Nat) (text : String) : String :=
  String.ofList (fitting room text.toList)

theorem size_le_of_isPrefix {front chars : List Char} (h : front <+: chars) :
    size (.ofList front) ≤ size (.ofList chars) := by
  obtain ⟨back, rfl⟩ := h
  simp only [← length_bytes, String.ofList_append, bytes_append, List.length_append]
  omega

theorem size_beforeNul_le (text : String) : size (beforeNul text) ≤ size text := by
  have h := size_le_of_isPrefix (List.takeWhile_prefix (l := text.toList) (· != '\x00'))
  rwa [String.ofList_toList] at h

theorem fitting_eq_self : ∀ {chars : List Char} {room : Nat}, size (.ofList chars) ≤ room → fitting room chars = chars
  | [], _, _ => rfl
  | c :: chars, room, h => by
    rw [size_cons] at h
    rw [fitting, if_pos (by omega), fitting_eq_self (by omega)]

theorem cut_eq_self {text : String} {room : Nat} (h : size text ≤ room) : cut room text = text := by
  rw [cut, fitting_eq_self (by rwa [String.ofList_toList]), String.ofList_toList]

/-- What fits is a beginning. -/
theorem fitting_isPrefix : ∀ (room : Nat) (chars : List Char), fitting room chars <+: chars
  | _, [] => List.prefix_rfl
  | room, c :: chars => by
    rw [fitting]
    split
    · exact (List.prefix_cons_inj c).2 (fitting_isPrefix _ chars)
    · exact List.nil_prefix

theorem size_fitting_le : ∀ (room : Nat) (chars : List Char), size (.ofList (fitting room chars)) ≤ room
  | room, [] => Nat.zero_le room
  | room, c :: chars => by
    rw [fitting]
    split
    · next hc =>
      have hrest := size_fitting_le (room - c.utf8Size) chars
      rw [size_cons]
      omega
    · exact Nat.zero_le room

/-- No beginning that there is room for takes more than what fits. -/
theorem size_le_fitting : ∀ {room : Nat} {chars front : List Char}, front <+: chars →
    size (.ofList front) ≤ room → size (.ofList front) ≤ size (.ofList (fitting room chars))
  | _, _, [], _, _ => Nat.zero_le _
  | room, [], c :: front, h, _ => by simp at h
  | room, d :: chars, c :: front, h, hroom => by
    obtain ⟨rfl, hfront⟩ := List.cons_prefix_cons.1 h
    rw [size_cons] at hroom
    have hrest : size (.ofList front) ≤ size (.ofList (fitting (room - c.utf8Size) chars)) :=
      size_le_fitting hfront (by omega)
    rw [fitting, if_pos (by omega), size_cons, size_cons]
    omega

/-- A place among the bytes of a text is a boundary of characters if whole characters come up to it. -/
theorem isValid_iff {text : String} {n : Nat} :
    (⟨n⟩ : String.Pos.Raw).IsValid text ↔ ∃ front, front <+: text.toList ∧ size (.ofList front) = n := by
  rw [String.Pos.Raw.isValid_iff_exists_append]
  constructor
  · rintro ⟨front, back, rfl, hn⟩
    refine ⟨front.toList, by simp, ?_⟩
    rw [String.ofList_toList]
    exact (congrArg String.Pos.Raw.byteIdx hn).symm
  · rintro ⟨front, ⟨back, hback⟩, rfl⟩
    refine ⟨.ofList front, .ofList back, ?_, rfl⟩
    rw [← String.toList_inj]
    simp [hback]

/-- **A text is cut** at the last boundary of its characters that is within the room. -/
theorem isGreatest_size_cut (room : Nat) (text : String) :
    IsGreatest {n | n ≤ room ∧ (⟨n⟩ : String.Pos.Raw).IsValid text} (size (cut room text)) := by
  refine ⟨⟨size_fitting_le room text.toList, isValid_iff.2 ⟨_, fitting_isPrefix room text.toList, rfl⟩⟩, ?_⟩
  rintro n ⟨hroom, hvalid⟩
  obtain ⟨front, hfront, rfl⟩ := isValid_iff.1 hvalid
  exact size_le_fitting hfront hroom

/-- What is left of a cut text are its first bytes. -/
theorem bytes_cut_eq_take (room : Nat) (text : String) :
    bytes (cut room text) = (bytes text).take (size (cut room text)) := by
  obtain ⟨back, hback⟩ := fitting_isPrefix room text.toList
  have htext : text = cut room text ++ .ofList back := by
    rw [← String.toList_inj]
    simp [cut, hback]
  have hbytes : bytes text = bytes (cut room text) ++ bytes (.ofList back) :=
    (congrArg bytes htext).trans (bytes_append _ _)
  rw [hbytes, ← length_bytes, List.take_left]

/-! ## Boundaries -/

/-- The bytes behind the first one of a character are told from it. -/
theorem isUTF8FirstByte_iff {c : Char} {b : UInt8} (h : b ∈ String.utf8EncodeChar c) :
    b.IsUTF8FirstByte ↔ isContinuation b = false := by
  -- what the bit patterns of a character's bytes are, whatever bits of the character they carry
  have hone : ∀ x : UInt8, x ≤ 127 → (x.IsUTF8FirstByte ↔ isContinuation x = false) := by decide +kernel
  have htwo : ∀ x : UInt8, (x &&& 31 ||| 192).IsUTF8FirstByte ↔ isContinuation (x &&& 31 ||| 192) = false := by
    decide +kernel
  have hthree : ∀ x : UInt8, (x &&& 15 ||| 224).IsUTF8FirstByte ↔ isContinuation (x &&& 15 ||| 224) = false := by
    decide +kernel
  have hfour : ∀ x : UInt8, (x &&& 7 ||| 240).IsUTF8FirstByte ↔ isContinuation (x &&& 7 ||| 240) = false := by
    decide +kernel
  have hmore : ∀ x : UInt8, (x &&& 63 ||| 128).IsUTF8FirstByte ↔ isContinuation (x &&& 63 ||| 128) = false := by
    decide +kernel
  rw [String.utf8EncodeChar_eq_utf8EncodeCharFast, String.utf8EncodeCharFast] at h
  split at h
  · next hsmall =>
    obtain rfl := List.mem_singleton.1 h
    refine hone _ ?_
    rw [UInt32.le_iff_toNat_le] at hsmall
    rw [UInt8.le_iff_toNat_le, UInt32.toNat_toUInt8]
    exact Nat.le_trans (Nat.mod_le _ _) hsmall
  · split at h
    · simp only [List.mem_cons, List.not_mem_nil, or_false] at h
      rcases h with rfl | rfl
      · exact htwo _
      · exact hmore _
    · split at h
      · simp only [List.mem_cons, List.not_mem_nil, or_false] at h
        rcases h with rfl | rfl | rfl
        · exact hthree _
        · exact hmore _
        · exact hmore _
      · simp only [List.mem_cons, List.not_mem_nil, or_false] at h
        rcases h with rfl | rfl | rfl | rfl
        · exact hfour _
        · exact hmore _
        · exact hmore _
        · exact hmore _

/-- The places that are found to be boundaries are those between the characters. -/
theorem isBoundary_iff {text : String} {n : Nat} :
    isBoundary (bytes text) n = true ↔ (⟨n⟩ : String.Pos.Raw).IsValid text := by
  have hbyte (h : n < (bytes text).length) :
      (text.getUTF8Byte ⟨n⟩ h).IsUTF8FirstByte ↔ isContinuation (bytes text)[n] = false := by
    have hmem : (bytes text)[n] ∈ text.toList.flatMap String.utf8EncodeChar := by
      rw [← bytes_eq_flatMap]
      exact List.getElem_mem h
    obtain ⟨c, -, hc⟩ := List.mem_flatMap.1 hmem
    exact isUTF8FirstByte_iff hc
  have hend : (⟨n⟩ : String.Pos.Raw) = text.rawEndPos ↔ n = (bytes text).length :=
    ⟨congrArg String.Pos.Raw.byteIdx, congrArg String.Pos.Raw.mk⟩
  by_cases hzero : n = 0
  · subst hzero
    exact iff_of_true (by simp [isBoundary]) String.Pos.Raw.isValid_zero
  rw [String.Pos.Raw.isValid_iff_isUTF8FirstByte, hend, isBoundary]
  rcases Nat.lt_or_ge n (bytes text).length with h | h
  · rw [List.getElem?_eq_getElem h]
    simp only [hzero, Nat.ne_of_lt h, decide_false, Bool.or_self, Bool.false_or, Option.any_some, Bool.not_eq_true',
      false_or]
    exact ⟨fun hb => ⟨h, (hbyte h).2 hb⟩, fun ⟨_, hb⟩ => (hbyte h).1 hb⟩
  · rw [List.getElem?_eq_none h]
    simp only [hzero, decide_false, Bool.false_or, Option.any_none, Bool.or_false, decide_eq_true_eq]
    exact ⟨.inl, fun hn => hn.resolve_right fun ⟨hlt, _⟩ => absurd hlt (Nat.not_lt.2 h)⟩

/-- The search for a boundary ends at the last one. -/
theorem isGreatest_lastBoundary (data : Bytes) :
    ∀ place, IsGreatest {n | n ≤ place ∧ isBoundary data n = true} (lastBoundary data place)
  | 0 => ⟨⟨Nat.le_refl 0, rfl⟩, fun _ h => h.1⟩
  | place + 1 => by
    obtain ⟨⟨hle, hfound⟩, hlast⟩ := isGreatest_lastBoundary data place
    rw [lastBoundary]
    split
    · next hhere => exact ⟨⟨Nat.le_refl _, hhere⟩, fun _ h => h.1⟩
    · next hhere =>
      refine ⟨⟨Nat.le_succ_of_le hle, hfound⟩, ?_⟩
      rintro n ⟨hn, hboundary⟩
      rcases Nat.le_succ_iff.1 hn with hn | rfl
      · exact hlast ⟨hn, hboundary⟩
      · exact absurd hboundary hhere

/-- Where the search for a boundary ends, the longest beginning that has room does. -/
theorem lastBoundary_eq (room : Nat) (text : String) :
    lastBoundary (bytes text) (min (bytes text).length room) = size (cut room text) := by
  refine IsGreatest.unique ?_ (isGreatest_size_cut room text)
  have hsame : {n | n ≤ room ∧ (⟨n⟩ : String.Pos.Raw).IsValid text} =
      {n | n ≤ min (bytes text).length room ∧ isBoundary (bytes text) n = true} := by
    ext n
    simp only [Set.mem_ofPred_eq, isBoundary_iff]
    constructor
    · rintro ⟨hroom, hvalid⟩
      exact ⟨Nat.le_min.2 ⟨hvalid.le_rawEndPos, hroom⟩, hvalid⟩
    · rintro ⟨hmin, hvalid⟩
      exact ⟨(Nat.le_min.1 hmin).2, hvalid⟩
  rw [hsame]
  exact isGreatest_lastBoundary _ _

/-- **The bytes up to the last boundary** within the room are those of the longest beginning that has room. -/
theorem take_lastBoundary (room : Nat) (text : String) :
    (bytes text).take (lastBoundary (bytes text) (min (bytes text).length room)) = bytes (cut room text) := by
  rw [lastBoundary_eq, bytes_cut_eq_take]

end Text

namespace DirEntry

/-- Bytes with room in the field stand in front of NUL. -/
theorem pad_eq {data : Bytes} (h : data.length ≤ fileNameWidth) :
    pad data = data ++ List.replicate (fileNameWidth - data.length) 0 :=
  List.take_of_length_le (by simp; omega)

/-- A field is cut at the first NUL that it was filled up with. -/
theorem takeWhile_pad {data : Bytes} (h : data.length ≤ fileNameWidth) :
    (pad data).takeWhile (· != 0) = data.takeWhile (· != 0) := by
  rw [pad_eq h, List.takeWhile_append]
  split
  · next hall =>
    rw [List.takeWhile_replicate, if_neg (by decide), List.append_nil, (List.takeWhile_prefix _).eq_of_length hall]
  · rfl

section Name

variable (name : String) (id : Fd)

theorem size_cut_le : Text.size (Text.cut fileNameWidth name) ≤ fileNameWidth :=
  Text.size_fitting_le _ _

theorem ofName_eq : ofName name id = ⟨pad (Text.bytes (Text.cut fileNameWidth name)), id⟩ := by
  rw [ofName, Text.take_lastBoundary]

theorem field_eq : (ofName name id).field = Text.bytes (Text.cut fileNameWidth name) ++
    List.replicate (fileNameWidth - Text.size (Text.cut fileNameWidth name)) 0 := by
  rw [ofName_eq]
  exact pad_eq (size_cut_le name)

/-- What the field holds is a text. -/
theorem decode?_field : Text.decode? ((ofName name id).field.takeWhile (· != 0)) =
    some (Text.beforeNul (Text.cut fileNameWidth name)) := by
  have hlength : (Text.bytes (Text.cut fileNameWidth name)).length ≤ fileNameWidth := size_cut_le name
  rw [ofName_eq, takeWhile_pad hlength, Text.takeWhile_bytes, Text.decode?_bytes]

/-- An entry shows what has room of a name, up to its first NUL. -/
theorem name_eq : (ofName name id).name = Text.beforeNul (Text.cut fileNameWidth name) := by
  rw [DirEntry.name, decode?_field, Option.getD_some]

/-- **The name that an entry shows** is the name up to its first NUL, if the field has room for it. -/
theorem name_ofName {name : String} (h : Text.size name ≤ fileNameWidth) (id : Fd) :
    (ofName name id).name = Text.beforeNul name := by
  rw [name_eq, Text.cut_eq_self h]

theorem size_name_le : Text.size (ofName name id).name ≤ fileNameWidth := by
  rw [name_eq]
  exact Nat.le_trans (Text.size_beforeNul_le _) (size_cut_le name)

/-- Only a name that has room and no NUL is shown as it is. -/
theorem name_eq_self_iff : (ofName name id).name = name ↔ Text.size name ≤ fileNameWidth ∧ '\x00' ∉ name.toList := by
  constructor
  · intro hname
    refine ⟨hname ▸ size_name_le name id, ?_⟩
    rw [← hname, name_eq]
    exact Text.not_mem_beforeNul _
  · rintro ⟨hsize, hnul⟩
    rw [name_ofName hsize, Text.beforeNul_eq_self hnul]

/-- **Names are cut between characters.** Of every name, the field holds the bytes up to the last boundary of characters
that is within its width, and NUL behind them. What is in front of the first NUL of the field is a text, never anything
else, and the name that the entry shows: what the field holds of the name, up to its first NUL. So it is the name itself
exactly if that takes no more than the width of the field and has no NUL, and an entry made of what an entry shows, for
whatever file, shows the same. -/
theorem ofName_keeps_longest :
    ∃ (n : Nat) (kept : String),
      IsGreatest {n | n ≤ fileNameWidth ∧ (⟨n⟩ : String.Pos.Raw).IsValid name} n ∧
      Text.bytes kept = (Text.bytes name).take n ∧
      (ofName name id).field = Text.bytes kept ++ List.replicate (fileNameWidth - n) 0 ∧
      Text.decode? ((ofName name id).field.takeWhile (· != 0)) = some (Text.beforeNul kept) ∧
      (ofName name id).name = Text.beforeNul kept ∧
      ((ofName name id).name = name ↔ Text.size name ≤ fileNameWidth ∧ '\x00' ∉ name.toList) ∧
      ∀ other, (ofName (ofName name id).name other).name = (ofName name id).name := by
  refine ⟨Text.size (Text.cut fileNameWidth name), Text.cut fileNameWidth name, Text.isGreatest_size_cut _ _,
    Text.bytes_cut_eq_take _ _, field_eq name id, decode?_field name id, name_eq name id, name_eq_self_iff name id,
    fun other => (name_eq_self_iff _ other).2 ⟨size_name_le name id, ?_⟩⟩
  rw [name_eq]
  exact Text.not_mem_beforeNul _

/-- Ten bytes, and a character of two that would end behind the field. -/
example : (ofName "abcdefghijé" ⟨3⟩).name = "abcdefghij" := by decide +kernel

end Name

end DirEntry

end LineShell
