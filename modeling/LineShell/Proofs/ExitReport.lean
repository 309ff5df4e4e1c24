import LineShell.ExitReport
import LineShell.Proofs.Text
import LineShell.Text.Integer

/-!
# Exit codes in their buffer

The text of a code is its decimal numeral, and reading it gives the code back. It is written from the right, digit by digit:
`ExitReport.writeInto?` does it place by place, where a byte without a place in the buffer would be refused, and never is.

- `IsNumeral`: what a decimal numeral is, told from its characters;
- `Text.Integer.read_numeral`: a numeral is read as its number, between any bounds that the number is between;
- `ExitReport.write_exact`: the text of a code, and where it stands in the buffer.
-/

namespace LineShell

/-! ## Numerals -/

/-- The decimal numeral of an integer: `0`, or digits of which the first is not `0`, behind a minus sign if the integer is
negative. -/
inductive IsNumeral : Int → String → Prop
  | zero : IsNumeral 0 "0"
  | positive {c : Char} {digits : List Char} : c ≠ '0' → (∀ d ∈ c :: digits, d.isDigit) →
    IsNumeral (Nat.ofDigitChars 10 (c :: digits) 0) (.ofList (c :: digits))
  | negative {n : Int} {text : String} : 0 < n → IsNumeral n text → IsNumeral (-n) ("-" ++ text)

/-- The digits of a number that is not zero do not begin with a zero. -/
theorem toDigits_eq_cons {n : Nat} (hn : n ≠ 0) : ∃ c digits, Nat.toDigits 10 n = c :: digits ∧ c ≠ '0' := by
  induction n using Nat.strongRecOn with
  | ind n ih =>
    rw [Nat.toDigits_eq_if (by decide)]
    split
    · next hlt =>
      refine ⟨_, _, rfl, fun hzero => hn ?_⟩
      have hvalue := Nat.toNat_digitChar_of_lt_ten hlt
      rw [hzero] at hvalue
      have hnul : '0'.toNat = 48 := rfl
      omega
    · next hle =>
      obtain ⟨c, digits, hdigits, hc⟩ := ih (n / 10) (by omega) (by omega)
      exact ⟨c, _, by rw [hdigits, List.cons_append], hc⟩

theorem repr_isNumeral_of_ne_zero {m : Nat} (hm : m ≠ 0) : IsNumeral m m.repr := by
  obtain ⟨c, digits, hcons, hc⟩ := toDigits_eq_cons hm
  have hdigits : ∀ d ∈ Nat.toDigits 10 m, d.isDigit := fun _ => Nat.isDigit_of_mem_toDigits (by decide) (by decide)
  have hnumeral := IsNumeral.positive hc (hcons ▸ hdigits)
  rwa [← hcons, Nat.ofDigitChars_ten_toDigits, ← Nat.repr_eq_ofList_toDigits] at hnumeral

/-- **The text of an integer** is its numeral. -/
theorem repr_isNumeral (n : Int) : IsNumeral n n.repr := by
  rcases Int.lt_trichotomy n 0 with hneg | rfl | hpos
  · obtain ⟨m, rfl⟩ := Int.exists_eq_neg_ofNat (Int.le_of_lt hneg)
    rw [Int.repr_eq_if, if_neg (by omega), Int.neg_neg, Int.toNat_natCast]
    exact .negative (by omega) (repr_isNumeral_of_ne_zero (by omega))
  · exact .zero
  · obtain ⟨m, rfl⟩ := Int.eq_ofNat_of_zero_le (Int.le_of_lt hpos)
    rw [Int.repr_eq_if, if_pos (by omega), Int.toNat_natCast]
    exact repr_isNumeral_of_ne_zero (by omega)

/-! ## Reading numerals -/

namespace Text.Integer

/-- Digits stand for no less than what was read in front of them. -/
theorem le_ofDigitChars : ∀ (chars : List Char) (n : Nat), n ≤ Nat.ofDigitChars 10 chars n
  | [], _ => Nat.le_refl _
  | c :: chars, n => by
    have hrest := le_ofDigitChars chars (10 * n + (c.toNat - '0'.toNat))
    rw [Nat.ofDigitChars_cons]
    omega

/-- What digits mean behind a sign. -/
def signed (negative : Bool) (n : Nat) : Int :=
  if negative then -n else n

/-- One more digit. -/
theorem signed_step (negative : Bool) (n d : Nat) :
    (if negative then signed negative n * 10 - d else signed negative n * 10 + d) = signed negative (10 * n + d) := by
  cases negative <;> simp [signed] <;> omega

/-- What is between the bounds is so with fewer digits. -/
theorem signed_between {negative : Bool} {low high : Int} (hlow : low ≤ 0) (hhigh : 0 ≤ high) {m n : Nat} (h : m ≤ n)
    (hge : low ≤ signed negative n) (hle : signed negative n ≤ high) :
    low ≤ signed negative m ∧ signed negative m ≤ high := by
  cases negative <;> simp [signed] at hge hle ⊢ <;> omega

/-- Digits are read as what they stand for, if that is between the bounds. -/
theorem readDigits_eq (negative : Bool) {low high : Int} (hlow : low ≤ 0) (hhigh : 0 ≤ high) :
    ∀ {chars : List Char} {n : Nat}, (∀ c ∈ chars, c.isDigit) →
      low ≤ signed negative (Nat.ofDigitChars 10 chars n) → signed negative (Nat.ofDigitChars 10 chars n) ≤ high →
        readDigits negative low high (signed negative n) chars = .ok (signed negative (Nat.ofDigitChars 10 chars n))
  | [], _, _, _, _ => rfl
  | c :: chars, n, hdigits, hge, hle => by
    obtain ⟨hc, hrest⟩ := List.forall_mem_cons.1 hdigits
    have hdigit : (c.toNat : Int) - '0'.toNat = (c.toNat - '0'.toNat : Nat) := by
      have hbound : '0'.toNat ≤ c.toNat := by
        have hbounds : 48 ≤ c.toNat ∧ c.toNat ≤ 57 := by simpa [Char.isDigit, UInt32.le_iff_toNat_le] using hc
        exact hbounds.1
      omega
    rw [Nat.ofDigitChars_cons] at hge hle ⊢
    obtain ⟨hlow', hhigh'⟩ := signed_between hlow hhigh (le_ofDigitChars chars _) hge hle
    rw [readDigits, if_pos hc]
    simp only [hdigit, signed_step]
    rw [if_neg (by omega), if_neg (by omega)]
    exact readDigits_eq negative hlow hhigh hrest hge hle

/-- Where a digit comes first there is no sign. -/
theorem read_ofList (low high : Int) {c : Char} (hc : c.isDigit) (digits : List Char) :
    read low high (.ofList (c :: digits)) = readDigits false low high 0 (c :: digits) := by
  have hplus : c ≠ '+' := by
    rintro rfl
    exact absurd hc (by decide)
  have hminus : c ≠ '-' := by
    rintro rfl
    exact absurd hc (by decide)
  unfold read
  rw [String.toList_ofList]
  split <;> simp_all

theorem read_minus {low high : Int} (hlow : low < 0) (c : Char) (digits : List Char) :
    read low high ("-" ++ .ofList (c :: digits)) = readDigits true low high 0 (c :: digits) := by
  unfold read
  simp [hlow]

/-- **A numeral is read** as the number that it is the numeral of, if that is between the bounds. -/
theorem read_numeral {n low high : Int} {text : String} (h : IsNumeral n text) (hlow : low ≤ 0) (hhigh : 0 ≤ high)
    (hge : low ≤ n) (hle : n ≤ high) : read low high text = .ok n := by
  cases h with
  | zero =>
    have hdigit : ∀ c ∈ ['0'], c.isDigit := List.forall_mem_singleton.2 rfl
    have hread := read_ofList low high (hdigit _ List.mem_cons_self) []
    exact hread.trans (readDigits_eq false (n := 0) hlow hhigh hdigit hlow hhigh)
  | positive _ hdigits =>
    rw [read_ofList _ _ (hdigits _ List.mem_cons_self)]
    exact readDigits_eq false (n := 0) hlow hhigh hdigits hge hle
  | negative hpos hnumeral =>
    cases hnumeral with
    | zero => omega
    | positive _ hdigits =>
      rw [read_minus (by omega)]
      exact readDigits_eq true (n := 0) hlow hhigh hdigits hge hle
    | negative => omega

end Text.Integer

namespace ExitReport

/-! ## Digits as bytes -/

theorem encodeChar_digitChar : ∀ d < 10, String.utf8EncodeChar (Nat.digitChar d) = [UInt8.ofNat (48 + d)] := by
  decide

/-- The digits of a number are the bytes of its text. -/
theorem digits_eq (n : Nat) (text : Bytes) : digits n text = Text.bytes n.repr ++ text := by
  have hbytes (m : Nat) : Text.bytes m.repr = (Nat.toDigits 10 m).flatMap String.utf8EncodeChar := by
    rw [Nat.repr_eq_ofList_toDigits, Text.bytes_eq_flatMap, String.toList_ofList]
  have hlast (m : Nat) : String.utf8EncodeChar (Nat.digitChar (m % 10)) = [digit m] :=
    encodeChar_digitChar _ (Nat.mod_lt _ (by decide))
  fun_induction digits n text with
  | case1 n text hlt =>
    rw [hbytes, Nat.toDigits_of_lt_base hlt, List.flatMap_cons, List.flatMap_nil, ← Nat.mod_eq_of_lt hlt, hlast]
    simp [digit]
  | case2 n text hle ih =>
    rw [ih, hbytes n, Nat.toDigits_eq_if (by decide), if_neg hle, List.flatMap_append, ← hbytes, List.flatMap_cons,
      List.flatMap_nil, hlast]
    simp

theorem length_digits (n : Nat) (text : Bytes) :
    (digits n text).length = (Nat.toDigits 10 n).length + text.length := by
  fun_induction digits n text with
  | case1 n text hlt =>
    rw [Nat.toDigits_of_lt_base hlt, List.length_cons, List.length_singleton, Nat.add_comm]
  | case2 n text hle ih =>
    rw [ih, Nat.toDigits_eq_if (n := n) (by decide), if_neg hle, List.length_append, List.length_cons,
      List.length_singleton]
    omega

/-- The numeral of a code is its text. -/
theorem numeral_eq (code : ExitCode) : numeral code = Text.bytes code.toInt.repr := by
  by_cases hneg : code < 0
  · have hint : code.toInt < 0 := Int32.lt_iff_toInt_lt.1 hneg
    have habs : (-code.toInt).toNat = code.toInt.natAbs := by omega
    have hminus : Text.bytes "-" = [45] := by decide
    have hrepr : code.toInt.repr = "-" ++ code.toInt.natAbs.repr := by
      rw [Int.repr_eq_if, if_neg (by omega), habs]
    rw [hrepr, Text.bytes_append, hminus]
    simp [numeral, hneg, digits_eq]
  · have hint : ¬ code.toInt < 0 := fun hlt => hneg (Int32.lt_iff_toInt_lt.2 hlt)
    have habs : code.toInt.toNat = code.toInt.natAbs := by omega
    have hrepr : code.toInt.repr = code.toInt.natAbs.repr := by
      rw [Int.repr_eq_if, if_pos (by omega), habs]
    simp [numeral, hneg, digits_eq, hrepr]

/-- Ten digits are enough for a code. -/
theorem length_digits_le (code : ExitCode) (text : Bytes) :
    (digits code.toInt.natAbs text).length ≤ 10 + text.length := by
  have hlow := Int32.le_toInt code
  have hhigh := Int32.toInt_lt code
  have hdigits : (Nat.toDigits 10 code.toInt.natAbs).length ≤ 10 :=
    (Nat.length_toDigits_le_iff (by decide) (by decide)).2 (by omega)
  rw [length_digits]
  omega

/-- With its sign, a code leaves room for the NUL behind it. -/
theorem length_numeral_lt (code : ExitCode) : (numeral code).length < width := by
  have hdigits := length_digits_le code []
  rw [numeral]
  split
  · exact Nat.succ_lt_succ (Nat.lt_succ_of_le hdigits)
  · exact Nat.lt_of_le_of_lt hdigits (by decide)

/-! ## Place by place -/

/-- A buffer, and the place in it where what was written into it begins. -/
structure Written where
  start : Nat
  buffer : Bytes

namespace Written

/-- Write one more byte, in front of the others. It is refused where there is no place for it. -/
def put? (w : Written) (b : UInt8) : Option Written :=
  match w.start with
  | 0 => none
  | start + 1 => if start < w.buffer.length then some ⟨start, w.buffer.set start b⟩ else none

/-- Write the digits of a number, the last one first. -/
def putDigits? (w : Written) (n : Nat) : Option Written :=
  match w.put? (digit n) with
  | none => none
  | some w => if n / 10 = 0 then some w else w.putDigits? (n / 10)
termination_by n

/-- What was written are these bytes, at the end of a buffer of which the rest is what it was. -/
structure Holds (w : Written) (original data : Bytes) : Prop where
  buffer_eq : w.buffer = original.take w.start ++ data
  start_add : w.start + data.length = original.length

variable {w : Written} {original data : Bytes}

/-- A byte for which there is room has a place. -/
theorem Holds.put? (h : w.Holds original data) (hroom : data.length < original.length) (b : UInt8) :
    ∃ w', w.put? b = some w' ∧ w'.Holds original (b :: data) := by
  obtain ⟨start, buffer⟩ := w
  obtain ⟨hbuffer, hstart⟩ := h
  simp only at hbuffer hstart
  obtain ⟨start, rfl⟩ : ∃ s, start = s + 1 := ⟨start - 1, by omega⟩
  have htake : (original.take (start + 1)).length = start + 1 := List.length_take_of_le (by omega)
  have hlt : start < buffer.length := by
    rw [hbuffer, List.length_append, htake]
    omega
  refine ⟨⟨start, buffer.set start b⟩, by simp [Written.put?, hlt], ?_, by simp; omega⟩
  show buffer.set start b = original.take start ++ b :: data
  rw [List.set_eq_take_append_cons_drop, if_pos hlt, hbuffer, List.drop_left' htake,
    List.take_append_of_le_length (by omega), List.take_take, Nat.min_eq_left (by omega)]

/-- **Digits have their places**, if there is room for all of them. -/
theorem Holds.putDigits? (n : Nat) : ∀ {w : Written} {data : Bytes}, w.Holds original data →
    (digits n data).length ≤ original.length →
      ∃ w', w.putDigits? n = some w' ∧ w'.Holds original (digits n data) := by
  induction n using Nat.strongRecOn with
  | ind n ih =>
    intro w data h hroom
    have hpos := Nat.length_toDigits_pos (b := 10) (n := n)
    rw [length_digits] at hroom
    obtain ⟨w₁, hput, h₁⟩ := h.put? (by omega) (digit n)
    rw [Written.putDigits?, hput, digits]
    by_cases hlast : n < 10
    · exact ⟨w₁, by simp; omega, by rwa [if_pos hlast]⟩
    · have hmore : ¬ n / 10 = 0 := by omega
      simp only [hmore, hlast, ↓reduceIte]
      refine ih (n / 10) (by omega) h₁ ?_
      have hlength := length_digits n data
      rw [digits, if_neg hlast] at hlength
      omega

end Written

/-- Write a code into a buffer: a NUL in the last place, the digits in front of it, and then perhaps the sign. Nothing comes
of it if a byte has no place. The text is what begins at the last byte that was written and ends in front of the NUL. -/
def writeInto? (code : ExitCode) (buffer : Bytes) : Option (String × Bytes) :=
  (Written.put? ⟨width, buffer⟩ 0).bind fun w =>
  (w.putDigits? code.toInt.natAbs).bind fun w =>
  (if code < 0 then w.put? 45 else some w).map fun w =>
    ((Text.decode? ((w.buffer.take (width - 1)).drop w.start)).getD "", w.buffer)

theorem digits_append (n : Nat) (text : Bytes) : digits n text = digits n [] ++ text := by
  rw [digits_eq, digits_eq, List.append_nil]

variable (code : ExitCode) {buffer : Bytes}

/-- The sign has a place in front of the digits. -/
theorem Written.Holds.putSign? {w : Written} (hdigits : w.Holds buffer (digits code.toInt.natAbs [0]))
    (h : buffer.length = width) :
    ∃ w', (if code < 0 then w.put? 45 else some w) = some w' ∧ w'.Holds buffer (numeral code ++ [0]) := by
  by_cases hneg : code < 0
  · have hroom : (digits code.toInt.natAbs [0]).length < buffer.length := by
      rw [h]
      exact Nat.lt_of_le_of_lt (length_digits_le code [0]) (by decide)
    obtain ⟨w', hput, h'⟩ := hdigits.put? hroom 45
    refine ⟨w', by rw [if_pos hneg, hput], ?_⟩
    simpa [numeral, hneg, digits_append _ [0]] using h'
  · refine ⟨w, if_neg hneg, ?_⟩
    simpa [numeral, hneg, digits_append _ [0]] using hdigits

/-- **Every byte of a code has a place** in a buffer of the width, and what comes of it is what is written. -/
theorem writeInto?_eq (h : buffer.length = width) : writeInto? code buffer = some (write code buffer) := by
  have hlength := length_numeral_lt code
  have hroom : (digits code.toInt.natAbs [0]).length ≤ buffer.length := by
    rw [h]
    exact Nat.le_trans (length_digits_le code [0]) (by decide)
  have h₀ : (⟨width, buffer⟩ : Written).Holds buffer [] := ⟨by simp [← h], h.symm⟩
  obtain ⟨w₁, hput₁, h₁⟩ := h₀.put? (by simp [h, width]) 0
  obtain ⟨w₂, hput₂, h₂⟩ := h₁.putDigits? code.toInt.natAbs hroom
  obtain ⟨w₃, hput₃, h₃⟩ := h₂.putSign? code h
  have hstart : w₃.start + (numeral code).length = width - 1 := by
    have hsum := h₃.start_add
    rw [h, List.length_append, List.length_singleton] at hsum
    omega
  have hbefore : (buffer.take w₃.start).length = w₃.start := List.length_take_of_le (by omega)
  have htext : (w₃.buffer.take (width - 1)).drop w₃.start = numeral code := by
    rw [h₃.buffer_eq, ← List.append_assoc, List.take_left' (by rw [List.length_append]; omega),
      List.drop_left' hbefore]
  rw [writeInto?, hput₁, Option.bind_some, hput₂, Option.bind_some, hput₃, Option.map_some, write, htext,
    h₃.buffer_eq, Nat.eq_sub_of_add_eq hstart, List.append_assoc]

/-! ## The text -/

/-- The text of a code is its numeral. -/
theorem write_isNumeral (buffer : Bytes) : IsNumeral code.toInt (write code buffer).1 := by
  rw [write, numeral_eq]
  simpa only [Text.decode?_bytes, Option.getD_some] using repr_isNumeral code.toInt

/-- The bytes of the text are those of the numeral. -/
theorem bytes_write (buffer : Bytes) : Text.bytes (write code buffer).1 = numeral code := by
  rw [write, numeral_eq]
  simp only [Text.decode?_bytes, Option.getD_some]

/-- A code is read from its text. -/
theorem read_write (buffer : Bytes) :
    Text.Integer.read (-0x80000000) 0x7fffffff (write code buffer).1 = .ok code.toInt := by
  have hlow := Int32.le_toInt code
  have hhigh := Int32.toInt_lt code
  exact Text.Integer.read_numeral (write_isNumeral code buffer) (by decide) (by decide) (by omega) (by omega)

/-- **Exit codes are written exactly.** Into any buffer of twelve bytes a code is written place by place, and every byte has
its place. The text is the decimal numeral of the code and is read as the code, so another code has another text. The buffer
then holds what it held before, up to the bytes of the text, and one NUL behind them. -/
theorem write_exact (h : buffer.length = width) :
    writeInto? code buffer = some (write code buffer) ∧
    IsNumeral code.toInt (write code buffer).1 ∧
    Text.Integer.read (-0x80000000) 0x7fffffff (write code buffer).1 = .ok code.toInt ∧
    (∀ other buffer', (write other buffer').1 = (write code buffer).1 → other = code) ∧
    ∃ kept replaced, buffer = kept ++ replaced ∧
      (write code buffer).2 = kept ++ Text.bytes (write code buffer).1 ++ [0] ∧
      (write code buffer).2.length = width := by
  refine ⟨writeInto?_eq code h, write_isNumeral code buffer, read_write code buffer, fun other buffer' hsame => ?_,
    buffer.take (width - 1 - (numeral code).length), buffer.drop (width - 1 - (numeral code).length),
    (List.take_append_drop _ _).symm, by rw [bytes_write, write], ?_⟩
  · have hother := read_write other buffer'
    rw [hsame, read_write code buffer] at hother
    exact Int32.toInt_inj.1 (Except.ok.inj hother).symm
  · have hlength := length_numeral_lt code
    simp only [write, List.length_append, List.length_take, List.length_singleton, h]
    omega

/-- The least code takes the whole buffer. -/
theorem write_exact_least :
    let buffer : Bytes := List.replicate width 0xaa
    buffer.length = width ∧
      writeInto? (-0x80000000) buffer = some ("-2147483648", Text.bytes "-2147483648" ++ [0]) ∧
      IsNumeral (-0x80000000) "-2147483648" ∧
      Text.Integer.read (-0x80000000) 0x7fffffff "-2147483648" = .ok (-0x80000000) := by
  intro buffer
  have hlength : buffer.length = width := by decide
  have hwrite : write (-0x80000000) buffer = ("-2147483648", Text.bytes "-2147483648" ++ [0]) := by decide +kernel
  obtain ⟨hplaces, hnumeral, hread, -⟩ := write_exact (-0x80000000) hlength
  rw [hwrite] at hplaces hnumeral hread
  exact ⟨hlength, hplaces, hnumeral, hread⟩

end ExitReport

end LineShell
