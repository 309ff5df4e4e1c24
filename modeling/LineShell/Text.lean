/-!
# Bytes and text

- `Bytes` is what files, buffers and the console hold; `Text.bytes` and `Text.decode?` go between text and its
  UTF-8 form, and decoding fails on anything that no text is written as;
- `Text.decodeLossy` reads any bytes, with one replacement character for each piece that is not UTF-8.
-/

namespace LineShell

/-- What files, buffers and the console hold. -/
abbrev Bytes := List UInt8

/-- The byte that ends a line. -/
def newline : UInt8 := 10

namespace Text

/-- The UTF-8 form of a text. -/
def bytes (text : String) : Bytes :=
  text.toByteArray.data.toList

/-- The text whose UTF-8 form is given, if there is one. -/
def decode? (data : Bytes) : Option String :=
  String.fromUTF8? ⟨data.toArray⟩

/-- The number of bytes a text takes. -/
def size (text : String) : Nat :=
  text.utf8ByteSize

/-! ## Reading damaged text -/

/-- The number of bytes of the sequence that a first byte announces, `0` if no sequence starts with it. -/
def announced (first : UInt8) : Nat :=
  if first < 0x80 then 1
  else if first < 0xc2 then 0
  else if first < 0xe0 then 2
  else if first < 0xf0 then 3
  else if first < 0xf5 then 4
  else 0

/-- Whether `second` may follow `first`: overlong forms, surrogates and numbers past the last character are
told from the second byte. -/
def admitsSecond (first second : UInt8) : Bool :=
  if first == 0xe0 then 0xa0 ≤ second && second ≤ 0xbf
  else if first == 0xed then 0x80 ≤ second && second ≤ 0x9f
  else if first == 0xf0 then 0x90 ≤ second && second ≤ 0xbf
  else if first == 0xf4 then 0x80 ≤ second && second ≤ 0x8f
  else 0x80 ≤ second && second ≤ 0xbf

/-- Whether a byte continues a sequence. -/
def isContinuation (b : UInt8) : Bool :=
  0x80 ≤ b && b ≤ 0xbf

/-- How many of the bytes after `first` belong to the sequence it announces. -/
def followers (first : UInt8) (rest : Bytes) : Nat :=
  match rest with
  | [] => 0
  | second :: more =>
    if announced first < 2 || !admitsSecond first second then 0
    else 1 + ((more.take (announced first - 2)).takeWhile isContinuation).length

/-- The text of any bytes: a sequence that is broken off or starts wrongly becomes one replacement character,
and reading goes on with the first byte that does not belong to it. -/
def decodeLossy (data : Bytes) : String :=
  match data with
  | [] => ""
  | first :: rest =>
    let n := followers first rest
    let piece :=
      if announced first = n + 1 then (decode? (first :: rest.take n)).getD "\ufffd" else "\ufffd"
    piece ++ decodeLossy (rest.drop n)
termination_by data.length
decreasing_by simp only [List.length_drop, List.length_cons]; omega

end Text

end LineShell
