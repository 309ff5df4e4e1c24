import LineShell.Userland.Quantity

/-!
# Conversions in formats

A conversion such as `%-8.3f` says how one value is written. `Conversion.read` reads what stands behind the percent
sign up to the letter; `Conversion.text`, `Conversion.signed`, `Conversion.unsigned` and `Conversion.quantity` write
values.
-/

namespace LineShell.Host

/-- A conversion of a format, without its letter. -/
structure Conversion where
  left : Bool := false
  zeros : Bool := false
  plus : Bool := false
  blank : Bool := false
  alternate : Bool := false
  width : Nat := 0
  precision : Option Nat := none
deriving DecidableEq, Repr

namespace Conversion

/-- The flags of a conversion. -/
def readFlags (c : Conversion) : Bytes → Conversion × Bytes
  | [] => (c, [])
  | b :: rest =>
    match Char.ofNat b.toNat with
    | '-' => readFlags { c with left := true } rest
    | '0' => readFlags { c with zeros := true } rest
    | '+' => readFlags { c with plus := true } rest
    | ' ' => readFlags { c with blank := true } rest
    | '#' => readFlags { c with alternate := true } rest
    | '\'' => readFlags c rest
    | _ => (c, b :: rest)

/-- Set the width; a negative one asks for the left side. -/
def withWidth (c : Conversion) (n : Int) : Conversion :=
  { c with left := c.left || n < 0, width := n.natAbs }

/-- Set the precision; a negative one is none. -/
def withPrecision (c : Conversion) (n : Int) : Conversion :=
  { c with precision := if n < 0 then none else some n.toNat }

/-- A width or precision: digits, or the next of the values that are given for stars. -/
def readSize (stars : List Int) (text : Bytes) : Int × List Int × Bytes :=
  if text.head? = some (byte '*') then (stars.headD 0, stars.tail, text.tail)
  else (number (text.takeWhile isDigit), stars, text.dropWhile isDigit)

/-- Read a conversion up to its letter, with the values that are given for stars. -/
def read (stars : List Int) (text : Bytes) : Conversion × List Int × Bytes :=
  let (c, text) := readFlags {} text
  let (width, stars, text) := readSize stars text
  let c := c.withWidth width
  if text.head? = some (byte '.') then
    let (precision, stars, text) := readSize stars text.tail
    (c.withPrecision precision, stars, text)
  else (c, stars, text)

/-- How many stars there are in a conversion up to its letter. -/
def stars (text : Bytes) : Nat :=
  let isPart (b : UInt8) : Bool := isDigit b || ("-+ #'*.".toList.map byte).contains b
  (text.takeWhile isPart).count (byte '*')

/-- Fill up to the width with blanks. -/
def pad (c : Conversion) (text : Bytes) : Bytes :=
  if c.left then padRight c.width (byte ' ') text else padLeft c.width (byte ' ') text

/-- A text, cut to the precision. -/
def text (c : Conversion) (value : Bytes) : Bytes :=
  c.pad (match c.precision with
    | some p => value.take p
    | none => value)

/-- The sign in front of a number. -/
def sign (c : Conversion) (negative : Bool) : Bytes :=
  if negative then [byte '-'] else if c.plus then [byte '+'] else if c.blank then [byte ' '] else []

/-- A whole number of which the sign and the digits are given; a precision asks for that many digits. -/
def numeral (c : Conversion) (sign digits : Bytes) : Bytes :=
  let least := match c.precision with
    | some p => p
    | none => if c.zeros && !c.left then c.width - sign.length else 0
  let digits := if c.precision = some 0 && digits = [byte '0'] then [] else digits
  c.pad (sign ++ padLeft least (byte '0') digits)

/-- A whole number with its sign. -/
def signed (c : Conversion) (n : Int) : Bytes :=
  c.numeral (c.sign (n < 0)) (decimal n.natAbs)

/-- The digits of a number to a base. -/
def digitsOf (base n : Nat) (upper : Bool) : Bytes :=
  let digits := (Nat.toDigits base n).map fun c => if upper then c.toUpper else c
  digits.map byte

/-- A whole number in the way a letter asks for. -/
def unsigned (c : Conversion) (letter : Char) (n : Nat) : Bytes :=
  match letter with
  | 'o' =>
    let digits := digitsOf 8 n false
    let digits := if c.alternate && digits.head? != some (byte '0') then byte '0' :: digits else digits
    c.numeral [] digits
  | 'x' => c.numeral (if c.alternate && n != 0 then Text.bytes "0x" else []) (digitsOf 16 n false)
  | 'X' => c.numeral (if c.alternate && n != 0 then Text.bytes "0X" else []) (digitsOf 16 n true)
  | _ => c.numeral [] (decimal n)

/-- A number with a point in the way a letter asks for. Hexadecimal digits are those of a machine word. -/
def quantity (c : Conversion) (letter : Char) (q : Quantity) (p : Precision := .double) : Bytes :=
  let upper := letter.isUpper
  let cased (text : Bytes) : Bytes :=
    if upper then text.map fun b => if byte 'a' ≤ b && b ≤ byte 'z' then b - 32 else b else text
  let sign := c.sign q.negative
  let places := c.precision.getD 6
  let mark := 'e'
  match q.size with
  | .infinite => c.pad (cased (sign ++ Text.bytes "inf"))
  | .undefined => c.pad (cased (sign ++ Text.bytes "nan"))
  | .finite num den =>
    let digits := match letter.toLower with
      | 'f' => Quantity.fixed num den places ++ if c.alternate && places = 0 then [byte '.'] else []
      | 'e' => Quantity.scientific mark num den places
      | 'a' => Quantity.hexadecimal p num den
      | _ => Quantity.general mark c.alternate num den places
    let digits := cased digits
    let least := if c.zeros && !c.left then c.width - sign.length else 0
    c.pad (sign ++ padLeft least (byte '0') digits)

end Conversion

end LineShell.Host
