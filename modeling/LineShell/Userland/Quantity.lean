import LineShell.Userland.Utility.Options

/-!
# Quantities and how they are written

Numbers with a point are exact fractions here. What a machine word keeps of one is said by a `Precision`; what a text
says of one is read by `Quantity.read`.

- `Precision.round` is the number of a precision that is nearest to a fraction;
- `Quantity.fixed`, `Quantity.scientific` and `Quantity.general` write digits, rounded to the nearest, a half to even.
-/

namespace LineShell.Host

/-- The size of a number. -/
inductive Magnitude
  | finite (num den : Nat)
  | infinite
  | undefined
deriving DecidableEq, Repr

/-- A number with its sign. -/
structure Quantity where
  negative : Bool := false
  size : Magnitude := .finite 0 1
deriving DecidableEq, Repr

/-- The numbers that a machine word keeps: so many binary digits, above a least power of two and below another. -/
structure Precision where
  bits : Nat
  least : Int
  most : Int
deriving DecidableEq, Repr

namespace Precision

/-- Words of 64 bits. -/
def double : Precision := ⟨53, -1074, 1024⟩

/-- Words of 80 bits. -/
def extended : Precision := ⟨64, -16445, 16384⟩

/-- A quotient rounded to the nearest whole number, a half to the even one. -/
def nearest (num den : Nat) : Nat :=
  let q := num / den
  let r := num % den
  if den < 2 * r || (den = 2 * r && q % 2 = 1) then q + 1 else q

/-- A whole number times a power of two, as a fraction. -/
def scaled (n : Nat) (exponent : Int) : Nat × Nat :=
  if exponent < 0 then (n, Nat.pow 2 exponent.natAbs) else (n * Nat.pow 2 exponent.natAbs, 1)

/-- The number of a precision that is nearest to a fraction. -/
def round (p : Precision) (num den : Nat) : Magnitude :=
  if num = 0 then .finite 0 1
  else
    let guess : Int := (num.log2 : Int) - den.log2 - p.bits
    let exponent := max guess p.least
    let quotient (exponent : Int) : Nat :=
      if exponent < 0 then nearest (num * Nat.pow 2 exponent.natAbs) den
      else nearest num (den * Nat.pow 2 exponent.natAbs)
    let exponent := if Nat.pow 2 p.bits ≤ quotient exponent then exponent + 1 else exponent
    let (num, den) := scaled (quotient exponent) exponent
    if Nat.pow 2 p.most.toNat * den ≤ num then .infinite else .finite num den

end Precision

namespace Quantity

def isNegative (q : Quantity) : Bool :=
  q.negative

/-- The nearest number of a precision. -/
def keep (p : Precision) (q : Quantity) : Quantity :=
  match q.size with
  | .finite num den => { q with size := p.round num den }
  | _ => q

def ofInt (n : Int) : Quantity :=
  { negative := n < 0, size := .finite n.natAbs 1 }

/-- The number that a machine word holds, exactly. -/
def ofFloat (x : Float) : Quantity :=
  let bits := x.toBits.toNat
  let negative := bits / Nat.pow 2 63 = 1
  let exponent := bits / Nat.pow 2 52 % 2048
  let fraction := bits % Nat.pow 2 52
  if exponent = 2047 then { negative, size := if fraction = 0 then .infinite else .undefined }
  else
    let (num, den) := if exponent = 0 then Precision.scaled fraction (-1074)
      else Precision.scaled (fraction + Nat.pow 2 52) ((exponent : Int) - 1075)
    { negative, size := .finite num den }

/-- The machine word that is nearest to a number. -/
def toFloat (q : Quantity) : Float :=
  let size : Float := match q.size with
    | .infinite => 1.0 / 0.0
    | .undefined => 0.0 / 0.0
    | .finite num den =>
      match Precision.double.round num den with
      | .finite num den =>
        if num = 0 then 0.0
        else
          let shift : Int := (num.log2 : Int) - 60
          let mantissa := if shift ≤ 0 then num else num / Nat.pow 2 shift.toNat
          let rest : Int := if shift ≤ 0 then -(den.log2 : Int) else shift - den.log2
          Float.scaleB (Float.ofNat mantissa) rest
      | _ => 1.0 / 0.0
  if q.negative then -size else size

/-- Which of two numbers is less; what is undefined comes before all. -/
def compare (a b : Quantity) : Ordering :=
  let signed (q : Quantity) (n : Nat) : Int := if q.negative then -(n : Int) else n
  match a.size, b.size with
  | .undefined, .undefined => .eq
  | .undefined, _ => .lt
  | _, .undefined => .gt
  | .infinite, .infinite => if a.negative = b.negative then .eq else if a.negative then .lt else .gt
  | .infinite, _ => if a.negative then .lt else .gt
  | _, .infinite => if b.negative then .gt else .lt
  | .finite m n, .finite p q => Ord.compare (signed a (m * q)) (signed b (p * n))

/-! ## Reading -/

/-- The value of a digit to a base up to sixteen. -/
def hexValue? (b : UInt8) : Option Nat :=
  if isDigit b then some (b - byte '0').toNat
  else if byte 'a' ≤ b && b ≤ byte 'f' then some ((b - byte 'a').toNat + 10)
  else if byte 'A' ≤ b && b ≤ byte 'F' then some ((b - byte 'A').toNat + 10)
  else none

/-- The sign that a text starts with, and the text behind it. -/
def readSign (text : Bytes) : Bool × Bytes :=
  match text with
  | 45 :: rest => (true, rest)
  | 43 :: rest => (false, rest)
  | _ => (false, text)

/-- The power that a text such as `e-5` asks for, if it starts with one, and the text behind it. -/
def readPower (marks : List Char) (text : Bytes) : Int × Bytes :=
  match text with
  | mark :: rest =>
    let (negative, digits) := readSign rest
    let power := digits.takeWhile isDigit
    if (marks.map byte).contains mark && !power.isEmpty then
      let n : Int := min (number power) 100000
      (if negative then -n else n, digits.drop power.length)
    else (0, text)
  | [] => (0, [])

/-- The fraction written to a base, with a power of it or of two behind a mark. -/
def readDigits (base power : Nat) (marks : List Char) (text : Bytes) : Option (Nat × Nat × Bytes) :=
  let isDigitOf (b : UInt8) : Bool := (hexValue? b).any (· < base)
  let whole := text.takeWhile isDigitOf
  let rest := text.drop whole.length
  let fraction := if rest.head? = some (byte '.') then rest.tail.takeWhile isDigitOf else []
  let rest := if rest.head? = some (byte '.') && !(whole.isEmpty && fraction.isEmpty) then
      rest.tail.drop fraction.length
    else rest
  if whole.isEmpty && fraction.isEmpty then none
  else
    let n := (whole ++ fraction).foldl (fun n b => n * base + (hexValue? b).getD 0) 0
    let (exponent, rest) := readPower marks rest
    let den := Nat.pow base fraction.length
    let scale := Nat.pow power exponent.natAbs
    some (if exponent < 0 then n else n * scale, if exponent < 0 then den * scale else den, rest)

/-- The number that a text starts with, as programs read one, and the text behind it. -/
def read (text : Bytes) : Option (Quantity × Bytes) :=
  let (negative, unsigned) := readSign text
  let lower := unsigned.map fun b => if byte 'A' ≤ b && b ≤ byte 'Z' then b + 32 else b
  let startsWith (word : String) : Bool := (Text.bytes word).isPrefixOf lower
  if startsWith "infinity" then some ({ negative, size := .infinite }, unsigned.drop 8)
  else if startsWith "inf" then some ({ negative, size := .infinite }, unsigned.drop 3)
  else if startsWith "nan" then some ({ negative, size := .undefined }, unsigned.drop 3)
  else
    let hex := if startsWith "0x" then readDigits 16 2 ['p', 'P'] (unsigned.drop 2) else none
    match hex.orElse fun _ => readDigits 10 10 ['e', 'E'] unsigned with
    | some (num, den, rest) => some ({ negative, size := .finite num den }, rest)
    | none => none

/-! ## Writing -/

/-- Digits with a point so many places from their end. -/
def pointed (digits : Bytes) (places : Nat) : Bytes :=
  if places = 0 then digits
  else
    let digits := padLeft (places + 1) (byte '0') digits
    digits.take (digits.length - places) ++ byte '.' :: digits.drop (digits.length - places)

/-- A fraction with so many places. -/
def fixed (num den places : Nat) : Bytes :=
  pointed (decimal (Precision.nearest (num * Nat.pow 10 places) den)) places

/-- So many digits of a fraction, and the power of ten of the first of them. -/
def leading (num den digits : Nat) : Nat × Int :=
  if num = 0 then (0, 0)
  else
    let scaledTo (power : Int) : Nat :=
      let shift : Int := (digits : Int) - 1 - power
      if shift < 0 then Precision.nearest num (den * Nat.pow 10 shift.natAbs)
      else Precision.nearest (num * Nat.pow 10 shift.natAbs) den
    /- The power of ten of the first digit, before rounding. -/
    let guess : Int := ((decimal num).length : Int) - (decimal den).length
    let reaches (power : Int) : Bool :=
      if power < 0 then den ≤ num * Nat.pow 10 power.natAbs else den * Nat.pow 10 power.natAbs ≤ num
    let power := if reaches guess then guess else guess - 1
    let n := scaledTo power
    if Nat.pow 10 digits ≤ n then (scaledTo (power + 1), power + 1) else (n, power)

/-- The power of ten behind a number. -/
def powerText (mark : Char) (power : Int) : Bytes :=
  byte mark :: byte (if power < 0 then '-' else '+') :: padLeft 2 (byte '0') (decimal power.natAbs)

/-- A fraction with one digit before the point and so many behind it. -/
def scientific (mark : Char) (num den places : Nat) : Bytes :=
  let (n, power) := leading num den (places + 1)
  pointed (padLeft (places + 1) (byte '0') (decimal n)) places ++ powerText mark power

/-- A decimal fraction without the zeros at its end, and without a point that nothing follows. -/
def withoutZeros (text : Bytes) : Bytes :=
  if !text.contains (byte '.') then text
  else
    let trimmed := (text.reverse.dropWhile (· = byte '0')).reverse
    if trimmed.getLast? = some (byte '.') then trimmed.dropLast else trimmed

/-- A fraction with so many digits, in the shorter way of writing; `whole` keeps the zeros at the end. -/
def general (mark : Char) (whole : Bool) (num den digits : Nat) : Bytes :=
  let digits := max 1 digits
  let (n, power) := leading num den digits
  let trim (text : Bytes) : Bytes := if whole then text else withoutZeros text
  if power < -4 || (digits : Int) ≤ power then
    trim (pointed (padLeft digits (byte '0') (decimal n)) (digits - 1)) ++ powerText mark power
  else trim (fixed num den (digits - 1 - power).toNat)

/-- The hexadecimal digits of a fraction that a machine word holds, with a power of two. The first digit has the bits
that are left over where the others have four. -/
def hexadecimal (p : Precision) (num den : Nat) : Bytes :=
  if num = 0 then Text.bytes "0x0p+0"
  else
    let guess : Int := (num.log2 : Int) - den.log2
    let isLess : Bool := if guess < 0 then num * Nat.pow 2 guess.natAbs < den else num < den * Nat.pow 2 guess.natAbs
    let power := if isLess then guess - 1 else guess
    let shift : Int := (p.bits : Int) - 1 - power
    let word := if shift < 0 then num / (den * Nat.pow 2 shift.natAbs) else num * Nat.pow 2 shift.natAbs / den
    let digits := (Nat.toDigits 16 word).map byte
    let power := power - ((p.bits - 1) % 4 : Nat)
    Text.bytes "0x" ++ withoutZeros (digits.take 1 ++ byte '.' :: digits.drop 1) ++
      byte 'p' :: byte (if power < 0 then '-' else '+') :: decimal power.natAbs

end Quantity

end LineShell.Host
