import LineShell.Userland.Utility.Format

/-!
# Values

A value is a number, a text, or a text from outside that counts as a number where it looks like one.

- `Value.toNumber` and `Value.toText` take a value for the one or the other, `numberText` writes a number by a format;
- `Value.compare` compares two values as numbers if both are, else as texts.
-/

namespace LineShell.Host.Awk

/-- A value. -/
inductive Value
  /-- The value of what was never set: zero and the empty text. -/
  | nothing
  | number (x : Float)
  | text (text : Bytes)
  /-- A text from outside. -/
  | given (text : Bytes)

instance : Inhabited Value := ⟨.nothing⟩

namespace Value

def ofNat (n : Nat) : Value :=
  .number (Float.ofNat n)

def ofBool (b : Bool) : Value :=
  .number (if b then 1 else 0)

end Value

/-! ## Numbers from texts -/

/-- Whether a byte may stand around a number. -/
def isSpace (b : UInt8) : Bool :=
  b = byte ' ' || (9 ≤ b && b ≤ 13)

/-- The number that a text starts with, zero if there is none. -/
def leadingNumber (text : Bytes) : Float :=
  let text := text.dropWhile isSpace
  let digits := text.takeWhile isDigit
  let next := text.drop digits.length
  let isPlain := !digits.isEmpty && digits.length < 16 &&
    next.head?.all fun b => !([byte '.', byte 'e', byte 'E', byte 'x', byte 'X'].contains b)
  if isPlain then Float.ofNat (number digits)
  else
    match Quantity.read text with
    | some (q, _) => q.toFloat
    | none => 0

/-- Whether the whole of a text is a number, blanks around it apart. -/
def looksNumeric (text : Bytes) : Bool :=
  let bare := ((text.dropWhile isSpace).reverse.dropWhile isSpace).reverse
  let unsigned := (Quantity.readSign bare).2
  match Quantity.readDigits 10 10 ['e', 'E'] unsigned with
  | some (_, _, rest) => rest.isEmpty
  | none => false

/-! ## Texts from numbers -/

/-- The most whole number of a machine word, and the least one below zero. -/
def wordLimit : Int := 0x7fffffffffffffff

/-- A number without its fraction, as far as a machine word goes. -/
def toWhole (x : Float) : Int :=
  max (-wordLimit) x.toInt64.toInt

/-- The whole number that a number is, if it is one that fits into a machine word. -/
def wholeOf? (x : Float) : Option Int :=
  let n := toWhole x
  if Float.ofInt n == x then some n else none

/-- A whole number in decimal digits. -/
def wholeText (n : Int) : Bytes :=
  if n < 0 then byte '-' :: decimal n.natAbs else decimal n.natAbs

/-- What a number is; one that is undefined has a minus sign. -/
def quantityOf (x : Float) : Quantity :=
  let q := Quantity.ofFloat x
  match q.size with
  | .undefined => { q with negative := true }
  | _ => q

/-- A number by a format with one conversion. A whole number needs none. -/
def numberText (format : Bytes) (x : Float) : Bytes :=
  match wholeOf? x with
  | some n => wholeText n
  | none =>
    let lead := format.takeWhile (· != byte '%')
    let (c, _, rest) := Conversion.read [] ((format.drop lead.length).drop 1)
    match rest with
    | [] => lead
    | letter :: rest =>
      let letter := Char.ofNat letter.toNat
      let shown := if ['d', 'i'].contains letter then c.signed (toWhole x) else c.quantity letter (quantityOf x)
      lead ++ shown ++ rest

namespace Value

/-- A value as a number. -/
def toNumber : Value → Float
  | nothing => 0
  | number x => x
  | text t | given t => leadingNumber t

/-- A value as a text; numbers are written by a format. -/
def toText (format : Bytes) : Value → Bytes
  | nothing => []
  | number x => numberText format x
  | text t | given t => t

/-- Whether a value counts as true. -/
def isTrue : Value → Bool
  | nothing => false
  | number x => x != 0
  | text t => !t.isEmpty
  | given t => if looksNumeric t then leadingNumber t != 0 else !t.isEmpty

/-- Whether a value is a number, or looks like one. -/
def isNumeric : Value → Bool
  | nothing | number _ => true
  | text _ => false
  | given t => looksNumeric t

end Value

/-! ## Comparing -/

/-- The ways of comparing. -/
inductive Comparison
  | less
  | atMost
  | equal
  | unequal
  | greater
  | atLeast
deriving DecidableEq, Repr

namespace Comparison

def ofOrder (c : Comparison) (order : Ordering) : Bool :=
  match c with
  | less => order == .lt
  | atMost => order != .gt
  | equal => order == .eq
  | unequal => order != .eq
  | greater => order == .gt
  | atLeast => order != .lt

end Comparison

/-- The order of numbers. One that is undefined is like any other. -/
def numberOrder (a b : Float) : Ordering :=
  if b < a then .gt else if a < b then .lt else .eq

/-- The order of texts, by their bytes. -/
def textOrder : Bytes → Bytes → Ordering
  | [], [] => .eq
  | [], _ => .lt
  | _, [] => .gt
  | a :: as, b :: bs => if a = b then textOrder as bs else if a < b then .lt else .gt

/-- Whether a comparison of two values holds. -/
def Value.compare (format : Bytes) (c : Comparison) (a b : Value) : Bool :=
  c.ofOrder (if a.isNumeric && b.isNumeric then numberOrder a.toNumber b.toNumber
    else textOrder (a.toText format) (b.toText format))

/-! ## Arithmetic -/

/-- The operations on two numbers. -/
inductive Operation
  | add
  | subtract
  | multiply
  | divide
  | remainder
  | power
deriving DecidableEq, Repr

/-- What a division leaves, with the sign of what is divided. -/
def remainderOf (a b : Float) : Float :=
  match wholeOf? a, wholeOf? b with
  | some m, some n => if n = 0 then 0 / 0 else Float.ofInt (m.tmod n)
  | _, _ =>
    match (Quantity.ofFloat a).size, (Quantity.ofFloat b).size with
    | .finite p q, .finite r s =>
      if r = 0 then 0 / 0
      else { Quantity.ofFloat a with size := .finite (p * s % (r * q)) (q * s) : Quantity }.toFloat
    | .finite .., .infinite => a
    | _, _ => 0 / 0

def Operation.apply (o : Operation) (a b : Float) : Float :=
  match o with
  | add => a + b
  | subtract => a - b
  | multiply => a * b
  | divide => a / b
  | remainder => remainderOf a b
  | power => Float.pow a b

end LineShell.Host.Awk
