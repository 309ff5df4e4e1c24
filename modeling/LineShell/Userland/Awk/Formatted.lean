import LineShell.Userland.Awk.Value

/-!
# Values in formats

`Formatted.fill` puts values into a format, each where a conversion asks for the next one.
-/

namespace LineShell.Host.Awk

/-- Why a format cannot be filled in. -/
inductive FormatFault
  | valueMissing
  /-- A conversion that means nothing; they are counted from one on. -/
  | improper (n : Nat)
deriving DecidableEq, Repr

/-- What is wrong, where `user` uses the format. -/
def FormatFault.text (user format : Bytes) : FormatFault → Bytes
  | valueMissing =>
    Text.bytes "not enough arguments passed to " ++ user ++ Text.bytes "(\"" ++ format ++ Text.bytes "\")"
  | improper n =>
    Text.bytes "improper conversion(number " ++ decimal n ++ Text.bytes ") in " ++ user ++ Text.bytes "(\"" ++ format ++
      Text.bytes "\")"

namespace Formatted

/-- A number as one without a sign: one below zero counts from the upper end. -/
def toUnsigned (x : Float) : Nat :=
  if x < 0 then (toWhole x % (Nat.pow 2 64 : Nat)).toNat else x.toUInt64.toNat

/-- The byte that a value stands for. -/
def character (v : Value) : Bytes :=
  match v with
  | .nothing => [0]
  | .number x => [UInt8.ofNat (toUnsigned x % 256)]
  | .text t => if t.isEmpty then [0] else t.take 1
  | .given t =>
    if looksNumeric t then [UInt8.ofNat (toUnsigned (leadingNumber t) % 256)]
    else if t.isEmpty then [0] else t.take 1

/-- A value in a conversion, by its letter; none if the letter means nothing. -/
def convert? (numberFormat : Bytes) (c : Conversion) (letter : Char) (v : Value) : Option Bytes :=
  if letter = 's' then some (c.text (v.toText numberFormat))
  else if letter = 'c' then some ({ c with precision := none }.text (character v))
  else if letter = 'd' || letter = 'i' then some (c.signed (toWhole v.toNumber))
  else if ['o', 'x', 'X', 'u'].contains letter then some (c.unsigned letter (toUnsigned v.toNumber))
  else if ['e', 'g', 'f', 'E', 'G', 'F'].contains letter then some (c.quantity letter (quantityOf v.toNumber))
  else none

/-- Whether a letter may follow the sign for longer or shorter numbers. -/
def isWhole (letter : Char) : Bool :=
  ['d', 'i', 'o', 'x', 'X', 'u'].contains letter

/-- Go on filling in, where `count` conversions came before. What was written before a fault is kept. `fuel` is more
than the length. -/
def fillFrom (numberFormat written : Bytes) (count : Nat) : (fuel : Nat) → Bytes → List Value →
    Bytes × Option FormatFault
  | 0, _, _ | _, [], _ => (written, none)
  | fuel + 1, b :: rest, values =>
    if b != byte '%' then
      let plain := rest.takeWhile (· != byte '%')
      fillFrom numberFormat (written ++ b :: plain) count fuel (rest.drop plain.length) values
    else if rest.head? = some (byte '%') then
      fillFrom numberFormat (written ++ [b]) count fuel rest.tail values
    else
      let stars := Conversion.stars rest
      let (c, _, after) := Conversion.read ((values.take stars).map fun v => toWhole v.toNumber) rest
      let sized := after.head? = some (byte 'h') || after.head? = some (byte 'l')
      let after := if sized then after.tail else after
      let letter := Char.ofNat (after.headD 0).toNat
      let isKnown := (convert? numberFormat c letter .nothing).isSome && (!sized || isWhole letter)
      if values.length ≤ stars then (written, some .valueMissing)
      else if !isKnown then (written, some (.improper (count + 1)))
      else
        match values.drop stars with
        | [] => (written, some .valueMissing)
        | v :: values =>
          let shown := (convert? numberFormat c letter v).getD []
          fillFrom numberFormat (written ++ shown) (count + 1) fuel after.tail values

/-- A format with values filled in, as far as that is possible. -/
def fill (numberFormat format : Bytes) (values : List Value) : Bytes × Option FormatFault :=
  fillFrom numberFormat [] 0 (format.length + 1) format values

end Formatted

end LineShell.Host.Awk
