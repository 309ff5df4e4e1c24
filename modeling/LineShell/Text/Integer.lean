import LineShell.Text

/-!
# Integers in decimal

`Integer.read low high` reads a decimal number between two bounds: a sign, and then at least one digit. A plus sign
and leading zeros change nothing; a minus sign is no sign where no negative number is admitted. The first character
that cannot be read decides the error, even where a later one would give another.
-/

namespace LineShell.Text.Integer

/-- Why a text is no number. -/
inductive ReadFailure
  | empty
  | invalidDigit
  | tooLarge
  | tooSmall
deriving DecidableEq, Repr

def ReadFailure.message : ReadFailure → String
  | .empty => "cannot parse integer from empty string"
  | .invalidDigit => "invalid digit found in string"
  | .tooLarge => "number too large to fit in target type"
  | .tooSmall => "number too small to fit in target type"

/-- The number that digits stand for, going on from the number `n` read so far. -/
def readDigits (negative : Bool) (low high n : Int) : List Char → Except ReadFailure Int
  | [] => .ok n
  | c :: rest =>
    if c.isDigit then
      let d : Int := c.toNat - '0'.toNat
      let n := if negative then n * 10 - d else n * 10 + d
      if high < n then .error .tooLarge
      else if n < low then .error .tooSmall
      else readDigits negative low high n rest
    else .error .invalidDigit

/-- Read a number between `low` and `high`. -/
def read (low high : Int) (text : String) : Except ReadFailure Int :=
  match text.toList with
  | [] => .error .empty
  | '+' :: c :: rest => readDigits false low high 0 (c :: rest)
  | '-' :: c :: rest => readDigits (low < 0) low high 0 (if low < 0 then c :: rest else '-' :: c :: rest)
  | chars => readDigits false low high 0 chars

end LineShell.Text.Integer
