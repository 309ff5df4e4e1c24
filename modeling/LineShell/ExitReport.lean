import LineShell.Text
import LineShell.Descriptor

/-!
# Exit codes in decimal

`ExitReport.write` writes a code into a buffer of twelve bytes without asking for memory: the digits end before the
last byte, which becomes NUL, and what is before the text stays as it was.
-/

namespace LineShell.ExitReport

/-- Room for the widest code, its sign and a terminator. -/
def width : Nat := 12

/-- The digit that stands for `n % 10`. -/
def digit (n : Nat) : UInt8 :=
  UInt8.ofNat (48 + n % 10)

/-- The decimal digits of `n`, put in front of `text`. -/
def digits (n : Nat) (text : Bytes) : Bytes :=
  if n < 10 then digit n :: text else digits (n / 10) (digit n :: text)

/-- The decimal numeral of a code. -/
def numeral (code : ExitCode) : Bytes :=
  let n := code.toInt.natAbs
  if code < 0 then 45 :: digits n [] else digits n []

/-- Write the numeral of a code into a buffer, and say what was written. -/
def write (code : ExitCode) (buffer : Bytes) : String × Bytes :=
  let text := numeral code
  let kept := buffer.take (width - 1 - text.length)
  ((Text.decode? text).getD "", kept ++ text ++ [0])

end LineShell.ExitReport
