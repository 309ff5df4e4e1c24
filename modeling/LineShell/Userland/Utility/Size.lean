import LineShell.Userland.Utility.Complaint

/-!
# Counts with units

A count is a decimal number with a letter for a unit behind it, `Size.read` reads one. Which letters a utility takes
is a text of them; with a `0` among them, a letter for a power may have `iB` behind it, or `B` for powers of 1000.
-/

namespace LineShell.Host

/-- What is wrong with a count. -/
inductive SizeFault
  | invalid
  /-- What stands behind the number is no unit. -/
  | suffix
  | tooLarge
  | outOfRange
deriving DecidableEq, Repr

/-- What is said behind a count of what is wrong with it. -/
def SizeFault.tail : SizeFault → String
  | invalid | suffix => ""
  | tooLarge => ": Value too large for defined data type"
  | outOfRange => ": Numerical result out of range"

namespace Size

/-- The units that most utilities take. -/
def usual : String :=
  "bkKmMGTPEZY0"

/-- The largest count. -/
def limit : Nat := 0xffffffffffffffff

/-- The letters for the powers of a unit. -/
def powers : List (List Char) :=
  [['k', 'K'], ['m', 'M'], ['g', 'G'], ['t', 'T'], ['P'], ['E'], ['Z'], ['Y']]

/-- What a text that starts with a letter for a unit multiplies by, and how long the unit is. -/
def unit? (units : String) : List Char → Option (Nat × Nat)
  | [] => none
  | mark :: more =>
    let power := (powers.findIdx? fun names => names.contains mark).map (· + 1)
    let paired := units.toList.contains '0'
    if !units.toList.contains mark then none
    else
      match mark, power, more with
      | _, some n, 'i' :: 'B' :: _ => some (Nat.pow 1024 n, if paired then 3 else 1)
      | _, some n, 'B' :: _ | _, some n, 'D' :: _ =>
        some (if paired then (Nat.pow 1000 n, 2) else (Nat.pow 1024 n, 1))
      | _, some n, _ => some (Nat.pow 1024 n, 1)
      | 'b', none, _ => some (512, 1)
      | 'B', none, _ => some (1024, 1)
      | 'c', none, _ => some (1, 1)
      | 'w', none, _ => some (2, 1)
      | _, none, _ => none

/-- A number between two others; `signed` tells whether it may have a minus sign. -/
def readBetween (signed : Bool) (units : String) (least most : Int) (word : Bytes) : Except SizeFault Int :=
  let text := word.dropWhile fun b => b = byte ' ' || (9 ≤ b && b ≤ 13)
  let (negative, unsigned) := match text with
    | 45 :: rest => (true, rest)
    | 43 :: rest => (false, rest)
    | _ => (false, text)
  let digits := unsigned.takeWhile isDigit
  let rest := if digits.isEmpty then word else unsigned.drop digits.length
  let n := if digits.isEmpty then 1 else number digits
  let highest : Nat := if signed then 0x7fffffffffffffff else limit
  let within (n : Nat) : Except SizeFault Int :=
    if highest + (if negative then 1 else 0) < n then .error .tooLarge
    else
      let n : Int := if negative then -(n : Int) else n
      if least ≤ n && n ≤ most then .ok n
      else .error (if 0x3fffffff < n then .tooLarge else .outOfRange)
  if negative && !signed then .error .invalid
  else
    match letters rest, unit? units (letters rest) with
    | [], _ => if digits.isEmpty then .error .invalid else within n
    | _, none => .error (if digits.isEmpty then .invalid else .suffix)
    | marks, some (scale, length) => if length < marks.length then .error .suffix else within (n * scale)

/-- A count with a unit behind it. -/
def read (units : String) (word : Bytes) : Except SizeFault Nat :=
  (readBetween false units 0 limit word).map Int.toNat

/-- A count with a unit that most utilities take. -/
def read? (word : Bytes) : Option Nat :=
  (read usual word).toOption

/-- Refuses a word that is no count. -/
def check {α : Type} (what : String) (reading : Bytes → Except SizeFault α) (word : Bytes) :
    Option (StateM Scene Unit) :=
  match reading word with
  | .ok _ => none
  | .error fault => some (complain (Text.bytes (what ++ ": ") ++ Quoted.curly word ++ Text.bytes fault.tail))

end Size

end LineShell.Host
