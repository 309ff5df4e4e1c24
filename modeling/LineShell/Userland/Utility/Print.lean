import LineShell.Userland.Utility.Complaint
import LineShell.Userland.Utility.Format

/-!
# Printing

`echo` and `printf`, in the two forms that the command interpreter and the programs of the system have, `seq`, `yes`,
`factor`, and the utilities that take paths apart.

- `Print.escaped` carries out the escapes of a text;
- `Print.formatted` is `printf`: the format is used again as long as it takes arguments.
-/

namespace LineShell.Host

namespace Print

/-! ## Escapes -/

def isOctal (b : UInt8) : Bool :=
  byte '0' ≤ b && b ≤ byte '7'

/-- The number that octal digits write. -/
def octal (digits : Bytes) : Nat :=
  digits.foldl (fun n b => n * 8 + (b - byte '0').toNat) 0

/-- How escapes are written. -/
structure EscapeRules where
  /-- Whether an octal number may have a zero in front of its digits. -/
  zeroAllowed : Bool := false
  hexadecimal : Bool := false
  /-- Whether characters have numbers. One that is not written in full is a mistake then. -/
  characters : Bool := false
  /-- Whether there is one that stops the output. -/
  stops : Bool := true

/-- Why nothing follows an escape. -/
inductive EscapeEnd
  | stop
  /-- Digits are missing. -/
  | unnumbered
  /-- No character has this number, or it is to be written as itself. -/
  | nameless (letter : UInt8) (n : Nat)
deriving DecidableEq, Repr

/-- What is said of it, if it is a mistake. -/
def EscapeEnd.text? : EscapeEnd → Option Bytes
  | stop => none
  | unnumbered => some (Text.bytes "missing hexadecimal number in escape")
  | nameless letter n =>
    let digits := (Nat.toDigits 16 n).map byte
    some (Text.bytes "invalid universal character name \\" ++
      letter :: padLeft (if letter = byte 'u' then 4 else 8) (byte '0') digits)

/-- The number that up to `most` hexadecimal digits write, and the text behind them. -/
def readHex (most : Nat) (text : Bytes) : Option (Nat × Bytes) :=
  let taken := (text.take most).takeWhile fun b => (Quantity.hexValue? b).isSome
  if taken.isEmpty then none
  else some (taken.foldl (fun n b => n * 16 + (Quantity.hexValue? b).getD 0) 0, text.drop taken.length)

/-- Whether a character may be given by its number: it is printable, and not one of those that need none. -/
def isNumbered (n : Nat) : Bool :=
  (0xa0 ≤ n || n = 0x24 || n = 0x40 || n = 0x60) && !(0xd800 ≤ n && n ≤ 0xdfff)

/-- The bytes for the escape after a backslash, and the rest. -/
def unescape (rules : EscapeRules) (after : Bytes) : Except EscapeEnd (Bytes × Bytes) :=
  match after with
  | [] => .ok ([byte '\\'], [])
  | c :: rest =>
    let simple (b : UInt8) : Except EscapeEnd (Bytes × Bytes) := .ok ([b], rest)
    let octal (digits : Bytes) : Except EscapeEnd (Bytes × Bytes) :=
      let taken := (digits.take 3).takeWhile isOctal
      .ok ([UInt8.ofNat (octal taken)], digits.drop taken.length)
    let plain : Except EscapeEnd (Bytes × Bytes) := .ok ([byte '\\', c], rest)
    let character (digits : Nat) : Except EscapeEnd (Bytes × Bytes) :=
      match readHex digits rest with
      | some (n, behind) =>
        if rest.length - behind.length < digits then .error .unnumbered
        else if isNumbered n then .ok (Symbol.bytes n, behind)
        else .error (.nameless c n)
      | none => .error .unnumbered
    match Char.ofNat c.toNat with
    | 'n' => simple 10
    | 't' => simple 9
    | 'r' => simple 13
    | 'a' => simple 7
    | 'b' => simple 8
    | 'f' => simple 12
    | 'v' => simple 11
    | 'e' => simple 27
    | '\\' => simple c
    | 'c' => if rules.stops then .error .stop else plain
    | 'x' =>
      if !rules.hexadecimal then plain
      else
        match readHex 2 rest with
        | some (n, rest) => .ok ([UInt8.ofNat n], rest)
        | none => if rules.characters then .error .unnumbered else plain
    | 'u' => if rules.characters then character 4 else plain
    | 'U' => if rules.characters then character 8 else plain
    | '"' => if rules.hexadecimal then simple c else plain
    | _ =>
      if !isOctal c then plain
      else if c = byte '0' && rules.zeroAllowed then octal rest
      else octal after

/-- Carry out the escapes of a text, and tell why output does not go on after it. `fuel` is more than its length. -/
def escaped (rules : EscapeRules) (fuel : Nat) (text : Bytes) : Bytes × Option EscapeEnd :=
  match fuel, text with
  | 0, _ | _, [] => ([], none)
  | fuel + 1, b :: rest =>
    if b = byte '\\' then
      match unescape rules rest with
      | .error ending => ([], some ending)
      | .ok (bytes, rest) =>
        let (more, ending) := escaped rules fuel rest
        (bytes ++ more, ending)
    else
      let (more, ending) := escaped rules fuel rest
      (b :: more, ending)

/-! ## Words -/

/-- Words with a blank between them. -/
def joined (words : List Bytes) : Bytes :=
  (words.intersperse [byte ' ']).flatten

/-- `echo` of the command interpreter: escapes have a meaning, and `-n` leaves the newline out. -/
def echo : Utility := fun args => do
  let bare := args.head? = some (Text.bytes "-n")
  let text := joined (if bare then args.tail else args)
  let (text, ending) := escaped { zeroAllowed := true } (text.length + 1) text
  put (text ++ if bare || ending.isSome then [] else [newline])
  return 0

/-- Whether a word is nothing but options of the program `echo`. -/
def isEchoOption (word : Bytes) : Bool :=
  match word with
  | 45 :: b :: rest => (b :: rest).all fun b => [byte 'n', byte 'e', byte 'E'].contains b
  | _ => false

/-- `echo` as a program: escapes have a meaning after `-e` only. -/
def plainEcho : Utility := fun args => do
  let options := (args.takeWhile isEchoOption).flatMap (·.tail)
  let text := joined (args.dropWhile isEchoOption)
  let meaning := (options.filter fun b => b != byte 'n').getLast? = some (byte 'e')
  let (text, ending) := if meaning then
      escaped { zeroAllowed := true, hexadecimal := true } (text.length + 1) text
    else (text, none)
  put (text ++ if options.contains (byte 'n') || ending.isSome then [] else [newline])
  return 0

/-! ## Formats -/

/-- How a `printf` differs from others. -/
structure FormatRules where
  escapes : EscapeRules
  /-- What decimal fractions are kept as. -/
  precision : Precision
  /-- Whether it is part of the command interpreter. -/
  builtin : Bool
  /-- The status for a format that makes no sense. -/
  bad : Nat

/-- What a format has written so far, and what it has left to do. -/
structure Formatting where
  text : Bytes := []
  args : List Bytes
  status : Nat := 0
  /-- What there is to complain of, latest first. -/
  complaints : List Bytes := []
  goesOn : Bool := true

/-- The value of digits to a base, and what follows them. -/
def readBase (base : Nat) (text : Bytes) : Nat × Bytes :=
  let fits (b : UInt8) : Bool := (Quantity.hexValue? b).any (· < base)
  ((text.takeWhile fits).foldl (fun n b => n * base + (Quantity.hexValue? b).getD 0) 0, text.dropWhile fits)

/-- The whole number that a text starts with, written as in a program, and what follows it; `none` if there is none. -/
def readNumber (text : Bytes) : Option (Int × Bytes) :=
  let text := text.dropWhile fun b => b = byte ' ' || (9 ≤ b && b ≤ 13)
  let (negative, unsigned) := Quantity.readSign text
  let (n, rest) := match unsigned with
    | 48 :: x :: h :: more =>
      if (x = byte 'x' || x = byte 'X') && (Quantity.hexValue? h).isSome then readBase 16 (h :: more)
      else readBase 8 unsigned
    | 48 :: _ => readBase 8 unsigned
    | _ => readBase 10 unsigned
  if unsigned.head?.any isDigit then some (if negative then -(n : Int) else n, rest) else none

namespace Formatting

/-- Complain of an argument. -/
def complain (f : Formatting) (text : Bytes) : Formatting :=
  { f with complaints := text :: f.complaints, status := max 1 f.status }

/-- Complain of an argument that is no number or not wholly one. -/
def complainOfNumber (rules : FormatRules) (f : Formatting) (arg : Bytes) (started : Bool) : Formatting :=
  if rules.builtin then
    f.complain (arg ++ Text.bytes (if started then ": not completely converted" else ": expected numeric value"))
  else
    f.complain (Quoted.curly arg ++
      Text.bytes (if started then ": value not completely converted" else ": expected a numeric value"))

/-- Complain of an argument that is too large. -/
def complainOfRange (rules : FormatRules) (f : Formatting) (arg : Bytes) : Formatting :=
  f.complain ((if rules.builtin then arg else Quoted.curly arg) ++ Text.bytes ": Numerical result out of range")

/-- The number of the character behind a quote, and what follows that character. -/
def quotedCharacter? (rules : FormatRules) (arg : Bytes) : Option (Nat × Bytes) :=
  match arg with
  | q :: rest =>
    if q = byte '\'' || q = byte '"' then
      if rules.builtin then some ((rest.headD 0).toNat, [])
      else
        match Symbols.ofBytes rest with
        | x :: _ => some (if x.isStray then x - Symbol.strayBase else x, rest.drop x.bytes.length)
        | [] => none
    else none
  | [] => none

/-- Warn that something behind a character does not count. -/
def warnOfRest (f : Formatting) (rest : Bytes) : Formatting :=
  if rest.isEmpty then f
  else
    let warning := Text.bytes "warning: " ++ rest ++
      Text.bytes ": character(s) following character constant have been ignored"
    { f with complaints := warning :: f.complaints }

/-- The next argument as a whole number between two bounds. One that is too large counts as the bound. -/
def whole (rules : FormatRules) (least most : Int) (f : Formatting) : Int × Formatting :=
  let arg := f.args.headD []
  let f := { f with args := f.args.tail }
  match quotedCharacter? rules arg with
  | some (n, rest) => (n, f.warnOfRest rest)
  | none =>
    if arg.isEmpty then (0, f)
    else
      match readNumber arg with
      | none => (0, f.complainOfNumber rules arg false)
      | some (n, rest) =>
        let clamped := if n < least then (if least = 0 then n % (most + 1) else least) else if most < n then most else n
        let tooLarge := if least = 0 then most < n || n < -most else n < least || most < n
        let clamped := if least = 0 && n < -most then most else clamped
        (clamped, if tooLarge && (rest.isEmpty || !rules.builtin) then f.complainOfRange rules arg
          else if !rest.isEmpty then f.complainOfNumber rules arg true
          else f)

/-- The next argument as a number with a point. -/
def fraction (rules : FormatRules) (f : Formatting) : Quantity × Formatting :=
  let arg := f.args.headD []
  let f := { f with args := f.args.tail }
  match quotedCharacter? rules arg with
  | some (n, rest) => (.ofInt n, f.warnOfRest rest)
  | none =>
    if arg.isEmpty then ({}, f)
    else
      match Quantity.read (arg.dropWhile fun b => b = byte ' ' || (9 ≤ b && b ≤ 13)) with
      | none => ({}, f.complainOfNumber rules arg false)
      | some (q, rest) =>
        let kept := q.keep rules.precision
        (kept, if kept.size != q.size && kept.size = .infinite && (rest.isEmpty || !rules.builtin) then
            f.complainOfRange rules arg
          else if rest.isEmpty then f
          else f.complainOfNumber rules arg true)

end Formatting

/-- Stop where an escape ends the output. -/
def Formatting.stopAt (rules : FormatRules) (f : Formatting) (ending : EscapeEnd) : Formatting :=
  let complaints := ending.text?.toList ++ f.complaints
  { f with
    goesOn := false
    complaints := complaints
    status := if ending != .stop then rules.bad else if rules.builtin then f.status else 0 }

/-- One conversion, by its letter; `none` if there is no such letter. -/
def convert (rules : FormatRules) (c : Conversion) (letter : Char) (f : Formatting) : Option Formatting :=
  let arg := f.args.headD []
  let next := { f with args := f.args.tail }
  let out (f : Formatting) (text : Bytes) : Option Formatting := some { f with text := f.text ++ text }
  if letter = 's' then out next (c.text arg)
  else if letter = 'c' then out next ({ c with precision := none }.text (if arg.isEmpty then [0] else arg.take 1))
  else if letter = 'b' then
    let (text, ending) := escaped { rules.escapes with zeroAllowed := true, stops := true } (arg.length + 1) arg
    let next := { next with text := f.text ++ c.text text }
    some ((ending.map (next.stopAt rules)).getD next)
  else if letter = 'q' && !rules.builtin then out next (Quoted.whereNeeded arg)
  else if letter = 'd' || letter = 'i' then
    let (n, f) := f.whole rules (-0x8000000000000000) 0x7fffffffffffffff
    out f (c.signed n)
  else if ['u', 'o', 'x', 'X'].contains letter then
    let (n, f) := f.whole rules 0 0xffffffffffffffff
    out f (c.unsigned letter n.toNat)
  else if ['f', 'F', 'e', 'E', 'g', 'G', 'a', 'A'].contains letter then
    let (q, f) := f.fraction rules
    out f (c.quantity letter q rules.precision)
  else none

/-- The bytes that may stand first in a conversion. -/
def isFlag (b : UInt8) : Bool :=
  ("-+ #0'I".toList.map byte).contains b

/-- Whether the program takes what stands between the percent sign and the letter of a conversion. -/
def isAllowed (spec : Bytes) (letter : Char) : Bool :=
  let flags := spec.takeWhile isFlag
  let barred (c : Char) (letters : String) : Bool := flags.contains (byte c) && letters.toList.contains letter
  if letter = 'b' || letter = 'q' then spec.isEmpty
  else !(barred '\'' "aAceEosxX" || barred 'I' "aAceEosxX" || barred '#' "cdisu" || barred '0' "cs" ||
    (spec.contains (byte '.') && letter = 'c'))

/-- The arguments for the stars of a conversion. -/
def starValues (rules : FormatRules) : Nat → Formatting → List Int × Formatting
  | 0, f => ([], f)
  | count + 1, f =>
    let (n, f) := f.whole rules (-0x80000000) 0x7fffffff
    let (more, f) := starValues rules count f
    (n :: more, f)

/-- Stop because the format makes no sense. -/
def Formatting.stop (rules : FormatRules) (f : Formatting) (text : Bytes) : Formatting :=
  { f with complaints := text :: f.complaints, status := rules.bad, goesOn := false }

/-- One pass over a format. `fuel` is more than its length. -/
def formatOnce (rules : FormatRules) (fuel : Nat) (format : Bytes) (f : Formatting) : Formatting :=
  match fuel, format with
  | 0, _ | _, [] => f
  | fuel + 1, b :: rest =>
    if !f.goesOn then f
    else if b = byte '\\' then
      match unescape rules.escapes rest with
      | .error ending => f.stopAt rules ending
      | .ok (bytes, rest) => formatOnce rules fuel rest { f with text := f.text ++ bytes }
    else if b = byte '%' then
      if rest.head? = some (byte '%') then formatOnce rules fuel rest.tail { f with text := f.text ++ [b] }
      else
        let (stars, f) := starValues rules (Conversion.stars rest) f
        let flags := rest.takeWhile isFlag
        let conversion := if rules.builtin then rest
          else flags.filter (· != byte 'I') ++ rest.drop flags.length
        let (c, _, after) := Conversion.read stars conversion
        let spec := rest.take (rest.length - after.length)
        let sized := if rules.builtin then [] else after.takeWhile fun b => ("lLhjtz".toList.map byte).contains b
        match after.drop sized.length with
        | [] =>
          if rules.builtin then f.stop rules (Text.bytes "missing format character")
          else f.stop rules (byte '%' :: rest ++ Text.bytes ": invalid conversion specification")
        | letter :: after =>
          let c' := Char.ofNat letter.toNat
          match if rules.builtin || isAllowed spec c' then convert rules c c' f else none with
          | some f => formatOnce rules fuel after f
          | none =>
            let reason := if rules.builtin then ": invalid directive" else ": invalid conversion specification"
            f.stop rules (byte '%' :: spec ++ sized ++ letter :: Text.bytes reason)
    else formatOnce rules fuel rest { f with text := f.text ++ [b] }

/-- Use a format as long as there are arguments it takes. -/
def formatAll (rules : FormatRules) (rounds : Nat) (format : Bytes) (f : Formatting) : Formatting :=
  match rounds with
  | 0 => f
  | rounds + 1 =>
    let g := formatOnce rules (format.length + 1) format f
    if !g.goesOn || g.args.isEmpty then g
    else if g.args.length < f.args.length then formatAll rules rounds format g
    else if rules.builtin then g
    else
      { g with complaints :=
          (Text.bytes "warning: ignoring excess arguments, starting with " ++ Quoted.curly (g.args.headD [])) ::
            g.complaints }

/-- `printf` by these rules. -/
def formatted (rules : FormatRules) : Utility := fun args => do
  let option := args.head?.any fun word => word.head? = some (byte '-') && 1 < word.length
  let ended := args.head? = some (Text.bytes "--")
  if rules.builtin && option && !ended then
    complain (Text.bytes "Illegal option -" ++ (args.headD []).drop 1 |>.take 17)
    return 2
  match if ended then args.tail else args with
  | [] =>
    if rules.builtin then complainText "usage: printf format [arg ...]"
    else complainOfUse (Text.bytes "missing operand")
    return rules.bad
  | format :: args =>
    let f := formatAll rules (args.length + 1) format { args := args }
    for text in f.complaints.reverse do
      complain text
    put f.text
    return f.status

/-! ## Sequences -/

/-- A whole number, with its sign. -/
def integer? (word : Bytes) : Option Int :=
  match word with
  | 45 :: rest => (number? rest).map fun n => -(n : Int)
  | 43 :: rest => (number? rest).map fun n => (n : Int)
  | _ => (number? word).map fun n => (n : Int)

def ofInteger (n : Int) : Bytes :=
  Text.bytes (toString n)

/-- A decimal number: its digits as a whole number, and how many of them are behind the point. -/
def decimal? (word : Bytes) : Option (Int × Nat) :=
  let (negative, unsigned) := Quantity.readSign word
  let whole := unsigned.takeWhile isDigit
  let rest := unsigned.drop whole.length
  let fraction := if rest.head? = some (byte '.') then rest.tail.takeWhile isDigit else []
  let (power, rest) := Quantity.readPower ['e', 'E'] (if rest.head? = some (byte '.') then
    rest.tail.drop fraction.length else rest)
  if (whole.isEmpty && fraction.isEmpty) || !rest.isEmpty then none
  else
    let n := number (whole ++ fraction)
    let places : Int := (fraction.length : Int) - power
    let n := if places < 0 then n * Nat.pow 10 places.natAbs else n
    some (if negative then -(n : Int) else n, places.toNat)

/-- The numbers from `first` to `last` by steps; at most `count` of them. -/
def stepsTo (first step last : Int) : Nat → List Int
  | 0 => []
  | count + 1 =>
    if (0 < step && last < first) || (step < 0 && first < last) || step = 0 then []
    else first :: stepsTo (first + step) step last count

/-- A decimal number with so many places. -/
def withPlaces (n : Int) (places : Nat) : Bytes :=
  (if n < 0 then [byte '-'] else []) ++ Quantity.pointed (decimal n.natAbs) places

/-- The parts of a format for one number: the text before, the conversion with its letter, and the text behind. -/
def oneConversion? (format : Bytes) : Option (Bytes × Conversion × Char × Bytes) :=
  let rec plain (fuel : Nat) (text : Bytes) : Bytes × Bytes :=
    match fuel, text with
    | 0, _ | _, [] => ([], [])
    | fuel + 1, 37 :: 37 :: rest => let (more, rest) := plain fuel rest; (37 :: more, rest)
    | _, 37 :: rest => ([], 37 :: rest)
    | fuel + 1, b :: rest => let (more, rest) := plain fuel rest; (b :: more, rest)
  let (before, rest) := plain (format.length + 1) format
  match rest with
  | [] => none
  | _ :: rest =>
    let (c, _, rest) := Conversion.read [] rest
    match rest with
    | [] => none
    | letter :: rest =>
      let (behind, left) := plain (rest.length + 1) rest
      let letter := Char.ofNat letter.toNat
      if left.isEmpty && "aAeEfFgG".toList.contains letter then some (before, c, letter, behind) else none

/-- The options of `seq` at the start of its arguments: separator, format, and whether all numbers are equally wide. A
negative number is none. -/
def readSequenceOptions (fuel : Nat) (g : Given) (args : List Bytes) : Except OptionFault Given :=
  let table : OptionTable :=
    { letters := "w", valued := "sf", words := [("equal-width", 'w'), ("separator", 's'), ("format", 'f')] }
  match fuel, args with
  | 0, _ => .ok { g with operands := args }
  | _, [] => .ok { g with operands := [] }
  | fuel + 1, word :: rest =>
    let isNegative : Bool := match word with
      | 45 :: b :: _ => isDigit b || b = byte '.'
      | _ => false
    if isNegative || word.head? != some (byte '-') || word.length = 1 then .ok { g with operands := args }
    else if word = Text.bytes "--" then .ok { g with operands := rest }
    else
      match table.read [word] with
      | .ok one => readSequenceOptions fuel { g with options := g.options ++ one.options } rest
      | .error (.valueMissing letter) =>
        match rest with
        | value :: rest => readSequenceOptions fuel (g.add letter value) rest
        | [] => .error (.valueMissing letter)
      | .error (.wordValueMissing name) =>
        match rest with
        | value :: rest => readSequenceOptions fuel (g.add (name.toList.headD 's') value) rest
        | [] => .error (.wordValueMissing name)
      | .error fault => .error fault

/-- Prints the numbers from one to another. -/
def seq : Utility := fun args => do
  withReading (readSequenceOptions (args.length + 1) {} args) 1 fun g => do
    match g.operands with
    | [] => missingOperand 1
    | _ :: _ :: _ :: extra :: _ => extraOperand extra 1
    | words =>
      match words.find? fun word => (decimal? word).isNone with
      | some word =>
        complainOfUse (Text.bytes "invalid floating point argument: " ++ Quoted.curly word)
        return 1
      | none =>
        let numbers := words.filterMap decimal?
        let (first, step, last) : (Int × Nat) × (Int × Nat) × (Int × Nat) := match numbers with
          | [last] => ((1, 0), (1, 0), last)
          | [first, last] => (first, (1, 0), last)
          | first :: step :: last :: _ => (first, step, last)
          | [] => ((1, 0), (1, 0), (0, 0))
        if step.1 = 0 then
          complainOfUse (Text.bytes "invalid Zero increment value: " ++ Quoted.curly ((words[1]?).getD []))
          return 1
        let places := max first.2 step.2
        let scale := max places last.2
        let scaled (n : Int × Nat) : Int := n.1 * (Nat.pow 10 (scale - n.2) : Nat)
        let count := (scaled last - scaled first).natAbs / (scaled step).natAbs + 1
        let numbers := stepsTo (scaled first) (scaled step) (scaled last) count
        let plain (n : Int) : Bytes := withPlaces (n / (Nat.pow 10 (scale - places) : Nat)) places
        let shown (render : Int → Bytes) : StateM Scene Nat := do
          let separator := (g.value? 's').getD [newline]
          if !numbers.isEmpty then putLine (((numbers.map render).intersperse separator).flatten)
          return 0
        match g.value? 'f' with
        | some format =>
          match oneConversion? format with
          | some (before, c, letter, behind) =>
            shown fun n =>
              let q : Quantity := { negative := n < 0, size := .finite n.natAbs (Nat.pow 10 scale) }
              before ++ c.quantity letter (q.keep .extended) ++ behind
          | none =>
            let directive := (format.dropWhile (· != byte '%')).drop 1
            let letter := (Conversion.read [] directive).2.2.take 1
            if !format.contains (byte '%') then
              complain (Text.bytes "format " ++ Quoted.curly format ++ Text.bytes " has no % directive")
            else
              complain (Text.bytes "format " ++ Quoted.curly format ++ Text.bytes " has unknown %" ++ letter ++
                Text.bytes " directive")
            return 1
        | none =>
          if g.has 'w' then
            /- The last bound counts too, with the places that are shown. -/
            let width := max (plain (scaled first)).length
              (withPlaces (scaled last / (Nat.pow 10 (scale - places) : Nat)) places).length
            shown fun n =>
              let text := plain n
              if n < 0 then byte '-' :: padLeft (width - 1) (byte '0') text.tail else padLeft width (byte '0') text
          else shown plain

/-- Prints a line without end; so much of it as anyone may read. -/
def yes : Utility := fun args => do
  let line := joined (if args.isEmpty then [[byte 'y']] else args) ++ [newline]
  put (List.replicate (Scene.endless / line.length + 1) line).flatten
  let s ← get
  if s.spoiled.isSome then return 1
  else if s.feedsPipe then return killedBy 13
  else
    set s.exhaust
    return match s.exhaust.expired? with
      | some signal => killedBy signal
      | none => 0

/-- The prime factors of a number from `candidate` on, in order. `fuel` bounds the candidates. -/
def factorsFrom : (fuel : Nat) → (candidate n : Nat) → List Nat
  | 0, _, n => if n = 1 then [] else [n]
  | fuel + 1, candidate, n =>
    if n < candidate * candidate then (if n ≤ 1 then [] else [n])
    else if n % candidate = 0 then candidate :: factorsFrom fuel candidate (n / candidate)
    else factorsFrom fuel (if candidate = 2 then 3 else candidate + 2) n

/-- Prints the prime factors of numbers. -/
def factor : Utility := withOptions { letters := "h", words := [("exponents", 'h')] } 1 fun g => do
  let words ← if g.operands.isEmpty then do
      match (← get).readAll 0 with
      | .ok (data, s) =>
        set s
        let isBlank (b : UInt8) : Bool := b = byte ' ' || (9 ≤ b && b ≤ 13)
        pure ((data.splitBy fun a b => isBlank a == isBlank b).filter fun word => !(word.head?.any isBlank))
      | .error _ => pure []
    else pure g.operands
  forOperands words fun word => do
    let digits := (word.dropWhile (· = byte ' '))
    let digits := if digits.head? = some (byte '+') then digits.tail else digits
    match number? digits with
    | none =>
      complain (Quoted.curly word ++ Text.bytes " is not a valid positive integer")
      return 1
    | some n =>
      let factors := factorsFrom 3000000 2 n
      let shown := if g.has 'h' then
          (factors.eraseDups).map fun p =>
            let count := factors.count p
            decimal p ++ if 1 < count then byte '^' :: decimal count else []
        else factors.map decimal
      putLine (decimal n ++ byte ':' :: shown.flatMap (byte ' ' :: ·))
      return 0

/-! ## Parts of paths -/

/-- A path without the slashes at its end; nothing but slashes is one slash. -/
def withoutEnd (path : Bytes) : Bytes :=
  let trimmed := (path.reverse.dropWhile (· = Place.slash)).reverse
  if trimmed.isEmpty && !path.isEmpty then [Place.slash] else trimmed

/-- The last name of a path. -/
def baseName (path : Bytes) : Bytes :=
  let path := withoutEnd path
  if path = [Place.slash] then path else (path.reverse.takeWhile (· != Place.slash)).reverse

/-- A path without its last name. -/
def dirName (path : Bytes) : Bytes :=
  let path := withoutEnd path
  if path = [Place.slash] then path
  else
    let parent := (path.reverse.dropWhile (· != Place.slash)).reverse
    if parent.isEmpty then [byte '.'] else withoutEnd parent

/-- A name without an ending, unless it is nothing but that. -/
def withoutSuffix (name ending : Bytes) : Bytes :=
  if ending.isSuffixOf name && ending.length < name.length then name.take (name.length - ending.length) else name

/-- The byte that ends lines: a newline, or NUL if that is asked for. -/
def lineEnd (g : Given) : Bytes :=
  if g.has 'z' then [0] else [newline]

def basename : Utility := withEarlyOptions
  { letters := "az", valued := "s", words := [("multiple", 'a'), ("suffix", 's'), ("zero", 'z')] } 1 fun g => do
  match g.operands with
  | [] => missingOperand 1
  | path :: more =>
    if g.has 'a' || g.has 's' then
      for path in path :: more do
        put (withoutSuffix (baseName path) ((g.value? 's').getD []) ++ lineEnd g)
      return 0
    else
      match more with
      | _ :: extra :: _ => extraOperand extra 1
      | _ =>
        put (withoutSuffix (baseName path) (more.headD []) ++ lineEnd g)
        return 0

def dirname : Utility := withOptions { letters := "z", words := [("zero", 'z')] } 1 fun g => do
  if g.operands.isEmpty then missingOperand 1
  else
    for path in g.operands do
      put (dirName path ++ lineEnd g)
    return 0

end Print

end LineShell.Host
