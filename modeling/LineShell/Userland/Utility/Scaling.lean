import LineShell.Userland.Utility.Choice
import LineShell.Userland.Utility.Filters.Columns
import LineShell.Userland.Utility.Format

/-!
# Numbers with units

`numfmt` changes between plain numbers and those with the letter of a unit behind them, in some fields of lines.

- `Scaling.Figure` is a number as a machine word of 80 bits keeps it, so that each step of a calculation rounds;
- `Scaling.readScaled` reads a number with its unit, `Plan.written` writes one;
- `Scaling.Plan` is what the options ask for.
-/

namespace LineShell.Host

namespace Scaling

/-! ## Calculating -/

/-- A number that a machine word holds, as a fraction. -/
structure Figure where
  num : Int
  den : Nat := 1
deriving DecidableEq, Repr

namespace Figure

/-- The number that is nearest to a fraction. -/
def kept (num : Int) (den : Nat) : Figure :=
  match Precision.extended.round num.natAbs den with
  | .finite n den => { num := if num < 0 then -(n : Int) else n, den }
  | _ => { num := 0 }

def ofInt (n : Int) : Figure :=
  kept n 1

def times (a b : Figure) : Figure :=
  kept (a.num * b.num) (a.den * b.den)

def add (a b : Figure) : Figure :=
  kept (a.num * b.den + b.num * a.den) (a.den * b.den)

def sub (a b : Figure) : Figure :=
  a.add { b with num := -b.num }

/-- A number divided by a whole one. -/
def div (a : Figure) (n : Figure) : Figure :=
  kept (a.num * n.den) (a.den * n.num.toNat)

/-- A power of a whole number. -/
def power (base : Nat) : (n : Nat) → Figure
  | 0 => ofInt 1
  | n + 1 => (power base n).times (ofInt base)

/-- Whether a number is at least so large, whatever its sign. -/
def reaches (a : Figure) (n : Nat) : Bool :=
  n * a.den ≤ a.num.natAbs

/-- A number divided by a base as often as it is at least as large, and how often that is. `fuel` bounds it. -/
def reduced (base : Nat) : (fuel : Nat) → Figure → Figure × Nat
  | 0, a => (a, 0)
  | fuel + 1, a =>
    if a.reaches base then
      let (b, n) := reduced base fuel (a.div (ofInt base))
      (b, n + 1)
    else (a, 0)

def quantity (a : Figure) : Quantity :=
  { negative := a.num < 0, size := .finite a.num.natAbs a.den }

end Figure

/-- The ways to make a number whole. -/
inductive Rounding
  | up
  | down
  | fromZero
  | towardsZero
  | nearest
deriving DecidableEq, Repr

namespace Rounding

/-- The whole number for one that is small enough for 64 bits. -/
def whole (r : Rounding) (a : Figure) : Int :=
  let least : Int := a.num.fdiv a.den
  let most : Int := -((-a.num).fdiv a.den)
  match r with
  | up => most
  | down => least
  | fromZero => if a.num < 0 then least else most
  | towardsZero => a.num.tdiv a.den
  | nearest =>
    let half : Figure := { num := if a.num < 0 then -1 else 1, den := 2 }
    let b := a.add half
    b.num.tdiv b.den

/-- A number made whole: what is more than 64 bits hold is set aside before. -/
def apply (r : Rounding) (a : Figure) : Figure :=
  let most : Figure := .ofInt 0x7fffffffffffffff
  let times := a.div most
  let aside := most.times (.ofInt (times.num.tdiv times.den))
  aside.add (.ofInt (r.whole (a.sub aside)))

/-- A number with so many places. -/
def places (r : Rounding) (n : Nat) (a : Figure) : Figure :=
  (r.apply (a.times (.power 10 n))).div (.power 10 n)

end Rounding

/-! ## Reading -/

/-- The units that numbers are read with or written with. -/
inductive Units
  | none
  /-- As is told by the letters themselves. -/
  | automatic
  | decimal
  | binary
  /-- As `binary`, with an `i` behind the letter. -/
  | binaryMarked
deriving DecidableEq, Repr

def Units.base : Units → Nat
  | binary | binaryMarked => 1024
  | _ => 1000

/-- The letters of the units, each for a higher power. -/
def unitLetters : List UInt8 :=
  "KMGTPEZY".toList.map byte

/-- What is wrong with a number that is read or written. -/
inductive NumberFault
  | overflow (word : Bytes)
  | invalid (word : Bytes)
  | unitForbidden (word : Bytes)
  | unitInvalid (word : Bytes)
  | markMissing (word : Bytes)
  | excess (word more : Bytes)
  | tooLarge (a : Figure)
  | tooPrecise (a : Figure) (places : Nat)
  | beyondUnits (a : Figure)
deriving DecidableEq, Repr

def NumberFault.text : NumberFault → Bytes
  | overflow word => Text.bytes "value too large to be converted: " ++ Quoted.curly word
  | invalid word => Text.bytes "invalid number: " ++ Quoted.curly word
  | unitForbidden word =>
    Text.bytes "rejecting suffix in input: " ++ Quoted.curly word ++ Text.bytes " (consider using --from)"
  | unitInvalid word => Text.bytes "invalid suffix in input: " ++ Quoted.curly word
  | markMissing word =>
    Text.bytes "missing 'i' suffix in input: " ++ Quoted.curly word ++ Text.bytes " (e.g Ki/Mi/Gi)"
  | excess word more =>
    Text.bytes "invalid suffix in input " ++ Quoted.curly word ++ Text.bytes ": " ++ Quoted.curly more
  | tooLarge a =>
    Text.bytes "value too large to be printed: '" ++ shown a ++ Text.bytes "' (consider using --to)"
  | tooPrecise a places =>
    Text.bytes "value/precision too large to be printed: '" ++ shown a ++ byte '/' :: Host.decimal places ++
      Text.bytes "' (consider using --to)"
  | beyondUnits a =>
    Text.bytes "value too large to be printed: '" ++ shown a ++ Text.bytes "' (cannot handle values > 999Y)"
where
  shown (a : Figure) : Bytes := Conversion.quantity {} 'g' a.quantity

/-- More digits than this make a number inexact. -/
def exactDigits : Nat := 18

/-- More digits than this are too many. -/
def digitLimit : Nat := 27

/-- Digits with a sign in front of them, and the text behind. Where there are none, a point has to follow. -/
def readWhole (word text : Bytes) : Except NumberFault (Bool × Figure × Bytes) :=
  let (negative, unsigned) := match text with
    | 45 :: rest => (true, rest)
    | _ => (false, text)
  let digits := unsigned.takeWhile isDigit
  let after := unsigned.drop digits.length
  if digitLimit < (digits.dropWhile (· == byte '0')).length then .error (.overflow word)
  else if digits.isEmpty && after.head? != some (byte '.') then .error (.invalid word)
  else
    let value := digits.foldl (fun (a : Figure) b =>
      (a.times (.ofInt 10)).add (.ofInt (b - byte '0').toNat)) { num := 0 }
    .ok (negative, { value with num := if negative then -value.num else value.num }, after)

/-- A number with places, how many they are, and the text behind. -/
def readPlaces (word text : Bytes) : Except NumberFault (Figure × Nat × Bytes) := do
  let (negative, value, after) ← readWhole word text
  match after with
  | 46 :: places =>
    let (minus, part, rest) ← readWhole word places
    if minus then throw (.invalid word)
    let count := places.length - rest.length
    let part := part.div (.power 10 count)
    return (if negative then value.sub part else value.add part, count, rest)
  | _ => return (value, 0, after)

/-- A number with its unit, and how many places it has; nothing may be behind it. -/
def readScaled (units : Units) (word : Bytes) : Except NumberFault (Figure × Nat) := do
  let (value, places, after) ← readPlaces word word
  let marked (base n places : Nat) (rest : Bytes) : Except NumberFault (Figure × Nat) := do
    let rest ← if units = .binaryMarked then
        match rest with
        | 105 :: rest => pure rest
        | _ => throw (.markMissing word)
      else pure rest
    if !rest.isEmpty then throw (.excess word rest)
    return (value.times (.power base n), places)
  if after.isEmpty then marked units.base 0 places after
  else
    match after.dropWhile fun b => b = byte ' ' || b = 9 with
    | [] => throw (.unitInvalid word)
    | letter :: rest =>
      match unitLetters.idxOf? letter with
      | none => throw (.unitInvalid word)
      | some n =>
        if units = .none then throw (.unitForbidden word)
        else if units = .automatic && rest.head? = some (byte 'i') then marked 1024 (n + 1) 0 rest.tail
        else marked units.base (n + 1) 0 rest

/-! ## Formats -/

/-- A format such as `=%8.1f=`: what stands around the number, and how it is written. -/
structure NumberFormat where
  before : Bytes := []
  after : Bytes := []
  grouped : Bool := false
  /-- Digits are filled up with zeros to this width. -/
  zeros : Nat := 0
  /-- The width, less than zero for the left side. -/
  width : Int := 0
  places : Option Nat := none
deriving DecidableEq, Repr

/-- What is wrong with a format. -/
inductive FormatFault
  | noDirective
  | tooManyDirectives
  | ended
  | places
  | directive
  | width
deriving DecidableEq, Repr

def FormatFault.text (format : Bytes) : FormatFault → Bytes
  | noDirective => Text.bytes "format " ++ Quoted.curly format ++ Text.bytes " has no % directive"
  | tooManyDirectives => Text.bytes "format " ++ Quoted.curly format ++ Text.bytes " has too many % directives"
  | ended => Text.bytes "format " ++ Quoted.curly format ++ Text.bytes " ends in %"
  | places => Text.bytes "invalid precision in format " ++ Quoted.curly format
  | directive =>
    Text.bytes "invalid format " ++ Quoted.curly format ++
      Text.bytes ", directive must be %[0]['][-][N][.][N]f"
  | width => Text.bytes "invalid format " ++ Quoted.curly format ++ Text.bytes " (width overflow)"

/-- Whether a percent sign starts a directive somewhere; two of them are one that does not. -/
def hasDirective : Bytes → Bool
  | 37 :: 37 :: rest => hasDirective rest
  | 37 :: _ => true
  | _ :: rest => hasDirective rest
  | [] => false

/-- How many steps there are in front of the first directive, and the text behind its percent sign. -/
def toDirective (steps : Nat) : Bytes → Option (Nat × Bytes)
  | 37 :: 37 :: rest => toDirective (steps + 1) rest
  | 37 :: rest => some (steps, rest)
  | _ :: rest => toDirective (steps + 1) rest
  | [] => none

/-- The flags of a directive: whether groups and zeros are asked for, and the text behind. -/
def readFlags (grouped zeros : Bool) : Bytes → Bool × Bool × Bytes
  | 32 :: rest => readFlags grouped zeros rest
  | 39 :: rest => readFlags true zeros rest
  | 48 :: rest => readFlags grouped true rest
  | text => (grouped, zeros, text)

/-- A whole number that a text starts with, if it does. -/
def readSigned (text : Bytes) : Option Int × Bytes :=
  let (negative, unsigned) := Quantity.readSign (text.dropWhile isBlank)
  let digits := unsigned.takeWhile isDigit
  if digits.isEmpty then (none, text)
  else (some (if negative then -(number digits : Int) else number digits), unsigned.drop digits.length)

/-- Read a format. What stands in front of the directive is cut to as many bytes as there are steps to it. -/
def NumberFormat.read (format : Bytes) : Except FormatFault NumberFormat := do
  match toDirective 0 format with
  | none => throw .noDirective
  | some (steps, rest) =>
    let (grouped, zeros, rest) := readFlags false false rest
    let (width?, rest) := readSigned rest
    let width := width?.getD 0
    if 0x7fffffffffffffff < width.natAbs then throw .width
    if rest.isEmpty then throw .ended
    let (places, rest) ← match rest with
      | 46 :: rest =>
        let (n?, behind) := readSigned rest
        let n := n?.getD 0
        if n < 0 || rest.head?.any (fun b => b = byte ' ' || b = 9 || b = byte '+') then throw .places
        pure (some n.toNat, behind)
      | rest => pure (none, rest)
    match rest with
    | 102 :: after =>
      if hasDirective after then throw .tooManyDirectives
      return { before := format.take steps, after, grouped, places
               zeros := if zeros && 0 < width then width.toNat else 0
               width := if zeros && 0 < width then 0 else width }
    | _ => throw .directive

/-! ## Writing -/

/-- What is done with numbers that cannot be read. -/
inductive Refusal
  | abort
  | fail
  | warn
  | ignore
deriving DecidableEq, Repr

/-- What the options ask for. -/
structure Plan where
  source : Units := .none
  target : Units := .none
  sourceUnit : Nat := 1
  targetUnit : Nat := 1
  rounding : Rounding := .fromZero
  refusal : Refusal := .abort
  suffix : Bytes := []
  format : NumberFormat := {}
  /-- The width of numbers; zero if there is none. -/
  width : Nat := 0
  /-- They stand on the left side of it. -/
  left : Bool := false
  delimiter : Option UInt8 := none
  fields : Columns.Ranges := [(1, some 1)]
  header : Nat := 0
  ending : UInt8 := newline

namespace Plan

/-- A number with so many places, filled up with zeros. -/
def digits (p : Plan) (places : Nat) (a : Figure) : Bytes :=
  Conversion.quantity { zeros := true, width := p.format.zeros, precision := some places } 'f' a.quantity

/-- The text of a number with its unit. -/
def scaledText (p : Plan) (a : Figure) : Bytes :=
  let base := p.target.base
  let (a, power) := a.reduced base 100
  let adjust := match p.format.places with
    | some places => min (power * 3) places
    | none => if a.reaches 10 then 0 else 1
  let a := p.rounding.places adjust a
  let (a, power) := if a.reaches base then (a.div (.ofInt base), power + 1) else (a, power)
  let places := p.format.places.getD (if a.num != 0 && !a.reaches 10 && 0 < power then 1 else 0)
  p.digits places a ++ (if power = 0 then [] else (unitLetters[power - 1]?).toList) ++
    if p.target = .binaryMarked && 0 < power then [byte 'i'] else []

/-- The text of a number; `places` is how many places it was read with. -/
def written (p : Plan) (a : Figure) (places : Nat) : Except NumberFault Bytes :=
  let used := p.format.places.getD places
  let tens := (a.reduced 10 10000).2
  if p.target = .none && exactDigits < tens + used then
    .error (if used = 0 then .tooLarge a else .tooPrecise a used)
  else if digitLimit - 1 < tens then .error (.beyondUnits a)
  else
    .ok ((if p.target = .none then p.digits used (p.rounding.places used a) else p.scaledText a) ++ p.suffix)

/-- Fill a text up to a width. -/
def padded (p : Plan) (width : Nat) (text : Bytes) : Bytes :=
  if p.left then padRight width (byte ' ') text else padLeft width (byte ' ') text

/-- A field without the suffix that is asked for. -/
def trimmed (p : Plan) (text : Bytes) : Bytes :=
  if p.suffix.length < text.length && p.suffix.reverse.isPrefixOf text.reverse then
    text.take (text.length - p.suffix.length)
  else text

/-- The field for a field. Where no width is asked for, numbers keep the width of the field they were in, if it did not
start with the number. -/
def converted (p : Plan) (field : Nat) (text : Bytes) : Except NumberFault Bytes := do
  let word := text.dropWhile fun b => b = byte ' ' || b = 9
  let width :=
    if p.width != 0 || p.delimiter.isSome then p.width
    else if word.length < text.length || 1 < field then text.length
    else 0
  let (value, places) ← readScaled p.source word
  let value := if p.sourceUnit = 1 && p.targetUnit = 1 then value
    else (value.times (.ofInt p.sourceUnit)).div (.ofInt p.targetUnit)
  let shown ← p.written value places
  return p.format.before ++ p.padded width shown ++ p.format.after

/-- The fields of a line. Without a delimiter, they are separated by one blank each, and blanks in front of a field are
part of it. `fuel` is more than the length. -/
def fieldsOf (p : Plan) : (fuel : Nat) → Bytes → List Bytes
  | 0, line => [line]
  | fuel + 1, line =>
    let separates (b : UInt8) : Bool := match p.delimiter with
      | some d => b = d
      | none => b = byte ' ' || b = 9 || b = newline
    let start := if p.delimiter.isSome then [] else line.takeWhile separates
    let field := start ++ (line.drop start.length).takeWhile fun b => !separates b
    match line.drop field.length with
    | [] => [field]
    | _ :: rest => field :: fieldsOf p fuel rest

end Plan

/-! ## From the command line -/

def sourceWords : Choices :=
  [["none"], ["auto"], ["si"], ["iec"], ["iec-i"]]

def targetWords : Choices :=
  [["none"], ["si"], ["iec"], ["iec-i"]]

def roundingWords : Choices :=
  [["up"], ["down"], ["from-zero"], ["towards-zero"], ["nearest"]]

def refusalWords : Choices :=
  [["abort"], ["fail"], ["warn"], ["ignore"]]

def unitsNamed : String → Units
  | "auto" => .automatic
  | "si" => .decimal
  | "iec" => .binary
  | "iec-i" => .binaryMarked
  | _ => .none

def roundingNamed : String → Rounding
  | "up" => .up
  | "down" => .down
  | "towards-zero" => .towardsZero
  | "nearest" => .nearest
  | _ => .fromZero

def refusalNamed : String → Refusal
  | "fail" => .fail
  | "warn" => .warn
  | "ignore" => .ignore
  | _ => .abort

/-- The size of a unit: a number, perhaps with a letter for a power of 1000, or of 1024 with an `i` behind it. -/
def readUnit (word : Bytes) : Except Bytes Nat :=
  let digits := word.takeWhile isDigit
  let n := if digits.isEmpty then 1 else number digits
  let size? : Option Nat := match word.drop digits.length with
    | [] => if digits.isEmpty then none else some n
    | [letter] => (unitLetters.idxOf? letter).map fun k => n * Nat.pow 1000 (k + 1)
    | [letter, 105] => (unitLetters.idxOf? letter).map fun k => n * Nat.pow 1024 (k + 1)
    | _ => none
  match size?.filter fun n => n != 0 && n ≤ 0xffffffffffffffff with
  | some n => .ok n
  | none => .error (Text.bytes "invalid unit size: " ++ Quoted.curly word)

/-- The fields that numbers are in; a lone dash means all of them. -/
def readFields (word : Bytes) : Except Bytes Columns.Ranges :=
  if word = [byte '-'] then .ok [(1, none)]
  else
    match Columns.Ranges.read false word with
    | .ok ranges => .ok ranges
    | .error fault => .error (fault.text true)

/-- A width other than zero. -/
def readPadding (word : Bytes) : Except Bytes Int :=
  match readSigned word with
  | (some n, []) =>
    if n = 0 || 0x7fffffffffffffff < n.natAbs then .error (Text.bytes "invalid padding value " ++ Quoted.curly word)
    else .ok n
  | _ => .error (Text.bytes "invalid padding value " ++ Quoted.curly word)

/-- How many lines are no numbers but their titles. -/
def readHeader (word : Bytes) : Except Bytes Nat :=
  if word.isEmpty then .ok 1
  else
    match (number? word).filter (0 < ·) with
    | some n => .ok n
    | none => .error (Text.bytes "invalid header value " ++ Quoted.curly word)

def numfmtTable : OptionTable :=
  { letters := "zγδΔ", valued := "dφτΦΤρπσfξι", optional := "η",
    words := [("from", 'φ'), ("from-unit", 'Φ'), ("to", 'τ'), ("to-unit", 'Τ'), ("round", 'ρ'), ("padding", 'π'),
      ("suffix", 'σ'), ("grouping", 'γ'), ("delimiter", 'd'), ("field", 'f'), ("debug", 'δ'), ("-debug", 'Δ'),
      ("header", 'η'), ("format", 'ξ'), ("invalid", 'ι'), ("zero-terminated", 'z')] }

def numfmtChoices : ChoiceTable :=
  [('φ', "from", sourceWords), ('τ', "to", targetWords), ('ρ', "round", roundingWords), ('ι', "invalid", refusalWords)]

/-- What is wrong with the options, and whether help is referred to. -/
abbrev PlanFault := Bytes × Bool

/-- What the options ask for. -/
def readPlan (g : Given) : Except PlanFault Plan := do
  let plain {α : Type} (reading : Except Bytes α) : Except PlanFault α := reading.mapError fun text => (text, false)
  let chosen (letter : Char) (choices : Choices) : String :=
    ((g.value? letter).bind choices.named?).getD ""
  for option in g.options do
    match option with
    | ('d', _ :: _ :: _) => throw (Text.bytes "the delimiter must be a single character", false)
    | ('Φ', word) | ('Τ', word) => let _ ← plain (readUnit word)
    | ('π', word) => let _ ← plain (readPadding word)
    | ('η', word) => let _ ← plain (readHeader word)
    | _ => pure ()
  let valued {α : Type} (letter : Char) (reader : Bytes → Except Bytes α) : Option α :=
    (g.value? letter).bind fun word => (reader word).toOption
  let padding := (valued 'π' readPadding).getD 0
  if 1 < (g.values 'f').length then throw (Text.bytes "multiple field specifications", true)
  let fields ← (g.value? 'f').mapM fun word => (readFields word).mapError fun text => (text, true)
  if g.has 'γ' && g.has 'ξ' then throw (Text.bytes "--grouping cannot be combined with --format", false)
  let format ← (g.value? 'ξ').mapM fun word =>
    (NumberFormat.read word).mapError fun fault => (fault.text word, false)
  let format := format.getD {}
  let target := unitsNamed (chosen 'τ' targetWords)
  if target != .none && (format.grouped || g.has 'γ') then
    throw (Text.bytes "grouping cannot be combined with --to", false)
  return {
    source := unitsNamed (chosen 'φ' sourceWords)
    target
    sourceUnit := (valued 'Φ' readUnit).getD 1
    targetUnit := (valued 'Τ' readUnit).getD 1
    rounding := roundingNamed (chosen 'ρ' roundingWords)
    refusal := refusalNamed (chosen 'ι' refusalWords)
    suffix := (g.value? 'σ').getD []
    format
    width := if format.width != 0 then format.width.natAbs else padding.natAbs
    left := format.width < 0 || padding < 0
    delimiter := (g.value? 'd').map (·.headD 0)
    fields := fields.getD [(1, some 1)]
    header := (valued 'η' readHeader).getD 0
    ending := Lines.ending g }

/-- Show the fields of a line; the flag tells whether all numbers were fine, and nothing is left if it all ends here. -/
def showFields (p : Plan) (fine : Bool) : List (Bytes × Nat) → StateM Scene (Option Bool)
  | [] => return some fine
  | (text, field) :: rest => do
    let isLast := rest.isEmpty
    let between : Bytes := if isLast then [] else [p.delimiter.getD (byte ' ')]
    if !p.fields.contains field then
      put (text ++ between)
      showFields p fine rest
    else
      let text := p.trimmed text
      match p.converted field text with
      | .ok shown =>
        put (shown ++ between)
        showFields p fine rest
      | .error fault =>
        if p.refusal != .ignore then complain fault.text
        if p.refusal = .abort then return none
        else
          put (text ++ between)
          showFields p false rest

/-- Show lines, each with whether it is ended. -/
def showLines (p : Plan) (fine : Bool) : List (Bytes × Bool) → StateM Scene Nat
  | [] => return if fine || p.refusal = .warn || p.refusal = .ignore then 0 else 2
  | (line, isEnded) :: rest => do
    match ← showFields p fine ((p.fieldsOf (line.length + 1) line).zipIdx 1) with
    | none => return 2
    | some fine =>
      if isEnded then put [p.ending]
      showLines p fine rest

/-- Changes between numbers with and without units. -/
def numfmt : Utility := withOptions numfmtTable 1 fun g =>
  choosing numfmtChoices g 1 do
    match readPlan g with
    | .error (text, refers) =>
      if refers then complainOfUse text else complain text
      return 1
    | .ok p =>
      if g.has 'δ' && p.source = .none && p.target = .none && p.width = 0 && !g.has 'γ' && !g.has 'ξ' then
        complainText "no conversion option specified"
      if !g.operands.isEmpty then showLines p true (g.operands.map fun word => (word, true))
      else
        match ← Inputs.load [byte '-'] with
        | .error fault =>
          complainText ("error reading input: " ++ fault.text)
          return 0
        | .ok data =>
          let lines := Lines.split p.ending data
          put (lines.take p.header).flatten
          showLines p true ((lines.drop p.header).map fun line =>
            (Lines.bare p.ending line, Lines.isEnded p.ending line))

end Scaling

end LineShell.Host
