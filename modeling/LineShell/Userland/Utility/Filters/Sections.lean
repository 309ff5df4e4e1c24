import LineShell.Userland.Regex.Fitting
import LineShell.Userland.Regex.Reading
import LineShell.Userland.Utility.Filters.Columns
import LineShell.Userland.Utility.Format

/-!
# Sections of a file

`csplit` cuts a file in front of lines that are given by their numbers or by expressions, and writes each section into a
file of its own.

- `Sections.Cut` is one way to find the next cut, `Sections.readCuts` reads them;
- `Sections.Cutter` is how far the lines are dealt out.
-/

namespace LineShell.Host

namespace Sections

/-! ## Where to cut -/

/-- How to find the line that the next section starts with. -/
inductive Place
  | line (number : Nat)
  /-- The next line that fits, moved by some lines. What is in front of it may be left out. -/
  | fitting (m : Matcher) (offset : Int) (ignored : Bool)
deriving DecidableEq, Repr

/-- A place to cut at, as it was written, and how often to do so again; `none` means as often as can be. -/
structure Cut where
  place : Place
  word : Bytes
  again : Option Nat := some 0
deriving DecidableEq, Repr

/-- What is wrong with the cuts asked for. -/
inductive CutFault
  | invalid (word : Bytes)
  | zero (word : Bytes)
  | decreasing (number last : Nat)
  | unclosed (word : Bytes) (delimiter : UInt8)
  | offset (word : Bytes)
  | regex (word : Bytes) (fault : RegexFault)
  | braceMissing (word : Bytes)
  | count (word : Bytes)
deriving DecidableEq, Repr

def CutFault.text : CutFault → Bytes
  | invalid word => Quoted.curly word ++ Text.bytes ": invalid pattern"
  | zero word => word ++ Text.bytes ": line number must be greater than zero"
  | decreasing number last =>
    Text.bytes "line number " ++ Quoted.curly (decimal number) ++ Text.bytes " is smaller than preceding line number, " ++
      decimal last
  | unclosed word delimiter =>
    word ++ Text.bytes ": closing delimiter '" ++ delimiter :: Text.bytes "' missing"
  | offset word => Quoted.curly word ++ Text.bytes ": integer expected after delimiter"
  | regex word fault => Quoted.curly word ++ Text.bytes (": invalid regular expression: " ++ fault.text)
  | braceMissing word => Quoted.curly word ++ Text.bytes ": '\x7d' is required in repeat count"
  | count word => Quoted.curly word.dropLast ++ Text.bytes "\x7d: integer required between '\x7b' and '\x7d'"

/-- A number with an optional sign, and nothing behind it. -/
def readOffset (text : Bytes) : Option Int :=
  let (negative, digits) := Quantity.readSign text
  (number? digits).map fun n => if negative then -(n : Int) else n

/-- A number, perhaps with blanks and a sign in front of it. -/
def readNumber (text : Bytes) : Option Nat :=
  match text.dropWhile isBlank with
  | 43 :: digits => number? digits
  | digits => number? digits

/-- A place between delimiters, as in `/x/+1`. -/
def readFitting (word text : Bytes) (delimiter : UInt8) : Except CutFault Place := do
  let reversed := text.reverse
  let tail := (reversed.takeWhile (· != delimiter)).reverse
  if tail.length = text.length then throw (.unclosed word delimiter)
  let offset ← if tail.isEmpty then pure 0
    else
      match readOffset tail with
      | some n => pure n
      | none => throw (.offset word)
  match Regex.read {} (text.take (text.length - tail.length - 1)) with
  | .error fault => throw (.regex word fault)
  | .ok r => return .fitting { regex := r } offset (delimiter = byte '%')

/-- How often to cut again, as in `{3}`, if a word says so. -/
def readAgain (word : Bytes) : Except CutFault (Option (Option Nat)) :=
  match word with
  | 123 :: rest =>
    if rest.getLast? != some 125 then .error (.braceMissing word)
    else if rest.dropLast = [byte '*'] then .ok (some none)
    else
      match readNumber rest.dropLast with
      | some n => .ok (some (some n))
      | none => .error (.count word)
  | _ => .ok none

/-- Read the cuts asked for, and the numbers that are given twice in a row. -/
def readCuts (last : Nat) : List Bytes → Except CutFault (List Cut × List Nat)
  | [] => .ok ([], [])
  | word :: rest => do
    let (place, number) ← match word with
      | 47 :: text => do pure (← readFitting word text 47, last)
      | 37 :: text => do pure (← readFitting word text 37, last)
      | _ =>
        match readNumber word with
        | none => throw (.invalid word)
        | some 0 => throw (.zero word)
        | some n => if n < last then throw (.decreasing n last) else pure (.line n, n)
    let twice := if word.head? != some 47 && word.head? != some 37 && number = last then [number] else []
    match rest with
    | [] => return ([{ place, word }], twice)
    | next :: more =>
      match ← readAgain next with
      | none =>
        let (cuts, doubles) ← readCuts number (next :: more)
        return ({ place, word } :: cuts, twice ++ doubles)
      | some again =>
        let (cuts, doubles) ← readCuts number more
        return ({ place, word, again } :: cuts, twice ++ doubles)

/-! ## Cutting -/

/-- How files are named, and what else is asked for. -/
structure Naming where
  lead : Bytes := Text.bytes "xx"
  /-- The name of a file behind `lead`, by its number. -/
  tail : Nat → Bytes
  keeps : Bool := false
  quiet : Bool := false
  skipsEmpty : Bool := false
  /-- The lines that were cut at are left out. -/
  drops : Bool := false

/-- Where cutting stands. -/
structure Cutter where
  lines : Array Bytes
  /-- Why there may be no lines. -/
  fault : Option Fault := none
  /-- The first line that is not dealt out, and the last one that was looked at; lines are counted from 1 on. -/
  first : Nat := 1
  current : Nat := 0
  /-- The lines of the file being written, latest first, if there is one. -/
  written : Option (List Bytes) := none
  /-- How many files there are. -/
  created : Nat := 0
  /-- How large the files are that were finished, latest first. -/
  sizes : List Nat := []

/-- Why it all ends early: all is done, nothing can be done about it, or the files are removed first. -/
inductive Stop
  | done
  | lost
  | failed
deriving DecidableEq, Repr

/-- A part of the work, which may end it all. -/
abbrev Cutting := ExceptT Stop (StateT Cutter (StateM Scene))

namespace Cutting

variable (names : Naming)

/-- Tell how large the files are that were finished. -/
def report : Cutting Unit := do
  let sizes := (← get).sizes
  if !names.quiet then (put (sizes.reverse.flatMap fun n => decimal n ++ [newline]) : StateM Scene Unit)
  modify fun c => { c with sizes := [] }

/-- Complain, behind what is told of the files. -/
def tell (text : Bytes) : Cutting Unit := do
  report names
  (complain text : StateM Scene Unit)

/-- Be sure that the file could be read. -/
def readable : Cutting Unit := do
  match (← get).fault with
  | some fault =>
    tell names (Text.bytes ("read error: " ++ fault.text))
    throw .failed
  | none => return

/-- A line that was not dealt out, by its number. -/
def find (n : Nat) : Cutting (Option Bytes) := do
  readable names
  let c ← get
  return if c.lines.size < c.first then none else c.lines[n - 1]?

/-- Deal out the next line. -/
def removeLine : Cutting (Option Bytes) := do
  readable names
  let c ← get
  match c.lines[c.first - 1]? with
  | none => return none
  | some line =>
    set { c with first := c.first + 1, current := max c.current c.first }
    return some line

/-- The number of the next line to be dealt out. -/
def firstLine : Cutting Nat := do
  readable names
  let c ← get
  if c.lines.size < c.first then
    tell names (Text.bytes "input disappeared")
    throw .lost
  return c.first

def nameOf (n : Nat) : Bytes :=
  names.lead ++ names.tail n

/-- Start a file. -/
def create : Cutting Unit := do
  let name := nameOf names (← get).created
  match ← (Inputs.store name [] false : StateM Scene _) with
  | .error fault =>
    tell names (Quoted.whereNeeded name ++ Text.bytes (": " ++ fault.text))
    throw .failed
  | .ok () => modify fun c => { c with created := c.created + 1, written := some [] }

def save (line : Bytes) : Cutting Unit :=
  modify fun c => { c with written := c.written.map (line :: ·) }

/-- Finish the file. -/
def close : Cutting Unit := do
  let c ← get
  match c.written with
  | none => return
  | some lines =>
    let text := lines.reverse.flatten
    let name := nameOf names (c.created - 1)
    if text.isEmpty && names.skipsEmpty then
      modify fun c => { c with written := none, created := c.created - 1 }
      let _ ← (granted ((← getThe Scene).disk.removeFile (← getThe Scene).dir name) : StateM Scene _)
    else
      let _ ← (Inputs.store name text false : StateM Scene _)
      modify fun c => { c with written := none, sizes := text.length :: c.sizes }

/-- Deal out all lines that are left. `fuel` is more than there are. -/
def saveRest : (fuel : Nat) → Cutting Unit
  | 0 => return
  | fuel + 1 => do
    match ← removeLine names with
    | none => return
    | some line =>
      save line
      saveRest fuel

/-- More than there are lines. -/
def enough : Cutting Nat := do
  return (← get).lines.size + 2

/-- Complain of a cut that cannot be made, which may be one of many, before anything is told of the files. -/
def tellOf (what : Bytes) (problem : String) (repetition : Nat) : Cutting Unit :=
  (complain (Quoted.curly what ++ Text.bytes (": " ++ problem) ++
    if repetition = 0 then [] else Text.bytes " on repetition " ++ decimal repetition) : StateM Scene Unit)

/-- Cut in front of a line by its number. -/
def atLine (n repetition : Nat) : Cutting Unit := do
  let failed : Cutting Unit := do
    tellOf (decimal n) "line number out of range" repetition
    throw .failed
  let isLast : Cutting Bool := do return (← find names ((← get).current + 1)).isNone
  create names
  if names.drops then
    if ← isLast then failed
  for _ in [← firstLine names : n * (repetition + 1)] do
    match ← removeLine names with
    | none => failed
    | some line => save line
  close names
  if names.drops then
    let _ ← removeLine names
  else if ← isLast then failed

/-- Look for a line that fits, and deal out the lines before it if `deals`. `fuel` is more than there are lines. -/
def search (m : Matcher) (deals ignored : Bool) : (fuel : Nat) → Cutting Bool
  | 0 => return false
  | fuel + 1 => do
    modify fun c => { c with current := c.current + 1 }
    match ← find names (← get).current with
    | none => return false
    | some line =>
      if m.occurs (Symbols.ofBytes (Lines.bare newline line)).toArray then return true
      if deals then
        match ← removeLine names with
        | some line => if !ignored then save line
        | none => pure ()
      search m deals ignored fuel

/-- Cut at a line that fits. -/
def atFitting (cut : Cut) (m : Matcher) (offset : Int) (ignored : Bool) (repetition : Nat) : Cutting Unit := do
  if !ignored then create names
  let found ← search names m (0 ≤ offset) ignored (← enough)
  if !found then
    if cut.again.isSome then tellOf cut.word "match not found" repetition
    if !ignored then
      saveRest names (← enough)
      close names
    throw (if cut.again.isSome then .failed else .done)
  let target : Int := (← get).current + offset
  let outOfRange : Cutting Unit := do
    tell names (Quoted.curly cut.word ++ Text.bytes ": line number out of range")
    throw .failed
  let first ← firstLine names
  if target < first then outOfRange
  for _ in [first : target.toNat] do
    match ← removeLine names with
    | none => outOfRange
    | some line => if !ignored then save line
  if !ignored then close names
  if 0 < offset then modify fun c => { c with current := target.toNat }
  if names.drops then
    let _ ← removeLine names

/-- Cut at one place, again and again. -/
def atCut (cut : Cut) : Cutting Unit := do
  let bound ← enough
  for repetition in [0 : min bound ((cut.again.getD bound) + 1)] do
    match cut.place with
    | .line n => atLine names n repetition
    | .fitting m offset ignored => atFitting names cut m offset ignored repetition

/-- Make all cuts, and a last section of what is left. -/
def all (cuts : List Cut) : Cutting Unit := do
  for cut in cuts do
    atCut names cut
  create names
  saveRest names (← enough)
  close names

end Cutting

/-- Remove the files that were written. -/
def removeFiles (names : Naming) (count : Nat) : StateM Scene Unit := do
  for n in List.range count do
    let s ← get
    let _ ← granted (s.disk.removeFile s.dir (Cutting.nameOf names n))

/-- Do it all, and tell how large the files are. -/
def cutAll (names : Naming) (cuts : List Cut) (c : Cutter) : StateM Scene Nat := do
  let (result, c) ← (Cutting.all names cuts).run.run c
  let (status, c) ← match result with
    | .ok () | .error .done => pure (0, c)
    | .error .lost => pure (1, c)
    | .error .failed => do
      let (_, c) ← (Cutting.close names).run.run c
      if !names.keeps then removeFiles names c.created
      pure (1, c)
  let _ ← (Cutting.report names).run.run c
  return status

/-! ## Names -/

/-- What is wrong with a format for names. -/
inductive NameFault
  | directiveMissing
  | several
  | letterMissing
  | letter (b : UInt8)
  | sign (flag : Char) (of : UInt8)
deriving DecidableEq, Repr

def NameFault.text : NameFault → Bytes
  | directiveMissing => Text.bytes "missing % conversion specification in suffix"
  | several => Text.bytes "too many % conversion specifications in suffix"
  | letterMissing => Text.bytes "missing conversion specifier in suffix"
  | letter b =>
    Text.bytes "invalid conversion specifier in suffix: " ++
      if 32 ≤ b && b < 127 then [b] else byte '\\' :: padLeft 3 (byte '0') (Conversion.digitsOf 8 b.toNat false)
  | sign flag of =>
    Text.bytes ("invalid flags in conversion specification: %" ++ flag.toString) ++ [of]

/-- Read a format for names: the texts around its one conversion, the conversion and its letter. -/
def readNames (before : Bytes) (known : Option (Bytes × Conversion × Char)) :
    (fuel : Nat) → Bytes → Except NameFault (Bytes × Conversion × Char × Bytes)
  | 0, _ => .error .directiveMissing
  | _ + 1, [] =>
    match known with
    | some (lead, conversion, letter) => .ok (lead, conversion, letter, before)
    | none => .error .directiveMissing
  | fuel + 1, 37 :: 37 :: rest => readNames (before ++ [37]) known fuel rest
  | fuel + 1, 37 :: rest => do
    if known.isSome then throw .several
    let flags := rest.takeWhile fun b => ("-0'#".toList.map byte).contains b
    let (conversion, _, after) := Conversion.read [] rest
    match after with
    | [] => throw .letterMissing
    | b :: after =>
      let letter := Char.ofNat b.toNat
      if !"diuoxX".contains letter then throw (.letter b)
      let isPlain := "diu".contains letter
      if isPlain && flags.contains (byte '#') then throw (.sign '#' b)
      if !isPlain && flags.contains (byte '\'') then throw (.sign '\'' b)
      readNames [] (some (before, conversion, letter)) fuel after
  | fuel + 1, b :: rest => readNames (before ++ [b]) known fuel rest

/-- The tails of names that options ask for. -/
def readTails (g : Given) : Except Bytes (Nat → Bytes) :=
  match g.value? 'b' with
  | some word =>
    match readNames [] none (word.length + 1) word with
    | .error fault => .error fault.text
    | .ok (before, conversion, letter, after) => .ok fun n => before ++ conversion.unsigned letter n ++ after
  | none =>
    let word := (g.value? 'n').getD [byte '2']
    match number? word with
    | some width => .ok fun n => padLeft width (byte '0') (decimal n)
    | none => .error (Text.bytes "invalid number: " ++ Quoted.curly word)

/-! ## From the command line -/

def csplitTable : OptionTable :=
  { letters := "ksqzσ", valued := "bfn",
    words := [("digits", 'n'), ("quiet", 'q'), ("silent", 's'), ("keep-files", 'k'), ("elide-empty-files", 'z'),
      ("prefix", 'f'), ("suffix-format", 'b'), ("suppress-matched", 'σ')] }

/-- Cuts a file into sections. -/
def csplit : Utility := withOptions csplitTable 1 fun g => do
  let missing (text : Bytes) : StateM Scene Nat := do
    complainOfUse text
    return 1
  match readTails g, g.operands with
  | .error text, _ =>
    complain text
    return 1
  | _, [] => missing (Text.bytes "missing operand")
  | _, [path] => missing (Text.bytes "missing operand after " ++ Quoted.curly path)
  | .ok tail, path :: words =>
    match readCuts 0 words with
    | .error fault =>
      complain fault.text
      return 1
    | .ok (cuts, doubles) =>
      for n in doubles do
        complain (Text.bytes "warning: line number " ++ Quoted.curly (decimal n) ++
          Text.bytes " is the same as preceding line number")
      let names : Naming :=
        { lead := (g.value? 'f').getD (Text.bytes "xx"), tail := tail, keeps := g.has 'k'
          quiet := g.has 's' || g.has 'q', skipsEmpty := g.has 'z', drops := g.has 'σ' }
      match ← Inputs.stream path with
      | .error fault =>
        complain (Text.bytes "cannot open " ++ Quoted.always path ++ Text.bytes (" for reading: " ++ fault.text))
        return 1
      | .ok number =>
        match ← Inputs.drain number none with
        | .error fault => cutAll names cuts { lines := #[], fault := some fault }
        | .ok data => cutAll names cuts { lines := (Lines.split newline data).toArray }

end Sections

end LineShell.Host
