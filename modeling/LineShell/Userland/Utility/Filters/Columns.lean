import LineShell.Userland.Letters
import LineShell.Userland.Utility.Inputs
import LineShell.Userland.Utility.Size

/-!
# Parts and widths of lines

`cut` shows parts of lines, `paste` puts lines side by side, `fold` breaks long lines, `expand` and `unexpand` change
between tabs and blanks, `rev` turns lines round.

- `Ranges` is a set of numbers as `cut` is told it, in order and without overlaps;
- `TabStops` says where a tab leads to.
-/

namespace LineShell.Host

namespace Columns

/-! ## cut -/

/-- Ranges of numbers from 1 on; a range without an end goes on for ever. -/
abbrev Ranges := List (Nat × Option Nat)

/-- What is wrong with a list of ranges; most of it is worded by what is counted. -/
inductive RangeFault
  | zero
  | noEnds
  | decreasing
  | twoDashes
  | tooLarge (digits : Bytes)
  | stray (rest : Bytes)
deriving DecidableEq, Repr

def RangeFault.text (fields : Bool) : RangeFault → Bytes
  | zero =>
    Text.bytes (if fields then "fields are numbered from 1" else "byte/character positions are numbered from 1")
  | noEnds => Text.bytes "invalid range with no endpoint: -"
  | decreasing => Text.bytes "invalid decreasing range"
  | twoDashes => Text.bytes (if fields then "invalid field range" else "invalid byte or character range")
  | tooLarge digits =>
    Text.bytes (if fields then "field number " else "byte/character offset ") ++ Quoted.curly digits ++
      Text.bytes " is too large"
  | stray rest =>
    Text.bytes (if fields then "invalid field value " else "invalid byte/character position ") ++ Quoted.curly rest

namespace Ranges

/-- Whether a byte stands between ranges. -/
def isComma (b : UInt8) : Bool :=
  b = byte ',' || b = byte ' ' || b = 9

/-- Read one range up to what ends it; the rest of the whole list is told in complaints. -/
def readOne (text : Bytes) : Except RangeFault ((Nat × Option Nat) × Bytes) := do
  let digits (text : Bytes) : Except RangeFault (Option Nat × Bytes) :=
    let found := text.takeWhile isDigit
    if 0xffffffffffffffff ≤ number found then .error (.tooLarge found)
    else .ok (if found.isEmpty then none else some (number found), text.drop found.length)
  let ended (text : Bytes) : Bool := text.isEmpty || text.head?.any isComma
  let (first, rest) ← digits text
  match rest with
  | 45 :: rest =>
    if first = some 0 then throw .zero
    let (last, rest) ← digits rest
    if !ended rest then throw (if rest.head? = some (byte '-') then .twoDashes else .stray rest)
    match first, last with
    | none, none => throw .noEnds
    | some first, none => return ((first, none), rest)
    | _, some last => if last < first.getD 1 then throw .decreasing else return ((first.getD 1, some last), rest)
  | _ =>
    if !ended rest then throw (.stray rest)
    let n := first.getD 0
    if n = 0 then throw .zero else return ((n, some n), rest)

/-- Read ranges as they are written. `fuel` is more than the length. -/
def readAll : (fuel : Nat) → Bytes → Except RangeFault Ranges
  | 0, _ => .ok []
  | fuel + 1, text => do
    let (range, rest) ← readOne text
    if rest.isEmpty then return [range] else return range :: (← readAll fuel rest.tail)

/-- The ranges in order of their starts, those that overlap as one. -/
def merged (ranges : Ranges) : Ranges :=
  let sorted := ranges.mergeSort fun a b => a.1 ≤ b.1
  sorted.foldl (fun (done : Ranges) range =>
    match done.getLast? with
    | some (low, high) =>
      if high.all fun last => range.1 ≤ last then
        done.dropLast ++ [(low, high.bind fun a => range.2.map (max a))]
      else done ++ [range]
    | none => [range]) []

/-- The numbers from `start` on that are in none of the ranges. -/
def complement (start : Nat) : Ranges → Ranges
  | [] => [(start, none)]
  | (low, high) :: rest =>
    let before := if start < low then [(start, some (low - 1))] else []
    match high with
    | some high => before ++ complement (high + 1) rest
    | none => before

/-- Read a list of ranges. -/
def read (complementary : Bool) (text : Bytes) : Except RangeFault Ranges :=
  (readAll (text.length + 1) text).map fun ranges =>
    let ranges := merged ranges
    if complementary then complement 1 ranges else ranges

def contains (ranges : Ranges) (n : Nat) : Bool :=
  ranges.any fun (low, high) => low ≤ n && high.all (n ≤ ·)

def starts (ranges : Ranges) (n : Nat) : Bool :=
  ranges.any fun (low, _) => low = n

end Ranges

/-- How lines are cut. -/
structure Cutting where
  ranges : Ranges
  fields : Bool
  delimiter : UInt8 := 9
  output : Option Bytes := none
  onlyDelimited : Bool := false
  ending : UInt8 := newline

namespace Cutting

/-- The bytes of a line that are shown. -/
def bytes (c : Cutting) (line : Bytes) : Bytes :=
  let chosen := (line.zipIdx 1).filter fun (_, n) => c.ranges.contains n
  (chosen.foldl (fun (shown : List Bytes) (b, n) =>
    let gap : Bytes := match c.output with
      | some gap => if !shown.isEmpty && c.ranges.starts n then gap else []
      | none => []
    (gap ++ [b]) :: shown) []).reverse.flatten

/-- The fields of a line that are shown, if the line is shown at all. -/
def fieldsOf (c : Cutting) (line : Bytes) : Option Bytes :=
  if !line.contains c.delimiter && c.delimiter != c.ending then if c.onlyDelimited then none else some line
  else
    let chosen := ((line.splitOn c.delimiter).zipIdx 1).filter fun (_, n) => c.ranges.contains n
    some ((chosen.map (·.1)).intersperse (c.output.getD [c.delimiter])).flatten

/-- What is shown of an input. -/
def shown (c : Cutting) (data : Bytes) : Bytes :=
  let lines := if c.fields && c.delimiter = c.ending && !data.isEmpty then [Lines.bare c.ending data]
    else Lines.texts c.ending data
  let cut (line : Bytes) : Option Bytes := if c.fields then c.fieldsOf line else some (c.bytes line)
  (lines.filterMap cut).flatMap (· ++ [c.ending])

end Cutting

/-- Shows parts of lines. -/
def cut : Utility := withOptions
  { letters := "nsz", valued := "bcdfω",
    words := [("bytes", 'b'), ("characters", 'c'), ("delimiter", 'd'), ("fields", 'f'), ("only-delimited", 's'),
      ("output-delimiter", 'ω'), ("complement", 'κ'), ("zero-terminated", 'z')] } 1 fun g => do
  let refuse (text : Bytes) : StateM Scene Nat := do
    complainOfUse text
    return 1
  let lists := g.options.filter fun (letter, _) => letter = 'b' || letter = 'c' || letter = 'f'
  match lists with
  | _ :: _ :: _ => refuse (Text.bytes "only one list may be specified")
  | lists =>
    if (g.values 'd').any fun word => 1 < word.length then
      refuse (Text.bytes "the delimiter must be a single character")
    else
      match lists with
      | [] => refuse (Text.bytes "you must specify a list of bytes, characters, or fields")
      | (letter, list) :: _ =>
        let fields : Bool := letter = 'f'
        if !fields && g.has 'd' then
          refuse (Text.bytes "an input delimiter may be specified only when operating on fields")
        else if !fields && g.has 's' then
          refuse (Text.bytes "suppressing non-delimited lines makes sense\n\tonly when operating on fields")
        else
          match Ranges.read (g.has 'κ') list with
          | .error fault => refuse (fault.text fields)
          | .ok ranges =>
            let word (letter : Char) : Option Bytes :=
              (g.value? letter).map fun word => if word.isEmpty then [0] else word
            let c : Cutting :=
              { ranges := ranges, fields := fields, delimiter := ((word 'd').bind List.head?).getD 9
                output := word 'ω', onlyDelimited := g.has 's', ending := Lines.ending g }
            Inputs.forAll g.operands 1 fun _ data => put (c.shown data)

/-! ## paste -/

/-- Read the delimiters for `paste`; one may be nothing. A backslash at the end has nothing to stand for. -/
def readDelimiters : Bytes → Option (List Bytes)
  | [] => some []
  | 92 :: rest =>
    match rest with
    | [] => none
    | b :: rest =>
      let meant : Bytes := match Char.ofNat b.toNat with
        | '0' => []
        | 'b' => [8]
        | 'f' => [12]
        | 'n' => [10]
        | 'r' => [13]
        | 't' => [9]
        | 'v' => [11]
        | _ => [b]
      (readDelimiters rest).map (meant :: ·)
  | b :: rest => (readDelimiters rest).map ([b] :: ·)

/-- Lines with delimiters between them, which are used in turn. -/
def pasted (delimiters : List Bytes) (lines : List Bytes) : Bytes :=
  match lines with
  | [] => []
  | first :: rest =>
    first ++ rest.zipIdx.flatMap fun (line, n) => (delimiters[n % delimiters.length]?).getD [] ++ line

/-- The next line of each stream, and what is left of each. A stream may stand in several places. -/
def nextRow : List Nat → List (Nat × List Bytes) → List (Option Bytes) × List (Nat × List Bytes)
  | [], left => ([], left)
  | n :: places, left =>
    let lines := (left.lookup n).getD []
    let (row, left) := nextRow places (left.map fun (m, rest) => (m, if m = n then rest.tail else rest))
    (lines.head? :: row, left)

/-- All rows. `fuel` is more than the number of lines. -/
def rows (places : List Nat) : (fuel : Nat) → List (Nat × List Bytes) → List (List Bytes)
  | 0, _ => []
  | fuel + 1, left =>
    let (row, left) := nextRow places left
    if row.all Option.isNone then [] else row.map (·.getD []) :: rows places fuel left

/-- Puts the lines of files side by side. -/
def paste : Utility := withOptions
  { letters := "sz", valued := "d", words := [("delimiters", 'd'), ("serial", 's'), ("zero-terminated", 'z')] } 1
  fun g => do
    let list := (g.value? 'd').getD [9]
    match readDelimiters list with
    | none =>
      complain (Text.bytes "delimiter list ends with an unescaped backslash: " ++ list)
      return 1
    | some delimiters =>
      let delimiters := if delimiters.isEmpty then [[]] else delimiters
      let ending := Lines.ending g
      let paths := Inputs.paths g.operands
      if g.has 's' then
        Inputs.forAll g.operands 1 fun _ data => put (pasted delimiters (Lines.texts ending data) ++ [ending])
      else
        -- Standard input is one stream, however often it is named
        let places := paths.zipIdx.map fun (path, n) => if Inputs.isStandard path then 0 else n + 1
        let missing ← paths.findM? fun path => do
          match (← get).openFile path .read with
          | .ok _ => return false
          | .error _ => return !Inputs.isStandard path
        match missing with
        | some path =>
          match (← get).openFile path .read with
          | .error fault => complainOf path fault
          | .ok _ => pure ()
          return 1
        | none =>
          let mut left : List (Nat × List Bytes) := []
          let mut status := 0
          for (path, n) in paths.zip places do
            if (left.lookup n).isNone then
              match ← Inputs.load path with
              | .ok data => left := left ++ [(n, Lines.texts ending data)]
              | .error fault =>
                complainOf path fault
                status := 1
                left := left ++ [(n, [])]
          let count := left.foldl (fun most (_, lines) => max most lines.length) 0
          for row in rows places (count + 1) left do
            put (pasted delimiters row ++ [ending])
          return status

/-! ## fold -/

/-- How lines are broken. -/
structure Folding where
  width : Nat
  byBytes : Bool
  atBlanks : Bool

namespace Folding

/-- The column behind a byte. -/
def advance (f : Folding) (column : Nat) (b : UInt8) : Nat :=
  if f.byBytes then column + 1
  else
    match b with
    | 8 => column - 1
    | 13 => 0
    | 9 => column + 8 - column % 8
    | _ => column + 1

/-- The column behind some bytes. -/
def columnOf (f : Folding) (text : Bytes) : Nat :=
  text.foldl f.advance 0

/-- Add a byte to the part of a line that is not shown yet, latest byte first; what is shown by that, and the part now.
`fuel` is more than the length of the part. -/
def add (f : Folding) (b : UInt8) : (fuel : Nat) → (reversed : Bytes) → (column : Nat) → Bytes × Bytes × Nat
  | 0, reversed, column => ([], b :: reversed, column)
  | fuel + 1, reversed, column =>
    let isBlank (b : UInt8) : Bool := b = byte ' ' || b = 9
    let next := f.advance column b
    if next ≤ f.width then ([], b :: reversed, next)
    else
      let after := reversed.takeWhile fun b => !isBlank b
      if f.atBlanks && after.length < reversed.length then
        let (shown, rest) := add f b fuel after (f.columnOf after.reverse)
        ((reversed.drop after.length).reverse ++ newline :: shown, rest)
      else if reversed.isEmpty then ([], [b], next)
      else
        let (shown, rest) := add f b fuel [] 0
        (reversed.reverse ++ newline :: shown, rest)

/-- A line in pieces, without what ends it. -/
def line (f : Folding) (text : Bytes) : Bytes :=
  let (shown, reversed, _) := text.foldl (fun (shown, reversed, column) b =>
    let (more, rest) := f.add b (reversed.length + 2) reversed column
    (if more.isEmpty then shown else more :: shown, rest)) (([] : List Bytes), ([] : Bytes), 0)
  shown.reverse.flatten ++ reversed.reverse

/-- A text with its lines in pieces. -/
def text (f : Folding) (data : Bytes) : Bytes :=
  (Lines.split newline data).flatMap fun line =>
    f.line (Lines.bare newline line) ++ if Lines.isEnded newline line then [newline] else []

end Folding

/-- The number of columns that an option asks for. -/
def foldWidth (letter : Char) (word : Bytes) : Except SizeFault Nat :=
  let word := if letter.isDigit then byte letter :: word else word
  (Size.readBetween false "" 1 (Size.limit - 9) word).map Int.toNat

def checkFold : OptionCheck := fun letter word =>
  if letter.isDigit || letter = 'w' then
    match foldWidth letter word with
    | .ok _ => none
    | .error fault =>
      let shown := if letter.isDigit then byte letter :: word else word
      some (complain (Text.bytes "invalid number of columns: " ++ Quoted.curly shown ++ Text.bytes fault.tail))
  else none

/-- Breaks long lines. -/
def fold : Utility := withCheckedOptions
  { letters := "bs", valued := "w", optional := "0123456789",
    words := [("bytes", 'b'), ("spaces", 's'), ("width", 'w')] } 1 checkFold fun g => do
  let widths := g.options.filterMap fun (letter, word) =>
    if letter.isDigit || letter = 'w' then (foldWidth letter word).toOption else none
  let f : Folding := { width := widths.getLastD 80, byBytes := g.has 'b', atBlanks := g.has 's' }
  Inputs.forAll g.operands 1 fun _ data => put (f.text data)

/-! ## Tabs -/

/-- Where tabs lead to: the stops, and what goes on behind the last of them. -/
structure TabStops where
  stops : List Nat := []
  /-- Behind the stops, each multiple of this is one. -/
  multiples : Option Nat := none
  /-- Behind the stops, they go on in steps of this. -/
  steps : Option Nat := none
deriving DecidableEq, Repr

namespace TabStops

/-- Where reading a list of stops stands: what was read, the number being read, and what it is meant for. -/
structure Draft where
  tabs : TabStops := {}
  digits : Bytes := []
  mark : Option Char := none

/-- Put the number that was read where it belongs. -/
def Draft.close (d : Draft) : Except Bytes Draft :=
  let only (c : String) : Except Bytes Draft :=
    .error (Text.bytes ("'" ++ c ++ "' specifier only allowed with the last value"))
  if d.digits.isEmpty then .ok d
  else
    let n := number d.digits
    let d := { d with digits := [] }
    if 0xffffffffffffffff < n then .error (Text.bytes "tab stop is too large " ++ Quoted.curly (decimal n))
    else
      match d.mark with
      | some '/' =>
        if d.tabs.multiples.isSome then only "/" else .ok { d with tabs := { d.tabs with multiples := some n } }
      | some _ => if d.tabs.steps.isSome then only "+" else .ok { d with tabs := { d.tabs with steps := some n } }
      | none => .ok { d with tabs := { d.tabs with stops := d.tabs.stops ++ [n] } }

/-- Read a list of stops. -/
def readFrom (d : Draft) : Bytes → Except Bytes Draft
  | [] => d.close
  | b :: rest =>
    if isDigit b then readFrom { d with digits := d.digits ++ [b] } rest
    else if b = byte ',' || b = byte ' ' || b = 9 then d.close.bind fun d => readFrom d rest
    else if b = byte '/' || b = byte '+' then
      let mark := Char.ofNat b.toNat
      if !d.digits.isEmpty then
        .error (Text.bytes ("'" ++ mark.toString ++ "' specifier not at start of number: ") ++ Quoted.curly (b :: rest))
      else readFrom { d with mark := some mark } rest
    else .error (Text.bytes "tab size contains invalid character(s): " ++ Quoted.curly (b :: rest))

/-- What is wrong with stops, the first of them first. -/
def stopFault? (before : Nat) : List Nat → Option String
  | [] => none
  | stop :: rest =>
    if stop = 0 then some "tab size cannot be 0"
    else if stop ≤ before then some "tab sizes must be ascending"
    else stopFault? stop rest

/-- What is wrong with stops as a whole. -/
def fault? (t : TabStops) : Option String :=
  match stopFault? 0 t.stops with
  | some text => some text
  | none => if t.multiples.isSome && t.steps.isSome then some "'/' specifier is mutually exclusive with '+'" else none

/-- Read the lists of stops that options give. -/
def read (words : List Bytes) : Except Bytes TabStops :=
  words.foldlM (fun (t : TabStops) word => (readFrom { tabs := t } word).map (·.tabs)) {}

/-- The column that a tab leads to, if there is a stop. -/
def next? (t : TabStops) (column : Nat) : Option Nat :=
  let multiple (n : Nat) : Nat := column + n - column % n
  let size := if t.multiples = some 0 then none else t.multiples
  let step := if t.steps = some 0 then none else t.steps
  match t.stops with
  | [] => some (multiple ((size.or step).getD 8))
  | first :: more =>
    if more.isEmpty && size.isNone && step.isNone then some (multiple first)
    else
      match (first :: more).find? (column < ·) with
      | some stop => some stop
      | none =>
        match size, step with
        | some n, _ => some (multiple n)
        | none, some n => some (column + n - (column - more.getLastD first) % n)
        | none, none => none

/-- The lists that options give. -/
def wordsOf (g : Given) : List Bytes :=
  g.options.filterMap fun (letter, value) =>
    if letter.isDigit then some (byte letter :: value) else if letter = 't' then some value else none

/-- Run on what was read of options and the stops they give: what is wrong with a list of stops counts first, then what
is wrong with the options, then what is wrong with the stops as a whole. -/
def within (reading : Given × Option OptionFault) (act : Given → TabStops → StateM Scene Nat) : StateM Scene Nat := do
  match read (wordsOf reading.1) with
  | .error text =>
    complain text
    return 1
  | .ok t =>
    withReading (OptionTable.ofReading reading) 1 fun g => do
      match t.fault? with
      | some text =>
        complainText text
        return 1
      | none => act g t

end TabStops

/-- Where changing tabs into blanks stands on a line. -/
structure Expanding where
  column : Nat := 0
  goesOn : Bool := true
  shown : List Bytes := []

/-- Go on with one byte. -/
def Expanding.add (t : TabStops) (whole : Bool) (e : Expanding) (b : UInt8) : Expanding :=
  if b = newline then { shown := [b] :: e.shown }
  else if !e.goesOn then { e with shown := [b] :: e.shown }
  else if b = 9 then
    let column := (t.next? e.column).getD (e.column + 1)
    { e with column := column, shown := List.replicate (column - e.column) (byte ' ') :: e.shown }
  else
    { column := if b = 8 then e.column - 1 else e.column + 1
      goesOn := whole || b = byte ' '
      shown := [b] :: e.shown }

/-- Changes tabs into blanks. -/
def expand : Utility := fun args =>
  let table : OptionTable :=
    { letters := "i", valued := "t", optional := "0123456789", words := [("initial", 'i'), ("tabs", 't')] }
  TabStops.within (table.readFrom false {} args) fun g t => do
    let mut status := 0
    let mut e : Expanding := {}
    for path in Inputs.paths g.operands do
      match ← Inputs.load path with
      | .ok data =>
        e := data.foldl (Expanding.add t (!g.has 'i')) { e with shown := [] }
        put e.shown.reverse.flatten
      | .error fault =>
        complainOf path fault
        status := 1
    return status

/-- Where changing blanks into tabs stands on a line. -/
structure Unexpanding where
  column : Nat := 0
  goesOn : Bool := true
  /-- Blanks of which it is not known yet whether a tab takes their place. -/
  pending : Bytes := []
  /-- The first of them stands right in front of a stop. -/
  oneBefore : Bool := false
  afterBlank : Bool := true
  shown : List Bytes := []

namespace Unexpanding

/-- Show what is pending, and then a byte. -/
def release (u : Unexpanding) (b : UInt8) : Unexpanding :=
  let pending := if 1 < u.pending.length && u.oneBefore then 9 :: u.pending.tail else u.pending
  { u with pending := [], oneBefore := if u.pending.isEmpty then u.oneBefore else false,
           shown := [b] :: pending :: u.shown }

/-- Go on with one byte. -/
def add (t : TabStops) (whole : Bool) (u : Unexpanding) (b : UInt8) : Unexpanding :=
  if b = newline then { shown := (u.release b).shown }
  else if !u.goesOn then { u with shown := [b] :: u.shown }
  else if b = byte ' ' || b = 9 then
    match t.next? u.column with
    | none => { (u.release b) with goesOn := false }
    | some next =>
      let replaced (column : Nat) : Unexpanding :=
        let kept : Bytes := if u.oneBefore then (if u.pending.isEmpty then [] else [9]) else []
        let u := { u with column := column, pending := kept }
        { (u.release 9) with afterBlank := true }
      if b = 9 then replaced next
      else if u.afterBlank && u.column + 1 = next then replaced next
      else
        { u with column := u.column + 1, pending := u.pending ++ [b], afterBlank := true
                 oneBefore := u.oneBefore || u.column + 1 = next }
  else
    let column := if b = 8 then u.column - 1 else u.column + 1
    { (u.release b) with column := column, afterBlank := false, goesOn := whole }

end Unexpanding

/-- The lists of stops that options give. The digits of a single stop are letters of their own, and it is not ended by
a list that stands among them. -/
def lateStops (digits : Bytes) : List (Char × Bytes) → List Bytes
  | [] => if digits.isEmpty then [] else [digits]
  | (letter, word) :: rest =>
    if letter.isDigit then lateStops (digits ++ [byte letter]) rest
    else if letter = ',' then (if digits.isEmpty then [] else [digits]) ++ lateStops [] rest
    else if letter = 't' then word :: lateStops digits rest
    else lateStops digits rest

/-- Changes blanks into tabs. -/
def unexpand : Utility := fun args =>
  let table : OptionTable :=
    { letters := "aφ0123456789,", valued := "t", words := [("all", 'a'), ("first-only", 'φ'), ("tabs", 't')] }
  let (g, fault?) := table.readFrom false {} args
  let stops := (lateStops [] g.options).map fun word => ('t', word)
  let whole := g.has 'a' || g.has 't'
  let others := g.options.filter fun (letter, _) => letter = 'a' || letter = 'φ'
  let g := { g with options := stops ++ others ++ if whole then [('a', [])] else [] }
  TabStops.within (g, fault?) fun g t => do
    let whole := g.has 'a' && !g.has 'φ'
    let mut status := 0
    let mut u : Unexpanding := {}
    for path in Inputs.paths g.operands do
      match ← Inputs.load path with
      | .ok data =>
        u := data.foldl (Unexpanding.add t whole) { u with shown := [] }
        put u.shown.reverse.flatten
      | .error fault =>
        complainOf path fault
        status := 1
    put u.pending
    return status

/-! ## rev -/

/-- Turns lines round. -/
def rev : Utility := withOptions { letters := "0hV", words := [("zero", '0'), ("help", 'h'), ("version", 'V')] } 1
  fun g => do
    let ending : UInt8 := if g.has '0' then 0 else newline
    forOperands (Inputs.paths g.operands) fun path => do
      -- A dash is a name like any other here
      let opened ← if g.operands.isEmpty then Inputs.stream path
        else Inputs.stream (if Inputs.isStandard path then Text.bytes "./-" else path)
      match opened with
      | .error fault =>
        complain (Text.bytes "cannot open " ++ path ++ Text.bytes (": " ++ fault.text))
        return 1
      | .ok number =>
        match ← Inputs.drain number none with
        | .error fault =>
          complain (path ++ Text.bytes (": " ++ fault.text))
          return 1
        | .ok data =>
          put ((Lines.split ending data).flatMap fun line =>
            (Symbols.ofBytes (Lines.bare ending line)).reverse.flatMap Symbol.bytes ++
              if Lines.isEnded ending line then [ending] else [])
          return 0

end Columns

end LineShell.Host
