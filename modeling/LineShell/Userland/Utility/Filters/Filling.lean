import LineShell.Userland.Utility.Inputs

/-!
# Filling paragraphs

`fmt` fills the lines of paragraphs anew. A line may end behind each word; each end has a price, and the ends chosen
for a paragraph are the cheapest together.

- `Filling.Paragraph.breaks` prices the lines of a paragraph from its last word on;
- `Filling.Filler` is how far an input is read and shown.
-/

namespace LineShell.Host

namespace Filling

/-- How paragraphs are filled. -/
structure Style where
  /-- The first line of a paragraph is indented as it was, all others as the second. -/
  crown : Bool := false
  /-- As `crown`, and the two have to be indented in different ways. -/
  tagged : Bool := false
  /-- Lines are broken only, and never joined. -/
  breaksOnly : Bool := false
  /-- One blank between words, two behind sentences. -/
  uniform : Bool := false
  /-- The blanks in front of the mark that lines start with. -/
  lead : Nat := 0
  /-- What lines start with, without blanks at its ends. -/
  mark : Bytes := []
  /-- How long the mark is with the blanks behind it. -/
  markRoom : Nat := 0
  width : Nat := 75
  goal : Nat := 70
deriving DecidableEq, Repr

/-- A word with what counts when a line is to end near it. -/
structure Word where
  text : Bytes
  /-- The blanks behind it. -/
  space : Nat := 1
  /-- It starts with a bracket or a quote. -/
  opens : Bool := false
  /-- It ends with a sign. -/
  signed : Bool := false
  /-- It ends with the sign that ends a sentence. -/
  stops : Bool := false
  /-- A sentence ends with it. -/
  ends : Bool := false
deriving DecidableEq, Repr, Inhabited

/-- A word by its bytes alone. -/
def Word.ofText (text : Bytes) : Word :=
  let within (signs : String) (b : UInt8) : Bool := (signs.toList.map byte).contains b
  let isSign (b : UInt8) : Bool :=
    33 ≤ b && b ≤ 126 && !isDigit b && !(65 ≤ b && b ≤ 90) && !(97 ≤ b && b ≤ 122)
  let fromEnd := match text with
    | [] => []
    | first :: rest => rest.reverse.dropWhile (within ")]'\"") ++ [first]
  { text := text, opens := text.head?.any (within "(['\x60\""), signed := text.getLast?.any isSign
    stops := fromEnd.head?.any (within ".?!") }

/-! ## Prices -/

/-- The words of a paragraph, how its first line and the others are indented, and how long the line before it is. -/
structure Paragraph where
  words : Array Word
  first : Nat
  others : Nat
  before : Nat

/-- The best line that starts with a word: the word that the next line starts with, how long it is, and the price from
here to the end. -/
structure Break where
  next : Nat
  length : Nat
  price : Int
deriving Inhabited

def square (n : Int) : Int :=
  n * n

/-- The price of a line that is so much too short or too long. -/
def shortPrice (n : Int) : Int :=
  square (n * 10)

/-- The price of two lines that differ so much. -/
def raggedPrice (n : Int) : Int :=
  shortPrice n / 2

namespace Paragraph

def wordAt (p : Paragraph) (n : Nat) : Word :=
  p.words.getD n default

/-- The price of a line that starts with a word. -/
def startPrice (p : Paragraph) (n : Nat) : Int :=
  let w := p.wordAt n
  let last := p.wordAt (n - 1)
  let behind : Int :=
    if n = 0 then 0
    else if last.stops then (if last.ends then -square 50 else square 600)
    else if last.signed then -square 40
    else if 1 < n && (p.wordAt (n - 2)).ends then square 200 / (last.text.length + 2)
    else 0
  square 70 + behind + if w.opens then -square 40 else if w.ends then square 150 / (w.text.length + 2) else 0

/-- The price of a line that is followed by one that starts with a word. -/
def linePrice (p : Paragraph) (goal : Nat) (later : List Break) (length : Nat) : Int :=
  match later with
  | [] => 0
  | line :: _ =>
    shortPrice ((goal : Int) - length) +
      if line.next < p.words.size then raggedPrice ((length : Int) - line.length) else 0

/-- The better of two lines: the one known, and the one from `start` up to `next`. -/
def better (p : Paragraph) (s : Style) (start : Nat) (best : Option Break) (next length : Nat) (later : List Break) :
    Option Break :=
  let ragged : Int := if start = 0 && 0 < p.before then raggedPrice ((length : Int) - p.before) else 0
  let price := p.linePrice s.goal later length + ragged + (later.head?.map (·.price)).getD 0
  if best.all fun old => price < old.price then some { next, length, price } else best

/-- The best of the lines that start with the word `start` and end in front of `next` or further on. `later` are the
lines from `next` on. -/
def cheapest (p : Paragraph) (s : Style) (start : Nat) (best : Option Break) (next length : Nat) :
    (later : List Break) → Option Break
  | [] => p.better s start best next length []
  | line :: rest =>
    let best := p.better s start best next length (line :: rest)
    let length := length + (p.wordAt (next - 1)).space + (p.wordAt next).text.length
    if length < s.width then p.cheapest s start best (next + 1) length rest else best

/-- The best lines that start with the last `count` words, first one first. -/
def linesFrom (p : Paragraph) (s : Style) : (count : Nat) → List Break
  | 0 => []
  | count + 1 =>
    let later := linesFrom p s count
    let start := p.words.size - (count + 1)
    let length := (if start = 0 then p.first else p.others) + (p.wordAt start).text.length
    match p.cheapest s start none (start + 1) length later with
    | some line => { line with price := line.price + p.startPrice start } :: later
    | none => later

/-- For each word the best line that starts with it. -/
def breaks (p : Paragraph) (s : Style) : Array Break :=
  (linesFrom p s p.words.size).toArray

/-- The words that lines start with, from one on, before `stop`. -/
def startsFrom (lines : Array Break) (stop : Nat) : (fuel : Nat) → Nat → List Nat
  | 0, _ => []
  | fuel + 1, start =>
    if stop ≤ start then [] else start :: startsFrom lines stop fuel (lines.getD start default).next

end Paragraph

/-! ## Reading and showing -/

/-- How far an input is read and shown. -/
structure Filler where
  /-- What is not read yet. -/
  rest : Bytes
  /-- The column that the rest starts at. -/
  column : Nat := 0
  /-- How far the mark of the line is indented. -/
  markIndent : Nat := 0
  /-- There was a tab somewhere. -/
  tabs : Bool := false
  /-- How far the marks of the paragraph, its first line and its other lines are indented. -/
  indent : Nat := 0
  firstIndent : Nat := 0
  otherIndent : Nat := 0
  /-- The words read and not shown yet, and how many bytes they are. -/
  words : Array Word := #[]
  size : Nat := 0
  /-- How long the last line shown is. -/
  lastLength : Nat := 0
  /-- What is shown, latest first, and the column it ends at. -/
  shown : List Bytes := []
  outColumn : Nat := 0

namespace Filler

/-- Whether a line ends here. -/
def atEnd (f : Filler) : Bool :=
  f.rest.head?.all (· == newline)

/-- Go past blanks and tabs. -/
def pastBlanks (f : Filler) : Filler :=
  let blanks := f.rest.takeWhile fun b => b = byte ' ' || b = 9
  { f with
    rest := f.rest.drop blanks.length
    tabs := f.tabs || blanks.contains 9
    column := blanks.foldl (fun column b => if b = 9 then (column / 8 + 1) * 8 else column + 1) f.column }

/-- Go past the start of a line: its blanks and its mark. -/
def pastMark (s : Style) (f : Filler) : Filler :=
  let f := { f with column := 0 }.pastBlanks
  if s.mark.isEmpty then { f with markIndent := min s.lead f.column }
  else
    let same := ((s.mark.zip f.rest).takeWhile fun (a, b) => a = b).length
    let g := { f with markIndent := f.column, column := f.column + same, rest := f.rest.drop same }
    if same < s.mark.length then g else g.pastBlanks

def write (text : Bytes) (f : Filler) : Filler :=
  { f with shown := text :: f.shown, outColumn := f.outColumn + text.length }

/-- Show blanks up to a column, with tabs where the input has some. -/
def showUpTo (target : Nat) (f : Filler) : Filler :=
  let stop := target / 8 * 8
  let f := if f.tabs && f.outColumn + 1 < stop then
      { f with shown := List.replicate (stop / 8 - f.outColumn / 8) 9 :: f.shown, outColumn := stop }
    else f
  f.write (List.replicate (target - f.outColumn) (byte ' '))

def endLine (f : Filler) : Filler :=
  { f with shown := [newline] :: f.shown }

/-- Show one line of words. -/
def showLine (s : Style) (indent : Nat) (words : List Word) (f : Filler) : Filler :=
  let f := { f with outColumn := 0 }
  let f := ((f.showUpTo f.indent).write s.mark).showUpTo indent
  let f := words.dropLast.foldl (fun f w => (f.write w.text).showUpTo (f.outColumn + w.text.length + w.space)) f
  let f := (words.getLast?.map fun w => f.write w.text).getD f
  { f with lastLength := f.outColumn }.endLine

def paragraph (f : Filler) : Paragraph :=
  { words := f.words, first := f.firstIndent, others := f.otherIndent, before := f.lastLength }

/-- Show the lines that start before a word. -/
def showUntil (s : Style) (lines : Array Break) (stop : Nat) (f : Filler) : Filler :=
  (Paragraph.startsFrom lines stop f.words.size 0).foldl (fun f start =>
    let words := (f.words.extract start (lines.getD start default).next).toList
    f.showLine s (if start = 0 then f.firstIndent else f.otherIndent) words) f

/-- Whether the line at hand belongs to the paragraph. -/
def goesOn (s : Style) (f : Filler) : Bool :=
  f.markIndent = f.indent && f.markIndent + s.markRoom ≤ f.column && !f.atEnd

/-- How far the other lines of a paragraph are indented, as far as is known. -/
def withOtherIndent (s : Style) (same : Bool) (f : Filler) : Filler :=
  if s.breaksOnly then { f with otherIndent := f.firstIndent }
  else if s.crown then { f with otherIndent := if same then f.column else f.firstIndent }
  else if s.tagged then
    if same && f.column != f.firstIndent then { f with otherIndent := f.column }
    else if f.otherIndent = f.firstIndent then { f with otherIndent := if f.firstIndent = 0 then 3 else 0 }
    else f
  else { f with otherIndent := f.firstIndent }

/-- Show the start of a paragraph that is too long to be looked at as a whole: up to the line whose end costs least. -/
def relieve (s : Style) (f : Filler) : Filler :=
  let f := f.withOtherIndent s true
  let lines := f.paragraph.breaks s
  let price (n : Nat) : Int := (lines.getD n default).price
  let starts := (Paragraph.startsFrom lines f.words.size f.words.size 0).tail
  let (split, _) := starts.foldl (fun ((split, best) : Nat × Option Int) n =>
    let cost := price n - if (lines.getD n default).next < f.words.size then price (lines.getD n default).next else 0
    let (split, best) := if best.all (cost < ·) then (n, some cost) else (split, best)
    (split, best.map (· + 9))) (f.words.size, none)
  let f := f.showUntil s lines split
  let left := f.words.extract split f.words.size
  { f with words := left, size := left.foldl (fun n w => n + w.text.length) 0 }

/-- A paragraph may hold so many words, and so many bytes of words, before its start is shown. -/
def wordLimit : Nat := 998

def sizeLimit : Nat := 5000

/-- Whether a byte stands between words. -/
def isSpace (b : UInt8) : Bool :=
  b = byte ' ' || (9 ≤ b && b ≤ 13)

/-- One more word, from its bytes, latest first. -/
def push (f : Filler) (pending : Bytes) : Filler :=
  { f with words := f.words.push (Word.ofText pending.reverse), size := f.size + pending.length }

/-- Read a word, of which some bytes may be read already; they stand in `pending`, latest first. -/
def readWord (s : Style) (f : Filler) (pending : Bytes) : Bytes → Filler
  | [] => { f with rest := [] }.push pending
  | b :: rest =>
    if isSpace b && !pending.isEmpty then { f with rest := b :: rest }.push pending
    else
      let (f, pending) :=
        if f.size + pending.length < sizeLimit then (f, pending)
        else if f.words.isEmpty then (f.write pending.reverse, [])
        else (f.relieve s, pending)
      readWord s { f with column := f.column + 1 } (b :: pending) rest

/-- Read the words of a line. `fuel` is more than what is left to read. -/
def readWords (s : Style) : (fuel : Nat) → Filler → Filler
  | 0, f => f
  | fuel + 1, f =>
    let start := f.readWord s [] f.rest
    let f := start.pastBlanks
    let gap := f.column - start.column
    let closed (w : Word) : Word :=
      let ends := f.rest.isEmpty || (w.stops && (f.atEnd || 1 < gap))
      { w with ends := ends, space := if f.atEnd || s.uniform then (if ends then 2 else 1) else gap }
    let f := { f with words := f.words.modify (f.words.size - 1) closed }
    let f := if f.words.size ≤ wordLimit then f
      else
        let last := f.words.back?.toArray
        let g := { f with words := f.words.pop }.relieve s
        { g with words := g.words ++ last, size := g.size + last.foldl (fun n w => n + w.text.length) 0 }
    if f.atEnd then f else readWords s fuel f

/-- Read a line and the start of the next one. -/
def readLine (s : Style) (f : Filler) : Filler :=
  let f := f.readWords s (f.rest.length + 1)
  { f with rest := f.rest.tail }.pastMark s

/-- Read lines as long as they belong to the paragraph. `fuel` is more than what is left to read. -/
def readLines (s : Style) : (fuel : Nat) → Filler → Filler
  | 0, f => f
  | fuel + 1, f => if f.goesOn s && f.column = f.otherIndent then readLines s fuel (f.readLine s) else f

/-- Read and show a paragraph. -/
def fill (s : Style) (f : Filler) : Filler :=
  let f := { f with indent := f.markIndent, firstIndent := f.column, words := #[], size := 0 }
  let f := f.readLine s
  let f := f.withOtherIndent s (f.goesOn s)
  let f :=
    if s.breaksOnly || (s.tagged && !s.crown && f.column = f.firstIndent) then f
    else f.readLines s (f.rest.length + 1)
  let f := { f with words := f.words.modify (f.words.size - 1) fun w => { w with stops := true, ends := true } }
  f.showUntil s (f.paragraph.breaks s) f.words.size

/-- Whether the line at hand is shown as it is: it is empty, or starts with something else than the mark. -/
def isForeign (s : Style) (f : Filler) : Bool :=
  f.atEnd || f.markIndent < s.lead || f.column < f.markIndent + s.markRoom

/-- Show a line as it is, without what ends it. -/
def copyLine (s : Style) (f : Filler) : Filler :=
  let text := f.rest.takeWhile (· != newline)
  let f := { f with outColumn := 0 }
  let f :=
    if f.markIndent < f.column || !f.atEnd then
      let f := f.showUpTo f.markIndent
      let f := f.write (s.mark.take (f.column - f.outColumn))
      let f := if f.atEnd then f else f.showUpTo f.column
      if f.rest.isEmpty && f.markIndent + s.mark.length ≤ f.column then f.endLine else f
    else f
  { f with shown := text :: f.shown, rest := f.rest.drop text.length }

/-- Read and show everything. `fuel` is more than what is left to read. -/
def fillAll (s : Style) : (fuel : Nat) → Filler → Filler
  | 0, f => f
  | fuel + 1, f =>
    if f.isForeign s then
      let f := f.copyLine s
      match f.rest with
      | [] => f
      | _ :: rest => fillAll s fuel ({ f.endLine with rest := rest }.pastMark s)
    else fillAll s fuel ({ f with lastLength := 0 }.fill s)

end Filler

/-- A text with its paragraphs filled. -/
def filled (s : Style) (data : Bytes) : Bytes :=
  let f := Filler.pastMark s { rest := data }
  (f.fillAll s (data.length + 2)).shown.reverse.flatten

/-! ## From the command line -/

/-- A width that is at most `limit`, or what is wrong with it. -/
def readWidth (limit : Nat) (word : Bytes) : Except Bytes Nat :=
  let wrong (reason : String) : Except Bytes Nat :=
    .error (Text.bytes "invalid width: " ++ Quoted.curly word ++ Text.bytes reason)
  match number? (match word with
    | 43 :: digits => digits
    | digits => digits) with
  | none => wrong ""
  | some n => if n ≤ limit then .ok n else wrong ": Numerical result out of range"

/-- What the options ask for. -/
def readStyle (g : Given) : Except Bytes Style := do
  let mark := (g.value? 'p').getD []
  let plain := mark.dropWhile (· == byte ' ')
  let bare := (plain.reverse.dropWhile (· == byte ' ')).reverse
  let base : Style :=
    { crown := g.has 'c', tagged := g.has 't', breaksOnly := g.has 's', uniform := g.has 'u'
      lead := mark.length - plain.length, mark := bare, markRoom := plain.length }
  let width? ← (g.value? 'w').mapM (readWidth 2500)
  let goal? ← (g.value? 'g').mapM (readWidth (width?.getD base.width))
  let width := width?.getD ((goal?.map (· + 10)).getD base.width)
  return { base with width := width, goal := goal?.getD (width * 187 / 200) }

def fmtTable : OptionTable :=
  { letters := "cstu", valued := "wpg", optional := "0123456789",
    words := [("crown-margin", 'c'), ("prefix", 'p'), ("split-only", 's'), ("tagged-paragraph", 't'),
      ("uniform-spacing", 'u'), ("width", 'w'), ("goal", 'g')] }

/-- Arguments with the width that the first may be as an option. -/
def modernFmt (args : List Bytes) : List Bytes :=
  match args with
  | (45 :: b :: more) :: rest => if isDigit b then (Text.bytes "-w" ++ b :: more) :: rest else args
  | _ => args

/-- Fills the lines of paragraphs. -/
def fmt : Utility := fun args => do
  withReading (fmtTable.read (modernFmt args)) 1 fun g => do
    match g.options.find? fun (letter, _) => letter.isDigit with
    | some (letter, _) =>
      complainOfUse (Text.bytes ("invalid option -- " ++ letter.toString ++
        "; -WIDTH is recognized only when it is the first\noption; use -w N instead"))
      return 1
    | none =>
      match readStyle g with
      | .error text =>
        complain text
        return 1
      | .ok s =>
        forOperands (Inputs.paths g.operands) fun path => do
          match ← Inputs.stream path with
          | .error fault =>
            complain (Text.bytes "cannot open " ++ Quoted.always path ++ Text.bytes (" for reading: " ++ fault.text))
            return 1
          | .ok number =>
            match ← Inputs.drain number none with
            | .error _ =>
              complainText "read error"
              return 1
            | .ok data =>
              put (filled s data)
              return 0

end Filling

end LineShell.Host
