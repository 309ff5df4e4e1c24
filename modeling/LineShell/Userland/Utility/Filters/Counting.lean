import LineShell.Userland.Regex.Fitting
import LineShell.Userland.Regex.Reading
import LineShell.Userland.Utility.Inputs
import LineShell.Userland.Utility.Print
import LineShell.Userland.Utility.Size

/-!
# Counting

`wc` counts the lines, words, characters and bytes of its inputs, `nl` numbers their lines.
-/

namespace LineShell.Host

namespace Filters

/-! ## wc -/

/-- What was counted. -/
structure Counts where
  lines : Nat := 0
  words : Nat := 0
  characters : Nat := 0
  bytes : Nat := 0
  longest : Nat := 0
deriving DecidableEq, Repr

namespace Counts

/-- Where counting stands: whether a word goes on, and how far the line reaches. -/
structure Progress where
  counts : Counts
  inWord : Bool := false
  column : Nat := 0

/-- Whether words are separated by a symbol, though it is no white space. -/
def isSolidSpace (x : Symbol) : Bool :=
  x = 0xa0 || x = 0x2007 || x = 0x202f || x = 0x2060

/-- Count one symbol. -/
def Progress.add (p : Progress) (x : Symbol) : Progress :=
  let c := { p.counts with bytes := p.counts.bytes + x.bytes.length }
  if x.isStray then { p with counts := c }
  else
    let c := { c with characters := c.characters + 1 }
    let separated (column : Nat) (c : Counts) : Progress := { counts := c, inWord := false, column := column }
    let lineOver (c : Counts) : Progress := separated 0 { c with longest := max c.longest p.column }
    match x with
    | 10 => lineOver { c with lines := c.lines + 1 }
    | 12 | 13 => lineOver c
    | 9 => separated (p.column / 8 * 8 + 8) c
    | 32 => separated (p.column + 1) c
    | 11 => separated p.column c
    | _ =>
      if x.isShown then
        let column := p.column + x.columns
        if x.isSpace || isSolidSpace x then separated column c
        else
          { counts := if p.inWord then c else { c with words := c.words + 1 }, inWord := true, column := column }
      else { p with counts := c }

/-- Count a text. -/
def ofBytes (data : Bytes) : Counts :=
  let p := (Symbols.ofBytes data).foldl Progress.add { counts := {} }
  { p.counts with longest := max p.counts.longest p.column }

/-- Both counts together. -/
def add (a b : Counts) : Counts where
  lines := a.lines + b.lines
  words := a.words + b.words
  characters := a.characters + b.characters
  bytes := a.bytes + b.bytes
  longest := max a.longest b.longest

/-- The counts that options ask for, in the order they are shown in. -/
def chosen (c : Counts) (g : Given) : List Nat :=
  let all : List (Char × Nat) :=
    [('l', c.lines), ('w', c.words), ('m', c.characters), ('c', c.bytes), ('L', c.longest)]
  let asked := all.filterMap fun (letter, n) => if g.has letter then some n else none
  if asked.isEmpty then [c.lines, c.words, c.bytes] else asked

end Counts

/-- The size of the file that an input is, if it is one that holds bytes. -/
def sizeOfFile (s : Scene) (path : Bytes) : Option (Option Nat) :=
  if Inputs.isStandard path then
    match s.stream? 0 with
    | some (_, .input) => some (some (s.commons.passed + s.commons.input.length))
    | some (_, .file id ..) =>
      match s.disk.node? id with
      | some (.file content _) => some (some content.size)
      | _ => some none
    | some _ => some none
    | none => none
  else
    (s.find? path).map fun
      | .file content _ => some content.size
      | .report _ => some 0
      | .tool name => some (Node.tool name).size
      | _ => none

/-- The width of the columns: wide enough for the sizes of the files, and wider if something else is among them. -/
def columnWidth (s : Scene) (paths : List Bytes) (columns : Nat) : Nat :=
  if paths.length = 1 && columns = 1 then 1
  else
    let found := paths.filterMap (sizeOfFile s)
    let total := (found.filterMap id).foldl (· + ·) 0
    max (if found.all Option.isSome then 1 else 7) (decimal total).length

/-- How many bytes are left of an input that need not be read to know that; it stays where it is unless its size fills
whole pages. -/
def bytesLeft (number : Nat) : StateM Scene (Option Nat) := do
  let s ← get
  let found : Option (Nat × Nat) := match s.commons.streams[number]? with
    | some .input => some (s.commons.passed + s.commons.input.length, s.commons.passed)
    | some (.file id offset true _ _) =>
      match s.disk.node? id with
      | some (.file content _) => some (content.size, offset)
      | _ => none
    | _ => none
  match found with
  | none => return none
  | some (size, offset) =>
    if size % 4096 = 0 then
      -- Such a file is read from its last page on, counted from where it stands
      let last := size - size % 4097
      if offset < last then
        set (s.advance number (max (offset + last) size - offset))
        return some (last - offset + (size - min size (offset + last)))
      else
        set (s.advance number (size - offset))
        return some (size - offset)
    else return some (size - offset)

/-- The names that a file holds, each ended by a NUL but for the last. -/
def namesIn (data : Bytes) : List Bytes :=
  Lines.texts 0 data

/-- The operands to count, from a file of names if that is asked for; `none` if they cannot be had, which was
complained of. -/
def countedNames (g : Given) : StateM Scene (Option (List Bytes)) := do
  match g.value? 'ζ', g.operands with
  | none, operands => return some operands
  | some _, extra :: _ =>
    complain (Text.bytes "extra operand " ++ Quoted.always extra)
    modify fun s => s.complain (Text.bytes "file operands cannot be combined with --files0-from\n")
    referToHelp
    return none
  | some path, [] =>
    match ← Inputs.stream path with
    | .error fault =>
      complain (Text.bytes "cannot open " ++ Quoted.always path ++ Text.bytes (" for reading: " ++ fault.text))
      return none
    | .ok number =>
      match ← Inputs.drain number none with
      | .error fault =>
        complain (Quoted.whereNeeded path ++ Text.bytes (": read error: " ++ fault.text))
        return none
      | .ok data => return some (namesIn data)

/-- What is wrong with a name to count. `file?` is the file of names it is from, `n` its place there. -/
def nameFault? (file? : Option Bytes) (n : Nat) (name : Bytes) : Option Bytes :=
  match file? with
  | some file =>
    if Inputs.isStandard file && Inputs.isStandard name then
      some (Text.bytes "when reading file names from stdin, no file name of " ++ Quoted.always name ++
        Text.bytes " allowed")
    else if name.isEmpty then
      some (Quoted.whereNeeded file ++ byte ':' :: decimal n ++ Text.bytes ": invalid zero-length file name")
    else none
  | none => if name.isEmpty then some (Text.bytes "invalid zero-length file name") else none

/-- Count one input, and show what was counted, if it can be opened. -/
def countOne (g : Given) (width : Nat) (name : Option Bytes) : StateM Scene (Counts × Nat) := do
  let columns := (Counts.chosen {} g).length
  let path := name.getD [byte '-']
  let label : Bytes := match name with
    | none => []
    | some name => byte ' ' :: if name.contains newline then Quoted.whereNeeded name else name
  let row (c : Counts) : StateM Scene Unit :=
    putLine ((((c.chosen g).map fun n => padLeft width (byte ' ') (decimal n)).intersperse [byte ' ']).flatten ++ label)
  let complaint (fault : Fault) : StateM Scene Unit := complainOf (name.getD (Text.bytes "standard input")) fault
  match ← Inputs.stream path with
  | .error fault =>
    complaint fault
    return ({}, 1)
  | .ok number =>
    let known ← if columns = 1 && g.has 'c' then bytesLeft number else pure none
    let counted ← match known with
      | some n => pure (.ok { bytes := n })
      | none => do pure ((← Inputs.drain number none).map Counts.ofBytes)
    match counted with
    | .ok c =>
      row c
      return (c, 0)
    | .error fault =>
      complaint fault
      row {}
      return ({}, 1)

/-- Counts lines, words, characters and bytes. -/
def wc : Utility := withOptions
  { letters := "lwmcL", valued := "ζ",
    words := [("lines", 'l'), ("words", 'w'), ("chars", 'm'), ("bytes", 'c'), ("max-line-length", 'L'),
      ("files0-from", 'ζ')] } 1 fun g => do
  match ← countedNames g with
  | none => return 1
  | some names =>
    let file? := g.value? 'ζ'
    if names.isEmpty && file?.isSome then return 0
    else
      let columns := (Counts.chosen {} g).length
      /- What comes from standard input is read name by name, so that nothing is known of the sizes. -/
      let s ← get
      let width := if file?.any Inputs.isStandard then 1 else columnWidth s (Inputs.paths names) columns
      if names.isEmpty then return (← countOne g width none).2
      else
        let mut total : Counts := {}
        let mut status := 0
        for (name, n) in names.zipIdx 1 do
          match nameFault? file? n name with
          | some text =>
            complain text
            status := 1
          | none =>
            let (c, code) ← countOne g width (some name)
            total := total.add c
            if code != 0 then status := code
        if 1 < names.length then
          putLine ((((total.chosen g).map fun n => padLeft width (byte ' ') (decimal n)).intersperse
            [byte ' ']).flatten ++ Text.bytes " total")
        return status

/-! ## nl -/

/-- Which lines are numbered. -/
inductive NumberingStyle
  | all
  | filled
  | none
  | fitting (m : Matcher)
deriving DecidableEq, Repr

/-- Read a style of numbering, or say what is wrong with it. -/
def NumberingStyle.read (word : Bytes) : Except (Option RegexFault) NumberingStyle :=
  match letters word with
  | ['a'] => .ok .all
  | ['t'] => .ok .filled
  | ['n'] => .ok .none
  | 'p' :: _ =>
    match Regex.read {} word.tail with
    | .ok r => .ok (.fitting { regex := r })
    | .error fault => .error (some fault)
  | _ => .error Option.none

/-- How lines are numbered. -/
structure Numbering where
  body : NumberingStyle := .filled
  header : NumberingStyle := .none
  footer : NumberingStyle := .none
  start : Int := 1
  step : Int := 1
  /-- So many empty lines count as one. -/
  blanks : Nat := 1
  width : Nat := 6
  separator : Bytes := [9]
  format : Bytes := Text.bytes "rn"
  renews : Bool := true
  /-- The two bytes that the lines between sections are made of. -/
  mark : Bytes := Text.bytes "\\:"

/-- Where numbering stands. -/
structure NumberingState where
  style : NumberingStyle
  number : Int
  blanks : Nat := 0
  /-- The last number was shown, so that no other line can have one. -/
  spent : Bool := false
  /-- There is no number for a line that should have one. -/
  exhausted : Bool := false

namespace Numbering

/-- A number as it is shown. -/
def shown (p : Numbering) (n : Int) : Bytes :=
  let digits := Print.ofInteger n
  match letters p.format with
  | ['l', 'n'] => padRight p.width (byte ' ') digits
  | ['r', 'z'] =>
    if n < 0 then byte '-' :: padLeft (p.width - 1) (byte '0') digits.tail else padLeft p.width (byte '0') digits
  | _ => padLeft p.width (byte ' ') digits

/-- The section that a line starts. -/
def section? (p : Numbering) (line : Bytes) : Option NumberingStyle :=
  if line.isEmpty then none
  else if line = p.mark ++ p.mark ++ p.mark then some p.header
  else if line = p.mark ++ p.mark then some p.body
  else if line = p.mark then some p.footer
  else none

/-- One line as it is shown. -/
def line (p : Numbering) (t : NumberingState) (text : Bytes) : Bytes × NumberingState :=
  if t.exhausted then ([], t)
  else
  match section? p text with
  | some style =>
    ([newline], if p.renews then { t with style := style, number := p.start, spent := false } else { t with style })
  | none =>
    let next := t.number + p.step
    let numbered : Bytes × NumberingState :=
      if t.spent then ([], { t with exhausted := true })
      else (shown p t.number ++ p.separator ++ text ++ [newline],
        { t with number := next, blanks := 0
                 spent := next < -0x8000000000000000 || 0x7fffffffffffffff < next })
    let plain : Bytes :=
      List.replicate (p.width + p.separator.length) (byte ' ') ++ text ++ [newline]
    match t.style with
    | .all =>
      if 1 < p.blanks then
        if text.isEmpty && t.blanks + 1 < p.blanks then (plain, { t with blanks := t.blanks + 1 })
        else numbered
      else numbered
    | .filled => if text.isEmpty then (plain, t) else numbered
    | .none => (plain, t)
    | .fitting m => if m.occurs (Symbols.ofBytes text).toArray then numbered else (plain, t)

/-- All lines as they are shown. -/
def lines (p : Numbering) (t : NumberingState) (texts : List Bytes) : List Bytes × NumberingState :=
  let (shown, t) := texts.foldl (fun (done, t) text => let (here, t) := p.line t text; (here :: done, t))
    (([] : List Bytes), t)
  (shown.reverse, t)

end Numbering

/-- What the number of an option has to be: what it is called, and between which numbers it is. -/
def numberingRange? : Char → Option (String × Int × Int)
  | 'i' => some ("line number increment", -0x8000000000000000, 0x7fffffffffffffff)
  | 'l' => some ("line number of blank lines", 1, 0x7fffffffffffffff)
  | 'v' => some ("starting line number", -0x8000000000000000, 0x7fffffffffffffff)
  | 'w' => some ("line number field width", 1, 0x7fffffff)
  | _ => none

/-- The part of a page that an option chooses a style for. -/
def numberedPart? : Char → Option String
  | 'b' => some "body"
  | 'h' => some "header"
  | 'f' => some "footer"
  | _ => none

/-- Refuses a word that ends the reading of options. -/
def checkNumbering : OptionCheck := fun letter word =>
  match numberingRange? letter, numberedPart? letter with
  | some (what, least, most), _ => Size.check ("invalid " ++ what) (Size.readBetween true "" least most) word
  | none, some _ =>
    match NumberingStyle.read word with
    | .error (some fault) => some (complainText fault.text)
    | _ => none
  | none, none => none

/-- What is said of a word that makes no sense, while the reading of options goes on. -/
def numberingComplaint? (option : Char × Bytes) : Option Bytes :=
  let (letter, word) := option
  match numberedPart? letter with
  | some part =>
    match NumberingStyle.read word with
    | .error none => some (Text.bytes ("invalid " ++ part ++ " numbering style: ") ++ Quoted.curly word)
    | _ => none
  | none =>
    if letter = 'n' && ["ln", "rn", "rz"].all fun known => Text.bytes known ≠ word then
      some (Text.bytes "invalid line numbering format: " ++ Quoted.curly word)
    else none

/-- What options ask for. -/
def numberingOf (g : Given) : Numbering :=
  g.options.foldl (fun p (letter, word) =>
    let style : NumberingStyle := ((NumberingStyle.read word).toOption).getD .none
    let n : Int := ((Size.readBetween true "" (-0x8000000000000000) 0x7fffffffffffffff word).toOption).getD 0
    match letter with
    | 'b' => { p with body := style }
    | 'h' => { p with header := style }
    | 'f' => { p with footer := style }
    | 'n' => { p with format := word }
    | 's' => { p with separator := word }
    | 'd' => { p with mark := if word.length = 1 then word ++ [byte ':'] else word }
    | 'i' => { p with step := n }
    | 'l' => { p with blanks := n.toNat }
    | 'v' => { p with start := n }
    | 'w' => { p with width := n.toNat }
    | _ => { p with renews := false }) {}

def numberingTable : OptionTable :=
  { letters := "p", valued := "bdfhilnsvw",
    words := [("body-numbering", 'b'), ("section-delimiter", 'd'), ("footer-numbering", 'f'),
      ("header-numbering", 'h'), ("line-increment", 'i'), ("join-blank-lines", 'l'), ("number-format", 'n'),
      ("no-renumber", 'p'), ("number-separator", 's'), ("starting-line-number", 'v'), ("number-width", 'w')] }

/-- Numbers the lines of its inputs. -/
def nl : Utility := fun args => do
  let reading := numberingTable.readFrom false {} args
  let until? := reading.1.options.findIdx? fun (letter, word) => (checkNumbering letter word).isSome
  let complaints := (reading.1.options.take (until?.getD reading.1.options.length)).filterMap numberingComplaint?
  for text in complaints do
    complain text
  withChecks reading 1 checkNumbering fun g => do
    if !complaints.isEmpty then
      referToHelp
      return 1
    else
      let p := numberingOf g
      let mut t : NumberingState := { style := p.body, number := p.start }
      let mut status := 0
      for path in Inputs.paths g.operands do
        match ← Inputs.load path with
        | .ok data =>
          let texts := Lines.texts newline data
          let (shown, t') := p.lines t texts
          put shown.flatten
          t := t'
          if t.exhausted then
            complainText "line number overflow"
            return 1
        | .error fault =>
          complainOf path fault
          status := 1
      return status

end Filters

end LineShell.Host
