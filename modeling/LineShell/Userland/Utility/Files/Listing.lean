import LineShell.Userland.Calendar
import LineShell.Userland.Utility.Choice
import LineShell.Userland.Utility.Child
import LineShell.Userland.Utility.Files.Blocks
import LineShell.Userland.Utility.Inputs
import LineShell.Userland.Utility.VersionOrder

/-!
# Listing files

`ls`, and its forms `dir` and `vdir`.

- `NameStyle` is a way of writing names;
- `Listing` is how files are asked to be listed, `Listing.changed` what one option changes about it;
- `inColumns` puts texts side by side.
-/

namespace LineShell.Host

namespace Files

/-! ## Names -/

/-- The ways of writing names. -/
inductive NameStyle
  | plain
  /-- In single quotes where a command interpreter would need them, or always; what cannot be shown may be escaped. -/
  | shell (always escapes : Bool)
  /-- In double quotes, which may be left out where nothing is escaped. -/
  | quoted (optional : Bool)
  | escaped
  | curly
deriving DecidableEq, Repr

namespace NameStyle

/-- A text with what cannot be shown escaped, and also some other symbols. -/
def escapes (special : List Symbol) (text : Bytes) : Bytes :=
  (Symbols.ofBytes text).flatMap fun x =>
    if x = 92 then Text.bytes "\\\\"
    else if special.contains x then byte '\\' :: x.bytes
    else if Quoted.isPrintable x then x.bytes
    else x.bytes.flatMap Quoted.escape

/-- A text in single quotes, in which only those are escaped. -/
def singleQuoted (text : Bytes) : Bytes :=
  if text.contains (byte '\'') && Quoted.fitsDouble text then byte '"' :: text ++ [byte '"']
  else byte '\'' :: (text.flatMap fun b => if b = byte '\'' then Text.bytes "'\\''" else [b]) ++ [byte '\'']

/-- Whether a text has to be quoted if what cannot be shown is left as it is. -/
def needsSingle (text : Bytes) : Bool :=
  let isBreak (b : UInt8) : Bool := b = 9 || b = 10 || b = 13
  text.any isBreak || Quoted.needsQuotes (text.map fun b => if b < 32 || 126 < b then byte 'x' else b)

/-- A text in a style; some symbols count as special. -/
def write (style : NameStyle) (special : List Symbol) (text : Bytes) : Bytes :=
  let isSpecial := (Symbols.ofBytes text).any special.contains
  match style with
  | plain => text
  | shell always true => if always || isSpecial then Quoted.always text else Quoted.whereNeeded text
  | shell always false => if always || isSpecial || needsSingle text then singleQuoted text else text
  | quoted false => byte '"' :: escapes (34 :: special) text ++ [byte '"']
  | quoted true =>
    if isSpecial || (Symbols.ofBytes text).any (fun x => x = 34 || !Quoted.isPrintable x) then
      byte '"' :: escapes (34 :: special) text ++ [byte '"']
    else text
  | escaped => escapes special text
  | curly => Quoted.curly text

/-- The styles by name. -/
def words : List (String × NameStyle) :=
  [("literal", plain), ("shell", shell false false), ("shell-always", shell true false),
    ("shell-escape", shell false true), ("shell-escape-always", shell true true), ("c", quoted false),
    ("c-maybe", quoted true), ("escape", escaped), ("locale", curly), ("clocale", curly)]

/-- The style with a name. -/
def named? (word : Bytes) : Option NameStyle :=
  (words.find? fun style => Text.bytes style.1 = word).map (·.2)

end NameStyle

/-- How many columns a text takes; a byte that is no symbol takes one. -/
def widthOf (text : Bytes) : Nat :=
  ((Symbols.ofBytes text).map fun x => if x.isStray then 1 else x.columns).foldl (· + ·) 0

/-! ## Columns -/

/-- Blanks from one column to another; tabs where they reach. -/
def indent (tab : Nat) : (fuel : Nat) → (start stop : Nat) → Bytes
  | 0, _, _ => []
  | fuel + 1, start, stop =>
    if stop ≤ start then []
    else if tab != 0 && (start + 1) / tab < stop / tab then
      byte '\t' :: indent tab fuel (start + tab - start % tab) stop
    else byte ' ' :: indent tab fuel (start + 1) stop

/-- The least width of a column. -/
def leastColumn : Nat := 3

/-- The widths of so many columns, of which all but the last leave room; `none` if they do not fit into a line. Columns
of the least width always do. -/
def columnWidths? (down : Bool) (line : Nat) (widths : List Nat) (columns : Nat) : Option (List Nat) :=
  let rows := (widths.length + columns - 1) / columns
  let sizes := (List.range columns).map fun k =>
    let mine := widths.zipIdx.filterMap fun (width, n) =>
      let place := if down then n / max 1 rows else n % columns
      if place = k then some (width + if k + 1 = columns then 0 else 2) else none
    mine.foldl max leastColumn
  if (sizes.all (· == leastColumn)) || sizes.foldl (· + ·) 0 < line then some sizes else none

/-- Texts side by side, down or across. -/
def inColumns (down : Bool) (line tab : Nat) (ending : UInt8) (texts : List Bytes) : Bytes :=
  let widths := texts.map widthOf
  let most := line / leastColumn + if line % leastColumn = 0 then 0 else 1
  let most := if most = 0 then texts.length else min texts.length most
  let counts := (List.range most).map fun n => most - n
  let (columns, sizes) := (counts.findSome? fun n =>
    if n = 1 then none else (columnWidths? down line widths n).map fun sizes => (n, sizes)).getD
    (1, [0])
  let rows := (texts.length + columns - 1) / columns
  let cellsOf (row : Nat) : List (Bytes × Nat) :=
    (List.range columns).filterMap fun k =>
      let n := if down then row + k * rows else row * columns + k
      match texts[n]? with
      | some text => some (text, (sizes[k]?).getD 0)
      | none => none
  (List.range rows).flatMap fun row =>
    let cells := cellsOf row
    (cells.zipIdx.foldl (fun (state : Bytes × Nat) cell =>
      let (text, size) := cell.1
      let used := widthOf text
      let gap := if cell.2 + 1 = cells.length then []
        else indent tab (size + 1) (state.2 + used) (state.2 + size)
      (state.1 ++ text ++ gap, state.2 + size)) ([], 0)).1 ++ [ending]

/-- Texts one behind the other, as many on a line as fit; a line without a width holds them all. -/
def inLines (separator : UInt8) (line : Nat) (ending : UInt8) (texts : List Bytes) : Bytes :=
  (texts.zipIdx.foldl (fun (state : Bytes × Nat) (text, n) =>
    let size := widthOf text
    if n = 0 then (text, size)
    else if line = 0 || state.2 + 2 + size < line then
      (state.1 ++ separator :: byte ' ' :: text, state.2 + 2 + size)
    else (state.1 ++ separator :: ending :: text, size)) ([], 0)).1 ++ if texts.isEmpty then [] else [ending]

/-! ## What is asked for -/

/-- How files are put on lines. -/
inductive Arrangement
  | single
  | down
  | across
  | commas
  | long
deriving DecidableEq, Repr

/-- Which kinds of files are marked by a sign behind their names. -/
inductive KindSigns
  | none
  | dirs
  | kinds
  /-- Also programs. -/
  | all
deriving DecidableEq, Repr

/-- Which links are followed. -/
inductive Following
  | never
  /-- Those among the operands that lead to directories. -/
  | operandDirs
  | operands
  | always
deriving DecidableEq, Repr

/-- The order of files. -/
inductive FileOrder
  | name
  | ending
  | width
  | size
  | version
  | time
  | none
deriving DecidableEq, Repr

/-- Which files are left out because their names start with a dot. -/
inductive Hidden
  | dotted
  | dots
  | none
deriving DecidableEq, Repr

/-- How files are listed. -/
structure Listing where
  arrangement : Option Arrangement := none
  style : Option NameStyle := none
  /-- What cannot be shown is replaced by question marks. -/
  masks : Bool := false
  signs : KindSigns := .none
  order : Option FileOrder := none
  reversed : Bool := false
  dirsFirst : Bool := false
  hidden : Hidden := .dotted
  /-- Patterns for names that are left out, and for those that are left out only where dotted ones are. -/
  ignored : List Bytes := []
  concealed : List Bytes := []
  ids : Bool := false
  blocks : Bool := false
  contexts : Bool := false
  owner : Bool := true
  group : Bool := true
  author : Bool := false
  numeric : Bool := false
  following : Option Following := none
  /-- Directories are listed with what is in them, or as files. -/
  recursive : Bool := false
  immediate : Bool := false
  line : Option Nat := none
  tab : Option Nat := none
  scale : Option BlockScale := none
  /-- A time other than that of the last change is asked for. -/
  otherTime : Bool := false
  timeStyle : Option Bytes := none
  ending : UInt8 := newline

/-- What is wrong with an option. -/
inductive ListingFault
  | choice (fault : ChoiceFault) (word : Bytes) (option : String) (choices : Choices)
  | line (word : Bytes)
  | tab (word : Bytes)
  | scale (word : Bytes) (fault : ScaleFault)
  | time (fault : ChoiceFault) (word : Bytes)
  | timeFormat (format : Bytes)
deriving DecidableEq, Repr

namespace Listing

def arrangementWords : List (List String × Arrangement) :=
  [(["verbose", "long"], .long), (["commas"], .commas), (["horizontal", "across"], .across), (["vertical"], .down),
    (["single-column"], .single)]

def signWords : List (List String × KindSigns) :=
  [(["none"], .none), (["slash"], .dirs), (["file-type"], .kinds), (["classify"], .all)]

def orderWords : List (List String × FileOrder) :=
  [(["none"], .none), (["time"], .time), (["size"], .size), (["extension"], .ending), (["version"], .version),
    (["width"], .width)]

/-- When something is done: always, never, or on a terminal. -/
def whenWords : List (List String × Bool) :=
  [(["always", "yes", "force"], true), (["never", "no", "none"], false), (["auto", "tty", "if-tty"], false)]

def timeWords : List (List String × Bool) :=
  [(["atime", "access", "use"], true), (["ctime", "status"], true), (["mtime", "modification"], false),
    (["birth", "creation"], true)]

/-- The choice that a word makes. -/
def chosen {α : Type} (option : String) (choices : List (List String × α)) (word : Bytes) : Except ListingFault α :=
  let names : Choices := choices.map (·.1)
  match Choices.find names word with
  | .error fault => .error (.choice fault word option names)
  | .ok n =>
    match choices[n]? with
    | some (_, choice) => .ok choice
    | none => .error (.choice .unknown word option names)

/-- A number as it is written in programs: octal behind a zero, hexadecimal behind `0x`. -/
def readNumber (word : Bytes) : Option Nat :=
  let text := match word.dropWhile isBlank with
    | 43 :: rest => rest
    | rest => rest
  match text with
  | 48 :: x :: digits =>
    if x = byte 'x' || x = byte 'X' then
      if digits.isEmpty || digits.any (fun b => (Quantity.hexValue? b).isNone) then none
      else some (digits.foldl (fun n b => n * 16 + (Quantity.hexValue? b).getD 0) 0)
    else if (x :: digits).all Print.isOctal then some (Print.octal (x :: digits)) else none
  | _ => number? text

/-- A line that files go on, long ones only if no others are asked for already. -/
def long (l : Listing) : Listing :=
  { l with arrangement := some .long }

/-- What one option changes. -/
def changed (l : Listing) (option : Char × Bytes) : Except ListingFault Listing :=
  let word := option.2
  let single (l : Listing) : Listing :=
    if l.arrangement = some .long then l else { l with arrangement := some .single }
  match option.1 with
  | 'a' => .ok { l with hidden := .none }
  | 'A' => .ok { l with hidden := .dots }
  | 'b' => .ok { l with style := some .escaped }
  | 'c' | 'u' => .ok { l with otherTime := true }
  | 'd' => .ok { l with immediate := true }
  | 'f' =>
    .ok { l with hidden := .none, order := some .none, blocks := false,
                 arrangement := if l.arrangement = some .long then none else l.arrangement }
  | 'ψ' => .ok { l with signs := .kinds }
  | 'g' => .ok { l.long with owner := false }
  | 'h' => .ok { l with scale := some (.fitting 1024) }
  | 'ς' => .ok { l with scale := some (.fitting 1000) }
  | 'i' => .ok { l with ids := true }
  | 'l' => .ok l.long
  | 'm' => .ok { l with arrangement := some .commas }
  | 'n' => .ok { l.long with numeric := true }
  | 'o' => .ok { l.long with group := false }
  | 'p' => .ok { l with signs := .dirs }
  | 'q' => .ok { l with masks := true }
  | 'ν' => .ok { l with masks := false }
  | 'r' => .ok { l with reversed := true }
  | 's' => .ok { l with blocks := true }
  | 't' => .ok { l with order := some .time }
  | 'v' => .ok { l with order := some .version }
  | 'w' =>
    match readNumber word with
    | some n => .ok { l with line := some (if n < 0x8000000000000000 then n else 0) }
    | none => .error (.line word)
  | 'x' => .ok { l with arrangement := some .across }
  | 'B' => .ok { l with ignored := Text.bytes "*~" :: Text.bytes ".*~" :: l.ignored }
  | 'C' => .ok { l with arrangement := some .down }
  | 'F' => .ok { l with signs := .all }
  | 'Φ' =>
    if word.isEmpty then .ok { l with signs := .all }
    else (chosen "classify" whenWords word).map fun on => if on then { l with signs := .all } else l
  | 'G' => .ok { l with group := false }
  | 'H' => .ok { l with following := some .operands }
  | 'Η' => .ok { l with following := some .operandDirs }
  | 'I' => .ok { l with ignored := word :: l.ignored }
  | 'L' => .ok { l with following := some .always }
  | 'N' => .ok { l with style := some .plain }
  | 'Q' => .ok { l with style := some (.quoted false) }
  | 'R' => .ok { l with recursive := true }
  | 'S' => .ok { l with order := some .size }
  | 'T' =>
    match readNumber word with
    | some n => .ok { l with tab := some n }
    | none => .error (.tab word)
  | 'U' => .ok { l with order := some .none }
  | 'X' => .ok { l with order := some .ending }
  | 'Z' => .ok { l with contexts := true }
  | '1' => .ok (single l)
  | 'α' => .ok { l with author := true }
  | 'η' => .ok { l with concealed := word :: l.concealed }
  | 'σ' => (chosen "sort" orderWords word).map fun order => { l with order := some order }
  | 'γ' => .ok { l with dirsFirst := true }
  | 'τ' => (chosen "time" timeWords word).map fun other => { l with otherTime := other }
  | 'χ' => (chosen "format" arrangementWords word).map fun a => { l with arrangement := some a }
  | 'ε' => .ok { l.long with timeStyle := some (Text.bytes "full-iso") }
  | 'κ' => if word.isEmpty then .ok l else (chosen "color" whenWords word).map fun _ => l
  | 'λ' => if word.isEmpty then .ok l else (chosen "hyperlink" whenWords word).map fun _ => l
  | 'ι' => (chosen "indicator-style" signWords word).map fun signs => { l with signs }
  | 'ω' =>
    (chosen "quoting-style" (NameStyle.words.map fun (name, style) => ([name], style)) word).map fun style =>
      { l with style := some style }
  | 'θ' => .ok { l with timeStyle := some word }
  | 'β' =>
    match BlockScale.read word with
    | .ok scale => .ok { l with scale := some scale }
    | .error fault => .error (.scale word fault)
  | 'ζ' => .ok { single l with ending := 0, masks := false, style := some .plain }
  | _ => .ok l

def arranged (l : Listing) : Arrangement :=
  l.arrangement.getD .single

def isLong (l : Listing) : Bool :=
  l.arranged = .long

def named (l : Listing) : NameStyle :=
  l.style.getD .plain

def lineWidth (l : Listing) : Nat :=
  l.line.getD 80

def followed (l : Listing) : Following :=
  l.following.getD (if l.immediate || l.signs = .all || l.isLong then .never else .operandDirs)

def ordered (l : Listing) : FileOrder :=
  l.order.getD (if l.otherTime && !l.isLong then .time else .name)

/-- Sizes of files in their unit. -/
def size (l : Listing) (n : Nat) : Bytes :=
  (l.scale.getD (.fixed 1 [])).write n

/-- So many pages in the unit of room on the disk. -/
def pages (l : Listing) (n : Nat) : Bytes :=
  (l.scale.getD .usual).write (n * 4096)

/-- Whether more has to be known of each file than its kind. -/
def needsFiles (l : Listing) : Bool :=
  l.ordered = .time || l.ordered = .size || l.isLong || l.contexts || l.blocks

/-- Whether the kind of each file has to be known. -/
def needsKinds (l : Listing) : Bool :=
  !l.needsFiles && (l.recursive || l.signs != .none || l.dirsFirst)

/-- The symbols that count as special in names: the signs of kinds, and a blank where names are escaped. -/
def special (l : Listing) : List Symbol :=
  let signs := match l.signs with
    | .kinds => "*=>@|"
    | .all => "=>@|"
    | _ => ""
  signs.toList.map Char.toNat ++ if l.named = .escaped then [32] else []

/-- Whether names that need no quotes are moved to stand below those that do. -/
def aligns (l : Listing) : Bool :=
  (l.isLong || ((l.arranged = .down || l.arranged = .across) && l.lineWidth != 0)) &&
    match l.named with
    | .shell always _ => !always
    | .quoted optional => optional
    | _ => false

/-- A name as it is written, before what cannot be shown is masked. -/
def writtenName (l : Listing) (name : Bytes) : Bytes :=
  l.named.write l.special name

/-- A written name with what cannot be shown masked, if that is asked for. -/
def masked (l : Listing) (text : Bytes) : Bytes :=
  let isOpen : Bool := match l.named with
    | .plain => true
    | .shell _ escapes => !escapes
    | _ => false
  if l.masks && isOpen then
    (Symbols.ofBytes text).flatMap fun x => if Quoted.isPrintable x then x.bytes else [byte '?']
  else text

/-- The formats of times: of old ones, and of recent ones. -/
def timeFormats (l : Listing) : Except ListingFault (Bytes × Bytes) :=
  let usual := (Text.bytes "%b %e  %Y", Text.bytes "%b %e %H:%M")
  let same (format : String) : Bytes × Bytes := (Text.bytes format, Text.bytes format)
  let styles : List (List String × (Bytes × Bytes)) :=
    [(["full-iso"], same "%Y-%m-%d %H:%M:%S.%N %z"), (["long-iso"], same "%Y-%m-%d %H:%M"),
      (["iso"], (Text.bytes "%Y-%m-%d ", Text.bytes "%m-%d %H:%M")), (["locale"], usual)]
  match l.timeStyle with
  | none => .ok usual
  | some (43 :: format) =>
    match format.splitOn newline with
    | [old, recent] => .ok (old, recent)
    | [format] => .ok (format, format)
    | _ => .error (.timeFormat format)
  | some word =>
    if (Text.bytes "posix-").isPrefixOf word then .ok usual
    else
      match chosen "" styles word with
      | .ok formats => .ok formats
      | .error (.choice fault ..) => .error (.time fault word)
      | .error fault => .error fault

end Listing

/-! ## Files -/

/-- A file to be listed. -/
structure Listed where
  name : Bytes
  id : Nat
  node : Node
  /-- More is known of it than its name and kind. -/
  known : Bool := true
  /-- What a link leads to, if anything. -/
  goal : Option Node := none

/-- The file at a path, as it is listed. -/
def listedAt (s : Scene) (follows : Bool) (name path : Bytes) : Except Fault Listed :=
  let followed := (s.disk.locate s.dir path).bind fun place =>
    match s.disk.node? place.id with
    | some node => .ok (place.id, node)
    | none => .error .missing
  let found := if follows then
      match followed with
      | .ok found => .ok found
      | .error _ => s.disk.findLast s.dir path
    else s.disk.findLast s.dir path
  found.map fun (id, node) => { name := name, id := id, node := node, goal := s.find? path }

/-- The file that a path leads to. -/
def followedAt (s : Scene) (name path : Bytes) : Except Fault Listed := do
  let place ← s.disk.locate s.dir path
  match s.disk.node? place.id with
  | some node => return { name := name, id := place.id, node := node, goal := some node }
  | none => throw .missing

namespace Listing

/-- The file that an operand names. -/
def operandAt (l : Listing) (s : Scene) (path : Bytes) : Except Fault Listed :=
  match l.followed with
  | .never => listedAt s false path path
  | .operandDirs =>
    match followedAt s path path with
    | .ok f => if f.node.isDir then .ok f else listedAt s false path path
    | .error _ => listedAt s false path path
  | .operands | .always => followedAt s path path

/-- Files in the order that is asked for. -/
def sorted (l : Listing) (d : Disk) (all : List Listed) : List Listed :=
  let byName (a b : Bytes) : Ordering := compareOfLessAndEq a b
  let ending (name : Bytes) : Bytes :=
    let after := (name.reverse.takeWhile (· != byte '.')).reverse
    if after.length = name.length then [] else byte '.' :: after
  let width (f : Listed) : Nat := widthOf (l.masked (l.writtenName f.name))
  let order (a b : Listed) : Ordering := match l.ordered with
    | .time => (compare (d.stampOf b.id) (d.stampOf a.id)).then (byName a.name b.name)
    | .size => (compare (shownSize b.node) (shownSize a.node)).then (byName a.name b.name)
    | .ending => (byName (ending a.name) (ending b.name)).then (byName a.name b.name)
    | .version => (versionOrder a.name b.name).then (byName a.name b.name)
    | .width => (compare (width a) (width b)).then (byName a.name b.name)
    | _ => byName a.name b.name
  if l.ordered = .none then all
  else
    let sorted := all.mergeSort fun a b => (if l.reversed then (order a b).swap else order a b) != .gt
    if l.dirsFirst then
      let isDir (f : Listed) : Bool := f.node.isDir || f.goal.any Node.isDir
      sorted.filter isDir ++ sorted.filter fun f => !isDir f
    else sorted

/-- The sign behind a name that tells the kind of the file. -/
def sign (l : Listing) (known : Bool) (node : Node) : Bytes :=
  if l.signs = .none then []
  else
    match node with
    | .dir .. => [byte '/']
    | .link _ => if l.signs = .dirs then [] else [byte '@']
    | .fifo .. => if l.signs = .dirs then [] else [byte '|']
    | .device _ => []
    | node => if l.signs = .all && known && node.isExecutable then [byte '*'] else []

/-- The time at which a file was changed, as it is listed. -/
def time (formats : Bytes × Bytes) (now time : Int) : Bytes :=
  let isRecent := time < now && now - time < 15778476000000000
  (Moment.ofTime time).render (if isRecent then formats.2 else formats.1)

/-- The name of a file with the sign of its kind. If some names are quoted, others may be moved. -/
def shownName (l : Listing) (someQuoted : Bool) (f : Listed) : Bytes :=
  let written := l.writtenName f.name
  let moved : Bytes := if l.aligns && someQuoted && written = f.name then [byte ' '] else []
  moved ++ l.masked written ++
    match f.node with
    | .link target =>
      if l.isLong && f.known then
        let goal : Bytes := if l.signs = .kinds || l.signs = .all then (f.goal.map (l.sign true)).getD [] else []
        Text.bytes " -> " ++ l.masked (l.writtenName target) ++ goal
      else l.sign f.known f.node
    | node => l.sign f.known node

/-- Texts filled up in front, each to the width of the longest in its column. -/
def cells (l : Listing) (some : List (List Bytes)) (row : List Bytes) : Bytes :=
  row.zipIdx.flatMap fun (text, k) =>
    let width := if l.arranged = .commas then 0
      else (some.map fun other => ((other[k]?).getD []).length).foldl max 0
    padLeft width (byte ' ') text ++ [byte ' ']

/-- What stands in front of a name in any form. -/
def frills (l : Listing) (f : Listed) : List Bytes :=
  (if l.ids then [if f.known then decimal (shownId f.id) else [byte '?']] else []) ++
    (if l.blocks then [if f.known then l.pages (pageCount f.node) else [byte '?']] else []) ++
    if l.contexts && !l.isLong then [[byte '?']] else []

/-- The columns of the long form between the frills and the name. -/
def longRow (l : Listing) (d : Disk) (formats : Bytes × Bytes) (all : List Listed) (f : Listed) : Bytes :=
  let sizeOf (f : Listed) : Bytes := match f.node with
    | .device .. => Text.bytes "1, 3"
    | node => if f.known then l.size (shownSize node) else [byte '?']
  let links (f : Listed) : Bytes := if f.known then decimal (linkCount d f.id f.node) else [byte '?']
  let owner (f : Listed) : Bytes := if !f.known then [byte '?'] else if l.numeric then [byte '0'] else Text.bytes "root"
  let widest (text : Listed → Bytes) : Nat := (all.map fun f => (text f).length).foldl max 0
  let mode := if f.known then kindAndMode f.node
    else byte (kindLetter f.node) :: List.replicate 9 (byte '?')
  let people := (if l.owner then 1 else 0) + (if l.group then 1 else 0) + if l.author then 1 else 0
  let time := if f.known then Listing.time formats d.now (d.stampOf f.id)
    else padLeft (widthOf (Listing.time formats d.now d.now)) (byte ' ') [byte '?']
  Print.joined ([mode, padLeft (widest links) (byte ' ') (links f)] ++
    List.replicate people (padRight (widest owner) (byte ' ') (owner f)) ++
    (if l.contexts then [[byte '?']] else []) ++
    [padLeft (widest sizeOf) (byte ' ') (sizeOf f), time]) ++ [byte ' ']

/-- Write files in the form that is asked for, in columns that are wide enough for `others` as well. -/
def write (l : Listing) (d : Disk) (formats : Bytes × Bytes) (all others : List Listed) : Bytes :=
  let whole := all ++ others
  let someQuoted := l.aligns && whole.any fun f => l.writtenName f.name != f.name
  let lead (f : Listed) : Bytes := l.cells (whole.map l.frills) (l.frills f)
  let text (f : Listed) : Bytes := lead f ++ l.shownName someQuoted f
  let line := l.lineWidth
  match l.arranged with
  | .long => all.flatMap fun f => lead f ++ l.longRow d formats whole f ++ l.shownName someQuoted f ++ [l.ending]
  | .commas => inLines (byte ',') line l.ending (all.map text)
  | .single => all.flatMap fun f => text f ++ [l.ending]
  | arranged =>
    if line = 0 then inLines (byte ' ') 0 l.ending (all.map text)
    else inColumns (arranged = .down) line (l.tab.getD 8) l.ending (all.map text)

/-! ## Directories -/

/-- Whether a pattern fits a name; a dot in front has to be written out. -/
def isFitted (name pattern : Bytes) : Bool :=
  (Pattern.ofBytes pattern).fits name && (name.head? != some (byte '.') || pattern.head? = some (byte '.') ||
    (Text.bytes "\\.").isPrefixOf pattern)

/-- Whether a name is left out. -/
def isIgnored (l : Listing) (name : Bytes) : Bool :=
  let isDots := name = [byte '.'] || name = Text.bytes ".."
  (l.hidden = .dotted && name.head? = some (byte '.')) || (l.hidden = .dots && isDots) ||
    (l.hidden = .dotted && l.concealed.any (isFitted name)) || l.ignored.any (isFitted name)

/-- The entries of a directory that are listed, and those of which nothing could be found out. -/
def entries (l : Listing) (s : Scene) (path : Bytes) (id : Nat) : List Listed × List (Bytes × Fault) :=
  let names := [[byte '.'], Text.bytes ".."] ++ ((s.disk.entries? id).getD []).map (·.1)
  let found := (names.filter fun name => !l.isIgnored name).filterMap fun name =>
    let file := if path = [byte '.'] then name else under path name
    match listedAt s false name file with
    | .error _ => none
    | .ok f =>
      let asked := l.needsFiles || ((l.needsKinds || l.ids) && f.node.isLink)
      if l.followed = .always && asked then
        match followedAt s name file with
        | .ok f => some (f, none)
        | .error fault => some ({ f with known := false }, some (file, fault))
      else some (f, none)
  (found.map (·.1), found.filterMap (·.2))

/-- How deeply directories may be nested. -/
def depthLimit : Nat := 4096

/-- List a directory, and those in it if that is asked for. `depth` bounds the nesting; the directories it is in are
listed already. -/
def listDir (l : Listing) (formats : Bytes × Bytes) (titled first operand : Bool) (above : List Nat) :
    (depth : Nat) → Bytes → StateM Scene Nat
  | 0, _ => return 1
  | depth + 1, path => do
    let s ← get
    match s.disk.locate s.dir path with
    | .error fault =>
      complainAbout "cannot open directory" path fault
      return if operand then 2 else 1
    | .ok place =>
      if l.recursive && above.contains place.id then
        complain (Quoted.whereNeeded path ++ Text.bytes ": not listing already-listed directory")
        return 2
      else
        let (found, failed) := l.entries s path place.id
        let files := l.sorted s.disk found
        if titled then
          let title := l.masked (l.named.write (58 :: l.special) path)
          put ((if first then [] else [newline]) ++ title ++ Text.bytes ":\n")
        for (file, fault) in failed do
          complainAbout "cannot access" file fault
        if l.isLong || l.blocks then
          let blocks := (files.map fun f => if f.known then pageCount f.node else 0).foldl (· + ·) 0
          put (Text.bytes "total " ++ l.pages blocks ++ [l.ending])
        put (l.write s.disk formats files [])
        let status := if failed.isEmpty then 0 else 1
        if l.recursive then
          let dirs := files.filter fun f =>
            f.node.isDir && f.known && f.name != [byte '.'] && f.name != Text.bytes ".."
          let below ← forOperands (dirs.map (·.name)) fun name =>
            listDir l formats true false false (place.id :: above) depth (under path name)
          return max status below
        else return status

/-- List all operands. -/
def listAll (l : Listing) (formats : Bytes × Bytes) (operands : List Bytes) : StateM Scene Nat := do
  let s ← get
  let mut status := 0
  let mut files : List Listed := []
  let mut dirs : List Listed := []
  for path in if operands.isEmpty then [[byte '.']] else operands do
    match l.operandAt s path with
    | .error fault =>
      complainAbout "cannot access" path fault
      status := 2
    | .ok found =>
      if found.node.isDir && !l.immediate then dirs := dirs ++ [found] else files := files ++ [found]
  put (l.write s.disk formats (l.sorted s.disk files) dirs)
  let titled := 1 < operands.length || l.recursive
  for (f, n) in (l.sorted s.disk dirs).zipIdx do
    let code ← l.listDir formats titled (n = 0 && files.isEmpty) true [] depthLimit f.name
    status := max status code
  return status

end Listing

/-! ## From the command line -/

/-- The options of `ls`. -/
def listTable : OptionTable :=
  { letters := "abcdfghiklmnopqrstuvxABCDFGHLNQRSUXZ1φψςνΦΗαγεζ", valued := "wITητσχιωθβ", optional := "Φκλ",
    words := [("all", 'a'), ("escape", 'b'), ("directory", 'd'), ("dired", 'D'), ("full-time", 'ε'),
      ("group-directories-first", 'γ'), ("human-readable", 'h'), ("inode", 'i'), ("kibibytes", 'k'),
      ("numeric-uid-gid", 'n'), ("no-group", 'G'), ("hide-control-chars", 'q'), ("reverse", 'r'), ("size", 's'),
      ("width", 'w'), ("almost-all", 'A'), ("ignore-backups", 'B'), ("classify", 'Φ'), ("file-type", 'ψ'),
      ("si", 'ς'), ("dereference-command-line", 'H'), ("dereference-command-line-symlink-to-dir", 'Η'),
      ("hide", 'η'), ("ignore", 'I'), ("indicator-style", 'ι'), ("dereference", 'L'), ("literal", 'N'),
      ("quote-name", 'Q'), ("quoting-style", 'ω'), ("recursive", 'R'), ("format", 'χ'), ("show-control-chars", 'ν'),
      ("sort", 'σ'), ("tabsize", 'T'), ("time", 'τ'), ("time-style", 'θ'), ("zero", 'ζ'), ("color", 'κ'),
      ("hyperlink", 'λ'), ("block-size", 'β'), ("context", 'Z'), ("author", 'α')] }

/-- Say what is wrong with an option, and end with the status for it. -/
def refuseListing (fault : ListingFault) : StateM Scene Nat := do
  complainOfListing fault
  return match fault with
    | .choice .. => 1
    | _ => 2
where
  complainOfListing : ListingFault → StateM Scene Unit
  | .choice fault word option choices => complainOfChoice fault word option choices
  | .line word => complain (Text.bytes "invalid line width: " ++ Quoted.curly word)
  | .tab word => complain (Text.bytes "invalid tab size: " ++ Quoted.curly word)
  | .scale word fault => complain (fault.text "--block-size" word)
  | .timeFormat format => complain (Text.bytes "invalid time style format " ++ Quoted.curly format)
  | .time fault word => do
    complain (Text.bytes fault.text ++ Quoted.curly word ++ Text.bytes " for " ++
      Quoted.curly (Text.bytes "time style"))
    modify fun s => s.complain (Text.bytes ("Valid arguments are:\n  - [posix-]full-iso\n  - [posix-]long-iso\n" ++
      "  - [posix-]iso\n  - [posix-]locale\n  - +FORMAT (e.g., +%H:%M) for a 'date'-style format\n"))
    referToHelp

/-- Lists files; a listing says what is not asked for. -/
def listing (usual : Listing) (starter : Starter) : Utility := withOptions listTable 2 fun g => do
  let told (name : String) : Option Bytes :=
    (starter.environment.lookup (Text.bytes name)).filter fun value => !value.isEmpty
  match g.options.foldlM Listing.changed {} with
  | .error fault => refuseListing fault
  | .ok l =>
    let columns := (told "COLUMNS").bind Listing.readNumber
    let l := { l with
      arrangement := l.arrangement.or usual.arrangement
      line := l.line.or columns
      style := (l.style.or ((told "QUOTING_STYLE").bind NameStyle.named?)).or usual.style
      timeStyle := l.timeStyle.or (told "TIME_STYLE") }
    match if l.isLong then l.timeFormats else .ok ([], []) with
    | .error fault => refuseListing fault
    | .ok formats => l.listAll formats g.operands

def ls : Starter → Utility :=
  listing {}

def dir : Starter → Utility :=
  listing { arrangement := some .down, style := some .escaped }

def vdir : Starter → Utility :=
  listing { arrangement := some .long, style := some .escaped }

end Files

end LineShell.Host
