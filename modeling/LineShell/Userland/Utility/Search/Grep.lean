import LineShell.Userland.Pattern
import LineShell.Userland.Regex.Fitting
import LineShell.Userland.Regex.Lively
import LineShell.Userland.Utility.Files.Make
import LineShell.Userland.Utility.Inputs

/-!
# Lines that fit

`grep` prints the lines of its inputs in which one of several expressions fits, with lines around them if that is asked
for. What is no text is not printed.

- `Search.Selection` is what makes a line fit, `Search.Selecting` how far the lines of an input were gone through.
-/

namespace LineShell.Host

namespace Search

/-! ## Expressions -/

/-- The first of several expressions that fits from a place on, the longest of those that start there. -/
def leftmost (matchers : List Matcher) (text : Array Symbol) (place : Nat) : Option RegexMatch :=
  (matchers.filterMap fun m => m.find text place).foldl (fun best found =>
    match best with
    | none => some found
    | some before =>
      if found.start < before.start || (found.start = before.start && before.stop < found.stop) then some found
      else best) none

/-- All that fits in a line, from left to right. `fuel` is more than the length. -/
def allFits (matchers : List Matcher) (text : Array Symbol) : (fuel : Nat) → (place : Nat) → List RegexMatch
  | 0, _ => []
  | fuel + 1, place =>
    match leftmost matchers text place with
    | none => []
    | some found =>
      if found.stop = found.start then
        if text.size ≤ found.stop then [] else allFits matchers text fuel (found.stop + 1)
      else found :: allFits matchers text fuel found.stop

/-- What makes a line fit. -/
structure Selection where
  matchers : List Matcher
  inverted : Bool := false

def Selection.holds (selection : Selection) (line : Bytes) : Bool :=
  let text := (Symbols.ofBytes line).toArray
  (selection.matchers.any fun m => m.occurs text) != selection.inverted

/-- How expressions are understood. -/
inductive Style
  | basic
  | extended
  | fixed
  | lively
deriving DecidableEq, Repr

/-- An expression that has to fit a whole line, or whole words. -/
def bounded (words whole : Bool) (r : Regex) : Regex :=
  if whole then .both (.edge .textStart) (.both r (.edge .textEnd))
  else if words then .both (.edge .afterOther) (.both r (.edge .beforeOther))
  else r

/-- Read an expression, and the signs in it that are pointless. -/
def readExpression (style : Style) (g : Given) (text : Bytes) : Except RegexFault (Matcher × List String) := do
  let symbols := Symbols.ofBytes text
  let (r, pointless, loose) ← (match style with
    | .fixed => .ok (Regex.ofText symbols, [], false)
    | .lively => (Regex.readLively text).map fun (r, loose) => (r, [], loose)
    | _ =>
      let form : RegexForm := { extended := style = .extended, lenient := true, checksClasses := true }
      (Regex.readAll form symbols).map fun (r, pointless) => (r, pointless, false) : Except RegexFault _)
  return ({
    regex := bounded (g.has 'w') (g.has 'x') r
    loose := loose || g.has 'i' || g.has 'y'
    longest := style != .lively }, pointless)

/-! ## Lines -/

/-- How lines are shown. -/
structure GrepView where
  ending : UInt8
  /-- The name in front of each line. -/
  name : Option Bytes
  numbered : Bool
  offsets : Bool
  tabbed : Bool
  /-- What ends the name, if it is not the sign that follows other things. -/
  nameEnd : Option UInt8
  onlyFits : Bool
  before : Nat
  after : Nat
  separator : Option Bytes
  most : Option Nat
  /-- Bytes that are no characters are shown like others. -/
  asText : Bool

/-- How far the lines of an input were gone through. -/
structure Selecting where
  number : Nat := 0
  offset : Nat := 0
  /-- Lines that may still be shown before another one, latest first, with number and offset. -/
  held : List (Nat × Nat × Bytes) := []
  /-- How many lines are still shown after one. -/
  owed : Nat := 0
  /-- The number of the line shown last. -/
  last : Option Nat := none
  count : Nat := 0
  shown : List Bytes := []
  /-- Something was shown before, of this input or another one. -/
  used : Bool
  /-- How far what was selected reaches. -/
  passed : Nat := 0
  /-- A line that should be shown is no text. -/
  spoiled : Bool := false
  full : Bool := false

/-- What stands in front of a line. -/
def GrepView.lead (v : GrepView) (sign : Char) (number offset : Nat) (isEmpty : Bool) : Bytes :=
  let mark := [byte sign]
  let name := match v.name with
    | some name => name ++ (match v.nameEnd with
      | some b => [b]
      | none => mark)
    | none => []
  let number := if v.numbered then
      (if v.tabbed then padLeft 2 (byte ' ') (decimal number) else decimal number) ++ mark else []
  let offset := if v.offsets then decimal offset ++ mark else []
  let all := name ++ number ++ offset
  all ++ if v.tabbed && !all.isEmpty && !isEmpty then [9] else []

/-- Whether a line can be shown as text. -/
def isText (line : Bytes) : Bool :=
  (Symbols.ofBytes line).all fun x => !x.isStray

namespace Selecting

/-- Show one line. -/
def showLine (s : Selecting) (v : GrepView) (matchers : List Matcher) (sign : Char) (number offset : Nat)
    (line : Bytes) : Selecting :=
  if s.spoiled then s
  else if !v.asText && !isText line then { s with spoiled := true }
  else
    let s := { s with last := some number, used := true }
    if v.onlyFits then
      if sign = '-' then s
      else
        let text := (Symbols.ofBytes line).toArray
        let found := (allFits matchers text (text.size + 2) 0).map fun m =>
          let fitted := Symbols.bytes (Matcher.slice text m.start m.stop)
          let start := offset + (Symbols.bytes (Matcher.slice text 0 m.start)).length
          v.lead sign number start false ++ fitted ++ [v.ending]
        { s with shown := found.reverse ++ s.shown }
    else { s with shown := (v.lead sign number offset line.isEmpty ++ line ++ [v.ending]) :: s.shown }

/-- Show the mark between lines that do not follow each other. -/
def separate (s : Selecting) (v : GrepView) (number : Nat) : Selecting :=
  match v.separator with
  | some separator =>
    if s.used && !s.spoiled && s.last.map (· + 1) != some number then
      { s with shown := (separator ++ [newline]) :: s.shown }
    else s
  | none => s

/-- Show a selected line, and those before it. -/
def showSelected (s : Selecting) (v : GrepView) (matchers : List Matcher) (line : Bytes) : Selecting :=
  let before := (s.held.take v.before).reverse
  let first := (before.head?.map (·.1)).getD s.number
  let s := s.separate v first
  let s := before.foldl (fun s (number, offset, line) => s.showLine v matchers '-' number offset line) s
  s.showLine v matchers ':' s.number s.offset line

/-- Go through one line. Without a view nothing is shown. -/
def step (s : Selecting) (selection : Selection) (v : GrepView) (quiet : Bool) (whole : Bytes) : Selecting :=
  let line := Lines.bare v.ending whole
  let s := { s with number := s.number + 1 }
  let s :=
    if s.full then
      if s.owed = 0 || quiet then s
      else if selection.holds line then { s with owed := 0 }
      else { s.showLine v selection.matchers '-' s.number s.offset line with owed := s.owed - 1 }
    else if selection.holds line then
      let s := { s with count := s.count + 1, passed := s.offset + whole.length }
      let s := if quiet then s else s.showSelected v selection.matchers line
      { s with owed := v.after, held := [], full := v.most = some s.count }
    else if quiet then s
    else if 0 < s.owed then
      { s.showLine v selection.matchers '-' s.number s.offset line with owed := s.owed - 1 }
    else { s with held := ((s.number, s.offset, line) :: s.held).take v.before }
  { s with offset := s.offset + whole.length }

/-- Go through lines until enough were selected. -/
def through (selection : Selection) (v : GrepView) (quiet : Bool) (s : Selecting) : List Bytes → Selecting
  | [] => s
  | line :: rest =>
    if s.spoiled || (s.full && (quiet || s.owed = 0)) then s
    else through selection v quiet (s.step selection v quiet line) rest

end Selecting

/-! ## Inputs -/

/-- What is done with an input that is no text. -/
inductive BinaryRule
  | told
  | asText
  | skipped
deriving DecidableEq, Repr

/-- All that an invocation asks for. -/
structure GrepPlan where
  g : Given
  selection : Selection
  view : GrepView
  binary : BinaryRule
  /-- Nothing but the names of inputs is printed: of those with a fit, or of those without. -/
  listing : Option Bool
  counting : Bool
  quiet : Bool
  silent : Bool

/-- How the inputs were gone through so far. -/
structure GrepState where
  selected : Bool := false
  failed : Bool := false
  used : Bool := false
  /-- Enough is known. -/
  finished : Bool := false

/-- Complain, unless that is not wanted. -/
def GrepPlan.complainOf (p : GrepPlan) (path : Bytes) (fault : Fault) : StateM Scene Unit :=
  if p.silent then return () else complain (path ++ Text.bytes (": " ++ fault.text))

/-- How much is read at a time. -/
def grepBlock : Nat := 98304

/-- Go through one input, which an open stream holds. -/
def searchStream (p : GrepPlan) (name : Bytes) (titled standard : Bool) (number : Nat) (t : GrepState) :
    StateM Scene GrepState := do
  let s ← get
  let isOutput : Bool := match s.commons.streams[number]?, s.stream? 1 with
    | some (.file id ..), some (_, .file out ..) => id = out && (s.disk.node? id).any fun
      | .file .. => true
      | _ => false
    | _, _ => false
  if isOutput && !standard && !p.quiet && p.listing.isNone && p.view.most != some 1 then
    if !p.silent then complain (name ++ Text.bytes ": input file is also the output")
    return { t with failed := true }
  match s.commons.streams[number]?.elim (.error .badDescriptor) fun stream => s.ahead stream none with
  | .error fault =>
    if fault = .isDirectory && p.g.value? 'd' = some (Text.bytes "skip") then return t
    else
      p.complainOf name fault
      return { t with failed := true }
  | .ok data =>
    let isBinary := data.contains (if p.view.ending = 0 then 128 else 0)
    if isBinary && p.binary = .skipped then
      set (s.advance number data.length)
      return t
    else
      let told := isBinary && p.binary = .told
      let quiet := p.quiet || p.listing.isSome || p.counting || told
      let stops := p.quiet || p.listing.isSome || (told && !p.counting)
      let view := { p.view with
        name := if titled then some name else none
        most := if stops && p.view.most.isNone then some 1 else p.view.most }
      let result := Selecting.through p.selection view quiet { used := t.used } (Lines.split view.ending data)
      let settled := if p.view.most.isSome && result.full then result.passed
        else if p.quiet then min data.length grepBlock
        else data.length
      set (s.advance number settled)
      let title := if titled then name ++ [view.nameEnd.getD (byte ':')] else []
      if p.counting then put (title ++ decimal result.count ++ [newline])
      let found : Bool := 0 < result.count
      if p.listing = some found then put (name ++ [view.nameEnd.getD newline])
      put result.shown.reverse.flatten
      if found && !p.quiet && p.listing.isNone && !p.counting && (told || result.spoiled) then
        complain (name ++ Text.bytes ": binary file matches")
      return { t with
        selected := t.selected || found
        used := result.used
        finished := t.finished || (p.quiet && found) }

/-- Whether a name is left out by the options that say which files are looked at. -/
def leavesOut (g : Given) (isDir : Bool) (name : Bytes) : Bool :=
  let fits (letter : Char) : Bool := (g.values letter).any fun pattern =>
    let p := Pattern.ofBytes pattern
    p.fits name || p.fits (Print.baseName name)
  if isDir then fits 'δ' else fits 'ξ' || (!(g.values 'ι').isEmpty && !fits 'ι')

/-- Go through the file at a path, and with `recursive` those below it. `depth` bounds the nesting. -/
def searchPath (p : GrepPlan) (recursive follows : Bool) (titled : Bool) :
    (depth : Nat) → (path : Bytes) → GrepState → StateM Scene GrepState
  | 0, _, t => return t
  | depth + 1, path, t => do
    if t.finished then return t
    let s ← get
    match s.disk.locate s.dir path with
    | .error fault =>
      p.complainOf path fault
      return { t with failed := true }
    | .ok place =>
      match s.disk.node? place.id, recursive with
      | some (.dir entries _), true =>
        let mut t := t
        for (name, id) in entries do
          let below := if path.isEmpty then name else Files.under path name
          match s.disk.node? id with
          | some (.dir ..) =>
            if !leavesOut p.g true name then t ← searchPath p true follows titled depth below t
          | some (.file ..) | some (.report _) | some (.tool _) =>
            if !leavesOut p.g false name then t ← searchPath p true follows titled depth below t
          | some (.link _) =>
            if follows && !leavesOut p.g false name then t ← searchPath p true follows titled depth below t
          | _ => pure ()
        return t
      | some _, _ =>
        match s.openFile path .read with
        | .error fault =>
          p.complainOf path fault
          return { t with failed := true }
        | .ok (number, s) =>
          set s
          searchStream p path titled false number t
      | none, _ => return t

/-- Go through what an operand names. -/
def searchOperand (p : GrepPlan) (recursive follows severalNamed : Bool) (path : Bytes) (t : GrepState) :
    StateM Scene GrepState := do
  let s ← get
  let named (deep : Bool) : Bool := if p.g.last? ['H', 'h'] = some 'H' then true
    else if p.g.last? ['H', 'h'] = some 'h' then false
    else severalNamed || deep
  if t.finished then return t
  else if Inputs.isStandard path then
    match s.descriptors.lookup 0 with
    | none =>
      p.complainOf (Text.bytes "(standard input)") .badDescriptor
      return { t with failed := true }
    | some number =>
      searchStream p ((p.g.value? 'λ').getD (Text.bytes "(standard input)")) (named false) true number t
  else
    let isDir := (s.find? path).any Node.isDir
    if leavesOut p.g isDir path then return t
    else searchPath p recursive follows (named (recursive && isDir)) 64 path t

/-! ## Arguments -/

def grepTable : OptionTable :=
  { letters := "EFGPHILTUZabchilnoqrRsuvwxyz0123456789", valued := "ABCDdefmXλξδιχσβ", optional := "κ",
    words := [("extended-regexp", 'E'), ("fixed-strings", 'F'), ("fixed-regexp", 'F'), ("basic-regexp", 'G'),
      ("perl-regexp", 'P'), ("after-context", 'A'), ("before-context", 'B'), ("context", 'C'), ("regexp", 'e'),
      ("file", 'f'), ("ignore-case", 'i'), ("invert-match", 'v'), ("word-regexp", 'w'), ("line-regexp", 'x'),
      ("count", 'c'), ("files-with-matches", 'l'), ("files-without-match", 'L'), ("max-count", 'm'),
      ("only-matching", 'o'), ("quiet", 'q'), ("silent", 'q'), ("no-messages", 's'), ("byte-offset", 'b'),
      ("with-filename", 'H'), ("no-filename", 'h'), ("label", 'λ'), ("line-number", 'n'), ("initial-tab", 'T'),
      ("null", 'Z'), ("null-data", 'z'), ("text", 'a'), ("binary", 'U'), ("binary-files", 'β'), ("devices", 'D'),
      ("directories", 'd'), ("exclude", 'ξ'), ("exclude-dir", 'δ'), ("include", 'ι'), ("exclude-from", 'χ'),
      ("recursive", 'r'), ("dereference-recursive", 'R'), ("group-separator", 'σ'), ("no-group-separator", 'ς'),
      ("line-buffered", 'u'), ("color", 'κ'), ("colour", 'κ'), ("no-ignore-case", 'ν')] }

/-- The number of lines around that digits among the options ask for. -/
def contextDigits (g : Given) : Option Bytes :=
  let digits := (g.options.map (·.1)).filter Char.isDigit
  if digits.isEmpty then none else some (digits.map byte)

/-- Complain of the arguments. -/
def complainOfGrepUse (text : Bytes) : StateM Scene Nat := do
  if !text.isEmpty then complain text
  modify fun s => s.complain (Text.bytes
    "Usage: grep [OPTION]... PATTERNS [FILE]...\nTry 'grep --help' for more information.\n")
  return 2

/-- How expressions are understood, as far as the options agree. -/
def styleOf (preset : Option Char) (g : Given) : Option Style :=
  let asked := preset.toList ++ (g.options.map (·.1)).filter fun letter => "EFGP".toList.contains letter
  let style (letter : Char) : Style := match letter with
    | 'E' => .extended
    | 'F' => .fixed
    | 'P' => .lively
    | _ => .basic
  asked.foldl (fun found letter => match found with
    | none => none
    | some none => some (some letter)
    | some (some before) =>
      if before = letter then some (some letter)
      else none) (some none) |>.map fun found => (found.map style).getD .basic

/-- The lines of a text of patterns. -/
def patternLines (text : Bytes) : List Bytes :=
  text.splitOn newline

/-- The patterns that options and operands give, and the other operands; `none` if there are none. -/
def patternsOf (g : Given) : StateM Scene (Except (Option (Bytes × Fault)) (List Bytes × List Bytes)) := do
  if !g.has 'e' && !g.has 'f' then
    return match g.operands with
      | [] => .error none
      | first :: rest => .ok (patternLines first, rest)
  else
    let mut all : List Bytes := []
    for (letter, value) in g.options do
      if letter = 'e' then all := all ++ patternLines value
      else if letter = 'f' then
        match ← Inputs.load value with
        | .error fault => return .error (some (value, fault))
        | .ok data =>
          if !data.isEmpty then
            all := all ++ patternLines (if data.getLast? = some newline then data.dropLast else data)
    return .ok (all, g.operands)

/-- Read all expressions, and complain of the first that is wrong. -/
def readExpressions (style : Style) (g : Given) (patterns : List Bytes) : StateM Scene (Option (List Matcher)) := do
  let mut all : List Matcher := []
  for pattern in patterns do
    match readExpression style g pattern with
    | .error fault =>
      complainText fault.text
      return none
    | .ok (m, pointless) =>
      for sign in pointless do
        complainText ("warning: " ++ sign ++ " at start of expression")
      all := m :: all
  return some all.reverse

/-- Prints the lines of its inputs in which an expression fits. -/
def grep (preset : Option Char) : Utility := fun args => do
  match grepTable.read args with
  | .error fault => complainOfGrepUse fault.text
  | .ok g =>
    let badContext := (g.options.filter fun (letter, _) => "ABC".toList.contains letter).find? fun (_, value) =>
      (number? value).isNone
    let badDirs := (g.values 'd').find? fun word =>
      !(["read", "recurse", "skip"].any fun known => Text.bytes known = word)
    match badContext, badDirs, (g.values 'm').any fun value => (number? value).isNone, styleOf preset g with
    | some (_, value), _, _, _ =>
      complain (value ++ Text.bytes ": invalid context length argument")
      return 2
    | none, some word, _, _ =>
      complain (Text.bytes "invalid argument " ++ Quoted.curly word ++ Text.bytes " for " ++
        Quoted.curly (Text.bytes "--directories") ++ Text.bytes "\nValid arguments are:\n  - \u2018read\u2019" ++
        Text.bytes "\n  - \u2018recurse\u2019\n  - \u2018skip\u2019")
      complainOfGrepUse []
    | none, none, true, _ =>
      complainText "invalid max count"
      return 2
    | none, none, false, none =>
      complainText "conflicting matchers specified"
      return 2
    | none, none, false, some style =>
      match ← patternsOf g with
      | .error none => complainOfGrepUse []
      | .error (some (path, fault)) =>
        complain (path ++ Text.bytes (": " ++ fault.text))
        return 2
      | .ok (patterns, operands) =>
        if style = .lively && 1 < patterns.length then
          complainText "the -P option only supports a single pattern"
          return 2
        match ← readExpressions style g patterns with
        | none => return 2
        | some matchers =>
          let most := (g.value? 'm').bind number?
          if most = some 0 then return 1
          let contextOf (letter : Char) : Option Nat :=
            (((g.value? letter).orElse fun _ => g.value? 'C').orElse fun _ =>
            contextDigits g).bind number?
          let hasContext := g.has 'A' || g.has 'B' || g.has 'C' || (contextDigits g).isSome
          let binary : BinaryRule := match g.last? ['a', 'I', 'β'] with
            | some 'a' => .asText
            | some 'I' => .skipped
            | some _ =>
              if g.value? 'β' = some (Text.bytes "text") then .asText
              else if g.value? 'β' = some (Text.bytes "without-match") then .skipped
              else .told
            | none => .told
          let view : GrepView := {
            ending := Lines.ending g
            name := none
            numbered := g.has 'n'
            offsets := g.has 'b'
            tabbed := g.has 'T'
            nameEnd := if g.has 'Z' then some 0 else none
            onlyFits := g.has 'o'
            before := (contextOf 'B').getD 0
            after := (contextOf 'A').getD 0
            separator := if !hasContext || g.has 'ς' then none else some ((g.value? 'σ').getD (Text.bytes "--"))
            most := most
            asText := binary = .asText }
          let plan : GrepPlan := {
            g := g
            selection := { matchers := matchers, inverted := g.has 'v' }
            view := if g.has 'o' && g.has 'v' then { view with before := 0, after := 0, separator := none } else view
            binary := binary
            listing := (g.last? ['l', 'L']).map (· == 'l')
            counting := g.has 'c' && !g.has 'q' && !g.has 'l' && !g.has 'L'
            quiet := g.has 'q'
            silent := g.has 's' }
          let recursive := g.has 'r' || g.has 'R' || g.value? 'd' = some (Text.bytes "recurse")
          let mut t : GrepState := {}
          if operands.isEmpty && recursive then
            t ← searchBelow plan (g.has 'R') t
          else
            for path in Inputs.paths operands do
              t ← searchOperand plan recursive (g.has 'R') (1 < operands.length) path t
          return if t.failed && !(plan.quiet && t.selected) then 2 else if t.selected then 0 else 1
where
  /-- Go through the working directory. -/
  searchBelow (p : GrepPlan) (follows : Bool) (t : GrepState) : StateM Scene GrepState := do
    let s ← get
    let titled := p.g.last? ['H', 'h'] != some 'h'
    let mut t := t
    for (name, id) in ((s.disk.entries? s.dir.id).getD []) do
      let isDir := (s.disk.node? id).any Node.isDir
      let isLink := (s.disk.node? id).any Node.isLink
      if !leavesOut p.g isDir name && (follows || !isLink) then t ← searchPath p true follows titled 64 name t
    return t

end Search

end LineShell.Host
