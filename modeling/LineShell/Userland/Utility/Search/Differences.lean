import LineShell.Userland.Calendar
import LineShell.Userland.Pattern
import LineShell.Userland.Regex.Fitting
import LineShell.Userland.Regex.Reading
import LineShell.Userland.Revision
import LineShell.Userland.Utility.Inputs
import LineShell.Userland.Utility.Print
import LineShell.Userland.Utility.Size

/-!
# Comparing files

`cmp` finds the first byte in which two files differ, or all of them; `diff` shows what has to be changed in one file
to make it another one, line by line, and compares directories.

- `compareBytes` is where two texts differ first;
- `Sheet.written` shows changes in one of the styles.
-/

namespace LineShell.Host

namespace Comparing

/-- Say where help is to be had, under the name of the program. -/
def referByName : StateM Scene Unit := do
  complain (Text.bytes "Try '" ++ (← get).title ++ Text.bytes " --help' for more information.")

/-- Complain of the way a utility was called, and end with trouble. -/
def misused (text : Bytes) : StateM Scene Nat := do
  complain text
  referByName
  return 2

/-- A text between plain quotes. -/
def quoted (text : Bytes) : Bytes :=
  byte '\'' :: text ++ [byte '\'']

/-- Run on the options and operands. -/
def comparing (table : OptionTable) (act : List Bytes → Given → StateM Scene Nat) : Utility := fun args =>
  match table.read args with
  | .ok g => act args g
  | .error fault => misused fault.text

/-! ## cmp -/

/-- A byte as it is shown: signs for control characters and for the highest bit. -/
def visible (b : UInt8) : Bytes :=
  let (lead, b) := if 128 ≤ b then (Text.bytes "M-", b - 128) else ([], b)
  lead ++ if b < 32 then [byte '^', b + 64] else if b = 127 then Text.bytes "^?" else [b]

/-- The three octal digits of a byte. -/
def octalDigits (b : UInt8) : Bytes :=
  padLeft 3 (byte ' ') ((Nat.toDigits 8 b.toNat).map byte)

/-- Where a comparison of bytes ended. -/
inductive BytesEnd
  | equal
  | differ (place line : Nat) (a b : UInt8)
  /-- One of the files ended, the second one or the first. -/
  | ended (second : Bool) (place line : Nat) (atStart : Bool)
deriving DecidableEq, Repr

/-- Compare two texts from a place on. -/
def compareBytes (place line : Nat) (atStart : Bool) : Bytes → Bytes → BytesEnd
  | [], [] => .equal
  | [], _ :: _ => .ended false place line atStart
  | _ :: _, [] => .ended true place line atStart
  | a :: as, b :: bs =>
    if a = b then compareBytes (place + 1) (if a = newline then line + 1 else line) (a = newline) as bs
    else .differ (place + 1) line a b

/-- A count of bytes, which starts with a digit. -/
def readAmount (word : Bytes) : Option Nat :=
  if word.head?.any isDigit then Size.read? word else none

/-- How many bytes each file is read from on. -/
def readSkips (word : Bytes) : Option (Nat × Nat) :=
  let first := word.takeWhile (· != byte ':')
  let rest := word.drop first.length
  match readAmount first with
  | none => none
  | some n => if rest.isEmpty then some (n, n) else (readAmount rest.tail).map fun m => (n, m)

/-- What is read of a file, or why it cannot be read. -/
def content (path : Bytes) : StateM Scene (Except Fault Bytes) :=
  Inputs.load path

/-- The file that an operand stands for, if it is one of the disk. -/
def fileOf (s : Scene) (path : Bytes) : Option Nat :=
  if Inputs.isStandard path then
    match s.stream? 0 with
    | some (_, .file id ..) => some id
    | _ => none
  else (s.disk.locate? s.dir path).map (·.id)

/-- Whether two operands are one and the same file. -/
def areSame (s : Scene) (a b : Bytes) : Bool :=
  a = b && Inputs.isStandard a || ((fileOf s a).isSome && fileOf s a = fileOf s b)

/-- The lines that show all bytes in which two texts differ. -/
def allDifferences (width : Nat) (shown : Bool) (a b : Bytes) : List Bytes :=
  ((a.zip b).zipIdx 1).filterMap fun ((x, y), n) =>
    if x = y then none
    else
      let place := padLeft width (byte ' ') (decimal n)
      some (if shown then place ++ byte ' ' :: octalDigits x ++ byte ' ' :: padRight 4 (byte ' ') (visible x) ++
          byte ' ' :: octalDigits y ++ byte ' ' :: visible y
        else place ++ byte ' ' :: octalDigits x ++ byte ' ' :: octalDigits y)

/-- Finds bytes in which two files differ. -/
def cmp : Utility := comparing
  { letters := "bcls", valued := "in",
    words := [("print-bytes", 'b'), ("print-chars", 'b'), ("verbose", 'l'), ("quiet", 's'), ("silent", 's'),
      ("ignore-initial", 'i'), ("bytes", 'n')] } fun _ g => do
  let silent := g.has 's'
  let badSkip := (g.values 'i').find? fun word => (readSkips word).isNone
  let badCount := (g.values 'n').find? fun word => (readAmount word).isNone
  let extraSkips := (g.operands.drop 2).find? fun word => (readAmount word).isNone
  match badSkip.or extraSkips, badCount, g.operands[4]? with
  | some word, _, _ => misused (Text.bytes "invalid --ignore-initial value " ++ quoted word)
  | _, some word, _ => misused (Text.bytes "invalid --bytes value " ++ quoted word)
  | _, _, some word => misused (Text.bytes "extra operand " ++ quoted word)
  | none, none, none =>
    if g.has 'l' && silent then misused (Text.bytes "options -l and -s are incompatible")
    else
      match g.operands with
      | [] => misused (Text.bytes "missing operand after " ++ quoted (← get).title)
      | first :: others =>
        let second := others.headD [byte '-']
        let (skip₁, skip₂) := ((g.value? 'i').bind readSkips).getD (0, 0)
        let skip₁ := ((others[1]?).bind readAmount).getD skip₁
        let skip₂ := ((others[2]?).bind readAmount).getD skip₂
        let limit := (g.value? 'n').bind readAmount
        if areSame (← get) first second && skip₁ = skip₂ then return 0
        else
          let failed (path : Bytes) (fault : Fault) : StateM Scene Nat := do
            if !silent then complain (path ++ Text.bytes (": " ++ fault.text))
            return 2
          let missing (path : Bytes) : StateM Scene (Option Fault) := do
            if Inputs.isStandard path then return none
            else
              match (← get).openFile path .read with
              | .ok _ => return none
              | .error fault => return some fault
          match ← missing first with
          | some fault => failed first fault
          | none =>
          match ← missing second with
          | some fault => failed second fault
          | none =>
          match ← content first with
          | .error fault => failed first fault
          | .ok a =>
          match ← content second with
          | .error fault => failed second fault
          | .ok b =>
            let cut (skip : Nat) (text : Bytes) : Bytes :=
              let rest := text.drop skip
              (limit.map rest.take).getD rest
            let a := cut skip₁ a
            let b := cut skip₂ b
            let found := compareBytes 0 1 true a b
            if silent then return if found = .equal then 0 else 1
            let isFile (path : Bytes) : StateM Scene Bool := do return (fileOf (← get) path).isSome
            let sizes := (if ← isFile first then [a.length] else []) ++ if ← isFile second then [b.length] else []
            let least := sizes.foldl min (limit.getD 0x7fffffffffffffff)
            let differences := if g.has 'l' then allDifferences (decimal least).length (g.has 'b' || g.has 'c') a b
              else []
            for line in differences do putLine line
            let ended (path : Bytes) (place line : Nat) (atStart : Bool) : StateM Scene Unit :=
              if place = 0 then complain (Text.bytes "EOF on " ++ path ++ Text.bytes " which is empty")
              else
                complain (Text.bytes "EOF on " ++ path ++ Text.bytes " after byte " ++ decimal place ++
                  if g.has 'l' then []
                  else if atStart then Text.bytes ", line " ++ decimal (line - 1)
                  else Text.bytes ", in line " ++ decimal line)
            if g.has 'l' then
              let place := min a.length b.length
              if a.length != b.length then ended (if a.length < b.length then first else second) place 1 false
              return if differences.isEmpty && a.length = b.length then 0 else 1
            else
              match found with
              | .equal => return 0
              | .ended shorter place line atStart =>
                ended (if shorter then second else first) place line atStart
                return 1
              | .differ place line x y =>
                let bytes := if g.has 'b' || g.has 'c' then
                    Text.bytes " is " ++ octalDigits x ++ byte ' ' :: visible x ++ byte ' ' :: octalDigits y ++
                      byte ' ' :: visible y
                  else []
                let unit := if bytes.isEmpty then "char " else "byte "
                putLine (first ++ byte ' ' :: second ++ Text.bytes (" differ: " ++ unit) ++ decimal place ++
                  Text.bytes ", line " ++ decimal line ++ bytes)
                return 1

/-! ## Ways of showing changes -/

/-- How changes are shown. -/
inductive Style
  | plain
  /-- With so many lines around each change. -/
  | unified (context : Nat)
  | context (context : Nat)
  | script
  | forwardScript
  | counted
  | sideBySide
deriving DecidableEq, Repr

/-- Two files side by side: their lines with what ends them, and what is to be changed. -/
structure Sheet where
  left : Array Bytes
  right : Array Bytes
  changes : List Revision.Change
  /-- In front of a line there is a tab, not a blank. -/
  tabbed : Bool := false
  width : Nat := 130
  expands : Bool := false
  leftOnly : Bool := false
  changesOnly : Bool := false

namespace Sheet

/-- A line behind a mark. -/
def marked (lead line : Bytes) : Bytes :=
  if Lines.isEnded newline line then lead ++ line
  else lead ++ line ++ Text.bytes "\n\\ No newline at end of file\n"

/-- Some lines of a file, each behind a mark. -/
def part (lines : Array Bytes) (lead : Bytes) (start count : Nat) : Bytes :=
  (lines.extract start (start + count)).toList.flatMap (marked lead)

/-- The numbers of some lines, the first and the last; of no lines, the one before them. -/
def span (start count : Nat) : Bytes :=
  if count ≤ 1 then decimal (start + count) else decimal (start + 1) ++ byte ',' :: decimal (start + count)

/-- The letter for a change. -/
def letter (c : Revision.Change) : UInt8 :=
  byte (if c.removed = 0 then 'a' else if c.added = 0 then 'd' else 'c')

/-- One change in the usual way. -/
def plainChange (t : Sheet) (c : Revision.Change) : Bytes :=
  let gap : UInt8 := if t.tabbed then 9 else byte ' '
  span c.left c.removed ++ letter c :: span c.right c.added ++ [newline] ++
    part t.left [byte '<', gap] c.left c.removed ++
    (if c.removed != 0 && c.added != 0 then Text.bytes "---\n" else []) ++
    part t.right [byte '>', gap] c.right c.added

/-- Changes so close to each other that the lines around them touch are one hunk. -/
def hunks (context : Nat) (changes : List Revision.Change) : List (List Revision.Change) :=
  changes.splitBy fun a b => b.left - (a.left + a.removed) ≤ 2 * context

/-- The lines that a hunk is about: where they start in each file, and how many there are. -/
def hunkSpan (t : Sheet) (context : Nat) (hunk : List Revision.Change) : Nat × Nat × Nat × Nat :=
  match hunk.head?, hunk.getLast? with
  | some first, some last =>
    let before := min context (min first.left first.right)
    let start₁ := first.left - before
    let start₂ := first.right - before
    let end₁ := min (last.left + last.removed + context) t.left.size
    let end₂ := min (last.right + last.added + context) t.right.size
    (start₁, end₁ - start₁, start₂, end₂ - start₂)
  | _, _ => (0, 0, 0, 0)

/-- Numbers of lines as the head of a hunk shows them. -/
def headSpan (start count : Nat) : Bytes :=
  if count = 0 then decimal start ++ Text.bytes ",0"
  else if count = 1 then decimal (start + 1)
  else decimal (start + 1) ++ byte ',' :: decimal count

/-- The lines of a hunk, both files in one. -/
def unifiedLines (t : Sheet) (gap : Bytes) : (place stop : Nat) → List Revision.Change → Bytes
  | place, stop, [] => part t.left (if gap.isEmpty then [byte ' '] else gap) place (stop - place)
  | place, stop, c :: rest =>
    part t.left (if gap.isEmpty then [byte ' '] else gap) place (c.left - place) ++
      part t.left (byte '-' :: gap) c.left c.removed ++ part t.right (byte '+' :: gap) c.right c.added ++
      unifiedLines t gap (c.left + c.removed) stop rest

def unifiedHunk (t : Sheet) (context : Nat) (hunk : List Revision.Change) : Bytes :=
  let (start₁, count₁, start₂, count₂) := t.hunkSpan context hunk
  Text.bytes "@@ -" ++ headSpan start₁ count₁ ++ Text.bytes " +" ++ headSpan start₂ count₂ ++ Text.bytes " @@\n" ++
    t.unifiedLines (if t.tabbed then [9] else []) start₁ (start₁ + count₁) hunk

/-- Numbers of lines as hunks of two parts show them. -/
def partSpan (start count : Nat) : Bytes :=
  if count ≤ 1 then decimal (start + count) else decimal (start + 1) ++ byte ',' :: decimal (start + count)

/-- The lines of one file in a hunk of two parts. -/
def sideLines (lines : Array Bytes) (gap : UInt8) (mark : UInt8) (place stop : Nat) :
    List (Nat × Nat × Bool) → Bytes
  | [] => part lines [byte ' ', gap] place (stop - place)
  | (start, count, both) :: rest =>
    part lines [byte ' ', gap] place (start - place) ++ part lines [if both then byte '!' else mark, gap] start count ++
      sideLines lines gap mark (start + count) stop rest

def contextHunk (t : Sheet) (context : Nat) (hunk : List Revision.Change) : Bytes :=
  let (start₁, count₁, start₂, count₂) := t.hunkSpan context hunk
  let both (c : Revision.Change) : Bool := c.removed != 0 && c.added != 0
  let gap : UInt8 := if t.tabbed then 9 else byte ' '
  let lines₁ := if hunk.all (·.removed = 0) then [] else
    sideLines t.left gap (byte '-') start₁ (start₁ + count₁) (hunk.map fun c => (c.left, c.removed, both c))
  let lines₂ := if hunk.all (·.added = 0) then [] else
    sideLines t.right gap (byte '+') start₂ (start₂ + count₂) (hunk.map fun c => (c.right, c.added, both c))
  Text.bytes "***************\n*** " ++ partSpan start₁ count₁ ++ Text.bytes " ****\n" ++ lines₁ ++
    Text.bytes "--- " ++ partSpan start₂ count₂ ++ Text.bytes " ----\n" ++ lines₂

/-- The lines that a script for an editor adds; a lone point would end them. -/
def scriptLines (lines : Array Bytes) (start count : Nat) : Bytes :=
  let point := Text.bytes ".\n"
  let rows := (lines.extract start (start + count)).toList
  let shown := rows.flatMap fun line => if line = point then Text.bytes "..\n.\ns/.//\na\n" else line
  if rows.getLast? = some point then shown.take (shown.length - 2) else shown ++ point

def scriptChange (t : Sheet) (c : Revision.Change) : Bytes :=
  span c.left c.removed ++ letter c :: newline :: if c.added = 0 then [] else scriptLines t.right c.right c.added

def forwardChange (t : Sheet) (c : Revision.Change) : Bytes :=
  letter c :: (span c.left c.removed).map (fun b => if b = byte ',' then byte ' ' else b) ++ [newline] ++
    if c.added = 0 then [] else (t.right.extract c.right (c.right + c.added)).toList.flatten ++ Text.bytes ".\n"

def countedChange (t : Sheet) (c : Revision.Change) : Bytes :=
  (if c.removed = 0 then []
    else byte 'd' :: decimal (c.left + 1) ++ byte ' ' :: decimal c.removed ++ [newline]) ++
  if c.added = 0 then []
  else byte 'a' :: decimal (c.left + c.removed) ++ byte ' ' :: decimal c.added ++ [newline] ++
    (t.right.extract c.right (c.right + c.added)).toList.flatten

/-! ### Side by side -/

/-- Blanks, and tabs where they fit, from one column to another. -/
def gapTo (t : Sheet) (start stop : Nat) : Bytes :=
  let tabs := if t.expands then 0 else stop / 8 - start / 8
  let start := if tabs = 0 then start else (start / 8 + tabs) * 8
  List.replicate tabs 9 ++ List.replicate (stop - start) (byte ' ')

/-- The width of half a line and the column of the second half. -/
def halves (t : Sheet) : Nat × Nat :=
  let step := if t.expands then 1 else 8
  let column := (t.width + step + 3) / (2 * step) * step
  let half := min (column - 3) (t.width - column)
  (half, if half = 0 then t.width else column)

/-- As much of a line as fits into a width, and the column behind it. -/
def half (t : Sheet) (width : Nat) (line : Bytes) : Bytes × Nat :=
  let (shown, _, column) := (Symbols.ofBytes (Lines.bare newline line)).foldl
    (fun ((shown, place, column) : List Bytes × Nat × Nat) x =>
      if x = 9 then
        let next := place + 8 - place % 8
        if place = column && next < width then
          ((if t.expands then List.replicate (next - place) (byte ' ') else [9]) :: shown, next, next)
        else (shown, next, column)
      else
        let next := place + x.columns
        if next ≤ width then (x.bytes :: shown, next, next) else (shown, next, column))
    (([] : List Bytes), 0, 0)
  (shown.reverse.flatten, column)

/-- A line of each file, with a mark between them. -/
def pairLine (t : Sheet) (left : Option Bytes) (mark : Char) (right : Option Bytes) : Bytes :=
  let (width, second) := t.halves
  let (shown, column) := t.half width (left.getD [])
  let isEnded (line : Option Bytes) : Bool := line.any (Lines.isEnded newline)
  let mark := if mark = '|' && isEnded left != isEnded right then if isEnded left then '/' else '\\' else mark
  let place := (width + second - 1) / 2
  let (middle, column) := if mark = ' ' then ([], column)
    else (t.gapTo column place ++ [byte mark], place + 1)
  let rest : Bytes := match right with
    | some line => if line = [newline] then [] else t.gapTo column second ++ (t.half width line).1
    | none => []
  shown ++ middle ++ rest ++ if isEnded left || isEnded right then [newline] else []

/-- The lines from two places on, side by side. -/
def pairLines (t : Sheet) : (left right : Nat) → List Revision.Change → Bytes
  | left, right, changes =>
    let equal (count : Nat) : Bytes := if t.changesOnly then [] else
      (List.range count).flatMap fun n =>
        if t.leftOnly then t.pairLine t.left[left + n]? '(' none
        else t.pairLine t.left[left + n]? ' ' t.right[right + n]?
    match changes with
    | [] => equal (t.left.size - left)
    | c :: rest =>
      let both := min c.removed c.added
      equal (c.left - left) ++
        ((List.range both).flatMap fun n => t.pairLine t.left[c.left + n]? '|' t.right[c.right + n]?) ++
        ((List.range (c.added - both)).flatMap fun n => t.pairLine none '>' t.right[c.right + both + n]?) ++
        ((List.range (c.removed - both)).flatMap fun n => t.pairLine t.left[c.left + both + n]? '<' none) ++
        pairLines t (c.left + c.removed) (c.right + c.added) rest

/-- All changes in a style. -/
def written (t : Sheet) : Style → Bytes
  | .plain => t.changes.flatMap t.plainChange
  | .unified n => (hunks n t.changes).flatMap (t.unifiedHunk n)
  | .context n => (hunks n t.changes).flatMap (t.contextHunk n)
  | .script => t.changes.reverse.flatMap t.scriptChange
  | .forwardScript => t.changes.flatMap t.forwardChange
  | .counted => t.changes.flatMap t.countedChange
  | .sideBySide => t.pairLines 0 0 t.changes

end Sheet

/-! ## diff -/

/-- How files are compared. -/
structure Terms where
  g : Given
  style : Style
  /-- The options as they were written. -/
  words : Bytes
  ignored : Option Matcher := none

namespace Terms

/-- A line as it counts. -/
def key (t : Terms) (line : Bytes) : Bytes :=
  let isGap (b : UInt8) : Bool := isBlank b
  let trimEnd (text : Bytes) : Bytes := (text.reverse.dropWhile isGap).reverse
  let line := if t.g.has 'ρ' && (Text.bytes "\x0d\n").isSuffixOf line then line.take (line.length - 2) ++ [newline]
    else line
  let line :=
    if t.g.has 'w' then line.filter fun b => !isGap b
    else if t.g.has 'b' then
      trimEnd (((line.splitBy fun a b => isGap a = isGap b).map fun run =>
        if run.any isGap then [byte ' '] else run).flatten)
    else if t.g.has 'Z' then trimEnd line
    else line
  if t.g.has 'i' then line.map fun b => if byte 'A' ≤ b && b ≤ byte 'Z' then b + 32 else b else line

/-- Lines as numbers; equal lines have the same one. -/
def numbered (t : Terms) (left right : Array Bytes) : Array Nat × Array Nat :=
  let keys := (left.map t.key, right.map t.key)
  let sorted := (keys.1 ++ keys.2).toList.mergeSort fun a b => compareOfLessAndEq a b != .gt
  let known := sorted.eraseReps.toArray
  let find (key : Bytes) : Nat := place known key (known.size + 1) 0 known.size
  (keys.1.map find, keys.2.map find)
where
  /-- The place of a key among sorted ones, between two places. `fuel` is more than their distance. -/
  place (known : Array Bytes) (key : Bytes) : (fuel : Nat) → Nat → Nat → Nat
    | 0, low, _ => low
    | fuel + 1, low, high =>
      if high ≤ low + 1 then low
      else
        let middle := (low + high) / 2
        if compareOfLessAndEq ((known[middle]?).getD []) key = .gt then place known key fuel low middle
        else place known key fuel middle high

/-- Whether a change does not count. -/
def ignores (t : Terms) (left right : Array Bytes) (c : Revision.Change) : Bool :=
  let lines := (left.extract c.left (c.left + c.removed)).toList ++ (right.extract c.right (c.right + c.added)).toList
  let blank (line : Bytes) : Bool := t.g.has 'B' && (t.key line).all fun b => b = newline
  let fits (line : Bytes) : Bool :=
    t.ignored.any fun m => m.occurs (Symbols.ofBytes (Lines.bare newline line)).toArray
  (t.g.has 'B' || t.ignored.isSome) && lines.all fun line => blank line || fits line

/-- How many equal lines around changes are of interest. -/
def margin (t : Terms) : Nat :=
  match t.style with
  | .unified n | .context n => n
  | _ => 0

end Terms

/-- One side of a comparison of files: its name, and what it holds. -/
structure Side where
  name : Bytes
  content : Bytes
  time : Int := Disk.epoch

/-- Whether a text is none. -/
def isBinary (content : Bytes) : Bool :=
  (content.take 4096).contains 0

/-- What stands in front of hunks for one file. -/
def headLine (mark : String) (label : Option Bytes) (side : Side) : Bytes :=
  let stamp (n : Int) : Bytes :=
    (Moment.ofTime n).render (Text.bytes "%Y-%m-%d %H:%M:%S.%N %z")
  Text.bytes (mark ++ " ") ++ (label.getD (side.name ++ 9 :: stamp side.time)) ++ [newline]

/-- Compare what two files hold. `within` tells whether they are parts of directories. -/
def compareTexts (t : Terms) (within : Bool) (a b : Side) : StateM Scene Nat := do
  let identical : StateM Scene Nat := do
    if t.g.has 's' then
      putLine (Text.bytes "Files " ++ a.name ++ Text.bytes " and " ++ b.name ++ Text.bytes " are identical")
    return 0
  let binary := !t.g.has 'a' && (isBinary a.content || isBinary b.content)
  let labels := t.g.values 'λ'
  if a.content = b.content && t.style != .sideBySide then identical
  else if binary then
    if a.content = b.content then identical
    else
      putLine (Text.bytes ((if t.g.has 'q' then "Files " else "Binary files ")) ++ (labels.headD a.name) ++
        Text.bytes " and " ++ (labels[1]?).getD b.name ++ Text.bytes " differ")
      return 1
  else
    -- Scripts for an editor cannot say that a last line has no end
    let isScript : Bool := t.style = .script || t.style = .forwardScript
    let isOpen (side : Side) : Bool := isScript && !side.content.isEmpty && !Lines.isEnded newline side.content
    let linesOf (side : Side) : Array Bytes :=
      (Lines.split newline (if isOpen side then side.content ++ [newline] else side.content)).toArray
    let left := linesOf a
    let right := linesOf b
    let (m, n) := t.numbered left right
    let changes := (Revision.changes t.margin m n).filter fun c => !t.ignores left right c
    let unended := [a, b].filter isOpen
    let regret : StateM Scene Nat := do
      for side in unended do complain (side.name ++ Text.bytes ": No newline at end of file\n")
      return 2
    if changes.isEmpty && t.style != .sideBySide then if unended.isEmpty then identical else regret
    else if t.g.has 'q' then
      if changes.isEmpty then identical
      else
        putLine (Text.bytes "Files " ++ (labels.headD a.name) ++ Text.bytes " and " ++ (labels[1]?).getD b.name ++
          Text.bytes " differ")
        return 1
    else
      if within then
        putLine (Text.bytes "diff" ++ t.words ++ byte ' ' :: Quoted.whereNeeded (labels.headD a.name) ++
          byte ' ' :: Quoted.whereNeeded ((labels[1]?).getD b.name))
      let head : Bytes := match t.style with
        | .unified _ => headLine "---" labels.head? a ++ headLine "+++" labels[1]? b
        | .context _ => headLine "***" labels.head? a ++ headLine "---" labels[1]? b
        | _ => []
      let sheet : Sheet :=
        { left := left, right := right, changes := changes, tabbed := t.g.has 'T', expands := t.g.has 't'
          width := ((t.g.value? 'W').bind number?).getD 130, leftOnly := t.g.has 'ξ', changesOnly := t.g.has 'ζ' }
      put (head ++ sheet.written t.style)
      if unended.isEmpty then return if changes.isEmpty then 0 else 1 else regret

/-- The path of an entry of a directory. -/
def below (dir name : Bytes) : Bytes :=
  if dir.getLast? = some (byte '/') then dir ++ name else dir ++ byte '/' :: name

/-- What a file of a comparison is called. -/
def kindOfNode : Node → String
  | .dir .. => "directory"
  | .link .. => "symbolic link"
  | .fifo .. => "fifo"
  | .device .. => "character special file"
  | .file content _ => if content.size = 0 then "regular empty file" else "regular file"
  | _ => "regular file"

/-- One side of a comparison: the node, if there is one. -/
def sideOf (s : Scene) (path : Bytes) : Except Fault (Option Node) :=
  if Inputs.isStandard path then .ok none else (s.disk.find s.dir path).map some

/-- Read one side; where it may be missing, it is empty then. -/
def loadSide (t : Terms) (path : Bytes) : StateM Scene (Except Fault Side) := do
  let s ← get
  let time := ((fileOf s path).map s.disk.stampOf).getD (s.disk.now + s.commons.clock)
  match sideOf s path with
  | .error fault => return if fault = .missing && t.g.has 'N' then .ok ⟨path, [], 0⟩ else .error fault
  | .ok _ => return (← Inputs.load path).map fun content => ⟨path, content, time⟩

/-- Compare two files, and what is in them if they are directories. `depth` is how deep one goes. -/
def compareFiles (t : Terms) (within : Bool) : (depth : Nat) → Bytes → Bytes → StateM Scene Nat
  | 0, _, _ => return 2
  | depth + 1, a, b => do
    let s ← get
    let node (path : Bytes) : Option Node := (s.disk.find? s.dir path).filter fun _ => !Inputs.isStandard path
    let entries (path : Bytes) : List Bytes :=
      (((fileOf s path).bind s.disk.entries?).getD []).map (·.1)
    let hidden (name : Bytes) : Bool := (t.g.values 'x').any fun word => (Pattern.ofBytes word).fits name
    match (node a).any Node.isDir, (node b).any Node.isDir with
    | true, true =>
      if within && !t.g.has 'r' then
        putLine (Text.bytes "Common subdirectories: " ++ a ++ Text.bytes " and " ++ b)
        return 0
      else if areSame s a b then return 0
      else
        let names := ((entries a ++ entries b).mergeSort fun x y => compareOfLessAndEq x y != .gt).eraseReps
        let mut status := 0
        for name in names.filter fun name => !hidden name do
          let x := below a name
          let y := below b name
          let inA := (entries a).contains name
          let inB := (entries b).contains name
          let code ←
            if (inA && inB) || t.g.has 'N' then compareFiles t true depth x y
            else do
              putLine (Text.bytes "Only in " ++ (if inA then a else b) ++ Text.bytes ": " ++ name)
              pure 1
          status := max status code
        return status
    | inA, inB =>
      if inA != inB then
        let isMissing (path : Bytes) : Bool := !Inputs.isStandard path && (node path).isNone
        if within && !isMissing a && !isMissing b then
          let kind (path : Bytes) : Bytes := Text.bytes ((node path).elim "regular file" kindOfNode)
          putLine (Text.bytes "File " ++ a ++ Text.bytes " is a " ++ kind a ++ Text.bytes " while file " ++ b ++
            Text.bytes " is a " ++ kind b)
          return 1
        else if within then
          -- A directory on one side only, with the other one taken as empty
          let dir := if inA then a else b
          let mut status := 0
          for name in (entries dir).mergeSort fun x y => compareOfLessAndEq x y != .gt do
            let code ← compareFiles t true depth (below a name) (below b name)
            status := max status code
          return status
        else if isMissing a || isMissing b then
          for path in [a, b] do
            if isMissing path then complain (path ++ Text.bytes (": " ++ Fault.missing.text))
          return 2
        else if Inputs.isStandard a || Inputs.isStandard b then
          complainText "cannot compare '-' to a directory"
          return 2
        else if inA then compareFiles t within depth (below a (Print.baseName b)) b
        else compareFiles t within depth a (below b (Print.baseName a))
      else
        let first ← if areSame s a b then pure (.ok ⟨a, [], 0⟩) else loadSide t a
        let second ← if areSame s a b then pure (.ok ⟨b, [], 0⟩) else loadSide t b
        match first, second with
        | .ok x, .ok y =>
          if areSame s a b then
            if t.g.has 's' then
              putLine (Text.bytes "Files " ++ a ++ Text.bytes " and " ++ b ++ Text.bytes " are identical")
            return 0
          else compareTexts t within x y
        | x, y =>
          for (path, side) in [(a, x), (b, y)] do
            match side with
            | .error fault => complain (path ++ Text.bytes (": " ++ fault.text))
            | .ok _ => pure ()
          return 2

/-- The styles that options ask for. -/
def stylesOf (g : Given) : List Style :=
  let digits := (g.options.filter fun (letter, _) => letter.isDigit).map fun (letter, _) => byte letter
  let usual := if digits.isEmpty then 3 else number digits
  g.options.filterMap fun (letter, value) =>
    match letter with
    | 'u' => some (.unified usual)
    | 'U' => some (.unified (number value))
    | 'c' => some (.context usual)
    | 'C' => some (.context (number value))
    | 'μ' => some (.unified (if value.isEmpty then usual else number value))
    | 'κ' => some (.context (if value.isEmpty then usual else number value))
    | 'e' => some .script
    | 'f' => some .forwardScript
    | 'n' => some .counted
    | 'y' => some .sideBySide
    | 'ν' => some .plain
    | _ => none

def Style.isLike : Style → Style → Bool
  | .unified _, .unified _ | .context _, .context _ => true
  | a, b => a = b

/-- Shows what differs between two files or directories. -/
def diff : Utility := comparing
  { letters := "uceqsrNiwbBEZadHpynfvtTlP0123456789ρνξζ", valued := "UCWxXIFSDLλφτh", optional := "κμοω",
    words := [("brief", 'q'), ("report-identical-files", 's'), ("recursive", 'r'), ("new-file", 'N'),
      ("ignore-case", 'i'), ("ignore-all-space", 'w'), ("ignore-space-change", 'b'), ("ignore-blank-lines", 'B'),
      ("ignore-tab-expansion", 'E'), ("ignore-trailing-space", 'Z'), ("text", 'a'), ("minimal", 'd'),
      ("speed-large-files", 'H'), ("side-by-side", 'y'), ("rcs", 'n'), ("ed", 'e'), ("forward-ed", 'f'),
      ("normal", 'ν'), ("expand-tabs", 't'), ("initial-tab", 'T'), ("strip-trailing-cr", 'ρ'), ("width", 'W'),
      ("exclude", 'x'), ("exclude-from", 'X'), ("ignore-matching-lines", 'I'), ("show-c-function", 'p'),
      ("show-function-line", 'F'), ("starting-file", 'S'), ("label", 'λ'), ("unified", 'μ'), ("context", 'κ'),
      ("color", 'ω'), ("left-column", 'ξ'), ("suppress-common-lines", 'ζ'), ("from-file", 'φ'), ("to-file", 'τ'),
      ("paginate", 'l')] } fun args g => do
  let g := { g with options := g.options.map fun (letter, value) => (if letter = 'L' then 'λ' else letter, value) }
  let badContext := g.options.find? fun (letter, value) =>
    ("UC".toList.contains letter || ("μκ".toList.contains letter && !value.isEmpty)) && (number? value).isNone
  let styles := stylesOf g
  let style := (styles.head?).getD (if g.has 'p' then .context 3 else .plain)
  match badContext with
  | some (_, value) => misused (Text.bytes "invalid context length " ++ quoted value)
  | none =>
    if styles.any fun other => !other.isLike style then misused (Text.bytes "conflicting output style options")
    else
      let ignored := (g.values 'I').getLast?.bind fun word => (Regex.read {} word).toOption
      let words := (args.filter fun word => !g.operands.contains word || g.options.any (·.2 = word)).flatMap fun word =>
        byte ' ' :: Quoted.whereNeeded word
      let t : Terms :=
        { g := g, style := (styles.getLast?).getD style, words := words
          ignored := ignored.map fun r => { regex := r } }
      let all (pairs : List (Bytes × Bytes)) : StateM Scene Nat := do
        let mut status := 0
        for (a, b) in pairs do
          let code ← compareFiles t false 64 a b
          status := max status code
        return status
      match g.value? 'φ', g.value? 'τ', g.operands with
      | some first, _, operands => all (operands.map fun path => (first, path))
      | none, some last, operands => all (operands.map fun path => (path, last))
      | none, none, [a, b] => all [(a, b)]
      | none, none, _ :: _ :: extra :: _ => misused (Text.bytes "extra operand " ++ quoted extra)
      | none, none, _ =>
        misused (Text.bytes "missing operand after " ++ quoted (args.getLastD (← get).title))

end Comparing

end LineShell.Host
