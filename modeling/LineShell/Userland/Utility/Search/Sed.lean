import LineShell.Userland.Utility.Files.Make
import LineShell.Userland.Utility.Inputs
import LineShell.Userland.Utility.Search.Edits

/-!
# Editing lines

`sed` takes the lines of its inputs one after the other, carries out a script on each, and prints what becomes of it.

- `Editing` is where the work stands, `Editing.perform` carries out one command, `Editing.cycle` all that are for a
  line.
-/

namespace LineShell.Host

namespace Edits

/-! ## Substitutions -/

/-- Write symbols in the case that is asked for, the first of them perhaps in another one. -/
def cased (mode once : Casing) (symbols : List Symbol) : List Symbol :=
  let change (c : Casing) (x : Symbol) : Symbol := match c with
    | .upper | .upperNext => x.upper
    | .lower | .lowerNext => x.lower
    | .none => x
  match symbols with
  | [] => []
  | x :: rest => change (if once = .none then mode else once) x :: rest.map (change mode)

/-- What a replacement puts in the place of a fit. -/
def replaced (parts : List Piece) (text : Array Symbol) (found : RegexMatch) : List Symbol :=
  let rec go (mode once : Casing) : List Piece → List Symbol
    | [] => []
    | part :: rest =>
      let write (symbols : List Symbol) : List Symbol :=
        cased mode once symbols ++ go mode (if symbols.isEmpty then once else .none) rest
      match part with
      | .text symbols => write symbols
      | .group 0 => write (Matcher.slice text found.start found.stop)
      | .group n =>
        match found.groups.lookup n with
        | some (start, stop) => write (Matcher.slice text start stop)
        | none => write []
      | .casing c =>
        match c with
        | .upperNext | .lowerNext => go mode c rest
        | .none => go .none .none rest
        | c => go c once rest
  go .none .none parts

/-- Carry out a substitution from a place on, where `count` fits came before and the last of them ended at `ended`.
`fuel` is more than the length. -/
def substituteFrom (m : Matcher) (s : Substitution) (text : Array Symbol) :
    (fuel : Nat) → (place count : Nat) → (ended : Option Nat) → Option (List Symbol)
  | 0, _, _, _ => none
  | fuel + 1, place, count, ended =>
    match m.find text place with
    | none => none
    | some found =>
      let before := Matcher.slice text place found.start
      let behind (place : Nat) : List Symbol := Matcher.slice text place text.size
      let isEmpty := found.stop = found.start
      if isEmpty && ended = some found.start then
        match text[found.start]? with
        | some x => (substituteFrom m s text fuel (found.start + 1) count none).map fun rest => before ++ x :: rest
        | none => none
      else
        let replaces := s.which ≤ count + 1
        let here := if replaces then replaced s.pieces text found else Matcher.slice text found.start found.stop
        if replaces && !s.all then some (before ++ here ++ behind found.stop)
        else
          let rest : Option (List Symbol) :=
            if isEmpty then
              match text[found.stop]? with
              | some x => (substituteFrom m s text fuel (found.stop + 1) (count + 1) none).map (x :: ·)
              | none => none
            else substituteFrom m s text fuel found.stop (count + 1) (some found.stop)
          match rest with
          | some rest => some (before ++ here ++ rest)
          | none => if replaces then some (before ++ here ++ behind found.stop) else none

/-- The text after a substitution, if anything was put in place. -/
def substitute (m : Matcher) (s : Substitution) (data : Bytes) : Option Bytes :=
  let text := (Symbols.ofBytes data).toArray
  (substituteFrom m s text (text.size + 2) 0 0 none).map Symbols.bytes

/-! ## Showing -/

/-- A byte as it is listed. -/
def listedByte (b : UInt8) : Bytes :=
  match Char.ofNat b.toNat with
  | '\\' => Text.bytes "\\\\"
  | '\n' => Text.bytes "\\n"
  | '\t' => Text.bytes "\\t"
  | '\r' => Text.bytes "\\r"
  | _ =>
    match b.toNat with
    | 7 => Text.bytes "\\a"
    | 8 => Text.bytes "\\b"
    | 11 => Text.bytes "\\v"
    | 12 => Text.bytes "\\f"
    | n => if 32 ≤ n && n < 127 then [b] else byte '\\' :: padLeft 3 (byte '0') ((Nat.toDigits 8 n).map byte)

/-- A text listed in lines of a width. -/
def listed (width : Nat) (text : Bytes) : Bytes :=
  let start : List Bytes × Nat := ([], 0)
  let (parts, _) := (text.map listedByte).foldl (fun (parts, column) part =>
    if 0 < width && width - 1 < column + part.length then (part :: Text.bytes "\\\n" :: parts, part.length)
    else (part :: parts, column + part.length)) start
  parts.reverse.flatten ++ Text.bytes "$\n"

/-! ## Where the work stands -/

/-- Something that is shown after a line. -/
inductive Appended
  | text (text : Bytes)
  | file (path : Bytes)
  | line (path : Bytes)
deriving DecidableEq, Repr

/-- What is asked for. -/
structure EditPlan where
  commands : Array EditCommand
  quiet : Bool
  ending : UInt8
  /-- Each input is edited for itself. -/
  separate : Bool
  /-- What is made of the inputs is put in their place; the old ones are kept under a name with this in it. -/
  inPlace : Option Bytes
  width : Nat

/-- Where the work stands. -/
structure Editing where
  /-- The text at work, and whether its line was ended. -/
  space : Bytes := []
  ended : Bool := true
  held : Bytes := []
  heldEnded : Bool := true
  number : Nat := 0
  /-- The lines of the present input that are left. -/
  lines : List Bytes := []
  inputs : List Bytes
  present : Bytes := [byte '-']
  /-- The lengths of standard input and of what is edited in place are known. -/
  standard : Option Nat := none
  edited : Bool := false
  /-- What was printed, latest first, and whether its last line lacks an end. -/
  printed : List Bytes := []
  lacking : Bool := false
  shown : List Bytes := []
  shownLacking : Bool := false
  queue : List Appended := []
  changed : Bool := false
  /-- The commands that are in the middle of a range of lines, and its last line if that is known. -/
  within : List (Nat × Option Nat) := []
  readers : List (Bytes × List Bytes) := []
  writers : List (Bytes × Nat) := []
  lastUsed : Option Matcher := none
  status : Nat := 0

/-- A step of the work. -/
abbrev EditM := StateT Editing (StateM Scene)

/-- How a cycle of commands goes on. -/
inductive EditTurn
  | onward
  | branched (goal : Nat)
  /-- The end of the script. -/
  | finished
  | deleted
  /-- Once more from the start, with what is left of the text. -/
  | again
  | quit (status : Nat)
deriving DecidableEq, Repr

namespace Editing

/-! ## Output -/

/-- Print a text; its last line is ended before anything else is printed. -/
def emit (text : Bytes) (lacks : Bool) : EditM Unit := do
  let e ← get
  let missing := if e.lacking then [newline] else []
  set { e with printed := text :: missing :: e.printed, lacking := lacks }

/-- Print a line. -/
def emitLine (p : EditPlan) (text : Bytes) (ended : Bool) : EditM Unit :=
  emit (if ended then text ++ [p.ending] else text) !ended

/-- Write a line into a file of the script. -/
def writeLine (p : EditPlan) (path text : Bytes) (ended : Bool) : EditM Unit := do
  if path = Text.bytes "/dev/stdout" && p.inPlace.isNone then emitLine p text ended
  else if path = Text.bytes "/dev/stdout" then
    modify fun e => { e with shown := (text ++ [p.ending]) :: e.shown }
  else
    match (← get).writers.lookup path with
    | none => return ()
    | some stream =>
      let s ← getThe Scene
      match s.writeStream stream (if ended then text ++ [p.ending] else text) with
      | .ok s => set s
      | .error _ => return ()

/-- Print what was to be shown after a line. -/
def flushQueue (p : EditPlan) : EditM Unit := do
  let queue := (← get).queue
  for item in queue do
    match item with
    | .text text => if !text.isEmpty then emit text false
    | .file path =>
      let s ← getThe Scene
      if path = Text.bytes "/dev/stdin" then
        match s.readAll 0 with
        | .ok (data, s) => set s; if !data.isEmpty then emit data false
        | .error _ => pure ()
      else
        match s.contentOf? path with
        | some data => if !data.isEmpty then emit data false
        | none => pure ()
    | .line path =>
      let e ← get
      let s ← getThe Scene
      let lines := (e.readers.lookup path).getD (Lines.split p.ending ((s.contentOf? path).getD []))
      match lines with
      | [] => set { e with readers := (path, []) :: e.readers }
      | line :: rest =>
        set { e with readers := (path, rest) :: e.readers.filter (·.1 != path) }
        let isEnded := Lines.isEnded p.ending line
        emitLine p (Lines.bare p.ending line) isEnded
  modify fun e => { e with queue := [] }

/-! ## Input -/

/-- The name under which an old file is kept. -/
def backupPath (suffix path : Bytes) : Bytes :=
  let base := Print.baseName path
  let dir := path.take (path.length - base.length)
  let name := if suffix.contains (byte '*') then suffix.flatMap fun b => if b = byte '*' then base else [b]
    else base ++ suffix
  if name.contains (byte '/') then name else dir ++ name

/-- Put what was printed in the place of the file that was edited. -/
def finishEdited (p : EditPlan) : EditM Unit := do
  let e ← get
  match e.edited, p.inPlace with
  | true, some suffix =>
    let s ← getThe Scene
    match s.disk.locateLast s.dir e.present, s.disk.findLast s.dir e.present with
    | .ok (parent, name), .ok (id, node) =>
      let mode := ((s.find? e.present).getD node).mode
      let kept : Except Fault Disk := if suffix.isEmpty then .ok s.disk else do
        let backup := backupPath suffix e.present
        let d := (s.disk.removeFile s.dir backup).toOption.getD s.disk
        let (backupParent, backupName) ← d.locateLast s.dir backup
        d.attach backupParent backupName id
      match kept with
      | .error fault =>
        complain (Text.bytes "cannot rename " ++ e.present ++ Text.bytes (": " ++ fault.text))
      | .ok d =>
        let (fresh, d) := (d.detach parent name).grown (.file (.ofBytes e.printed.reverse.flatten) mode)
        match d.attach parent name fresh with
        | .ok d => set (s.withDisk (d.mark fresh))
        | .error _ => pure ()
    | _, _ => pure ()
    set { e with printed := [], lacking := false, edited := false }
  | _, _ => return ()

/-- Go past what was used of standard input. -/
def settleStandard : EditM Unit := do
  let e ← get
  match e.standard with
  | none => return ()
  | some size =>
    let left := (e.lines.map List.length).foldl (· + ·) 0
    modifyThe Scene fun s => s.settle 0 (size - left) 4096
    set { e with standard := none }

/-- Open the next input. -/
def openInput (p : EditPlan) (path : Bytes) : EditM Unit := do
  settleStandard
  finishEdited p
  if p.separate then modify fun e => { e with number := 0, within := [] }
  let s ← getThe Scene
  if path = [byte '-'] && p.inPlace.isNone then
    match s.unread 0 none with
    | .ok data =>
      modify fun e => { e with present := path, lines := Lines.split p.ending data, standard := some data.length }
    | .error fault =>
      complain (Text.bytes ("read error on stdin: " ++ fault.text))
      modify fun e => { e with status := 4 }
  else
    let isRegular : Bool := (s.find? path).any fun
      | .file .. => true
      | _ => false
    match s.openFile path .read with
    | .error fault =>
      complain (Text.bytes "can't read " ++ path ++ Text.bytes (": " ++ fault.text))
      modify fun e => { e with status := 2 }
    | .ok (number, s) =>
      if p.inPlace.isSome && !isRegular then
        complain (Text.bytes "couldn't edit " ++ path ++ Text.bytes ": not a regular file")
        modify fun e => { e with status := 4 }
      else
        set s
        match ← Inputs.drain number none with
        | .ok data =>
          modify fun e => { e with present := path, lines := Lines.split p.ending data, edited := p.inPlace.isSome }
        | .error fault =>
          complain (Text.bytes "read error on " ++ path ++ Text.bytes (": " ++ fault.text))
          modify fun e => { e with status := 4 }

/-- Open inputs until one has lines, and say whether there is one. -/
def advance (p : EditPlan) : (left : Nat) → EditM Bool
  | 0 => return !(← get).lines.isEmpty
  | left + 1 => do
    let e ← get
    match e.lines, e.inputs with
    | [], path :: rest =>
      set { e with inputs := rest }
      openInput p path
      advance p left
    | lines, _ => return !lines.isEmpty

/-- Whether the line at work is the last one. -/
def isLast (p : EditPlan) : EditM Bool := do
  let e ← get
  if !e.lines.isEmpty then return false
  else if p.separate then return true
  else return !(← advance p (e.inputs.length + 1))

/-- Whether there is no line left at all. -/
def isOver (p : EditPlan) : EditM Bool := do
  let e ← get
  if e.lines.isEmpty && p.separate then
    -- Inputs that come later are looked at when this one is done
    let s ← getThe Scene
    return e.inputs.all fun path => (s.contentOf? path).all List.isEmpty
  else return !(← advance p (e.inputs.length + 1))

/-- Take the next line; `added` keeps the text at work before it. -/
def readNext (p : EditPlan) (added : Bool) : EditM Bool := do
  flushQueue p
  let e ← get
  if !(← advance p (e.inputs.length + 1)) then return false
  let e ← get
  match e.lines with
  | [] => return false
  | line :: rest =>
    let text := Lines.bare p.ending line
    set { e with
      space := if added then e.space ++ p.ending :: text else text
      ended := Lines.isEnded p.ending line
      number := e.number + 1
      lines := rest
      changed := if added then e.changed else e.changed }
    return true

/-! ## Addresses -/

/-- Whether an expression fits the text at work; the one used last if none is given. -/
def fitsSpace (m : Option Matcher) : EditM (Option Bool) := do
  let e ← get
  match m.orElse fun _ => e.lastUsed with
  | none => return none
  | some m =>
    set { e with lastUsed := some m }
    return some (m.occurs (Symbols.ofBytes e.space).toArray)

/-- Whether an address means the present line; `none` if there is no expression to go by. -/
def means (p : EditPlan) (a : Address) : EditM (Option Bool) := do
  let e ← get
  match a with
  | .line n => return some (n = e.number)
  | .step first step => return some (first ≤ e.number && (e.number - first) % step = 0)
  | .last => return some (← isLast p)
  | .fitting m => fitsSpace m

/-- Let a command be in the middle of its range, or not. -/
def setWithin (index : Nat) (state : Option (Option Nat)) : EditM Unit :=
  modify fun e =>
    let others := e.within.filter (·.1 != index)
    { e with within := match state with
      | some stop => (index, stop) :: others
      | none => others }

/-- Whether a command is for the present line; `none` if there is no expression to go by. -/
def selects (p : EditPlan) (index : Nat) (c : EditCommand) : EditM (Option Bool) := do
  let e ← get
  let here ← (match c.first, c.last with
    | none, _ => return some true
    | some a, none => means p a
    | some a, some last => do
      let starts (state : Option (Option Nat)) : EditM (Option Bool) := do
        setWithin index state
        return some true
      let opened := e.within.lookup index
      let opened := if opened.isNone && a = .line 0 && e.number = 1 then some none else opened
      match opened with
      | some (some stop) =>
        if e.number < stop then return some true
        else
          setWithin index none
          if e.number = stop then return some true else means p a
      | some none =>
        match last with
        | .address b =>
          match ← means p b with
          | some true => starts none
          | some false => starts (some none)
          | none => return none
        | _ => return some true
      | none =>
        match ← means p a with
        | some true =>
          match last with
          | .address (.line n) => starts (if n ≤ e.number then none else some (some n))
          | .more n => starts (if n = 0 then none else some (some (e.number + n)))
          | .multiple n =>
            let stop := if n = 0 then e.number else (e.number / n + 1) * n
            starts (if stop ≤ e.number then none else some (some stop))
          | .address _ => starts (some none)
        | other => return other : EditM (Option Bool))
  return here.map fun holds => holds != c.inverted

/-! ## Commands -/

/-- Print the text at work, if that is done without being asked. -/
def autoprint (p : EditPlan) : EditM Unit := do
  let e ← get
  if !p.quiet then emitLine p e.space e.ended

/-- The number of the command with a label. -/
def labelled (p : EditPlan) (name : Bytes) : Nat :=
  if name.isEmpty then p.commands.size
  else (p.commands.toList.findIdx? fun c => c.edit = .label name).getD p.commands.size

/-- Carry out one command that is for the present line. -/
def perform (p : EditPlan) (index : Nat) (c : EditCommand) : EditM EditTurn := do
  let e ← get
  match c.edit with
  | .opening _ | .closing | .label _ | .nothing => return .onward
  | .branch rule name =>
    let goal := labelled p name
    match rule with
    | .always => return .branched goal
    | .ifChanged =>
      set { e with changed := false }
      return if e.changed then .branched goal else .onward
    | .unlessChanged =>
      set { e with changed := false }
      return if e.changed then .onward else .branched goal
  | .lineNumber =>
    emit (decimal e.number ++ [newline]) false
    return .onward
  | .append text =>
    set { e with queue := e.queue ++ [Appended.text text] }
    return .onward
  | .insert text =>
    emit text false
    return .onward
  | .change text =>
    if (e.within.lookup index).isNone || c.inverted then emit text false
    return .deleted
  | .delete => return .deleted
  | .deleteFirst =>
    if e.space.contains p.ending then
      set { e with space := (e.space.dropWhile (· != p.ending)).drop 1 }
      return .again
    else return .deleted
  | .fileName =>
    emit (e.present ++ [newline]) false
    return .onward
  | .fetch added =>
    set { e with
      space := if added then e.space ++ p.ending :: e.held else e.held
      ended := if added then e.ended else e.heldEnded }
    return .onward
  | .hold added =>
    set { e with
      held := if added then e.held ++ p.ending :: e.space else e.space
      heldEnded := if added then e.heldEnded else e.ended }
    return .onward
  | .exchange =>
    set { e with space := e.held, ended := e.heldEnded, held := e.space, heldEnded := e.ended }
    return .onward
  | .list width =>
    emit (listed (width.getD p.width) e.space) false
    return .onward
  | .next added =>
    if ← isOver p then
      if added || !p.quiet then autoprint p
      return .deleted
    else
      if !added then autoprint p
      return if ← readNext p added then .onward else .deleted
  | .print =>
    emitLine p e.space e.ended
    return .onward
  | .printFirst =>
    let first := e.space.takeWhile (· != p.ending)
    emitLine p first (e.ended || first.length < e.space.length)
    return .onward
  | .quit shown status =>
    if shown then
      autoprint p
      flushQueue p
    return .quit status
  | .readFile path =>
    set { e with queue := e.queue ++ [Appended.file path] }
    return .onward
  | .readLine path =>
    set { e with queue := e.queue ++ [Appended.line path] }
    return .onward
  | .write first path =>
    let line := e.space.takeWhile (· != p.ending)
    if first then writeLine p path line true else writeLine p path e.space e.ended
    return .onward
  | .clear =>
    set { e with space := [] }
    return .onward
  | .translate table =>
    let text := (Symbols.ofBytes e.space).map fun x => (table.lookup x).getD x
    set { e with space := Symbols.bytes text }
    return .onward
  | .substitute s =>
    match s.matcher.orElse fun _ => e.lastUsed with
    | none =>
      complainText "-e expression #1, char 0: no previous regular expression"
      return .quit 1
    | some m =>
      set { e with lastUsed := some m }
      match Edits.substitute m s e.space with
      | none => return .onward
      | some text =>
        modify fun e => { e with space := text, changed := true }
        if s.shown then emitLine p text e.ended
        match s.file with
        | some path => writeLine p path text e.ended
        | none => pure ()
        return .onward

/-- Carry out commands from one on, so many at most. -/
def cycle (p : EditPlan) : (fuel : Nat) → (index : Nat) → EditM EditTurn
  | 0, _ => return .finished
  | fuel + 1, index => do
    match p.commands[index]? with
    | none => return .finished
    | some c =>
      match ← selects p index c with
      | none =>
        complainText "-e expression #1, char 0: no previous regular expression"
        return .quit 1
      | some chosen =>
        if !chosen then
          match c.edit with
          | .opening finish => cycle p fuel finish
          | _ => cycle p fuel (index + 1)
        else
          match ← perform p index c with
          | .onward => cycle p fuel (index + 1)
          | .branched goal => cycle p fuel goal
          | turn => return turn

/-- The most commands that are carried out for one line. -/
def cycleLimit : Nat := 1000000

/-- Work through the lines that are left, in so many cycles at most; `taken` tells whether a line was taken already. -/
def through (p : EditPlan) (taken : Bool) : (fuel : Nat) → EditM (Option Nat)
  | 0 => return none
  | fuel + 1 => do
    let ready ← if taken then do flushQueue p; pure true else do
      let ready ← readNext p false
      modify fun e => { e with changed := false }
      pure ready
    if !ready then return none
    match ← cycle p cycleLimit 0 with
    | .quit status => return some status
    | .again => through p true fuel
    | .finished =>
      autoprint p
      through p false fuel
    | _ => through p false fuel

/-- The most cycles. -/
def linesLimit : Nat := 10000000

/-- Work through all inputs; the status is that of a command that quits. -/
def run (p : EditPlan) : EditM Nat := do
  let status ← through p false linesLimit
  flushQueue p
  finishEdited p
  settleStandard
  let e ← get
  return match status with
    | some n => if n = 0 then e.status else n
    | none => e.status

end Editing

/-! ## Arguments -/

def sedTable : OptionTable :=
  { letters := "nErsuzπδφσ", valued := "efl", optional := "i",
    words := [("quiet", 'n'), ("silent", 'n'), ("expression", 'e'), ("file", 'f'), ("in-place", 'i'),
      ("line-length", 'l'), ("regexp-extended", 'E'), ("separate", 's'), ("unbuffered", 'u'), ("null-data", 'z'),
      ("zero-terminated", 'z'), ("posix", 'π'), ("debug", 'δ'), ("follow-symlinks", 'φ'), ("sandbox", 'σ')] }

/-- Say how the utility is used. -/
def showSedUse : StateM Scene Nat := do
  modify fun s => s.complain (Text.bytes "Usage: " ++ s.title ++
    Text.bytes " [OPTION]... \x7bscript-only-if-no-other-script\x7d [input-file]...\n\n")
  return 1

/-- A piece of a script: its text, and the file it is from. -/
structure ScriptPiece where
  text : Bytes
  file : Option Bytes := none

/-- Complain of a script. -/
def complainOfScript (parts : List ScriptPiece) (script : Bytes) (fault : EditFault) : StateM Scene Unit := do
  let consumed := match fault.unread with
    | some n => script.length - n
    | none => 0
  let rec placeOf (index consumed : Nat) : List ScriptPiece → Bytes
    | [] => []
    | part :: rest =>
      if consumed ≤ part.text.length + 1 || rest.isEmpty then
        match part.file with
        | none =>
          Text.bytes "-e expression #" ++ decimal index ++ Text.bytes ", char " ++
            decimal (min consumed part.text.length)
        | some path =>
          Text.bytes "file " ++ path ++ Text.bytes " line " ++
            decimal (((part.text.take (consumed - 1)).count newline) + 1)
      else placeOf (if part.file.isNone then index + 1 else index) (consumed - part.text.length - 1) rest
  complain (placeOf 1 consumed parts ++ Text.bytes ": " ++ fault.mistake.text)

/-- The pieces that a script is made of. -/
def scriptPieces (g : Given) : StateM Scene (Except (Bytes × Fault) (List ScriptPiece)) := do
  let mut parts : List ScriptPiece := []
  for (letter, value) in g.options do
    if letter = 'e' then parts := parts ++ [{ text := value }]
    else if letter = 'f' then
      match ← Inputs.load value with
      | .error fault => return .error (value, fault)
      | .ok data =>
        let text := if data.getLast? = some newline then data.dropLast else data
        parts := parts ++ [{ text := text, file := some value }]
  return .ok parts

/-- Open the files that a script writes. -/
def openWriters (paths : List Bytes) : StateM Scene (Except (Bytes × Fault) (List (Bytes × Nat))) := do
  let mut opened : List (Bytes × Nat) := []
  for path in paths do
    if path != Text.bytes "/dev/stdout" && (opened.lookup path).isNone then
      let s ← get
      match if path = Text.bytes "/dev/stderr" then
          (s.descriptors.lookup 2).elim (.error .badDescriptor) fun number => .ok (number, s)
        else s.openFile path .write with
      | .error fault => return .error (path, fault)
      | .ok (number, s) =>
        set s
        opened := opened ++ [(path, number)]
  return .ok opened

/-- Prints its inputs, edited by a script. -/
def sed : Utility := fun args => do
  match sedTable.read args with
  | .error fault =>
    complain fault.text
    showSedUse
  | .ok g =>
    match ← scriptPieces g with
    | .error (path, fault) =>
      complain (Text.bytes "couldn't open file " ++ path ++ Text.bytes (": " ++ fault.text))
      return 4
    | .ok parts =>
      let given := !parts.isEmpty
      let parts := if given then parts else (g.operands.take 1).map fun text => { text := text }
      let operands := if given then g.operands else g.operands.drop 1
      if parts.isEmpty then showSedUse
      else
        let script := ((parts.map (·.text)).intersperse [newline]).flatten
        match Edits.read (g.has 'E' || g.has 'r') script with
        | .error fault =>
          complainOfScript parts script fault
          return 1
        | .ok commands =>
          match lostLabel? commands with
          | some name =>
            complain (Text.bytes "can't find label for jump to \x60" ++ name ++ [byte '\''])
            return 4
          | none =>
            match ← openWriters (written commands) with
            | .error (path, fault) =>
              complain (Text.bytes "couldn't open file " ++ path ++ Text.bytes (": " ++ fault.text))
              return 4
            | .ok writers =>
              let width := ((g.value? 'l').bind number?).getD 70
              let plan : EditPlan := {
                commands := commands.toArray
                quiet := g.has 'n' || script.take 2 = Text.bytes "#n"
                ending := Lines.ending g
                separate := g.has 's' || g.has 'i'
                inPlace := g.value? 'i'
                width := if width = 1 then 0 else width }
              let (status, e) ← (Editing.run plan).run { inputs := Inputs.paths operands, writers := writers }
              put e.shown.reverse.flatten
              put e.printed.reverse.flatten
              return status

end Edits

end LineShell.Host
