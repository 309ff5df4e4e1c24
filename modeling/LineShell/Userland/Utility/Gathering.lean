import LineShell.Userland.Utility.Child
import LineShell.Userland.Utility.Inputs
import LineShell.Userland.Utility.Print

/-!
# Arguments from an input

`xargs` reads words from its input and runs a command on them, as many at once as fit.

- `Gathering.read` cuts a text into words, with quotes and backslashes, or says what is wrong (`GatherFault`);
- `Batches.cut` says which words go together.
-/

namespace LineShell.Host

namespace Gathering

/-! ## Words -/

/-- A word that was read, and whether it is the last one of its line. -/
structure Item where
  text : Bytes
  endsLine : Bool := false
deriving DecidableEq, Repr

/-- What is wrong with the words. -/
inductive GatherFault
  /-- A quote is not closed. -/
  | openQuote (quote : UInt8)
  /-- A word does not fit even alone. -/
  | tooLong
deriving DecidableEq, Repr

def GatherFault.text : GatherFault → String
  | openQuote quote =>
    "unmatched " ++ (if quote = byte '"' then "double" else "single") ++
      " quote; by default quotes are special to xargs unless you use the -0 option"
  | tooLong => "argument line too long"

/-- What is being read. -/
inductive Reading
  /-- Blanks in front of a word. -/
  | blanks
  /-- A word, as far as it was read, backwards. -/
  | word (read : Bytes)
  /-- A quoted part of a word. -/
  | quoted (quote : UInt8) (read : Bytes)
  /-- What a backslash stands in front of. -/
  | escaped (read : Bytes)
deriving DecidableEq, Repr

/-- Go on reading words. With `whole`, a line is one word. What was read before a fault is kept. -/
def readFrom (whole : Bool) (reading : Reading) (items : List Item) : Bytes → List Item × Option GatherFault
  | [] =>
    match reading with
    | .blanks => (items.reverse, none)
    | .word read | .escaped read => (({ text := read.reverse, endsLine := true } :: items).reverse, none)
    | .quoted quote _ => (items.reverse, some (.openQuote quote))
  | b :: rest =>
    let inWord (read : Bytes) (started : Bool) : List Item × Option GatherFault :=
      if b = newline && started then
        readFrom whole .blanks ({ text := read.reverse, endsLine := true } :: items) rest
      else if (b = byte ' ' || b = byte '\t') && !whole then
        readFrom whole .blanks ({ text := read.reverse } :: items) rest
      else if b = byte '\\' then readFrom whole (.escaped read) items rest
      else if b = byte '\'' || b = byte '"' then readFrom whole (.quoted b read) items rest
      else readFrom whole (.word (b :: read)) items rest
    match reading with
    | .blanks => if isBlank b then readFrom whole .blanks items rest else inWord [] false
    | .word read => inWord read true
    | .quoted quote read =>
      if b = newline then (items.reverse, some (.openQuote quote))
      else if b = quote then readFrom whole (.word read) items rest
      else readFrom whole (.quoted quote (b :: read)) items rest
    | .escaped read => readFrom whole (.word (b :: read)) items rest

/-- The words of a text. -/
def read (whole : Bool) (text : Bytes) : List Item × Option GatherFault :=
  readFrom whole .blanks [] text

/-- The pieces of a text between delimiters. -/
def readDelimited (delimiter : UInt8) (text : Bytes) : List Item :=
  (Lines.texts delimiter text).map fun piece => { text := piece, endsLine := true }

/-- The words in front of one that ends them all. -/
def upTo (last : Option Bytes) (items : List Item) : List Item :=
  match last with
  | some word => items.takeWhile fun item => item.text != word
  | none => items

/-! ## Batches -/

/-- How many words may go together. -/
structure Batches where
  /-- The most bytes of a command, each word with what ends it. -/
  size : Nat := 131072
  words : Option Nat := none
  lines : Option Nat := none
deriving DecidableEq, Repr

/-- How much a word takes. -/
def sizeOf (word : Bytes) : Nat :=
  word.length + 1

/-- Go on putting words together; `batch` is what was put together so far, backwards. The last word of a line may be
followed by blanks only if the next line belongs to it. -/
def Batches.cutFrom (b : Batches) (fixed : Nat) (batch : List Bytes) (size lines : Nat) :
    List Item → List (List Bytes) × Option GatherFault
  | [] => (if batch.isEmpty then [] else [batch.reverse], none)
  | item :: rest =>
    let take (batch : List Bytes) (size lines : Nat) : List (List Bytes) × Option GatherFault :=
      let batch := item.text :: batch
      let lines := if item.endsLine then lines + 1 else lines
      if b.words = some batch.length || (item.endsLine && b.lines = some lines) then
        let (more, fault) := b.cutFrom fixed [] fixed 0 rest
        (batch.reverse :: more, fault)
      else b.cutFrom fixed batch (size + sizeOf item.text) lines rest
    if size + sizeOf item.text ≤ b.size then take batch size lines
    else if batch.isEmpty || b.size < fixed + sizeOf item.text then
      (if batch.isEmpty then [] else [batch.reverse], some .tooLong)
    else
      let (more, fault) := take [] fixed 0
      (batch.reverse :: more, fault)

/-- Put words together. -/
def Batches.cut (b : Batches) (command : List Bytes) (items : List Item) : List (List Bytes) × Option GatherFault :=
  let fixed := (command.map sizeOf).foldl (· + ·) 0
  b.cutFrom fixed [] fixed 0 items

/-! ## Options -/

/-- The ways of giving words to the command that exclude each other. -/
inductive Manner
  | any
  | words (n : Nat)
  | lines (n : Nat)
  /-- Each line is put where a sign is. -/
  | replacing (sign : Bytes)
deriving DecidableEq, Repr

/-- What a manner is called. -/
def Manner.name : Manner → String
  | any => ""
  | words _ => "--max-args"
  | lines _ => "--max-lines"
  | replacing _ => "--replace"

/-- What is wrong with an option. -/
inductive SettingFault
  | noNumber (letter : Char) (value : Bytes)
  | tooSmall (letter : Char) (value : Bytes)
  | delimiter (value : Bytes)
  | sequence (value : Bytes)
deriving DecidableEq, Repr

def SettingFault.text : SettingFault → Bytes
  | noNumber letter value =>
    Text.bytes "invalid number \"" ++ value ++ Text.bytes "\" for -" ++ byte letter :: Text.bytes " option"
  | tooSmall letter value =>
    Text.bytes "value " ++ value ++ Text.bytes " for -" ++ byte letter :: Text.bytes " option should be >= 1"
  | delimiter value =>
    Text.bytes "Invalid input delimiter specification " ++ value ++
      Text.bytes (": the delimiter must be either a single character or an escape sequence " ++ "starting with \\.")
  | sequence value =>
    Text.bytes "Invalid escape sequence " ++ value ++ Text.bytes " in input delimiter specification."

/-- Whether the way to call the program has to be told of. -/
def SettingFault.isOfUse : SettingFault → Bool
  | noNumber .. | tooSmall .. => true
  | _ => false

/-- What options ask for. -/
structure Setting where
  manner : Manner := .any
  /-- How the manner was asked for. -/
  batches : Batches := {}
  delimiter : Option UInt8 := none
  last : Option Bytes := none
  warnings : List Bytes := []

/-- A number that is at least one. -/
def readCount (letter : Char) (value : Bytes) : Except SettingFault Nat :=
  match Print.integer? value with
  | none => .error (.noNumber letter value)
  | some n => if n < 1 then .error (.tooSmall letter value) else .ok n.toNat

/-- The byte that a text names. -/
def readDelimiter (value : Bytes) : Except SettingFault UInt8 :=
  match value with
  | [b] => .ok b
  | 92 :: rest =>
    match Print.unescape { hexadecimal := true, stops := false } rest with
    | .ok ([b], []) => .ok b
    | _ =>
      if rest = [byte 'x'] then .ok 0
      else .error (.sequence value)
  | _ => .error (.delimiter value)

namespace Setting

/-- Ask for a manner; one that was asked for before no longer counts. -/
def choose (setting : Setting) (manner : Manner) (called : String) : Setting :=
  let clash := match setting.manner, manner with
    | .any, _ | .words _, .words _ | .lines _, .lines _ | .replacing _, .replacing _ => false
    | _, _ => true
  let warning := Text.bytes ("warning: options " ++ setting.manner.name ++ " and " ++ called ++
    " are mutually exclusive, ignoring previous " ++ setting.manner.name ++ " value")
  { setting with
    manner := manner
    warnings := setting.warnings ++ if clash then [warning] else [] }

/-- Add one option. -/
def add (setting : Setting) (letter : Char) (value : Bytes) : Except SettingFault Setting := do
  match letter with
  | 'n' =>
    let n ← readCount 'n' value
    match setting.manner with
    | .replacing _ => return if n = 1 then setting else setting.choose (.words n) "--max-args/-n"
    | _ => return setting.choose (.words n) "--max-args/-n"
  | 'L' => return setting.choose (.lines (← readCount 'L' value)) "-L"
  | 'l' =>
    let n ← if value.isEmpty then pure 1 else readCount 'l' value
    return setting.choose (.lines n) "--max-lines/-l"
  | 'I' => return setting.choose (.replacing value) "--replace/-I/-i"
  | 'i' =>
    let sign := if value.isEmpty then Text.bytes "\x7b\x7d" else value
    return setting.choose (.replacing sign) "--replace/-I/-i"
  | 's' => return { setting with batches := { setting.batches with size := ← readCount 's' value } }
  | 'P' =>
    match Print.integer? value with
    | none => throw (.noNumber 'P' value)
    | some _ => return setting
  | '0' => return { setting with delimiter := some 0 }
  | 'd' => return { setting with delimiter := some (← readDelimiter value) }
  | 'E' | 'e' => return { setting with last := if value.isEmpty then none else some value }
  | _ => return setting

/-- Read options. -/
def ofOptions (options : List (Char × Bytes)) : Except SettingFault Setting :=
  options.foldlM (fun setting (letter, value) => setting.add letter value) {}

/-- The words of a text, and what is wrong with it. -/
def words (setting : Setting) (text : Bytes) : List Item × Option GatherFault :=
  match setting.delimiter, setting.manner with
  | some b, _ => (readDelimited b text, none)
  | none, .replacing _ =>
    let (items, fault) := read true text
    (upTo setting.last items, fault)
  | none, _ =>
    let (items, fault) := read false text
    let kept := upTo setting.last items
    (kept, if kept.length < items.length then none else fault)

/-- The commands to run, and what stops that. -/
def commands (setting : Setting) (command : List Bytes) (items : List Item) :
    List (List Bytes) × Option GatherFault :=
  match setting.manner with
  | .replacing sign =>
    (items.map fun item => match command with
      | [] => []
      | name :: rest => replaced sign item.text name :: rest.map (replaced sign item.text), none)
  | .words n => whole { setting.batches with words := some n }
  | .lines n => whole { setting.batches with lines := some n }
  | .any => whole setting.batches
where
  whole (b : Batches) : List (List Bytes) × Option GatherFault :=
    let (batches, fault) := b.cut command items
    (batches.map (command ++ ·), fault)
  /-- A word with a text in the place of each sign. -/
  replaced (sign text word : Bytes) : Bytes :=
    if sign.isEmpty then word else go sign text (word.length + 1) word
  go (sign text : Bytes) : (fuel : Nat) → Bytes → Bytes
    | 0, rest => rest
    | _, [] => []
    | fuel + 1, b :: rest =>
      if sign.isPrefixOf (b :: rest) then text ++ go sign text fuel ((b :: rest).drop sign.length)
      else b :: go sign text fuel rest

end Setting

/-! ## Running -/

/-- How a command that was run ends the whole. -/
inductive Outcome
  /-- Others may follow. -/
  | fine
  | failed
  | stops (status : Nat)
deriving DecidableEq, Repr

/-- Run one command, with nothing to read unless the words come from elsewhere. -/
def runOne (starter : Starter) (tells reads : Bool) (words : List Bytes) : StateM Scene Outcome := do
  if tells then
    let shown := Print.joined (words.map Quoted.whereNeeded)
    modify fun s => s.complain (shown ++ [newline])
  let s ← get
  let there := if reads then s else match s.openFile (Text.bytes "/dev/null") .read with
    | .ok (number, s) => s.assign 0 (some number)
    | .error _ => s
  let name := words.headD []
  match starter.start starter.environment starter.ignored words there with
  | .ok (ending, after) =>
    set (s.after after)
    match ending with
    | .exited 0 => return .fine
    | .exited 255 =>
      complain (name ++ Text.bytes ": exited with status 255; aborting")
      return .stops 124
    | .exited _ => return .failed
    | .killed signal =>
      complain (name ++ Text.bytes ": terminated by signal " ++ decimal signal)
      return .stops 125
  | .error fault =>
    complain (name ++ Text.bytes (": " ++ fault.text))
    return .stops (Starter.failure fault)

/-- Run commands one after the other, and give the status. -/
def runAll (starter : Starter) (tells reads : Bool) (status : Nat) : List (List Bytes) → StateM Scene (Nat × Bool)
  | [] => return (status, true)
  | words :: rest => do
    match ← runOne starter tells reads words with
    | .fine => runAll starter tells reads status rest
    | .failed => runAll starter tells reads 123 rest
    | .stops status => return (status, false)

def table : OptionTable :=
  { letters := "0rtpxo", valued := "aEdInLPsσ", optional := "eil",
    words := [("null", '0'), ("arg-file", 'a'), ("delimiter", 'd'), ("eof", 'e'), ("replace", 'i'), ("max-lines", 'l'),
      ("max-args", 'n'), ("open-tty", 'o'), ("interactive", 'p'), ("no-run-if-empty", 'r'), ("max-chars", 's'),
      ("verbose", 't'), ("exit", 'x'), ("max-procs", 'P'), ("process-slot-var", 'σ')] }

/-- The word without the bytes from a NUL on, with which no command can be given. -/
def usable (item : Item) : Item :=
  { item with text := item.text.takeWhile (· != 0) }

/-- Runs a command on words that it reads. -/
def xargs (starter : Starter) : Utility := withEarlyOptions table 1 fun g => do
  match Setting.ofOptions g.options with
  | .error fault =>
    complain fault.text
    if fault.isOfUse then referToHelp
    return 1
  | .ok setting =>
    for warning in setting.warnings do
      complain warning
    let path := (g.value? 'a').getD [byte '-']
    match ← Inputs.load path with
    | .error fault =>
      if g.has 'a' then
        complain (Text.bytes "Cannot open input file " ++ Quoted.curly path ++ Text.bytes (": " ++ fault.text))
      return 1
    | .ok text =>
      let (items, fault) := setting.words text
      if items.any fun item => item.text.contains 0 then
        complainText ("WARNING: a NUL character occurred in the input.  It cannot be passed through in the argument " ++
          "list.  Did you mean to use the --null option?")
      let command := if g.operands.isEmpty then [Text.bytes "echo"] else g.operands
      let (commands, stop) := setting.commands command (items.map usable)
      let replaces := match setting.manner with
        | .replacing _ => true
        | _ => false
      let commands := if items.isEmpty && fault.isNone && !g.has 'r' && !replaces then [command] else commands
      let (status, goesOn) ← runAll starter (g.has 't' || g.has 'p') (g.has 'a') 0 commands
      match if goesOn then stop.orElse fun _ => fault else none with
      | some fault =>
        complainText fault.text
        return 1
      | none => return status

end Gathering

end LineShell.Host
