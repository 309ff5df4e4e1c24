import LineShell.Userland.Awk.Feed
import LineShell.Userland.Awk.Random
import LineShell.Userland.Awk.Syntax
import LineShell.Userland.Awk.Table
import LineShell.Userland.Utility.Child

/-!
# The state of a running program

`Machine` holds the variables, the record at hand and what is open for reading and writing. `Acting` is what expressions
and statements do with it; it stops early where the program ends (`Stop`).

What is written goes out in blocks. All of it goes out before a command is started; a command that takes what is printed
runs when it is closed.
-/

namespace LineShell.Host.Awk

/-- A variable of the function at work: a value, or one of the tables. -/
inductive Cell
  | value (v : Value)
  | table (id : Nat)

instance : Inhabited Cell := ⟨.value .nothing⟩

/-- Why a program stops before its end. -/
inductive Stop
  | exit
  /-- Something went wrong, which was told already. -/
  | failure
deriving DecidableEq, Repr

/-- Text that was written and did not go out yet, latest first. -/
structure Pending where
  texts : List Bytes := []
  size : Nat := 0

namespace Pending

def add (p : Pending) (text : Bytes) : Pending :=
  { texts := text :: p.texts, size := p.size + text.length }

def all (p : Pending) : Bytes :=
  p.texts.reverse.flatten

/-- The whole blocks that go out, and the rest. A block goes out when there is more than that. -/
def blocks (p : Pending) : Bytes × Pending :=
  if p.size ≤ Feed.blockSize then ([], p)
  else
    let all := p.all
    let count := (p.size - 1) / Feed.blockSize * Feed.blockSize
    (all.take count, { texts := [all.drop count], size := p.size - count })

end Pending

/-- What is open for writing. -/
structure Outlet where
  name : Bytes
  /-- The stream of a file; none for a command. -/
  stream : Option Nat
  pending : Pending := {}

/-- What is open for reading; a command ended with a status already. -/
structure Source where
  name : Bytes
  isCommand : Bool
  feed : Feed
  status : Nat := 0

/-- The state of a running program. -/
structure Machine where
  scene : Scene
  /-- The variables of the whole program, and all tables; a variable that is a table has the same number there. -/
  values : Array Value
  tables : Array Table
  frame : Array Cell := #[]
  record : Record := {}
  separator : Separator := .blanks
  recordEnd : RecordEnd := .byte newline
  /-- The input at hand, and which argument comes next. -/
  feed : Option Feed := none
  nextArgument : Nat := 1
  /-- Whether an argument was taken for an input, and whether there is no more input. -/
  hasRead : Bool := false
  isOver : Bool := false
  sources : List Source := []
  standard : Pending := {}
  /-- Latest used first. -/
  outlets : List Outlet := []
  /-- Which patterns from one record to another have begun. -/
  ranges : Array Bool := #[]
  random : Random
  seed : Value := .number 0
  status : Nat := 0

/-- What does not change while a program runs. -/
structure Setup where
  program : Program
  starter : Starter

/-- What a program does. -/
abbrev Acting := ReaderT Setup (ExceptT Stop (StateM Machine))

namespace Acting

/-! ## Complaints -/

/-- Do something with the files and streams. -/
def onScene {α : Type} (act : StateM Scene α) : Acting α :=
  modifyGet fun m =>
    let (result, scene) := act.run m.scene
    (result, { m with scene := scene })

/-- Stop with a complaint. -/
def fail {α : Type} (text : Bytes) : Acting α := do
  onScene (complain text)
  modify fun m => { m with status := 2 }
  throw .failure

/-- The text of a variable of the whole program. -/
def special (n : Nat) : Acting Bytes := do
  let m ← get
  let format := match (m.values[Special.numberFormat]?).getD .nothing with
    | .text t | .given t => t
    | _ => []
  return ((m.values[n]?).getD .nothing).toText format

/-- The format for numbers as texts. -/
def numberFormat : Acting Bytes :=
  special Special.numberFormat

/-- Stop with a complaint that tells the place in the input. -/
def failAtRecord {α : Type} (text : Bytes) : Acting α := do
  let name ← special Special.fileName
  let inFile ← special Special.fileRecordNumber
  let inAll ← special Special.recordNumber
  fail (Text.bytes "run time error: " ++ text ++ Text.bytes "\n\tFILENAME=\"" ++ name ++ Text.bytes "\" FNR=" ++
    inFile ++ Text.bytes " NR=" ++ inAll)

/-- An expression for texts that is only known now. -/
def matcherOf (text : Bytes) : Acting Matcher := do
  match Matching.read text with
  | .ok m => return m
  | .error fault =>
    failAtRecord (Text.bytes ("regular expression compile failed (" ++ fault.text ++ ")\n") ++ text)

/-! ## The record -/

/-- Let the fields follow the text of the record. -/
def cutRecord : Acting Unit :=
  modify fun m => { m with record := m.record.withFields m.separator }

/-- A field of the record. -/
def field (n : Nat) : Acting Value := do
  if n = 0 then
    if !(← get).record.isWhole then
      let format ← special Special.outputFormat
      let between ← special Special.outputFieldSeparator
      modify fun m => { m with record := m.record.withText format between }
    return .given (← get).record.text
  else
    cutRecord
    return (← get).record.field n

/-- Change a field of the record. -/
def setField (n : Nat) (v : Value) : Acting Unit := do
  if n = 0 then
    let text := v.toText (← numberFormat)
    modify fun m => { m with record := .ofText text }
  else
    cutRecord
    modify fun m => { m with record := m.record.withField n v }

/-- The number of a field. -/
def fieldNumber (v : Value) : Acting Nat := do
  let n := toWhole v.toNumber
  if n < 0 then failAtRecord (Text.bytes "negative field index $" ++ wholeText n)
  else return n.toNat

/-! ## Variables -/

/-- The value of a variable of the whole program. -/
def whole (n : Nat) : Acting Value := do
  if n = Special.fieldCount then
    cutRecord
    return .ofNat (← get).record.fields.size
  else return ((← get).values[n]?).getD .nothing

/-- Change a variable of the whole program. Some of them have a meaning. -/
def setWhole (n : Nat) (v : Value) : Acting Unit := do
  if n = Special.fieldCount then
    let count := toWhole v.toNumber
    if count < 0 then failAtRecord (Text.bytes "negative value assigned to NF")
    cutRecord
    modify fun m => { m with record := m.record.resized count.toNat }
  else
    if n = Special.fieldSeparator then
      cutRecord
      let text := v.toText (← numberFormat)
      match Separator.ofText text with
      | .ok separator => modify fun m => { m with separator := separator }
      | .error _ =>
        let _ ← matcherOf text
    else if n = Special.recordSeparator then
      let text := v.toText (← numberFormat)
      match RecordEnd.ofText text with
      | .ok recordEnd => modify fun m => { m with recordEnd := recordEnd }
      | .error _ =>
        let _ ← matcherOf text
    modify fun m => { m with values := m.values.setIfInBounds n v }

/-- The value of a variable. -/
def slot : Slot → Acting Value
  | .whole n => whole n
  | .local n => do
    match (← get).frame[n]? with
    | some (.value v) => return v
    | _ => return .nothing

/-- Change a variable. -/
def setSlot (s : Slot) (v : Value) : Acting Unit :=
  match s with
  | .whole n => setWhole n v
  | .local n => modify fun m => { m with frame := m.frame.setIfInBounds n (.value v) }

/-- The table that a variable is, if it is one. -/
def table? : Slot → Acting (Option Nat)
  | .whole n => return if (← read).program.tables.contains n then some n else none
  | .local n => do
    match (← get).frame[n]? with
    | some (.table id) => return some id
    | _ => return none

/-- One more table. -/
def newTable : Acting Nat :=
  modifyGet fun m => (m.tables.size, { m with tables := m.tables.push {} })

/-- The table that a variable is; it becomes one if it is none. -/
def tableOf (s : Slot) : Acting Nat := do
  match s with
  | .whole n => return n
  | .local n =>
    match ← table? s with
    | some id => return id
    | none =>
      let id ← newTable
      modify fun m => { m with frame := m.frame.setIfInBounds n (.table id) }
      return id

/-- Do something with a table. -/
def onTable {α : Type} (id : Nat) (act : Table → α × Table) : Acting α :=
  modifyGet fun m =>
    let table := (m.tables[id]?).getD {}
    let m := { m with tables := m.tables.setIfInBounds id {} }
    let (result, table) := act table
    (result, { m with tables := m.tables.setIfInBounds id table })

/-! ## Writing -/

/-- Complain that something could not be written, and stop. -/
def failWriting {α : Type} (name : Bytes) (fault : Fault) : Acting α := do
  modify fun m => { m with standard := {}, outlets := [] }
  fail (Text.bytes "close failed on file " ++ name ++ Text.bytes (" (" ++ fault.text ++ ")"))

/-- Let a text go out on standard output. -/
def emit (text : Bytes) : Acting Unit := do
  if !text.isEmpty then
    match (← get).scene.write 1 text with
    | .ok scene => modify fun m => { m with scene := scene }
    | .error fault => failWriting (Text.bytes "/dev/stdout") fault

/-- Write on standard output. -/
def put (text : Bytes) : Acting Unit := do
  let pending := (← get).standard.add text
  let (blocks, pending) := pending.blocks
  modify fun m => { m with standard := pending }
  emit blocks

/-- Let all go out that was written on standard output. -/
def flush : Acting Unit := do
  let text := (← get).standard.all
  modify fun m => { m with standard := {} }
  emit text

/-- Let a text go out into a file. -/
def emitInto (o : Outlet) (number : Nat) (text : Bytes) : Acting Unit := do
  if !text.isEmpty then
    match (← get).scene.writeStream number text with
    | .ok scene => modify fun m => { m with scene := scene }
    | .error fault => failWriting o.name fault

/-- Let all go out that was written into a file. -/
def flushOutlet (o : Outlet) : Acting Outlet := do
  match o.stream with
  | some number =>
    emitInto o number o.pending.all
    return { o with pending := {} }
  | none => return o

/-- Let all go out that was written anywhere. -/
def flushAll : Acting Unit := do
  flush
  let outlets := (← get).outlets
  let flushed ← outlets.mapM flushOutlet
  modify fun m => { m with outlets := flushed }

/-! ## Commands -/

/-- The status of a command that ended. -/
def statusOf : Ending → Nat
  | .exited code => code.toInt.toNat
  | .killed signal => 256 + signal

/-- Run a program on an input, or on that of this one, and give what it printed if that is asked for. -/
def runWords (words : List Bytes) (input : Option Bytes) (captures : Bool) : Acting (Nat × Bytes) := do
  let starter := (← read).starter
  let s := (← get).scene
  let there := match input with
    | some text =>
      let (number, s) := s.addStream (.pipe text [])
      s.assign 0 (some number)
    | none => s
  let (number, there) := there.addStream (.pipe [] [])
  let there := if captures then there.assign 1 (some number) else there
  match starter.start starter.environment starter.ignored words there with
  | .ok (ending, after) =>
    let printed := match after.commons.streams[number]? with
      | some (.pipe content added) => content ++ added.reverse.flatten
      | _ => []
    modify fun m => { m with scene := s.after after }
    return (statusOf ending, printed)
  | .error _ => return (127, [])

/-- The words that run a command with pipes. -/
def commandWords (command : Bytes) : List Bytes :=
  [Text.bytes "/bin/sh", Text.bytes "-c", command]

/-- Run a command to its end, and give its status. -/
def system (command : Bytes) : Acting Nat := do
  flushAll
  return (← runWords [Text.bytes "sh", Text.bytes "-c", command] none false).1

/-- Close what is open for writing, and give the status. -/
def closeOutlet (o : Outlet) : Acting Nat := do
  match o.stream with
  | some _ =>
    let _ ← flushOutlet o
    return 0
  | none => return (← runWords (commandWords o.name) (some o.pending.all) false).1

/-- Close what has a name, if it is open, and give the status. -/
def close (name : Bytes) : Acting (Option Nat) := do
  let m ← get
  let (outlets, others) := m.outlets.partition fun o => o.name == name
  let (sources, otherSources) := m.sources.partition fun source => source.name == name
  set { m with outlets := others, sources := otherSources }
  let statuses ← outlets.mapM closeOutlet
  return (statuses ++ sources.map Source.status).getLast?

/-- Close all that is open for writing. -/
def closeAll : Acting Unit := do
  let outlets := (← get).outlets
  modify fun m => { m with outlets := [] }
  for o in outlets do
    let _ ← closeOutlet o
  flush

/-- What is open for writing under a name, at the front of all; it is opened if need be. -/
def outlet (name : Bytes) (isCommand appends : Bool) : Acting Outlet := do
  let m ← get
  match m.outlets.find? fun o => o.name == name && o.stream.isNone == isCommand with
  | some o => return o
  | none =>
    if isCommand then
      flushAll
      return { name := name, stream := none }
    else
      match m.scene.openFile name (if appends then .append else .write) with
      | .ok (number, scene) =>
        set { m with scene := scene }
        return { name := name, stream := some number }
      | .error fault =>
        fail (Text.bytes "cannot open \"" ++ name ++ Text.bytes ("\" for output (" ++ fault.text ++ ")"))

/-- Write into a file or for a command. -/
def putInto (name : Bytes) (isCommand appends : Bool) (text : Bytes) : Acting Unit := do
  if !isCommand && name = Text.bytes "/dev/stdout" then put text
  else if !isCommand && name = Text.bytes "/dev/stderr" then modify fun m => { m with scene := m.scene.complain text }
  else
    let o ← outlet name isCommand appends
    let pending := o.pending.add text
    let (blocks, pending) := if isCommand then ([], pending) else pending.blocks
    match o.stream with
    | some number => emitInto o number blocks
    | none => pure ()
    modify fun m =>
      { m with
        outlets := { o with pending := pending } ::
          m.outlets.filter fun other => !(other.name == name && other.stream.isNone == isCommand) }

/-! ## Reading -/

/-- The next record of an input. -/
def nextOf (feed : Feed) : Acting (Option Bytes × Feed) := do
  let e := (← get).recordEnd
  match ← onScene (feed.next e Feed.blockLimit) with
  | .ok result => return result
  | .error fault => fail (Text.bytes ("read error (" ++ fault.text ++ ")"))

/-- Set a variable that an argument names, if the program has it. -/
def setNamed (name value : Bytes) : Acting Unit := do
  match (← read).program.names.findIdx? (· == name) with
  | some n => setWhole n (.given value)
  | none => pure ()

/-- Open an input. -/
def openInput (path : Bytes) : Acting Unit := do
  match ← onScene (Inputs.stream path) with
  | .ok number =>
    modify fun m => { m with feed := some { stream := some number }, hasRead := true }
    setWhole Special.fileName (.text path)
    setWhole Special.fileRecordNumber (.number 0)
  | .error fault => fail (Text.bytes "cannot open " ++ path ++ Text.bytes (" (" ++ fault.text ++ ")"))

end Acting

end LineShell.Host.Awk
