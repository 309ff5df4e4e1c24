import LineShell.Userland.Awk.Formatted
import LineShell.Userland.Awk.Lexer
import LineShell.Userland.Awk.Machine
import LineShell.Userland.Calendar

/-!
# Expressions and statements at work

`eval` is the value of an expression and `exec` does what a statement says; both are given how functions are called,
which `Program.call` says: each call runs the body of a function one level further down.

A statement ends with a `Flow`, which says what comes next.
-/

namespace LineShell.Host.Awk

/-- What comes after a statement. -/
inductive Flow
  /-- The next statement. -/
  | on
  /-- What follows the loop, or its next round. -/
  | leave
  | again
  /-- The next record, or that of the next input. -/
  | next
  | nextFile
  /-- What follows the call of the function. -/
  | giveBack (v : Value)

instance : Inhabited Flow := ⟨.on⟩

/-- How a function is called: with values and tables. -/
abbrev Calling := Nat → List Cell → Acting Value

/-- A place that can be read and written, where all that says which one it is was worked out. -/
inductive Spot
  | slot (s : Slot)
  | entry (table : Nat) (key : Key)
  | field (n : Nat)

namespace Spot

def get : Spot → Acting Value
  | slot s => Acting.slot s
  | entry table key => Acting.onTable table fun t => t.get key
  | field n => Acting.field n

def set (v : Value) : Spot → Acting Unit
  | slot s => Acting.setSlot s v
  | entry table key => Acting.onTable table fun t => ((), t.insert key v)
  | field n => Acting.setField n v

end Spot

namespace Acting

/-! ## Functions that every program has -/

/-- A value as a text. -/
def text (v : Value) : Acting Bytes := do
  match v with
  | .text t | .given t => return t
  | .nothing => return []
  | .number _ => return v.toText (← numberFormat)

/-- The text of a part of another one: so many bytes from a place on, which is counted from one. -/
def part (t : Bytes) (start : Float) (length : Option Float) : Bytes :=
  let first := toWhole start - 1
  match length.map toWhole with
  | none => t.drop first.toNat
  | some count => (t.drop first.toNat).take (if first < 0 then count + first else count).toNat

/-- Where a text is in another one, counted from one; zero if it is nowhere. -/
def position (t sought : Bytes) (n : Nat) : Nat :=
  if sought.isPrefixOf t then n
  else
    match t with
    | [] => 0
    | _ :: rest => position rest sought (n + 1)

def upperByte (b : UInt8) : UInt8 :=
  if byte 'a' ≤ b && b ≤ byte 'z' then b - 32 else b

def lowerByte (b : UInt8) : UInt8 :=
  if byte 'A' ≤ b && b ≤ byte 'Z' then b + 32 else b

/-- The time now, in seconds from the start of 1970. -/
def now : Acting Int :=
  return (← get).scene.disk.now / 1000000000

/-- The time that six numbers name. -/
def timeOf? (t : Bytes) : Option Int :=
  match (Separator.blanks.cut t).mapM Print.integer? with
  | some (year :: month :: day :: hour :: minute :: second :: _) =>
    let months := month - 1
    let year := year + months / 12
    let days := Moment.dayNumber year ((months % 12).toNat + 1) 1 + day - 1
    some (days * 86400 + hour * 3600 + minute * 60 + second)
  | _ => none

/-- A function that every program has, on the values of its arguments. -/
def builtin (b : Builtin) (args : List Value) : Acting Value := do
  let first := args.headD .nothing
  let x := first.toNumber
  match b with
  | .length =>
    let t ← if args.isEmpty then field 0 else pure first
    return .ofNat (← text t).length
  | .substr => return .text (part (← text first) (args.tail.headD .nothing).toNumber ((args[2]?).map Value.toNumber))
  | .index => return .ofNat (position (← text first) (← text (args.tail.headD .nothing)) 1)
  | .toupper => return .text ((← text first).map upperByte)
  | .tolower => return .text ((← text first).map lowerByte)
  | .sprintf =>
    let format ← text first
    let (written, fault) := Formatted.fill (← numberFormat) format args.tail
    match fault with
    | some fault => failAtRecord (fault.text (Text.bytes "sprintf") format)
    | none => return .text written
  | .int => return .number (if x < 0 then x.ceil + 0 else x.floor)
  | .sqrt => return .number x.sqrt
  | .exp => return .number x.exp
  | .log => return .number x.log
  | .sin => return .number x.sin
  | .cos => return .number x.cos
  | .atan2 => return .number (Float.atan2 x (args.tail.headD .nothing).toNumber)
  | .rand =>
    modifyGet fun m =>
      let (x, random) := m.random.next
      (.number x, { m with random := random })
  | .srand =>
    let seed ← if args.isEmpty then pure (Value.number (Float.ofInt (← now))) else pure first
    modifyGet fun m => (m.seed, { m with seed := seed, random := .ofSeed (toWhole seed.toNumber) })
  | .system => return .ofNat (← system (← text first))
  | .close =>
    match ← close (← text first) with
    | some status => return .ofNat status
    | none => return .number (-1)
  | .fflush =>
    if args.isEmpty then
      flush
      return .number 0
    else
      let name ← text first
      let isOpen := (← get).outlets.any fun o => o.name == name
      flushAll
      return .number (if isOpen || name = Text.bytes "/dev/stdout" then 0 else -1)
  | .strftime =>
    let format ← if args.isEmpty then pure [] else text first
    let time ← match args.tail with
      | v :: _ => pure (toWhole v.toNumber)
      | [] => now
    let format := if format.isEmpty then Text.bytes "%c" else format
    return .text ((Moment.ofTime (time * 1000000000)).render format)
  | .mktime => return .number (Float.ofInt ((timeOf? (← text first)).getD (-1)))
  | .systime => return .number (Float.ofInt (← now))

/-- Cut a text into the entries of a table, and say how many they are. -/
def splitInto (t : Bytes) (table : Nat) (separator : Option Value) : Acting Value := do
  let separator ← match separator with
    | none => pure (← get).separator
    | some v =>
      let by_ ← text v
      match Separator.ofText by_ with
      | .ok separator => pure separator
      | .error _ => pure (.fits (← matcherOf by_))
  let pieces := separator.cut t
  onTable table fun _ => ((), .ofRow (pieces.map Value.given))
  return .ofNat pieces.length

/-- Look where an expression fits a text. -/
def locate (t : Bytes) (m : Matcher) : Acting Value := do
  let (start, length) : Value × Value := match Matching.find m t with
    | some (start, stop) => (.ofNat (start + 1), .ofNat (stop - start))
    | none => (.number 0, .number (-1))
  setWhole Special.matchStart start
  setWhole Special.matchLength length
  return start

/-! ## Reading lines -/

/-- Count a record of the main input. -/
def countRecord (n : Nat) : Acting Unit := do
  let x := (← whole n).toNumber
  setWhole n (.number (x + 1))

/-- Whether an argument sets a variable. -/
def setting? (word : Bytes) : Option (Bytes × Bytes) :=
  let name := word.takeWhile Lexer.inName
  match word.drop name.length with
  | 61 :: value =>
    if name.head?.any Lexer.startsName then some (name, Lexer.withoutEscapes (value.length + 1) value) else none
  | _ => none

/-- Go to the next argument that is an input, if there is one. -/
def openNext : (fuel : Nat) → Acting Bool
  | 0 => return false
  | fuel + 1 => do
    let n := (← get).nextArgument
    let count := toWhole (← whole Special.argumentCount).toNumber
    if count ≤ n then
      if (← get).hasRead then return false
      else
        match (← get).scene.descriptors.lookup 0 with
        | some number =>
          modify fun m => { m with feed := some { stream := some number }, hasRead := true }
          return true
        | none => return false
    else
      modify fun m => { m with nextArgument := n + 1 }
      let key := Key.number n
      let word ← if ← onTable Special.arguments fun t => t.contains key then
          text (← onTable Special.arguments fun t => t.get key)
        else pure []
      match setting? word with
      | some (name, value) =>
        setNamed name value
        openNext fuel
      | none =>
        if word.isEmpty then openNext fuel
        else
          openInput word
          return true

/-- The next record of the main input, if there is one. -/
def nextRecord : (fuel : Nat) → Acting (Option Bytes)
  | 0 => return none
  | fuel + 1 => do
    let m ← get
    if m.isOver then return none
    else
      match m.feed with
      | some feed =>
        match ← nextOf feed with
        | (some record, feed) =>
          modify fun m => { m with feed := some feed }
          countRecord Special.recordNumber
          countRecord Special.fileRecordNumber
          return some record
        | (none, _) =>
          modify fun m => { m with feed := none }
          nextRecord fuel
      | none =>
        let count := toWhole (← whole Special.argumentCount).toNumber
        if ← openNext (count.toNat + 1) then nextRecord fuel
        else
          modify fun m => { m with isOver := true }
          return none

/-- As many inputs as there may be. -/
def inputLimit : Nat := 1000000

/-- What is open for reading under a name; it is opened if need be. -/
def source (name : Bytes) (isCommand : Bool) : Acting (Option Source) := do
  match (← get).sources.find? fun o => o.name == name && o.isCommand == isCommand with
  | some o => return some o
  | none =>
    if isCommand then
      flushAll
      let (status, printed) ← runWords (commandWords name) none true
      return some { name := name, isCommand := true, feed := { stream := none, rest := printed }, status := status }
    else
      match ← onScene (Inputs.stream name) with
      | .ok number => return some { name := name, isCommand := false, feed := { stream := some number } }
      | .error _ => return none

/-- Give a line that was read to where it goes: the record, unless that is said. -/
def deliver (into : Option Spot) (line : Option Bytes) : Acting Value := do
  match line with
  | none => return .number 0
  | some line =>
    match into with
    | some spot => spot.set (.given line)
    | none => modify fun m => { m with record := .ofText line }
    return .number 1

/-- Read a line of a file, or of what a command printed. -/
def readFrom (name : Bytes) (isCommand : Bool) (into : Option Spot) : Acting Value := do
  match ← source name isCommand with
  | none => return .number (-1)
  | some o =>
    let (line, feed) ← nextOf o.feed
    modify fun m =>
      { m with
        sources := { o with feed := feed } ::
          m.sources.filter fun other => !(other.name == name && other.isCommand == isCommand) }
    deliver into line

end Acting

open Acting

/-! ## Expressions -/

/-- The key that the values of subscripts make. -/
def keyOf (values : List Value) : Acting Key := do
  match values with
  | [v] => return .ofValue (← numberFormat) v
  | all =>
    let texts ← all.mapM text
    let between ← special Special.subscriptSeparator
    return .text (texts.intersperse between).flatten

/-- What an expression with a value says that texts are matched against. -/
def pattern (e : Expr) (value : Acting Value) : Acting Matcher := do
  match e with
  | .regex m => return m
  | _ => matcherOf (← text (← value))

/-- Get a place ready to be assigned to: an entry of a table is there from now on. -/
def prepare (spot : Spot) : Acting Unit := do
  match spot with
  | .entry .. =>
    let _ ← spot.get
  | _ => pure ()

mutual

/-- The value of an expression. -/
def eval (call : Calling) : Expr → Acting Value
  | .number x => return .number x
  | .text t => return .text t
  | .regex m => return .ofBool (Matching.occurs m (← text (← field 0)))
  | .get p => do (← spotOf call p).get
  | .assign p e => do
    let spot ← spotOf call p
    prepare spot
    let v ← eval call e
    spot.set v
    return v
  | .update o p e => do
    let spot ← spotOf call p
    prepare spot
    let y := (← eval call e).toNumber
    let x := (← spot.get).toNumber
    let v := Value.number (o.apply x y)
    spot.set v
    return v
  | .count first up p => do
    let spot ← spotOf call p
    let x := (← spot.get).toNumber
    let y := if up then x + 1 else x - 1
    spot.set (.number y)
    return .number (if first then y else x)
  | .operate o a b => do
    let x := (← eval call a).toNumber
    let y := (← eval call b).toNumber
    return .number (o.apply x y)
  | .concat a b => do
    let s ← text (← eval call a)
    let t ← text (← eval call b)
    return .text (s ++ t)
  | .compare c a b => do
    let x ← eval call a
    let y ← eval call b
    return .ofBool (x.compare (← numberFormat) c y)
  | .matches_ negated a b => do
    let t ← text (← eval call a)
    let m ← pattern b (eval call b)
    return .ofBool (Matching.occurs m t != negated)
  | .both a b => do
    if (← eval call a).isTrue then return .ofBool (← eval call b).isTrue
    else return .ofBool false
  | .either a b => do
    if (← eval call a).isTrue then return .ofBool true
    else return .ofBool (← eval call b).isTrue
  | .not e => return .ofBool (!(← eval call e).isTrue)
  | .negate e => return .number (-(← eval call e).toNumber)
  | .plus e => return .number (← eval call e).toNumber
  | .choose c a b => do if (← eval call c).isTrue then eval call a else eval call b
  | .isIn subscripts table => do
    let key ← keyOf (← evalAll call subscripts)
    return .ofBool (← onTable (← tableOf table) fun t => t.contains key)
  | .call f args => do
    let tables := ((← read).program.functions[f]?).elim [] Function.tables
    call f (← given call tables 0 args)
  | .builtin b args => do
    match b, args with
    | .length, [.get (.named s)] =>
      match ← table? s with
      | some id => return .ofNat (← onTable id fun t => (t.size, t))
      | none => builtin b [← slot s]
    | _, _ => builtin b (← evalAll call args)
  | .split e table separator => do
    let t ← text (← eval call e)
    let id ← tableOf table
    match separator with
    | none => splitInto t id none
    | some (.regex m) =>
      let pieces := Separator.cut (.fits m) t
      onTable id fun _ => ((), .ofRow (pieces.map Value.given))
      return .ofNat pieces.length
    | some e => splitInto t id (some (← eval call e))
  | .locate e p => do
    let t ← text (← eval call e)
    locate t (← pattern p (eval call p))
  | .substitute everywhere p by_ place => do
    let m ← pattern p (eval call p)
    let by_ ← text (← eval call by_)
    let spot ← spotOf call place
    let t ← text (← spot.get)
    let (replaced, count) := Matching.replace m everywhere by_ t
    if count != 0 then spot.set (.text replaced)
    return .ofNat count
  | .readNext none => do
    deliver none (← nextRecord inputLimit)
  | .readNext (some p) => do
    let spot ← spotOf call p
    deliver (some spot) (← nextRecord inputLimit)
  | .readFile none path => do
    readFrom (← text (← eval call path)) false none
  | .readFile (some p) path => do
    let spot ← spotOf call p
    readFrom (← text (← eval call path)) false (some spot)
  | .readCommand none command => do
    readFrom (← text (← eval call command)) true none
  | .readCommand (some p) command => do
    let command ← text (← eval call command)
    readFrom command true (some (← spotOf call p))

/-- The values of expressions. -/
def evalAll (call : Calling) : List Expr → Acting (List Value)
  | [] => return []
  | e :: rest => do
    let v ← eval call e
    return v :: (← evalAll call rest)

/-- What is given to a function, from an argument on; some are tables. -/
def given (call : Calling) (tables : List Nat) (n : Nat) : List Expr → Acting (List Cell)
  | [] => return []
  | e :: rest => do
    let cell ← match tables.contains n, e with
      | true, .get (.named s) => pure (Cell.table (← tableOf s))
      | true, _ => pure (Cell.table (← newTable))
      | false, e => pure (Cell.value (← eval call e))
    return cell :: (← given call tables (n + 1) rest)

/-- A place, with all that says which one it is worked out. -/
def spotOf (call : Calling) : Place → Acting Spot
  | .named s => return .slot s
  | .element table subscripts => do
    let key ← keyOf (← evalAll call subscripts)
    return .entry (← tableOf table) key
  | .field e => return .field (← fieldNumber (← eval call e))

end

/-! ## Statements -/

/-- Do rounds until one says what comes next. -/
def rounds (round : Acting (Option Flow)) : (fuel : Nat) → Acting Flow
  | 0 => return .on
  | fuel + 1 => do
    match ← round with
    | none => rounds round fuel
    | some flow => return flow

/-- The most rounds of a loop. -/
def roundLimit : Nat := 3000000

/-- Do something for each of some keys, until that says otherwise. -/
def forKeys (act : Bytes → Acting Flow) : List Bytes → Acting Flow
  | [] => return .on
  | key :: rest => do
    match ← act key with
    | .on | .again => forKeys act rest
    | .leave => return .on
    | flow => return flow

/-- What is written, to where that is said. -/
def write (call : Calling) (into : Output) (shown : Bytes) : Acting Unit := do
  match into with
  | .standard => Acting.put shown
  | .file appends path => putInto (← text (← eval call path)) false appends shown
  | .command e => putInto (← text (← eval call e)) true false shown

/-- Values as they are printed. -/
def line (values : List Value) : Acting Bytes := do
  let format ← special Special.outputFormat
  let between ← special Special.outputFieldSeparator
  let ending ← special Special.outputRecordSeparator
  match values with
  | [v] => return v.toText format ++ ending
  | values => return ((values.map (·.toText format)).intersperse between).flatten ++ ending

/-- Do what a statement says. -/
def exec (call : Calling) : Stmt → Acting Flow
  | .nothing => return .on
  | .sequence first rest => do
    match ← exec call first with
    | .on => exec call rest
    | flow => return flow
  | .evaluate e => do
    let _ ← eval call e
    return .on
  | .print args into => do
    let values ← if args.isEmpty then pure [← field 0] else evalAll call args
    write call into (← line values)
    return .on
  | .printf args into => do
    let values ← evalAll call args
    let format ← text (values.headD .nothing)
    let (shown, fault) := Formatted.fill (← numberFormat) format values.tail
    match fault with
    | none => write call into shown
    | some fault =>
      write call into shown
      failAtRecord (fault.text (Text.bytes "printf") format)
    return .on
  | .ifElse c yes no => do
    if (← eval call c).isTrue then exec call yes else exec call no
  | .loop c step body first => do
    let round (asks : Bool) : Acting (Option Flow) := do
      let goesOn ← if asks then pure (← eval call c).isTrue else pure true
      if !goesOn then return some .on
      else
        match ← exec call body with
        | .leave => return some .on
        | .on | .again =>
          let _ ← exec call step
          return none
        | flow => return some flow
    if first then
      match ← round false with
      | none => rounds (round true) roundLimit
      | some flow => return flow
    else rounds (round true) roundLimit
  | .forEach p table body => do
    let id ← tableOf table
    let keys ← onTable id Table.keys
    forKeys (fun key => do
      (← spotOf call p).set (.text key)
      exec call body) keys
  | .next => return .next
  | .nextFile => return .nextFile
  | .exit e => do
    match e with
    | some e =>
      let n := toWhole (← eval call e).toNumber
      modify fun m => { m with status := (n % 256).toNat }
    | none => pure ()
    throw .exit
  | .giveBack none => return .giveBack .nothing
  | .giveBack (some e) => return .giveBack (← eval call e)
  | .leave => return .leave
  | .again => return .again
  | .delete table subscripts => do
    let key ← keyOf (← evalAll call subscripts)
    onTable (← tableOf table) fun t => ((), t.erase key)
    return .on
  | .clear table => do
    onTable (← tableOf table) fun _ => ((), {})
    return .on

/-! ## Calls -/

namespace Program

/-- Call a function; `depth` bounds how many calls may be inside each other. -/
def call (p : Program) : (depth : Nat) → Calling
  | 0, _, _ => fail (Text.bytes "program limit exceeded: eval stack size=1024")
  | depth + 1, n, args => do
    match p.functions[n]? with
    | none => return .nothing
    | some f =>
      let (size, frame) ← modifyGet fun m => ((m.tables.size, m.frame), { m with frame := #[] })
      let missing ← (List.range' args.length (f.params - args.length)).mapM fun n => do
        if f.tables.contains n then return Cell.table (← newTable)
        else return Cell.value .nothing
      modify fun m => { m with frame := (args ++ missing).toArray }
      let flow ← exec (p.call depth) f.body
      modify fun m => { m with frame := frame, tables := m.tables.extract 0 size }
      match flow with
      | .giveBack v => return v
      | _ => return .nothing

/-- How many calls may be inside each other. -/
def callLimit : Nat := 500

end Program

end LineShell.Host.Awk
