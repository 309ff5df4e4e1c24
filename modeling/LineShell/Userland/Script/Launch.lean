import LineShell.Userland.Script.Run
import LineShell.Userland.Script.Starters
import LineShell.Userland.Utility

/-!
# Starting programs

`Interpreter.run` is the interpreter of scripts as a program, `startProgram` starts any program of the system: a
utility, the interpreter, or a file whose first line names its interpreter. `engine` ties programs and commands
together, level by level: what is nested more deeply than there are levels fails.
-/

namespace LineShell.Host.Script

/-! ## The interpreter as a program -/

/-- What the words behind the interpreter ask for. -/
structure Invocation where
  flags : List Char := []
  /-- Whether the script is an argument. -/
  inline : Bool := false
  operands : List Bytes := []

/-- What is wrong with the words behind the interpreter. -/
inductive InvocationFault
  | option (word : Bytes)
  | scriptMissing
  | unreadable (path : Bytes) (fault : Fault)
deriving DecidableEq, Repr

def InvocationFault.text : InvocationFault → Bytes
  | option word => Text.bytes "Illegal option " ++ word
  | scriptMissing => Text.bytes "-c requires an argument"
  | unreadable path fault =>
    let reason := if fault = .missing || fault = .notDirectory then "No such file" else fault.text
    Text.bytes "cannot open " ++ path ++ Text.bytes (": " ++ reason)

/-- Read the words behind the interpreter. -/
def readInvocation (v : Invocation) : List Bytes → Except InvocationFault Invocation
  | [] => .ok v
  | word :: rest =>
    match word with
    | [45] | [45, 45] => .ok { v with operands := rest }
    | sign :: b :: names =>
      if sign = byte '-' || sign = byte '+' then
        let names := letters (b :: names)
        let on := sign = byte '-'
        let plain := names.filter fun c => c != 'o' && c != 'c'
        match plain.find? fun c => !(c = 'l' || Builtin.optionNames.any (·.2 == some c)) with
        | some c => .error (.option [byte '-', byte c])
        | none =>
          let v := { v with flags := Builtin.switched on plain v.flags, inline := v.inline || names.contains 'c' }
          if names.contains 'o' then
            match rest with
            | [] => .ok v
            | name :: rest =>
              match Builtin.lettersOf? name with
              | some letters => readInvocation { v with flags := Builtin.switched on letters v.flags } rest
              | none => .error (.option (Text.bytes "-o " ++ name))
          else readInvocation v rest
      else .ok { v with operands := word :: rest }
    | _ => .ok { v with operands := word :: rest }

namespace Interpreter

/-- Where programs are looked for if nothing else is said. -/
def usualDirs : Bytes :=
  Text.bytes "/usr/local/sbin:/usr/local/bin:/usr/sbin:/usr/bin:/sbin:/bin"

/-- The state an interpreter starts in. -/
def initial (l : Launch) (s : Scene) (flags : List Char) : Interpreter :=
  let (pid, scene) := s.newPid
  let told := l.environment.filterMap fun (name, value) =>
    if isName name && name != Text.bytes "IFS" then some (name, { value := some value, exported := true }) else none
  let dirPath := s.dir.path
  let i : Interpreter := {
    scene := { scene with spoiled := none }
    bindings := told
    name := l.name
    flags := flags
    pid := pid
    shownPid := pid
    parents := l.parents
    traps := l.ignored.map fun signal => (signal, [])
    dirPath := dirPath }
  let defaults : List (String × Bytes) :=
    [("IFS", Text.bytes " \t\n"), ("OPTIND", [byte '1']), ("PS1", Text.bytes "# "), ("PS2", Text.bytes "> "),
      ("PS4", Text.bytes "+ "), ("PATH", (l.environment.lookup (Text.bytes "PATH")).getD usualDirs),
      ("PPID", decimal (l.parents.headD (pid - 1))), ("PWD", dirPath)]
  defaults.foldl (fun i (name, value) =>
    let old := (i.bindings.lookup (Text.bytes name)).getD {}
    let value := if name = "PS4" then old.value.getD value else value
    i.setVariable (Text.bytes name) { old with value := some value, exported := old.exported || name = "PWD" }) i

/-- The script to run, whether its lines may be shown, and the interpreter that runs it. -/
def prepare (l : Launch) (s : Scene) : Except InvocationFault (Bytes × Bool × Interpreter) := do
  let v ← readInvocation {} l.args
  let i := initial l s v.flags
  if v.inline then
    match v.operands with
    | [] => throw .scriptMissing
    | script :: operands => return (script, false, { i with name := operands.headD i.name, args := operands.tail })
  else if v.operands.isEmpty || i.has 's' then
    let i := { i with args := v.operands, flags := Builtin.switched true ['s'] i.flags }
    match i.scene.readAll 0 with
    | .ok (script, scene) => return (script, true, { i with scene := scene })
    | .error _ => return ([], true, i)
  else
    let path := v.operands.headD []
    match i.scene.openFile path .read with
    | .error fault => throw (.unreadable path fault)
    | .ok _ =>
      return ((i.scene.contentOf? path).getD [], true, { i with name := path, args := v.operands.tail })

/-- The interpreter as a program. -/
def run (e : Engine) (l : Launch) (s : Scene) : Ending × Scene :=
  match prepare l s with
  | .error fault => (.exited 2, s.complain (l.name ++ Text.bytes ": 0: " ++ fault.text ++ [newline]))
  | .ok (script, shown, i) =>
    let (ending, i) := (toEnd e (runShown e false shown script)).run i
    (ending, s.after i.scene)

end Interpreter

/-! ## All programs -/

/-- What starts other programs for a program. -/
def starterOf (e : Engine) (l : Launch) : Starter where
  environment := l.environment
  ignored := l.ignored
  start environment ignored words s :=
    match words with
    | [] => .ok (.exited 0, s)
    | name :: args =>
      let dirs := (environment.lookup (Text.bytes "PATH")).getD (Text.bytes "/bin:/usr/bin")
      match startFound e false dirs
        { l with name := name, args := args, environment := environment, ignored := ignored } s with
      | .ok (ending, after) => .ok (ending, s.after after)
      | .error fault => .error fault.fault

/-- The programs that start others. -/
def launchers : List (String × Launcher) :=
  [("env", Starters.env), ("nice", Starters.nice), ("nohup", Starters.nohup), ("timeout", Starters.timeout),
    ("stdbuf", Starters.stdbuf), ("setsid", Starters.setsid),
    ("printenv", Launcher.ofStatus Starters.printenv)] ++
  Utility.starting.map fun (name, act) => (name, Launcher.ofStatus act)

/-- The status of a program whose output could not be written. -/
def spoiledStatus (name : String) : Nat :=
  if ["ls", "dir", "vdir", "sort", "grep", "egrep", "fgrep", "cmp", "diff", "printenv"].contains name then 2
  else if ["expr", "tty"].contains name then 3
  else if name = "sed" then 4
  else if ["env", "nice", "timeout", "nohup", "stdbuf"].contains name then 125
  else 1

/-- Run a program of the system. -/
def runTool (e : Engine) (name : String) (l : Launch) (s : Scene) : Ending × Scene :=
  if name = "sh" then Interpreter.run e l s
  else
    let act : StateM Scene Ending := match launchers.lookup name with
      | some launcher => launcher (starterOf e l) l.args
      | none =>
        match Utility.all.lookup name with
        | some utility => do
          let status ← utility l.args
          return if status < killedBy 0 then ended status else .killed (status - killedBy 0)
        | none => return ended 127
    let (ending, s) := act.run { s with spoiled := none, title := l.name }
    match s.spoiled with
    | none => (ending, s)
    | some fault =>
      let lead := if name = "sed" then ": couldn't flush stdout: " else ": write error: "
      (match ending with
        | .exited _ => ended (spoiledStatus name)
        | killed => killed,
        { s.complain (l.name ++ Text.bytes (lead ++ fault.text ++ "\n")) with spoiled := none })

/-- The interpreter that the start of a script names, and the one argument that may follow it. The start is as long
as `namedLimit`, filled up with NUL, at which names and arguments end; a name that may be cut off is none. -/
def namedInterpreter (start : Bytes) : Option (Bytes × Option Bytes) :=
  let isBlank (b : UInt8) : Bool := b = byte ' ' || b = byte '\t'
  match start with
  | 35 :: 33 :: line =>
    let text := line.takeWhile fun b => b != newline && b != 0
    let isCut := text.length = line.length
    let trimmed := text.dropWhile isBlank
    let path := trimmed.takeWhile fun b => !isBlank b
    let ended := text.length < line.length && (line.drop text.length).head? = some newline
    if isCut && (trimmed.isEmpty || path.length = trimmed.length) then none
    else if ended && path.isEmpty then none
    else
      let argument := (trimmed.drop path.length).dropWhile isBlank
      let argument := if ended || isCut then (argument.reverse.dropWhile isBlank).reverse else argument
      some (path, if argument.isEmpty then none else some argument)
  | _ => none

/-- So much of a script is looked at for the name of its interpreter. -/
def namedLimit : Nat := 255

/-- Start the program at a path. Scripts name their interpreters, which may be scripts themselves, up to `depth`. -/
def startProgram (e : Engine) (l : Launch) (s : Scene) : (depth : Nat) → Except Fault (Ending × Scene)
  | 0 => .error .loop
  | depth + 1 =>
    match s.disk.find s.dir l.path with
    | .error fault => .error (if l.path.isEmpty then .denied else fault)
    | .ok (.tool name) => .ok (runTool e name l s)
    | .ok (.file content mode) =>
      if mode &&& Node.startBits = 0 then .error .denied
      else
        match namedInterpreter (padRight namedLimit 0 (content.read 0 namedLimit)) with
        | none => .error .unformatted
        | some (path, argument) =>
          startProgram e { l with path := path, name := path, args := argument.toList ++ l.path :: l.args } s depth
    | .ok _ => .error .denied

/-- The most scripts in a row that are each other's interpreters. -/
def interpreterLimit : Nat := 6

/-- The engine with so many levels. -/
def engine : Nat → Engine
  | 0 =>
    { expand := fun _ => throw .failed
      command := fun _ _ => throw .failed
      script := fun _ _ => throw .failed
      start := fun _ s => .ok (.exited 2, s) }
  | levels + 1 =>
    let e := engine levels
    { expand := expanded e
      command := runCommand e
      script := runText e
      start := fun l s => startProgram e l s interpreterLimit }

end LineShell.Host.Script
