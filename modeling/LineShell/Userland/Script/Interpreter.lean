import LineShell.Userland.Pattern
import LineShell.Userland.Scene
import LineShell.Userland.Script.Syntax

/-!
# An interpreter of scripts at work

`Interpreter` is what an interpreter keeps between two commands; `Act` is something it does, which may end in a `Turn`
that makes it leave the course of the script. An `Engine` carries out what is nested in a command one level down.
Complaints name the script, the line and the command of the interpreter that is at work (`Act.complain`).
-/

namespace LineShell.Host.Script

/-- A variable. One that is not set may be marked already. -/
structure Variable where
  value : Option Bytes := none
  exported : Bool := false
  readOnly : Bool := false
deriving DecidableEq, Repr

/-- How far a command in the background is. Nothing happens in it before someone waits for it. -/
inductive JobState
  | waiting (work : Scene → Ending × Scene)
  /-- It ended, and perhaps that was told. -/
  | ended (ending : Ending) (told : Bool)

/-- A command put in the background. -/
structure Job where
  number : Nat
  pid : Nat
  state : JobState

def Job.isWaiting (job : Job) : Bool :=
  match job.state with
  | .waiting _ => true
  | .ended .. => false

/-- The state of an interpreter. -/
structure Interpreter where
  scene : Scene
  bindings : List (Bytes × Variable) := []
  functions : List (Bytes × Command) := []
  /-- The names that stand for texts where a command starts. -/
  aliases : List (Bytes × Bytes) := []
  /-- The names of the programs that were looked for before. -/
  tracked : List Bytes := []
  /-- The name the script goes by. -/
  name : Bytes
  args : List Bytes := []
  /-- The line of the command at work. -/
  line : Nat := 1
  /-- The command of the interpreter that is at work. -/
  command : Option Bytes := none
  /-- The status of the last command. -/
  status : Nat := 0
  /-- The status of the last command that ran for what it prints. -/
  outputStatus : Nat := 0
  /-- The letters of the options that are on. -/
  flags : List Char := []
  /-- The number of the process. -/
  pid : Nat
  /-- The number that the script is given as its own; a subshell is given that of its parent. -/
  shownPid : Nat
  /-- The processes that this one was started by. -/
  parents : List Nat := []
  /-- What is done on a signal, nothing if it is ignored; 0 is the end of the process. -/
  traps : List (Nat × Bytes) := []
  /-- The commands put in the background, latest first. -/
  jobs : List Job := []
  lastJob : Option Nat := none
  /-- The path by which the working directory was reached. -/
  dirPath : Bytes
  /-- How many loops are at work. -/
  loops : Nat := 0
  /-- For each function at work, latest first, the variables that it has for itself, as they were before. -/
  hidden : List (List (Bytes × Option Variable)) := []
  /-- How many letters of the next word of options were read. -/
  optionLetters : Nat := 0

/-- What makes a script leave its course. -/
inductive Turn
  | finish (status : Nat)
  | killed (signal : Nat)
  /-- A mistake, which was complained of. It ends the script, unless a command made it that is nothing special. -/
  | failed
  /-- Leave so many loops, or with `again` go on with the next round of the last of them. -/
  | leave (loops : Nat) (again : Bool)
  /-- Go back from a function. -/
  | back (status : Nat)
deriving DecidableEq, Repr

/-- Something an interpreter does. -/
abbrev Act := ExceptT Turn (StateM Interpreter)

/-- A piece of what a word expands to. -/
inductive Atom
  /-- A byte; one that `splits` may end a field. -/
  | byte (b : UInt8) (quoted splits : Bool)
  /-- Nothing, in quotes. -/
  | nothing
  /-- Where one argument ends and the next begins. -/
  | border
deriving DecidableEq, Repr

/-- Why a program with some name does not run. -/
inductive LaunchFault
  /-- It was not found. -/
  | unfound (fault : Fault)
  /-- It was found, but the system does not start it. -/
  | unstarted (fault : Fault)
deriving DecidableEq, Repr

/-- A program to be started. -/
structure Launch where
  path : Bytes
  /-- The name it is told. -/
  name : Bytes
  args : List Bytes
  environment : List (Bytes × Bytes)
  /-- The signals it ignores from the start. -/
  ignored : List Nat := []
  /-- The processes it is started by, the closest first. -/
  parents : List Nat := []

/-- What carries out the things nested in a command. -/
structure Engine where
  expand : Word → Act (List Atom)
  /-- Run a command. If its status is `tested`, a failure does not end the script. -/
  command : (tested : Bool) → Command → Act Unit
  /-- Run a text as a script. -/
  script : (tested : Bool) → Bytes → Act Unit
  start : Launch → Scene → Except Fault (Ending × Scene)

/-! ## Variables -/

namespace Interpreter

/-- Whether an option is on. -/
def has (i : Interpreter) (flag : Char) : Bool :=
  i.flags.contains flag

/-- The value of a variable, if it is set. -/
def valueOf? (i : Interpreter) (name : Bytes) : Option Bytes :=
  (i.bindings.lookup name).bind (·.value)

/-- Put a variable in the place of what goes by its name. -/
def setVariable (i : Interpreter) (name : Bytes) (v : Variable) : Interpreter :=
  if (i.bindings.lookup name).isSome then
    { i with bindings := i.bindings.map fun entry => if entry.1 == name then (name, v) else entry }
  else { i with bindings := i.bindings ++ [(name, v)] }

def dropVariable (i : Interpreter) (name : Bytes) : Interpreter :=
  { i with bindings := i.bindings.filter (·.1 != name) }

/-- The shelf on which a variable is kept, of 39. -/
def shelf (name : Bytes) : Nat :=
  name.foldl (fun n b => n + b.toNat) ((name.headD 0).toNat * 16) % 39

/-- What a program is told of the variables, shelf by shelf. -/
def environment (i : Interpreter) : List (Bytes × Bytes) :=
  let told := i.bindings.filterMap fun (name, v) =>
    if v.exported then v.value.map fun value => (name, value) else none
  told.mergeSort fun a b => shelf a.1 ≤ shelf b.1

/-- The launch of a program by name, below some processes. -/
def launch (i : Interpreter) (parents : List Nat) (name : Bytes) (args : List Bytes) : Launch where
  path := name
  name := name
  args := args
  environment := i.environment
  ignored := i.traps.filterMap fun (signal, action) => if action.isEmpty then some signal else none
  parents := parents

/-- The directories in which programs are looked for. -/
def programDirs (i : Interpreter) : Bytes :=
  (i.valueOf? (Text.bytes "PATH")).getD []

/-- The bytes that separate fields. -/
def separators (i : Interpreter) : Bytes :=
  (i.valueOf? (Text.bytes "IFS")).getD (Text.bytes " \t\n")

end Interpreter

namespace Act

/-- Do something in the scene. -/
def onScene {α : Type} (act : StateM Scene α) : Act α := do
  let i ← get
  let (value, scene) := act.run i.scene
  set { i with scene := scene }
  return value

def setStatus (status : Nat) : Act Unit :=
  modify fun i => { i with status := status }

/-- Write a complaint about what the interpreter does. -/
def complain (text : Bytes) : Act Unit :=
  modify fun i =>
    let lead := i.name ++ Text.bytes ": " ++ decimal i.line ++ Text.bytes ": "
    let lead := match i.command with
      | some name => lead ++ name ++ Text.bytes ": "
      | none => lead
    { i with scene := i.scene.complain (lead ++ text ++ [newline]) }

/-- Complain of a mistake, and leave the course. -/
def fail {α : Type} (text : Bytes) : Act α := do
  complain text
  throw .failed

/-- Complain of a mistake with a text of which nothing varies. -/
def failText {α : Type} (text : String) : Act α :=
  fail (Text.bytes text)

/-- Complain of something, by its name. -/
def failOf {α : Type} (name : Bytes) (text : String) : Act α :=
  fail (name ++ Text.bytes (": " ++ text))

/-- Set a variable. One that is read-only cannot be set. -/
def assign (name value : Bytes) (exported : Bool) : Act Unit := do
  let i ← get
  let old := (i.bindings.lookup name).getD {}
  if old.readOnly then failOf name "is read only"
  set (i.setVariable name { old with value := some value, exported := old.exported || exported || i.has 'a' })

/-- Do something, and answer with the turn it took. -/
def caught {α : Type} (act : Act α) : Act (Except Turn α) :=
  ExceptT.mk do
    let result ← ExceptT.run act
    return .ok result

/-- Do something with the descriptors as they are, and then put them back. -/
def keepingDescriptors {α : Type} (act : Act α) : Act α := do
  let before := (← get).scene.descriptors
  let result ← caught act
  modify fun i => { i with scene := { i.scene with descriptors := before } }
  match result with
  | .ok value => return value
  | .error turn => throw turn

end Act

/-- The status that tells how a process ended. -/
def statusOf : Ending → Nat
  | .exited code => code.toInt.toNat
  | .killed signal => 128 + signal

/-! ## Signals -/

/-- The names of the signals from 1 on. Those the system keeps for itself and one of old have none. -/
def signalNames : List String :=
  let later := (List.range 14).map fun n => "RTMAX-" ++ toString (14 - n)
  ["HUP", "INT", "QUIT", "ILL", "TRAP", "ABRT", "BUS", "FPE", "KILL", "USR1", "SEGV", "USR2", "PIPE", "ALRM", "TERM",
    "16", "CHLD", "CONT", "STOP", "TSTP", "TTIN", "TTOU", "URG", "XCPU", "XFSZ", "VTALRM", "PROF", "WINCH", "IO", "PWR",
    "SYS", "32", "33", "RTMIN"] ++ ((List.range 15).map fun n => "RTMIN+" ++ toString (n + 1)) ++ later ++ ["RTMAX"]

/-- The signal with a name or a number. Small letters are as good. -/
def signal? (word : Bytes) : Option Nat :=
  match number? word with
  | some n => if n ≤ 64 then some n else none
  | none =>
    let name := (String.ofList (letters word)).toUpper
    if name = "EXIT" then some 0 else (signalNames.idxOf? name).map (· + 1)

/-- What is said of a process that was killed by a signal. -/
def signalText (signal : Nat) : Option String :=
  let names := ["Hangup", "", "Quit", "Illegal instruction", "Trace/breakpoint trap", "Aborted", "Bus error",
    "Floating point exception", "Killed", "User defined signal 1", "Segmentation fault", "User defined signal 2", "",
    "Alarm clock", "Terminated", "Stack fault", "Child exited", "Continued", "Stopped (signal)", "Stopped",
    "Stopped (tty input)", "Stopped (tty output)", "Urgent I/O condition", "CPU time limit exceeded",
    "File size limit exceeded", "Virtual timer expired", "Profiling timer expired", "Window changed", "I/O possible",
    "Power failure", "Bad system call"]
  match names[signal - 1]? with
  | some "" => none
  | some text => some text
  | none => some (if signal < 34 then "Unknown signal " ++ toString signal
      else "Real-time signal " ++ toString (signal - 34))

/-- Whether a signal ends a process that does not expect it. The two that the system keeps for itself are ignored. -/
def isFatal (signal : Nat) : Bool :=
  signal != 0 && !([17, 18, 19, 20, 21, 22, 23, 28, 32, 33].contains signal)

/-! ## Processes -/

/-- Receive the signals that were sent to this process. -/
def deliver (e : Engine) : Act Unit := do
  let i ← get
  match i.scene.expired? with
  | some signal => throw (.killed signal)
  | none => pure ()
  let (mine, others) := i.scene.commons.signals.partition fun (pid, _) => pid == i.pid
  if mine.isEmpty then return
  set { i with scene := { i.scene with commons := { i.scene.commons with signals := others } } }
  for (_, signal) in mine do
    match (if signal = 9 then none else i.traps.lookup signal) with
    | none => if isFatal signal then throw (.killed signal)
    | some [] => pure ()
    | some action =>
      let status := (← get).status
      e.script false action
      Act.setStatus status

/-- The status that a process ended with. If a signal killed it, this is told. -/
def settled (ending : Ending) : Act Nat := do
  match ending with
  | .killed signal =>
    match signalText signal with
    | some text => modify fun i => { i with scene := i.scene.complain (Text.bytes (text ++ "\n")) }
    | none => pure ()
  | .exited _ => pure ()
  return statusOf ending

/-- Let the jobs that were chosen come to their ends, the oldest first. -/
def finishJobs (chosen : Job → Bool) : StateM Interpreter Unit := do
  for job in (← get).jobs.reverse do
    match job.state with
    | .waiting work =>
      if chosen job then
        let i ← get
        let (ending, scene) := work i.scene
        let jobs := i.jobs.map fun known =>
          if known.pid = job.pid then { known with state := .ended ending false } else known
        set { i with scene := i.scene.after scene, jobs := jobs }
    | .ended .. => pure ()

/-- Go on to the end of a process, with what is to be done there. -/
def toEnd (e : Engine) (act : Act Unit) : StateM Interpreter Ending := do
  let last (result : Except Turn Unit) (status : Nat) : Ending :=
    match result with
    | .error (.killed signal) => .killed signal
    | .error (.finish status) | .error (.back status) => .exited (Int32.ofNat (status % 256))
    | .error .failed => .exited 2
    | _ => .exited (Int32.ofNat (status % 256))
  let result ← ExceptT.run act
  let ending := last result (← get).status
  let ending ← match ending, (← get).traps.lookup 0 with
    | .exited code, some action =>
      let status := code.toInt.toNat
      modify fun i => { i with status := status, traps := i.traps.filter (·.1 != 0) }
      match ← ExceptT.run (e.script false action) with
      | .error turn => pure (last (.error turn) status)
      | .ok _ => pure ending
    | _, _ => pure ending
  finishJobs fun _ => true
  return ending

/-- A process apart that does something: its number, and the work to be done. Of what it changes, only files and
streams stay. -/
def detached (e : Engine) (act : Act Unit) : Act (Nat × (Scene → Ending × Scene)) := do
  let i ← get
  let (pid, scene) := i.scene.newPid
  set { i with scene := scene }
  let work (s : Scene) : Ending × Scene :=
    let (ending, j) := (toEnd e act).run { i with
      scene := { scene with commons := s.commons }
      pid := pid
      parents := i.pid :: i.parents
      traps := i.traps.filter (·.2.isEmpty)
      jobs := [] }
    (ending, j.scene)
  return (pid, work)

/-- Do something in a process apart. -/
def apart (e : Engine) (act : Act Unit) : Act Ending := do
  let (_, work) ← detached e act
  let i ← get
  let (ending, scene) := work i.scene
  set { i with scene := i.scene.after scene }
  return ending

/-- What a command prints in a process apart, and how it ended. -/
def captured (e : Engine) (act : Act Unit) : Act (Bytes × Ending) := do
  let i ← get
  let before := i.scene.descriptors
  let (stream, scene) := i.scene.addStream (.pipe [] [])
  set { i with scene := scene.assign 1 (some stream) }
  let ending ← apart e act
  modify fun j => { j with scene := { j.scene with descriptors := before } }
  match (← get).scene.commons.streams[stream]? with
  | some (.pipe content added) => return (content ++ added.reverse.flatten, ending)
  | _ => return ([], ending)

/-! ## Programs -/

/-- The paths of the files that a name may mean: one with a slash is a path itself, others are looked for in
directories. -/
def candidates (dirs name : Bytes) : List Bytes :=
  if name.contains Place.slash then [name]
  else (dirs.splitOn (byte ':')).map fun dir => if dir.isEmpty then name else dir ++ Place.slash :: name

/-- Whether there is a file at a path that could be a program. -/
def isCandidate (s : Scene) (path : Bytes) : Bool :=
  (s.find? path).any fun
    | .file .. | .tool _ => true
    | _ => false

/-- The path of the program with a name. -/
def search (s : Scene) (dirs name : Bytes) : Except Fault Bytes :=
  let paths := candidates dirs name
  match paths.find? (isCandidate s) with
  | some path => .ok path
  | none =>
    let worst := paths.filterMap fun path =>
      match s.disk.locate s.dir path with
      | .ok _ => some .denied
      | .error .missing | .error .notDirectory => none
      | .error fault => some fault
    .error (worst.getLastD .missing)

/-- Whether a file starts like a text: with a line that has no bytes in it for which there are no pictures. -/
def isText (content : Bytes) : Bool :=
  ((content.take 128).takeWhile (· != newline)).all fun b => (9 ≤ b && b < 16) || b = 27 || (32 ≤ b && b != 127)

/-- Start the file at the path in a launch. One that the system cannot start is run as a script; with `wary`, only if
it starts like a text. -/
def startAt (e : Engine) (wary : Bool) (l : Launch) (s : Scene) : Except Fault (Ending × Scene) :=
  match e.start l s with
  | .error .unformatted =>
    if wary && !isText (((s.contentOf? l.path).getD []).take 128) then .error .unformatted
    else
      let shell := Text.bytes "/bin/sh"
      e.start { l with path := shell, name := shell, args := l.path :: l.args } s
  | answer => answer

/-- Start the first of some files that the system starts; `fault` is what kept it from those before. -/
def startFirst (e : Engine) (wary : Bool) (l : Launch) (s : Scene) (fault : Fault) :
    List Bytes → Except Fault (Ending × Scene)
  | [] => .error fault
  | path :: rest =>
    match startAt e wary { l with path := path } s with
    | .ok answer => .ok answer
    | .error worse =>
      startFirst e wary l s (if worse = .missing || worse = .notDirectory then fault else worse) rest

/-- Start the program with the name in a launch. -/
def startFound (e : Engine) (wary : Bool) (dirs : Bytes) (l : Launch) (s : Scene) :
    Except LaunchFault (Ending × Scene) :=
  let paths := candidates dirs l.name
  if l.name.contains Place.slash then (startFirst e wary l s .missing paths).mapError .unstarted
  else
    match search s dirs l.name with
    | .error fault => .error (.unfound fault)
    | .ok _ =>
      (startFirst e wary l s .missing (paths.dropWhile fun path => !isCandidate s path)).mapError .unstarted

namespace LaunchFault

/-- The status for a program that does not run. -/
def status : LaunchFault → Nat
  | unfound _ | unstarted .missing | unstarted .notDirectory | unstarted .loop | unstarted .tooLong => 127
  | unstarted _ => 126

def fault : LaunchFault → Fault
  | unfound fault | unstarted fault => fault

/-- What the interpreter says of it. -/
def text (f : LaunchFault) : String :=
  match f.fault with
  | .missing | .notDirectory => "not found"
  | fault => fault.text

end LaunchFault

end LineShell.Host.Script
