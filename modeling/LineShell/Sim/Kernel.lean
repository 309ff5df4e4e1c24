import LineShell.Kernel
import LineShell.Program.Bundled
import LineShell.Sim.Store

/-!
# The kernel in memory

Files live in a `Store`, programs are images bound to files, and a started process waits in a table until someone
waits for it: only then it runs, to its end, in the working directory that its starter had.

- `Sim.answer` is the answer to one request, where waiting is given as an argument; `Sim.kernel` ties the knot, up to
  a nesting depth: a process that waits deeper than that is never answered;
- `Sim.empty` and `Sim.booted` are the states a kernel starts in.
-/

namespace LineShell

namespace Sim

/-- Where the console of the kernel gets its input. -/
inductive Input
  | script (script : Script)
  /-- From standard input. -/
  | standard
deriving DecidableEq, Repr

/-- A process that was started and not waited for yet. -/
structure Process where
  program : Program
  argv : List String
  cwd : String

end Sim

/-- The state of the kernel in memory. -/
structure Sim where
  store : Sim.Store := .empty
  /-- The programs, by the number of the file they are bound to. -/
  images : List (Nat × Program) := []
  /-- The processes, by identifier. -/
  processes : List (Nat × Sim.Process) := []
  nextPid : Nat := 0
  cwd : String := "/"
  input : Sim.Input := .script []
  /-- How many more writes the console takes before it refuses all that follow; without a number it takes every one. -/
  room : Option Nat := none

namespace Sim

/-- A kernel with nothing installed, and this console input. -/
def empty (input : Input) : Sim :=
  { input := input }

/-! ## Paths and descriptors -/

/-- The number of the file that a path means. -/
def lookup (s : Sim) (path : String) : Option Nat :=
  s.store.lookup (Path.absolute s.cwd path)

/-- The number of the file behind a descriptor. -/
def handle? (s : Sim) (fd : Fd) : Option Nat :=
  fd.fileId?.bind fun id => (s.store.get? id).map fun _ => id

/-- The answer that hands out the descriptor of a file. -/
def descriptorReply (id : Nat) : Reply :=
  match Fd.ofFileId? id with
  | some fd => ⟨fd.raw.toInt64, .nothing⟩
  | none => .refused

/-- Bind a program to a file. -/
def bindImage (s : Sim) (id : Nat) (program : Program) : Sim :=
  { s with images := (id, program) :: s.images.filter (·.1 != id) }

/-! ## Answers that change no process -/

/-- Create an empty file or directory. Its name may take `fileNameWidth` bytes, nothing may be there yet, and what it is
in must be a directory. -/
def create (s : Sim) (path : String) (directory : Bool) : Reply × Sim :=
  let place := Path.absolute s.cwd path
  match Path.splitLast place with
  | none => (.refused, s)
  | some (parentPath, name) =>
    if fileNameWidth < Text.size name || (s.lookup place).isSome then (.refused, s)
    else
      match s.lookup parentPath with
      | none => (.refused, s)
      | some parent =>
        match s.store.children? parent with
        | none => (.refused, s)
        | some _ =>
          (descriptorReply s.store.slots.size,
            { s with store := s.store.append { name, parent, data := if directory then .dir [] else .file [] } })

/-- Remove a file or directory, and the image bound to it. -/
def unlink (s : Sim) (path : String) : Reply × Sim :=
  match s.lookup path with
  | none => (.refused, s)
  | some id =>
    match s.store.remove id with
    | none => (.refused, s)
    | some store => (.granted .nothing, { s with store := store, images := s.images.filter (·.1 != id) })

/-- The changed store if there is one, else a refusal. -/
def storing (s : Sim) : Option Store → Reply × Sim
  | some store => (.granted .nothing, { s with store := store })
  | none => (.refused, s)

/-- Start a process in the working directory. It gets the next identifier and runs when it is waited for. Behind the last
identifier the count of them overflows: the kernel breaks off, and there is no answer. -/
def spawn (s : Sim) (path : String) (argv : List String) : Option (Reply × Sim) :=
  match (s.lookup path).bind fun id => s.images.lookup id with
  | none => some (.refused, s)
  | some program =>
    if s.nextPid + 1 < Pid.limit then
      some (⟨Int64.ofNat s.nextPid, .nothing⟩,
        { s with nextPid := s.nextPid + 1, processes := s.processes ++ [(s.nextPid, ⟨program, argv, s.cwd⟩)] })
    else none

/-- Make a directory the working directory. -/
def changeDir (s : Sim) (path : String) : Reply × Sim :=
  match (s.lookup path).bind s.store.children? with
  | some _ => (.granted .nothing, { s with cwd := Path.absolute s.cwd path })
  | none => (.refused, s)

/-- What a file holds from `offset` on, as the answer to a read. -/
def readFile (s : Sim) (fd : Fd) (count offset : Nat) : Reply :=
  match (s.handle? fd).bind s.store.content? with
  | none => .refused
  | some content =>
    let data := Content.readAt content offset count
    ⟨Int64.ofNat data.length, .bytes data⟩

/-- The answer that shows what was looked up, if it was found. -/
def showing {α : Type} (fill : α → Fill) : Option α → Reply
  | some found => .granted (fill found)
  | none => .refused

/-! ## The console -/

/-- Read the console. -/
def readConsole (m : Machine Sim) (count : Nat) : Reply × Machine Sim :=
  match m.state.input with
  | .script script =>
    match script.read count with
    | (some data, rest) =>
      (⟨Int64.ofNat data.length, .bytes data⟩, { m with state := { m.state with input := .script rest } })
    | (none, rest) => (.refused, { m with state := { m.state with input := .script rest } })
  | .standard =>
    let (data, stdin) := m.terminal.stdin.read count
    (⟨Int64.ofNat data.length, .bytes data⟩, { m with terminal := { m.terminal with stdin := stdin } })

/-- Write on the console. -/
def writeConsole (m : Machine Sim) (data : Bytes) : Reply × Machine Sim :=
  match m.state.room with
  | some 0 => (.refused, m)
  | room => (.granted .nothing, { m.emit data with state := { m.state with room := room.map (· - 1) } })

/-- How much is left on the console. -/
def supply (m : Machine Sim) : Nat :=
  match m.state.input with
  | .script script => script.unread
  | .standard => m.terminal.stdin.unread.length

/-! ## Processes -/

/-- The table without a process, and the process. -/
def take (s : Sim) (pid : Pid) : Option (Process × Sim) :=
  match s.processes.find? (fun entry => (entry.1 : Int) == pid.raw.toInt) with
  | none => none
  | some (id, process) => some (process, { s with processes := s.processes.filter (·.1 != id) })

/-- Wait for a process: it leaves the table, runs in its own working directory, and the waiting process finds its
own one unchanged. -/
def reap (runProcess : Process → Machine Sim → Option (ExitCode × Machine Sim)) (pid : Pid) (m : Machine Sim) :
    Option (Reply × Machine Sim) :=
  match m.state.take pid with
  | none => some (.refused, m)
  | some (process, s) =>
    match runProcess process { m with state := { s with cwd := process.cwd } } with
    | none => none
    | some (code, m') => some (.granted (.status code), { m' with state := { m'.state with cwd := m.state.cwd } })

/-- The answer to a request, given how a process is run. -/
def answer (runProcess : Process → Machine Sim → Option (ExitCode × Machine Sim)) (r : Request) (m : Machine Sim) :
    Option (Reply × Machine Sim) :=
  let s := m.state
  /- An answer that changes the kernel alone. -/
  let changed (result : Reply × Sim) : Option (Reply × Machine Sim) := some (result.1, { m with state := result.2 })
  match r with
  | .read fd count offset =>
    if fd = .stdin then some (readConsole m count.toNat) else some (s.readFile fd count.toNat offset.toNat, m)
  | .write fd data offset =>
    if fd = .stdout || fd = .stderr then some (writeConsole m data)
    else changed (s.storing ((s.handle? fd).bind fun id => s.store.writeAt id offset.toNat data))
  | .openFile path => some ((s.lookup path).elim .refused descriptorReply, m)
  | .fstat fd => some (showing .stat ((s.handle? fd).bind s.store.stat?), m)
  | .waitpid pid => reap runProcess pid m
  | .exec path argv => (s.spawn path argv).bind changed
  | .exit _ => none
  | .truncate path length => changed (s.storing ((s.lookup path).bind fun id => s.store.resize id length.toNat))
  | .ftruncate fd length => changed (s.storing ((s.handle? fd).bind fun id => s.store.resize id length.toNat))
  | .currentDir => some (.granted (.text s.cwd), m)
  | .chdir path => changed (s.changeDir path)
  | .creat path directory => changed (s.create path directory)
  | .removeFile path => changed (s.unlink path)
  | .readDir fd offset =>
    some (showing .entry ((s.handle? fd).bind fun id => s.store.entry? id offset.toNat), m)

/-- Run a process, with waiting nested at most `depth` deep. -/
def runProcess : (depth : Nat) → Process → Machine Sim → Option (ExitCode × Machine Sim)
  | 0, _, _ => none
  | depth + 1, process, m =>
    (Program.start process.program (supply m) process.argv).run ⟨answer (runProcess depth), supply⟩ m

/-- The kernel in memory, with waiting nested at most `depth` deep. -/
def kernel (depth : Nat) : Kernel Sim :=
  ⟨answer (runProcess depth), supply⟩

/-- The nesting that is allowed for when nothing else is said: more than a stack has room for. -/
def deep : Nat := 1000000

/-! ## Starting up -/

/-- Create a file and bind a program to it. The answer is that of the creation. -/
def install (s : Sim) (path : String) (program : Program) : Reply × Sim :=
  let (reply, s) := s.create path false
  if reply.failed then (.refused, s)
  else
    match Prog.descriptor .creat reply with
    | .ok fd => (reply, fd.fileId?.elim s fun id => s.bindImage id program)
    | .error _ => (.refused, s)

/-- Install every program of a table in the root. -/
def installAll (s : Sim) (table : List (String × Program)) : Sim :=
  table.foldl (fun s (name, program) => (s.install ("/" ++ name) program).2) s

/-- A kernel with the directory `/tmp` and every bundled program. -/
def booted (input : Input) : Sim :=
  ((empty input).create "/tmp" true).2.installAll Program.bundled

/-! ## Inspection -/

/-- The number of processes that were started and not waited for. -/
def running (s : Sim) : Nat :=
  s.processes.length

/-- What the file at a path holds. -/
def contents (s : Sim) (path : String) : Option Bytes :=
  (s.lookup path).bind s.store.content?

end Sim

end LineShell
