import LineShell.Host.Descriptors
import LineShell.Host.System
import LineShell.Kernel
import LineShell.Path

/-!
# The kernel on top of an operating system

Paths resolve against a working directory of the kernel's own; a descriptor stands for a path, and every request on it
asks the system for that path anew. Children run in the kernel's working directory with its console.
-/

namespace LineShell

/-- The state of the kernel, with the state `φ` of the system below. -/
structure Host (φ : Type) where
  cwd : String
  descriptors : Host.Descriptors := {}
  /-- The children nobody waited for yet, by identifier. -/
  children : List (Nat × Host.Child) := []
  nextPid : Nat := 3000001
  system : φ

namespace Host

variable {φ : Type} (S : HostSystem φ)

/-- Paths are taken to their normal form before the system sees them. -/
def resolve (h : Host φ) (path : String) : String :=
  Path.absolute h.cwd path

/-- The path behind a descriptor. -/
def path? (h : Host φ) (fd : Fd) : Option String :=
  fd.fileId?.bind h.descriptors.path?

/-- Hand out the descriptor of a path. -/
def handOut (h : Host φ) (path : String) : Option Fd × Host φ :=
  let (id, descriptors) := h.descriptors.intern path
  (Fd.ofFileId? id, { h with descriptors := descriptors })

/-- The answer with the descriptor of a path. -/
def answerHandle (h : Host φ) (path : String) : Reply × Host φ :=
  match h.handOut path with
  | (some fd, h) => (⟨fd.raw.toInt64, .nothing⟩, h)
  | (none, h) => (.refused, h)

/-- The last name of a path; the root has none. -/
def lastName (path : String) : String :=
  ((Path.splitLast path).map (·.2)).getD ""

/-- The path of a name in a directory. -/
def join (dir name : String) : String :=
  if dir = "/" then "/" ++ name else dir ++ "/" ++ name

/-- The names of a directory as texts, in ascending order. -/
def sortedNames (names : List Bytes) : List String :=
  (names.map Text.decodeLossy).mergeSort fun a b => !decide (b < a)

/-! ## Answers -/

def lookup (h : Host φ) (path : String) : Reply × Host φ :=
  match S.status h.system (h.resolve path) with
  | none => (.refused, h)
  | some _ => h.answerHandle (h.resolve path)

/-- Fill a buffer of `room` bytes from an open file, as far as the file goes. -/
def fill (system : φ) (file : S.File) (room : Nat) : Option Bytes :=
  if room = 0 then some []
  else
    match S.read system file room with
    | none => none
    | some ([], _) => some []
    | some (b :: rest, file) =>
      let data := (b :: rest).take room
      (fill system file (room - data.length)).map (data ++ ·)
termination_by room
decreasing_by simp only [List.length_take, List.length_cons]; omega

/-- What a file holds from `offset` on. A directory holds nothing that can be read. -/
def contentAt? (h : Host φ) (path : String) (count offset : Nat) : Option Bytes :=
  if (S.status h.system path).any (·.directory) then none
  else
    (S.openRead h.system path).bind fun file =>
      (S.seek h.system file offset).bind fun file => fill S h.system file count

def readFile (h : Host φ) (fd : Fd) (count offset : Nat) : Reply :=
  match (h.path? fd).bind fun path => h.contentAt? S path count offset with
  | some data => ⟨Int64.ofNat data.length, .bytes data⟩
  | none => .refused

/-- Write into a file from `offset` on. What was written before a failure stays. -/
def writeFile (h : Host φ) (fd : Fd) (data : Bytes) (offset : Nat) : Reply × Host φ :=
  let file? := (h.path? fd).bind fun path =>
    (S.openWrite h.system path).bind fun file => S.seek h.system file offset
  match file? with
  | none => (.refused, h)
  | some file =>
    let (done, system) := S.writeAll h.system file data
    (if done then .granted .nothing else .refused, { h with system := system })

/-- Set the length of the file at a path. -/
def resize (h : Host φ) (path : String) (length : Nat) : Reply × Host φ :=
  match (S.openWrite h.system path).bind fun file => S.setLength h.system file length with
  | some system => (.granted .nothing, { h with system := system })
  | none => (.refused, h)

/-- Size and kind of what a path leads to; the size of a directory is the number of its entries. -/
def stat? (h : Host φ) (path : String) : Option Stat :=
  match S.status h.system path with
  | none => none
  | some stat =>
    if stat.directory then (S.list h.system path).map fun names => { size := names.length, directory := true }
    else some stat

def entryAt (h : Host φ) (fd : Fd) (offset : Nat) : Reply × Host φ :=
  match h.path? fd with
  | none => (.refused, h)
  | some dir =>
    match (S.list h.system dir).bind fun names => (sortedNames names)[offset]? with
    | none => (.refused, h)
    | some name =>
      match h.handOut (join dir name) with
      | (some id, h) => (.granted (.entry (DirEntry.ofName name id)), h)
      | (none, h) => (.refused, h)

/-- Create a file or directory. The root has no name, and a name may take `fileNameWidth` bytes. -/
def create (h : Host φ) (path : String) (directory : Bool) : Reply × Host φ :=
  let path := h.resolve path
  let size := Text.size (lastName path)
  if size = 0 || fileNameWidth < size then (.refused, h)
  else
    match (if directory then S.createDir else S.createFile) h.system path with
    | none => (.refused, h)
    | some system => { h with system := system }.answerHandle path

def unlink (h : Host φ) (path : String) : Reply × Host φ :=
  let path := h.resolve path
  match S.status h.system path with
  | none => (.refused, h)
  | some stat =>
    match (if stat.directory then S.removeDir else S.removeFile) h.system path with
    | none => (.refused, h)
    | some system => (.granted .nothing, { h with system := system, descriptors := h.descriptors.retire path })

def changeDir (h : Host φ) (path : String) : Reply × Host φ :=
  match S.status h.system (h.resolve path) with
  | some { directory := true, .. } => (.granted .nothing, { h with cwd := h.resolve path })
  | _ => (.refused, h)

/-- Start a child. What it reads is what the kernel's buffer has not taken yet. -/
def spawn (m : Machine (Host φ)) (path : String) (argv : List String) : Reply × Machine (Host φ) :=
  let h := m.state
  let stdin := m.terminal.stdin
  match S.spawn h.system (h.resolve path) argv.tail h.cwd stdin.passed stdin.behind with
  | none => (.refused, m)
  | some (child, system) =>
    (⟨Int64.ofNat h.nextPid, .nothing⟩,
      { m with
        terminal := { m.terminal with stdin := { stdin with behind := child.unread } }
        state := { h with
          system := system
          nextPid := h.nextPid + 1
          children := h.children ++ [(h.nextPid, child)] } })

/-- Wait for a child. What it printed is on the console now. -/
def reap (m : Machine (Host φ)) (pid : Pid) : Reply × Machine (Host φ) :=
  match m.state.children.find? (fun entry => (entry.1 : Int) == pid.raw.toInt) with
  | none => (.refused, m)
  | some (id, child) =>
    let m := { m with state := { m.state with children := m.state.children.filter (·.1 != id) } }
    (.granted (.status child.ending.code), m.emit child.printed)

/-- The answer to a request; the process ends when it asks to. -/
def serve (r : Request) (m : Machine (Host φ)) : Option (Reply × Machine (Host φ)) :=
  let h := m.state
  /- An answer that changes the kernel alone. -/
  let changed (result : Reply × Host φ) : Option (Reply × Machine (Host φ)) :=
    some (result.1, { m with state := result.2 })
  match r with
  | .read fd count offset =>
    if fd = .stdin then
      let (data, stdin) := m.terminal.stdin.read count.toNat
      some (⟨Int64.ofNat data.length, .bytes data⟩, { m with terminal := { m.terminal with stdin := stdin } })
    else some (h.readFile S fd count.toNat offset.toNat, m)
  | .write fd data offset =>
    if fd = .stdout || fd = .stderr then some (.granted .nothing, m.emit data)
    else changed (h.writeFile S fd data offset.toNat)
  | .openFile path => changed (h.lookup S path)
  | .fstat fd =>
    match (h.path? fd).bind (h.stat? S) with
    | some stat => some (.granted (.stat stat), m)
    | none => some (.refused, m)
  | .waitpid pid => some (reap m pid)
  | .exec path argv => some (spawn S m path argv)
  | .exit _ => none
  | .truncate path length => changed (h.resize S (h.resolve path) length.toNat)
  | .ftruncate fd length => changed ((h.path? fd).elim (.refused, h) fun path => h.resize S path length.toNat)
  | .currentDir => some (.granted (.text h.cwd), m)
  | .chdir path => changed (h.changeDir S path)
  | .creat path directory => changed (h.create S path directory)
  | .removeFile path => changed (h.unlink S path)
  | .readDir fd offset => changed (h.entryAt S fd offset.toNat)

/-- The kernel on top of the system `S`. -/
def kernel : Kernel (Host φ) :=
  ⟨serve S, fun m => m.terminal.stdin.unread.length⟩

/-- A kernel that starts in `dir`. -/
def start (system : φ) (dir : String) : Except PathFault (Host φ) :=
  (S.realPath system dir).map fun cwd => { cwd := cwd, system := system }

end Host

end LineShell
