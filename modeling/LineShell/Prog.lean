import LineShell.Heap
import LineShell.Request

/-!
# User programs

A user program is a tree: it ends with a value, or asks the kernel or the heap for something and goes on with the
answer. `Prog.stuck` is the program that never ends; a loop over an input without end is cut off by it.

- `Prog` is a monad, and the operations of the system are programs (`Prog.openFile`, `Prog.read`, …) that turn the
  answer word back into a value or a `SysError`;
- `Prog.printText` writes on the console and `Prog.printParts` does so piece by piece, `Prog.allocate` and `Prog.free`
  hold a block of the heap.
-/

namespace LineShell

/-- A user program that ends with an `α`. -/
inductive Prog (α : Type) where
  | done (value : α)
  /-- Never ends. -/
  | stuck
  /-- Ask the kernel. -/
  | request (request : Request) (next : Reply → Prog α)
  /-- Ask the heap; the answer says whether the request was granted. -/
  | memory (request : HeapRequest) (next : Bool → Prog α)

namespace Prog

variable {α β : Type}

/-- Run `p`, then `f` on what it ended with. -/
def bind (p : Prog α) (f : α → Prog β) : Prog β :=
  match p with
  | done value => f value
  | stuck => stuck
  | request r next => request r fun reply => (next reply).bind f
  | memory r next => memory r fun granted => (next granted).bind f

instance : Monad Prog where
  pure := done
  bind := bind

/-! ## Requests with their answers understood -/

/-- Ask the kernel, and understand a granted answer with `f`. -/
def ask (r : Request) (f : Reply → Except SysError α) : Prog (Except SysError α) :=
  request r fun reply => done (if reply.failed then .error r.operation.failed else f reply)

/-- Ask the kernel for something that is either done or not. -/
def act (r : Request) : Prog (Except SysError Unit) :=
  ask r fun _ => .ok ()

/-- A descriptor in an answer word; a word too large for one is a failure of the request. -/
def descriptor (operation : Operation) (reply : Reply) : Except SysError Fd :=
  if reply.word.toInt < Fd.limit then .ok ⟨reply.word.toInt32⟩ else .error operation.failed

/-- Read up to `count` bytes from `offset`. The answer is the word of the kernel, and the bytes it wrote. -/
def read (fd : Fd) (count offset : UInt64) : Prog (Except SysError (Nat × Bytes)) :=
  ask (.read fd count offset) fun reply =>
    .ok (reply.word.toInt.toNat, match reply.fill with | .bytes data => data | _ => [])

def write (fd : Fd) (data : Bytes) (offset : UInt64) : Prog (Except SysError Unit) :=
  act (.write fd data offset)

def openFile (path : String) : Prog (Except SysError Fd) :=
  ask (.openFile path) (descriptor .openFile)

def fstat (fd : Fd) : Prog (Except SysError Stat) :=
  ask (.fstat fd) fun reply => .ok (match reply.fill with | .stat stat => stat | _ => {})

def readDir (fd : Fd) (offset : UInt64) : Prog (Except SysError DirEntry) :=
  ask (.readDir fd offset) fun reply => .ok (match reply.fill with | .entry entry => entry | _ => .blank)

def creat (path : String) (directory : Bool) : Prog (Except SysError Fd) :=
  ask (.creat path directory) (descriptor .creat)

def removeFile (path : String) : Prog (Except SysError Unit) :=
  act (.removeFile path)

def truncate (path : String) (length : UInt64) : Prog (Except SysError Unit) :=
  act (.truncate path length)

def ftruncate (fd : Fd) (length : UInt64) : Prog (Except SysError Unit) :=
  act (.ftruncate fd length)

/-- Start the program at `path`. The identifier is to be waited for once. -/
def exec (path : String) (argv : List String) : Prog (Except SysError Pid) :=
  ask (.exec path argv) fun reply => .ok ⟨reply.word⟩

/-- Wait until a process ends. -/
def waitpid (pid : Pid) : Prog (Except SysError ExitCode) :=
  ask (.waitpid pid) fun reply => .ok (match reply.fill with | .status code => code | _ => 0)

def chdir (path : String) : Prog (Except SysError Unit) :=
  act (.chdir path)

def currentDir : Prog (Except SysError String) :=
  ask .currentDir fun reply => .ok (match reply.fill with | .text text => text | _ => "")

/-- Ask to end the process. A kernel that answers has failed to. -/
def exit (status : ExitCode) : Prog Unit :=
  request (.exit status) fun _ => done ()

/-! ## The console -/

/-- Write bytes on the console; nothing is asked for no bytes. -/
def print (data : Bytes) : Prog (Except SysError Unit) :=
  if data.isEmpty then done (.ok ()) else write .stdout data 0

def printText (text : String) : Prog (Except SysError Unit) :=
  print (Text.bytes text)

/-- Write a text that comes in pieces. Each is written on its own, and the first that is refused is the last. -/
def printParts : List String → Prog (Except SysError Unit)
  | [] => return .ok ()
  | part :: rest => do
    match ← printText part with
    | .error e => return .error e
    | .ok () => printParts rest

/-! ## The heap -/

/-- Ask for a block. -/
def allocate (r : HeapRequest) : Prog (Except AllocError Unit) :=
  memory r fun granted => done (if granted then .ok () else .error .outOfMemory)

/-- Give a block of `size` bytes back. -/
def free (size : Nat) : Prog Unit :=
  memory (.free size) fun _ => done ()

end Prog

end LineShell
