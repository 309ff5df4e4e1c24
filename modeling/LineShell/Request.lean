import LineShell.DirEntry

/-!
# Requests to the kernel

A `Request` is one system call with its scalar arguments; a `Reply` is the answer word together with what the
kernel wrote into the caller's memory. A negative word means failure, and nothing can be told from which one
(`Reply.failed`, `SysError`).

- `Operation` numbers the operations (`Operation.number`) and names them (`Operation.name`);
- `Request.words` lays a request out in six words, texts and buffers as an address followed by a length.
-/

namespace LineShell

/-! ## Operations -/

/-- The operations of the system. -/
inductive Operation
  | read | write | openFile | fstat | waitpid | malloc | calloc | free | realloc | exec | exit | truncate | ftruncate
  | currentDir | chdir | creat | removeFile | readDir
deriving DecidableEq, Repr

namespace Operation

def number : Operation → Nat
  | read => 0x0
  | write => 0x1
  | openFile => 0x2
  | fstat => 0x5
  | waitpid => 0x7
  | malloc => 0x9
  | calloc => 0xa
  | free => 0xb
  | realloc => 0xc
  | exec => 0x3b
  | exit => 0x3c
  | truncate => 0x4c
  | ftruncate => 0x4d
  | currentDir => 0x4f
  | chdir => 0x50
  | creat => 0x55
  | removeFile => 0x57
  | readDir => 0x59

def name : Operation → String
  | read => "read"
  | write => "write"
  | openFile => "open"
  | fstat => "fstat"
  | waitpid => "waitpid"
  | malloc => "malloc"
  | calloc => "calloc"
  | free => "free"
  | realloc => "realloc"
  | exec => "exec"
  | exit => "exit"
  | truncate => "truncate"
  | ftruncate => "ftruncate"
  | currentDir => "get_current_dir_name"
  | chdir => "chdir"
  | creat => "creat"
  | removeFile => "remove_file"
  | readDir => "readdir"

/-- Every operation, once. -/
def all : List Operation :=
  [read, write, openFile, fstat, waitpid, malloc, calloc, free, realloc, exec, exit, truncate, ftruncate, currentDir,
    chdir, creat, removeFile, readDir]

/-- The operation with a number. -/
def ofNumber? (n : Nat) : Option Operation :=
  all.find? (·.number == n)

end Operation

/-- The name of an operation number, also of one that no operation has. -/
def operationName (number : Nat) : String :=
  match Operation.ofNumber? number with
  | some operation => operation.name
  | none => "unknown"

/-- An operation was answered with failure. -/
structure SysError where
  number : Nat
deriving DecidableEq, Repr

/-- The name of the operation that failed. -/
def SysError.name (e : SysError) : String :=
  operationName e.number

/-- What is said of it, in the pieces that it is said in. -/
def SysError.parts (e : SysError) : List String :=
  [e.name, " failed"]

def SysError.message (e : SysError) : String :=
  String.join e.parts

/-- The failure of an operation. -/
def Operation.failed (operation : Operation) : SysError :=
  ⟨operation.number⟩

/-! ## Requests and replies -/

/-- One request. A read states how much room its buffer has; a process is started with all of its words. -/
inductive Request
  | read (fd : Fd) (count offset : UInt64)
  | write (fd : Fd) (data : Bytes) (offset : UInt64)
  | openFile (path : String)
  | fstat (fd : Fd)
  | waitpid (pid : Pid)
  | exec (path : String) (argv : List String)
  | exit (status : ExitCode)
  | truncate (path : String) (length : UInt64)
  | ftruncate (fd : Fd) (length : UInt64)
  | currentDir
  | chdir (path : String)
  | creat (path : String) (directory : Bool)
  | removeFile (path : String)
  | readDir (fd : Fd) (offset : UInt64)
deriving DecidableEq, Repr

/-- What a kernel wrote into the caller's memory while it answered. -/
inductive Fill
  | nothing
  /-- The first bytes of the buffer. -/
  | bytes (data : Bytes)
  | stat (stat : Stat)
  | status (code : ExitCode)
  | entry (entry : DirEntry)
  | text (text : String)
deriving DecidableEq, Repr

/-- The answer to a request. -/
structure Reply where
  word : Int64
  fill : Fill := .nothing
deriving DecidableEq, Repr

namespace Reply

/-- Any negative word is a failure. -/
def failed (reply : Reply) : Bool :=
  reply.word < 0

/-- The answer of a refused request: the word `-1`, and nothing written. -/
def refused : Reply :=
  ⟨-1, .nothing⟩

/-- A granted request that answers no number. -/
def granted (fill : Fill) : Reply :=
  ⟨0, fill⟩

end Reply

namespace Request

def operation : Request → Operation
  | read .. => .read
  | write .. => .write
  | openFile .. => .openFile
  | fstat .. => .fstat
  | waitpid .. => .waitpid
  | exec .. => .exec
  | exit .. => .exit
  | truncate .. => .truncate
  | ftruncate .. => .ftruncate
  | currentDir => .currentDir
  | chdir .. => .chdir
  | creat .. => .creat
  | removeFile .. => .removeFile
  | readDir .. => .readDir

/-- The number a request travels under. -/
def number (request : Request) : Nat :=
  request.operation.number

end Request

/-! ## The words of a request -/

/-- One word of a request: an address in the caller's memory, or a number. -/
inductive Word
  | address
  | value (word : UInt64)
deriving DecidableEq, Repr

namespace Word

/-- A 32-bit word in a 64-bit register keeps its sign. -/
def ofInt32 (n : Int32) : Word :=
  .value n.toInt64.toUInt64

def ofNat (n : Nat) : Word :=
  .value (UInt64.ofNat n)

end Word

namespace Request

/-- The arguments in use, in register order. -/
def arguments : Request → List Word
  | read fd count offset => [.ofInt32 fd.raw, .address, .value count, .value offset]
  | write fd data offset => [.ofInt32 fd.raw, .address, .ofNat data.length, .value offset]
  | openFile path | chdir path | removeFile path => [.address, .ofNat (Text.size path)]
  | fstat fd => [.ofInt32 fd.raw, .address]
  | waitpid pid => [.value pid.raw.toUInt64, .address]
  | exec path argv => [.address, .ofNat (Text.size path), .address, .ofNat argv.length]
  | exit status => [.ofInt32 status]
  | truncate path length => [.address, .ofNat (Text.size path), .value length]
  | ftruncate fd length => [.ofInt32 fd.raw, .value length]
  | currentDir => [.address]
  | creat path directory => [.address, .ofNat (Text.size path), .value (if directory then 1 else 0)]
  | readDir fd offset => [.ofInt32 fd.raw, .value offset, .address]

/-- The six words of a request; registers not in use hold zero. -/
def words (request : Request) : List Word :=
  (request.arguments ++ List.replicate 6 (Word.value 0)).take 6

end Request

end LineShell
