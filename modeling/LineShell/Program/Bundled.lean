import LineShell.Program

/-!
# The bundled programs

`repeat`, `ls`, `cat`, `echo`, `touch`, `mkdir`, `rm`, `rmdir` and `edit`. `Program.bundled` lists them with the names
they are installed under.
-/

namespace LineShell.Program

/-! ## Output -/

/-- How often `repeat` prints its text. -/
def repeatCount : Nat := 50

/-- Print `text` a number of times, then end the line. -/
def printTimes (text : String) : Nat → Prog Outcome
  | 0 => Prog.report ["\n"] .success
  | n + 1 => (Prog.printText text).orFail fun () => printTimes text n

def repeatText : Program := fun _ argv =>
  match argv[1]? with
  | none => refuse "repeat: missing parameter to print"
  | some text => printTimes text repeatCount

def echo : Program := fun _ argv =>
  Prog.report [String.intercalate " " argv.tail, "\n"] .success

/-! ## Looking -/

/-- One line of a listing: the name, and a slash behind a directory. -/
def listed (entry : DirEntry) (stat : Stat) : String :=
  entry.name ++ (if stat.directory then "/" else "") ++ "\n"

/-- The failure of a listing that broke off. -/
def brokenOff (e : SysError) : Failure :=
  .context "ls: failed to read directory" (.system e)

/-- List `count` entries of a directory, from the entry `offset` on, and print them behind `listing`. -/
def listFrom (dir : Fd) (offset : Nat) (listing : String) : Nat → Prog Outcome
  | 0 => (Prog.printText listing).orFail fun () => return .ok .success
  | count + 1 => do
    match ← Prog.readDir dir (UInt64.ofNat offset) with
    | .error e => return .error (brokenOff e)
    | .ok entry =>
      match ← Prog.fstat entry.id with
      | .error e => return .error (brokenOff e)
      | .ok stat => listFrom dir (offset + 1) (listing ++ listed entry stat) count

def ls : Program := fun _ argv => do
  let dir := (argv[1]?).getD "."
  match ← Prog.openFile dir with
  | .error _ => refuse ("ls: " ++ dir ++ ": directory does not exist")
  | .ok fd =>
    (Prog.fstat fd).orFail fun stat =>
      if stat.directory then listFrom fd 0 "" stat.size
      else refuse ("ls: " ++ dir ++ ": not a directory")

/-- Bytes that end in a newline, whether they did before or not. -/
def endingLine (data : Bytes) : Bytes :=
  if data.getLast? = some newline then data else data ++ [newline]

/-- What a buffer of `room` NUL bytes holds after a read, cut to the count that was answered. -/
def received (room : Nat) (answer : Nat × Bytes) : Bytes :=
  Reader.overwritten room [] answer.2 answer.1

def cat : Program := fun _ argv =>
  match argv[1]? with
  | none => refuse "cat: missing file operand\nUsage: cat <file>"
  | some path => do
    match ← Prog.openFile path with
    | .error _ => refuse ("cat: " ++ path ++ ": file does not exist")
    | .ok fd =>
      (Prog.fstat fd).orFail fun stat =>
        if stat.directory then refuse ("cat: " ++ path ++ ": is a directory")
        else
          (Prog.read fd (UInt64.ofNat stat.size) 0).orFail fun answer =>
            (Prog.write .stdout (endingLine (received stat.size answer)) 0).orFail fun () =>
              return .ok .success

/-! ## Creating and removing -/

def touch : Program := fun _ argv =>
  match argv[1]? with
  | none => refuse "touch: missing file operand\nUsage: touch <file>"
  | some path => do
    match ← Prog.openFile path with
    | .ok _ => return .ok .success
    | .error _ =>
      match ← Prog.creat path false with
      | .ok _ => return .ok .success
      | .error _ => refuse ("touch: cannot create " ++ path)

def mkdir : Program := fun _ argv =>
  match argv[1]? with
  | none => refuse "mkdir: missing operand\nUsage: mkdir <dir>"
  | some path => do
    match ← Prog.creat path true with
    | .ok _ => return .ok .success
    | .error _ => refuse ("mkdir: cannot create directory " ++ path)

def rm : Program := fun _ argv =>
  match argv[1]? with
  | none => refuse "rm: missing file operand\nUsage: rm <file>"
  | some path => do
    match ← Prog.openFile path with
    | .error _ => refuse ("rm: " ++ path ++ ": no such file")
    | .ok fd =>
      (Prog.fstat fd).orFail fun stat =>
        if stat.directory then refuse ("rm: " ++ path ++ ": is a directory, use rmdir")
        else do
          match ← Prog.removeFile path with
          | .ok () => return .ok .success
          | .error e => return .error (.context ("rm: cannot remove " ++ path) (.system e))

def rmdir : Program := fun _ argv =>
  match argv[1]? with
  | none => refuse "rmdir: missing operand\nUsage: rmdir <dir>"
  | some path => do
    match ← Prog.openFile path with
    | .error _ => refuse ("rmdir: " ++ path ++ ": no such directory")
    | .ok fd =>
      (Prog.fstat fd).orFail fun stat =>
        if stat.directory then do
          match ← Prog.removeFile path with
          | .ok () => return .ok .success
          | .error _ => refuse ("rmdir: " ++ path ++ ": directory not empty")
        else refuse ("rmdir: " ++ path ++ ": not a directory, use rm")

/-! ## Editing -/

/-- Lines typed on the console, each ended by a newline, up to an empty line or the end of the input. Every line
takes at least one read that delivers something. -/
def typedLines (supply : Nat) (reader : Reader) (content : String) : Nat → Prog (Except ReadError String)
  | 0 => .stuck
  | rounds + 1 => do
    match ← reader.readLine supply "" with
    | (.error .endOfInput, _) => return .ok content
    | (.error e, _) => return .error e
    | (.ok line, reader) => do
      line.drop
      if line.text = "" then return .ok content
      else typedLines supply reader (content ++ line.text ++ "\n") rounds

/-- Replace what a file holds with typed lines. The console is read one byte at a time, so that what follows the
empty line is left for others. -/
def edit : Program := fun supply argv =>
  match argv[1]? with
  | none => refuse "edit: missing file operand\nUsage: edit <file>"
  | some path => do
    match ← Prog.openFile path with
    | .error _ => refuse ("edit: " ++ path ++ ": file does not exist")
    | .ok fd =>
      (Prog.fstat fd).orFail fun stat =>
        if stat.directory then refuse ("edit: " ++ path ++ ": is a directory")
        else do
          match ← typedLines supply (Reader.ofChunk 1) "" (supply + 1) with
          | .error e => return .error (.other ("edit: failed to read input (" ++ e.message ++ ")"))
          | .ok content =>
            (Prog.ftruncate fd 0).orFail fun () =>
              (Prog.write fd (Text.bytes content) 0).orFail fun () =>
                return .ok .success

/-! ## The table -/

/-- Every bundled program, by the name it is installed under. -/
def bundled : List (String × Program) :=
  [("repeat", repeatText), ("ls", ls), ("cat", cat), ("echo", echo), ("touch", touch), ("mkdir", mkdir), ("rm", rm),
    ("rmdir", rmdir), ("edit", edit)]

end LineShell.Program
