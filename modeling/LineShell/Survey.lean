import LineShell.Program.Bundled

/-!
# Walking a directory tree through the system

`Survey.walk` opens a path and reads everything below it with the requests that any program could make.
-/

namespace LineShell

/-- One file met on a walk. -/
inductive Sight
  | dir (path : String) (entries : Nat)
  | file (path : String) (content : Bytes)
  /-- A file that could not be read. -/
  | unreadable (path : String)
deriving DecidableEq, Repr

namespace Survey

/-- The content of a file of a known size. -/
def contentOf (fd : Fd) (size : Nat) : Prog (Except SysError Bytes) := do
  match ← Prog.read fd (UInt64.ofNat size) 0 with
  | .error e => return .error e
  | .ok answer => return .ok (Program.received size answer)

mutual

/-- Look at the file behind a descriptor, and at all below it, directories nested at most `depth` deep. -/
def look (depth : Nat) (path : String) (fd : Fd) : Prog (List Sight) :=
  match depth with
  | 0 => .stuck
  | depth + 1 => do
    match ← Prog.fstat fd with
    | .error _ => return [.unreadable path]
    | .ok stat =>
      if stat.directory then return .dir path stat.size :: (← lookFrom depth path fd 0 stat.size)
      else
        match ← contentOf fd stat.size with
        | .error _ => return [.unreadable path]
        | .ok content => return [.file path content]
termination_by (depth, 0)

/-- Look at `count` entries of a directory from the entry `offset` on; entries that cannot be read are passed over. -/
def lookFrom (depth : Nat) (path : String) (fd : Fd) (offset count : Nat) : Prog (List Sight) :=
  match count with
  | 0 => return []
  | count + 1 => do
    match ← Prog.readDir fd (UInt64.ofNat offset) with
    | .error _ => lookFrom depth path fd (offset + 1) count
    | .ok entry => do
      let seen ← look depth (path ++ "/" ++ entry.name) entry.id
      return seen ++ (← lookFrom depth path fd (offset + 1) count)
termination_by (depth, count + 1)

end

/-- The deepest nesting that a walk goes along with. -/
def depthLimit : Nat := 100000

/-- Look at the file at a path, and at all below it. A path that does not open is no start. -/
def walk (path : String) : Prog (Except SysError (List Sight)) := do
  match ← Prog.openFile path with
  | .error e => return .error e
  | .ok fd => return .ok (← look depthLimit path fd)

end Survey

end LineShell
