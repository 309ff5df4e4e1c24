import LineShell.CommandLine
import LineShell.Userland.Installation

/-!
# The shell as a program

Reads standard input to its end, runs the session on it, and prints what the session printed. The host it runs on is
a fresh system in memory.
-/

open LineShell

/-- All that is left of a stream. -/
partial def readAll (stream : IO.FS.Stream) (before : ByteArray) : IO ByteArray := do
  let block ← stream.read 65536
  if block.isEmpty then return before else readAll stream (before ++ block)

/-- Write bytes on a stream. -/
def writeAll (stream : IO.FS.Stream) (data : Bytes) : IO Unit := do
  stream.write ⟨data.toArray⟩
  stream.flush

/-- Run a session with these arguments. -/
def main (arguments : List String) : IO UInt32 := do
  let input ← readAll (← IO.getStdin) .empty
  match Host.start Host.Disk.inhabited Host.Disk.fresh Host.Disk.workDir with
  | .error _ => return 1
  | .ok host =>
    match CommandLine.run Host.Disk.inhabited host arguments input.data.toList with
    | none => return 1
    | some ended => do
      writeAll (← IO.getStdout) ended.stdout
      writeAll (← IO.getStderr) ended.stderr
      return ended.code.toUInt32
