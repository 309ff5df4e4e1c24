import LineShell.Text
import LineShell.Descriptor

/-!
# What an operating system answers

`HostSystem φ` lists what the host kernel asks of the system below it, whose state is a `φ`; `none` is a refusal, and
says nothing about why. Paths are absolute. An open file has a position, where it is read and written;
`HostSystem.writeAll` writes in as many pieces as the system takes.
-/

namespace LineShell.Host

/-- How a child process ended. -/
inductive Ending
  | exited (code : ExitCode)
  | killed (signal : Nat)
deriving DecidableEq, Repr

/-- The exit code that stands for an ending: a process killed by a signal counts from 128. -/
def Ending.code : Ending → ExitCode
  | exited code => code
  | killed signal => Int32.ofNat (128 + signal)

/-- What a child process did: how it ended, what it printed, and how much of standard input it left. -/
structure Child where
  ending : Ending
  printed : Bytes
  unread : Bytes
deriving DecidableEq, Repr

/-- Why a path leads nowhere. -/
inductive PathFault
  | missing
  /-- It goes on below a file that is no directory. -/
  | notDirectory
  /-- It goes through too many links. -/
  | loop
  /-- It holds a NUL. -/
  | unusable
  /-- One of the names in it is longer than the system admits. -/
  | tooLong
deriving DecidableEq, Repr

/-- The operations of a system with states `φ`. -/
structure HostSystem (φ : Type) where
  /-- An open file, at a position in it. -/
  File : Type
  /-- Whether there is a file at a path, what kind it is and its size; links are followed. -/
  status : φ → String → Option Stat
  /-- The path that leads to the same file without links and detours. -/
  realPath : φ → String → Except PathFault String
  /-- The names in a directory, in any order. -/
  list : φ → String → Option (List Bytes)
  /-- Open a file at its start, to read it. -/
  openRead : φ → String → Option File
  /-- Open a file that is there at its start, to write into it. -/
  openWrite : φ → String → Option File
  /-- Put an open file at the position `offset`. -/
  seek : φ → File → (offset : Nat) → Option File
  /-- Up to `count` of the bytes that follow, none only at the end, and the file behind them. -/
  read : φ → File → (count : Nat) → Option (Bytes × File)
  /-- Write the first of some bytes: how many were taken, and the file behind them. A write that fails may still have
  changed the system. -/
  write : φ → File → Bytes → Option (Nat × File) × φ
  /-- Set the length of an open file. -/
  setLength : φ → File → (length : Nat) → Option φ
  /-- Create a file where there is none. -/
  createFile : φ → String → Option φ
  createDir : φ → String → Option φ
  removeFile : φ → String → Option φ
  /-- Remove an empty directory. -/
  removeDir : φ → String → Option φ
  /-- Start a program in a directory with arguments. Its input is the end of a file, `passed` bytes from the start. -/
  spawn : φ → (program : String) → (args : List String) → (dir : String) → (passed : Nat) →
    (input : Bytes) → Option (Child × φ)

/-- Write all of some bytes, and say whether that was done: what one write leaves is written next, and a write that takes
nothing is a failure. Nothing at all is asked for no bytes. -/
def HostSystem.writeAll {φ : Type} (S : HostSystem φ) (system : φ) (file : S.File) (data : Bytes) : Bool × φ :=
  match data with
  | [] => (true, system)
  | b :: rest =>
    match S.write system file (b :: rest) with
    | (some (n + 1, file), system) => S.writeAll system file (rest.drop n)
    | (_, system) => (false, system)
termination_by data.length
decreasing_by simp only [List.length_drop, List.length_cons]; omega

end LineShell.Host
