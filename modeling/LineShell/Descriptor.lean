/-!
# Descriptors, process identifiers and exit codes

A descriptor is a 32-bit word. `0`, `1` and `2` are the console streams; the file with number `i` has the
descriptor `i + 3`, so the file behind a descriptor can be read off it (`Fd.fileId?`, `Fd.ofFileId?`).
-/

namespace LineShell

/-- How a program ended: `0` is success. -/
abbrev ExitCode := Int32

namespace ExitCode

def success : ExitCode := 0
def failure : ExitCode := 1

/-- No command has the name that was typed. -/
def notFound : ExitCode := 127

end ExitCode

/-- A descriptor: a console stream or a file handle. -/
structure Fd where
  raw : Int32
deriving DecidableEq, Repr

namespace Fd

def stdin : Fd := ⟨0⟩
def stdout : Fd := ⟨1⟩
def stderr : Fd := ⟨2⟩

/-- The number of descriptors set aside for the console. -/
def reserved : Nat := 3

/-- Descriptors are below this. -/
def limit : Nat := 0x80000000

/-- The handle of the file with number `id`, if a descriptor can hold it. -/
def ofFileId? (id : Nat) : Option Fd :=
  if id + reserved < limit then some ⟨Int32.ofNat (id + reserved)⟩ else none

/-- The number of the file behind a handle; console streams and negative descriptors have none. -/
def fileId? (fd : Fd) : Option Nat :=
  if (reserved : Int) ≤ fd.raw.toInt then some (fd.raw.toInt.toNat - reserved) else none

end Fd

/-- The identifier of a process. -/
structure Pid where
  raw : Int64
deriving DecidableEq, Repr

/-- Identifiers that are handed out are below this. -/
def Pid.limit : Nat := 0x8000000000000000

/-- What is known of a file: its size in bytes, or the number of entries of a directory. -/
structure Stat where
  size : Nat := 0
  directory : Bool := false
deriving DecidableEq, Repr

end LineShell
