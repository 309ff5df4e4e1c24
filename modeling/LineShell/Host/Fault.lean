import LineShell.Host.System

/-!
# Why a system refuses

`Fault` lists the reasons for which an operating system refuses an operation, and `Fault.text` says them the way
programs report them.
-/

namespace LineShell.Host

/-- A reason for a refusal. -/
inductive Fault
  | missing
  | notDirectory
  | isDirectory
  | present
  | notEmpty
  | loop
  | tooLong
  /-- The mode does not allow it. -/
  | denied
  /-- Nobody may do it. -/
  | forbidden
  | invalid
  | tooLarge
  | noSpace
  | badDescriptor
  | noDevice
  | noSeek
  | unformatted
deriving DecidableEq, Repr

namespace Fault

def text : Fault → String
  | missing => "No such file or directory"
  | notDirectory => "Not a directory"
  | isDirectory => "Is a directory"
  | present => "File exists"
  | notEmpty => "Directory not empty"
  | loop => "Too many levels of symbolic links"
  | tooLong => "File name too long"
  | denied => "Permission denied"
  | forbidden => "Operation not permitted"
  | invalid => "Invalid argument"
  | tooLarge => "File too large"
  | noSpace => "No space left on device"
  | badDescriptor => "Bad file descriptor"
  | noDevice => "No such device or address"
  | noSeek => "Illegal seek"
  | unformatted => "Exec format error"

/-- What a system says of a path that leads nowhere. -/
def ofPath : PathFault → Fault
  | .missing => missing
  | .notDirectory => notDirectory
  | .loop => loop
  | .unusable => missing
  | .tooLong => tooLong

end Fault

end LineShell.Host
