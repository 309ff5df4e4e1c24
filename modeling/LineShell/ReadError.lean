import LineShell.Prog

/-!
# Why a line could not be read
-/

namespace LineShell

/-- Why there is no line. -/
inductive ReadError
  /-- The heap has no room for the line. -/
  | alloc
  /-- The console refused to be read, or the prompt could not be written. -/
  | io (cause : SysError)
  /-- The line is not UTF-8. -/
  | encoding
  /-- Nothing is left. -/
  | endOfInput
  /-- The line editor failed. -/
  | editor (message : String)
deriving DecidableEq, Repr

def ReadError.message : ReadError → String
  | .alloc => "out of memory while reading the command"
  | .io _ => "console read failed"
  | .encoding => "command is not valid UTF-8"
  | .endOfInput => "end of input"
  | .editor message => "line editor failed: " ++ message

end LineShell
