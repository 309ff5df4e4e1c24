import LineShell.Builtin

/-!
# Builtins that probe a table

A probe takes any arguments. It tells how it was called (`Builtin.announcing`) or gives up (`Builtin.failing`), so that
one can see which entry of a table was found and what it was given.
-/

namespace LineShell.Builtin

/-- A call as a text: the name, and the arguments between parentheses. -/
def callText (name : String) (args : List String) : String :=
  name ++ "(" ++ String.intercalate "," args ++ ")"

/-- The builtin `name` that prints how it was called and ends with `code`. -/
def announcing (name : String) (code : ExitCode) : CommandFactory := fun word args =>
  if word = name then some (Prog.report [callText name args ++ "\n"] code) else none

/-- The builtin `name` that prints nothing and fails. -/
def failing (name message : String) : CommandFactory := fun word _ =>
  if word = name then some (return .error (.other message)) else none

end LineShell.Builtin
