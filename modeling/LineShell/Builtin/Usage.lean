import LineShell.Arguments
import LineShell.Builtin

/-!
# The arguments of the standard builtins

`Usage.builtins` understands the arguments of `cd` and `pwd` by what each of them takes. A session that is run from a
command line uses it.
-/

namespace LineShell.Usage

/-- What help says of the option that asks for it, at the end of every usage. -/
def helpOption : String :=
  "Options:\n  --help, help      display usage information\n"

def cd : Usage where
  options := []
  operands := true
  help := "Usage: cd [operands...]\n\nChange the current working directory.\n\n" ++ helpOption

def pwd : Usage where
  options := []
  operands := false
  help := "Usage: pwd\n\nPrint the current working directory.\n\n" ++ helpOption

/-- What is shown where a command does not start. -/
def instead : NoStart → EarlyExit
  | .helpRequested text => ⟨text, false⟩
  | .invalid e => ⟨e.message, true⟩

/-- The operands that are given, or what is shown instead. -/
def operandsOf (u : Usage) (words : List String) : Except EarlyExit (List String) :=
  match u.read words with
  | .error e => .error (instead e)
  | .ok given => .ok given.operands

/-- The arguments of the standard builtins, by what each of them takes. -/
def builtins : ArgumentReader where
  cd := cd.operandsOf
  pwd words := (pwd.operandsOf words).map fun _ => ()

end LineShell.Usage
