import LineShell.Failure
import LineShell.Text.Blank

/-!
# Builtin commands

A table of builtins is asked entry by entry for the command that a name and its arguments stand for
(`Builtins.dispatch`). How the arguments of the standard builtins are understood is left to an `ArgumentReader`: it finds
what a command takes, or a text that is shown in place of the command. A builtin that fails prints the outermost text of
its failure.
-/

namespace LineShell

/-- Finds the command that a name and its arguments stand for, if it knows the name. -/
abbrev CommandFactory := String → List String → Option (Prog Outcome)

/-- A table of commands, asked in order. -/
abbrev Builtins := List CommandFactory

/-- What is shown in place of a command: help that was asked for, or what is wrong with the arguments. -/
structure EarlyExit where
  output : String
  isError : Bool
deriving DecidableEq, Repr

/-- How the arguments of the standard builtins are understood. -/
structure ArgumentReader where
  /-- `cd` takes operands. -/
  cd : List String → Except EarlyExit (List String)
  /-- `pwd` takes nothing. -/
  pwd : List String → Except EarlyExit Unit

namespace Builtin

variable {α : Type}

/-- Run a builtin; its failure is printed and becomes exit code `1`. -/
def reporting (command : Prog Outcome) : Prog Outcome := do
  match ← command with
  | .ok code => return .ok code
  | .error failure => Prog.report (failure.parts ++ ["\n"]) .failure

/-- Show what stands in place of a command, as one line without the blanks it ends in. -/
def showInstead (early : EarlyExit) : Prog Outcome :=
  Prog.report [Text.trimEnd early.output, "\n"] (if early.isError then .failure else .success)

/-- The builtin `name`, which runs `body` on the arguments that `read` understands. -/
def factory (name : String) (read : List String → Except EarlyExit α) (body : α → Prog Outcome) :
    CommandFactory := fun word args =>
  if word = name then
    some (match read args with
      | .error early => showInstead early
      | .ok given => reporting (body given))
  else none

/-! ## The commands -/

/-- Change to the directory that the first operand names. -/
def changeDir (operands : List String) : Prog Outcome :=
  match operands with
  | [] => return .error (.other "cd: missing operand")
  | target :: _ => do
    match ← Prog.chdir target with
    | .error e => return .error (.context ("cd: " ++ target ++ ": no such directory") (.system e))
    | .ok () => return .ok .success

/-- Print the working directory. -/
def printDir : Prog Outcome := do
  match ← Prog.currentDir with
  | .error e => return .error (.context "pwd: cannot determine the working directory" (.system e))
  | .ok dir => Prog.report [dir, "\n"] .success

def cd (reader : ArgumentReader) : CommandFactory := factory "cd" reader.cd changeDir

def pwd (reader : ArgumentReader) : CommandFactory := factory "pwd" reader.pwd fun () => printDir

end Builtin

namespace Builtins

/-- The commands that every shell has. -/
def standard (reader : ArgumentReader) : Builtins :=
  [Builtin.cd reader, Builtin.pwd reader]

/-- Run the command `argv` names. Nothing at all is done for no words. -/
def dispatch (table : Builtins) (argv : List String) : Prog Outcome :=
  match argv with
  | [] => return .ok .success
  | name :: args =>
    match table.findSome? (fun find => find name args) with
    | some command => command
    | none => Prog.report [name, ": command not found\n"] .notFound

end Builtins

end LineShell
