import LineShell.ExitReport
import LineShell.Failure

/-!
# Commands that name an executable

The beginning of the first word tells whether a command is a path to an executable (`ExecPrefixes`). Such a command is
started, waited for once, and its exit code is printed (`Executable.run`).
-/

namespace LineShell

/-- The beginnings that make a word the path of an executable, in order of priority. -/
structure ExecPrefixes where
  toList : List String
deriving DecidableEq, Repr

namespace ExecPrefixes

def standard : ExecPrefixes :=
  ⟨["./", "../", "/"]⟩

/-- The first of the beginnings that `word` has. -/
def matching (table : ExecPrefixes) (word : String) : Option String :=
  table.toList.find? fun start => start.toList.isPrefixOf word.toList

/-- Whether a word is the path of an executable. -/
def admits (table : ExecPrefixes) (word : String) : Bool :=
  (table.matching word).isSome

end ExecPrefixes

namespace Executable

/-- Print how a program ended, with its code as it stands in a buffer of fixed size. -/
def reportExit (program : String) (code : ExitCode) : Prog Outcome :=
  let text := (ExitReport.write code (List.replicate ExitReport.width 0)).1
  Prog.report [program, " exited with code ", text, "\n"] code

/-- Start the program that the first word names, wait for it and report its exit. -/
def run (argv : List String) : Prog Outcome :=
  match argv with
  | [] => return .ok .failure
  | program :: _ => do
    match ← Prog.exec program argv with
    | .error _ => Prog.report [program, ": failed to execute\n"] .failure
    | .ok pid =>
      match ← Prog.waitpid pid with
      | .error _ =>
        Prog.report [program, ": failed to wait for process ", toString pid.raw.toInt, "\n"] .failure
      | .ok code => reportExit program code

end Executable

end LineShell
