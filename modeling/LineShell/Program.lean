import LineShell.Reader
import LineShell.Failure

/-!
# Programs

A program gets its words, the name it was started under first, and sees nothing but the system and the console. Its
first argument bounds the reads of the console that still deliver something, for programs that loop over it.

`Program.start` runs a program as a process: a failure is printed and becomes exit code `1`.
-/

namespace LineShell

/-- What an executable file does. -/
abbrev Program := (supply : Nat) → (argv : List String) → Prog Outcome

namespace Program

/-- Run a program as a process. A failure that cannot be printed is an exit code all the same. -/
def start (program : Program) (supply : Nat) (argv : List String) : Prog ExitCode := do
  match ← program supply argv with
  | .ok code => return code
  | .error failure => do
    let _ ← Prog.printParts (argv.headD "?" :: ": " :: failure.chainParts ++ ["\n"])
    return .failure

/-- Tell how the program is meant to be used, or why it will not work. -/
def refuse (text : String) : Prog Outcome :=
  Prog.report [text, "\n"] .failure

end Program

end LineShell
