import LineShell.Prog

/-!
# How a command fails

A failure is a cause and what was being done when it struck, the outermost first. `Failure.message` is the
outermost text alone, `Failure.chain` all of them; `Failure.parts` and `Failure.chainParts` are the pieces in which they
are written.
-/

namespace LineShell

/-- Why a command ended without an exit code. -/
inductive Failure
  /-- A request was refused. -/
  | system (cause : SysError)
  /-- The command gave up. -/
  | other (message : String)
  /-- `message` tells what was being done. -/
  | context (message : String) (cause : Failure)
deriving DecidableEq, Repr

namespace Failure

/-- The outermost message, in pieces. -/
def parts : Failure → List String
  | system cause => cause.parts
  | other message => [message]
  | context message _ => [message]

/-- All messages, outermost first, in pieces. -/
def chainParts : Failure → List String
  | system cause => cause.parts
  | other message => [message]
  | context message cause => message :: ": " :: cause.chainParts

def message (failure : Failure) : String :=
  String.join failure.parts

def chain (failure : Failure) : String :=
  String.join failure.chainParts

end Failure

/-- What running a command comes to. -/
abbrev Outcome := Except Failure ExitCode

namespace Prog

variable {α : Type}

/-- Go on with the value of `p`, or end with its failure. -/
def orFail (p : Prog (Except SysError α)) (next : α → Prog Outcome) : Prog Outcome := do
  match ← p with
  | .error e => return .error (.system e)
  | .ok value => next value

/-- Print a text that comes in pieces and end with `code`. -/
def report (parts : List String) (code : ExitCode) : Prog Outcome :=
  (printParts parts).orFail fun () => return .ok code

end Prog

end LineShell
