import LineShell.Builtin
import LineShell.Executable
import LineShell.LineSource

/-!
# The command loop

One pass reads a line, splits it into words, and runs what the first word names: an executable if the word starts with
one of the marks of a path, else a builtin. The line and its words are given back before the pass ends, whichever way
it went (`Shell.split` up to the words, `Shell.carryOut` with them); `Shell.step` runs a pass on a machine, and
`Shell.run` runs passes up to the end of the input.
-/

namespace LineShell

/-- What one pass did. -/
inductive Pass
  /-- The line had no words. -/
  | empty
  /-- A command ran and ended with this code. -/
  | completed (code : ExitCode)
  /-- There was no line, or no room for its words; a diagnostic was printed. -/
  | rejected
  | endOfInput
deriving DecidableEq, Repr

/-- A shell between two passes. -/
structure Shell where
  input : LineSource := .console (.ofChunk 64)
  builtins : Builtins
  prefixes : ExecPrefixes := .standard
  prompt : String := "$ "

namespace Shell

/-- What is printed when there is no line or no room for its words. -/
def readFailed : String :=
  "shell: failed to read the command"

/-- Run the command that words name. -/
def dispatch (sh : Shell) (argv : List String) : Prog Outcome :=
  match sh.prefixes.matching (argv.headD "") with
  | some _ => Executable.run argv
  | none => sh.builtins.dispatch argv

/-- Say that there is no command, if the console can be written. -/
def reject : Prog Pass := do
  let _ ← Prog.printParts [readFailed, "\n"]
  return .rejected

/-- The words of a line, held on the heap, or what the pass comes to without them. The line is given back. -/
def split : Except ReadError Line → Prog (Except Pass Words)
  | .error .endOfInput => return .error .endOfInput
  | .error _ => return .error (← reject)
  | .ok line => do
    match ← Words.ofLine line.text with
    | .error _ => do
      let pass ← reject
      line.drop
      return .error pass
    | .ok ws => do
      line.drop
      if ws.toList.isEmpty then do
        ws.drop
        return .error .empty
      else return .ok ws

/-- Run the command that words name and give the words back. A command that ends without an exit code counts as
failed. -/
def carryOut (sh : Shell) (ws : Words) : Prog Pass := do
  let outcome ← sh.dispatch ws.toList
  ws.drop
  return .completed (match outcome with | .ok code => code | .error _ => .failure)

/-- What to do with a line, or with the reason why there is none. -/
def perform (sh : Shell) (line : Except ReadError Line) : Prog Pass := do
  match ← split line with
  | .error pass => return pass
  | .ok ws => sh.carryOut ws

/-- One pass, given how a line is read. -/
def pass {α : Type} (sh : Shell) (read : Prog (Except ReadError Line × α)) : Prog (Pass × α) := do
  let (line, rest) ← read
  return (← sh.perform line, rest)

section Machine

variable {σ : Type} (K : Kernel σ)

/-- Run one pass, in which at most `supply` reads of the console deliver anything. -/
def step (supply : Nat) (sh : Shell) (m : Machine σ) : Option ((Pass × Shell) × Machine σ) :=
  let (read, m) := sh.input.nextLine supply sh.prompt m
  ((sh.pass read).run K m).map fun ((result, input), m) => ((result, { sh with input := input }), m)

/-- Run at most `rounds` passes, the last of which must meet the end of the input. What bounds the reads of the first
pass bounds those of each later one, since reading leaves less. -/
def runFor (supply : Nat) : (rounds : Nat) → Shell → Machine σ → Option (Shell × Machine σ)
  | 0, _, _ => none
  | rounds + 1, sh, m =>
    match sh.step K supply m with
    | none => none
    | some ((.endOfInput, sh), m) => some (sh, m)
    | some ((_, sh), m) => runFor supply rounds sh m

/-- A bound on the passes that take something from the input. -/
def rounds (sh : Shell) (m : Machine σ) : Nat :=
  sh.input.ready m.terminal + K.supply m * sh.input.batchSize + 1

/-- Run passes until the input is at its end. A pass that takes nothing from the input, on a kernel that answers as it
did before, would be repeated for ever, so more rounds than there is input have no result. -/
def run (sh : Shell) (m : Machine σ) : Option (Shell × Machine σ) :=
  runFor K (K.supply m) (sh.rounds K m) sh m

/-- The machine on which reading a line breaks off, if that happens in so many passes. -/
def brokenIn (supply : Nat) : (rounds : Nat) → Shell → Machine σ → Option (Machine σ)
  | 0, _, _ => none
  | rounds + 1, sh, m =>
    if sh.input.breaksOff sh.prompt m then some m
    else (sh.step K supply m).bind fun ((_, sh), m) => brokenIn supply rounds sh m

end Machine

end Shell

end LineShell
