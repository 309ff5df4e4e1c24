import LineShell.Kernel
import LineShell.Reader

/-!
# Where command lines come from

Lines are read from the kernel's console (`Reader`) or come from a line editor, which has the terminal to itself and
never asks the kernel. Editors are left open: a `LineEditor` says what one answers, and `LineEditor.understand` what the
shell makes of it.
-/

namespace LineShell

/-- What an editor answers in place of a line. -/
inductive EditorError
  /-- The line was abandoned. -/
  | interrupted
  | endOfInput
  | other (message : String)
deriving DecidableEq, Repr

/-- A line editor. It has been given some lines to remember, the oldest first. -/
structure LineEditor where
  /-- Show a prompt and let a line be typed on the terminal; `none` if the editor breaks off. -/
  readLine : (remembered : List String) → (prompt : String) → Terminal → Option (Except EditorError String × Terminal)
  /-- Remember one more line. An editor that cannot says why. -/
  remember : (remembered : List String) → (line : String) → Except String Unit
  /-- A bound on the lines that are still to come. -/
  supply : Terminal → Nat

/-- A source of command lines. -/
inductive LineSource
  | console (reader : Reader)
  | editor (editor : LineEditor) (remembered : List String)

/-- What an answer of the editor comes to, and the lines that it remembers then. An abandoned line is an empty one, and an
empty line is not remembered. -/
def LineEditor.understand (editor : LineEditor) (remembered : List String) :
    Except EditorError String → Except ReadError String × List String
  | .error .interrupted => (.ok "", remembered)
  | .error .endOfInput => (.error .endOfInput, remembered)
  | .error (.other message) => (.error (.editor message), remembered)
  | .ok text =>
    if text = "" then (.ok text, remembered)
    else
      match editor.remember remembered text with
      | .error message => (.error (.editor message), remembered)
      | .ok () => (.ok text, remembered ++ [text])

namespace LineSource

variable {σ : Type}

/-- A typed line as a line on the heap. -/
def hold : Except ReadError String → Prog (Except ReadError Line)
  | .error e => return .error e
  | .ok text => do
    match ← Line.copy text with
    | .error _ => return .error .alloc
    | .ok line => return .ok line

/-- The next line, as a program for a machine on which it may be read, and that machine: an editor is done with the
terminal before the program runs. There is no next line if the editor breaks off. At most `supply` reads of the console
deliver anything. -/
def nextLine (supply : Nat) (source : LineSource) (prompt : String) (m : Machine σ) :
    Prog (Except ReadError Line × LineSource) × Machine σ :=
  match source with
  | .console reader => (do
      let (result, reader) ← reader.readLine supply prompt
      return (result, .console reader), m)
  | .editor ed remembered =>
    match ed.readLine remembered prompt m.terminal with
    | none => (.stuck, m)
    | some (answer, terminal) =>
      let (typed, remembered) := ed.understand remembered answer
      (do return (← hold typed, .editor ed remembered), { m with terminal := terminal })

/-- Whether reading the next line breaks off. -/
def breaksOff (source : LineSource) (prompt : String) (m : Machine σ) : Bool :=
  match source with
  | .console _ => false
  | .editor ed remembered => (ed.readLine remembered prompt m.terminal).isNone

/-- What a source holds ready besides what the kernel's console brings. -/
def ready (terminal : Terminal) : LineSource → Nat
  | .console reader => reader.unread.length
  | .editor ed _ => ed.supply terminal

/-- The most bytes that one read of the console brings. -/
def batchSize : LineSource → Nat
  | .console reader => reader.chunk
  | .editor .. => 1

end LineSource

end LineShell
