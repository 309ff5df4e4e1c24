import LineShell.Userland.Utility.Options

/-!
# The language of scripts

A script is made of commands, commands of words, and words of parts that stand for text. `Command` is what a script
says; what it does is said elsewhere. Commands that may be complained of know the line they start on.
-/

namespace LineShell.Host.Script

/-- What is asked of a parameter. `empty` tells whether a parameter set to nothing counts as one that is not set. -/
inductive Use
  | value
  /-- The number of its bytes. -/
  | length
  /-- A word in the place of a parameter that is not set. -/
  | default (empty : Bool)
  /-- As `default`, and the parameter is set to it. -/
  | assign (empty : Bool)
  /-- An error if it is not set. -/
  | demand (empty : Bool)
  /-- A word in the place of a parameter that is set. -/
  | alternative (empty : Bool)
  /-- The value without what a pattern fits at its start. -/
  | withoutStart (longest : Bool)
  /-- The value without what a pattern fits at its end. -/
  | withoutEnd (longest : Bool)
  /-- Nothing that could be done. -/
  | unknown
deriving DecidableEq, Repr

mutual

/-- A part of a word. A quoted part is neither split nor taken for a pattern. -/
inductive Part
  | text (bytes : Bytes) (quoted : Bool)
  | parameter (name : Bytes) (use : Use) (word : List Part) (quoted : Bool)
  /-- What a command prints. -/
  | output (body : Command) (quoted : Bool)
  /-- The value of an expression. -/
  | arithmetic (expression : List Part) (quoted : Bool)

/-- A descriptor turned to something else while a command runs. -/
inductive Redirection
  | file (fd : Nat) (symbol : String) (target : List Part)
  /-- To the stream of another descriptor, or to none. -/
  | stream (fd : Nat) (target : List Part)
  /-- To a text in the script. -/
  | document (fd : Nat) (content : List Part)

/-- A command. -/
inductive Command
  | nothing
  | simple (line : Nat) (assignments : List (Bytes × List Part)) (words : List (List Part))
    (redirections : List Redirection)
  | pipeline (stages : List Command)
  | negated (body : Command)
  | both (first second : Command)
  | either (first second : Command)
  | sequence (steps : List Command)
  | background (body : Command)
  | redirected (line : Nat) (body : Command) (redirections : List Redirection)
  | subshell (line : Nat) (body : Command)
  | branch (condition success failure : Command)
  /-- Runs the body as long as the condition succeeds, or with `failing` as long as it fails. -/
  | loop (failing : Bool) (condition body : Command)
  /-- Runs the body for each word; without words, for each argument. -/
  | each (line : Nat) (name : Bytes) (words : Option (List (List Part))) (body : Command)
  | choice (line : Nat) (subject : List Part) (arms : List (List (List Part) × Command))
  | define (name : Bytes) (body : Command)

end

/-- A word of a script. -/
abbrev Word := List Part

/-- Put a part in front of others; texts of one kind are joined. -/
def Part.onto (part : Part) (parts : Word) : Word :=
  match part, parts with
  | .text a quoted, .text b alike :: rest =>
    if quoted = alike then .text (a ++ b) quoted :: rest else part :: parts
  | _, _ => part :: parts

/-- Several commands as one. -/
def Command.ofSteps : List Command → Command
  | [] => .nothing
  | [c] => c
  | steps => .sequence steps

/-- Whether bytes may be in the name of a variable, first or later. -/
def isNameStart (b : UInt8) : Bool :=
  (byte 'a' ≤ b && b ≤ byte 'z') || (byte 'A' ≤ b && b ≤ byte 'Z') || b = byte '_'

def isNameByte (b : UInt8) : Bool :=
  isNameStart b || isDigit b

/-- Whether a text is the name of a variable. -/
def isName (text : Bytes) : Bool :=
  text.head?.any isNameStart && text.all isNameByte

end LineShell.Host.Script
