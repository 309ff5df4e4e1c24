import LineShell.Userland.Utility.Complaint

/-!
# Options that take one of some words

Such a word may be cut short if it stays clear what is meant; words that mean the same stand together.

- `Choices.find` is the place of a word among the choices;
- `choosing` goes on with the choices made, or complains of the first that is none.
-/

namespace LineShell.Host

/-- The words that an option takes; those that mean the same are one list. -/
abbrev Choices := List (List String)

/-- What is wrong with a word. -/
inductive ChoiceFault
  | unknown
  | ambiguous
deriving DecidableEq, Repr

def ChoiceFault.text : ChoiceFault → String
  | unknown => "invalid argument "
  | ambiguous => "ambiguous argument "

namespace Choices

/-- The place of a word among the choices. -/
def find (choices : Choices) (word : Bytes) : Except ChoiceFault Nat :=
  match choices.findIdx? fun names => names.any fun name => Text.bytes name = word with
  | some n => .ok n
  | none =>
    match choices.zipIdx.filter fun (names, _) => names.any fun name => word.isPrefixOf (Text.bytes name) with
    | [] => .error .unknown
    | [(_, n)] => .ok n
    | _ => .error .ambiguous

/-- The first word of the choice that a word makes. -/
def named? (choices : Choices) (word : Bytes) : Option String :=
  match choices.find word with
  | .ok n => (choices[n]?).bind List.head?
  | .error _ => none

end Choices

/-- Complain of a word that an option does not take. -/
def complainOfChoice (fault : ChoiceFault) (word : Bytes) (option : String) (choices : Choices) :
    StateM Scene Unit := do
  complain (Text.bytes fault.text ++ Quoted.curly word ++ Text.bytes " for " ++
    Quoted.curly (Text.bytes ("--" ++ option)))
  let shown (names : List String) : Bytes :=
    Text.bytes "  - " ++
      ((names.map fun name => Quoted.curly (Text.bytes name)).intersperse (Text.bytes ", ")).flatten ++ [newline]
  modify fun s => s.complain (Text.bytes "Valid arguments are:\n" ++ choices.flatMap shown)
  referToHelp

/-- The options of a utility that take words, with the letters that stand for them. -/
abbrev ChoiceTable := List (Char × String × Choices)

/-- The first option given whose word is none of its choices; an option without a word is fine. -/
def ChoiceTable.wrong? (table : ChoiceTable) (g : Given) : Option (ChoiceFault × Bytes × String × Choices) :=
  g.options.findSome? fun (letter, word) =>
    match table.lookup letter with
    | some (option, choices) =>
      match choices.find word with
      | .error fault => some (fault, word, option, choices)
      | .ok _ => none
    | none => none

/-- Refuses a word that is none of the choices of its option. -/
def ChoiceTable.check (table : ChoiceTable) : OptionCheck := fun letter word =>
  match table.lookup letter with
  | none => none
  | some (option, choices) =>
    match choices.find word with
    | .error fault => some (complainOfChoice fault word option choices)
    | .ok _ => none

/-- As `check`, for options whose word may be left out. -/
def ChoiceTable.checkGiven (table : ChoiceTable) : OptionCheck := fun letter word =>
  if word.isEmpty then none else table.check letter word

/-- Go on if all options that take words have one of theirs. -/
def choosing (table : ChoiceTable) (g : Given) (bad : Nat) (act : StateM Scene Nat) : StateM Scene Nat :=
  match table.wrong? g with
  | none => act
  | some (fault, word, option, choices) => do
    complainOfChoice fault word option choices
    return bad

end LineShell.Host
