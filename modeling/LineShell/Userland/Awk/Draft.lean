import LineShell.Userland.Awk.Lexer
import LineShell.Userland.Awk.Syntax

/-!
# What was read of a program

`Draft` is what is known of a program while it is read: the tokens that are left, its variables and functions, and what
is wrong with it. `Parsing` is reading; it stops where a token cannot stand.

A variable is known by its use as one value or as a table.
-/

namespace LineShell.Host.Awk

namespace Parser

/-! ## What is known of a program -/

/-- How a variable is used, as far as is known. -/
inductive Use
  | unknown
  | single
  | table
deriving DecidableEq, Repr

instance : Inhabited Use := ⟨.unknown⟩

/-- A function that was met. -/
structure Known where
  name : Bytes
  /-- How its variables are used, once it was defined. -/
  params : Option (Array Use) := none
  body : Stmt := .nothing
deriving Inhabited

/-- A variable that is given to a function as it is. -/
structure Pass where
  owner : Option Nat
  slot : Slot
  callee : Nat
  index : Nat
deriving Inhabited

/-- What was read of a program. -/
structure Draft where
  tokens : List Token
  /-- Where the text ends. -/
  lastLine : Nat
  names : Array Bytes := #[]
  uses : Array Use := #[]
  functions : Array Known := #[]
  /-- The function that is being read, and its variables. -/
  owner : Option Nat := none
  params : List Bytes := []
  paramUses : Array Use := #[]
  passes : List Pass := []
  /-- The calls of functions, with their lines and the numbers of arguments. -/
  calls : List (Nat × Nat × Nat) := []
  ranges : Nat := 0
  /-- How many loops are open, and whether records are at hand. -/
  loops : Nat := 0
  isRule : Bool := false
  /-- What is wrong, latest first. -/
  faults : List Bytes := []

/-- Reading a program; it stops where a token cannot stand. -/
abbrev Parsing := ExceptT Unit (StateM Draft)

/-! ## Tokens -/

/-- Drop signs that close nothing. -/
def dropExtra : List Token → List Bytes → List Token × List Bytes
  | [], faults => ([], faults)
  | t :: rest, faults =>
    match t.lexeme with
    | .extra _ => dropExtra rest (t.fault :: faults)
    | _ => (t :: rest, faults)

/-- Go to the next token. -/
def advance : Parsing Unit :=
  modify fun d =>
    let (tokens, faults) := dropExtra d.tokens.tail d.faults
    { d with tokens := tokens, faults := faults }

/-- The token at hand. -/
def peek : Parsing Lexeme := do
  match (← get).tokens with
  | t :: _ => return t.lexeme
  | [] => return .finish

/-- The token behind the one at hand. -/
def peekNext : Parsing Lexeme := do
  match (← get).tokens with
  | _ :: t :: _ => return t.lexeme
  | _ => return .finish

def line : Parsing Nat := do
  match (← get).tokens with
  | t :: _ => return t.line
  | [] => return (← get).lastLine

/-- The token at hand cannot stand here. -/
def refuse {α : Type} : Parsing α := do
  let d ← get
  match d.tokens with
  | t :: _ =>
    let goesOn := match t.lexeme with
      | .runaway .. => false
      | _ => true
    /- The parentheses that are open count no longer. -/
    let closed := d.tokens.map fun other => { other with parens := other.parens - t.parens }
    set { d with faults := t.fault :: d.faults, tokens := if goesOn then closed else [] }
  | [] => pure ()
  throw ()

/-- Something is wrong, but reading goes on. -/
def object (text : Bytes) : Parsing Unit := do
  let n ← line
  modify fun d => { d with faults := (Text.bytes "line " ++ decimal n ++ Text.bytes ": " ++ text) :: d.faults }

/-- Whether a sign is at hand. -/
def isAt (sign : String) : Parsing Bool := do
  match ← peek with
  | .sign text => return text == sign
  | _ => return false

/-- Whether a keyword is at hand. -/
def isAtWord (word : String) : Parsing Bool := do
  match ← peek with
  | .keyword name => return name == word
  | _ => return false

/-- Go past a sign if it is at hand. -/
def accept (sign : String) : Parsing Bool := do
  if ← isAt sign then
    advance
    return true
  else return false

/-- Go past a sign that must be at hand. -/
def expect (sign : String) : Parsing Unit := do
  if !(← accept sign) then refuse

/-- Go past newlines. -/
def skipNewlines : Parsing Unit := do
  match ← peek with
  | .newline => advance
  | _ => pure ()

/-- Go past what ends a statement. -/
def separator : Parsing Unit := do
  match ← peek with
  | .newline | .semicolon _ => advance
  | _ => refuse

/-! ## Names -/

/-- The function of a name, if it is one. -/
def function? (name : Bytes) : Parsing (Option Nat) := do
  return (← get).functions.findIdx? fun f => f.name == name

/-- The variable of a name; one that is new is one of the whole program. -/
def slotOf (name : Bytes) : Parsing Slot := do
  let d ← get
  match d.params.findIdx? (· == name) with
  | some n => return .local n
  | none =>
    match d.names.findIdx? (· == name) with
    | some n => return .whole n
    | none =>
      set { d with names := d.names.push name, uses := d.uses.push .unknown }
      return .whole d.names.size

/-- Whether a name is that of a variable. -/
def isVariable (name : Bytes) : Parsing Bool := do
  let d ← get
  return d.params.contains name || d.names.contains name

def useOf (slot : Slot) : Parsing Use := do
  let d ← get
  return match slot with
    | .whole n => (d.uses[n]?).getD .unknown
    | .local n => (d.paramUses[n]?).getD .unknown

def setUse (slot : Slot) (use : Use) : Parsing Unit :=
  modify fun d => match slot with
    | .whole n => { d with uses := d.uses.setIfInBounds n use }
    | .local n => { d with paramUses := d.paramUses.setIfInBounds n use }

/-- Note how a variable is used. -/
def noteUse (name : Bytes) (slot : Slot) (use : Use) : Parsing Unit := do
  match ← useOf slot with
  | .unknown => setUse slot use
  | known =>
    if known != use then
      object (Text.bytes (if known = .table then "illegal reference to array " else "illegal reference to variable ") ++
        name)

/-- The name at hand, as a variable that is used in a way. -/
def variableAt (use : Use) : Parsing Slot := do
  match ← peek with
  | .name name _ =>
    if (← function? name).isSome && !(← isVariable name) then refuse
    else
      let slot ← slotOf name
      advance
      noteUse name slot use
      return slot
  | _ => refuse

end Parser

end LineShell.Host.Awk
