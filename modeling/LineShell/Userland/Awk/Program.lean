import LineShell.Userland.Awk.Parser

/-!
# Reading programs

`Program.read` reads a program, or says what is wrong with it. A program is read to its end even if something is wrong
with it, so that more than one fault can be told of.

A variable that is only given to functions is what they take it for.
-/

namespace LineShell.Host.Awk

namespace Parser

/-! ## Rules and functions -/

/-- The variables of a function. -/
def parameters : (fuel : Nat) → List Bytes → Parsing (List Bytes)
  | 0, _ => refuse
  | fuel + 1, read => do
    match ← peek with
    | .name name _ =>
      if read.contains name then object (name ++ Text.bytes " is duplicated in argument list")
      advance
      if ← accept "," then parameters fuel (name :: read)
      else return (name :: read).reverse
    | _ => refuse

/-- The definition of a function. -/
def definition (fuel : Nat) : Parsing Unit := do
  advance
  match ← peek with
  | .name name _ =>
    let number ← match ← function? name with
      | some n =>
        if (((← get).functions[n]?).bind Known.params).isSome then object (Text.bytes "redefinition of " ++ name)
        pure n
      | none =>
        if ← isVariable name then object (Text.bytes "illegal reference to variable " ++ name)
        let d ← get
        set { d with functions := d.functions.push { name := name } }
        pure d.functions.size
    advance
    expect "("
    let params ← if ← isAt ")" then pure [] else parameters fuel []
    expect ")"
    skipNewlines
    modify fun d =>
      { d with
        owner := some number
        params := params
        paramUses := Array.replicate params.length .unknown
        functions := d.functions.modify number fun f => { f with params := some #[] } }
    let body ← tryCatch (block fuel) fun _ => do
      modify fun d => { d with owner := none, params := [], paramUses := #[] }
      throw ()
    modify fun d =>
      { d with
        owner := none
        params := []
        paramUses := #[]
        functions := d.functions.modify number fun f => { f with params := some d.paramUses, body := body } }
  | _ => refuse

/-- The condition of a rule. -/
def pattern (fuel : Nat) : Parsing Pattern := do
  let first ← expr fuel false 0
  if ← accept "," then
    let last ← expr fuel false 0
    modify fun d => { d with ranges := d.ranges + 1 }
    return .range first last ((← get).ranges - 1)
  else return .where_ first

/-- One more part of a program. -/
def part (fuel : Nat) (p : Program) : Parsing Program := do
  match ← peek with
  | .keyword "BEGIN" =>
    advance
    return { p with starts := p.starts ++ [← block fuel] }
  | .keyword "END" =>
    advance
    return { p with ends := p.ends ++ [← block fuel] }
  | .keyword "function" =>
    definition fuel
    return p
  | .sign "\x7b" =>
    modify fun d => { d with isRule := true }
    let body ← block fuel
    modify fun d => { d with isRule := false }
    return { p with rules := p.rules ++ [(.all, body)] }
  | _ =>
    let pattern ← pattern fuel
    match ← peek with
    | .newline | .semicolon _ =>
      advance
      return { p with rules := p.rules ++ [(pattern, .print [] .standard)] }
    | _ =>
      modify fun d => { d with isRule := true }
      let body ← block fuel
      modify fun d => { d with isRule := false }
      return { p with rules := p.rules ++ [(pattern, body)] }

/-- Go past all tokens in front of a brace. -/
def skipToBlock : (fuel : Nat) → Parsing Unit
  | 0 => return
  | fuel + 1 => do
    match ← peek with
    | .finish => throw ()
    | .sign "\x7b" => return
    | _ =>
      advance
      skipToBlock fuel

/-- All parts of a program. After a fault, what is in front of the next block is left out. -/
def parts : (fuel : Nat) → Program → Parsing Program
  | 0, p => return p
  | fuel + 1, p => do
    match ← peek with
    | .finish => return p
    | _ =>
      let p ← tryCatch (part fuel p) fun _ => do
        skipToBlock (← get).tokens.length
        let _ ← block fuel
        return p
      parts fuel p

/-! ## Variables that are given to functions -/

/-- How a variable of a function is used. -/
def paramUse (d : Draft) (function slot : Nat) : Use :=
  ((((d.functions[function]?).bind Known.params).bind fun params => params[slot]?)).getD .unknown

def setParamUse (d : Draft) (function slot : Nat) (use : Use) : Draft :=
  { d with functions := d.functions.modify function fun f =>
      { f with params := f.params.map fun params => params.setIfInBounds slot use } }

/-- How a variable that is given to a function is used where it comes from. -/
def sourceUse (d : Draft) (pass : Pass) : Use :=
  match pass.slot, pass.owner with
  | .whole n, _ => (d.uses[n]?).getD .unknown
  | .local n, some f => paramUse d f n
  | .local _, none => .unknown

def setSourceUse (d : Draft) (pass : Pass) (use : Use) : Draft :=
  match pass.slot, pass.owner with
  | .whole n, _ => { d with uses := d.uses.setIfInBounds n use }
  | .local n, some f => setParamUse d f n use
  | .local _, none => d

/-- What is a table on one side is one on the other. -/
def settlePass (d : Draft) (pass : Pass) : Draft :=
  match sourceUse d pass, paramUse d pass.callee pass.index with
  | .unknown, .table => setSourceUse d pass .table
  | .table, .unknown => setParamUse d pass.callee pass.index .table
  | _, _ => d

/-- Settle how all variables are used. -/
def settle : (rounds : Nat) → Draft → Draft
  | 0, d => d
  | rounds + 1, d => settle rounds (d.passes.foldl settlePass d)

/-- What is wrong with the calls of functions. -/
def callFaults (d : Draft) : List Bytes :=
  let at_ (line : Nat) (text : Bytes) : Bytes := Text.bytes "line " ++ decimal line ++ Text.bytes ": " ++ text
  let name (f : Nat) : Bytes := ((d.functions[f]?).map Known.name).getD []
  let undefined := d.functions.toList.reverse.filter fun f => f.params.isNone
  let long := d.calls.reverse.filterMap fun (f, line, count) =>
    match (d.functions[f]?).bind Known.params with
    | some params =>
      if params.size < count then some (at_ line (Text.bytes "too many arguments in call to " ++ name f)) else none
    | none => none
  let mixed := d.passes.reverse.filterMap fun pass =>
    let line := ((d.calls.find? fun (f, _, _) => f = pass.callee).map (·.2.1)).getD 1
    match sourceUse d pass, paramUse d pass.callee pass.index with
    | .single, .table | .table, .single =>
      some (at_ line (Text.bytes "type error in arg(" ++ decimal (pass.index + 1) ++ Text.bytes ") in call to " ++
        name pass.callee))
    | _, _ => none
  (undefined.map fun f =>
    at_ d.lastLine (Text.bytes "function " ++ f.name ++ Text.bytes " never defined")) ++ long ++ mixed

/-- The numbers of the tables among variables. -/
def tablesOf (uses : Array Use) : List Nat :=
  (List.range uses.size).filter fun n => uses[n]? = some .table

end Parser

namespace Program

/-- The most faults that are told of. -/
def faultLimit : Nat := 5

/-- Read a program, or say what is wrong with it. Some variables are known beforehand. -/
def read (given : List Bytes) (text : Bytes) : Except (List Bytes) Program :=
  let specials := Special.names.map Text.bytes
  let more := (given.filter fun name => !specials.contains name).eraseDups
  let uses := specials.map (fun name =>
    if [Text.bytes "ARGV", Text.bytes "ENVIRON"].contains name then Parser.Use.table else .single)
  let tokens := Token.ofText text
  let lastLine := (tokens.getLast?.map Token.line).getD 1
  let (tokens, faults) := Parser.dropExtra tokens []
  let draft : Parser.Draft :=
    { tokens := tokens, lastLine := lastLine, faults := faults, names := (specials ++ more).toArray,
      uses := (uses ++ more.map fun _ => Parser.Use.single).toArray }
  let fuel := 40 * tokens.length + 200
  let (result, draft) := ((Parser.parts fuel {}).run).run draft
  match result with
  | .ok program =>
    let draft := Parser.settle (draft.passes.length + 1) draft
    let faults := if draft.faults.isEmpty then Parser.callFaults draft else draft.faults.reverse
    if !faults.isEmpty then .error (faults.take faultLimit)
    else
      .ok { program with
        names := draft.names.toList
        tables := Parser.tablesOf draft.uses
        functions := draft.functions.map fun f =>
          let uses := f.params.getD #[]
          { params := uses.size, tables := Parser.tablesOf uses, body := f.body } }
  | .error _ => .error (draft.faults.reverse.take faultLimit)

end Program

end LineShell.Host.Awk
