import LineShell.Userland.Awk.Evaluation
import LineShell.Userland.Awk.Program

/-!
# Running programs

`Program.run` runs a program: what is to be done at the start, the rules for each record of the input, and what is to be
done at the end. A program that only has a start reads nothing.
-/

namespace LineShell.Host.Awk

open Acting

namespace Program

/-- Whether a pattern is for the record at hand. A pattern from one record to another goes on until its end. -/
def isFor (call : Calling) : Pattern → Acting Bool
  | .all => return true
  | .where_ e => return (← eval call e).isTrue
  | .range first last n => do
    let hasBegun ← if ((← get).ranges[n]?).getD false then pure true else pure (← eval call first).isTrue
    if !hasBegun then return false
    else
      let ends := (← eval call last).isTrue
      modify fun m => { m with ranges := m.ranges.setIfInBounds n !ends }
      return true

/-- Apply rules to the record at hand. -/
def apply (call : Calling) : List (Pattern × Stmt) → Acting Flow
  | [] => return .on
  | (pattern, body) :: rest => do
    if ← isFor call pattern then
      match ← exec call body with
      | .on => apply call rest
      | flow => return flow
    else apply call rest

/-- Apply the rules to the next record, if there is one. -/
def applyToNext (p : Program) (call : Calling) : Acting (Option Flow) := do
  match ← nextRecord inputLimit with
  | none => return some .on
  | some record =>
    modify fun m => { m with record := .ofText record }
    match ← apply call p.rules with
    | .nextFile => modify fun m => { m with feed := none }
    | _ => pure ()
    return none

/-- Do statements one after the other. -/
def execAll (call : Calling) : List Stmt → Acting Unit
  | [] => return
  | s :: rest => do
    let _ ← exec call s
    execAll call rest

/-- How many patterns go from one record to another. -/
def rangeCount (p : Program) : Nat :=
  (p.rules.filter fun (pattern, _) => match pattern with
    | .range .. => true
    | _ => false).length

/-- What the variables are at the start. -/
def firstValues (p : Program) : Array Value :=
  let special : List Value :=
    [.number 0, .number 0, .number 0, .text [32], .text [10], .text [32], .text [10], .text [28],
      .text (Text.bytes "%.6g"), .text (Text.bytes "%.6g"), .text []]
  (special ++ List.replicate (p.names.length - special.length) Value.nothing).toArray

/-- A table of texts from outside. -/
def tableOfTexts (entries : List (Key × Bytes)) : Table :=
  entries.foldl (fun t (key, value) => t.insert key (.given value)) {}

/-- The state a program starts in, with its name and its arguments. -/
def start (p : Program) (starter : Starter) (scene : Scene) (name : Bytes) (args : List Bytes) : Machine :=
  let words := name :: args
  let numbered := words.mapIdx fun n word => (Key.number n, word)
  let inherited := starter.environment.map fun (name, value) => (Key.text name, value)
  let values := p.firstValues.setIfInBounds Special.argumentCount (.ofNat words.length)
  let tables := ((Array.replicate p.names.length (default : Table)).setIfInBounds Special.arguments
    (tableOfTexts numbered)).setIfInBounds Special.environment (tableOfTexts inherited)
  { scene := scene, values := values, tables := tables, ranges := Array.replicate p.rangeCount false,
    random := .ofSeed (scene.disk.now / 1000000000) }

/-- All that a program does. -/
def act (p : Program) (settings : List (Bytes × Bytes)) : Acting Unit := do
  let call := p.call callLimit
  let body : Acting Unit := do
    for (name, value) in settings do
      setNamed name value
    execAll call p.starts
    if !(p.rules.isEmpty && p.ends.isEmpty) then
      let _ ← rounds (p.applyToNext call) roundLimit
  let finish : Acting Unit := execAll call p.ends
  let quietly (act : Acting Unit) : Acting Unit :=
    tryCatch act fun stop => if stop = .exit then pure () else throw stop
  tryCatch (do quietly body; quietly finish) fun _ => pure ()
  tryCatch closeAll fun _ => pure ()

/-- Run a program, with variables set at its start, and give its status. -/
def run (p : Program) (starter : Starter) (settings : List (Bytes × Bytes)) (name : Bytes) (args : List Bytes) :
    StateM Scene Nat := do
  let machine := p.start starter (← get) name args
  let (_, machine) := (((p.act settings).run { program := p, starter := starter }).run).run machine
  set machine.scene
  return machine.status

end Program

end LineShell.Host.Awk
