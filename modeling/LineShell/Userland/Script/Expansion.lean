import LineShell.Userland.Script.Arithmetic
import LineShell.Userland.Script.Interpreter

/-!
# What words stand for

A word is expanded to atoms (`expanded`); atoms make one text (`joined`), or fields, which are split where the
separators are and may be patterns for the names of files (`fieldsOf`).
-/

namespace LineShell.Host.Script

/-! ## Parameters -/

namespace Interpreter

/-- The letters of the options, in the order in which a script is told which are on. -/
def flagOrder : List Char :=
  "pubaCEVvxsnmiIfe".toList

/-- The value of a parameter, if it is set. -/
def parameter? (i : Interpreter) (name : Bytes) : Option Bytes :=
  match name.map fun b => Char.ofNat b.toNat with
  | ['?'] => some (decimal i.status)
  | ['#'] => some (decimal i.args.length)
  | ['$'] => some (decimal i.shownPid)
  | ['!'] => i.lastJob.map decimal
  | ['-'] => some ((flagOrder.filter i.has).map byte)
  | ['@'] | ['*'] => if i.args.isEmpty then none else some ((i.args.intersperse [0]).flatten)
  | ['0'] => some i.name
  | _ =>
    match number? name with
    | some n => i.args[n - 1]?
    | none => i.valueOf? name

end Interpreter

/-- The atoms of a text. -/
def atomsOf (quoted splits : Bool) (text : Bytes) : List Atom :=
  if text.isEmpty then (if quoted then [.nothing] else []) else text.map fun b => .byte b quoted splits

/-- The atoms of texts with NUL between them. With `whole`, they make one text with the first separator between them. -/
def atomsOfAll (separators : Bytes) (whole quoted : Bool) (texts : Bytes) : List Atom :=
  let pieces := texts.splitOn 0
  if whole then atomsOf true false ((pieces.intersperse (separators.take 1)).flatten)
  else ((pieces.map (atomsOf quoted (!quoted))).intersperse [.border]).flatten

/-- The text of atoms, with the first separator where arguments meet. -/
def joined (separators : Bytes) (atoms : List Atom) : Bytes :=
  atoms.flatMap fun
    | .byte b .. => [b]
    | .nothing => []
    | .border => separators.take 1

/-- The bytes of atoms, of which those that are not quoted may have a meaning. -/
def markedOf (separators : Bytes) (atoms : List Atom) : List Marked :=
  atoms.flatMap fun
    | .byte b quoted _ => [⟨b, quoted⟩]
    | .nothing => []
    | .border => (separators.take 1).map fun b => ⟨b, true⟩

/-- The word that a text with a tilde at its start begins with, the home directory in its place. -/
def withHome (i : Interpreter) (word : Word) : Word :=
  match word with
  | .text (126 :: bytes) false :: rest =>
    let user := bytes.takeWhile (· != Place.slash)
    if user.length = bytes.length && !rest.isEmpty then word
    else
      let home := if user.isEmpty then i.valueOf? (Text.bytes "HOME")
        else if user = Text.bytes "root" then some (Text.bytes "/root")
        else none
      match home with
      | some home => .text home true :: .text (bytes.drop user.length) false :: rest
      | none => word
  | _ => word

/-! ## Parts -/

/-- What a parameter stands for, by what is asked of it. -/
def expandedParameter (e : Engine) (name : Bytes) (use : Use) (word : Word) (quoted : Bool) : Act (List Atom) := do
  let i ← get
  let all := name = [byte '@'] || name = [byte '*']
  let found := i.parameter? name
  let whole (value : Bytes) : List Atom :=
    if all then atomsOfAll i.separators (quoted && name = [byte '*']) quoted value else atomsOf quoted (!quoted) value
  let inside : Act (List Atom) := do
    let atoms ← e.expand word
    if quoted then return if atoms.isEmpty then [.nothing] else atoms
    else
      return atoms.map fun
        | .byte b false _ => .byte b false true
        | atom => atom
  /- Whether the parameter counts as set. -/
  let isSet (empty : Bool) : Bool := found.any fun value => !(empty && value.isEmpty)
  /- A parameter has to be set, where that is asked for. -/
  let demanded : Act Unit := do
    if found.isNone && i.has 'u' && !all then Act.failOf name "parameter not set"
  match use with
  | .value =>
    demanded
    return match found with
      | some value => whole value
      | none => if all then [] else whole []
  | .length =>
    demanded
    return atomsOf quoted (!quoted) (decimal (found.getD []).length)
  | .default empty => if isSet empty then return whole (found.getD []) else inside
  | .alternative empty => if isSet empty then inside else return if quoted && !all then [.nothing] else []
  | .demand empty =>
    if isSet empty || all then return whole (found.getD [])
    else if word.isEmpty then Act.failOf name ("parameter not set" ++ if empty then " or null" else "")
    else Act.fail (name ++ Text.bytes ": " ++ joined i.separators (← e.expand word))
  | .assign empty =>
    if isSet empty then return whole (found.getD [])
    else if !isName name then Act.failOf name "bad variable name"
    else
      let value := joined i.separators (← inside)
      Act.assign name value false
      return atomsOf quoted (!quoted) value
  | .withoutStart longest | .withoutEnd longest =>
    demanded
    let pattern := Pattern.ofMarked (markedOf i.separators (← e.expand word))
    let atStart : Bool := match use with
      | .withoutStart _ => true
      | _ => false
    return match found with
      | some value => whole (if atStart then pattern.withoutStart longest value else pattern.withoutEnd longest value)
      | none => if all then [] else whole []
  | .unknown => Act.failText "Bad substitution"

/-- What an arithmetic expression comes to. -/
def computed (text : Bytes) : Act Bytes := do
  let failed (fault : ArithmeticFault) : Act Int64 :=
    Act.fail (Text.bytes ("arithmetic expression: " ++ fault.text ++ ": \"") ++ text ++ [byte '"'])
  match Arithmetic.parse text with
  | .error fault =>
    let _ ← failed fault
    return []
  | .ok a =>
    let look (name : Bytes) : Act Int64 := do
      let value := ((← get).parameter? name).getD []
      match Arithmetic.ofValue? value with
      | some n => return n
      | none => Act.fail (Text.bytes "Illegal number: " ++ value)
    let ofInt (n : Int64) : Bytes := Text.bytes (toString n.toInt)
    let n ← a.value look (fun name n => Act.assign name (ofInt n) false) (failed .division)
    return ofInt n

/-- What a command prints: without the newlines at the end, and without NUL. -/
def printed (e : Engine) (body : Command) : Act Bytes := do
  let (text, ending) ← captured e (e.command false body)
  let status ← settled ending
  modify fun i => { i with outputStatus := status }
  return ((text.filter (· != 0)).reverse.dropWhile (· = newline)).reverse

/-- The atoms of one part. -/
def expandedPart (e : Engine) : Part → Act (List Atom)
  | .text bytes quoted => return atomsOf quoted false bytes
  | .parameter name use word quoted => expandedParameter e name use word quoted
  | .output body quoted => return atomsOf quoted (!quoted) (← printed e body)
  | .arithmetic expression quoted => do
    return atomsOf quoted (!quoted) (← computed (joined (← get).separators (← e.expand expression)))

/-- The atoms of a word. -/
def expanded (e : Engine) (word : Word) : Act (List Atom) := do
  let parts ← (withHome (← get) word).mapM (expandedPart e)
  return parts.flatten

/-! ## Fields -/

/-- Fields under construction: those that are done, latest first, and the bytes of the one at work, latest first. -/
structure Fields where
  done : List (List Marked) := []
  present : Option (List Marked) := none
  /-- Whether nothing but blanks was met since the last field. -/
  afterBlank : Bool := false

namespace Fields

/-- End the field at work, if there is one. -/
def finish (f : Fields) : Fields :=
  match f.present with
  | some bytes => { f with done := bytes.reverse :: f.done, present := none }
  | none => f

/-- Go on with one atom. -/
def step (separators : Bytes) (f : Fields) : Atom → Fields
  | .nothing => { f with present := some (f.present.getD []) }
  | .border => { f.finish with afterBlank := false }
  | .byte b quoted splits =>
    if splits && !quoted && separators.contains b then
      let white := b = byte ' ' || b = byte '\t' || b = newline
      if f.present.isSome then { f.finish with afterBlank := white }
      else if white then f
      else if f.afterBlank then { f with afterBlank := false }
      else { f with done := [] :: f.done }
    else { f with present := some (⟨b, quoted⟩ :: f.present.getD []) }

end Fields

/-- Split atoms into fields. -/
def splitFields (separators : Bytes) (atoms : List Atom) : List (List Marked) :=
  (atoms.foldl (Fields.step separators) {}).finish.done.reverse

/-! ## Names of files -/

/-- Whether a field may stand for the names of files. -/
def isPattern (field : List Marked) : Bool :=
  field.any fun m => m.isSign '*' || m.isSign '?' || m.isSign '['

/-- The names in a directory that a pattern fits. Names that start with a dot have to be asked for. -/
def namesFitting (s : Scene) (dir : Bytes) (field : List Marked) : List Bytes :=
  match s.find? (if dir.isEmpty then [byte '.'] else dir) with
  | some (.dir entries _) =>
    let pattern := Pattern.ofMarked field
    let hidden := pattern.head? = some (.one (byte '.'))
    let names := [[byte '.'], [byte '.', byte '.']] ++ entries.map (·.1)
    names.filter fun name => (hidden || name.head? != some (byte '.')) && pattern.fits name
  | _ => []

/-- The paths that a field fits, from the path `before` on. -/
def pathsFrom (s : Scene) (before : Bytes) : List (List Marked) → List Bytes
  | [] => []
  | [field] =>
    let path := before ++ Marked.plain field
    if isPattern field then (namesFitting s before field).map (before ++ ·)
    else if (s.disk.findLast? s.dir path).isSome then [path]
    else []
  | field :: rest =>
    if isPattern field then
      (namesFitting s before field).flatMap fun name =>
        if (s.find? (before ++ name)).any Node.isDir then pathsFrom s (before ++ name ++ [Place.slash]) rest else []
    else pathsFrom s (before ++ Marked.plain field ++ [Place.slash]) rest

/-- The pieces of a field between slashes. -/
def betweenSlashes (field : List Marked) : List (List Marked) :=
  field.foldr (fun m pieces =>
    match pieces with
    | [] => [[m]]
    | piece :: more => if m.byte = Place.slash then [] :: piece :: more else (m :: piece) :: more) [[]]

/-- The paths that a field stands for, in order; the field itself if there are none. -/
def filesOf (s : Scene) (field : List Marked) : List Bytes :=
  let found := if isPattern field then pathsFrom s [] (betweenSlashes field) else []
  if found.isEmpty then [Marked.plain field] else found.mergeSort fun a b => !decide (b < a)

/-- The fields of a word. -/
def fieldsOf (e : Engine) (word : Word) : Act (List Bytes) := do
  let atoms ← expanded e word
  let i ← get
  let fields := splitFields i.separators atoms
  return if i.has 'f' then fields.map Marked.plain else fields.flatMap (filesOf i.scene)

/-- The text of a word, not split. -/
def textOf (e : Engine) (word : Word) : Act Bytes := do
  let atoms ← expanded e word
  return joined (← get).separators atoms

end LineShell.Host.Script
