import LineShell.Userland.Utility.Choice
import LineShell.Userland.Utility.Inputs
import LineShell.Userland.Utility.Size

/-!
# Filters for sorted lines

`uniq` drops repeated lines, `comm` and `join` compare two sorted files line by line; `tsort` makes an order out of
pairs, `shuf` some order at all.

- `Repeats.shown` is what `uniq` leaves of its lines;
- `OrderCheck` notices lines that are out of order, once per file.
-/

namespace LineShell.Host

namespace Sorted

/-- An ASCII letter in lower case. -/
def lowered (b : UInt8) : UInt8 :=
  if byte 'A' ≤ b && b ≤ byte 'Z' then b + 32 else b

/-- Whether a byte stands between fields. -/
def isGapOrNewline (b : UInt8) : Bool :=
  b = byte ' ' || b = 9 || b = newline

/-! ## uniq -/

/-- Where empty lines stand among groups of lines. -/
inductive Spacing
  | none
  | before
  | after
  | between
  | around
deriving DecidableEq, Repr

/-- How lines are compared, and which of them are shown. -/
structure Repeats where
  skippedFields : Nat := 0
  skippedBytes : Nat := 0
  compared : Option Nat := none
  folded : Bool := false
  /-- Lines that are not repeated. -/
  single : Bool := true
  /-- The first and the further ones of repeated lines. -/
  first : Bool := true
  further : Bool := false
  counted : Bool := false
  spacing : Spacing := .none
  ending : UInt8 := newline

namespace Repeats

/-- A line without some fields. -/
def withoutFields : Nat → Bytes → Bytes
  | 0, line => line
  | n + 1, line => withoutFields n ((line.dropWhile isGapOrNewline).dropWhile fun b => !isGapOrNewline b)

/-- The part of a line that is compared. -/
def key (r : Repeats) (line : Bytes) : Bytes :=
  let part := (withoutFields (min r.skippedFields (line.length + 1)) line).drop r.skippedBytes
  let part := (r.compared.map part.take).getD part
  if r.folded then part.map lowered else part

/-- Groups of lines that count as equal. -/
def groups (r : Repeats) (lines : List Bytes) : List (List Bytes) :=
  lines.splitBy fun a b => r.key a = r.key b

/-- A line as it is shown. -/
def line (r : Repeats) (count : Nat) (text : Bytes) : Bytes :=
  (if r.counted then padLeft 7 (byte ' ') (decimal count) ++ [byte ' '] else []) ++ text ++ [r.ending]

/-- What is shown of a group. -/
def ofGroup (r : Repeats) (group : List Bytes) : List Bytes :=
  match group with
  | [] => []
  | [text] => if r.single then [r.line 1 text] else []
  | text :: more =>
    if r.further then (text :: more).dropLast.map (r.line group.length) ++
        (if r.first then [r.line group.length (more.getLastD text)] else [])
    else if r.first then [r.line group.length text]
    else []

/-- What is shown of the lines of a text. -/
def shown (r : Repeats) (lines : List Bytes) : Bytes :=
  let parts := ((r.groups lines).map r.ofGroup).filter fun lines => !lines.isEmpty
  let gap : Bytes := [r.ending]
  let parts := parts.map List.flatten
  match r.spacing with
  | .none => parts.flatten
  | .before => parts.flatMap (gap ++ ·)
  | .after => parts.flatMap (· ++ gap)
  | .between => (parts.intersperse gap).flatten
  | .around => (parts.flatMap (gap ++ ·)) ++ if parts.isEmpty then [] else gap

end Repeats

/-- The ways to set off groups of repeated lines, and those for all lines. -/
def repeatSpacings : Choices :=
  [["none"], ["prepend"], ["separate"]]

def groupSpacings : Choices :=
  [["prepend"], ["append"], ["separate"], ["both"]]

/-- The words of options that have to be among some, with the letter that stands for each. -/
def uniqChoices : ChoiceTable :=
  [('Γ', "all-repeated", repeatSpacings), ('γ', "group", groupSpacings)]

def checkUniq : OptionCheck := fun letter word =>
  let amount (what : String) : Option (StateM Scene Unit) :=
    match Size.read "" word with
    | .ok _ | .error .tooLarge => none
    | .error _ => some (complain (word ++ Text.bytes (": invalid number of " ++ what)))
  match letter with
  | 'f' => amount "fields to skip"
  | 's' => amount "bytes to skip"
  | 'w' => amount "bytes to compare"
  | _ => uniqChoices.checkGiven letter word

/-- What options ask for. -/
def repeatsOf (g : Given) : Repeats :=
  let amount (letter : Char) : Option Nat :=
    (g.value? letter).map fun word => ((Size.read "" word).toOption).getD Size.limit
  let digits := (g.options.filter fun (letter, _) => letter.isDigit).map fun (letter, _) => byte letter
  let spacing : Spacing :=
    if g.has 'γ' then
      match groupSpacings.named? ((g.value? 'γ').getD []) with
      | some "prepend" => .before
      | some "append" => .after
      | some "both" => .around
      | _ => .between
    else
      match (g.value? 'D').bind fun word => repeatSpacings.named? word with
      | some "prepend" => .before
      | some "separate" => .between
      | _ => .none
  { skippedFields := (amount 'f').getD (number digits), skippedBytes := (amount 's').getD 0, compared := amount 'w'
    folded := g.has 'i', counted := g.has 'c', ending := Lines.ending g, spacing := spacing
    single := !(g.has 'd' || g.has 'D'), first := !g.has 'u', further := g.has 'D' || g.has 'γ' }

/-- Open a file to write into, if there is one; an error is the name and what is wrong with it. -/
def openTarget (path? : Option Bytes) : StateM Scene (Except (Bytes × Fault) (Option Nat)) := do
  match path? with
  | none => return .ok none
  | some path =>
    match (← get).openFile path .write with
    | .ok (number, s) =>
      set s
      return .ok (some number)
    | .error fault => return .error (path, fault)

/-- Drops repeated lines, or shows only them. -/
def uniq : Utility := withCheckedOptions
  { letters := "cdiuzD0123456789", valued := "fsw", optional := "Γγ",
    words := [("count", 'c'), ("repeated", 'd'), ("all-repeated", 'Γ'), ("group", 'γ'), ("ignore-case", 'i'),
      ("unique", 'u'), ("zero-terminated", 'z'), ("skip-fields", 'f'), ("skip-chars", 's'), ("check-chars", 'w')] } 1
  checkUniq fun given => do
    -- The word and the letter for all repeated lines are one option
    let g := { given with options := given.options.map fun (letter, value) =>
      if letter = 'Γ' then ('D', if value.isEmpty then Text.bytes "none" else value)
      else if letter = 'D' then ('D', Text.bytes "none")
      else if letter = 'γ' && value.isEmpty then ('γ', Text.bytes "separate")
      else (letter, value) }
    let leading := g.operands.filterMap fun word =>
      if word.head? = some (byte '+') then number? word.tail else none
    let operands := g.operands.filter fun word => !(word.head? = some (byte '+') && (number? word.tail).isSome)
    let r := repeatsOf g
    let r := { r with skippedBytes := leading.getLastD r.skippedBytes }
    match operands with
    | _ :: _ :: extra :: _ =>
      complainOfUse (Text.bytes "extra operand " ++ Quoted.curly extra)
      return 1
    | _ =>
      if g.has 'γ' && (g.has 'c' || g.has 'd' || g.has 'D' || g.has 'u') then
        complainOfUse (Text.bytes "--group is mutually exclusive with -c/-d/-D/-u")
        return 1
      else if g.has 'c' && g.has 'D' then
        complainOfUse (Text.bytes "printing all duplicated lines and repeat counts is meaningless")
        return 1
      else
        let path := operands.headD [byte '-']
        match ← Inputs.stream path with
        | .error fault =>
          complainOf path fault
          return 1
        | .ok number =>
          let target ← openTarget (operands[1]?.filter fun path => !Inputs.isStandard path)
          match target with
          | .error (path, fault) =>
            complainOf path fault
            return 1
          | .ok target =>
            match ← Inputs.drain number none with
            | .error fault =>
              complainAbout "error reading" path fault
              return 1
            | .ok data =>
              let text := r.shown (Lines.texts r.ending data)
              match target with
              | none =>
                put text
                return 0
              | some out =>
                match (← get).writeStream out text with
                | .ok s =>
                  set s
                  return 0
                | .error fault =>
                  complainText ("write error: " ++ fault.text)
                  return 1

/-! ## Checking the order -/

/-- When the order of lines is checked. -/
inductive CheckRule
  | always
  | ifUnpaired
  | never
deriving DecidableEq, Repr

/-- Where a check stands: whether a line without a partner was seen, and which files are known to be out of order. -/
structure OrderCheck where
  rule : CheckRule
  unpaired : Bool := false
  first : Bool := false
  second : Bool := false

namespace OrderCheck

def isKnown (c : OrderCheck) (second : Bool) : Bool :=
  if second then c.second else c.first

/-- Whether one looks at the order of a file now. -/
def isDue (c : OrderCheck) (second : Bool) : Bool :=
  (c.rule = .always || (c.rule = .ifUnpaired && c.unpaired)) && !c.isKnown second

def note (c : OrderCheck) (second : Bool) : OrderCheck :=
  if second then { c with second := true } else { c with first := true }

/-- The rule that options ask for. -/
def ofOptions (g : Given) : OrderCheck :=
  { rule := match g.last? ['α', 'ν'] with
      | some 'α' => .always
      | some _ => .never
      | none => .ifUnpaired }

end OrderCheck

/-- The operands of a utility that takes two files, or a complaint. -/
def withTwo (quote : Bytes → Bytes) (g : Given) (act : Bytes → Bytes → StateM Scene Nat) : StateM Scene Nat :=
  match g.operands with
  | [] => missingOperand 1
  | [only] => do
    complainOfUse (Text.bytes "missing operand after " ++ Quoted.curly only)
    return 1
  | [first, second] => act first second
  | _ :: _ :: extra :: _ => do
    complainOfUse (Text.bytes "extra operand " ++ quote extra)
    return 1

/-- Read two files, or complain of the first that cannot be read. -/
def loadTwo (first second : Bytes) (act : Bytes → Bytes → StateM Scene Nat) : StateM Scene Nat := do
  match ← Inputs.load first with
  | .error fault =>
    complainOf first fault
    return 1
  | .ok a =>
    match ← Inputs.load second with
    | .error fault =>
      complainOf second fault
      return 1
    | .ok b => act a b

/-! ## comm -/

/-- How two files are compared line by line. -/
structure Comparison where
  hidden : List Nat
  delimiter : Bytes
  ending : UInt8

/-- Where a comparison stands. Lines that were read last come first in `before`. -/
structure Comparing where
  rest₁ : List Bytes
  rest₂ : List Bytes
  before₁ : List Bytes := []
  before₂ : List Bytes := []
  check : OrderCheck
  totals : Nat × Nat × Nat := (0, 0, 0)

namespace Comparison

/-- Show a line in one of the three columns. -/
def writeColumn (c : Comparison) (column : Nat) (line : Bytes) : StateM Scene Unit := do
  if !c.hidden.contains column then
    let earlier := ((List.range column).drop 1).filter fun n => !c.hidden.contains n
    put (earlier.flatMap (fun _ => c.delimiter) ++ line ++ [c.ending])

/-- Complain if the line before comes after a line; the answer tells whether one goes on. -/
def checked (check : OrderCheck) (second : Bool) (before line : Option Bytes) : StateM Scene (OrderCheck × Bool) := do
  match before, line with
  | some before, some line =>
    if check.isDue second && compareOfLessAndEq before line = .gt then
      complainText ("file " ++ (if second then "2" else "1") ++ " is not in sorted order")
      return (check.note second, check.rule != .always)
    else return (check, true)
  | _, _ => return (check, true)

/-- Check the line that comes next in a file, or at its end the last two again. -/
def advance (check : OrderCheck) (second : Bool) (here : Option Bytes) (before rest : List Bytes) :
    StateM Scene (OrderCheck × Bool) :=
  match rest.head? with
  | some next => checked check second here (some next)
  | none => checked check second before.head? here

/-- Compare the lines that are left; whether the work was done. `fuel` is more than their number. -/
def run (c : Comparison) : (fuel : Nat) → Comparing → StateM Scene (Comparing × Bool)
  | 0, t => return (t, true)
  | fuel + 1, t => do
    let here₁ := t.rest₁.head?
    let here₂ := t.rest₂.head?
    let order? : Option Ordering := match here₁, here₂ with
      | none, none => none
      | none, some _ => some .gt
      | some _, none => some .lt
      | some a, some b => some (compareOfLessAndEq a b)
    match order? with
    | none => return (t, true)
    | some order =>
      let (m, n, k) := t.totals
      let totals := match order with
        | .lt => (m + 1, n, k)
        | .gt => (m, n + 1, k)
        | .eq => (m, n, k + 1)
      match order with
      | .lt => c.writeColumn 1 (here₁.getD [])
      | .gt => c.writeColumn 2 (here₂.getD [])
      | .eq => c.writeColumn 3 (here₂.getD [])
      let check := { t.check with unpaired := t.check.unpaired || order != .eq }
      let t := { t with check := check, totals := totals }
      let mut t := t
      let mut goesOn := true
      if order != .gt then
        let (check, fine) ← advance t.check false here₁ t.before₁ t.rest₁.tail
        t := { t with check := check, before₁ := here₁.toList, rest₁ := t.rest₁.tail }
        goesOn := fine
      if order != .lt && goesOn then
        let (check, fine) ← advance t.check true here₂ t.before₂ t.rest₂.tail
        t := { t with check := check, before₂ := here₂.toList, rest₂ := t.rest₂.tail }
        goesOn := fine
      if goesOn then run c fuel t else return (t, false)

end Comparison

/-- Compares two sorted files line by line. -/
def comm : Utility := withOptions
  { letters := "123z",
    words := [("check-order", 'α'), ("nocheck-order", 'ν'), ("output-delimiter", 'δ'), ("total", 'τ'),
      ("zero-terminated", 'z')], valued := "δ" } 1 fun g => do
  let delimiters := (g.values 'δ').map fun word => if word.isEmpty then [0] else word
  if delimiters.any (some · != delimiters.head?) then
    complainText "multiple output delimiters specified"
    return 1
  else
    withTwo Quoted.curly g fun first second => loadTwo first second fun a b => do
      let ending := Lines.ending g
      let hidden := [('1', 1), ('2', 2), ('3', 3)].filterMap fun (letter, n) => if g.has letter then some n else none
      let c : Comparison := { hidden := hidden, delimiter := delimiters.headD [9], ending := ending }
      let lines₁ := Lines.texts ending a
      let lines₂ := Lines.texts ending b
      let (t, done) ← c.run (lines₁.length + lines₂.length + 1)
        { rest₁ := lines₁, rest₂ := lines₂, check := .ofOptions g }
      if !done then return 1
      else
        if g.has 'τ' then
          let (m, n, k) := t.totals
          put (([decimal m, decimal n, decimal k, Text.bytes "total"].intersperse c.delimiter).flatten ++ [ending])
        if t.check.first || t.check.second then
          complainText "input is not in sorted order"
          return 1
        else return 0

/-! ## join -/

/-- A field of a line that is shown: the one joined by, or one of a file, counted from 0. -/
inductive JoinField
  | joined
  | of (second : Bool) (field : Nat)
deriving DecidableEq, Repr

/-- How lines are joined. -/
structure Joining where
  field₁ : Nat := 0
  field₂ : Nat := 0
  separator : Option UInt8 := none
  filler : Bytes := []
  shown : Option (List JoinField) := none
  /-- As many fields are shown as the first lines have. -/
  counts : Option (Nat × Nat) := none
  folded : Bool := false
  pairs : Bool := true
  alone₁ : Bool := false
  alone₂ : Bool := false
  ending : UInt8 := newline

/-- A line with its fields, and its number. -/
structure Joined where
  text : Bytes
  fields : List Bytes
  line : Nat

namespace Joining

/-- The fields between blanks; blanks behind the last one make an empty field. `fuel` is more than the length. -/
def blankFields : (fuel : Nat) → Bytes → List Bytes
  | 0, _ => []
  | fuel + 1, text =>
    let field := text.takeWhile fun b => !isGapOrNewline b
    let after := text.drop field.length
    if after.isEmpty then [field] else field :: blankFields fuel (after.dropWhile isGapOrNewline)

/-- The fields of a line. -/
def fieldsOf (j : Joining) (text : Bytes) : List Bytes :=
  if text.isEmpty then []
  else
    match j.separator with
    | some 10 => [text]
    | some b => text.splitOn b
    | none =>
      let text := text.dropWhile isGapOrNewline
      if text.isEmpty then [] else blankFields (text.length + 1) text

/-- The lines of a file. -/
def lines (j : Joining) (data : Bytes) : List Joined :=
  (Lines.texts j.ending data).zipIdx.map fun (text, n) => { text := text, fields := j.fieldsOf text, line := n + 1 }

/-- What a line is joined by. -/
def key (j : Joining) (second : Bool) (line : Joined) : Bytes :=
  let key := (line.fields[if second then j.field₂ else j.field₁]?).getD []
  if j.folded then key.map lowered else key

/-- Show a joined line, where one of the two may be missing. -/
def showPair (j : Joining) (a b : Option Joined) : StateM Scene Unit := do
  let blank : Joined := { text := [], fields := [], line := 0 }
  let filled (line : Joined) (n : Nat) : Bytes :=
    let field := (line.fields[n]?).getD []
    if field.isEmpty then j.filler else field
  let joined : Bytes := match a with
    | some line => filled line j.field₁
    | none => filled (b.getD blank) j.field₂
  let fields : List Bytes := match j.shown with
    | some chosen => chosen.map fun
        | .joined => joined
        | .of false n => filled (a.getD blank) n
        | .of true n => filled (b.getD blank) n
    | none =>
      let others (line : Option Joined) (key : Nat) (count : Option Nat) : List Bytes :=
        let line := line.getD blank
        ((List.range (count.getD line.fields.length)).filter (· != key)).map (filled line)
      joined :: others a j.field₁ (j.counts.map (·.1)) ++ others b j.field₂ (j.counts.map (·.2))
  put ((fields.intersperse [j.separator.getD (byte ' ')]).flatten ++ [j.ending])

end Joining

/-- Where joining stands. -/
structure JoinState where
  rest₁ : List Joined
  rest₂ : List Joined
  check : OrderCheck
  /-- The order made the work stop. -/
  stopped : Bool := false

namespace Joining

/-- Check that a line does not come before the one in front of it. -/
def checkLine (j : Joining) (names : Bytes × Bytes) (second : Bool) (before line : Joined) (t : JoinState) :
    StateM Scene JoinState := do
  if t.check.isDue second && !t.stopped && compareOfLessAndEq (j.key second before) (j.key second line) = .gt then
    complain ((if second then names.2 else names.1) ++ byte ':' :: decimal line.line ++
      Text.bytes ": is not sorted: " ++ line.text)
    return { t with check := t.check.note second, stopped := t.check.rule = .always }
  else return t

/-- Go to the next line of a file. -/
def step (j : Joining) (names : Bytes × Bytes) (second : Bool) (t : JoinState) : StateM Scene JoinState := do
  let lines := if second then t.rest₂ else t.rest₁
  let t ← match lines with
    | before :: line :: _ => j.checkLine names second before line t
    | _ => pure t
  return if second then { t with rest₂ := t.rest₂.tail } else { t with rest₁ := t.rest₁.tail }

/-- Go past all lines with a key; these lines. `fuel` is more than their number. -/
def gather (j : Joining) (names : Bytes × Bytes) (second : Bool) (key : Bytes) :
    (fuel : Nat) → JoinState → List Joined → StateM Scene (List Joined × JoinState)
  | 0, t, taken => return (taken.reverse, t)
  | fuel + 1, t, taken =>
    match if second then t.rest₂ else t.rest₁ with
    | line :: _ =>
      if j.key second line = key && !t.stopped then do
        let t ← j.step names second t
        gather j names second key fuel t (line :: taken)
      else return (taken.reverse, t)
    | [] => return (taken.reverse, t)

/-- Join the lines as long as both files have some. `fuel` is more than their number. -/
def run (j : Joining) (names : Bytes × Bytes) : (fuel : Nat) → JoinState → StateM Scene JoinState
  | 0, t => return t
  | fuel + 1, t =>
    match t.rest₁, t.rest₂ with
    | a :: _, b :: _ =>
      if t.stopped then return t
      else
        match compareOfLessAndEq (j.key false a) (j.key true b) with
        | .lt => do
          if j.alone₁ then j.showPair (some a) none
          let t ← j.step names false t
          run j names fuel { t with check := { t.check with unpaired := true } }
        | .gt => do
          if j.alone₂ then j.showPair none (some b)
          let t ← j.step names true t
          run j names fuel { t with check := { t.check with unpaired := true } }
        | .eq => do
          let key := j.key false a
          let (as, t) ← j.gather names false key (t.rest₁.length + 1) t []
          let (bs, t) ← j.gather names true key (t.rest₂.length + 1) t []
          if j.pairs && !t.stopped then
            for a in as do
              for b in bs do j.showPair (some a) (some b)
          run j names fuel t
    | _, _ => return t

/-- Go through what is left of one file. `fuel` is more than its length. -/
def finish (j : Joining) (names : Bytes × Bytes) (second : Bool) : (fuel : Nat) → JoinState → StateM Scene JoinState
  | 0, t => return t
  | fuel + 1, t => do
    let lines := if second then t.rest₂ else t.rest₁
    let alone := if second then j.alone₂ else j.alone₁
    match lines with
    | [] => return t
    | line :: _ =>
      if t.stopped then return t
      else
        if alone then j.showPair (if second then none else some line) (if second then some line else none)
        let t ← j.step names second t
        finish j names second fuel t

end Joining

/-- Read the number of a field; what is wrong with it. -/
def joinNumber (word : Bytes) : Except Bytes Nat :=
  match number? word with
  | some (n + 1) => .ok n
  | _ => .error (Text.bytes "invalid field number: " ++ Quoted.curly word)

/-- Read a field that is to be shown. -/
def readJoinField (word : Bytes) : Except Bytes JoinField :=
  let unfit := Text.bytes "invalid field specifier: " ++ Quoted.curly word
  match word with
  | [48] => .ok .joined
  | 48 :: _ => .error unfit
  | b :: rest =>
    if b = byte '1' || b = byte '2' then
      match rest with
      | 46 :: field => (joinNumber field).map (.of (b = byte '2'))
      | _ => .error unfit
    else .error (Text.bytes "invalid file number in field spec: " ++ Quoted.curly word)
  | [] => .error (Text.bytes "invalid file number in field spec: " ++ Quoted.curly word)

/-- What options ask for, or what is wrong with them. -/
def joiningOf (g : Given) : Except Bytes Joining := do
  let mut j : Joining := { folded := g.has 'i', ending := Lines.ending g }
  let mut fields : Option Nat × Option Nat := (none, none)
  let mut shown : List JoinField := []
  let mut filler : Option Bytes := none
  let mut separator : Option UInt8 := none
  for (letter, value) in g.options do
    match letter with
    | '1' | '2' | 'j' =>
      let n ← joinNumber value
      let clash (was : Option Nat) : Except Bytes Unit :=
        match was with
        | some m =>
          if m = n then .ok () else .error (Text.bytes "incompatible join fields " ++ decimal m ++ Text.bytes ", " ++
            decimal n)
        | none => .ok ()
      if letter != '2' then
        clash fields.1
        fields := (some n, fields.2)
      if letter != '1' then
        clash fields.2
        fields := (fields.1, some n)
    | 'a' | 'v' =>
      if letter = 'v' then j := { j with pairs := false }
      match letters value with
      | ['1'] => j := { j with alone₁ := true }
      | ['2'] => j := { j with alone₂ := true }
      | _ => throw (Text.bytes "invalid field number: " ++ Quoted.curly value)
    | 'e' =>
      if filler.any (· != value) then throw (Text.bytes "conflicting empty-field replacement strings")
      filler := some value
    | 'o' =>
      if value = Text.bytes "auto" then j := { j with counts := some (0, 0) }
      else
        let words := value.splitBy fun a b => (isGapOrNewline a || a = byte ',') = (isGapOrNewline b || b = byte ',')
        let words := words.filter fun word => !word.any fun b => isGapOrNewline b || b = byte ','
        for word in if value.isEmpty then [[]] else words do
          shown := shown ++ [← readJoinField word]
    | 't' =>
      let here ← (match value with
        | [] => .ok newline
        | [b] => .ok b
        | _ => if value = Text.bytes "\\0" then .ok 0
          else .error (Text.bytes "multi-character tab " ++ Quoted.curly value) : Except Bytes UInt8)
      if separator.any (· != here) then throw (Text.bytes "incompatible tabs")
      separator := some here
    | _ => pure ()
  return { j with field₁ := fields.1.getD 0, field₂ := fields.2.getD 0, separator := separator,
                  filler := filler.getD [], shown := if shown.isEmpty then none else some shown }

def joinTable : OptionTable :=
  { letters := "iz", valued := "12javeot",
    words := [("ignore-case", 'i'), ("check-order", 'α'), ("nocheck-order", 'ν'), ("header", 'η'),
      ("zero-terminated", 'z')] }

/-- Open two files, then read both, or complain of the first that makes trouble. -/
def openTwo (first second : Bytes) (act : Bytes → Bytes → StateM Scene Nat) : StateM Scene Nat := do
  match ← Inputs.stream first with
  | .error fault =>
    complainOf first fault
    return 1
  | .ok m =>
    match ← Inputs.stream second with
    | .error fault =>
      complainOf second fault
      return 1
    | .ok n =>
      match ← Inputs.drain m none, ← Inputs.drain n none with
      | .ok a, .ok b => act a b
      | .error fault, _ | _, .error fault =>
        complainText ("read error: " ++ fault.text)
        return 1

/-- Joins the lines of two sorted files that have a field in common. -/
def join : Utility := fun args => do
  let reading := joinTable.readFrom false {} args
  match joiningOf reading.1 with
  | .error text =>
    complain text
    return 1
  | .ok j =>
    withReading (OptionTable.ofReading reading) 1 fun g => withTwo Quoted.always g fun first second => do
      if Inputs.isStandard first && Inputs.isStandard second then
        complainText "both files cannot be standard input"
        return 1
      else openTwo first second fun a b => do
        let lines₁ := j.lines a
        let lines₂ := j.lines b
        let count (lines : List Joined) : Nat := (lines.head?.map fun line => line.fields.length).getD 0
        let j := { j with counts := j.counts.map fun _ => (count lines₁, count lines₂) }
        let headed := g.has 'η' && !(lines₁.isEmpty && lines₂.isEmpty)
        if headed then
          match lines₁.head?, lines₂.head? with
          | none, line => j.showPair none line
          | line, other => j.showPair line other
        let names := (Quoted.whereNeeded first, Quoted.whereNeeded second)
        let skip := if headed then 1 else 0
        let t ← j.run names (lines₁.length + lines₂.length + 1)
          { rest₁ := lines₁.drop skip, rest₂ := lines₂.drop skip, check := .ofOptions g }
        let unpaired (t : JoinState) (other : List Joined) : JoinState :=
          { t with check := { t.check with unpaired := t.check.unpaired || !other.isEmpty } }
        let t₁ := if t.rest₁.isEmpty then t else unpaired t t.rest₂
        let t ← j.finish names false (t.rest₁.length + 1) t₁
        let t₂ := if t.rest₂.isEmpty then t else unpaired t t.rest₁
        let t ← j.finish names true (t.rest₂.length + 1) t₂
        if t.stopped then return 1
        else if t.check.first || t.check.second then
          complainText "input is not in sorted order"
          return 1
        else return 0

/-! ## tsort -/

/-- The words of a text. `fuel` is more than its length. -/
def wordsOf (text : Bytes) : List Bytes :=
  let isGap (b : UInt8) : Bool := isGapOrNewline b
  (text.splitBy fun a b => isGap a = isGap b).filter fun word => !word.any isGap

/-- What comes before what: each word, how many words come before it, and which come behind it. -/
abbrev Precedence := List (Bytes × Nat × List Bytes)

namespace Precedence

/-- The pairs of a list of words. -/
def pairs : List Bytes → List (Bytes × Bytes)
  | a :: b :: rest => (a, b) :: pairs rest
  | _ => []

/-- What pairs say, with the words in order. -/
def ofPairs (all : List (Bytes × Bytes)) : Precedence :=
  let words := (all.flatMap fun (a, b) => [a, b]).mergeSort fun a b => compareOfLessAndEq a b != .gt
  let related := all.filter fun (a, b) => a != b
  words.eraseReps.map fun word =>
    (word, (related.filter fun pair => pair.2 = word).length,
      (related.filterMap fun (a, b) => if a = word then some b else none).reverse)

/-- Take one word out of what comes before its successors, and note which of them are free then. -/
def free (p : Precedence) : List Bytes → Precedence × List Bytes
  | [] => (p, [])
  | next :: rest =>
    let q : Precedence := p.map fun (word, count, behind) => (word, if word = next then count - 1 else count, behind)
    let freed := if (q.lookup next).any fun (count, _) => count = 0 then [next] else []
    let (r, more) := free q rest
    (r, freed ++ more)

/-- Take out the words in a queue, and what is free after them. `fuel` is more than the number of words. -/
def drain : (fuel : Nat) → Precedence → (queue : List Bytes) → (done : List Bytes) → Precedence × List Bytes
  | 0, p, _, done | _, p, [], done => (p, done)
  | fuel + 1, p, word :: queue, done =>
    let behind := ((p.lookup word).map (·.2)).getD []
    let (q, freed) := free (p.filter (·.1 != word)) behind
    drain fuel q (queue ++ freed) (done ++ [word])

/-- Follow words back to what comes before them until one comes again: a loop, in order. -/
def loop (p : Precedence) : (fuel : Nat) → (trail : List Bytes) → List Bytes
  | 0, trail => trail
  | fuel + 1, trail =>
    match trail with
    | [] => []
    | first :: _ =>
      match p.find? fun (_, count, behind) => 0 < count && behind.contains first with
      | none => trail
      | some (word, _, _) =>
        if trail.contains word then trail.takeWhile (· != word) ++ [word] else loop p fuel (word :: trail)

end Precedence

/-- Show words in an order in which each comes before those that are to come later. `fuel` is more than their number. -/
def showOrder (name : Bytes) : (fuel : Nat) → Precedence → (status : Nat) → StateM Scene Nat
  | 0, _, status => return status
  | fuel + 1, p, status => do
    let ready := p.filterMap fun (word, count, _) => if count = 0 then some word else none
    let (rest, done) := Precedence.drain (p.length + 1) p ready []
    for word in done do putLine word
    match rest with
    | [] => return status
    | (first, _, _) :: _ =>
      complain (Quoted.whereNeeded name ++ Text.bytes ": input contains a loop:")
      let round := Precedence.loop rest (rest.length + 1) [first]
      -- The loop starts with its least word, and its last step is taken out
      let least := round.foldl (fun a b => if compareOfLessAndEq b a = .lt then b else a) (round.headD first)
      let before := round.takeWhile (· != least)
      let round := round.drop before.length ++ before
      for word in round do complain word
      let last := round.getLastD first
      let cut : Precedence := rest.map fun (word, count, behind) =>
        (word, if word = least then count - 1 else count, if word = last then behind.erase least else behind)
      showOrder name fuel cut 1

/-- Shows words in an order that fits pairs of them. -/
def tsort : Utility := withOptions {} 1 fun g => do
  match g.operands with
  | _ :: extra :: _ =>
    complainOfUse (Text.bytes "extra operand " ++ Quoted.curly extra)
    return 1
  | operands =>
    let path := operands.headD [byte '-']
    match ← Inputs.load path with
    | .error fault =>
      complainOf path fault
      return 1
    | .ok data =>
      let words := wordsOf data
      if words.length % 2 = 1 then
        complain (Quoted.whereNeeded path ++ Text.bytes ": input contains an odd number of tokens")
        return 1
      else
        let pairs := Precedence.pairs words
        showOrder path (pairs.length + 2) (.ofPairs pairs) 0

/-! ## shuf -/

/-- A range such as `3-7`. -/
def range? (word : Bytes) : Option (Nat × Nat) :=
  let first := word.takeWhile isDigit
  match word.drop first.length with
  | 45 :: rest =>
    match number? first, number? rest with
    | some low, some high => if low ≤ high + 1 then some (low, high) else none
    | _, _ => none
  | _ => none

/-- Shows its lines in some order. -/
def shuf : Utility := withOptions
  { letters := "erz", valued := "inoρ",
    words := [("echo", 'e'), ("repeat", 'r'), ("zero-terminated", 'z'), ("input-range", 'i'), ("head-count", 'n'),
      ("output", 'o'), ("random-source", 'ρ')] } 1 fun g => do
  let range := (g.value? 'i').map range?
  match range, (g.values 'n').find? fun word => (number? word).isNone with
  | some none, _ =>
    complain (Text.bytes "invalid input range: " ++ Quoted.curly ((g.value? 'i').getD []))
    return 1
  | _, some word =>
    complain (Text.bytes "invalid line count: " ++ Quoted.curly word)
    return 1
  | range, none =>
    let most := (g.value? 'n').bind number?
    let extra := if g.has 'e' then none else g.operands[if g.has 'i' then 0 else 1]?
    if g.has 'e' && g.has 'i' then
      complainOfUse (Text.bytes "cannot combine -e and -i options")
      return 1
    else
      match extra with
      | some word =>
        complainOfUse (Text.bytes "extra operand " ++ Quoted.curly word)
        return 1
      | none =>
        let ending := Lines.ending g
        let path := g.operands.headD [byte '-']
        let read ← match range with
          | some (some (low, high)) =>
            pure (.ok ((List.range (high + 1 - low)).map fun n => decimal (low + n)))
          | _ =>
            if g.has 'e' then pure (.ok g.operands)
            else do
              match ← Inputs.load path with
              | .ok data => pure (.ok (Lines.texts ending data))
              | .error fault => pure (.error fault : Except Fault (List Bytes))
        match read with
        | .error fault =>
          complainOf path fault
          return 1
        | .ok lines =>
          let chosen := if g.has 'r' then (List.replicate (most.getD 0) lines).flatten else lines
          let text := ((most.map chosen.take).getD chosen).flatMap (· ++ [ending])
          match g.value? 'o' with
          | none => put text
          | some path =>
            let _ ← Inputs.store path text false
          return 0

end Sorted

end LineShell.Host
