import LineShell.Userland.Regex.Expression

/-!
# Reading expressions

Expressions are written in the basic form, where the signs for groups, bounds and choices are escaped, or in the
extended form, where they are not.

- `Regex.read` reads an expression of either form (`RegexForm`), or says what is wrong with it (`RegexFault`).
-/

namespace LineShell.Host

/-- How an expression is written, and what is done about signs that make no sense. -/
structure RegexForm where
  /-- Signs have their meaning without a backslash. -/
  extended : Bool := false
  /-- Of the signs of which that could be said, those for repetitions have their meaning without a backslash, the
  others with one, and there are no bounds. -/
  mixed : Bool := false
  /-- A sign that cannot mean anything stands for itself where possible. -/
  lenient : Bool := false
  /-- What is repeated already cannot be repeated by a star or by bounds. -/
  once : Bool := false
  /-- A dot, or a set given by what is not in it, holds no newline, and lines end at newlines. -/
  byLines : Bool := false
  /-- A class without its outer brackets is taken for a mistake. -/
  checksClasses : Bool := false
deriving DecidableEq, Repr

/-- What is wrong with an expression. -/
inductive RegexFault
  | expression
  | collation
  | className
  | backslashAtEnd
  | reference
  | bracket
  | parenthesis
  | brace
  | bounds
  | range
  | tooBig
  | nothingToRepeat
  | closing
  | bareClass
  /-- Something that only one form has. -/
  | other (text : String)
deriving DecidableEq, Repr

def RegexFault.text : RegexFault → String
  | expression => "Invalid regular expression"
  | collation => "Invalid collation character"
  | className => "Invalid character class name"
  | backslashAtEnd => "Trailing backslash"
  | reference => "Invalid back reference"
  | bracket => "Unmatched [, [^, [:, [., or [="
  | parenthesis => "Unmatched ( or \\("
  | brace => "Unmatched \\\x7b"
  | bounds => "Invalid content of \\\x7b\\\x7d"
  | range => "Invalid range end"
  | tooBig => "Regular expression too big"
  | nothingToRepeat => "Invalid preceding regular expression"
  | closing => "Unmatched ) or \\)"
  | bareClass => "character class syntax is [[:space:]], not [:space:]"
  | other text => text

/-- The number of an ASCII character, as a symbol. -/
def symbolOf (c : Char) : Symbol :=
  c.toNat

namespace Regex

/-! ## Sets -/

/-- One end of a range in a set, or a whole class. -/
inductive SetPart
  | symbol (x : Symbol)
  | named (name : String)
deriving DecidableEq, Repr

/-- The name in a set that ends before a sign and a bracket, and what follows. -/
def bracketName (sign : Symbol) : List Symbol → List Symbol → Option (List Symbol × List Symbol)
  | name, x :: y :: rest =>
    if x = sign && y = symbolOf ']' then some (name.reverse, rest) else bracketName sign (x :: name) (y :: rest)
  | _, _ => none

/-- One part of a set. -/
def readPart : List Symbol → Except RegexFault (SetPart × List Symbol)
  | [] => .error .bracket
  | x :: rest =>
    match rest with
    | sign :: more =>
      if x = symbolOf '[' && [symbolOf ':', symbolOf '=', symbolOf '.'].contains sign then
        match bracketName sign [] more with
        | none => .error .bracket
        | some (name, rest) =>
          if sign = symbolOf ':' then
            let name := String.ofList (name.map Char.ofNat)
            if Symbol.classNames.contains name then .ok (.named name, rest) else .error .className
          else
            match name with
            | [y] => .ok (.symbol y, rest)
            | _ => .error .collation
      else .ok (.symbol x, rest)
    | [] => .ok (.symbol x, rest)

/-- The members of a set up to the bracket that closes it. `fuel` is more than the length. -/
def readMembers (first : Bool) (members : List SetMember) : (fuel : Nat) → List Symbol →
    Except RegexFault (List SetMember × List Symbol)
  | 0, _ | _, [] => .error .bracket
  | fuel + 1, text@(x :: rest) => do
    if x = symbolOf ']' && !first then return (members.reverse, rest)
    let (low, rest) ← readPart text
    match rest with
    | dash :: next :: _ =>
      if dash = symbolOf '-' && next != symbolOf ']' then
        let (high, rest) ← readPart rest.tail
        match low, high with
        | .symbol a, .symbol b =>
          if b < a then throw .range else readMembers false (.range a b :: members) fuel rest
        | _, _ => throw .range
      else alone low rest fuel
    | _ => alone low rest fuel
where
  alone (part : SetPart) (rest : List Symbol) (fuel : Nat) : Except RegexFault (List SetMember × List Symbol) :=
    match part with
    | .symbol a => readMembers false (.range a a :: members) fuel rest
    | .named name => readMembers false (.named true name :: members) fuel rest

/-- Whether the inside of brackets looks like a class that lacks brackets of its own. -/
def isBareClass (text : List Symbol) : Bool :=
  let inside := text.takeWhile (· != symbolOf ']')
  let isLetter (x : Symbol) : Bool := x != symbolOf ':' && x != symbolOf '['
  2 < inside.length && inside.length < text.length && inside.head? = some (symbolOf ':') &&
    inside.getLast? = some (symbolOf ':') && (inside.tail.dropLast).all isLetter

/-- A set, from behind the bracket that opens it. -/
def readSet (form : RegexForm) (text : List Symbol) : Except RegexFault (Regex × List Symbol) := do
  if text.isEmpty then throw .expression
  let negated := text.head? = some (symbolOf '^')
  let text := if negated then text.tail else text
  let (members, rest) ← readMembers true [] (text.length + 1) text
  if form.checksClasses && isBareClass text then throw .bareClass
  let members := if negated && form.byLines then .range 10 10 :: members else members
  return (.one { negated := negated, members := members }, rest)

/-! ## Signs -/

/-- A sign of an expression. -/
inductive RegexSign
  | opening
  | closing
  | bar
  | star
  | plus
  | optional
  | bounds
  | start
  | finish
  | any
  | set
  | edge (e : Edge)
  | again (number : Nat)
  | members (set : SymbolSet)
  | symbol (x : Symbol)
deriving DecidableEq, Repr

/-- The sign that a letter behind a backslash is, in every form. -/
def escaped (x : Symbol) : RegexSign :=
  let named (inside : Bool) (name : String) : RegexSign := .members { members := [.named inside name] }
  if symbolOf '1' ≤ x && x ≤ symbolOf '9' then .again (x - symbolOf '0')
  else
    match Char.ofNat x with
    | 'w' => named true "word"
    | 'W' => .members { negated := true, members := [.named true "word"] }
    | 's' => named true "space"
    | 'S' => .members { negated := true, members := [.named true "space"] }
    | 'b' => .edge .wordEdge
    | 'B' => .edge .noWordEdge
    | '<' => .edge .wordStart
    | '>' => .edge .wordEnd
    | '\x60' => .edge .textStart
    | '\'' => .edge .textEnd
    | _ => .symbol x

/-- The sign that has its meaning only escaped, or only bare. -/
def operator? (x : Symbol) : Option RegexSign :=
  match Char.ofNat x with
  | '(' => some .opening
  | ')' => some .closing
  | '|' => some .bar
  | '+' => some .plus
  | '?' => some .optional
  | '\x7b' => some .bounds
  | _ => none

/-- Whether a sign asks for a repetition. -/
def RegexSign.repeats : RegexSign → Bool
  | .star | .plus | .optional | .bounds => true
  | _ => false

/-- The sign that a letter is, with a backslash in front or without. -/
def operatorIn? (form : RegexForm) (backslash : Bool) (x : Symbol) : Option RegexSign :=
  (operator? x).bind fun sign =>
    if form.mixed then (if sign != .bounds && sign.repeats != backslash then some sign else none)
    else if form.extended != backslash then some sign
    else none

/-- The next sign and what follows; `fresh` tells whether an expression starts here. -/
def nextSign (form : RegexForm) (fresh : Bool) : List Symbol → Except RegexFault (Option (RegexSign × List Symbol))
  | [] => .ok none
  | x :: rest =>
    let sign (s : RegexSign) : Except RegexFault (Option (RegexSign × List Symbol)) := .ok (some (s, rest))
    match Char.ofNat x with
    | '\\' =>
      match rest with
      | [] => .error .backslashAtEnd
      | y :: rest =>
        match operatorIn? form true y with
        | some s => .ok (some (s, rest))
        | none => .ok (some (escaped y, rest))
    | '*' => sign .star
    | '.' => sign .any
    | '[' => sign .set
    | '^' => sign (if form.extended || fresh then .start else .symbol x)
    | '$' =>
      let closes := match rest with
        | [] => true
        | 92 :: y :: _ => y = symbolOf ')' || y = symbolOf '|'
        | _ => false
      sign (if form.extended || closes then .finish else .symbol x)
    | _ =>
      match operatorIn? form false x with
      | some s => sign s
      | none => sign (.symbol x)

/-! ## Repetitions -/

/-- The most repetitions that may be asked for. -/
def repeatLimit : Nat := 0x7fff

/-- Digits as a number, `none` where there are none; anything else is wrong. -/
def readBound (text : List Symbol) : Option (Option Nat) :=
  if text.isEmpty then some none
  else if text.all Symbol.isDigit then some (some (text.foldl (fun n x => min (n * 10 + (x - 48)) (repeatLimit + 1)) 0))
  else none

/-- The bounds of a repetition, from behind the brace that opens them; `none` if they stand for themselves. -/
def readBounds (form : RegexForm) (text : List Symbol) : Except RegexFault (Option (Nat × Option Nat × List Symbol)) :=
  let closing (text : List Symbol) : Bool :=
    if form.extended then text.head? = some (symbolOf '\x7d')
    else text.take 2 = [symbolOf '\\', symbolOf '\x7d']
  let rec upTo : List Symbol → List Symbol × List Symbol
    | [] => ([], [])
    | x :: rest =>
      if closing (x :: rest) || x = symbolOf ',' then ([], x :: rest)
      else let (before, after) := upTo rest; (x :: before, after)
  let (first, rest) := upTo text
  let hasComma := rest.head? = some (symbolOf ',')
  let (second, rest) := if hasComma then upTo rest.tail else (first, rest)
  let after := rest.drop (if form.extended then 1 else 2)
  let literal (fault : RegexFault) : Except RegexFault (Option (Nat × Option Nat × List Symbol)) :=
    if form.extended && form.lenient then .ok none else .error fault
  match readBound first, readBound second with
  | some least, some most =>
    if rest.isEmpty then literal .brace
    else if least.isNone && !hasComma then .error .bounds
    else if !closing rest then .error .bounds
    else
      let least := least.getD 0
      if most.any (· < least) then .error .bounds
      else if repeatLimit < most.getD least then .error .tooBig
      else .ok (some (least, most, after))
  | _, _ => literal (if rest.isEmpty then .brace else .bounds)

/-- The repetitions behind an expression. `fuel` is more than the length. -/
def readRepeats (form : RegexForm) (again : Bool) (body : Regex) : (fuel : Nat) → List Symbol →
    Except RegexFault (Regex × List Symbol)
  | 0, text => .ok (body, text)
  | fuel + 1, text => do
    match text with
    | [92] => return (body, text)
    | _ =>
      let goOn (least : Nat) (most : Option Nat) (rest : List Symbol) : Except RegexFault (Regex × List Symbol) :=
        readRepeats form true (.repeated true body least most) fuel rest
      let refused := form.once && !form.extended && again
      match ← nextSign form false text with
      | some (.star, rest) => if refused then throw .nothingToRepeat else goOn 0 none rest
      | some (.plus, rest) => goOn 1 none rest
      | some (.optional, rest) => goOn 0 (some 1) rest
      | some (.bounds, rest) =>
        if refused then throw .nothingToRepeat
        else
          match ← readBounds form rest with
          | some (least, most, rest) => goOn least most rest
          | none => return (body, text)
      | _ => return (body, text)

/-! ## Expressions -/

/-- The groups that were opened so far, those that are closed, and the signs that were pointless. -/
structure RegexReading where
  opened : Nat := 0
  closed : List Nat := []
  pointless : List String := []

/-- What a sign of repetition is called. -/
def RegexSign.shown : RegexSign → String
  | .star => "*"
  | .plus => "+"
  | .optional => "?"
  | _ => "\x7b...\x7d"

/-- Go on reading behind `branch`. `fresh` tells whether an expression starts here; an expression in a group ends before
the sign that closes it. `fuel` is more than the length. -/
def readFrom (form : RegexForm) (inside fresh : Bool) (reading : RegexReading) (branch : Regex) :
    (fuel : Nat) → List Symbol → Except RegexFault (Regex × RegexReading × List Symbol)
  | 0, _ => .error .expression
  | fuel + 1, text => do
    let goOn (reading : RegexReading) (atom : Regex) (rest : List Symbol) :
        Except RegexFault (Regex × RegexReading × List Symbol) := do
      let (piece, rest) ← readRepeats form false atom (rest.length + 1) rest
      readFrom form inside false reading (branch.andThen piece) fuel rest
    let edge (e : Edge) (rest : List Symbol) : Except RegexFault (Regex × RegexReading × List Symbol) :=
      readFrom form inside true reading (branch.andThen (.edge e)) fuel rest
    match ← nextSign form fresh text with
    | none => if inside then throw .parenthesis else return (branch, reading, [])
    | some (sign, rest) =>
      match sign with
      | .closing =>
        if inside then return (branch, reading, text)
        else if form.extended && form.lenient then goOn reading (literal (symbolOf ')')) rest
        else throw .closing
      | .opening =>
        let number := reading.opened + 1
        let (body, inner, rest) ← readFrom form true true { reading with opened := number } .empty fuel rest
        match ← nextSign form false rest with
        | some (.closing, rest) =>
          goOn { inner with closed := number :: inner.closed } (.group number body) rest
        | _ => throw .parenthesis
      | .bar =>
        let (other, reading, rest) ← readFrom form inside true reading .empty fuel rest
        return (.either branch other, reading, rest)
      | .start => edge (if form.byLines then .lineStart else .textStart) rest
      | .finish => edge (if form.byLines then .lineEnd else .textEnd) rest
      | .edge e => edge e rest
      | .any => goOn reading (.one (.all !form.byLines)) rest
      | .set =>
        let (set, rest) ← readSet form rest
        goOn reading set rest
      | .members set => goOn reading (.one set) rest
      | .symbol x => goOn reading (literal x) rest
      | .again number =>
        if reading.closed.contains number then goOn reading (.again number) rest else throw .reference
      | .star | .plus | .optional | .bounds =>
        if !fresh then
          -- Bounds that stand for themselves
          goOn reading (literal (symbolOf '\x7b')) rest
        else if form.extended then
          if !form.lenient then throw .nothingToRepeat
          else
            let isPlain ← if sign = .bounds then (·.isNone) <$> readBounds form rest else pure false
            if isPlain then goOn reading (literal (symbolOf '\x7b')) rest
            else
              let (piece, rest) ← readRepeats form false .empty (text.length + 1) text
              readFrom form inside false { reading with pointless := reading.pointless ++ [sign.shown] }
                (branch.andThen piece) fuel rest
        else if sign = .bounds && form.once then throw .nothingToRepeat
        else
          let x := match sign with
            | .star => '*'
            | .plus => '+'
            | .optional => '?'
            | _ => '\x7b'
          goOn reading (literal (symbolOf x)) rest

/-- Read an expression: what it is, and the signs in it that are pointless. -/
def readAll (form : RegexForm) (text : List Symbol) : Except RegexFault (Regex × List String) := do
  let (r, reading, _) ← readFrom form false true {} .empty (2 * text.length + 2) text
  return (r, reading.pointless)

/-- Read an expression. -/
def read (form : RegexForm) (text : Bytes) : Except RegexFault Regex :=
  (readAll form (Symbols.ofBytes text)).map (·.1)

end Regex

end LineShell.Host
