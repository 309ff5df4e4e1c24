import LineShell.Userland.Regex.Reading

/-!
# Expressions with looking around

The form of expressions in which repetitions may be lazy and an expression may look ahead and back.

- `Regex.readLively` reads an expression of this form.
-/

namespace LineShell.Host

namespace Regex

/-- What was read of a lively expression: the groups opened, the names of groups, and whether the two cases of a letter
are the same. -/
structure LivelyReading where
  opened : Nat := 0
  names : List (List Symbol × Nat) := []
  loose : Bool := false
  dotAll : Bool := false
  byLines : Bool := false
  /-- Blanks and comments mean nothing. -/
  spaced : Bool := false

private def chars (text : List Symbol) : List Char :=
  text.map Char.ofNat

/-- A class that a letter behind a backslash stands for. -/
def livelyClass? (x : Symbol) : Option SymbolSet :=
  let named (name : String) : SymbolSet := { members := [.named true name] }
  let others (name : String) : SymbolSet := { negated := true, members := [.named true name] }
  match Char.ofNat x with
  | 'd' => some (named "digit")
  | 'D' => some (others "digit")
  | 'w' => some (named "word")
  | 'W' => some (others "word")
  | 's' => some (named "space")
  | 'S' => some (others "space")
  | 'h' => some (named "blank")
  | 'H' => some (others "blank")
  | 'v' => some { members := [.range 10 13] }
  | 'V' => some { negated := true, members := [.range 10 13] }
  | 'N' => some (.all false)
  | _ => none

/-- The number that digits to a base write. -/
def numberOf (base : Nat) (text : List Symbol) : Nat :=
  let value (x : Symbol) : Nat := if x < 58 then x - 48 else if x < 91 then x - 55 else x - 87
  text.foldl (fun n x => n * base + value x) 0

private def isHexadecimal (x : Symbol) : Bool :=
  x.isIn "xdigit"

private def isOctal (x : Symbol) : Bool :=
  48 ≤ x && x ≤ 55

/-- The symbol that an escape writes, and what follows it; `none` if it writes none. -/
def livelySymbol? (text : List Symbol) : Option (Symbol × List Symbol) :=
  match text with
  | [] => none
  | x :: rest =>
    match Char.ofNat x with
    | 't' => some (9, rest)
    | 'n' => some (10, rest)
    | 'r' => some (13, rest)
    | 'f' => some (12, rest)
    | 'e' => some (27, rest)
    | 'a' => some (7, rest)
    | '0' =>
      let digits := (text.take 3).takeWhile isOctal
      some (numberOf 8 digits, text.drop digits.length)
    | 'x' =>
      match rest with
      | 123 :: more =>
        let digits := more.takeWhile isHexadecimal
        some (numberOf 16 digits, more.drop (digits.length + 1))
      | _ =>
        let digits := (rest.take 2).takeWhile isHexadecimal
        some (numberOf 16 digits, rest.drop digits.length)
    | _ => if x.isAlphanumeric then none else some (x, rest)

/-- One end of a range in a set, or a whole class. -/
def readLivelyPart (text : List Symbol) : Except RegexFault (List SetMember × List Symbol) :=
  match text with
  | 92 :: x :: rest =>
    match livelyClass? x with
    | some set =>
      .ok (set.members.map fun
        | .named inside name => .named (inside != set.negated) name
        | member => member, rest)
    | none =>
      if x = symbolOf 'b' then .ok ([.range 8 8], rest)
      else
        match livelySymbol? (x :: rest) with
        | some (y, rest) => .ok ([.range y y], rest)
        | none => .error (.other "unrecognized character follows \\")
  | _ =>
    match readPart text with
    | .ok (.symbol x, rest) => .ok ([.range x x], rest)
    | .ok (.named name, rest) => .ok ([.named true name], rest)
    | .error .className => .error (.other "unknown POSIX class name")
    | .error _ => .error (.other "missing terminating ] for character class")

/-- The members of a set up to the bracket that closes it. -/
def readLivelyMembers (first : Bool) (members : List SetMember) : (fuel : Nat) → List Symbol →
    Except RegexFault (List SetMember × List Symbol)
  | 0, _ | _, [] => .error (.other "missing terminating ] for character class")
  | fuel + 1, text@(x :: rest) => do
    if x = symbolOf ']' && !first then return (members.reverse, rest)
    let (low, rest) ← readLivelyPart text
    match low, rest with
    | [.range a _], dash :: next :: more =>
      if dash = symbolOf '-' && next != symbolOf ']' then
        match ← readLivelyPart (next :: more) with
        | ([.range b _], rest) =>
          if b < a then throw (.other "range out of order in character class")
          else readLivelyMembers false (.range a b :: members) fuel rest
        | (high, rest) => readLivelyMembers false (high ++ .range dash dash :: low ++ members) fuel rest
      else readLivelyMembers false (low ++ members) fuel rest
    | _, _ => readLivelyMembers false (low ++ members) fuel rest

/-- The bounds that braces hold, and what follows them. -/
def livelyBounds? (text : List Symbol) : Option (Nat × Option Nat × List Symbol) :=
  let first := text.takeWhile Symbol.isDigit
  match first.isEmpty, text.drop first.length with
  | false, 125 :: rest => some (numberOf 10 first, some (numberOf 10 first), rest)
  | false, 44 :: rest =>
    let second := rest.takeWhile Symbol.isDigit
    match rest.drop second.length with
    | 125 :: rest => some (numberOf 10 first, if second.isEmpty then none else some (numberOf 10 second), rest)
    | _ => none
  | _, _ => none

/-- The repetition behind an expression, which may be lazy. -/
def readLivelyRepeat (body : Regex) (text : List Symbol) : Regex × List Symbol :=
  let found : Option (Nat × Option Nat × List Symbol) := match text with
    | 42 :: rest => some (0, none, rest)
    | 43 :: rest => some (1, none, rest)
    | 63 :: rest => some (0, some 1, rest)
    | 123 :: rest => livelyBounds? rest
    | _ => none
  match found with
  | none => (body, text)
  | some (least, most, rest) =>
    match rest with
    | 63 :: rest => (.repeated false body least most, rest)
    | 43 :: rest => (.repeated true body least most, rest)
    | _ => (.repeated true body least most, rest)

/-- What an opening parenthesis opens. -/
inductive LivelyGroup
  | numbered
  | named (name : List Symbol)
  | plain
  | look (ahead negated : Bool)
  /-- Letters that switch something, and whether they hold for a group that starts here. -/
  | switch (on off : List Char) (opens : Bool)
  | comment
deriving DecidableEq, Repr

/-- What follows an opening parenthesis and a question mark. -/
def livelyGroup? (text : List Symbol) : Option (LivelyGroup × List Symbol) :=
  let named (closing : Char) (rest : List Symbol) : Option (LivelyGroup × List Symbol) :=
    let name := rest.takeWhile (· != symbolOf closing)
    some (.named name, rest.drop (name.length + 1))
  match text with
  | 58 :: rest | 62 :: rest | 124 :: rest => some (.plain, rest)
  | 61 :: rest => some (.look true false, rest)
  | 33 :: rest => some (.look true true, rest)
  | 60 :: 61 :: rest => some (.look false false, rest)
  | 60 :: 33 :: rest => some (.look false true, rest)
  | 60 :: rest | 80 :: 60 :: rest => named '>' rest
  | 39 :: rest => named '\'' rest
  | 35 :: rest => some (.comment, rest)
  | _ =>
    let isSwitch (x : Symbol) : Bool := ("imsxnJU".toList.map symbolOf).contains x
    let on := text.takeWhile isSwitch
    let rest := text.drop on.length
    let off := if rest.head? = some 45 then rest.tail.takeWhile isSwitch else []
    let rest := if rest.head? = some 45 then rest.tail.drop off.length else rest
    match rest with
    | 41 :: rest => some (.switch (chars on) (chars off) false, rest)
    | 58 :: rest => some (.switch (chars on) (chars off) true, rest)
    | _ => none

namespace LivelyReading

/-- Switch what letters stand for. -/
def switched (reading : LivelyReading) (letters : List Char) (on : Bool) : LivelyReading :=
  letters.foldl (fun reading c => match c with
    | 'i' => { reading with loose := on }
    | 's' => { reading with dotAll := on }
    | 'm' => { reading with byLines := on }
    | 'x' => { reading with spaced := on }
    | _ => reading) reading

end LivelyReading

/-- The reference that stands behind a backslash, as what follows it and the text with the number or name. -/
def livelyReference? (names : List (List Symbol × Nat)) (text : List Symbol) : Option (Nat × List Symbol) :=
  let byName (closing : Char) (rest : List Symbol) : Option (Nat × List Symbol) :=
    let name := rest.takeWhile (· != symbolOf closing)
    let number := if !name.isEmpty && name.all Symbol.isDigit then some (numberOf 10 name) else names.lookup name
    number.map fun n => (n, rest.drop (name.length + 1))
  match text with
  | 103 :: 123 :: rest => byName '\x7d' rest
  | 107 :: 123 :: rest => byName '\x7d' rest
  | 107 :: 60 :: rest => byName '>' rest
  | 107 :: 39 :: rest => byName '\'' rest
  | 103 :: rest =>
    let digits := rest.takeWhile Symbol.isDigit
    if digits.isEmpty then none else some (numberOf 10 digits, rest.drop digits.length)
  | x :: _ =>
    if 49 ≤ x && x ≤ 57 then
      let digits := text.takeWhile Symbol.isDigit
      some (numberOf 10 digits, text.drop digits.length)
    else none
  | [] => none

/-- Go on reading behind `branch`; an expression in a group ends before the sign that closes it. `fuel` is more than the
length. -/
def readLivelyFrom (inside : Bool) (reading : LivelyReading) (branch : Regex) :
    (fuel : Nat) → List Symbol → Except RegexFault (Regex × LivelyReading × List Symbol)
  | 0, _ => .error .expression
  | fuel + 1, text => do
    let atom (reading : LivelyReading) (body : Regex) (rest : List Symbol) :
        Except RegexFault (Regex × LivelyReading × List Symbol) := do
      let (piece, rest) := readLivelyRepeat body rest
      readLivelyFrom inside reading (branch.andThen piece) fuel rest
    let group (reading : LivelyReading) (wrap : Regex → Regex) (rest : List Symbol) :
        Except RegexFault (Regex × LivelyReading × List Symbol) := do
      let (body, inner, rest) ← readLivelyFrom true reading .empty fuel rest
      match rest with
      | 41 :: rest =>
        let (piece, rest) := readLivelyRepeat (wrap body) rest
        readLivelyFrom inside { inner with dotAll := reading.dotAll, byLines := reading.byLines }
          (branch.andThen piece) fuel rest
      | _ => throw (.other "missing closing parenthesis")
    match text with
    | [] => if inside then throw (.other "missing closing parenthesis") else return (branch, reading, [])
    | x :: rest =>
      match Char.ofNat x with
      | ')' => if inside then return (branch, reading, text) else throw (.other "unmatched closing parenthesis")
      | '|' =>
        let (other, reading, rest) ← readLivelyFrom inside reading .empty fuel rest
        return (.either branch other, reading, rest)
      | '(' =>
        let numbered (names : List (List Symbol × Nat)) (rest : List Symbol) :
            Except RegexFault (Regex × LivelyReading × List Symbol) :=
          let number := reading.opened + 1
          group { reading with opened := number, names := names } (.group number) rest
        match rest with
        | 63 :: rest =>
          match livelyGroup? rest with
          | none => throw (.other "unrecognized character after (? or (?-")
          | some (.named name, rest) => numbered ((name, reading.opened + 1) :: reading.names) rest
          | some (.look ahead negated, rest) =>
            if !ahead then
              let (body, _, _) ← readLivelyFrom true reading .empty fuel rest
              if !body.hasFixedBranches then throw (.other "lookbehind assertion is not fixed length")
            group reading (.look ahead negated) rest
          | some (.switch on off opens, rest) =>
            let changed := (reading.switched on true).switched off false
            if opens then group changed id rest else readLivelyFrom inside changed branch fuel rest
          | some (.comment, rest) =>
            readLivelyFrom inside reading branch fuel ((rest.dropWhile (· != symbolOf ')')).drop 1)
          | some (_, rest) => group reading id rest
        | _ => numbered reading.names rest
      | '*' | '+' | '?' => throw (.other "quantifier does not follow a repeatable item")
      | '.' => atom reading (.one (.all reading.dotAll)) rest
      | '^' => atom reading (.edge (if reading.byLines then .lineStart else .textStart)) rest
      | '$' => atom reading (.edge (if reading.byLines then .lineEnd else .lastLineEnd)) rest
      | '[' =>
        let negated := rest.head? = some (symbolOf '^')
        let rest := if negated then rest.tail else rest
        let (members, rest) ← readLivelyMembers true [] (rest.length + 1) rest
        atom reading (.one { negated := negated, members := members }) rest
      | '\\' =>
        match rest with
        | [] => throw (.other "\\ at end of pattern")
        | y :: after =>
          match livelyClass? y with
          | some set => atom reading (.one set) after
          | none =>
            match Char.ofNat y with
            | 'b' => atom reading (.edge .wordEdge) after
            | 'B' => atom reading (.edge .noWordEdge) after
            | 'A' | 'G' => atom reading (.edge .textStart) after
            | 'z' => atom reading (.edge .textEnd) after
            | 'Z' => atom reading (.edge .lastLineEnd) after
            | 'K' => atom reading .restart after
            | 'E' => readLivelyFrom inside reading branch fuel after
            | 'R' => atom reading (.either (ofText [13, 10]) (.one { members := [.range 10 13] })) after
            | 'Q' =>
              let rec quoted : List Symbol → List Symbol × List Symbol
                | 92 :: 69 :: rest => ([], rest)
                | x :: rest => let (before, after) := quoted rest; (x :: before, after)
                | [] => ([], [])
              let (symbols, after) := quoted after
              match symbols.getLast? with
              | some last =>
                readLivelyFrom inside reading (branch.andThen (ofText symbols.dropLast)) fuel
                  (92 :: 120 :: 123 :: ((Nat.toDigits 16 last).map symbolOf ++ 125 :: after))
              | none => readLivelyFrom inside reading branch fuel after
            | _ =>
              match livelyReference? reading.names rest with
              | some (n, after) =>
                if n = 0 || reading.opened < n then throw (.other "reference to non-existent subpattern")
                else atom reading (.again n) after
              | none =>
                match livelySymbol? rest with
                | some (z, after) => atom reading (literal z) after
                | none => throw (.other "unrecognized character follows \\")
      | _ =>
        if reading.spaced && x.isSpace then readLivelyFrom inside reading branch fuel rest
        else if reading.spaced && x = symbolOf '#' then
          readLivelyFrom inside reading branch fuel (rest.dropWhile (· != 10))
        else atom reading (literal x) rest

/-- Read a lively expression, and whether the two cases of a letter are the same in it. -/
def readLively (text : Bytes) : Except RegexFault (Regex × Bool) := do
  let symbols := Symbols.ofBytes text
  let (r, reading, _) ← readLivelyFrom false {} .empty (2 * symbols.length + 20) symbols
  return (r, reading.loose)

end Regex

end LineShell.Host
