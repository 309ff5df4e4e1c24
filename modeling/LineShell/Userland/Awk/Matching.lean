import LineShell.Userland.Regex.Fitting
import LineShell.Userland.Utility.Print

/-!
# Expressions for texts

How expressions are written here: signs have their meaning without a backslash, there are no bounds, and a text is its
bytes, none of which are taken together.

- `Matching.read` reads an expression, or says what is wrong with it (`MatchFault`);
- `Matching.find` is where one fits, `Matching.replace` puts a text in the place of what one fits.
-/

namespace LineShell.Host.Awk

/-- What is wrong with an expression. -/
inductive MatchFault
  | operandMissing
  | closingMissing
  | badClass
deriving DecidableEq, Repr

def MatchFault.text : MatchFault → String
  | operandMissing => "missing operand"
  | closingMissing => "missing ')'"
  | badClass => "bad class -- [], [^] or ["

namespace Matching

/-! ## Symbols -/

/-- The bytes beyond ASCII are symbols from here on, which are in no class. -/
def upperBase : Nat := 0xe000

/-- The symbol of a byte. -/
def symbolOfByte (b : UInt8) : Symbol :=
  if b < 0x80 then b.toNat else upperBase + b.toNat

/-- The symbols of a text. -/
def symbols (text : Bytes) : Array Symbol :=
  (text.map symbolOfByte).toArray

/-- The byte that stands behind a backslash, and the rest. -/
def unescape (rest : Bytes) : UInt8 × Bytes :=
  match rest with
  | [] => (byte '\\', [])
  | b :: more =>
    let octal := (rest.takeWhile Print.isOctal).take 3
    if !octal.isEmpty then (UInt8.ofNat (Print.octal octal), rest.drop octal.length)
    else
      match ([('a', 7), ('b', 8), ('f', 12), ('n', 10), ('r', 13), ('t', 9), ('v', 11)] : List (Char × UInt8)).lookup
        (Char.ofNat b.toNat) with
      | some code => (code, more)
      | none => (b, more)

/-! ## Reading -/

/-- The name of a class that starts here, and what follows. -/
def className? (rest : Bytes) : Option (String × Bytes) :=
  match rest with
  | 58 :: more =>
    let name := more.takeWhile fun b => byte 'a' ≤ b && b ≤ byte 'z'
    if (more.drop name.length).take 2 = Text.bytes ":]" then
      some (String.ofList (letters name), more.drop (name.length + 2))
    else none
  | _ => none

/-- The members of a set up to the bracket that closes it. `fuel` is more than the length. -/
def readMembers (first : Bool) (members : List SetMember) : (fuel : Nat) → Bytes →
    Except MatchFault (List SetMember × Bytes)
  | 0, _ | _, [] => .error .badClass
  | fuel + 1, b :: rest =>
    if b = byte ']' && !first then .ok (members, rest)
    else
      match if b = byte '[' then className? rest else none with
      | some (name, rest) =>
        if Symbol.classNames.contains name then readMembers false (.named true name :: members) fuel rest
        else .error .badClass
      | none =>
        let (low, rest) := if b = byte '\\' then unescape rest else (b, rest)
        let single := SetMember.range (symbolOfByte low) (symbolOfByte low)
        match rest with
        | 45 :: c :: more =>
          if c = byte ']' then readMembers false (single :: members) fuel rest
          else
            let (high, more) := if c = byte '\\' then unescape more else (c, more)
            let range := SetMember.range (symbolOfByte low) (symbolOfByte high)
            readMembers false (range :: members) fuel more
        | _ => readMembers false (single :: members) fuel rest

/-- The signs of repetition behind an expression. -/
def readRepeats (r : Regex) : Bytes → Regex × Bytes
  | [] => (r, [])
  | b :: rest =>
    match Char.ofNat b.toNat with
    | '*' => readRepeats (.repeated true r 0 none) rest
    | '+' => readRepeats (.repeated true r 1 none) rest
    | '?' => readRepeats (.repeated true r 0 (some 1)) rest
    | _ => (r, b :: rest)

/-- Go on reading behind `branch`; `begun` tells whether there is something in the branch. `fuel` is more than twice the
length. -/
def readFrom (depth : Nat) (begun : Bool) (branch : Regex) : (fuel : Nat) → Bytes → Except MatchFault (Regex × Bytes)
  | 0, _ => .error .operandMissing
  | fuel + 1, text => do
    let goOn (r : Regex) (rest : Bytes) : Except MatchFault (Regex × Bytes) :=
      let (piece, rest) := readRepeats r rest
      readFrom depth true (branch.andThen piece) fuel rest
    let set (negated : Bool) (rest : Bytes) : Except MatchFault (Regex × Bytes) := do
      let (members, rest) ← readMembers true [] (rest.length + 1) rest
      goOn (.one { negated := negated, members := members }) rest
    match text with
    | [] =>
      if depth != 0 then throw .closingMissing
      else if begun then return (branch, [])
      else throw .operandMissing
    | b :: rest =>
      match Char.ofNat b.toNat with
      | ')' =>
        if depth = 0 then goOn (Regex.literal (symbolOfByte b)) rest
        else if begun then return (branch, rest)
        else throw .operandMissing
      | '(' =>
        let (body, rest) ← readFrom (depth + 1) false .empty fuel rest
        goOn (.group 1 body) rest
      | '|' =>
        if !begun then throw .operandMissing
        else
          let (other, rest) ← readFrom depth false .empty fuel rest
          return (.either branch other, rest)
      | '*' | '+' | '?' => if begun then goOn (Regex.literal (symbolOfByte b)) rest else throw .operandMissing
      | '.' => goOn (.one (.all true)) rest
      | '^' => readFrom depth true (branch.andThen (.edge .textStart)) fuel rest
      | '$' => readFrom depth true (branch.andThen (.edge .textEnd)) fuel rest
      | '[' => if rest.head? = some (byte '^') then set true rest.tail else set false rest
      | '\\' =>
        let (c, rest) := unescape rest
        goOn (Regex.literal (symbolOfByte c)) rest
      | _ => goOn (Regex.literal (symbolOfByte b)) rest

/-- Read an expression. An empty one fits the empty text. -/
def read (text : Bytes) : Except MatchFault Matcher :=
  if text.isEmpty then .ok { regex := .empty }
  else do
    let (r, _) ← readFrom 0 false .empty (2 * text.length + 2) text
    return { regex := r }

/-! ## Fitting -/

/-- Where an expression fits first: the longest fit there, from where to where. -/
def find (m : Matcher) (text : Bytes) : Option (Nat × Nat) :=
  (m.find (symbols text) 0).map fun fit => (fit.start, fit.stop)

/-- Whether an expression fits somewhere. -/
def occurs (m : Matcher) (text : Bytes) : Bool :=
  m.occurs (symbols text)

/-- The pieces of a text between what an expression fits; an empty fit does not separate. `left` bounds their number. -/
def separated (m : Matcher) (all : Array Symbol) (text : Bytes) (place : Nat) : (left : Nat) → List Bytes
  | 0 => [text]
  | left + 1 =>
    match m.find all place with
    | some fit =>
      if fit.stop = fit.start then
        /- Look again behind this place. -/
        match m.find all (fit.start + 1) with
        | some fit =>
          if fit.stop = fit.start then [text] else cut fit left
        | none => [text]
      else cut fit left
    | none => [text]
where
  cut (fit : RegexMatch) (left : Nat) : List Bytes :=
    text.take (fit.start - place) :: separated m all (text.drop (fit.stop - place)) fit.stop left

/-- A text cut at what an expression fits. -/
def split (m : Matcher) (text : Bytes) : List Bytes :=
  separated m (symbols text) text 0 text.length

/-- A replacement with what was fitted in the place of each `&`. Of backslashes in front of one, each pair is one, and
one that is left over takes away the meaning. -/
def replacement (fitted : Bytes) : (fuel : Nat) → Bytes → Bytes
  | 0, _ | _, [] => []
  | fuel + 1, b :: rest =>
    if b = byte '&' then fitted ++ replacement fitted fuel rest
    else if b = byte '\\' then
      let slashes := (b :: rest).takeWhile (· = byte '\\')
      let after := (b :: rest).drop slashes.length
      if after.head? = some (byte '&') then
        let kept := List.replicate (slashes.length / 2) (byte '\\')
        if slashes.length % 2 = 1 then kept ++ byte '&' :: replacement fitted fuel after.tail
        else kept ++ replacement fitted fuel after
      else slashes ++ replacement fitted fuel after
    else b :: replacement fitted fuel rest

/-- Go on replacing from a place; `hot` tells that something was fitted just in front of it. -/
def replaceFrom (m : Matcher) (all : Array Symbol) (by_ : Bytes → Bytes) (place : Nat) (hot : Bool) (count : Nat) :
    (left : Nat) → Bytes → Bytes × Nat
  | 0, text => (text, count)
  | left + 1, text =>
    match m.find all place with
    | none => (text, count)
    | some fit =>
      let before := text.take (fit.start - place)
      let fitted := (text.drop before.length).take (fit.stop - fit.start)
      let rest := text.drop (before.length + fitted.length)
      if fitted.isEmpty then
        let here := if hot && fit.start = place then [] else by_ []
        let n := if hot && fit.start = place then count else count + 1
        match rest with
        | [] => (before ++ here, n)
        | b :: rest =>
          let (more, n) := replaceFrom m all by_ (fit.stop + 1) false n left rest
          (before ++ here ++ b :: more, n)
      else
        let (more, n) := replaceFrom m all by_ fit.stop true (count + 1) left rest
        (before ++ by_ fitted ++ more, n)

/-- Put a replacement in the place of what an expression fits, everywhere or once, and say how often. -/
def replace (m : Matcher) (everywhere : Bool) (by_ text : Bytes) : Bytes × Nat :=
  let filled (fitted : Bytes) : Bytes := replacement fitted (by_.length + 1) by_
  if everywhere then replaceFrom m (symbols text) filled 0 false 0 (text.length + 2) text
  else
    match find m text with
    | some (start, stop) =>
      (text.take start ++ filled ((text.drop start).take (stop - start)) ++ text.drop stop, 1)
    | none => (text, 0)

end Matching

end LineShell.Host.Awk
