import LineShell.Userland.Regex.Fitting
import LineShell.Userland.Regex.Reading
import LineShell.Userland.Utility.Inputs
import LineShell.Userland.Utility.Print

/-!
# Formulas

`expr` works out a formula of which each number, text and sign is a word of its own. From the loosest, signs bind so:
`|`, `&`, comparisons, sums, products, and `:`, which fits an expression to the start of a text.

- `Formula.level` reads and works out what binds at least as tightly as a level, or says what is wrong (`FormulaFault`).
-/

namespace LineShell.Host

/-- What is wrong with a formula. -/
inductive FormulaFault
  | missingAfter (word : Bytes)
  | unexpected (word : Bytes)
  /-- A parenthesis is not closed: behind a word, or in front of one. -/
  | openAfter (word : Bytes)
  | openBefore (word : Bytes)
  | closing
  | noNumber
  | divisionByZero
  | expression (fault : RegexFault)
deriving DecidableEq, Repr

def FormulaFault.text : FormulaFault → Bytes
  | missingAfter word => Text.bytes "syntax error: missing argument after " ++ Quoted.curly word
  | unexpected word => Text.bytes "syntax error: unexpected argument " ++ Quoted.curly word
  | openAfter word => Text.bytes "syntax error: expecting ')' after " ++ Quoted.curly word
  | openBefore word => Text.bytes "syntax error: expecting ')' instead of " ++ Quoted.curly word
  | closing => Text.bytes "syntax error: unexpected ')'"
  | noNumber => Text.bytes "non-integer argument"
  | divisionByZero => Text.bytes "division by zero"
  | expression fault => Text.bytes fault.text

namespace Formula

/-- What a formula comes to. -/
inductive Computed
  | number (n : Int)
  | text (t : Bytes)
deriving DecidableEq, Repr

instance : Inhabited Computed := ⟨.number 0⟩

namespace Computed

/-- The whole number that a text is; a minus sign may be in front. -/
def whole? : Computed → Option Int
  | number n => some n
  | text t => if t.head? = some (byte '+') then none else Print.integer? t

def shown : Computed → Bytes
  | number n => Print.ofInteger n
  | text t => t

/-- Whether something counts as false: no text, or nothing but zeros. -/
def isNull : Computed → Bool
  | number n => n = 0
  | text t =>
    let digits := if t.head? = some (byte '-') then t.tail else t
    t.isEmpty || (!digits.isEmpty && digits.all (· = byte '0'))

end Computed

/-- The words that are left, and the one that was read last. -/
structure Rest where
  words : List Bytes
  last : Bytes := []

/-- Reading a formula. -/
abbrev Reading := StateT Rest (Except FormulaFault)

/-- Go past the word at hand if it is one of some signs. -/
def accept (signs : List String) : Reading (Option String) := do
  let rest ← get
  match rest.words with
  | word :: words =>
    match signs.find? fun sign => Text.bytes sign = word with
    | some sign =>
      set { rest with words := words, last := word }
      return some sign
    | none => return none
  | [] => return none

/-- Go past a word that must be there. -/
def word : Reading Bytes := do
  let rest ← get
  match rest.words with
  | w :: words =>
    set { rest with words := words, last := w }
    return w
  | [] => throw (.missingAfter rest.last)

/-! ## Signs -/

/-- Fit an expression to the start of a text: what its group fits, or how much it fits. -/
def fit (t pattern : Bytes) : Except FormulaFault Computed :=
  match Regex.read {} pattern with
  | .error fault => .error (.expression (if fault = .bracket then .expression else fault))
  | .ok r =>
    let symbols := (Symbols.ofBytes t).toArray
    .ok (match Matcher.fitAt { regex := r } symbols 0 with
      | none => if r.groupCount = 0 then .number 0 else .text []
      | some found =>
        if r.groupCount = 0 then .number (found.stop - found.start : Nat)
        else
          match found.groups.lookup 1 with
          | some (start, stop) => .text (Symbols.bytes ((symbols.toList.drop start).take (stop - start)))
          | none => .text [])

def compareWith (sign : String) (order : Ordering) : Bool :=
  match sign with
  | "<" => order == .lt
  | "<=" => order != .gt
  | "=" | "==" => order == .eq
  | "!=" => order != .eq
  | ">=" => order != .lt
  | _ => order == .gt

/-- The order of texts, by their bytes. -/
def order : Bytes → Bytes → Ordering
  | [], [] => .eq
  | [], _ => .lt
  | _, [] => .gt
  | a :: as, b :: bs => if a < b then .lt else if b < a then .gt else order as bs

/-- What a sign makes of two numbers. -/
def calculate (sign : String) (a b : Int) : Except FormulaFault Int :=
  match sign with
  | "+" => .ok (a + b)
  | "-" => .ok (a - b)
  | "*" => .ok (a * b)
  | "/" => if b = 0 then .error .divisionByZero else .ok (a.tdiv b)
  | _ => if b = 0 then .error .divisionByZero else .ok (a.tmod b)

/-- What a sign between two values makes of them. -/
def combine (sign : String) (a b : Computed) : Except FormulaFault Computed := do
  if sign == ":" then fit a.shown b.shown
  else if ["<", "<=", "=", "==", "!=", ">=", ">"].contains sign then
    let order := match a.whole?, b.whole? with
      | some m, some n => compare m n
      | _, _ => order a.shown b.shown
    return .number (if compareWith sign order then 1 else 0)
  else
    match a.whole?, b.whole? with
    | some m, some n => return .number (← calculate sign m n)
    | _, _ => throw .noNumber

/-- The signs of a level. -/
def signsOf : (level : Nat) → List String
  | 0 => ["|"]
  | 1 => ["&"]
  | 2 => ["<", "<=", "=", "==", "!=", ">=", ">"]
  | 3 => ["+", "-"]
  | 4 => ["*", "/", "%"]
  | _ => [":"]

/-- The part of a text from a place on, counted from one. -/
def part (t : Bytes) (place size : Computed) : Computed :=
  match place.whole?, size.whole? with
  | some place, some size =>
    if place ≤ 0 || size ≤ 0 then .text []
    else .text (Symbols.bytes (((Symbols.ofBytes t).drop (place.toNat - 1)).take size.toNat))
  | _, _ => .text []

/-- Where the first of some characters is in a text, counted from one. -/
def position (t characters : Bytes) : Computed :=
  let sought := Symbols.ofBytes characters
  match (Symbols.ofBytes t).findIdx? sought.contains with
  | some n => .number (n + 1 : Nat)
  | none => .number 0

mutual

/-- What binds at least as tightly as a level. Unless it `works`, nothing is worked out. -/
def level : (fuel : Nat) → (n : Nat) → (works : Bool) → Reading Computed
  | 0, _, _ => throw .closing
  | fuel + 1, n, works => do
    if 5 < n then named fuel works
    else
      let first ← level fuel (n + 1) works
      levelFrom fuel n works first

/-- What follows the first value of a level. -/
def levelFrom : (fuel : Nat) → (n : Nat) → (works : Bool) → Computed → Reading Computed
  | 0, _, _, _ => throw .closing
  | fuel + 1, n, works, left => do
    match ← accept (signsOf n) with
    | none => return left
    | some "|" =>
      let right ← level fuel (n + 1) (works && left.isNull)
      let value := if !left.isNull then left else if right.isNull then .number 0 else right
      levelFrom fuel n works value
    | some "&" =>
      let right ← level fuel (n + 1) (works && !left.isNull)
      levelFrom fuel n works (if left.isNull || right.isNull then .number 0 else left)
    | some sign =>
      let right ← level fuel (n + 1) works
      let value ← if works then combine sign left right else pure left
      levelFrom fuel n works value

/-- A value, or one that a name in front of others asks for. -/
def named : (fuel : Nat) → (works : Bool) → Reading Computed
  | 0, _ => throw .closing
  | fuel + 1, works => do
    match ← accept ["+", "length", "match", "index", "substr"] with
    | some "+" => return .text (← word)
    | some "length" =>
      let t ← named fuel works
      return .number (Symbols.ofBytes t.shown).length
    | some "match" =>
      let t ← named fuel works
      let pattern ← named fuel works
      if works then fit t.shown pattern.shown else return t
    | some "index" =>
      let t ← named fuel works
      return position t.shown (← named fuel works).shown
    | some _ =>
      let t ← named fuel works
      let place ← named fuel works
      return part t.shown place (← named fuel works)
    | none =>
      if (← get).words.isEmpty then throw (.missingAfter (← get).last)
      else if (← accept ["("]).isSome then
        let value ← level fuel 0 works
        match (← get).words with
        | [] => throw (.openAfter (← get).last)
        | next :: _ =>
          if (← accept [")"]).isNone then throw (.openBefore next)
          return value
      else if (← accept [")"]).isSome then throw .closing
      else return .text (← word)

end

/-- What a formula comes to. -/
def value (words : List Bytes) : Except FormulaFault Computed := do
  let (value, rest) ← (level (16 * words.length + 16) 0 true).run { words := words }
  match rest.words with
  | [] => return value
  | word :: _ => throw (.unexpected word)

/-- Prints what a formula comes to. -/
def expr : Utility := fun args => do
  let words := if args.head? = some (Text.bytes "--") then args.tail else args
  if words.isEmpty then missingOperand 2
  else
    match value words with
    | .ok value =>
      putLine value.shown
      return if value.isNull then 1 else 0
    | .error fault =>
      complain fault.text
      return 2

end Formula

end LineShell.Host
