import LineShell.Userland.Script.Syntax

/-!
# Arithmetic in scripts

Expressions over whole numbers of 64 bits, in which variables may be set. `Arithmetic.parse` reads an expression or says
what is wrong with it (`ArithmeticFault`), `Arithmetic.value` computes it; what a variable holds, and how a failure is
met, is up to the caller.
-/

namespace LineShell.Host.Script

/-- An arithmetic expression. -/
inductive Arithmetic
  | number (n : Int64)
  | variable (name : Bytes)
  | unary (sign : Char) (operand : Arithmetic)
  | binary (sign : String) (left right : Arithmetic)
  | choice (condition yes no : Arithmetic)
  /-- Set a variable, to a value or by an operation with the value it has. -/
  | assign (name : Bytes) (sign : String) (value : Arithmetic)
deriving DecidableEq, Repr

/-- What is wrong with an expression. -/
inductive ArithmeticFault
  | operandExpected
  | closeExpected
  | colonExpected
  | endExpected
  | division
deriving DecidableEq, Repr

def ArithmeticFault.text : ArithmeticFault → String
  | operandExpected => "expecting primary"
  | closeExpected => "expecting ')'"
  | colonExpected => "expecting ':'"
  | endExpected => "expecting EOF"
  | division => "division by zero"

namespace Arithmetic

/-! ## Reading -/

/-- The operators, and how tightly they bind; those that others start with come later. -/
def operators : List (String × Nat) :=
  [("||", 1), ("&&", 2), ("<<", 8), (">>", 8), ("==", 6), ("!=", 6), ("<=", 7), (">=", 7), ("|", 3), ("^", 4), ("&", 5),
    ("<", 7), (">", 7), ("+", 9), ("-", 9), ("*", 10), ("/", 10), ("%", 10)]

/-- The operators that set a variable, longest first. -/
def settings : List String :=
  ["<<=", ">>=", "+=", "-=", "*=", "/=", "%=", "&=", "|=", "^=", "="]

def skipBlanks (text : Bytes) : Bytes :=
  text.dropWhile fun b => b = byte ' ' || b = byte '\t' || b = newline

/-- The text behind a sign. -/
def after? (sign : String) (text : Bytes) : Option Bytes :=
  let sign := Text.bytes sign
  if sign.isPrefixOf text then some (text.drop sign.length) else none

/-- The operator that a text starts with. -/
def operator? (text : Bytes) : Option (String × Nat × Bytes) :=
  operators.findSome? fun (sign, level) => (after? sign text).map fun rest => (sign, level, rest)

/-- A sign that sets a variable; a comparison is none. -/
def setting? (text : Bytes) : Option (String × Bytes) :=
  if (after? "==" text).isSome then none
  else settings.findSome? fun sign => (after? sign text).map fun rest => (sign, rest)

/-- A number to the base that it is written in. -/
def literal? (text : Bytes) : Option (Nat × Bytes) :=
  let digit (b : UInt8) : Option Nat :=
    if isDigit b then some (b - byte '0').toNat
    else if byte 'a' ≤ b && b ≤ byte 'f' then some ((b - byte 'a').toNat + 10)
    else if byte 'A' ≤ b && b ≤ byte 'F' then some ((b - byte 'A').toNat + 10)
    else none
  let read (base : Nat) (text : Bytes) : Nat × Bytes :=
    let fits (b : UInt8) : Bool := (digit b).any (· < base)
    ((text.takeWhile fits).foldl (fun n b => n * base + (digit b).getD 0) 0, text.dropWhile fits)
  match text with
  | 48 :: x :: b :: rest =>
    if (x = byte 'x' || x = byte 'X') && (digit b).isSome then some (read 16 (b :: rest)) else some (read 8 text)
  | 48 :: _ => some (read 8 text)
  | b :: _ => if isDigit b then some (read 10 text) else none
  | [] => none

/-- The number that saturates where a word is too small for it. -/
def ofNat (n : Nat) : Int64 :=
  Int64.ofNat (min n 0x7fffffffffffffff)

mutual

/-- An expression that may set a variable. -/
def setter (fuel : Nat) (text : Bytes) : Except ArithmeticFault (Arithmetic × Bytes) :=
  match fuel with
  | 0 => .error .operandExpected
  | fuel + 1 =>
    let text := skipBlanks text
    let name := text.takeWhile isNameByte
    match (if isName name then setting? (skipBlanks (text.drop name.length)) else none) with
    | some (sign, rest) => (setter fuel rest).map fun (value, rest) => (.assign name sign value, rest)
    | none => chooser fuel text

/-- An expression that may choose. -/
def chooser (fuel : Nat) (text : Bytes) : Except ArithmeticFault (Arithmetic × Bytes) :=
  match fuel with
  | 0 => .error .operandExpected
  | fuel + 1 => do
    let (first, rest) ← operand fuel text
    let (condition, rest) ← joined fuel 1 first rest
    match after? "?" (skipBlanks rest) with
    | none => return (condition, rest)
    | some rest =>
      let (yes, rest) ← setter fuel rest
      match after? ":" (skipBlanks rest) with
      | none => .error .colonExpected
      | some rest =>
        let (no, rest) ← chooser fuel rest
        return (.choice condition yes no, rest)

/-- Join operands to one on the left, as long as the operators bind at least as tightly as `level`. -/
def joined (fuel level : Nat) (left : Arithmetic) (text : Bytes) : Except ArithmeticFault (Arithmetic × Bytes) :=
  match fuel with
  | 0 => .error .operandExpected
  | fuel + 1 =>
    match operator? (skipBlanks text) with
    | none => .ok (left, text)
    | some (sign, tightness, rest) =>
      if tightness < level then .ok (left, text)
      else do
        let (next, rest) ← operand fuel rest
        let (right, rest) ← joined fuel (tightness + 1) next rest
        joined fuel level (.binary sign left right) rest

/-- A number, a variable, an operand with a sign, or an expression in parentheses. -/
def operand (fuel : Nat) (text : Bytes) : Except ArithmeticFault (Arithmetic × Bytes) :=
  match fuel with
  | 0 => .error .operandExpected
  | fuel + 1 =>
    let text := skipBlanks text
    match text with
    | [] => .error .operandExpected
    | b :: rest =>
      let c := Char.ofNat b.toNat
      if c = '(' then do
        let (inner, rest) ← setter fuel rest
        match after? ")" (skipBlanks rest) with
        | some rest => return (inner, rest)
        | none => .error .closeExpected
      else if ['+', '-', '!', '~'].contains c then
        (operand fuel rest).map fun (inner, rest) => (.unary c inner, rest)
      else if isNameStart b then
        let name := text.takeWhile isNameByte
        .ok (.variable name, text.drop name.length)
      else
        match literal? text with
        | some (n, rest) => .ok (.number (ofNat n), rest)
        | none => .error .operandExpected

end

/-- Read an expression. An empty one is zero. -/
def parse (text : Bytes) : Except ArithmeticFault Arithmetic :=
  if (skipBlanks text).isEmpty then .ok (.number 0)
  else
    match setter (4 * text.length + 8) text with
    | .ok (e, rest) => if (skipBlanks rest).isEmpty then .ok e else .error .endExpected
    | .error fault => .error fault

/-- The number that a value of a variable writes, with its sign. -/
def ofValue? (text : Bytes) : Option Int64 :=
  let text := skipBlanks text
  let negative := text.head? = some (byte '-')
  let unsigned := if negative || text.head? = some (byte '+') then text.tail else text
  if text.isEmpty then some 0
  else
    match literal? unsigned with
    | some (n, rest) =>
      if (skipBlanks rest).isEmpty then some (if negative then -(ofNat n) else ofNat n) else none
    | none => none

/-! ## Computing -/

def ofTruth (holds : Bool) : Int64 :=
  if holds then 1 else 0

/-- The value of an operator; nothing can be divided by zero. -/
def apply (sign : String) (a b : Int64) : Option Int64 :=
  match sign with
  | "|" => some (a ||| b)
  | "^" => some (a ^^^ b)
  | "&" => some (a &&& b)
  | "==" => some (ofTruth (a == b))
  | "!=" => some (ofTruth (a != b))
  | "<" => some (ofTruth (a < b))
  | "<=" => some (ofTruth (a ≤ b))
  | ">" => some (ofTruth (b < a))
  | ">=" => some (ofTruth (b ≤ a))
  | "<<" => some (a <<< b)
  | ">>" => some (a >>> b)
  | "+" => some (a + b)
  | "-" => some (a - b)
  | "*" => some (a * b)
  | "/" => if b = 0 then none else some (a / b)
  | "%" => if b = 0 then none else some (a % b)
  | _ => none

/-- The value of an expression, by what is known of variables and what is done on a failure. -/
def value {m : Type → Type} [Monad m] (look : Bytes → m Int64) (set : Bytes → Int64 → m Unit) (fail : m Int64) :
    Arithmetic → m Int64
  | .number n => pure n
  | .variable name => look name
  | .unary sign e => do
    let n ← value look set fail e
    match sign with
    | '-' => return -n
    | '!' => return ofTruth (n == 0)
    | '~' => return ~~~n
    | _ => return n
  | .binary sign left right => do
    let a ← value look set fail left
    if sign = "||" && a != 0 then return 1
    else if sign = "&&" && a == 0 then return 0
    else
      let b ← value look set fail right
      if sign = "||" || sign = "&&" then return ofTruth (b != 0)
      else
        match apply sign a b with
        | some n => return n
        | none => fail
  | .choice condition yes no => do
    if (← value look set fail condition) != 0 then value look set fail yes else value look set fail no
  | .assign name sign e => do
    let n ← value look set fail e
    if sign = "=" then
      set name n
      return n
    else
      match apply (String.ofList sign.toList.dropLast) (← look name) n with
      | some n =>
        set name n
        return n
      | none => fail

end Arithmetic

end LineShell.Host.Script
