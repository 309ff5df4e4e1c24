import LineShell.Userland.Utility.Print

/-!
# Conditions

`test` and `[`: conditions on texts, numbers and files, with `!`, `-a`, `-o` and parentheses.

- `Condition.value` reads a condition off its words and says whether it holds, or what is wrong with it
  (`ConditionFault`), which is status 2.
-/

namespace LineShell.Host

/-- What is wrong with the words of a condition. -/
inductive ConditionFault
  | operatorUnexpected (word : Bytes)
  | operandMissing (operator : Bytes)
  | closeMissing
  | bracketMissing
  | noNumber (word : Bytes)
deriving DecidableEq, Repr

namespace Condition

/-- Whether `test` is part of the command interpreter or a program. -/
inductive Kind
  | builtin
  | program
deriving DecidableEq, Repr

/-! ## Operators -/

/-- Whether a file is as a letter says. -/
def ofFile (s : Scene) (letter : Char) (path : Bytes) : Bool :=
  let node := s.find? path
  let hasMode (bits : Nat) : Bool := node.any fun n => n.mode &&& bits != 0
  match letter with
  | 'd' => node.any Node.isDir
  | 'f' => node.any fun
      | .file .. | .tool _ | .report _ => true
      | _ => false
  | 's' => node.any fun n => n.isDir || n.size != 0
  | 'x' => node.any fun n => n.isDir || n.isExecutable
  | 'h' | 'L' => (s.disk.findLast? s.dir path).any Node.isLink
  | 'c' => node.any fun
      | .device _ => true
      | _ => false
  | 'p' => node.any fun
      | .fifo .. => true
      | _ => false
  | 'u' => hasMode 0x800
  | 'g' => hasMode 0x400
  | 'k' => hasMode 0x200
  | 'b' | 'S' => false
  | _ => node.isSome

/-- The letters that ask for something about one word. -/
def unaryLetters : List Char :=
  "rwxefdcbpugkstznhOGLS".toList

/-- The operators between two words. -/
def binaryOperators (kind : Kind) : List String :=
  ["=", "!=", "<", ">", "-eq", "-ne", "-ge", "-gt", "-le", "-lt", "-nt", "-ot", "-ef"] ++
    if kind = .program then ["=="] else []

/-- What a word is, if it is an operator. -/
inductive Operator
  | unary (letter : Char)
  | binary (name : String)
  | negation
  | conjunction
  | disjunction
  | opening
  | closing
deriving DecidableEq, Repr

/-- The operator that a word is. -/
def operator? (kind : Kind) (word : Bytes) : Option Operator :=
  match letters word with
  | ['!'] => some .negation
  | ['('] => some .opening
  | [')'] => some .closing
  | ['-', 'a'] => some .conjunction
  | ['-', 'o'] => some .disjunction
  | chars =>
    let name := String.ofList chars
    if (binaryOperators kind).contains name then some (.binary name)
    else
      match chars with
      | ['-', letter] => if unaryLetters.contains letter then some (.unary letter) else none
      | _ => none

def isBinary (kind : Kind) (word : Bytes) : Bool :=
  match operator? kind word with
  | some (.binary _) => true
  | _ => false

/-- The operator that the first of some words is there. A word that could be one about one word is none if it is the
last, or stands before an operator between two. -/
def leading? (kind : Kind) (words : List Bytes) : Option Operator :=
  match words with
  | [] => none
  | word :: rest =>
    match operator? kind word with
    | some (.unary letter) =>
      match rest with
      | [] => none
      | [_] => some (.unary letter)
      | next :: _ => if isBinary kind next then none else some (.unary letter)
    | some .opening => if rest.isEmpty then none else some .opening
    | other => other

/-- A number with blanks around it. -/
def numberOf (word : Bytes) : Except ConditionFault Int :=
  let isBlank (b : UInt8) : Bool := b = byte ' ' || (9 ≤ b && b ≤ 13)
  match Print.integer? (((word.dropWhile isBlank).reverse.dropWhile isBlank).reverse) with
  | some n => .ok n
  | none => .error (.noNumber word)

/-- When a file was last changed. -/
def stamp? (s : Scene) (path : Bytes) : Option Int :=
  (s.disk.locate? s.dir path).map fun place => s.disk.stampOf place.id

/-- Whether a condition on two words holds. -/
def between (kind : Kind) (s : Scene) (left : Bytes) (name : String) (right : Bytes) : Except ConditionFault Bool :=
  let numbers (holds : Int → Int → Bool) : Except ConditionFault Bool := do
    return holds (← numberOf left) (← numberOf right)
  match name with
  | "=" | "==" => .ok (left == right)
  | "!=" => .ok (left != right)
  | "<" => .ok (decide (left < right))
  | ">" => .ok (decide (right < left))
  | "-eq" => numbers fun a b => a == b
  | "-ne" => numbers fun a b => a != b
  | "-ge" => numbers fun a b => b ≤ a
  | "-gt" => numbers fun a b => b < a
  | "-le" => numbers fun a b => a ≤ b
  | "-lt" => numbers fun a b => a < b
  | "-ef" =>
    .ok (match s.disk.locate? s.dir left, s.disk.locate? s.dir right with
      | some a, some b => a.id == b.id
      | _, _ => false)
  | _ =>
    let (first, second) := if name = "-nt" then (left, right) else (right, left)
    .ok (match stamp? s first, stamp? s second with
      | some a, some b => b < a
      | some _, none => kind = .program
      | _, _ => false)

/-- Whether a condition on one word holds. -/
def about (s : Scene) (letter : Char) (word : Bytes) : Except ConditionFault Bool :=
  match letter with
  | 'n' => .ok (!word.isEmpty)
  | 'z' => .ok word.isEmpty
  | 't' => (numberOf word).map fun _ => false
  | _ => .ok (ofFile s letter word)

/-! ## Reading

Each function answers with the words from the last one it used on. -/

mutual

/-- Conditions of which one has to hold. -/
def either (fuel : Nat) (kind : Kind) (s : Scene) (words : List Bytes) : Except ConditionFault (Bool × List Bytes) :=
  match fuel with
  | 0 => .ok (false, words)
  | fuel + 1 => do
    let (first, words) ← both fuel kind s words
    if leading? kind words.tail = some .disjunction then
      let (second, words) ← either fuel kind s (words.drop 2)
      return (first || second, words)
    else return (first, words)

/-- Conditions of which all have to hold. -/
def both (fuel : Nat) (kind : Kind) (s : Scene) (words : List Bytes) : Except ConditionFault (Bool × List Bytes) :=
  match fuel with
  | 0 => .ok (false, words)
  | fuel + 1 => do
    let (first, words) ← one fuel kind s (leading? kind words) words
    if leading? kind words.tail = some .conjunction then
      let (second, words) ← both fuel kind s (words.drop 2)
      return (first && second, words)
    else return (first, words)

/-- One condition, perhaps reversed. -/
def one (fuel : Nat) (kind : Kind) (s : Scene) (lead : Option Operator) (words : List Bytes) :
    Except ConditionFault (Bool × List Bytes) :=
  match fuel with
  | 0 => .ok (false, words)
  | fuel + 1 => do
    if lead = some .negation then
      let next := if words.tail.isEmpty then words else words.tail
      let lead := if words.tail.isEmpty then none else leading? kind next
      if words.tail.isEmpty then return (true, words)
      let (holds, words) ← one fuel kind s lead next
      return (!holds, words)
    else primary fuel kind s lead words

/-- One condition that is not reversed. -/
def primary (fuel : Nat) (kind : Kind) (s : Scene) (lead : Option Operator) (words : List Bytes) :
    Except ConditionFault (Bool × List Bytes) :=
  match fuel with
  | 0 => .ok (false, words)
  | fuel + 1 =>
    match words with
    | [] => .ok (false, [])
    | word :: rest =>
      match lead with
      | some .opening =>
        if leading? kind rest = some .closing then .ok (false, rest)
        else do
          let (holds, words) ← either fuel kind s rest
          if leading? kind words.tail != some .closing then .error .closeMissing
          return (holds, words.tail)
      | some (.unary letter) =>
        match rest with
        | [] => .error (.operandMissing word)
        | operand :: _ => (about s letter operand).map fun holds => (holds, rest)
      | _ =>
        match leading? kind rest, rest with
        | some (.binary name), _ :: right :: more =>
          (between kind s word name right).map fun holds => (holds, right :: more)
        | some (.binary name), _ => .error (.operandMissing (Text.bytes name))
        | _, _ => .ok (!word.isEmpty, words)

end

/-- Whether the condition that some words are holds. A condition of up to four words is first looked at as a whole. -/
def value (kind : Kind) (s : Scene) (reversed : Bool) (words : List Bytes) : Except ConditionFault Bool :=
  let fuel := 6 * words.length + 6
  let settled (answer : Bool × List Bytes) : Except ConditionFault Bool :=
    match answer.2 with
    | word :: _ :: _ => .error (.operatorUnexpected word)
    | _ => .ok (answer.1 != reversed)
  match words with
  | [] => .ok reversed
  | first :: more =>
    if words.length = 3 && more.head?.any (isBinary kind) then
      (primary fuel kind s none words).bind settled
    else if words.length = 3 || words.length = 4 then
      if first = [byte '('] && words.getLast? = some [byte ')'] then
        let inner := more.dropLast
        (either fuel kind s inner).bind settled
      else if first = [byte '!'] then value kind s (!reversed) more
      else (either fuel kind s words).bind settled
    else (either fuel kind s words).bind settled
termination_by words.length

end Condition

/-- What is said of a fault. -/
def ConditionFault.text (kind : Condition.Kind) (fault : ConditionFault) : Bytes :=
  match kind, fault with
  | .builtin, .operatorUnexpected word => word ++ Text.bytes ": unexpected operator"
  | .builtin, .operandMissing word => word ++ Text.bytes ": argument expected"
  | .builtin, .closeMissing => Text.bytes "closing paren expected"
  | .builtin, .bracketMissing => Text.bytes "missing ]"
  | .builtin, .noNumber word => Text.bytes "Illegal number: " ++ word
  | .program, .operatorUnexpected word => Text.bytes "extra argument " ++ Quoted.curly word
  | .program, .operandMissing word => Text.bytes "missing argument after " ++ Quoted.curly word
  | .program, .closeMissing => Text.bytes "missing argument after " ++ Quoted.curly [byte '(']
  | .program, .bracketMissing => Text.bytes "missing " ++ Quoted.curly [byte ']']
  | .program, .noNumber word => Text.bytes "invalid integer " ++ Quoted.curly word

namespace Condition

/-- The status of a condition. -/
def status (kind : Kind) (answer : Except ConditionFault Bool) : StateM Scene Nat := do
  match answer with
  | .ok holds => return if holds then 0 else 1
  | .error fault =>
    complain (fault.text kind)
    return 2

/-- The condition after `test`. -/
def test (kind : Kind) : Utility := fun args => do
  status kind (value kind (← get) false args)

/-- The condition between brackets. -/
def bracket (kind : Kind) : Utility := fun args => do
  if args.getLast?.any fun word => word = [byte ']'] then status kind (value kind (← get) false args.dropLast)
  else status kind (.error .bracketMissing)

end Condition

end LineShell.Host
