import LineShell.Userland.Awk.Draft

/-!
# Reading expressions and statements

`Parser.expr` reads an expression, `Parser.statement` a statement.

Operators bind, from the loosest: choosing, or, and, `in`, matching, comparing, putting together, sums, products, signs,
reading from a command, powers. Only what stands where an operand begins can be assigned to.
-/

namespace LineShell.Host.Awk

namespace Parser

/-! ## Expressions for texts -/

/-- Read an expression for texts. -/
def matcher (text : Bytes) : Parsing Matcher := do
  match Matching.read text with
  | .ok m => return m
  | .error fault =>
    object (Text.bytes ("regular expression compile failed (" ++ fault.text ++ ")\n") ++ text)
    return { regex := .empty }

/-- What a text is matched against, if it is known already. -/
def asPattern : Expr → Parsing Expr
  | .text text => return .regex (← matcher text)
  | e => return e

/-- What separates the pieces of a text: one byte stands for itself. -/
def asSeparator : Expr → Parsing Expr
  | .text text => if text.length ≤ 1 then return .text text else return .regex (← matcher text)
  | e => return e

/-! ## Expressions -/

/-- The operations that stand between two operands of sums, products and powers. -/
def operation? : Lexeme → Option (Operation × Nat)
  | .sign "+" => some (.add, 1)
  | .sign "-" => some (.subtract, 1)
  | .sign "*" => some (.multiply, 2)
  | .sign "/" => some (.divide, 2)
  | .sign "%" => some (.remainder, 2)
  | .sign "^" => some (.power, 5)
  | _ => none

/-- The ways of assigning; the plain one has no operation. -/
def assignment? : Lexeme → Option (Option Operation)
  | .sign "=" => some none
  | .sign "+=" => some (some .add)
  | .sign "-=" => some (some .subtract)
  | .sign "*=" => some (some .multiply)
  | .sign "/=" => some (some .divide)
  | .sign "%=" => some (some .remainder)
  | .sign "^=" => some (some .power)
  | _ => none

/-- The ways of comparing. Where something is printed, some of them mean another thing. -/
def comparison? (printing : Bool) : Lexeme → Option Comparison
  | .sign "<" => some .less
  | .sign "<=" => some .atMost
  | .sign "==" => some .equal
  | .sign "!=" => some .unequal
  | .sign ">" => if printing then none else some .greater
  | .sign ">=" => if printing then none else some .atLeast
  | _ => none

/-- Whether an operand can begin with a token, so that it is put behind the one before. -/
def startsOperand : Lexeme → Bool
  | .number .. | .string _ | .regex _ | .name .. | .builtin _ => true
  | .keyword name => name == "getline"
  | .sign text => ["(", "$", "!", "++", "--"].contains text
  | _ => false

/-- Whether a place belongs to the record. Such a place may stand in parentheses and be assigned to all the same. -/
def isOfRecord : Place → Bool
  | .field _ => true
  | .named s => s == .whole Special.fieldCount
  | .element .. => false

/-- A place, with what may stand behind it: it is counted up or down. -/
def counted (place : Place) : Parsing Expr := do
  if ← accept "++" then return .count false true place
  else if ← accept "--" then return .count false false place
  else return .get place

mutual

/-- An expression of operators that bind at least as tightly as a level. `printing` tells that what follows may say
where something is printed. -/
def expr : (fuel : Nat) → (printing : Bool) → (level : Nat) → Parsing Expr
  | 0, _, _ => refuse
  | fuel + 1, printing, level => do
    let isGroup ← isAt "("
    let first ← sum fuel printing 1
    match first, assignment? (← peek) with
    | .get place, some operation =>
      if isGroup && !isOfRecord place then refuse
      advance
      let e ← expr fuel printing 0
      return match operation with
        | none => .assign place e
        | some o => .update o place e
    | _, _ =>
      let operand ← concatenation fuel printing first
      exprFrom fuel printing level operand

/-- What follows the first operand of an expression. -/
def exprFrom : (fuel : Nat) → (printing : Bool) → (level : Nat) → Expr → Parsing Expr
  | 0, _, _, _ => refuse
  | fuel + 1, printing, level, left => do
    let token ← peek
    let goOn (e : Expr) : Parsing Expr := exprFrom fuel printing level e
    match comparison? printing token with
    | some c =>
      if level ≤ 5 then
        advance
        goOn (.compare c left (← expr fuel printing 6))
      else return left
    | none =>
      match token with
      | .sign "?" =>
        if level ≤ 0 then
          advance
          let yes ← expr fuel printing 0
          expect ":"
          goOn (.choose left yes (← expr fuel printing 0))
        else return left
      | .sign "||" =>
        if level ≤ 1 then
          advance
          goOn (.either left (← expr fuel printing 2))
        else return left
      | .sign "&&" =>
        if level ≤ 2 then
          advance
          goOn (.both left (← expr fuel printing 3))
        else return left
      | .keyword "in" =>
        if level ≤ 3 then
          advance
          goOn (.isIn [left] (← variableAt .table))
        else return left
      | .sign "~" | .sign "!~" =>
        if level ≤ 4 then
          let negated ← isAt "!~"
          advance
          let pattern ← asPattern (← expr fuel printing 5)
          goOn (.matches_ negated left pattern)
        else return left
      | _ => return left

/-- Operands behind each other. -/
def concatenation : (fuel : Nat) → (printing : Bool) → Expr → Parsing Expr
  | 0, _, _ => refuse
  | fuel + 1, printing, left => do
    if startsOperand (← peek) then
      concatenation fuel printing (.concat left (← sum fuel printing 1))
    else return left

/-- Sums and all that binds tighter. -/
def sum : (fuel : Nat) → (printing : Bool) → (level : Nat) → Parsing Expr
  | 0, _, _ => refuse
  | fuel + 1, printing, level => do
    let left ← signed fuel printing
    sumFrom fuel printing level left

/-- What follows the first operand of a sum. -/
def sumFrom : (fuel : Nat) → (printing : Bool) → (level : Nat) → Expr → Parsing Expr
  | 0, _, _, _ => refuse
  | fuel + 1, printing, level, left => do
    let token ← peek
    match operation? token with
    | some (o, strength) =>
      if level ≤ strength then
        advance
        let right ← sum fuel printing (if strength = 5 then 5 else strength + 1)
        sumFrom fuel printing level (.operate o left right)
      else return left
    | none =>
      match token with
      | .sign "|" =>
        if level ≤ 4 && !printing then
          advance
          if !(← isAtWord "getline") then refuse
          advance
          let into ← target fuel
          sumFrom fuel printing level (.readCommand into left)
        else return left
      | _ => return left

/-- An operand with signs in front of it. -/
def signed : (fuel : Nat) → (printing : Bool) → Parsing Expr
  | 0, _ => refuse
  | fuel + 1, printing => do
    match ← peek with
    | .sign "!" =>
      advance
      return .not (← sum fuel printing 3)
    | .sign "-" =>
      advance
      return .negate (← sum fuel printing 3)
    | .sign "+" =>
      advance
      return .plus (← sum fuel printing 3)
    | .sign "++" | .sign "--" =>
      let up ← isAt "++"
      advance
      match ← place? fuel with
      | some place => return .count true up place
      | none => refuse
    | _ =>
      match ← place? fuel with
      | some place => counted place
      | none =>
        match ← simple fuel with
        | .get place => if isOfRecord place then counted place else return .get place
        | e => return e

/-- What can be assigned to, if it is at hand. -/
def place? : (fuel : Nat) → Parsing (Option Place)
  | 0 => refuse
  | fuel + 1 => do
    match ← peek with
    | .sign "$" =>
      advance
      let operand ← match ← peek with
        | .sign "-" | .sign "+" | .sign "!" | .sign "++" | .sign "--" => signed fuel false
        | _ => match ← place? fuel with
          | some place => if isOfRecord place then counted place else pure (.get place)
          | none => simple fuel
      return some (.field operand)
    | .name name calls =>
      let isVariable ← isVariable name
      if !isVariable && (calls || (← function? name).isSome) then return none
      else if let .sign "[" ← peekNext then
        let slot ← slotOf name
        if name = Text.bytes "NF" then
          advance
          refuse
        noteUse name slot .table
        advance
        advance
        let subscripts ← list fuel
        expect "]"
        return some (.element slot subscripts)
      else return some (.named (← variableAt .single))
    | _ => return none

/-- Where a line that is read goes, if that is given. -/
def target : (fuel : Nat) → Parsing (Option Place)
  | 0 => refuse
  | fuel + 1 => place? fuel

/-- Expressions with commas between them. -/
def list : (fuel : Nat) → Parsing (List Expr)
  | 0 => refuse
  | fuel + 1 => do
    let first ← expr fuel false 0
    if ← accept "," then return first :: (← list fuel)
    else return [first]

/-- The arguments of a call, from one on. A variable may be given as it is. -/
def arguments : (fuel : Nat) → (callee index : Nat) → Parsing (List Expr)
  | 0, _, _ => refuse
  | fuel + 1, callee, index => do
    let argument ← match ← bare? with
      | some slot => do
        modify fun d => { d with passes := ⟨d.owner, slot, callee, index⟩ :: d.passes }
        pure (Expr.get (.named slot))
      | none => expr fuel false 0
    if ← accept "," then return argument :: (← arguments fuel callee (index + 1))
    else return [argument]

/-- A variable that is a whole argument. -/
def bare? : Parsing (Option Slot) := do
  match ← peek, ← peekNext with
  | .name name calls, .sign text =>
    let isVariable ← isVariable name
    if (text == "," || text == ")") && (isVariable || (!calls && (← function? name).isNone)) then
      let slot ← slotOf name
      advance
      return some slot
    else return none
  | _, _ => return none

/-- An operand that cannot be assigned to. -/
def simple : (fuel : Nat) → Parsing Expr
  | 0 => refuse
  | fuel + 1 => do
    match ← peek with
    | .number x text =>
      if x == 1 / 0 then object (text ++ Text.bytes " : decimal overflow")
      else if x == 0 && (text.takeWhile fun b => b != byte 'e' && b != byte 'E').any fun b => byte '1' ≤ b then
        object (text ++ Text.bytes " : decimal underflow")
      advance
      return .number x
    | .string text =>
      advance
      return .text text
    | .regex text =>
      let m ← matcher text
      advance
      return .regex m
    | .sign "(" =>
      advance
      let all ← list fuel
      expect ")"
      match all with
      | [e] => return e
      | subscripts =>
        if ← isAtWord "in" then
          advance
          return .isIn subscripts (← variableAt .table)
        else refuse
    | .keyword "getline" =>
      advance
      let into ← target fuel
      if ← accept "<" then return .readFile into (← sum fuel false 5)
      else return .readNext into
    | .name name _ =>
      let n ← line
      let callee ← match ← function? name with
        | some n => pure n
        | none =>
          let d ← get
          set { d with functions := d.functions.push { name := name } }
          pure d.functions.size
      advance
      expect "("
      let args ← if ← isAt ")" then pure [] else arguments fuel callee 0
      expect ")"
      modify fun d => { d with calls := (callee, n, args.length) :: d.calls }
      return .call callee args
    | .builtin name =>
      advance
      application fuel name
    | _ => refuse

/-- A function that every program has, with its arguments. -/
def application : (fuel : Nat) → String → Parsing Expr
  | 0, _ => refuse
  | fuel + 1, name => do
    match name with
    | "length" =>
      if ← accept "(" then
        if ← accept ")" then return .builtin .length []
        else
          let e ← match ← bare? with
            | some slot => pure (.get (.named slot))
            | none => expr fuel false 0
          expect ")"
          return .builtin .length [e]
      else return .builtin .length []
    | "split" =>
      expect "("
      let e ← expr fuel false 0
      expect ","
      let table ← variableAt .table
      if ← accept "," then
        let separator ← asSeparator (← expr fuel false 0)
        expect ")"
        return .split e table (some separator)
      else
        expect ")"
        return .split e table none
    | "match" =>
      expect "("
      let e ← expr fuel false 0
      expect ","
      let pattern ← asPattern (← expr fuel false 0)
      expect ")"
      return .locate e pattern
    | "sub" | "gsub" =>
      expect "("
      let pattern ← asPattern (← expr fuel false 0)
      expect ","
      let by_ ← expr fuel false 0
      let place ← if ← accept "," then do
          match ← place? fuel with
          | some place => pure place
          | none => refuse
        else pure (.field (.number 0))
      expect ")"
      return .substitute (name == "gsub") pattern by_ place
    | _ =>
      expect "("
      let args ← if ← isAt ")" then pure [] else list fuel
      match Builtin.all.lookup name with
      | some (b, least, most) =>
        if args.length < least || most < args.length then
          object (Text.bytes ("wrong number of arguments in call to " ++ name))
        expect ")"
        return .builtin b args
      | none => refuse

end

/-! ## Statements -/

/-- Expressions in parentheses, if nothing but the place to print to follows them. -/
def group? (fuel : Nat) : Parsing (Option (List Expr)) := do
  let before ← get
  let attempt : Parsing (Option (List Expr)) := do
    expect "("
    let all ← if ← isAt ")" then pure [] else list fuel
    expect ")"
    match ← peek with
    | .newline | .semicolon _ => return some all
    | .sign text => return if [">", ">>", "|"].contains text then some all else none
    | _ => return none
  let found ← tryCatch attempt fun _ => pure none
  if found.isNone then set before
  return found

/-- Expressions to be printed, with commas between them. -/
def printed : (fuel : Nat) → Parsing (List Expr)
  | 0 => refuse
  | fuel + 1 => do
    let first ← expr fuel true 0
    if ← accept "," then return first :: (← printed fuel)
    else return [first]

/-- What is printed, and where. -/
def printing (fuel : Nat) : Parsing (List Expr × Output) := do
  let args ← match ← peek with
    | .newline | .semicolon _ => pure []
    | .sign "(" =>
      match ← group? fuel with
      | some all => pure all
      | none => printed fuel
    | .sign text => if [">", ">>", "|"].contains text then pure [] else printed fuel
    | _ => printed fuel
  /- The sign is taken for the one that says where to print, with another one behind it. -/
  if ← isAt ">=" then
    modify fun d => { d with tokens := match d.tokens with
      | t :: rest => { t with lexeme := .sign "=" } :: rest
      | [] => [] }
    refuse
  let output ←
    if ← accept ">" then pure (Output.file false (← expr fuel false 0))
    else if ← accept ">>" then pure (Output.file true (← expr fuel false 0))
    else if ← accept "|" then pure (Output.command (← expr fuel false 0))
    else pure Output.standard
  return (args, output)

/-- Go past all tokens up to the end of a statement. -/
def recover : (fuel : Nat) → Parsing Unit
  | 0 => return
  | fuel + 1 => do
    match ← peek with
    | .finish => throw ()
    | .newline | .semicolon _ => advance
    | _ =>
      advance
      recover fuel

/-- Read the body of a loop. -/
def inLoop (body : Parsing Stmt) : Parsing Stmt := do
  modify fun d => { d with loops := d.loops + 1 }
  let s ← body
  modify fun d => { d with loops := d.loops - 1 }
  return s

/-- Whether a name, `in`, a name and a parenthesis are at hand. -/
def isWalk : Parsing Bool := do
  match (← get).tokens.take 4 |>.map Token.lexeme with
  | [.name .., .keyword word, .name .., .sign text] => return word == "in" && text == ")"
  | _ => return false

mutual

/-- A statement. -/
def statement : (fuel : Nat) → Parsing Stmt
  | 0 => refuse
  | fuel + 1 => do
    match ← peek with
    | .sign "\x7b" =>
      advance
      statements fuel
    | .newline | .semicolon _ =>
      advance
      return .nothing
    | .keyword word => worded fuel word
    | _ =>
      let e ← expr fuel false 0
      separator
      return .evaluate e

/-- Statements up to the brace that closes them. One with a fault is left out. -/
def statements : (fuel : Nat) → Parsing Stmt
  | 0 => refuse
  | fuel + 1 => do
    if ← accept "\x7d" then return .nothing
    else
      match ← peek with
      | .finish => refuse
      | _ =>
        let first ← tryCatch (statement fuel) fun _ => do
          recover (← get).tokens.length
          return .nothing
        return .sequence first (← statements fuel)

/-- A statement that begins with a keyword. -/
def worded : (fuel : Nat) → String → Parsing Stmt
  | 0, _ => refuse
  | fuel + 1, word => do
    let single (s : Stmt) : Parsing Stmt := do
      advance
      separator
      return s
    let condition : Parsing Expr := do
      expect "("
      let c ← expr fuel false 0
      expect ")"
      return c
    let value? : Parsing (Option Expr) := do
      advance
      match ← peek with
      | .newline | .semicolon _ => return none
      | _ => return some (← expr fuel false 0)
    match word with
    | "if" =>
      advance
      let c ← condition
      skipNewlines
      let yes ← statement fuel
      if ← isAtWord "else" then
        advance
        skipNewlines
        return .ifElse c yes (← statement fuel)
      else return .ifElse c yes .nothing
    | "while" =>
      advance
      let c ← condition
      skipNewlines
      return .loop c .nothing (← inLoop (statement fuel)) false
    | "do" =>
      advance
      skipNewlines
      let body ← inLoop (statement fuel)
      if !(← isAtWord "while") then refuse
      advance
      let c ← condition
      separator
      return .loop c .nothing body true
    | "for" =>
      advance
      expect "("
      if ← isWalk then
        let place ← variableAt .single
        advance
        let table ← variableAt .table
        expect ")"
        skipNewlines
        return .forEach (.named place) table (← inLoop (statement fuel))
      else
        let part : Parsing (Option Expr) := do
          match ← peek with
          | .semicolon true =>
            advance
            return none
          | _ =>
            let e ← expr fuel false 0
            match ← peek with
            | .semicolon true =>
              advance
              return some e
            | _ => refuse
        let start ← part
        let c ← part
        let step ← if ← isAt ")" then pure none else some <$> expr fuel false 0
        expect ")"
        skipNewlines
        let body ← inLoop (statement fuel)
        let effect (e : Option Expr) : Stmt := match e with
          | some e => .evaluate e
          | none => .nothing
        return .sequence (effect start) (.loop (c.getD (.number 1)) (effect step) body false)
    | "break" =>
      if (← get).loops = 0 then object (Text.bytes "break statement outside of loop")
      single .leave
    | "continue" =>
      if (← get).loops = 0 then object (Text.bytes "continue statement outside of loop")
      single .again
    | "next" =>
      if !(← get).isRule then object (Text.bytes "improper use of next")
      single .next
    | "nextfile" =>
      if !(← get).isRule then object (Text.bytes "improper use of nextfile")
      single .nextFile
    | "exit" =>
      let e ← value?
      separator
      return .exit e
    | "return" =>
      if (← get).owner.isNone then object (Text.bytes "return outside function body")
      let e ← value?
      separator
      return .giveBack e
    | "delete" =>
      advance
      let table ← variableAt .table
      if ← accept "[" then
        let subscripts ← list fuel
        expect "]"
        separator
        return .delete table subscripts
      else
        separator
        return .clear table
    | "print" | "printf" =>
      advance
      let (args, output) ← printing fuel
      if word == "printf" && args.isEmpty then object (Text.bytes "no arguments in call to printf")
      separator
      return if word == "print" then .print args output else .printf args output
    | _ =>
      let e ← expr fuel false 0
      separator
      return .evaluate e

end

/-- A block of statements. -/
def block (fuel : Nat) : Parsing Stmt := do
  expect "\x7b"
  statements fuel

end Parser

end LineShell.Host.Awk
