import LineShell.Userland.Awk.Value
import LineShell.Userland.Utility.Print

/-!
# Words of programs

`Token.ofText` cuts the text of a program into tokens. Newlines end statements like semicolons, but those behind a
brace, a semicolon or a comma are left out, and a brace that closes has a semicolon in front of it.

A slash begins an expression for texts, unless what stands in front of it can be divided.
-/

namespace LineShell.Host.Awk

/-- What a token is. -/
inductive Lexeme
  | number (x : Float) (text : Bytes)
  | string (text : Bytes)
  | regex (text : Bytes)
  /-- A name, and whether a parenthesis follows at once. -/
  | name (text : Bytes) (calls : Bool)
  /-- A name with a meaning of its own. -/
  | keyword (name : String)
  /-- The name of a function that every program has. -/
  | builtin (name : String)
  | sign (text : String)
  | newline
  /-- A semicolon; one that is not in the text stands in front of a brace. -/
  | semicolon (isWritten : Bool)
  | finish
  /-- A byte that cannot stand there. -/
  | stray (b : UInt8)
  /-- A sign that closes nothing. -/
  | extra (b : UInt8)
  /-- A text or expression that does not end. -/
  | runaway (isRegex : Bool) (text : Bytes)
deriving Inhabited

/-- A token with its line and the numbers of parentheses and braces that are open behind it. -/
structure Token where
  lexeme : Lexeme
  line : Nat
  parens : Nat := 0
  braces : Nat := 0
deriving Inhabited

namespace Lexer

/-! ## Names -/

def keywords : List String :=
  ["BEGIN", "END", "if", "else", "while", "do", "for", "break", "continue", "next", "nextfile", "exit", "return",
    "delete", "in", "print", "printf", "getline", "function"]

/-- The names of the functions that every program has. -/
def builtins : List String :=
  ["length", "substr", "index", "toupper", "tolower", "sprintf", "int", "sqrt", "exp", "log", "sin", "cos", "atan2",
    "rand", "srand", "system", "close", "fflush", "strftime", "mktime", "systime", "split", "match", "sub", "gsub"]

def startsName (b : UInt8) : Bool :=
  (byte 'a' ≤ b && b ≤ byte 'z') || (byte 'A' ≤ b && b ≤ byte 'Z') || b = byte '_'

def inName (b : UInt8) : Bool :=
  startsName b || isDigit b

/-- The lexeme of a name in front of a text. -/
def ofName (name rest : Bytes) : Lexeme :=
  let text := String.ofList (letters name)
  if keywords.contains text then .keyword text
  else if builtins.contains text then .builtin text
  else .name name (rest.head? = some (byte '('))

/-! ## Numbers -/

/-- The number that a text starts with, in decimal digits, and what is behind it. -/
def readNumber? (text : Bytes) : Option (Float × Bytes) :=
  (Quantity.readDigits 10 10 ['e', 'E'] text).map fun (num, den, rest) =>
    ({ size := .finite num den : Quantity }.toFloat, rest)

/-! ## Texts -/

/-- The bytes for what stands behind a backslash, and the rest. An escape that means nothing stays. -/
def unescape (rest : Bytes) : Bytes × Bytes :=
  match rest with
  | [] => ([byte '\\'], [])
  | b :: more =>
    let octal := (rest.takeWhile Print.isOctal).take 3
    if !octal.isEmpty then ([UInt8.ofNat (Print.octal octal)], rest.drop octal.length)
    else
      match Char.ofNat b.toNat with
      | '"' | '\\' => ([b], more)
      | 'a' => ([7], more)
      | 'b' => ([8], more)
      | 'f' => ([12], more)
      | 'n' => ([10], more)
      | 'r' => ([13], more)
      | 't' => ([9], more)
      | 'v' => ([11], more)
      | 'x' =>
        match Print.readHex 2 more with
        | some (n, more) => ([UInt8.ofNat n], more)
        | none => ([byte '\\', b], more)
      | _ => ([byte '\\', b], more)

/-- A text with its escapes carried out. `fuel` is more than the length. -/
def withoutEscapes : (fuel : Nat) → Bytes → Bytes
  | 0, _ | _, [] => []
  | fuel + 1, b :: rest =>
    if b = byte '\\' then
      let (meant, rest) := unescape rest
      meant ++ withoutEscapes fuel rest
    else b :: withoutEscapes fuel rest

/-- The bytes through the quote that closes a text, and what is behind it; the flag tells whether there is one. -/
def readString (read : Bytes) : Bytes → Bytes × Bytes × Bool
  | [] => (read.reverse, [], false)
  | 92 :: 10 :: rest => readString read rest
  | 92 :: b :: rest => readString (b :: 92 :: read) rest
  | b :: rest =>
    if b = byte '"' then (read.reverse, rest, true)
    else if b = newline then (read.reverse, rest, false)
    else readString (b :: read) rest

/-- The bytes through the slash that closes an expression. `inSet` tells whether a set is open, and `fresh` whether it
was just opened. -/
def readRegex (read : Bytes) (inSet fresh : Bool) : Bytes → Bytes × Bytes × Bool
  | [] => (read.reverse, [], false)
  | 92 :: 47 :: rest => readRegex (47 :: read) inSet false rest
  | 92 :: 10 :: rest => readRegex read inSet false rest
  | 92 :: b :: rest => readRegex (b :: 92 :: read) inSet false rest
  | 91 :: 58 :: rest =>
    if inSet then
      let name := rest.takeWhile startsName
      if (rest.drop name.length).take 2 = Text.bytes ":]" then
        readNamed (58 :: 91 :: read) name.length rest
      else readRegex (58 :: 91 :: read) true false rest
    else readRegex (58 :: 91 :: read) true false rest
  | b :: rest =>
    if b = newline then (read.reverse, rest, false)
    else if b = byte '/' && !inSet then (read.reverse, rest, true)
    else if b = byte '[' then readRegex (b :: read) true (!inSet) rest
    else if b = byte '^' && fresh && read.head? = some (byte '[') then readRegex (b :: read) inSet true rest
    else if b = byte ']' && inSet && !fresh then readRegex (b :: read) false false rest
    else readRegex (b :: read) inSet false rest
where
  /-- Go past the name of a class and what closes it. -/
  readNamed (read : Bytes) (left : Nat) : Bytes → Bytes × Bytes × Bool
    | [] => (read.reverse, [], false)
    | b :: rest =>
      match left with
      | left + 1 => readNamed (b :: read) left rest
      | 0 =>
        match rest with
        | [] => ((b :: read).reverse, [], false)
        | c :: rest => readRegex (c :: b :: read) true false rest

/-! ## Tokens -/

/-- The signs of more than one byte, longer ones first, and all others. -/
def signs : List String :=
  ["++", "--", "+=", "-=", "*=", "/=", "%=", "^=", "==", "!=", "<=", ">=", "!~", "&&", "||", ">>", "\x7b", "\x7d", "(",
    ")", "[", "]", "+", "-", "*", "/", "%", "^", "!", "<", ">", "|", "?", ":", "~", "$", "=", ","]

/-- Whether what a lexeme ends can be divided. -/
def canBeDivided : Lexeme → Bool
  | .number .. | .string _ | .regex _ | .name .. => true
  | .keyword name => name == "getline"
  | .sign text => text == ")" || text == "]"
  | _ => false

/-- Whether a lexeme counts up or down. What it ends cannot be divided, and a slash behind it takes one more byte with
it. -/
def isCount : Lexeme → Bool
  | .sign text => text == "++" || text == "--"
  | _ => false

/-- Whether a lexeme ends a statement, or a block. -/
def ends : Lexeme → Bool
  | .newline | .semicolon _ => true
  | .sign text => text == "\x7d"
  | _ => false

/-- A text without the blanks, comments and newlines that it starts with, and how many newlines these were. `fuel` is
more than the length. -/
def skipLines (lines : Nat) : (fuel : Nat) → Bytes → Nat × Bytes
  | 0, text => (lines, text)
  | _, [] => (lines, [])
  | fuel + 1, b :: rest =>
    if b = newline then skipLines (lines + 1) fuel rest
    else if isSpace b then skipLines lines fuel rest
    else if b = byte '#' then skipLines lines fuel (rest.dropWhile (· != newline))
    else if b = byte '\\' && (rest.dropWhile isBlankByte).head? = some newline then
      skipLines (lines + 1) fuel (rest.dropWhile isBlankByte).tail
    else (lines, b :: rest)
where
  isBlankByte (b : UInt8) : Bool := isSpace b && b != newline

/-- A text without the blanks and the one semicolon that it starts with. -/
def skipSemicolon (text : Bytes) : Bytes :=
  let rest := text.dropWhile fun b => isSpace b && b != newline
  if rest.head? = some (byte ';') then rest.tail else text

/-- Go on cutting a text, where `last` is the lexeme in front. `fuel` is more than twice the length. -/
def cutFrom (last : Lexeme) (line parens braces : Nat) : (fuel : Nat) → Bytes → List Token
  | 0, _ | _, [] => [⟨.finish, line, parens, braces⟩]
  | fuel + 1, b :: rest =>
    let emit (lexeme : Lexeme) (rest : Bytes) : List Token :=
      ⟨lexeme, line, parens, braces⟩ :: cutFrom lexeme line parens braces fuel rest
    /- A token that newlines may follow. -/
    let emitOpen (lexeme : Lexeme) (braces : Nat) (rest : Bytes) : List Token :=
      let (lines, rest) := skipLines 0 (rest.length + 1) rest
      ⟨lexeme, line, parens, braces⟩ :: cutFrom lexeme (line + lines) parens braces fuel rest
    if b = newline then
      let (lines, rest) := skipLines 1 (rest.length + 1) rest
      ⟨.newline, line, parens, braces⟩ :: cutFrom .newline (line + lines) parens braces fuel rest
    else if isSpace b then cutFrom last line parens braces fuel rest
    else if b = byte '#' then cutFrom last line parens braces fuel (rest.dropWhile (· != newline))
    else if b = byte '\\' then
      let after := rest.dropWhile skipLines.isBlankByte
      if after.head? = some newline then cutFrom last (line + 1) parens braces fuel after.tail
      else emit (.stray b) after
    else if b = byte ';' then emitOpen (.semicolon true) braces rest
    else if b = byte '"' then
      let (text, rest, isClosed) := readString [] rest
      if isClosed then emit (.string (withoutEscapes (text.length + 1) text)) rest
      else [⟨.runaway false text, line, parens, braces⟩]
    else if b = byte '/' && !canBeDivided last then
      let skipped := isCount last && rest.head? != some (byte '=')
      let (text, rest, isClosed) := readRegex [] false false (if skipped then rest.tail else rest)
      if isClosed then emit (.regex text) rest
      else [⟨.runaway true text, line, parens, braces⟩]
    else if isDigit b || b = byte '.' then
      match readNumber? (b :: rest) with
      | some (x, after) => emit (.number x ((b :: rest).take (rest.length + 1 - after.length))) after
      | none => emit (.stray b) rest
    else if startsName b then
      let name := b :: rest.takeWhile inName
      let after := rest.dropWhile inName
      emit (ofName name after) after
    else
      match signs.find? fun sign => (Text.bytes sign).isPrefixOf (b :: rest) with
      | none => emit (.stray b) rest
      | some sign =>
        let after := (b :: rest).drop sign.length
        match sign with
        | "(" => ⟨.sign sign, line, parens + 1, braces⟩ :: cutFrom (.sign sign) line (parens + 1) braces fuel after
        | ")" =>
          if parens = 0 then emit (.extra b) after
          else ⟨.sign sign, line, parens - 1, braces⟩ :: cutFrom (.sign sign) line (parens - 1) braces fuel after
        | "\x7b" => emitOpen (.sign sign) (braces + 1) after
        | "\x7d" =>
          if braces = 0 then emit (.extra b) (skipSemicolon after)
          else if ends last then
            let braces := braces - 1
            emitOpen (.sign sign) braces (if braces = 0 then skipSemicolon after else after)
          else emit (.semicolon false) (b :: rest)
        | "," | "&&" | "||" => emitOpen (.sign sign) braces after
        | _ => emit (.sign sign) after

end Lexer

namespace Token

/-- The tokens of a program. -/
def ofText (text : Bytes) : List Token :=
  let (lines, rest) := Lexer.skipLines 0 (text.length + 1) text
  Lexer.cutFrom .newline (lines + 1) 0 0 (2 * rest.length + 2) rest

/-- How a token is shown where it cannot stand. -/
def shown (t : Token) : Bytes :=
  match t.lexeme with
  | .number _ text | .string text | .name text _ => text
  | .regex text => byte '/' :: text ++ [byte '/']
  | .keyword text | .builtin text | .sign text => Text.bytes text
  | .newline => Text.bytes "end of line"
  | .semicolon isWritten => if isWritten then [byte ';'] else [byte '\x7d']
  | .finish => Text.bytes "end of file"
  | .stray b | .extra b => [b]
  | .runaway _ text => text

/-- What is wrong where a token cannot stand. -/
def fault (t : Token) : Bytes :=
  let at_ (text : Bytes) : Bytes := Text.bytes "line " ++ decimal t.line ++ Text.bytes ": " ++ text
  let missing (c : Char) : Bytes := at_ (Text.bytes "missing " ++ byte c :: Text.bytes " near " ++ t.shown)
  let plain : Bytes := at_ (Text.bytes "syntax error at or near " ++ t.shown)
  match t.lexeme with
  | .stray b => decimal t.line ++ Text.bytes ": unexpected character '" ++ [b, byte '\'']
  | .extra b => at_ (Text.bytes "extra '" ++ [b, byte '\''])
  | .runaway isRegex text =>
    at_ (Text.bytes (if isRegex then "runaway regular expression /" else "runaway string constant \"") ++
      text.take 10 ++ Text.bytes " ...")
  | .newline | .semicolon _ => if t.parens != 0 then missing ')' else plain
  | .finish => if t.parens != 0 then missing ')' else if t.braces != 0 then missing '\x7d' else plain
  | .keyword name =>
    if ["BEGIN", "END", "function"].contains name && t.braces != 0 then missing '\x7d' else plain
  | .sign text => if text == "\x7d" && t.parens != 0 then missing ')' else plain
  | _ => plain

end Token

end LineShell.Host.Awk
