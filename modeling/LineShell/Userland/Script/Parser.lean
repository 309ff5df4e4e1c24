import LineShell.Userland.Script.Syntax

/-!
# Reading scripts

`parseLine` reads the commands of a script up to the end of a line at which a command may end, and leaves the rest: a
script is read as it runs, so that a mistake further down does not matter before it is reached. What is wrong with a
text is a `SyntaxFault`, found on a line.

Commands are read from tokens (`Reading.token`), of which the last one read may be read once more. Every reading
function takes as fuel more than it could need for the text.
-/

namespace LineShell.Host.Script

/-- The text of a script, one character for each byte. -/
abbrev Source := List Char

def Source.ofBytes (bytes : Bytes) : Source :=
  letters bytes

def Source.bytes (text : Source) : Bytes :=
  text.map byte

/-! ## Mistakes -/

/-- What is wrong with a text that is no script. -/
inductive SyntaxFault
  /-- Something else had to come, perhaps one thing only. -/
  | unexpected (found : String) (expected : Option String)
  | loopVariable
  | functionName
  | descriptor
  | openQuote
  | openBackquote
  | openBrace
  | openSum
deriving DecidableEq, Repr

def SyntaxFault.text : SyntaxFault → String
  | unexpected found none => found ++ " unexpected"
  | unexpected found (some expected) => found ++ " unexpected (expecting " ++ expected ++ ")"
  | loopVariable => "Bad for loop variable"
  | functionName => "Bad function name"
  | descriptor => "Bad fd number"
  | openQuote => "Unterminated quoted string"
  | openBackquote => "EOF in backquote substitution"
  | openBrace => "Missing '\x7d'"
  | openSum => "Missing '))'"

/-- A mistake, and the line on which it was met. -/
structure SyntaxError where
  line : Nat
  fault : SyntaxFault
deriving DecidableEq, Repr

/-! ## Tokens -/

/-- A piece of a script above the characters. -/
inductive Token
  | endOfFile
  | newline
  | sign (text : String)
  | redirection (fd : Nat) (symbol : String)
  | word (parts : Word) (quoted : Bool)
  | keyword (name : String)

namespace Token

def inQuotes (text : String) : String :=
  "\"" ++ text ++ "\""

/-- What a token is called in complaints. -/
def name : Token → String
  | endOfFile => "end of file"
  | newline => "newline"
  | sign text | keyword text => inQuotes text
  | redirection .. => "redirection"
  | word .. => "word"

def isSign (t : Token) (text : String) : Bool :=
  match t with
  | sign found => found = text
  | _ => false

def isKeyword (t : Token) (name : String) : Bool :=
  match t with
  | keyword found => found = name
  | _ => false

def isNewline : Token → Bool
  | newline => true
  | _ => false

def isEndOfFile : Token → Bool
  | endOfFile => true
  | _ => false

/-- Whether the commands of a compound command end here. -/
def endsCommands : Token → Bool
  | endOfFile => true
  | sign text => text = ")" || text = ";;"
  | keyword name => ["do", "done", "elif", "else", "esac", "fi", "then", "\x7d"].contains name
  | _ => false

end Token

/-- How far a script was read. -/
structure Reading where
  rest : Source
  line : Nat := 1
  /-- The token read last. -/
  token : Token := .endOfFile
  /-- The number of characters there were before it. -/
  start : Nat := 0
  /-- Whether it is to be read once more. -/
  again : Bool := false
  /-- The names that stand for texts. -/
  aliases : List (Bytes × Bytes) := []
  /-- The names whose texts are being read, each with the number of characters behind its text. -/
  inside : List (Bytes × Nat) := []
  /-- The number of characters before which the next word may be such a name as well. -/
  further : Option Nat := none

abbrev Reader := StateT Reading (Except SyntaxError)

/-- Stands in the text for a line that was read before its turn. -/
def passedLine : Char := '\uE000'

namespace Reader

/-- Stop at a mistake on the present line. -/
def fail {α : Type} (fault : SyntaxFault) : Reader α := do
  throw ⟨(← get).line, fault⟩

def newlines (text : Source) : Nat :=
  text.countP fun c => c = '\n' || c = passedLine

/-- Stop at a mistake that shows at the end of the text. -/
def failAtEnd {α : Type} (fault : SyntaxFault) : Reader α := do
  let r ← get
  throw ⟨r.line + newlines r.rest, fault⟩

/-- Stop at the token read last. -/
def unexpected {α : Type} (expected : Option String) : Reader α := do
  fail (.unexpected (← get).token.name expected)

/-- Go past some characters. -/
def pass (count : Nat) : Reader Unit :=
  modify fun r => { r with rest := r.rest.drop count, line := r.line + newlines (r.rest.take count) }

/-- Let the token read last be read once more. -/
def unread : Reader Unit :=
  modify fun r => { r with again := true }

end Reader

open Script.Reader

/-! ## Signs and keywords -/

/-- Whether a character that is not quoted ends a word. -/
def endsWord (c : Char) : Bool :=
  " \t\n;&|<>()".toList.contains c || c = passedLine

/-- How many characters of blanks, joined lines and comments a text starts with. -/
def blankLength (comment : Bool) : Source → Nat
  | [] => 0
  | c :: rest =>
    if comment then if c = '\n' then 0 else blankLength true rest + 1
    else if c = ' ' || c = '\t' || c = passedLine then blankLength false rest + 1
    else if c = '#' then blankLength true rest + 1
    else
      match c, rest with
      | '\\', '\n' :: rest => blankLength false rest + 2
      | _, _ => 0

def keywords : List String :=
  ["!", "\x7b", "\x7d", "case", "do", "done", "elif", "else", "esac", "fi", "for", "if", "in", "then", "until", "while"]

/-- The sign that a text starts with. -/
def sign? (text : Source) : Option String :=
  match text with
  | '&' :: '&' :: _ => some "&&"
  | '&' :: _ => some "&"
  | '|' :: '|' :: _ => some "||"
  | '|' :: _ => some "|"
  | ';' :: ';' :: _ => some ";;"
  | ';' :: _ => some ";"
  | '(' :: _ => some "("
  | ')' :: _ => some ")"
  | _ => none

/-- The descriptor and the operator of a redirection that a text starts with, and its length. -/
def redirectionSign? (text : Source) : Option (Nat × String × Nat) :=
  let (given, text) : Option Nat × Source :=
    match text with
    | d :: c :: rest =>
      if d.isDigit && (c = '<' || c = '>') then (some (d.toNat - '0'.toNat), c :: rest) else (none, text)
    | _ => (none, text)
  let sign (name : String) (usual : Nat) : Option (Nat × String × Nat) :=
    some (given.getD usual, name, name.length + if given.isSome then 1 else 0)
  match text with
  | '<' :: '<' :: '-' :: _ => sign "<<-" 0
  | '<' :: '<' :: _ => sign "<<" 0
  | '<' :: '&' :: _ => sign "<&" 0
  | '<' :: '>' :: _ => sign "<>" 0
  | '<' :: _ => sign "<" 0
  | '>' :: '>' :: _ => sign ">>" 1
  | '>' :: '&' :: _ => sign ">&" 1
  | '>' :: '|' :: _ => sign ">|" 1
  | '>' :: _ => sign ">" 1
  | _ => none

/-- The names of the commands that no function can have. -/
def specialNames : List String :=
  [".", ":", "break", "continue", "eval", "exec", "exit", "export", "local", "readonly", "return", "set", "shift",
    "times", "trap", "unset"]

/-! ## Texts in a script -/

/-- The word that ends a text in a script, quotes taken away, and whether there were any. -/
def endMark (quote : Option Char) (taken : Source) (quoted : Bool) : Source → Option (Source × Bool × Source)
  | [] => if quote.isSome || (taken.isEmpty && !quoted) then none else some (taken.reverse, quoted, [])
  | '\\' :: c :: rest =>
    if quote = some '\'' then endMark quote ('\\' :: taken) true (c :: rest) else endMark quote (c :: taken) true rest
  | c :: rest =>
    if quote = some c then endMark none taken true rest
    else if quote.isSome then endMark quote (c :: taken) true rest
    else if c = '\'' || c = '"' then endMark (some c) taken true rest
    else if endsWord c then if taken.isEmpty && !quoted then none else some (taken.reverse, quoted, c :: rest)
    else endMark none (c :: taken) quoted rest

/-- What is left of a line, and the text behind its end. Quoted newlines do not end it. -/
def splitLine (quote : Option Char) : Source → Source × Source
  | [] => ([], [])
  | '\\' :: c :: rest =>
    if quote = some '\'' then
      let (line, behind) := splitLine quote (c :: rest)
      ('\\' :: line, behind)
    else
      let (line, behind) := splitLine quote rest
      ('\\' :: c :: line, behind)
  | c :: rest =>
    if c = '\n' && quote.isNone then ([], rest)
    else
      let next := if quote = some c then none
        else if quote.isNone && (c = '\'' || c = '"') then some c
        else quote
      let (line, behind) := splitLine next rest
      (c :: line, behind)

/-- The lines up to the one that is `mark`, and the text behind that. With `strip`, tabs at the start of lines are left
out. -/
def linesUpTo (strip : Bool) (mark : Source) : (fuel : Nat) → Source → Source × Source
  | 0, text => ([], text)
  | _, [] => ([], [])
  | fuel + 1, text =>
    let line := text.takeWhile (· != '\n')
    let behind := text.drop line.length
    let line := if strip then line.dropWhile (· = '\t') else line
    if line = mark then ([], behind.tail)
    else
      let (more, rest) := linesUpTo strip mark fuel behind.tail
      (line ++ behind.take 1 ++ more, rest)

/-! ## Words -/

/-- What ends a text in double quotes or one that is read as if it were in them. -/
inductive Closer
  | quote
  | brace
  | document
  /-- Two parentheses, with this many open ones before them. -/
  | sums (depth : Nat)
deriving DecidableEq, Repr

/-- The text in back quotes, and how many characters it takes with the quote behind it. -/
def backquoted (quoted : Bool) : Source → Option (Source × Nat)
  | [] => none
  | '\x60' :: _ => some ([], 1)
  | '\\' :: c :: rest =>
    let bare := c = '\x60' || c = '\\' || c = '$' || (quoted && c = '"')
    (backquoted quoted rest).map fun (text, size) => (if bare then c :: text else '\\' :: c :: text, size + 2)
  | c :: rest => (backquoted quoted rest).map fun (text, size) => (c :: text, size + 1)

/-- The parameters that are one sign. -/
def isParameterSign (c : Char) : Bool :=
  "@*#?-$!".toList.contains c

/-- The name between braces, and whether its length is meant. -/
def bracedName (text : Source) : Option (Bool × Source × Source) :=
  let named (length : Bool) (text : Source) : Option (Bool × Source × Source) :=
    match text with
    | [] => none
    | c :: rest =>
      if isNameStart (byte c) then
        let name := text.takeWhile fun c => isNameByte (byte c)
        some (length, name, text.drop name.length)
      else if c.isDigit then
        let name := text.takeWhile Char.isDigit
        some (length, name, text.drop name.length)
      else if isParameterSign c then some (length, [c], rest)
      else none
  match text with
  | '#' :: c :: d :: rest =>
    if isNameByte (byte c) then named true (c :: d :: rest)
    else if c != '\x7d' && d = '\x7d' then named true (c :: d :: rest)
    else named false text
  | _ => named false text

/-- What is asked of the parameter between braces, and the text behind the sign for it. -/
def bracedUse (text : Source) : Use × Source :=
  let byWord (empty : Bool) (text : Source) : Use × Source :=
    match text with
    | '-' :: rest => (.default empty, rest)
    | '=' :: rest => (.assign empty, rest)
    | '?' :: rest => (.demand empty, rest)
    | '+' :: rest => (.alternative empty, rest)
    | _ => (.unknown, text)
  match text with
  | '\x7d' :: _ => (.value, text)
  | ':' :: rest => byWord true rest
  | '#' :: '#' :: rest => (.withoutStart true, rest)
  | '#' :: rest => (.withoutStart false, rest)
  | '%' :: '%' :: rest => (.withoutEnd true, rest)
  | '%' :: rest => (.withoutEnd false, rest)
  | _ => byWord false text

/-- The name and the rest of a word that sets a variable. -/
def assignment? (word : Word) : Option (Bytes × Word) :=
  match word with
  | .text bytes false :: rest =>
    let name := bytes.takeWhile isNameByte
    match bytes.drop name.length with
    | 61 :: value =>
      if isName name then some (name, if value.isEmpty then rest else .text value false :: rest) else none
    | _ => none
  | _ => none

/-- What is looked for when a token is read: newlines may be passed over, words may be keywords, and names may stand for
texts. -/
structure Watch where
  newlines : Bool := false
  keywords : Bool := false
  aliases : Bool := false

/-- At the start of a command. -/
def Watch.command : Watch := { keywords := true, aliases := true }

/-- Where a command has to come, perhaps on a line further down. -/
def Watch.lines : Watch := { newlines := true, keywords := true, aliases := true }

/-- Read a word again: it may be a keyword. -/
def asKeyword (t : Token) : Token :=
  match t with
  | .word [.text bytes false] false =>
    let name := String.ofList (letters bytes)
    if keywords.contains name then .keyword name else t
  | _ => t

/-- Put the text that a name stands for in the place of the name, if it stands for one that is not being read. `start`
is the number of characters there were before the name. -/
def expandAlias (start : Nat) (t : Token) : Reader Bool := do
  match t with
  | .word [.text name false] false =>
    let r ← get
    let inside := r.inside.filter fun (_, behind) => behind < start
    match r.aliases.lookup name with
    | some text =>
      if inside.any (·.1 == name) then return false
      let blank := text.getLast?.any fun b => b = byte ' ' || b = byte '\t'
      set { r with
        rest := Source.ofBytes text ++ r.rest
        inside := (name, r.rest.length) :: inside
        further := if blank then some r.rest.length else none }
      return true
    | none => return false
  | _ => return false

mutual

/-- The parts of a word up to its end, or up to a brace, and whether any of it is quoted. -/
def plainParts (fuel : Nat) (braced : Bool) : Reader (Word × Bool) :=
  match fuel with
  | 0 => fail .openQuote
  | fuel + 1 => do
    let behind (part : Part) (isQuoted : Bool) : Reader (Word × Bool) := do
      let (parts, quoted) ← plainParts fuel braced
      return (part.onto parts, quoted || isQuoted)
    match (← get).rest with
    | [] => if braced then fail .openBrace else return ([], false)
    | '\\' :: '\n' :: _ =>
      pass 2
      plainParts fuel braced
    | '\\' :: c :: _ =>
      pass 2
      behind (.text [byte c] true) true
    | '\'' :: rest =>
      let taken := rest.takeWhile (· != '\'')
      if taken.length = rest.length then failAtEnd .openQuote
      pass (taken.length + 2)
      behind (.text (Source.bytes taken) true) true
    | '"' :: _ =>
      pass 1
      let inner ← quotedParts fuel .quote
      if inner.isEmpty then behind (.text [] true) true
      else
        let (parts, _) ← plainParts fuel braced
        return (inner.foldr Part.onto parts, true)
    | '\x60' :: _ =>
      pass 1
      behind (← output fuel false) false
    | '$' :: _ =>
      pass 1
      behind (← dollar fuel false) false
    | c :: _ =>
      if (if braced then c == '\x7d' else endsWord c) then return ([], false)
      pass 1
      behind (.text [byte c] false) false

/-- The parts of a text in double quotes up to its end, which is passed. -/
def quotedParts (fuel : Nat) (closer : Closer) : Reader Word :=
  match fuel with
  | 0 => fail .openQuote
  | fuel + 1 => do
    let behind (closer : Closer) (part : Part) : Reader Word := do
      let parts ← quotedParts fuel closer
      return part.onto parts
    match (← get).rest with
    | [] =>
      match closer with
      | .document => return []
      | .sums _ => fail .openSum
      | _ => fail .openQuote
    | '\\' :: '\n' :: _ =>
      pass 2
      quotedParts fuel closer
    | '\\' :: c :: _ =>
      pass 2
      let bare := c = '$' || c = '\x60' || c = '\\' || (c = '"' && closer != .document) ||
        (c = '\x7d' && closer = .brace)
      behind closer (.text (if bare then [byte c] else [byte '\\', byte c]) true)
    | '\x60' :: _ =>
      pass 1
      behind closer (← output fuel true)
    | '$' :: _ =>
      pass 1
      behind closer (← dollar fuel true)
    | c :: rest =>
      pass 1
      match closer, c, rest with
      | .quote, '"', _ => return []
      | .brace, '\x7d', _ => return []
      | .brace, '"', _ => quotedParts fuel closer
      | .sums 0, ')', ')' :: _ =>
        pass 1
        return []
      | .sums (depth + 1), ')', _ => behind (.sums depth) (.text [byte c] true)
      | .sums depth, '(', _ => behind (.sums (depth + 1)) (.text [byte c] true)
      | closer, _, _ => behind closer (.text [byte c] true)

/-- What stands behind a dollar sign. -/
def dollar (fuel : Nat) (quoted : Bool) : Reader Part :=
  match fuel with
  | 0 => fail .openQuote
  | fuel + 1 => do
    let text := (← get).rest
    match text with
    | '(' :: '(' :: _ =>
      pass 2
      return .arithmetic (← quotedParts fuel (.sums 0)) quoted
    | '(' :: _ =>
      pass 1
      let before ← get
      let body ← commands fuel true []
      let t ← token fuel {}
      if !t.isSign ")" then unexpected (some (Token.inQuotes ")"))
      modify fun r => { r with token := before.token, start := before.start, again := before.again }
      return .output body quoted
    | '\x7b' :: _ =>
      pass 1
      braces fuel quoted
    | c :: _ =>
      if isNameStart (byte c) then
        let name := text.takeWhile fun c => isNameByte (byte c)
        pass name.length
        return .parameter (Source.bytes name) .value [] quoted
      else if c.isDigit || isParameterSign c then
        pass 1
        return .parameter [byte c] .value [] quoted
      else return .text [byte '$'] quoted
    | [] => return .text [byte '$'] quoted

/-- A parameter in braces. -/
def braces (fuel : Nat) (quoted : Bool) : Reader Part :=
  match fuel with
  | 0 => fail .openBrace
  | fuel + 1 => do
    let text := (← get).rest
    let (name, use, rest) : Source × Use × Source :=
      match bracedName text with
      | some (true, name, '\x7d' :: rest) => (name, .length, '\x7d' :: rest)
      | some (true, name, rest) => (name, .unknown, rest)
      | some (false, name, rest) => let (use, rest) := bracedUse rest; (name, use, rest)
      | none => ([], .unknown, text)
    pass (text.length - rest.length)
    let asPattern : Bool := match use with
      | .withoutStart _ | .withoutEnd _ => true
      | _ => false
    if quoted && !asPattern then return .parameter (Source.bytes name) use (← quotedParts fuel .brace) quoted
    else
      let (word, _) ← plainParts fuel true
      pass 1
      return .parameter (Source.bytes name) use word quoted

/-- The command in back quotes, which is read as a script of its own. -/
def output (fuel : Nat) (quoted : Bool) : Reader Part :=
  match fuel with
  | 0 => fail .openBackquote
  | fuel + 1 => do
    let r ← get
    match backquoted quoted r.rest with
    | none => failAtEnd .openBackquote
    | some (script, size) =>
      pass size
      let (body, _) ← (commands fuel true []).run { rest := script, aliases := r.aliases }
      return .output body quoted

/-- Read the next token as it stands in the text. -/
def rawToken (fuel : Nat) : Reader Token :=
  match fuel with
  | 0 => return .endOfFile
  | fuel + 1 => do
    pass (blankLength false (← get).rest)
    let text := (← get).rest
    match text, redirectionSign? text, sign? text with
    | [], _, _ => return .endOfFile
    | '\n' :: _, _, _ =>
      pass 1
      return .newline
    | _, some (fd, symbol, size), _ =>
      pass size
      return .redirection fd symbol
    | _, _, some sign =>
      pass sign.length
      return .sign sign
    | _, _, _ =>
      let (parts, quoted) ← plainParts fuel false
      return .word parts quoted

/-- Read the next token, or the last one once more. -/
def token (fuel : Nat) (watch : Watch) : Reader Token :=
  match fuel with
  | 0 => return .endOfFile
  | fuel + 1 => do
    let before ← get
    let t ← if before.again then pure before.token else rawToken fuel
    let start := if before.again then before.start else before.rest.length
    modify fun r => { r with again := false, token := t, start := start }
    if watch.newlines && t.isNewline then token fuel watch
    else
      let known := if watch.keywords then asKeyword t else t
      let further := before.further.any fun behind => start ≤ behind
      if further then modify fun r => { r with further := none }
      let expanded ← if watch.aliases || further then expandAlias start known else pure false
      if expanded then token fuel watch
      else
        modify fun r => { r with token := known }
        return known

/-- One redirection behind its operator. -/
def redirection (fuel fd : Nat) (symbol : String) : Reader Redirection :=
  match fuel with
  | 0 => fail .openQuote
  | fuel + 1 => do
    if symbol = "<<" || symbol = "<<-" then
      pass (blankLength false (← get).rest)
      let r ← get
      match endMark none [] false r.rest with
      | none =>
        let _ ← token fuel {}
        unexpected none
      | some (mark, quoted, rest) =>
        let (line, behind) := splitLine none rest
        let (content, after) := linesUpTo (symbol = "<<-") mark (behind.length + 1) behind
        let passed := List.replicate (newlines behind - newlines after) passedLine
        set { r with rest := line ++ passed ++ '\n' :: after }
        if quoted then return .document fd [.text (Source.bytes content) true]
        let (parts, _) ← (quotedParts fuel .document).run { rest := content, line := r.line, aliases := r.aliases }
        return .document fd parts
    else
      let t ← token fuel {}
      match t with
      | .word target _ =>
        if symbol = "<&" || symbol = ">&" then
          match target with
          | [.text name _] =>
            match name.map isDigit with
            | [true] => pure ()
            | _ => if name != [byte '-'] then fail .descriptor
          | _ => pure ()
          return .stream fd target
        else return .file fd symbol target
      | _ => unexpected none

/-- The redirections behind a compound command. -/
def redirectionsOf (fuel : Nat) (watch : Watch) : Reader (List Redirection) :=
  match fuel with
  | 0 => return []
  | fuel + 1 => do
    match ← token fuel watch with
    | .redirection fd symbol =>
      let first ← redirection fuel fd symbol
      let more ← redirectionsOf fuel {}
      return first :: more
    | _ =>
      unread
      return []

/-- A simple command, or the definition of a function. -/
def simple (fuel line : Nat) (assignments : List (Bytes × Word)) (words : List Word)
    (redirections : List Redirection) : Reader Command :=
  match fuel with
  | 0 => return .nothing
  | fuel + 1 => do
    let t ← token fuel { aliases := words.isEmpty }
    match t with
    | .word parts _ =>
      match words, assignment? parts with
      | [], some one => simple fuel line (assignments ++ [one]) [] redirections
      | _, _ => simple fuel line assignments (words ++ [parts]) redirections
    | .redirection fd symbol =>
      let one ← redirection fuel fd symbol
      simple fuel line assignments words (redirections ++ [one])
    | _ =>
      match words with
      | [name] =>
        if t.isSign "(" && assignments.isEmpty && redirections.isEmpty then
          let close ← token fuel {}
          if !close.isSign ")" then unexpected (some (Token.inQuotes ")"))
          match name with
          | [.text name false] =>
            if !isName name || specialNames.any (Text.bytes · = name) then fail .functionName
            return .define name (← command fuel .lines)
          | _ => fail .functionName
        else
          unread
          return .simple line assignments words redirections
      | _ =>
        unread
        return .simple line assignments words redirections

/-- The words up to something that is no word. -/
def wordsOf (fuel : Nat) : Reader (List Word) :=
  match fuel with
  | 0 => return []
  | fuel + 1 => do
    match ← token fuel {} with
    | .word parts _ =>
      let more ← wordsOf fuel
      return parts :: more
    | _ => return []

/-- The patterns of an arm; the first one was read already. -/
def patternsOf (fuel : Nat) : Reader (List Word) :=
  match fuel with
  | 0 => return []
  | fuel + 1 => do
    let pattern : Word := match (← get).token with
      | .word parts _ => parts
      | .keyword name => [.text (Text.bytes name) false]
      | _ => []
    let t ← token fuel {}
    if t.isSign "|" then
      let _ ← token fuel {}
      let more ← patternsOf fuel
      return pattern :: more
    else if t.isSign ")" then return [pattern]
    else unexpected (some (Token.inQuotes ")"))

/-- The arms of a choice up to its end; the first token was read already. -/
def armsOf (fuel : Nat) : Reader (List (List Word × Command)) :=
  match fuel with
  | 0 => return []
  | fuel + 1 => do
    let t := (← get).token
    if t.isKeyword "esac" then return []
    if t.isSign "(" then let _ ← token fuel {}
    let patterns ← patternsOf fuel
    let body ← commands fuel true []
    let t ← token fuel { newlines := true, keywords := true }
    if t.isKeyword "esac" then return [(patterns, body)]
    if !t.isSign ";;" then unexpected (some (Token.inQuotes ";;"))
    let _ ← token fuel { newlines := true, keywords := true }
    let more ← armsOf fuel
    return (patterns, body) :: more

/-- Read a keyword that has to come now. -/
def expect (fuel : Nat) (name : String) (watch : Watch) : Reader Unit :=
  match fuel with
  | 0 => return ()
  | fuel + 1 => do
    let t ← token fuel watch
    if !t.isKeyword name then unexpected (some (Token.inQuotes name))

/-- The commands behind a condition: what is done on success, and otherwise. -/
def branches (fuel : Nat) : Reader Command :=
  match fuel with
  | 0 => return .nothing
  | fuel + 1 => do
    let condition ← commands fuel false []
    expect fuel "then" {}
    let success ← commands fuel false []
    let t ← token fuel {}
    if t.isKeyword "elif" then return .branch condition success (← branches fuel)
    else if t.isKeyword "else" then
      let failure ← commands fuel false []
      expect fuel "fi" {}
      return .branch condition success failure
    else if t.isKeyword "fi" then return .branch condition success .nothing
    else unexpected (some (Token.inQuotes "fi"))

/-- The body of a loop. -/
def loopBody (fuel : Nat) (watch : Watch) : Reader Command :=
  match fuel with
  | 0 => return .nothing
  | fuel + 1 => do
    expect fuel "do" watch
    let body ← commands fuel false []
    expect fuel "done" {}
    return body

/-- A compound command behind its keyword; nothing if the keyword starts none. -/
def compoundFrom (fuel line : Nat) (name : String) : Reader Command :=
  match fuel with
  | 0 => return .nothing
  | fuel + 1 => do
    match name with
    | "\x7b" =>
      let body ← commands fuel false []
      expect fuel "\x7d" {}
      return body
    | "if" => branches fuel
    | "while" | "until" =>
      let condition ← commands fuel false []
      return .loop (name = "until") condition (← loopBody fuel {})
    | "for" =>
      match ← token fuel {} with
      | .word [.text name false] false =>
        if !isName name then fail .loopVariable
        let t ← token fuel .lines
        if t.isKeyword "in" then
          let words ← wordsOf fuel
          let t := (← get).token
          if !(t.isNewline || t.isSign ";") then unexpected none
          return .each line name (some words) (← loopBody fuel .lines)
        else
          if !t.isSign ";" then unread
          return .each line name none (← loopBody fuel .lines)
      | _ => fail .loopVariable
    | "case" =>
      match ← token fuel {} with
      | .word subject _ =>
        let t ← token fuel .lines
        if !t.isKeyword "in" then unexpected (some (Token.inQuotes "in"))
        let _ ← token fuel { newlines := true, keywords := true }
        return .choice line subject (← armsOf fuel)
      | _ => unexpected (some "word")
    | _ => unexpected none

/-- One command of a pipeline. -/
def command (fuel : Nat) (watch : Watch) : Reader Command :=
  match fuel with
  | 0 => return .nothing
  | fuel + 1 => do
    let line := (← get).line
    let t ← token fuel watch
    let body? : Option Command ← match t with
      | .keyword name => do pure (some (← compoundFrom fuel line name))
      | .sign "(" => do
        let body ← commands fuel false []
        let close ← token fuel {}
        if !close.isSign ")" then unexpected (some (Token.inQuotes ")"))
        pure (some (.subshell line body))
      | .word .. | .redirection .. => pure none
      | _ => unexpected none
    match body? with
    | none =>
      unread
      simple fuel (← get).line [] [] []
    | some body =>
      let redirections ← redirectionsOf fuel .command
      return if redirections.isEmpty then body else .redirected line body redirections

/-- The commands of a pipeline behind the first one. -/
def stagesOf (fuel : Nat) : Reader (List Command) :=
  match fuel with
  | 0 => return []
  | fuel + 1 => do
    let t ← token fuel {}
    if t.isSign "|" then
      let stage ← command fuel .lines
      let more ← stagesOf fuel
      return stage :: more
    else
      unread
      return []

/-- A pipeline. -/
def pipeline (fuel : Nat) (watch : Watch) : Reader Command :=
  match fuel with
  | 0 => return .nothing
  | fuel + 1 => do
    let t ← token fuel watch
    let negated := t.isKeyword "!"
    if !negated then unread
    let first ← command fuel .command
    let more ← stagesOf fuel
    let c := if more.isEmpty then first else .pipeline (first :: more)
    return if negated then .negated c else c

/-- Pipelines joined by conditions; `before` is what was read so far. -/
def andOr (fuel : Nat) (watch : Watch) (before : Option (Bool × Command)) : Reader Command :=
  match fuel with
  | 0 => return .nothing
  | fuel + 1 => do
    let c ← pipeline fuel watch
    let c := match before with
      | none => c
      | some (true, first) => .both first c
      | some (false, first) => .either first c
    let t ← token fuel {}
    if t.isSign "&&" then andOr fuel .lines (some (true, c))
    else if t.isSign "||" then andOr fuel .lines (some (false, c))
    else
      unread
      return c

/-- The commands inside a compound command; `steps` were read so far, latest first. There may be none if `optional`. -/
def commands (fuel : Nat) (optional : Bool) (steps : List Command) : Reader Command :=
  match fuel with
  | 0 => return .ofSteps steps.reverse
  | fuel + 1 => do
    let t ← token fuel .lines
    unread
    if t.isEndOfFile || ((optional || !steps.isEmpty) && t.endsCommands) then return .ofSteps steps.reverse
    let c ← andOr fuel .command none
    let t ← token fuel {}
    let c := if t.isSign "&" then .background c else c
    if t.isSign "&" || t.isSign ";" then commands fuel optional (c :: steps)
    else
      unread
      if t.isNewline then commands fuel optional (c :: steps) else return .ofSteps (c :: steps).reverse

end

/-- The commands up to the end of a line. -/
def lineFrom (fuel : Nat) (steps : List Command) : Reader Command :=
  match fuel with
  | 0 => return .ofSteps steps.reverse
  | fuel + 1 => do
    let need := 24 * (← get).rest.length + 200
    let t ← token need .command
    if t.isNewline || t.isEndOfFile then return .ofSteps steps.reverse
    unread
    let c ← andOr (24 * (← get).rest.length + 200) .command none
    let t ← token need {}
    let c := if t.isSign "&" then .background c else c
    if t.isEndOfFile || t.isNewline then return .ofSteps (c :: steps).reverse
    else if t.isSign "&" || t.isSign ";" then lineFrom fuel (c :: steps)
    else unexpected none

/-- Read the commands up to the end of the first line at which a command may end; the text behind it, and the line it is
on, are the rest. -/
def parseLine (aliases : List (Bytes × Bytes)) (text : Source) (line : Nat) :
    Except SyntaxError (Command × Source × Nat) :=
  match (lineFrom (text.length + 1) []).run { rest := text, line := line, aliases := aliases } with
  | .ok (c, r) => .ok (c, r.rest, r.line)
  | .error e => .error e

/-- The parts of a text that is read as if it stood in double quotes; the text itself if it is wrong. -/
def readQuoted (text : Bytes) : Word :=
  match (quotedParts (24 * text.length + 200) .document).run { rest := .ofBytes text } with
  | .ok (word, _) => word
  | .error _ => [.text text true]

end LineShell.Host.Script
