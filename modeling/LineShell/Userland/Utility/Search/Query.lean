import LineShell.Userland.Accounts
import LineShell.Userland.Calendar
import LineShell.Userland.Letters
import LineShell.Userland.Regex.Fitting
import LineShell.Userland.Regex.Reading
import LineShell.Userland.Utility.Child
import LineShell.Userland.Utility.Files.Look

/-!
# What is asked of files

The question that `find` puts to each file: tests and deeds, tied together by `!`, `-a`, `-o` and commas.

- `Query` is such a question, `Search.read` reads it off words, or says what is wrong with them (`QueryFault`);
- between two parts that nothing ties together stands an `-a`, and a question without a deed of its own prints.
-/

namespace LineShell.Host

/-- How a number is to compare with another one. -/
inductive Relation
  | less
  | equal
  | greater
deriving DecidableEq, Repr

/-- A number with the way it is to be compared. -/
structure Measure where
  relation : Relation
  number : Nat
deriving DecidableEq, Repr

namespace Measure

def holds (m : Measure) (n : Nat) : Bool :=
  match m.relation with
  | .less => n < m.number
  | .equal => n == m.number
  | .greater => m.number < n

/-- The sign in front of a number, and the rest. -/
def readRelation (word : Bytes) : Relation × Bytes :=
  match word with
  | 43 :: rest => (.greater, rest)
  | 45 :: rest => (.less, rest)
  | _ => (.equal, word)

def read (word : Bytes) : Option Measure :=
  let (relation, digits) := readRelation word
  (number? digits).map fun n => ⟨relation, n⟩

end Measure

namespace Finding

/-! ## Questions -/

/-- How the bits of a mode are compared with those that are asked for. -/
inductive ModeTest
  | same
  | all
  | some
deriving DecidableEq, Repr

/-- Something that may be so of a file or not. -/
inductive Test
  | constant (value : Bool)
  /-- A pattern fits the name, or the whole path. -/
  | name (loose whole : Bool) (p : Pattern)
  /-- A pattern fits what a link says. -/
  | target (loose : Bool) (p : Pattern)
  /-- An expression fits the whole path. -/
  | path (m : Matcher)
  /-- The kind is one of some letters; `through` looks at what a link leads to where others look at the link. -/
  | kind (through : Bool) (letters : List Char)
  /-- The size in units, of which one that was begun counts. -/
  | size (unit : Nat) (m : Measure)
  | empty
  /-- The mode against one for files and one for directories. -/
  | mode (how : ModeTest) (file dir : Nat)
  /-- It was changed after a time. -/
  | changedAfter (time : Int)
  /-- It was changed within some time from a start on, or before or after the start. -/
  | changed (relation : Relation) (start : Int) (span : Nat)
  | links (m : Measure)
  | id (m : Measure)
  | owner (m : Measure)
  | same (id : Nat)
  | startable
deriving DecidableEq, Repr

/-- A part of a format. -/
inductive Piece
  | text (text : Bytes)
  | field (c : Conversion) (letter : Char)
  /-- A time in a format of its own. -/
  | time (c : Conversion) (letter : Char)
  /-- Nothing is written from here on. -/
  | stop
deriving DecidableEq, Repr

/-- A command that is run for files. -/
structure Command where
  words : List Bytes
  /-- It is run for many files at once. -/
  together : Bool := false
  /-- It is run in the directory of the file. -/
  inside : Bool := false
  asks : Bool := false
  /-- Which of the commands of the question it is. -/
  number : Nat := 0
deriving DecidableEq, Repr

/-- Something to do for a file. What is written goes to standard output, or into a file. -/
inductive Deed
  | print (into : Option Bytes) (ending : UInt8)
  | format (into : Option Bytes) (pieces : List Piece)
  | list (into : Option Bytes)
  | delete
  | prune
  | quit
  | run (command : Command)
deriving DecidableEq, Repr

/-- A text in lower case. -/
def lowered (text : Bytes) : Bytes :=
  (Symbols.ofBytes text).flatMap fun x => x.lower.bytes

/-- What is asked of each file. -/
inductive Query
  | test (t : Test)
  | deed (d : Deed)
  | negation (q : Query)
  | both (first second : Query)
  | either (first second : Query)
  /-- Both are asked; the second one answers. -/
  | afterwards (first second : Query)
deriving DecidableEq, Repr

/-- Which links are followed. -/
inductive Following
  | never
  | named
  | always
deriving DecidableEq, Repr

/-! ## What is wrong with a question -/

/-- What is wrong with the words of a question. -/
inductive QueryFault
  | unknown (word : Bytes)
  | valueMissing (word : Bytes)
  | valueWrong (word value : Bytes)
  | predicateWrong (word : Bytes)
  | operandLate (word : Bytes)
  | depth (word value : Bytes)
  | sizeUnit (unit : UInt8)
  | sizeEmpty
  | sizeNumber (word : Bytes)
  | kindEmpty (word : Bytes)
  | kindUnknown (word : Bytes) (letter : UInt8)
  | kindOpen (word : Bytes)
  | kindTwice (word : Bytes) (letter : UInt8)
  | kindTogether (word : Bytes)
  | doors (word : Bytes)
  | mode (text : Bytes)
  | userEmpty
  | user (name : Bytes)
  | group (name rest : Bytes)
  | used (value : Bytes)
  | time (text : Bytes)
  | context
  | file (path : Bytes) (fault : Fault)
  | grammar (name : Bytes)
  | expression (text : Bytes) (fault : RegexFault)
  | formatEnd
  | severalBraces (inside : Bool)
  | bracesJoined (inside : Bool) (word : Bytes)
  | deletesPruned
  | nothingBefore (word : Bytes)
  | nothingAfter (word : Bytes)
  | nothingBetween (word : Bytes)
  | nothing
  | closeMissing
  | closeMissingAfter (word : Bytes)
  | closings
  | emptyParentheses
  | level (given : Bool)
  | operandWithList (operand : Bytes)
deriving DecidableEq, Repr

/-- A word between a backquote and a quote. -/
def backquoted (word : Bytes) : Bytes :=
  byte '\x60' :: word ++ [byte '\'']

/-- The kinds of expressions by name, in the order in which they are told. -/
def grammars : List (String × RegexForm) :=
  let emacs : RegexForm := { mixed := true }
  let extended : RegexForm := { extended := true }
  [("findutils-default", emacs), ("ed", {}), ("emacs", emacs), ("gnu-awk", extended), ("grep", {}),
    ("posix-awk", extended), ("awk", extended), ("posix-basic", {}), ("posix-egrep", extended), ("egrep", extended),
    ("posix-extended", extended), ("posix-minimal-basic", {}), ("sed", {})]

def QueryFault.text : QueryFault → Bytes
  | unknown word => Text.bytes "unknown predicate " ++ backquoted word
  | valueMissing word => Text.bytes "missing argument to " ++ backquoted word
  | valueWrong word value =>
    Text.bytes "invalid argument " ++ backquoted value ++ Text.bytes " to " ++ backquoted word
  | predicateWrong word => Text.bytes "invalid predicate " ++ backquoted word
  | operandLate word => Text.bytes "paths must precede expression: " ++ backquoted word
  | depth word value =>
    Text.bytes "Expected a positive decimal integer argument to " ++ word ++ Text.bytes ", but got " ++
      Quoted.curly value
  | sizeUnit unit => Text.bytes "invalid -size type " ++ backquoted [unit]
  | sizeEmpty => Text.bytes "invalid null argument to -size"
  | sizeNumber word => Text.bytes "Invalid argument " ++ backquoted word ++ Text.bytes " to -size"
  | kindEmpty word => Text.bytes "Arguments to " ++ word ++ Text.bytes " should contain at least one letter"
  | kindUnknown word letter => Text.bytes "Unknown argument to " ++ word ++ Text.bytes ": " ++ [letter]
  | kindOpen word =>
    Text.bytes "Last file type in list argument to " ++ word ++
      Text.bytes " is missing, i.e., list is ending on: ','"
  | kindTwice word letter =>
    Text.bytes "Duplicate file type '" ++ letter :: Text.bytes "' in the argument list to " ++ word ++ [byte '.']
  | kindTogether word => Text.bytes "Must separate multiple arguments to " ++ word ++ Text.bytes " using: ','"
  | doors word =>
    word ++ Text.bytes (" D is not supported because Solaris doors are not supported on the platform find was " ++
      "compiled on.")
  | mode text => Text.bytes "invalid mode " ++ Quoted.curly text
  | userEmpty => Text.bytes "The argument to -user should not be empty"
  | user name => Quoted.curly name ++ Text.bytes " is not the name of a known user"
  | group name rest =>
    Quoted.curly name ++ Text.bytes " is not the name of an existing group" ++
      if rest.length = name.length then []
      else
        Text.bytes " and it does not look like a numeric group ID because it has the unexpected suffix " ++
          Quoted.curly rest
  | used value => Text.bytes "Invalid argument " ++ value ++ Text.bytes " to -used"
  | time text =>
    Text.bytes "I cannot figure out how to interpret " ++ Quoted.curly text ++ Text.bytes " as a date or time"
  | context => Text.bytes "invalid predicate -context: SELinux is not enabled."
  | file path fault => Quoted.curly path ++ Text.bytes (": " ++ fault.text)
  | grammar name =>
    Text.bytes "Unknown regular expression type " ++ Quoted.curly name ++ Text.bytes "; valid types are " ++
      ((grammars.map fun known => Quoted.curly (Text.bytes known.1)).intersperse (Text.bytes ", ")).flatten ++
      [byte '.']
  | expression text fault =>
    Text.bytes "failed to compile regular expression '" ++ text ++ Text.bytes ("': " ++ fault.text)
  | formatEnd => Text.bytes "error: % at end of format string"
  | severalBraces inside =>
    Text.bytes ("Only one instance of \x7b\x7d is supported with -exec" ++ (if inside then "dir" else "") ++ " ... +")
  | bracesJoined inside word =>
    Text.bytes "In " ++ Quoted.curly (Text.bytes ("-exec" ++ (if inside then "dir" else "") ++ " ... \x7b\x7d +")) ++
      Text.bytes " the " ++ Quoted.curly (Text.bytes "\x7b\x7d") ++
      Text.bytes " must appear by itself, but you specified " ++ Quoted.curly word
  | deletesPruned =>
    Text.bytes ("The -delete action automatically turns on -depth, but -prune does nothing when -depth is " ++
      "in effect.  " ++
      "If you want to carry on anyway, just explicitly use the -depth option.")
  | nothingBefore word =>
    Text.bytes "invalid expression; you have used a binary operator '" ++ word ++ Text.bytes "' with nothing before it."
  | nothingAfter word => Text.bytes "expected an expression after '" ++ word ++ [byte '\'']
  | nothingBetween word => Text.bytes "expected an expression between '" ++ word ++ Text.bytes "' and ')'"
  | nothing => Text.bytes "invalid expression"
  | closeMissing => Text.bytes "invalid expression; I was expecting to find a ')' somewhere but did not see one."
  | closeMissingAfter word =>
    Text.bytes ("invalid expression; expected to find a ')' but didn't see one. " ++
      "Perhaps you need an extra predicate after '") ++ word ++ [byte '\'']
  | closings => Text.bytes "you have too many ')'"
  | emptyParentheses => Text.bytes "invalid expression; empty parentheses are not allowed."
  | level given =>
    Text.bytes (if given then "Please specify a decimal number immediately after -O"
      else "The -O option must be immediately followed by a decimal integer")
  | operandWithList operand =>
    Text.bytes "extra operand " ++ Quoted.curly operand

/-- What else is said of a fault. -/
def QueryFault.more? : QueryFault → Option Bytes
  | operandWithList _ => some (Text.bytes "file operands cannot be combined with -files0-from")
  | _ => none

/-! ## Tying parts together -/

/-- What ties two parts together; what comes later in this list ties more tightly. -/
inductive Tie
  | comma
  | either
  | both
deriving DecidableEq, Repr

namespace Tie

def strength : Tie → Nat
  | comma => 1
  | either => 2
  | both => 3

def join : Tie → Query → Query → Query
  | comma => .afterwards
  | either => .either
  | both => .both

end Tie

/-- A word of a question. The parentheses around the whole of one that prints were `added`. -/
inductive Token
  | opening (added : Bool)
  | closing (added : Bool)
  | negation (word : Bytes)
  | tie (t : Tie) (word : Bytes)
  | part (q : Query)
deriving DecidableEq, Repr

/-- How tightly a negation ties. -/
def negationStrength : Nat := 4

/-- Read a question from words, up to a tie not stronger than `least`. `before` is the word in front, if it needs
something behind it. `fuel` is more than twice the number of words. -/
def tied (least : Nat) (before : Option Bytes) : (fuel : Nat) → List Token → Except QueryFault (Query × List Token)
  | 0, _ | _, [] => .error .nothing
  | fuel + 1, token :: rest => do
    let (first, rest) ← match token with
      | .part q => pure (q, rest)
      | .tie _ word => throw (.nothingBefore word)
      | .closing added =>
        match before with
        | some word => throw (if added then .nothingAfter word else .nothingBetween word)
        | none => throw .closings
      | .negation word => do
        let (q, rest) ← tied negationStrength (some word) fuel rest
        pure (.negation q, rest)
      | .opening _ =>
        match rest with
        | [] | .closing true :: _ => throw (.closeMissingAfter [byte '('])
        | .closing false :: _ => throw .emptyParentheses
        | _ => do
          let (q, rest) ← tied 0 none fuel rest
          match rest with
          | .closing _ :: rest => pure (q, rest)
          | _ => throw .closeMissing
    more least first fuel rest
where
  /-- Go on behind a part. -/
  more (least : Nat) (first : Query) : (fuel : Nat) → List Token → Except QueryFault (Query × List Token)
    | 0, rest => .ok (first, rest)
    | fuel + 1, rest =>
      match rest with
      | .tie t word :: rest' =>
        if t.strength ≤ least then .ok (first, rest)
        else do
          let (second, rest) ← tied t.strength (some word) fuel rest'
          more least (t.join first second) fuel rest
      | _ => .ok (first, rest)

/-! ## Reading -/

/-- What was read of the words of `find`. -/
structure Search where
  following : Following := .never
  starts : List Bytes := []
  /-- The file that lists where to start. -/
  list : Option Bytes := none
  least : Nat := 0
  most : Option Nat := none
  /-- What is in a directory comes before the directory. -/
  deep : Bool := false
  /-- That was asked for expressly. -/
  deepAsked : Bool := false
  /-- Times are counted from the end of the day. -/
  fromDayEnd : Bool := false
  form : RegexForm := { mixed := true }
  /-- Whether something other than the default is done. -/
  acts : Bool := false
  deletes : Bool := false
  prunes : Bool := false
  commands : Nat := 0
  tokens : List Token := []
  warnings : List Bytes := []

namespace Search

/-- Whether the last token is the end of a part. -/
def endsPart (search : Search) : Bool :=
  match search.tokens.getLast? with
  | some (.part _) | some (.closing _) => true
  | _ => false

/-- Add a token that starts a part. -/
def begin (search : Search) (token : Token) : Search :=
  let joint := if search.endsPart then [Token.tie .both (Text.bytes "-a")] else []
  { search with tokens := search.tokens ++ joint ++ [token] }

def addTest (search : Search) (t : Test) : Search :=
  search.begin (.part (.test t))

def addDeed (search : Search) (d : Deed) : Search :=
  { search.begin (.part (.deed d)) with acts := true }

def warn (search : Search) (text : Bytes) : Search :=
  { search with warnings := search.warnings ++ [text] }

/-! ### Values -/

/-- A pattern for names; where cases are the same, both are made lower. -/
def pattern (loose : Bool) (text : Bytes) : Pattern :=
  .ofBytes (if loose then lowered text else text)

def readKinds (word value : Bytes) : Except QueryFault (List Char) :=
  if value.isEmpty then .error (.kindEmpty word)
  else
    let rec go (seen : List Char) : Bytes → Except QueryFault (List Char)
      | [] => .error (.kindOpen word)
      | letter :: rest =>
        let c := Char.ofNat letter.toNat
        if c = 'D' then .error (.doors word)
        else if !("bcdflps".contains c) then .error (.kindUnknown word letter)
        else if seen.contains c then .error (.kindTwice word letter)
        else
          match rest with
          | [] => .ok (seen ++ [c])
          | 44 :: rest => go (seen ++ [c]) rest
          | _ => .error (.kindTogether word)
    go [] value

def readSize (value : Bytes) : Except QueryFault Test :=
  match value.getLast? with
  | none => .error .sizeEmpty
  | some last =>
    let unit? : Option (Nat × Bytes) := match Char.ofNat last.toNat with
      | 'b' => some (512, value.dropLast)
      | 'c' => some (1, value.dropLast)
      | 'w' => some (2, value.dropLast)
      | 'k' => some (1024, value.dropLast)
      | 'M' => some (1048576, value.dropLast)
      | 'G' => some (1073741824, value.dropLast)
      | _ => if isDigit last then some (512, value) else none
    match unit? with
    | none => .error (.sizeUnit last)
    | some (unit, digits) =>
      match Measure.read digits with
      | some m => .ok (.size unit m)
      | none => .error (.sizeNumber value)

def readMode (value : Bytes) : Except QueryFault Test :=
  let (how, text) : ModeTest × Bytes := match value with
    | 45 :: rest => (.all, rest)
    | 47 :: rest => (.some, rest)
    | _ => (.same, value)
  match Files.modeAfter 0 false text 0, Files.modeAfter 0 true text 0 with
  | some file, some dir => .ok (.mode (if how = .some && file = 0 then .all else how) file dir)
  | _, _ => .error (.mode value)

/-- A number of units of time ago, which may be a fraction, in billionths of a second. -/
def readSpan (unit : Nat) (word value : Bytes) : Except QueryFault (Relation × Nat) :=
  let (relation, digits) := Measure.readRelation value
  match Quantity.read digits with
  | some (q, rest) =>
    match rest, q.negative, q.size with
    | [], false, .finite num den => .ok (relation, num * unit * 1000000000 / den)
    | _, _, _ => .error (.valueWrong word value)
  | none => .error (.valueWrong word value)

/-- A day, in seconds. -/
def dayLength : Nat := 86400

/-- The time from which on days are counted back. -/
def origin (search : Search) (now : Int) : Int :=
  let day : Int := dayLength * 1000000000
  if search.fromDayEnd then now / day * day else now - day

/-- A test for how long ago a file was changed. -/
def readAge (search : Search) (now : Int) (days : Bool) (word value : Bytes) : Except QueryFault Test := do
  let unit := if days then dayLength else 60
  let (relation, span) ← readSpan unit word value
  let second : Int := 1000000000
  let origin := search.origin now
  let origin : Int := if !days then origin + dayLength * second
    else if relation = .less then origin + (dayLength - 1) * second
    else origin
  let start := origin - span
  return .changed (match relation with
    | .less => .greater
    | .greater => .less
    | .equal => .equal) start (unit * 1000000000)

/-- The file that a test compares with. -/
def readFile (search : Search) (s : Scene) (path : Bytes) : Except QueryFault (Nat × Node) :=
  match Files.listedAt s (search.following != .never) path path with
  | .ok f => .ok (f.id, f.node)
  | .error fault => .error (.file path fault)

def readExpression (search : Search) (loose : Bool) (text : Bytes) : Except QueryFault Test :=
  match Regex.read search.form text with
  | .ok r =>
    .ok (.path { regex := ((Regex.edge .textStart).andThen r).andThen (.edge .textEnd), loose := loose })
  | .error fault => .error (.expression text fault)

/-! ### Formats -/

/-- The letters of fields in a format. -/
def fieldLetters : List Char :=
  "abcdDfFgGhHiklmMnpPsStuUyYZ".toList

/-- Read a format, with the warnings that are due. `fuel` is more than its length. -/
def readFormat : (fuel : Nat) → Bytes → Except QueryFault (List Piece × List Bytes)
  | 0, _ | _, [] => .ok ([], [])
  | fuel + 1, b :: rest => do
    let after (pieces : List Piece) (rest : Bytes) (warnings : List Bytes := []) :
        Except QueryFault (List Piece × List Bytes) := do
      let (more, later) ← readFormat fuel rest
      return (pieces ++ more, warnings ++ later)
    if b = byte '\\' then
      match rest with
      | [] => return ([.text [b]], [])
      | c :: more =>
        let octal := (rest.takeWhile Print.isOctal).take 3
        if !octal.isEmpty then after [.text [UInt8.ofNat (Print.octal octal)]] (rest.drop octal.length)
        else if c = byte 'c' then return ([.stop], [])
        else
          match ([('a', 7), ('b', 8), ('f', 12), ('n', 10), ('r', 13), ('t', 9), ('v', 11), ('\\', 92)] :
              List (Char × UInt8)).lookup (Char.ofNat c.toNat) with
          | some code => after [.text [code]] more
          | none => after [.text [b, c]] more [Text.bytes "warning: unrecognized escape " ++ backquoted [b, c]]
    else if b = byte '%' then
      let (c, _, tail) := Conversion.read [] rest
      match rest, tail with
      | [], _ => throw .formatEnd
      | 37 :: more, _ => after [.text [b]] more
      | _, [] => after [.text [b]] rest
      | _, letter :: more =>
        let name := Char.ofNat letter.toNat
        if fieldLetters.contains name then after [.field c name] more
        else if ['A', 'B', 'C', 'T'].contains name then
          match more with
          | format :: more => after [.time c (Char.ofNat format.toNat)] more
          | [] =>
            after [.text [b, letter]] more
              [Text.bytes "warning: format directive " ++ backquoted [b, letter] ++
                Text.bytes " should be followed by another character"]
        else
          after [.text [b]] rest [Text.bytes "warning: unrecognized format directive " ++ backquoted [b, letter]]
    else after [.text [b]] rest

/-! ### Commands -/

/-- The sign in whose place the path is put. -/
def braces : Bytes :=
  Text.bytes "\x7b\x7d"

/-- Whether that sign is in a word. -/
def hasBraces : Bytes → Bool
  | 123 :: 125 :: _ => true
  | _ :: rest => hasBraces rest
  | [] => false

/-- A word with a path in the place of each of those signs. -/
def filled (path : Bytes) : Bytes → Bytes
  | 123 :: 125 :: rest => path ++ filled path rest
  | b :: rest => b :: filled path rest
  | [] => []

/-- The command in front of what ends it, and the rest. -/
def readCommand (word : Bytes) (plus inside : Bool) (args : List Bytes) :
    Except QueryFault (List Bytes × Bool × List Bytes) :=
  let rec go (words : List Bytes) (braced : Bool) : List Bytes → Except QueryFault (List Bytes × Bool × List Bytes)
    | [] => .error (.valueMissing word)
    | arg :: rest =>
      if arg = [byte ';'] then
        if words.isEmpty then .error (.valueWrong word arg) else .ok (words, false, rest)
      else if arg = [byte '+'] && plus && braced then
        let holders := words.filter hasBraces
        if 1 < holders.length then .error (.severalBraces inside)
        else if holders != [braces] then .error (.bracesJoined inside (holders.headD []))
        else .ok (words.dropLast, true, rest)
      else go (words ++ [arg]) (hasBraces arg) rest
  go [] false args

/-! ### Words -/

/-- Read a word with the words behind it that belong to it. -/
def readWord (search : Search) (s : Scene) (word : Bytes) (rest : List Bytes) :
    Except QueryFault (Search × List Bytes) :=
  let value (act : Bytes → Except QueryFault Search) : Except QueryFault (Search × List Bytes) :=
    match rest with
    | [] => .error (.valueMissing word)
    | text :: rest => (act text).map fun search => (search, rest)
  let test (read : Bytes → Except QueryFault Test) : Except QueryFault (Search × List Bytes) :=
    value fun text => (read text).map search.addTest
  let plain (t : Test) : Except QueryFault (Search × List Bytes) := .ok (search.addTest t, rest)
  let deed (d : Deed) : Except QueryFault (Search × List Bytes) := .ok (search.addDeed d, rest)
  let option (changed : Search) : Except QueryFault (Search × List Bytes) :=
    .ok (changed.addTest (.constant true), rest)
  let tie (t : Tie) : Except QueryFault (Search × List Bytes) :=
    .ok ({ search with tokens := search.tokens ++ [.tie t word] }, rest)
  let measure (make : Measure → Test) : Except QueryFault (Search × List Bytes) :=
    test fun text => match Measure.read text with
      | some m => .ok (make m)
      | none => .error (.valueWrong word text)
  let depth (act : Nat → Search) : Except QueryFault (Search × List Bytes) :=
    value fun text => match number? text with
      | some n => .ok ((act n).addTest (.constant true))
      | none => .error (.depth word text)
  let command (plus inside asks : Bool) : Except QueryFault (Search × List Bytes) :=
    (readCommand word plus inside rest).map fun (words, together, rest) =>
      ({ search.addDeed (.run { words, together, inside, asks, number := search.commands }) with
        commands := search.commands + 1 }, rest)
  let formatted (into : Option Bytes) (format : Bytes) : Except QueryFault Search :=
    (readFormat (format.length + 1) format).map fun (pieces, warnings) =>
      warnings.foldl warn (search.addDeed (.format into pieces))
  /- Some time went by since the last change. -/
  let now := s.disk.now + 1
  let after (path : Bytes) : Except QueryFault Test :=
    (search.readFile s path).map fun (id, _) => .changedAfter (s.disk.stampOf id)
  let name := String.ofList (letters word)
  match name with
  | "(" => .ok (search.begin (.opening false), rest)
  | ")" => .ok ({ search with tokens := search.tokens ++ [.closing false] }, rest)
  | "!" | "-not" => .ok (search.begin (.negation word), rest)
  | "," => tie .comma
  | "-a" | "-and" => tie .both
  | "-o" | "-or" => tie .either
  | "-name" => test fun text => .ok (.name false false (pattern false text))
  | "-iname" => test fun text => .ok (.name true false (pattern true text))
  | "-path" | "-wholename" => test fun text => .ok (.name false true (pattern false text))
  | "-ipath" | "-iwholename" => test fun text => .ok (.name true true (pattern true text))
  | "-lname" => test fun text => .ok (.target false (pattern false text))
  | "-ilname" => test fun text => .ok (.target true (pattern true text))
  | "-regex" => test (search.readExpression false)
  | "-iregex" => test (search.readExpression true)
  | "-regextype" =>
    value fun text => match grammars.find? fun known => Text.bytes known.1 = text with
      | some (_, form) => .ok ({ search with form := form }.addTest (.constant true))
      | none => .error (.grammar text)
  | "-type" => test fun text => (readKinds word text).map (.kind false)
  | "-xtype" => test fun text => (readKinds word text).map (.kind true)
  | "-size" => test readSize
  | "-empty" => plain .empty
  | "-perm" => value fun text => (readMode text).map fun t =>
      let search := search.addTest t
      if t = .mode .all 0 0 && text.head? = some Place.slash then
        search.warn (Text.bytes "warning: you have specified a mode pattern " ++ text ++
          Text.bytes (" (which is equivalent to /000). The meaning of -perm /000 has now been changed to be " ++
            "consistent with -perm -000; that is, while it used to match no files, it now matches all files."))
      else search
  | "-newer" | "-anewer" | "-cnewer" | "-newermm" | "-neweraa" | "-newercc" | "-newerma" | "-newermc" | "-neweram" =>
    test after
  | "-newermt" | "-newerat" | "-newerct" =>
    test fun text => match Calendar.read now text with
      | some time => .ok (.changedAfter time)
      | none => .error (.time text)
  | "-mtime" | "-atime" | "-ctime" => test (search.readAge now true word)
  | "-mmin" | "-amin" | "-cmin" => test (search.readAge now false word)
  | "-used" => test fun text => match Measure.read text with
      | some m => .ok (.constant (m.holds 0))
      | none => .error (.used text)
  | "-links" => measure .links
  | "-inum" => measure .id
  | "-uid" | "-gid" => measure .owner
  | "-user" => test fun text =>
      if text.isEmpty then .error .userEmpty
      else
        match Accounts.named? (Accounts.users s) text, number? text with
        | some account, _ => .ok (.owner ⟨.equal, account.number⟩)
        | none, some n => .ok (.owner ⟨.equal, n⟩)
        | none, none => .error (.user text)
  | "-group" => test fun text =>
      match Accounts.named? (Accounts.groups s) text, number? text with
      | some account, _ => .ok (.owner ⟨.equal, account.number⟩)
      | none, some n => .ok (.owner ⟨.equal, n⟩)
      | none, none => .error (.group text (text.dropWhile isDigit))
  | "-nouser" | "-nogroup" | "-false" => plain (.constant false)
  | "-true" | "-readable" | "-writable" => plain (.constant true)
  | "-executable" => plain .startable
  | "-samefile" => test fun text => (search.readFile s text).map fun (id, _) => .same id
  | "-fstype" => test fun text => .ok (.constant (text = Text.bytes "overlay"))
  | "-context" => value fun _ => .error .context
  | "-print" => deed (.print none newline)
  | "-print0" => deed (.print none 0)
  | "-ls" => deed (.list none)
  | "-printf" => value (formatted none)
  | "-fprint" => value fun path => .ok (search.addDeed (.print (some path) newline))
  | "-fprint0" => value fun path => .ok (search.addDeed (.print (some path) 0))
  | "-fls" => value fun path => .ok (search.addDeed (.list (some path)))
  | "-fprintf" =>
    match rest with
    | path :: format :: rest => (formatted (some path) format).map fun search => (search, rest)
    | _ => .error (.valueMissing word)
  | "-delete" => .ok ({ search.addDeed .delete with deep := true, deletes := true }, rest)
  | "-prune" => .ok ({ search.begin (.part (.deed .prune)) with prunes := true }, rest)
  | "-quit" => .ok (search.begin (.part (.deed .quit)), rest)
  | "-exec" => command true false false
  | "-execdir" => command true true false
  | "-ok" => command false false true
  | "-okdir" => command false true true
  | "-maxdepth" => depth fun n => { search with most := some n }
  | "-mindepth" => depth fun n => { search with least := n }
  | "-depth" | "-d" => option { search with deep := true, deepAsked := true }
  | "-daystart" => option { search with fromDayEnd := true }
  | "-follow" => option { search with following := .always }
  | "-files0-from" => value fun path => .ok ({ search with list := some path }.addTest (.constant true))
  | "-mount" | "-xdev" | "-noleaf" | "-warn" | "-nowarn" | "-ignore_readdir_race" | "-noignore_readdir_race" =>
    option search
  | _ =>
    if (Text.bytes "-newer").isPrefixOf word && word.length = 8 then .error (.predicateWrong word)
    else .error (.unknown word)

/-- Whether a word is one of a question; some are not in front of it. -/
def isQuestion (leading : Bool) (word : Bytes) : Bool :=
  match word with
  | 45 :: _ :: _ => true
  | [40] | [33] => true
  | [41] | [44] => !leading
  | _ => false

/-- Read the words of a question. `fuel` is more than their number. -/
def readWords (s : Scene) (search : Search) : (fuel : Nat) → List Bytes → Except QueryFault Search
  | 0, _ | _, [] => .ok search
  | fuel + 1, word :: rest =>
    if !isQuestion false word then .error (.operandLate word)
    else do
      let (search, rest) ← readWord search s word rest
      readWords s search fuel rest

/-- Read what stands in front of the paths. -/
def readLeading (search : Search) : List Bytes → Except QueryFault (Search × List Bytes)
  | [] => .ok (search, [])
  | word :: rest =>
    match letters word with
    | ['-', 'H'] => readLeading { search with following := .named } rest
    | ['-', 'L'] => readLeading { search with following := .always } rest
    | ['-', 'P'] => readLeading { search with following := .never } rest
    | ['-', '-'] => .ok (search, rest)
    | ['-', 'D'] => match rest with
      | [] => .error (.valueMissing word)
      | _ :: rest => readLeading search rest
    | ['-', 'O'] => .error (.level false)
    | '-' :: 'O' :: level =>
      if level.all Char.isDigit then readLeading search rest else .error (.level true)
    | _ => .ok (search, word :: rest)

/-- The question that the tokens make; it prints unless it does something else. -/
def question (search : Search) : Except QueryFault Query := do
  let print : Query := .deed (.print none newline)
  if search.tokens.isEmpty then return print
  let tokens := if search.acts then search.tokens
    else Token.opening true :: search.tokens ++ [.closing true, .tie .both (Text.bytes "-a"), .part print]
  let (q, rest) ← tied 0 none (2 * tokens.length + 2) tokens
  match rest with
  | [] => return q
  | .closing _ :: _ => throw .closings
  | _ => throw .nothing

/-- Read all words: what is to be done, and the question. -/
def read (s : Scene) (args : List Bytes) : Except QueryFault (Search × Query) := do
  let (search, rest) ← readLeading {} args
  let starts := rest.takeWhile fun word => !isQuestion true word
  let words := rest.drop starts.length
  let search ← readWords s { search with starts := starts } (words.length + 1) words
  if search.deletes && search.prunes && !search.deepAsked then throw .deletesPruned
  match search.list, starts with
  | some _, start :: _ => throw (.operandWithList start)
  | _, _ => pure ()
  return (search, ← search.question)

end Search

end Finding

end LineShell.Host
