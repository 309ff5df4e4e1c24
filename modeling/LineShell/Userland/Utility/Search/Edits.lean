import LineShell.Userland.Regex.Fitting
import LineShell.Userland.Regex.Reading
import LineShell.Userland.Utility.Complaint

/-!
# Scripts of edits

What `sed` is told to do: commands, each for some of the lines. A block of commands is written between braces; here it
is a command that knows where the block ends.

- `Edits.read` reads a script, or says what is wrong with it, and where (`EditFault`).
-/

namespace LineShell.Host

namespace Edits

/-! ## Commands -/

/-- Which lines are meant. -/
inductive Address
  | line (n : Nat)
  | step (first step : Nat)
  | last
  /-- Lines in which an expression fits; without one, the expression that was used last. -/
  | fitting (m : Option Matcher)
deriving DecidableEq, Repr

/-- Where a range of lines ends. -/
inductive RangeEnd
  | address (a : Address)
  | more (n : Nat)
  | multiple (n : Nat)
deriving DecidableEq, Repr

/-- A change of case in a replacement. -/
inductive Casing
  | upper
  | lower
  | upperNext
  | lowerNext
  | none
deriving DecidableEq, Repr

/-- A part of a replacement. -/
inductive Piece
  | text (symbols : List Symbol)
  /-- What a group fitted; group 0 is all. -/
  | group (n : Nat)
  | casing (c : Casing)
deriving DecidableEq, Repr

/-- Something to be put in the place of what fits. -/
structure Substitution where
  matcher : Option Matcher
  pieces : List Piece
  /-- The fit from which on something is put in place, or the only one. -/
  which : Nat := 1
  all : Bool := false
  shown : Bool := false
  file : Option Bytes := none
deriving DecidableEq, Repr

/-- When a branch is taken. -/
inductive BranchRule
  | always
  | ifChanged
  | unlessChanged
deriving DecidableEq, Repr

/-- What a command does. -/
inductive Edit
  /-- The start of a block, and the number of the command that ends it. -/
  | opening (finish : Nat)
  | closing
  | label (name : Bytes)
  | branch (rule : BranchRule) (name : Bytes)
  | lineNumber
  | append (text : Bytes)
  | insert (text : Bytes)
  | change (text : Bytes)
  | delete
  | deleteFirst
  | fileName
  | fetch (added : Bool)
  | hold (added : Bool)
  | exchange
  | list (width : Option Nat)
  | next (added : Bool)
  | print
  | printFirst
  | quit (shown : Bool) (status : Nat)
  | readFile (path : Bytes)
  | readLine (path : Bytes)
  | substitute (s : Substitution)
  | write (first : Bool) (path : Bytes)
  | translate (table : List (Symbol × Symbol))
  | clear
  | nothing
deriving DecidableEq, Repr

/-- A command with the lines it is for. -/
structure EditCommand where
  first : Option Address := none
  last : Option RangeEnd := none
  inverted : Bool := false
  edit : Edit
deriving DecidableEq, Repr

/-! ## What may be wrong -/

inductive EditMistake
  | unknownCommand (b : UInt8)
  | missingCommand
  | twoNegations
  | badStep
  | badComma
  | lineZero
  | oneAddress
  | labelAddress
  | commentAddress
  | braceAddress
  | unmatchedOpening
  | unmatchedClosing
  | extraText
  | textExpected
  | emptyLabel
  | openAddress
  | openSubstitution
  | openTranslation
  | unknownFlag
  | twoPrints
  | twoGlobals
  | twoNumbers
  | zeroNumber
  | lengths
  | fileMissing
  | newerVersion
  | reference (n : Nat)
  | modifiers
  | expression (fault : RegexFault)
deriving DecidableEq, Repr

def EditMistake.text : EditMistake → Bytes
  | unknownCommand b => Text.bytes "unknown command: \x60" ++ [b, byte '\'']
  | missingCommand => Text.bytes "missing command"
  | twoNegations => Text.bytes "multiple \x60!'s"
  | badStep => Text.bytes "invalid usage of +N or ~N as first address"
  | badComma => Text.bytes "unexpected \x60,'"
  | lineZero => Text.bytes "invalid usage of line address 0"
  | oneAddress => Text.bytes "command only uses one address"
  | labelAddress => Text.bytes ": doesn't want any addresses"
  | commentAddress => Text.bytes "comments don't accept any addresses"
  | braceAddress => Text.bytes "\x7d doesn't want any addresses"
  | unmatchedOpening => Text.bytes "unmatched \x60\x7b'"
  | unmatchedClosing => Text.bytes "unexpected \x60\x7d'"
  | extraText => Text.bytes "extra characters after command"
  | textExpected => Text.bytes "expected \\ after \x60a', \x60c' or \x60i'"
  | emptyLabel => Text.bytes "\":\" lacks a label"
  | openAddress => Text.bytes "unterminated address regex"
  | openSubstitution => Text.bytes "unterminated \x60s' command"
  | openTranslation => Text.bytes "unterminated \x60y' command"
  | unknownFlag => Text.bytes "unknown option to \x60s'"
  | twoPrints => Text.bytes "multiple \x60p' options to \x60s' command"
  | twoGlobals => Text.bytes "multiple \x60g' options to \x60s' command"
  | twoNumbers => Text.bytes "multiple number options to \x60s' command"
  | zeroNumber => Text.bytes "number option to \x60s' command may not be zero"
  | lengths => Text.bytes "strings for \x60y' command are different lengths"
  | fileMissing => Text.bytes "missing filename in r/R/w/W commands"
  | newerVersion => Text.bytes "expected newer version of sed"
  | reference n => Text.bytes "invalid reference \\" ++ decimal n ++ Text.bytes " on \x60s' command's RHS"
  | modifiers => Text.bytes "cannot specify modifiers on empty regexp"
  | expression fault => Text.bytes fault.text

/-- What is wrong with a script, and how much of it was not read yet; nothing of it was, if that is not known. -/
structure EditFault where
  mistake : EditMistake
  unread : Option Nat
deriving DecidableEq, Repr

def wrong {α : Type} (mistake : EditMistake) (rest : Bytes) : Except EditFault α :=
  .error ⟨mistake, some rest.length⟩

/-! ## Texts -/

def skipBlanks (text : Bytes) : Bytes :=
  text.dropWhile fun b => b = byte ' ' || b = 9

/-- A number at the start of a text; no digits are 0. -/
def readNumber (text : Bytes) : Nat × Bytes :=
  (number (text.takeWhile isDigit), text.dropWhile isDigit)

/-- How much of a text a set takes up to the bracket that closes it. `named` is the sign of a class that is open. -/
def setLength (first : Bool) (named : Option UInt8) : Bytes → Option Nat
  | [] => none
  | [b] => if named.isNone && b = byte ']' && !first then some 1 else none
  | b :: c :: rest =>
    if b = newline then none
    else
      match named with
      | some sign =>
        if b = sign && c = byte ']' then (setLength false none rest).map (· + 2)
        else (setLength false (some sign) (c :: rest)).map (· + 1)
      | none =>
        if b = byte ']' && !first then some 1
        else if b = byte '[' && [byte ':', byte '.', byte '='].contains c then
          (setLength false (some c) rest).map (· + 2)
        else (setLength (first && b = byte '^') none (c :: rest)).map (· + 1)

/-- The text up to a sign that is not escaped, and what follows it. An escaped sign is the sign; in an expression an
escaped `n` is a newline, and a sign in a set is part of it. `none` if the sign does not come before the line ends.
`inSet` is how much is left of a set. -/
def upTo (sign : UInt8) (expression : Bool) (inSet : Nat) (taken : Bytes) : Bytes → Option Bytes × Bytes
  | [] => (none, [])
  | 92 :: b :: rest =>
    let inSet := inSet - 2
    if expression && b = byte 'n' then upTo sign expression inSet (newline :: taken) rest
    else if b = newline || (b = sign && (expression || b != byte '&')) then
      upTo sign expression inSet (b :: taken) rest
    else upTo sign expression inSet (b :: 92 :: taken) rest
  | b :: rest =>
    if b = sign && inSet = 0 then (some taken.reverse, rest)
    else if b = newline then (none, b :: rest)
    else
      let inSet := if inSet = 0 && expression && b = byte '[' then
          (setLength true none rest).getD rest.length
        else inSet - 1
      upTo sign expression inSet (b :: taken) rest

/-- The byte that an escape with a number writes, and what follows it. -/
def numbered? (base width : Nat) (text : Bytes) : Option (UInt8 × Bytes) :=
  let value (b : UInt8) : Option Nat :=
    let n := b.toNat
    let v :=
      if 48 ≤ n && n ≤ 57 then n - 48
      else if 97 ≤ n && n ≤ 102 then n - 87
      else if 65 ≤ n && n ≤ 70 then n - 55
      else 99
    if v < base then some v else none
  let digits := ((text.take width).map value).takeWhile Option.isSome
  if digits.isEmpty then none
  else
    let total := digits.foldl (fun n digit => n * base + digit.getD 0) 0
    some (UInt8.ofNat total, text.drop digits.length)

/-- The byte that an escape writes, and what follows it; `none` for an escape that means something else. -/
def written? (text : Bytes) : Option (UInt8 × Bytes) :=
  match text with
  | [] => none
  | b :: rest =>
    match Char.ofNat b.toNat with
    | 'a' => some (7, rest)
    | 'f' => some (12, rest)
    | 'r' => some (13, rest)
    | 't' => some (9, rest)
    | 'v' => some (11, rest)
    | 'c' =>
      match rest with
      | c :: rest =>
        let upper := if byte 'a' ≤ c && c ≤ byte 'z' then c - 32 else c
        if c = 92 then none else some (upper ^^^ 0x40, rest)
      | [] => none
    | 'd' => numbered? 10 3 rest
    | 'o' => numbered? 8 3 rest
    | 'x' => numbered? 16 2 rest
    | _ => none

/-- Put bytes in the place of the escapes that write them; one of the `signs` stays escaped. `fuel` is more than the
length. -/
def unescaped (signs : List UInt8) : (fuel : Nat) → Bytes → Bytes
  | 0, _ | _, [] => []
  | fuel + 1, 92 :: rest =>
    match written? rest with
    | some (b, rest) => (if signs.contains b then [92, b] else [b]) ++ unescaped signs fuel rest
    | none =>
      match rest with
      | b :: rest => 92 :: b :: unescaped signs fuel rest
      | [] => [92]
  | fuel + 1, b :: rest => b :: unescaped signs fuel rest

/-- The text of a command that adds lines, without its backslashes, and what follows its line. `fuel` is more than the
length. -/
def readLines : (fuel : Nat) → Bytes → Bytes × Bytes
  | 0, text => ([newline], text)
  | _, [] => ([newline], [])
  | fuel + 1, 92 :: rest =>
    match written? rest with
    | some (b, rest) => let (text, after) := readLines fuel rest; (b :: text, after)
    | none =>
      match rest with
      | [] => ([newline], [])
      | b :: rest => let (text, after) := readLines fuel rest; (b :: text, after)
  | fuel + 1, b :: rest =>
    if b = newline then ([newline], rest)
    else let (text, after) := readLines fuel rest; (b :: text, after)

/-- The text that a command adds. -/
def readText (text : Bytes) : Except EditFault (Bytes × Bytes) :=
  let text := skipBlanks text
  let lines (text : Bytes) : Except EditFault (Bytes × Bytes) := .ok (readLines (text.length + 1) text)
  match text with
  | [] => wrong .textExpected []
  | [92] => .ok ([], [])
  | 92 :: rest =>
    let after := skipBlanks rest
    match after with
    | 10 :: more => if more.isEmpty then .ok ([], []) else lines more
    | _ => lines rest
  | _ => lines text

/-- What a replacement consists of. -/
def pieces : List Symbol → List Piece
  | [] => []
  | 92 :: x :: rest =>
    let here : Piece :=
      if 48 ≤ x && x ≤ 57 then .group (x - 48)
      else
        match Char.ofNat x with
        | 'n' => .text [10]
        | 'U' => .casing .upper
        | 'L' => .casing .lower
        | 'u' => .casing .upperNext
        | 'l' => .casing .lowerNext
        | 'E' => .casing .none
        | _ => .text [x]
    here :: pieces rest
  | x :: rest => (if x = 38 then .group 0 else .text [x]) :: pieces rest

/-- The text of one half of a translation. -/
def translated : List Symbol → List Symbol
  | 92 :: 92 :: rest => 92 :: translated rest
  | 92 :: 110 :: rest => 10 :: translated rest
  | x :: rest => x :: translated rest
  | [] => []

/-! ## Reading -/

/-- Read an expression between signs; an empty one stands for the one used last. `rest` is what follows it. -/
def readMatcher (extended : Bool) (text : Bytes) (loose byLines : Bool) (rest : Bytes) :
    Except EditFault (Option Matcher) :=
  if text.isEmpty then if loose || byLines then wrong .modifiers rest else .ok none
  else
    let form : RegexForm :=
      { extended := extended, once := !extended, byLines := byLines, checksClasses := true }
    match Regex.read form (unescaped [] (text.length + 1) text) with
    | .ok r => .ok (some { regex := r, loose := loose })
    | .error fault => wrong (.expression fault) rest

/-- The letters behind the expression of an address. -/
def readModifiers (loose byLines : Bool) : (fuel : Nat) → Bytes → Bool × Bool × Bytes
  | 0, text => (loose, byLines, text)
  | fuel + 1, text =>
    match skipBlanks text with
    | 73 :: rest => readModifiers true byLines fuel rest
    | 77 :: rest => readModifiers loose true fuel rest
    | rest => (loose, byLines, rest)

/-- Read an address, if there is one. -/
def readAddress (extended : Bool) (text : Bytes) : Except EditFault (Option RangeEnd × Bytes) :=
  let fitting (sign : UInt8) (rest : Bytes) : Except EditFault (Option RangeEnd × Bytes) :=
    match upTo sign true 0 [] rest with
    | (none, rest) => wrong .openAddress rest
    | (some pattern, rest) => do
      let (loose, byLines, rest) := readModifiers false false (rest.length + 1) rest
      let m ← readMatcher extended pattern loose byLines rest
      return (some (.address (.fitting m)), rest)
  match text with
  | [] => .ok (none, [])
  | b :: rest =>
    match Char.ofNat b.toNat with
    | '/' => fitting b rest
    | '\\' =>
      match rest with
      | sign :: rest => if sign = newline then wrong .openAddress rest else fitting sign rest
      | [] => wrong .openAddress []
    | '$' => .ok (some (.address .last), rest)
    | '+' => let (n, rest) := readNumber (skipBlanks rest); .ok (some (.more n), rest)
    | '~' => let (n, rest) := readNumber (skipBlanks rest); .ok (some (.multiple n), rest)
    | _ =>
      if isDigit b then
        let (n, rest) := readNumber text
        match skipBlanks rest with
        | 126 :: more =>
          let (step, more) := readNumber (skipBlanks more)
          .ok (some (.address (if step = 0 then .line n else .step n step)), more)
        | rest => .ok (some (.address (.line n)), rest)
      else .ok (none, text)

/-- Go past the end of a command. -/
def endCommand {α : Type} (result : α) (text : Bytes) : Except EditFault (α × Bytes) :=
  match skipBlanks text with
  | [] => .ok (result, [])
  | b :: rest =>
    if b = byte '\x7d' || b = byte '#' then .ok (result, b :: rest)
    else if b = newline || b = byte ';' then .ok (result, rest)
    else wrong .extraText rest

/-- The name of a file, up to the end of the line. -/
def readPath (text : Bytes) : Except EditFault (Bytes × Bytes) :=
  let text := skipBlanks text
  let path := text.takeWhile (· != newline)
  let rest := (text.drop path.length).drop 1
  if path.isEmpty then wrong .fileMissing rest else .ok (path, rest)

/-- A label, and what follows it. -/
def readLabel (text : Bytes) : Bytes × Bytes :=
  let text := skipBlanks text
  let label := text.takeWhile fun b => b != byte ';' && b != byte '\x7d' && b != byte ' ' && !(9 ≤ b && b ≤ 13)
  (label, text.drop label.length)

/-- The letters behind a substitution. -/
def readFlags (s : Substitution) (loose byLines counted : Bool) : (fuel : Nat) → Bytes →
    Except EditFault ((Substitution × Bool × Bool) × Bytes)
  | 0, rest => .ok ((s, loose, byLines), rest)
  | _, [] => .ok ((s, loose, byLines), [])
  | fuel + 1, b :: rest =>
    match Char.ofNat b.toNat with
    | 'i' | 'I' => readFlags s true byLines counted fuel rest
    | 'm' | 'M' => readFlags s loose true counted fuel rest
    | 'e' | ' ' => readFlags s loose byLines counted fuel rest
    | 'p' =>
      if s.shown then wrong .twoPrints rest
      else readFlags { s with shown := true } loose byLines counted fuel rest
    | 'g' => if s.all then wrong .twoGlobals rest else readFlags { s with all := true } loose byLines counted fuel rest
    | 'w' => do
      let (path, rest) ← readPath rest
      return (({ s with file := some path }, loose, byLines), rest)
    | '\x7d' | '#' => .ok ((s, loose, byLines), b :: rest)
    | ';' | '\n' => .ok ((s, loose, byLines), rest)
    | _ =>
      if isDigit b then
        let (n, rest) := readNumber (b :: rest)
        if counted then wrong .twoNumbers rest
        else if n = 0 then wrong .zeroNumber rest
        else readFlags { s with which := n } loose byLines true fuel rest
      else wrong .unknownFlag rest

/-- Read a substitution, from behind its letter. -/
def readSubstitution (extended : Bool) (text : Bytes) : Except EditFault (Edit × Bytes) :=
  match text with
  | [] => wrong .openSubstitution []
  | sign :: rest =>
    if sign = newline then wrong .openSubstitution text
    else
      match upTo sign true 0 [] rest with
      | (none, rest) => wrong .openSubstitution rest
      | (some pattern, rest) =>
        match upTo sign false 0 [] rest with
        | (none, rest) => wrong .openSubstitution rest
        | (some replacement, rest) => do
          let replacement := unescaped [92, 38, 10] (replacement.length + 1) replacement
          let parts := pieces (Symbols.ofBytes replacement)
          let ((s, loose, byLines), rest) ←
            readFlags { matcher := none, pieces := parts } false false false (rest.length + 1) rest
          let m ← readMatcher extended pattern loose byLines rest
          let highest := (parts.map fun
            | .group n => n
            | _ => 0).foldl max 0
          match m with
          | some m =>
            if m.regex.groupCount < highest then wrong (.reference highest) rest
            else return (.substitute { s with matcher := some m }, rest)
          | none => return (.substitute s, rest)

/-- Read a translation, from behind its letter. -/
def readTranslation (text : Bytes) : Except EditFault (Edit × Bytes) :=
  match text with
  | [] => wrong .openTranslation []
  | sign :: rest =>
    match upTo sign false 0 [] rest with
    | (none, rest) => wrong .openTranslation rest
    | (some source, rest) =>
      match upTo sign false 0 [] rest with
      | (none, rest) => wrong .openTranslation rest
      | (some target, rest) =>
        let half (text : Bytes) : List Symbol := translated (Symbols.ofBytes (unescaped [92] (text.length + 1) text))
        let source := half source
        let target := half target
        if source.length != target.length then wrong .lengths rest
        else endCommand (.translate (source.zip target)) rest

/-- Read what a command does; `ranged` tells whether it is for a range of lines. -/
def readEdit (extended addressed ranged : Bool) (text : Bytes) : Except EditFault (Edit × Bytes) :=
  match text with
  | [] => wrong .missingCommand []
  | b :: rest =>
    let simple (edit : Edit) : Except EditFault (Edit × Bytes) := endCommand edit rest
    let textual (make : Bytes → Edit) : Except EditFault (Edit × Bytes) :=
      (readText rest).map fun (text, rest) => (make text, rest)
    let toPath (make : Bytes → Edit) : Except EditFault (Edit × Bytes) :=
      (readPath rest).map fun (path, rest) => (make path, rest)
    let branch (rule : BranchRule) : Except EditFault (Edit × Bytes) :=
      let (label, rest) := readLabel rest
      .ok (.branch rule label, rest)
    let counted (make : Option Nat → Edit) : Except EditFault (Edit × Bytes) :=
      let rest := skipBlanks rest
      if rest.head?.any isDigit then
        let (n, rest) := readNumber rest
        endCommand (make (some n)) rest
      else endCommand (make none) rest
    match Char.ofNat b.toNat with
    | '\x7b' => .ok (.opening 0, rest)
    | '\x7d' => if addressed then wrong .braceAddress rest else simple .closing
    | ':' =>
      if addressed then wrong .labelAddress rest
      else
        let (label, rest) := readLabel rest
        if label.isEmpty then wrong .emptyLabel rest else .ok (.label label, rest)
    | '#' =>
      if addressed then wrong .commentAddress rest
      else .ok (.nothing, (rest.dropWhile (· != newline)).drop 1)
    | '=' => simple .lineNumber
    | 'a' => textual .append
    | 'i' => textual .insert
    | 'c' => textual .change
    | 'b' => branch .always
    | 't' => branch .ifChanged
    | 'T' => branch .unlessChanged
    | 'd' => simple .delete
    | 'D' => simple .deleteFirst
    | 'e' => .ok (.nothing, (rest.dropWhile (· != newline)).drop 1)
    | 'F' => simple .fileName
    | 'g' => simple (.fetch false)
    | 'G' => simple (.fetch true)
    | 'h' => simple (.hold false)
    | 'H' => simple (.hold true)
    | 'x' => simple .exchange
    | 'l' => counted .list
    | 'n' => simple (.next false)
    | 'N' => simple (.next true)
    | 'p' => simple .print
    | 'P' => simple .printFirst
    | 'q' => if ranged then wrong .oneAddress rest else counted fun n => .quit true (n.getD 0)
    | 'Q' => if ranged then wrong .oneAddress rest else counted fun n => .quit false (n.getD 0)
    | 'r' => toPath .readFile
    | 'R' => toPath .readLine
    | 's' => readSubstitution extended rest
    | 'v' =>
      let (version, rest) := readLabel rest
      if (version.head?.any fun b => byte '4' < b) then wrong .newerVersion rest else .ok (.nothing, rest)
    | 'w' => toPath (.write false)
    | 'W' => toPath (.write true)
    | 'y' => readTranslation rest
    | 'z' => simple .clear
    | _ => wrong (.unknownCommand b) rest

/-- Read a command with its addresses. -/
def readCommand (extended : Bool) (text : Bytes) : Except EditFault (EditCommand × Bytes) := do
  let (first, rest) ← readAddress extended text
  let (last, rest) ← (match first with
    | none => .ok (none, rest)
    | some (.address _) =>
      match skipBlanks rest with
      | 44 :: more => do
        let more := skipBlanks more
        match ← readAddress extended more with
        | (some last, rest) => .ok (some last, skipBlanks rest)
        | (none, _) => wrong .badComma (more.drop 1)
      | rest => .ok (none, rest)
    | some _ => wrong .badStep rest : Except EditFault (Option RangeEnd × Bytes))
  let isZero := first = some (.address (.line 0))
  let isFitting : Bool := match last with
    | some (.address (.fitting _)) => true
    | _ => false
  if isZero && !isFitting then wrong .lineZero (rest.drop 1)
  let (inverted, rest) ← (match rest with
    | 33 :: more =>
      match skipBlanks more with
      | 33 :: more => wrong .twoNegations more
      | more => .ok (true, more)
    | _ => .ok (false, rest) : Except EditFault (Bool × Bytes))
  let (edit, rest) ← readEdit extended first.isSome last.isSome rest
  let first := match first with
    | some (.address a) => some a
    | _ => none
  return ({ first := first, last := last, inverted := inverted, edit := edit }, rest)

/-- Read commands, where blocks that are open lie in a number. `fuel` is more than the length. -/
def readCommands (extended : Bool) (opened : Nat) : (fuel : Nat) → Bytes → Except EditFault (List EditCommand)
  | 0, _ => .ok []
  | fuel + 1, text => do
    let text := text.dropWhile fun b => b = byte ';' || b = byte ' ' || (9 ≤ b && b ≤ 13)
    if text.isEmpty then
      if opened = 0 then return [] else throw ⟨.unmatchedOpening, none⟩
    else
      let (c, rest) ← (readCommand extended text).mapError fun fault =>
        if opened = 0 && fault.mistake = .braceAddress then { fault with mistake := .unmatchedClosing } else fault
      match c.edit with
      | .opening _ => return c :: (← readCommands extended (opened + 1) fuel rest)
      | .closing =>
        if opened = 0 then wrong .unmatchedClosing rest
        else return c :: (← readCommands extended (opened - 1) fuel rest)
      | _ => return c :: (← readCommands extended opened fuel rest)

/-- The number of the command that ends the block in which a command is, `depth` blocks further out. -/
def closingAfter (commands : List EditCommand) (n depth : Nat) : Nat :=
  match commands with
  | [] => n
  | c :: rest =>
    match c.edit, depth with
    | .closing, 0 => n
    | .closing, depth + 1 => closingAfter rest (n + 1) depth
    | .opening _, depth => closingAfter rest (n + 1) (depth + 1)
    | _, _ => closingAfter rest (n + 1) depth

/-- Let blocks know where they end. -/
def resolved (n : Nat) : List EditCommand → List EditCommand
  | [] => []
  | c :: rest =>
    let c := match c.edit with
      | .opening _ => { c with edit := .opening (closingAfter rest (n + 1) 0) }
      | _ => c
    c :: resolved (n + 1) rest

/-- Read a script. -/
def read (extended : Bool) (script : Bytes) : Except EditFault (List EditCommand) :=
  (readCommands extended 0 (script.length + 1) script).map (resolved 0)

/-- The label of a branch that leads nowhere, if there is one. -/
def lostLabel? (commands : List EditCommand) : Option Bytes :=
  commands.findSome? fun c =>
    match c.edit with
    | .branch _ name =>
      if name.isEmpty || commands.any fun c => c.edit = .label name then none else some name
    | _ => none

/-- The files that commands write. -/
def written (commands : List EditCommand) : List Bytes :=
  commands.filterMap fun c => match c.edit with
    | .write _ path => some path
    | .substitute s => s.file
    | _ => none

end Edits

end LineShell.Host
