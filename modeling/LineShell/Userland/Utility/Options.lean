import LineShell.Text.Integer

/-!
# The options of utilities

Options stand anywhere before `--`: letters after one dash, several of them together, or words after two. An option
that takes a value has it in the same word or in the next one; one whose value may be left out has it in the same word.

- `OptionTable.read` splits arguments into the options given, in order, and the operands, or says what is wrong with
  them (`OptionFault`).
-/

namespace LineShell.Host

/-- The byte of an ASCII character. -/
def byte (c : Char) : UInt8 :=
  c.toUInt8

/-- Bytes as the characters with their numbers. -/
def letters (text : Bytes) : List Char :=
  text.map fun b => Char.ofNat b.toNat

/-- Whether a byte is a decimal digit. -/
def isDigit (b : UInt8) : Bool :=
  byte '0' ≤ b && b ≤ byte '9'

/-- The number that decimal digits write. -/
def number (digits : Bytes) : Nat :=
  digits.foldl (fun n b => n * 10 + (b - byte '0').toNat) 0

/-- The number that a word of nothing but digits writes. -/
def number? (word : Bytes) : Option Nat :=
  if word.isEmpty || !word.all isDigit then none else some (number word)

/-- The decimal digits of a number. -/
def decimal (n : Nat) : Bytes :=
  Text.bytes (toString n)

/-- A text filled up with a byte in front of it. -/
def padLeft (width : Nat) (fill : UInt8) (text : Bytes) : Bytes :=
  List.replicate (width - text.length) fill ++ text

/-- A text filled up with a byte behind it. -/
def padRight (width : Nat) (fill : UInt8) (text : Bytes) : Bytes :=
  text ++ List.replicate (width - text.length) fill

/-- The letters a utility knows, those that take a value, those that may take one, and the long words for letters. A
letter beyond the bytes can only be written as a word. -/
structure OptionTable where
  letters : String := ""
  valued : String := ""
  optional : String := ""
  words : List (String × Char) := []

/-- The options given, each with its value, and the other arguments. -/
structure Given where
  options : List (Char × Bytes) := []
  operands : List Bytes := []
deriving DecidableEq, Repr

namespace Given

/-- One more option. -/
def add (g : Given) (letter : Char) (value : Bytes) : Given :=
  { g with options := g.options ++ [(letter, value)] }

def has (g : Given) (letter : Char) : Bool :=
  g.options.any (·.1 == letter)

/-- The value of an option; the last one given counts. -/
def value? (g : Given) (letter : Char) : Option Bytes :=
  (g.options.reverse.find? (·.1 == letter)).map (·.2)

/-- All values of an option, in order. -/
def values (g : Given) (letter : Char) : List Bytes :=
  g.options.filterMap fun (known, value) => if known = letter then some value else none

/-- The last one given of some options that exclude each other. -/
def last? (g : Given) (letters : List Char) : Option Char :=
  (g.options.reverse.find? fun option => letters.contains option.1).map (·.1)

end Given

/-- What is wrong with an option. -/
inductive OptionFault
  | unknownLetter (letter : UInt8)
  | unknownWord (word : Bytes)
  /-- Several words start like this. -/
  | ambiguous (word : Bytes) (candidates : List String)
  | valueMissing (letter : Char)
  | wordValueMissing (word : String)
  | valueUnwanted (word : String)
deriving DecidableEq, Repr

def OptionFault.text : OptionFault → Bytes
  | unknownLetter letter => Text.bytes "invalid option -- '" ++ [letter, byte '\'']
  | unknownWord word => Text.bytes "unrecognized option '--" ++ word ++ [byte '\'']
  | ambiguous word candidates =>
    Text.bytes "option '--" ++ word ++ Text.bytes "' is ambiguous; possibilities:" ++
      candidates.flatMap fun name => Text.bytes (" '--" ++ name ++ "'")
  | valueMissing letter => Text.bytes "option requires an argument -- '" ++ [byte letter, byte '\'']
  | wordValueMissing word => Text.bytes ("option '--" ++ word ++ "' requires an argument")
  | valueUnwanted word => Text.bytes ("option '--" ++ word ++ "' doesn't allow an argument")

namespace OptionTable

def knows (t : OptionTable) (letter : Char) : Bool :=
  t.letters.toList.contains letter

def takesValue (t : OptionTable) (letter : Char) : Bool :=
  t.valued.toList.contains letter

def mayTakeValue (t : OptionTable) (letter : Char) : Bool :=
  t.optional.toList.contains letter

/-- What the letters of one word are: options, and what comes behind the last of them. -/
inductive LettersEnd
  | finished
  /-- The last of them still needs a value. -/
  | waiting (letter : Char)
  | faulty (fault : OptionFault)
deriving DecidableEq, Repr

/-- The options that the letters of one word are. -/
def readLetters (t : OptionTable) : Bytes → List (Char × Bytes) × LettersEnd
  | [] => ([], .finished)
  | b :: rest =>
    let letter := Char.ofNat b.toNat
    if t.takesValue letter then (if rest.isEmpty then ([], .waiting letter) else ([(letter, rest)], .finished))
    else if t.mayTakeValue letter then ([(letter, rest)], .finished)
    else if t.knows letter then
      let (options, ending) := t.readLetters rest
      ((letter, []) :: options, ending)
    else ([], .faulty (.unknownLetter b))

/-- The full word and the letter that a long word stands for; it may be cut short if it stays clear what is meant. -/
def wordOf (t : OptionTable) (word : Bytes) : Except OptionFault (String × Char) :=
  match t.words.find? fun (long, _) => Text.bytes long = word with
  | some found => .ok found
  | none =>
    match t.words.filter fun (long, _) => word.isPrefixOf (Text.bytes long) with
    | [] => .error (.unknownWord word)
    | first :: more =>
      if more.all (·.2 == first.2) then .ok first
      else .error (.ambiguous word ((first :: more).map (·.1)))

/-- Go on reading arguments, up to the first that is wrong. With `early`, the first operand ends the options. -/
def readFrom (t : OptionTable) (early : Bool) (g : Given) : List Bytes → Given × Option OptionFault
  | [] => (g, none)
  | word :: rest =>
    match word with
    | 45 :: 45 :: name =>
      if name.isEmpty then ({ g with operands := g.operands ++ rest }, none)
      else
        let key := name.takeWhile (· != byte '=')
        let value? := if key.length < name.length then some (name.drop (key.length + 1)) else none
        match t.wordOf key with
        | .error (.unknownWord _) => (g, some (.unknownWord (if value?.isSome then name else key)))
        | .error fault => (g, some fault)
        | .ok (long, letter) =>
          if t.takesValue letter && value?.isNone then
            match rest with
            | value :: rest => t.readFrom early (g.add letter value) rest
            | [] => (g, some (.wordValueMissing long))
          else if value?.isSome && !t.takesValue letter && !t.mayTakeValue letter then (g, some (.valueUnwanted long))
          else t.readFrom early (g.add letter (value?.getD [])) rest
    | 45 :: b :: more =>
      let (options, ending) := t.readLetters (b :: more)
      let g := { g with options := g.options ++ options }
      match ending with
      | .finished => t.readFrom early g rest
      | .faulty fault => (g, some fault)
      | .waiting letter =>
        match rest with
        | [] => (g, some (.valueMissing letter))
        | value :: rest => t.readFrom early (g.add letter value) rest
    | _ =>
      if early then ({ g with operands := g.operands ++ word :: rest }, none)
      else t.readFrom early { g with operands := g.operands ++ [word] } rest

/-- What was read of arguments, if nothing is wrong with them. -/
def ofReading (reading : Given × Option OptionFault) : Except OptionFault Given :=
  match reading with
  | (g, none) => .ok g
  | (_, some fault) => .error fault

/-- Split arguments into options and operands. -/
def read (t : OptionTable) (args : List Bytes) : Except OptionFault Given :=
  ofReading (t.readFrom false {} args)

/-- As `read`, where the first operand ends the options. -/
def readEarly (t : OptionTable) (args : List Bytes) : Except OptionFault Given :=
  ofReading (t.readFrom true {} args)

end OptionTable

end LineShell.Host
