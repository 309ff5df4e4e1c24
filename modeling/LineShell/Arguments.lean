/-!
# Command line arguments

A command states the options it knows and whether it takes operands (`Usage`). `Usage.read` goes through the words
from left to right: `--` ends the options, `--help` and `help` ask for help, a word that starts with a dash has to
be a known option, and an option takes the next word whatever it looks like. The first error ends the reading, also
after help was asked for.
-/

namespace LineShell

/-- Why arguments are not understood. -/
inductive ArgumentError
  | unrecognized (word : String)
  | missingValue (option : String)
  | invalidValue (option value reason : String)
  /-- An option after help was asked for. -/
  | afterHelp
deriving DecidableEq, Repr

def ArgumentError.message : ArgumentError → String
  | unrecognized word => "Unrecognized argument: " ++ word ++ "\n"
  | missingValue option => "No value provided for option '" ++ option ++ "'.\n"
  | invalidValue option value reason =>
    "Error parsing option '" ++ option ++ "' with value '" ++ value ++ "': " ++ reason ++ "\n"
  | afterHelp => "Trailing arguments are not allowed after `help`."

/-- What an option takes. -/
inductive Takes
  /-- Nothing; it may be repeated. -/
  | nothing
  /-- A value for which `check` finds nothing wrong; a second one is refused unless `repeated`. -/
  | value (repeated : Bool) (check : String → Except String Unit)

/-- What a command takes. -/
structure Usage where
  /-- The options, by name. -/
  options : List (String × Takes)
  /-- Whether any number of operands may follow; the first of them ends the options. -/
  operands : Bool
  /-- What is shown when help is asked for. -/
  help : String

/-- The arguments that were given. -/
structure Arguments where
  /-- Options in the order they were given, with their values. -/
  options : List (String × String) := []
  operands : List String := []
deriving DecidableEq, Repr

namespace Arguments

def addOption (given : Arguments) (name value : String) : Arguments :=
  { given with options := given.options ++ [(name, value)] }

def addOperand (given : Arguments) (word : String) : Arguments :=
  { given with operands := given.operands ++ [word] }

/-- All values of an option, in order. -/
def valuesOf (given : Arguments) (name : String) : List String :=
  (given.options.filter (·.1 == name)).map (·.2)

/-- Whether an option was given. -/
def has (given : Arguments) (name : String) : Bool :=
  given.options.any (·.1 == name)

end Arguments

/-- Why a command does not start. -/
inductive NoStart
  | helpRequested (text : String)
  | invalid (error : ArgumentError)
deriving DecidableEq, Repr

namespace Usage

/-- Take the value of an option. -/
def takeValue (name value : String) (repeated : Bool) (check : String → Except String Unit) (given : Arguments) :
    Except ArgumentError Arguments :=
  if !repeated && given.has name then .error (.invalidValue name value "duplicate values provided")
  else
    match check value with
    | .error reason => .error (.invalidValue name value reason)
    | .ok () => .ok (given.addOption name value)

/-- Go on reading: `options` tells whether options may still come, `help` whether help was asked for. -/
def readFrom (u : Usage) (options help : Bool) (given : Arguments) :
    List String → Except ArgumentError (Bool × Arguments)
  | [] => .ok (help, given)
  | word :: rest =>
    if options && (word = "--help" || word = "help") then readFrom u options true given rest
    else if options && word.toList.head? == some '-' then
      if word = "--" then readFrom u false help given rest
      else if help then .error .afterHelp
      else
        match u.options.lookup word, rest with
        | none, _ => .error (.unrecognized word)
        | some .nothing, rest => readFrom u options help (given.addOption word "") rest
        | some (.value ..), [] => .error (.missingValue word)
        | some (.value repeated check), value :: rest =>
          match takeValue word value repeated check given with
          | .error e => .error e
          | .ok given => readFrom u options help given rest
    else if u.operands then readFrom u false help (given.addOperand word) rest
    else .error (.unrecognized word)

/-- Read the arguments of a command. -/
def read (u : Usage) (words : List String) : Except NoStart Arguments :=
  match u.readFrom true false {} words with
  | .error e => .error (.invalid e)
  | .ok (true, _) => .error (.helpRequested u.help)
  | .ok (false, given) => .ok given

end Usage

end LineShell
