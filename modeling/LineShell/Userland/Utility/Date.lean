import LineShell.Userland.Calendar
import LineShell.Userland.Utility.Choice
import LineShell.Userland.Utility.Inputs

/-!
# The date

`date` prints a time by a format: the time it is, one that is written out, or that of a file.
-/

namespace LineShell.Host

namespace Dates

/-- What is wrong with what was asked for. -/
inductive DateFault
  | invalid (text : Bytes)
  | extra (word : Bytes)
  /-- A word that should be a format. -/
  | noFormat (word : Bytes)
  | severalFormats
  | severalTimes
deriving DecidableEq, Repr

def DateFault.text : DateFault → Bytes
  | invalid text => Text.bytes "invalid date " ++ Quoted.curly text
  | extra word => Text.bytes "extra operand " ++ Quoted.curly word
  | noFormat word =>
    Text.bytes "the argument " ++ Quoted.curly word ++ Text.bytes (" lacks a leading '+';\n" ++
      "when using an option to specify date(s), any non-option\nargument must be a format string beginning with '+'")
  | severalFormats => Text.bytes "multiple output formats specified"
  | severalTimes => Text.bytes "the options to specify dates for printing are mutually exclusive"

/-- Whether the way to call the program has to be told of. -/
def DateFault.isOfUse : DateFault → Bool
  | invalid _ | severalFormats => false
  | _ => true

/-- The formats of the two standards, by how much of the time they show. -/
def isoFormats : List (String × String) :=
  [("hours", "%Y-%m-%dT%H%:z"), ("minutes", "%Y-%m-%dT%H:%M%:z"), ("date", "%Y-%m-%d"),
    ("seconds", "%Y-%m-%dT%H:%M:%S%:z"), ("ns", "%Y-%m-%dT%H:%M:%S,%N%:z")]

def plainFormats : List (String × String) :=
  [("date", "%Y-%m-%d"), ("seconds", "%Y-%m-%d %H:%M:%S%:z"), ("ns", "%Y-%m-%d %H:%M:%S.%N%:z")]

def choices : ChoiceTable :=
  [('I', "iso-8601", isoFormats.map fun (name, _) => [name]),
    ('φ', "rfc-3339", plainFormats.map fun (name, _) => [name])]

/-- The format that a word names, which may be cut short. -/
def named (formats : List (String × String)) (word : Bytes) : Bytes :=
  let name := (Choices.named? (formats.map fun (name, _) => [name]) word).getD "date"
  Text.bytes ((formats.lookup name).getD "")

/-- The formats that options and operands ask for. -/
def formats (g : Given) : List Bytes :=
  (g.options.filterMap fun (letter, value) =>
    if letter = 'I' then some (if value.isEmpty then Text.bytes "%Y-%m-%d" else named isoFormats value)
    else if letter = 'φ' then some (named plainFormats value)
    else if letter = 'R' then some (Text.bytes "%a, %d %b %Y %H:%M:%S %z")
    else none) ++
  g.operands.filterMap fun word => if word.head? = some (byte '+') then some word.tail else none

/-- The format that is used, or what is wrong with what was asked for. -/
def format (g : Given) : Except DateFault Bytes :=
  let isFormat (word : Bytes) : Bool := word.head? = some (byte '+')
  let hasTime := g.has 'd' || g.has 'f' || g.has 'r' || g.has 's'
  let times := (['d', 'f', 'r'].filter g.has).length
  match g.operands with
  | _ :: word :: _ => .error (.extra word)
  | operands =>
    if 1 < times then .error .severalTimes
    else
      match operands.find? fun word => !isFormat word with
      | some word => .error (if hasTime then .noFormat word else .invalid word)
      | none =>
        match formats g with
        | [] => .ok (Text.bytes "%a %b %e %H:%M:%S %Z %Y")
        | [format] => .ok format
        | _ => .error .severalFormats

/-- Print a time. -/
def printTime (format : Bytes) (time : Int) : StateM Scene Nat := do
  putLine ((Moment.ofTime time).render format)
  return 0

/-- Print a time that is written out. -/
def printText (format : Bytes) (text : Bytes) : StateM Scene Nat := do
  match Calendar.read (← get).disk.now text with
  | some time => printTime format time
  | none =>
    complain (DateFault.invalid text).text
    return 1

def table : OptionTable :=
  { letters := "Ru", valued := "dfrsφ", optional := "I",
    words := [("date", 'd'), ("file", 'f'), ("iso-8601", 'I'), ("rfc-email", 'R'), ("rfc-822", 'R'),
      ("rfc-2822", 'R'), ("rfc-3339", 'φ'), ("reference", 'r'), ("set", 's'), ("utc", 'u'), ("uct", 'u'),
      ("universal", 'u')] }

/-- Prints a date. -/
def date : Utility := withOptions table 1 fun g => do
  let given := g.options.filter fun (letter, value) => !(letter = 'I' && value.isEmpty)
  choosing choices { g with options := given } 1 do
    match format g with
    | .error fault =>
      complain fault.text
      if fault.isOfUse then referToHelp
      return 1
    | .ok format =>
      match g.value? 'f', g.value? 'r', g.value? 's', g.value? 'd' with
      | some path, _, _, _ =>
        match ← Inputs.load path with
        | .error fault =>
          complainOf path fault
          return 1
        | .ok text => forOperands (Lines.texts newline text) (printText format)
      | none, some path, _, _ =>
        let s ← get
        match s.disk.locate s.dir path with
        | .ok place => printTime format (s.disk.stampOf place.id)
        | .error fault =>
          complainOf path fault
          return 1
      | none, none, some text, _ =>
        if (Calendar.read (← get).disk.now text).isSome then
          complainText "cannot set date: Operation not permitted"
          let _ ← printText format text
          return 1
        else printText format text
      | none, none, none, some text => printText format text
      | none, none, none, none => printTime format (← get).disk.now

end Dates

end LineShell.Host
