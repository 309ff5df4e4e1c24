import LineShell.Userland.Scene
import LineShell.Userland.Symbols
import LineShell.Userland.Utility.Options

/-!
# Complaints

What utilities say when something goes wrong, and how they quote names in it.

- `Quoted.always`, `Quoted.whereNeeded` and `Quoted.curly` are the ways of quoting;
- `complain` writes one complaint under the name of the program, `withOptions` reads options first.
-/

namespace LineShell.Host

/-- A utility: what it does with its arguments, and the status that it ends with. A status from `killedBy 0` on stands
for the signal that killed it. -/
abbrev Utility := List Bytes → StateM Scene Nat

/-- The status that stands for a signal. -/
def killedBy (signal : Nat) : Nat :=
  256 + signal

namespace Quoted

/-- Whether a symbol can be shown. -/
def isPrintable (x : Symbol) : Bool :=
  32 ≤ x && x != 127 && !(128 ≤ x && x < 160) && !x.isStray

/-- The letter that names a byte without a picture. -/
def letterOf? (b : UInt8) : Option Char :=
  [(7, 'a'), (8, 'b'), (9, 't'), (10, 'n'), (11, 'v'), (12, 'f'), (13, 'r')].lookup b.toNat

/-- A byte without a picture, as an escape. -/
def escape (b : UInt8) : Bytes :=
  match letterOf? b with
  | some letter => [byte '\\', byte letter]
  | none => byte '\\' :: padLeft 3 (byte '0') ((Nat.toDigits 8 b.toNat).map byte)

/-- Go on quoting with single quotes; `inside` tells whether the quotes of an escape are open. -/
def single (inside : Bool) : List Symbol → Bytes
  | [] => if inside then [byte '\''] else []
  | x :: rest =>
    let quote := byte '\''
    if isPrintable x then
      let close : Bytes := if inside then [quote, quote] else []
      (if x = 39 then close ++ [quote, byte '\\', quote, quote] else close ++ x.bytes) ++ single false rest
    else (if inside then [] else [quote, byte '$', quote]) ++ x.bytes.flatMap escape ++ single true rest

/-- Whether a text may stand between double quotes as it is. -/
def fitsDouble (text : Bytes) : Bool :=
  text.all fun b => isDigit b || (byte 'a' ≤ b && b ≤ byte 'z') || (byte 'A' ≤ b && b ≤ byte 'Z') ||
    ("%+,-./:]_ '".toList.map byte).contains b

/-- A text in single quotes, the way a command interpreter would read it. -/
def always (text : Bytes) : Bytes :=
  let quote := byte '\''
  if text.contains quote && fitsDouble text then byte '"' :: text ++ [byte '"']
  else
    let symbols := Symbols.ofBytes text
    let body := single false symbols
    let body := if symbols.getLast?.any fun x => !isPrintable x then body else body ++ [quote]
    quote :: body

/-- Whether a text means something else to a command interpreter. -/
def needsQuotes (text : Bytes) : Bool :=
  text.isEmpty || text.head? = some (byte '#') || text.head? = some (byte '~') || text = Text.bytes "\x7b" ||
    text = Text.bytes "\x7d" || (text.any fun b => (" !\"$&'()*;<=>?[\\^\x60|".toList.map byte).contains b) ||
    (Symbols.ofBytes text).any fun x => !isPrintable x

/-- A text, in quotes if it needs them. -/
def whereNeeded (text : Bytes) : Bytes :=
  if needsQuotes text then always text else text

/-- A text between curly quotes. -/
def curly (text : Bytes) : Bytes :=
  let shown (x : Symbol) : Bytes :=
    if x = 92 then [byte '\\', byte '\\']
    else if x = 0x2019 then byte '\\' :: x.bytes
    else if isPrintable x then x.bytes
    else x.bytes.flatMap escape
  Text.bytes "\u2018" ++ (Symbols.ofBytes text).flatMap shown ++ Text.bytes "\u2019"

end Quoted

/-- Write a line of complaint under the name of the program. -/
def complain (text : Bytes) : StateM Scene Unit :=
  modify fun s => s.complain (s.title ++ Text.bytes ": " ++ text ++ [newline])

/-- Complain with a text of which nothing varies. -/
def complainText (text : String) : StateM Scene Unit :=
  complain (Text.bytes text)

/-- Complain of a file, by its name as it is, and the reason of the system. -/
def complainOf (name : Bytes) (fault : Fault) : StateM Scene Unit :=
  complain (Quoted.whereNeeded name ++ Text.bytes (": " ++ fault.text))

/-- Complain that something could not be done with a file. -/
def complainAbout (deed : String) (name : Bytes) (fault : Fault) : StateM Scene Unit :=
  complain (Text.bytes deed ++ byte ' ' :: Quoted.always name ++ Text.bytes (": " ++ fault.text))

/-- Say where help is to be had. -/
def referToHelp : StateM Scene Unit :=
  modify fun s => s.complain (Text.bytes "Try '" ++ s.title ++ Text.bytes " --help' for more information.\n")

/-- Complain of the way a utility was called. -/
def complainOfUse (text : Bytes) : StateM Scene Unit := do
  complain text
  referToHelp

/-- Complain that an operand is missing, and end with a status. -/
def missingOperand (status : Nat) : StateM Scene Nat := do
  complainOfUse (Text.bytes "missing operand")
  return status

/-- Complain that there is an operand too many, and end with a status. -/
def extraOperand (operand : Bytes) (status : Nat) : StateM Scene Nat := do
  complainOfUse (Text.bytes "extra operand " ++ Quoted.curly operand)
  return status

/-- Run on what was read of the options; what is wrong with them is status `bad`. -/
def withReading (reading : Except OptionFault Given) (bad : Nat) (act : Given → StateM Scene Nat) :
    StateM Scene Nat :=
  match reading with
  | .ok g => act g
  | .error fault => do
    complainOfUse fault.text
    return bad

/-- Run on the options and operands. -/
def withOptions (table : OptionTable) (bad : Nat) (act : Given → StateM Scene Nat) : Utility := fun args =>
  withReading (table.read args) bad act

/-- As `withOptions`, where the first operand ends the options. -/
def withEarlyOptions (table : OptionTable) (bad : Nat) (act : Given → StateM Scene Nat) : Utility := fun args =>
  withReading (table.readEarly args) bad act

/-- How a value of an option is refused, where it cannot be taken. -/
abbrev OptionCheck := Char → Bytes → Option (StateM Scene Unit)

/-- Run on what was read of the options, each of which is looked at on its own: the first that is refused counts, and
what is wrong with the options behind it does not. -/
def withChecks (reading : Given × Option OptionFault) (bad : Nat) (check : OptionCheck)
    (act : Given → StateM Scene Nat) : StateM Scene Nat :=
  match reading.1.options.findSome? fun (letter, value) => check letter value with
  | some refuse => do
    refuse
    return bad
  | none => withReading (OptionTable.ofReading reading) bad act

/-- As `withOptions`, where each option is looked at on its own. -/
def withCheckedOptions (table : OptionTable) (bad : Nat) (check : OptionCheck) (act : Given → StateM Scene Nat) :
    Utility := fun args =>
  withChecks (table.readFrom false {} args) bad check act

/-- Write on standard output. -/
def put (text : Bytes) : StateM Scene Unit :=
  modify fun s => s.print text

def putLine (text : Bytes) : StateM Scene Unit :=
  put (text ++ [newline])

/-- Work on each operand; the status is 0 if all went well, else that of the last that did not. -/
def forOperands (operands : List Bytes) (act : Bytes → StateM Scene Nat) : StateM Scene Nat := do
  let mut status := 0
  for operand in operands do
    let code ← act operand
    if code != 0 then status := code
  return status

/-- Make a change of the files, or complain. -/
def attempt (change : Except Fault Disk) (failed : Fault → StateM Scene Unit) : StateM Scene Nat := do
  match change with
  | .ok d => modify fun s => s.withDisk d; return 0
  | .error fault =>
    failed fault
    return 1

/-- Make a change of the files, if it is granted. -/
def granted (change : Except Fault Disk) : StateM Scene (Except Fault Unit) := do
  match change with
  | .ok d => modify fun s => s.withDisk d; return .ok ()
  | .error fault => return .error fault

end LineShell.Host
