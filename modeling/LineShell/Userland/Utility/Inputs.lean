import LineShell.Userland.Utility.Complaint

/-!
# The inputs of filters

Filters read the files that their operands name, one after the other; a dash is standard input, which is also read where
there are no operands.

- `Inputs.load` reads an operand, `Inputs.forAll` works on each of them and complains of those that cannot be read;
- `Lines.split` cuts a text into lines, each with what ends it.
-/

namespace LineShell.Host

namespace Lines

/-- The lines of a text, each with the byte that ends it; the last one may lack it. `fuel` is more than the length. -/
def splitFrom (ending : UInt8) : (fuel : Nat) → Bytes → List Bytes
  | 0, _ | _, [] => []
  | fuel + 1, text =>
    let line := text.take ((text.takeWhile (· != ending)).length + 1)
    line :: splitFrom ending fuel (text.drop line.length)

def split (ending : UInt8) (text : Bytes) : List Bytes :=
  splitFrom ending (text.length + 1) text

/-- Whether a line is ended. -/
def isEnded (ending : UInt8) (line : Bytes) : Bool :=
  line.getLast? = some ending

/-- A line without the byte that ends it. -/
def bare (ending : UInt8) (line : Bytes) : Bytes :=
  if isEnded ending line then line.dropLast else line

/-- The lines of a text without what ends them. -/
def texts (ending : UInt8) (text : Bytes) : List Bytes :=
  (split ending text).map (bare ending)

/-- The byte that ends lines: a newline, or NUL if that is asked for. -/
def ending (g : Given) : UInt8 :=
  if g.has 'z' then 0 else newline

end Lines

/-- Whether a byte separates words. -/
def isBlank (b : UInt8) : Bool :=
  b = byte ' ' || (9 ≤ b && b ≤ 13)

namespace Inputs

/-- The operands, or standard input where there are none. -/
def paths (operands : List Bytes) : List Bytes :=
  if operands.isEmpty then [[byte '-']] else operands

/-- Whether an operand stands for standard input. -/
def isStandard (path : Bytes) : Bool :=
  path = [byte '-']

/-- The stream that an operand stands for, opened for reading. -/
def stream (path : Bytes) : StateM Scene (Except Fault Nat) := do
  let s ← get
  if isStandard path then
    return match s.descriptors.lookup 0 with
      | some number => .ok number
      | none => .error .badDescriptor
  else
    match s.openFile path .read with
    | .ok (number, s) =>
      set s
      return .ok number
    | .error fault => return .error fault

/-- Read at most so many bytes of a stream, or all of it. -/
def drain (number : Nat) (limit : Option Nat) : StateM Scene (Except Fault Bytes) := do
  let s ← get
  match s.commons.streams[number]? with
  | none => return .error .badDescriptor
  | some stream =>
    match s.ahead stream limit with
    | .ok data =>
      set (s.advance number data.length)
      return .ok data
    | .error fault => return .error fault

/-- All that an operand holds. -/
def load (path : Bytes) : StateM Scene (Except Fault Bytes) := do
  match ← stream path with
  | .ok number => drain number none
  | .error fault => return .error fault

/-- Work on each operand; one that cannot be read is complained of and makes the status `bad`. -/
def forAll (operands : List Bytes) (bad : Nat) (act : Bytes → Bytes → StateM Scene Unit) : StateM Scene Nat :=
  forOperands (paths operands) fun path => do
    match ← load path with
    | .ok data =>
      act path data
      return 0
    | .error fault =>
      complainOf path fault
      return bad

/-- All operands, one behind the other, and the status. -/
def gather (operands : List Bytes) (bad : Nat) : StateM Scene (Bytes × Nat) := do
  let mut all : List Bytes := []
  let mut status := 0
  for path in paths operands do
    match ← load path with
    | .ok data => all := data :: all
    | .error fault =>
      complainOf path fault
      status := bad
  return (all.reverse.flatten, status)

/-- Write a text into a file, and complain if that is not possible. -/
def store (path text : Bytes) (append : Bool) : StateM Scene (Except Fault Unit) := do
  let s ← get
  match s.openFile path (if append then .append else .write) with
  | .error fault => return .error fault
  | .ok (number, s) =>
    match s.writeStream number text with
    | .ok s =>
      set s
      return .ok ()
    | .error fault =>
      set s
      return .error fault

end Inputs

end LineShell.Host
