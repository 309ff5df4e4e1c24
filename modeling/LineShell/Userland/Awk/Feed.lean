import LineShell.Userland.Awk.Record
import LineShell.Userland.Utility.Inputs

/-!
# Reading records

A `Feed` is a stream that is read block by block and gives one record after the other. `RecordEnd` is what ends them.
-/

namespace LineShell.Host.Awk

/-- What ends records. -/
inductive RecordEnd
  | byte (b : UInt8)
  /-- Empty lines, also in front of the first record. -/
  | paragraph
  | fits (m : Matcher)

instance : Inhabited RecordEnd := ⟨.byte newline⟩

namespace RecordEnd

/-- What a text asks for. -/
def ofText (text : Bytes) : Except MatchFault RecordEnd :=
  match text with
  | [] => .ok .paragraph
  | [b] => .ok (.byte b)
  | _ => (Matching.read text).map .fits

/-- The text in front of the next empty line, and what follows the newlines. -/
def readParagraph (read : Bytes) : Bytes → Option (Bytes × Bytes)
  | [] => none
  | [b] => readParagraph (b :: read) []
  | a :: b :: rest =>
    if a = newline && b = newline then some (read.reverse, rest.dropWhile (· = newline))
    else readParagraph (a :: read) (b :: rest)

/-- The first record of a text, if it is whole, and what follows. The text may end with one that nothing ends. -/
def take (e : RecordEnd) (text : Bytes) (isLast : Bool) : Option (Bytes × Bytes) :=
  let last (bare : Bytes) : Option (Bytes × Bytes) := if isLast && !bare.isEmpty then some (bare, []) else none
  match e with
  | byte b =>
    let line := text.takeWhile (· != b)
    match text.drop line.length with
    | _ :: rest => some (line, rest)
    | [] => last text
  | paragraph =>
    let text := text.dropWhile (· = newline)
    match readParagraph [] text with
    | some (read, rest) => if rest.isEmpty && !isLast then none else some (read, rest)
    | none => last (if text.getLast? = some newline then text.dropLast else text)
  | fits m =>
    match Matching.find m text with
    | some (start, stop) =>
      if start = stop || (stop = text.length && !isLast) then last text
      else some (text.take start, text.drop stop)
    | none => last text

end RecordEnd

/-- A stream that records are read from; none if it was read to its end. -/
structure Feed where
  stream : Option Nat
  /-- What was read and not given yet. -/
  rest : Bytes := []
deriving Inhabited

namespace Feed

/-- How much is read at once. -/
def blockSize : Nat := 4096

/-- The most blocks of a record. -/
def blockLimit : Nat := 0x1000

/-- The next record, if there is one. -/
def next (e : RecordEnd) : (fuel : Nat) → Feed → StateM Scene (Except Fault (Option Bytes × Feed))
  | 0, f => return .ok (none, f)
  | fuel + 1, f => do
    match e.take f.rest f.stream.isNone, f.stream with
    | some (record, rest), _ => return .ok (some record, { f with rest := rest })
    | none, none => return .ok (none, f)
    | none, some number =>
      match ← Inputs.drain number (some blockSize) with
      | .error fault => return .error fault
      | .ok data =>
        next e fuel { stream := if data.isEmpty then none else some number, rest := f.rest ++ data }

end Feed

end LineShell.Host.Awk
