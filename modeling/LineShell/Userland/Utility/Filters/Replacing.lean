import LineShell.Userland.Letters
import LineShell.Userland.Utility.Inputs

/-!
# Replacing single bytes

`tr` replaces, deletes and squeezes bytes. Its operands are sets of bytes in order: ranges, classes, repeated bytes.

- `ByteSet.read` reads such a set, `Replacing.paired` lays two of them side by side.
-/

namespace LineShell.Host

namespace Replacing

/-! ## Sets -/

/-- A part of a set. -/
inductive Part
  | single (b : UInt8)
  | range (first last : UInt8)
  | named (name : String)
  | equals (b : UInt8)
  /-- A byte so many times; without a count, as often as it takes. -/
  | repeated (b : UInt8) (count : Nat)
deriving DecidableEq, Repr

/-- What is wrong with a set. -/
inductive SetFault
  | reversedRange (first last : UInt8)
  | unknownClass (name : Bytes)
  | longEquivalent (text : Bytes)
  | badCount (text : Bytes)
  | noClass
  | noEquivalent
deriving DecidableEq, Repr

/-- A byte as complaints show it. -/
def shownByte (b : UInt8) : Bytes :=
  if 32 ≤ b && b < 127 then [b] else byte '\\' :: padLeft 3 (byte '0') ((Nat.toDigits 8 b.toNat).map byte)

def SetFault.text : SetFault → Bytes
  | reversedRange first last =>
    Text.bytes "range-endpoints of '" ++ shownByte first ++ byte '-' :: shownByte last ++
      Text.bytes "' are in reverse collating sequence order"
  | unknownClass name => Text.bytes "invalid character class " ++ Quoted.curly (name.flatMap shownByte)
  | longEquivalent text =>
    text.flatMap shownByte ++ Text.bytes ": equivalence class operand must be a single character"
  | badCount text =>
    Text.bytes "invalid repeat count " ++ Quoted.curly (text.flatMap shownByte) ++ Text.bytes " in [c*n] construct"
  | noClass => Text.bytes "missing character class name '[::]'"
  | noEquivalent => Text.bytes "missing equivalence class character '[==]'"

/-- A byte of a set as it was written: whether a backslash made it. -/
abbrev Written := UInt8 × Bool

/-- A backslash that is not portable. -/
inductive SetWarning
  | ambiguousOctal (digits : Bytes)
  | loneBackslash
deriving DecidableEq, Repr

def SetWarning.text : SetWarning → Bytes
  | ambiguousOctal digits =>
    Text.bytes "warning: the ambiguous octal escape \\" ++ digits ++
      Text.bytes " is being\n\tinterpreted as the 2-byte sequence \\0" ++ digits.take 2 ++ Text.bytes ", " ++
      digits.drop 2
  | loneBackslash => Text.bytes "warning: an unescaped backslash at end of string is not portable"

def isOctalDigit (b : UInt8) : Bool :=
  byte '0' ≤ b && b ≤ byte '7'

def octalNumber (digits : Bytes) : Nat :=
  digits.foldl (fun n b => n * 8 + (b - byte '0').toNat) 0

/-- Carry out backslashes. `fuel` is more than the length. -/
def unquoted : (fuel : Nat) → Bytes → List Written × List SetWarning
  | 0, _ | _, [] => ([], [])
  | fuel + 1, b :: rest =>
    let add (x : UInt8) (escaped : Bool) (rest : Bytes) (warnings : List SetWarning) :
        List Written × List SetWarning :=
      let (more, later) := unquoted fuel rest
      ((x, escaped) :: more, warnings ++ later)
    if b != byte '\\' then add b false rest []
    else
      match rest with
      | [] => add b false [] [.loneBackslash]
      | c :: after =>
        if isOctalDigit c then
          let digits := (rest.take 3).takeWhile isOctalDigit
          let n := octalNumber digits
          if n < 256 then add (UInt8.ofNat n) true (rest.drop digits.length) []
          else add (UInt8.ofNat (octalNumber (digits.take 2))) true (rest.drop 2) [.ambiguousOctal digits]
        else
          let meant : UInt8 := match Char.ofNat c.toNat with
            | 'a' => 7
            | 'b' => 8
            | 'f' => 12
            | 'n' => 10
            | 'r' => 13
            | 't' => 9
            | 'v' => 11
            | _ => c
          add meant true after []

/-- Whether a set goes on with a byte that no backslash made. -/
def startsPlainly (b : UInt8) (text : List Written) : Bool :=
  text.head? = some (b, false)

/-- What stands before a mark and a closing bracket, and what stands behind them. -/
def upToClose (mark : UInt8) : List Written → Option (List Written × List Written)
  | x :: y :: rest =>
    if x = (mark, false) && y = (byte ']', false) then some ([], rest)
    else (upToClose mark (y :: rest)).map fun (inside, after) => (x :: inside, after)
  | _ => none

/-- Whether a star, digits and a closing bracket come next. -/
def isStarred (text : List Written) : Bool :=
  startsPlainly (byte '*') text && ((text.drop 1).dropWhile fun x => isDigit x.1).head? = some (byte ']', false)

/-- Read a repeated byte from behind the bracket, if there is one. -/
def readRepeated (text : List Written) : Option (Except SetFault (Part × List Written)) :=
  match text with
  | (b, _) :: rest =>
    if !startsPlainly (byte '*') rest then none
    else
      let body := (rest.drop 1).takeWhile fun x => !x.2 && x.1 != byte ']'
      let after := rest.drop (body.length + 1)
      if !startsPlainly (byte ']') after then none
      else
        let digits := body.map (·.1)
        let octal := digits.head? = some (byte '0')
        let fine := digits.all fun d => if octal then isOctalDigit d else isDigit d
        let count := if octal then octalNumber digits else number digits
        if !fine || 0xfffffffffffffffe < count then some (.error (.badCount digits))
        else some (.ok (.repeated b count, after.tail))
  | [] => none

/-- Read the parts of a set. `fuel` is more than the length. -/
def readParts : (fuel : Nat) → List Written → Except SetFault (List Part)
  | 0, _ | _, [] => .ok []
  | fuel + 1, x :: rest =>
    let plain : Except SetFault (List Part) :=
      match rest with
      | (45, false) :: last :: after =>
        if last.1 < x.1 then .error (.reversedRange x.1 last.1)
        else (readParts fuel after).map (.range x.1 last.1 :: ·)
      | _ => (readParts fuel rest).map (.single x.1 :: ·)
    let bracketed : Except SetFault (List Part) :=
      match readRepeated rest with
      | some (.ok (part, after)) => (readParts fuel after).map (part :: ·)
      | some (.error fault) => .error fault
      | none => plain
    if rest.length < 2 then (readParts fuel rest).map (.single x.1 :: ·)
    else if x != (byte '[', false) then plain
    else
      let mark := (rest.headD (0, true)).1
      if startsPlainly mark rest && (mark = byte ':' || mark = byte '=') then
        match upToClose mark rest.tail with
        | none => bracketed
        | some (inside, after) =>
          let inside := inside.map (·.1)
          let starred := isStarred rest.tail
          if inside.isEmpty then .error (if mark = byte ':' then .noClass else .noEquivalent)
          else if mark = byte ':' then
            match Symbol.classNames.find? fun name => Text.bytes name = inside with
            | some name => (readParts fuel after).map (.named name :: ·)
            | none => if starred then bracketed else .error (.unknownClass inside)
          else
            match inside with
            | [b] => (readParts fuel after).map (.equals b :: ·)
            | _ => if starred then bracketed else .error (.longEquivalent inside)
      else bracketed

/-- Read a set. -/
def readSet (text : Bytes) : List SetWarning × Except SetFault (List Part) :=
  let (written, warnings) := unquoted (text.length + 1) text
  (warnings, readParts (written.length + 1) written)

/-- All bytes, in order. -/
def allBytes : Bytes :=
  (List.range 256).map UInt8.ofNat

namespace Part

/-- The bytes that a part stands for, in order. -/
def bytes : Part → Bytes
  | single b | equals b => [b]
  | range first last => (List.range (last.toNat + 1 - first.toNat)).map fun n => UInt8.ofNat (first.toNat + n)
  | named name => allBytes.filter fun b => b < 128 && Symbol.isIn name b.toNat
  | repeated b count => List.replicate count b

/-- How many bytes a part stands for. -/
def size : Part → Nat
  | repeated _ count => count
  | part => part.bytes.length

/-- Whether a part is repeated as often as it takes. -/
def isOpen : Part → Bool
  | repeated _ 0 => true
  | _ => false

/-- Whether a part is one of the two cases of letters. -/
def isCase (part : Part) : Bool :=
  part = named "upper" || part = named "lower"

end Part

/-! ## Two sets side by side -/

/-- What is wrong with two sets together. -/
inductive PairFault
  | openFirst
  | severalOpen
  | equivalent
  | restricted
  | misaligned
  | emptySecond
  | classAtEnd
  | manyForClass
  | openUnused
deriving DecidableEq, Repr

def PairFault.text : PairFault → String
  | openFirst => "the [c*] repeat construct may not appear in string1"
  | severalOpen => "only one [c*] repeat construct may appear in string2"
  | equivalent => "[=c=] expressions may not appear in string2 when translating"
  | restricted =>
    "when translating, the only character classes that may appear in\nstring2 are 'upper' and 'lower'"
  | misaligned => "misaligned [:upper:] and/or [:lower:] construct"
  | emptySecond => "when not truncating set1, string2 must be non-empty"
  | classAtEnd =>
    "when translating with string1 longer than string2,\nthe latter string must not end with a character class"
  | manyForClass =>
    "when translating with complemented character classes,\nstring2 must map all characters in the domain to one"
  | openUnused => "the [c*] construct may appear in string2 only when translating"

/-- Replacements of bytes by bytes; the last one for a byte counts. -/
abbrev Replacements := List (UInt8 × UInt8)

/-- The letters of one case and those of the other. -/
def caseChange (first second : Part) : Replacements :=
  (first.bytes).zip second.bytes

/-- Lay two sets side by side, part by part: what is left of the parts at work comes first. Where a case of letters
stands in the second set, one has to stand in the first. `fuel` is more than the number of bytes. -/
def paired : (fuel : Nat) → (left : Bytes) → List Part → (right : Bytes) → List Part → Except PairFault Replacements
  | 0, _, _, _, _ => .ok []
  | fuel + 1, left, firsts, right, seconds =>
    match left, firsts, right, seconds with
    | [], first :: firsts, [], second :: seconds =>
      if second.isCase then
        if first.isCase then (paired fuel [] firsts [] seconds).map (caseChange first second ++ ·)
        else .error .misaligned
      else paired fuel first.bytes firsts second.bytes seconds
    | [], first :: firsts, right, seconds => paired fuel first.bytes firsts right seconds
    | left, firsts, [], second :: seconds =>
      if second.isCase then .error .misaligned else paired fuel left firsts second.bytes seconds
    | a :: left, firsts, b :: right, seconds => (paired fuel left firsts right seconds).map ((a, b) :: ·)
    | _, _, [], [] => .ok []
    | [], [], right, seconds =>
      -- The first set is over, but the second one must still be in order
      if (seconds.head?.any Part.isCase) && right.isEmpty then .error .misaligned
      else match right with
        | _ :: right => paired fuel [] [] right seconds
        | [] => .ok []

/-- The size of a set. -/
def sizeOf (parts : List Part) : Nat :=
  parts.foldl (fun n part => n + part.size) 0

/-- A set with its last byte repeated so many times more. -/
def extended (parts : List Part) (count : Nat) : Except PairFault (List Part) :=
  match parts.getLast? with
  | none => .error .emptySecond
  | some (.named _) => .error .classAtEnd
  | some part =>
    let last := match part with
      | .repeated b _ => b
      | part => part.bytes.getLastD 0
    .ok (parts ++ [.repeated last count])

/-- The second set with what is repeated as often as it takes filled up to a size. -/
def filled (size : Nat) (parts : List Part) : List Part :=
  let missing := size - sizeOf parts
  parts.map fun
    | .repeated b 0 => .repeated b missing
    | part => part

/-- The bytes of a set, or of all that are not in it. -/
def members (complement : Bool) (parts : List Part) : Bytes :=
  let bytes := parts.flatMap Part.bytes
  if complement then allBytes.filter fun b => !bytes.contains b else bytes

/-- The replacements that two sets stand for. -/
def replacements (complement cut : Bool) (first second : List Part) : Except PairFault Replacements := do
  let size := if complement then (members true first).length else sizeOf first
  let open_ := (second.filter Part.isOpen).length
  if 1 < open_ then throw .severalOpen
  let second := if open_ = 1 && sizeOf second ≤ size then filled size second
    else second.filter fun part => !part.isOpen
  let isClass (part : Part) : Bool := match part with
    | .named _ => true
    | _ => false
  if second.any fun part => match part with
      | .equals _ => true
      | _ => false then throw .equivalent
  if second.any fun part => isClass part && !part.isCase then throw .restricted
  let fuel := 2 * (sizeOf first + sizeOf second + first.length + second.length) + 2
  if !complement && second.any isClass then
    let _ ← paired fuel [] first [] second
  let second ← if sizeOf second < size && !cut then
      if second.isEmpty then throw .emptySecond else extended second (size - sizeOf second)
    else pure second
  if complement && first.any isClass && !cut &&
      !(sizeOf second = size && (second.flatMap Part.bytes).eraseReps.length ≤ 1) then throw .manyForClass
  if complement then return (members true first).zip (second.flatMap Part.bytes)
  else paired (2 * (sizeOf first + sizeOf second + first.length + second.length) + 2) [] first [] second

/-- A table of all replacements. -/
def table (pairs : Replacements) : Array UInt8 :=
  pairs.foldl (fun (t : Array UInt8) (a, b) => t.setIfInBounds a.toNat b) allBytes.toArray

/-- Of bytes of a set that follow each other and are equal, only one. -/
def squeezed (set : Array Bool) (text : Bytes) : Bytes :=
  (text.foldl (fun (kept : Bytes) b =>
    if kept.head? = some b && (set[b.toNat]?).getD false then kept else b :: kept) []).reverse

/-- Which bytes are in a list. -/
def flags (bytes : Bytes) : Array Bool :=
  bytes.foldl (fun (t : Array Bool) b => t.setIfInBounds b.toNat true) (Array.replicate 256 false)

/-- Read standard input and write what becomes of it. -/
def filter (change : Bytes → Bytes) : StateM Scene Nat := do
  match ← Inputs.load [byte '-'] with
  | .ok data =>
    put (change data)
    return 0
  | .error fault =>
    complainText ("read error: " ++ fault.text)
    return 1

/-- Replaces, deletes and squeezes bytes. -/
def tr : Utility := withEarlyOptions
  { letters := "cCdst",
    words := [("complement", 'c'), ("delete", 'd'), ("squeeze-repeats", 's'), ("truncate-set1", 't')] } 1 fun g => do
  let deletes := g.has 'd'
  let squeezes := g.has 's'
  let complement := g.has 'c' || g.has 'C'
  let least := if deletes = squeezes then 2 else 1
  let most := if deletes && !squeezes then 1 else 2
  let refuse (lines : List Bytes) : StateM Scene Nat := do
    for line in lines.take 1 do complain line
    for line in lines.drop 1 do modify fun s => s.complain (line ++ [newline])
    referToHelp
    return 1
  if g.operands.isEmpty then missingOperand 1
  else if g.operands.length < least then
    refuse [Text.bytes "missing operand after " ++ Quoted.curly (g.operands.getLastD []),
      Text.bytes (if deletes then "Two strings must be given when both deleting and squeezing repeats."
        else "Two strings must be given when translating.")]
  else if most < g.operands.length then
    refuse ([Text.bytes "extra operand " ++ Quoted.curly ((g.operands[most]?).getD [])] ++
      if g.operands.length = 2 then
        [Text.bytes "Only one string may be given when deleting without squeezing repeats."]
      else [])
  else
    let mut sets : List (List Part) := []
    for word in g.operands do
      let (warnings, reading) := readSet word
      for warning in warnings do complain warning.text
      match reading with
      | .error fault =>
        complain fault.text
        return 1
      | .ok parts => sets := sets ++ [parts]
    let fail (fault : PairFault) : StateM Scene Nat := do
      complainText fault.text
      return 1
    match sets with
    | [] => return 1
    | first :: others =>
      if first.any Part.isOpen then fail .openFirst
      else
        match others with
        | [] =>
          let set := flags (members complement first)
          if deletes then filter fun data => data.filter fun b => !(set[b.toNat]?).getD false
          else filter (squeezed set)
        | second :: _ =>
          if deletes then
            if 1 < (second.filter Part.isOpen).length then fail .severalOpen
            else if second.any Part.isOpen then fail .openUnused
            else
              let gone := flags (members complement first)
              let once := flags (members false second)
              filter fun data => squeezed once (data.filter fun b => !(gone[b.toNat]?).getD false)
          else
            match replacements complement (g.has 't') first second with
            | .error fault => fail fault
            | .ok pairs =>
              let t := table pairs
              let once := flags (members false second)
              filter fun data =>
                let data := data.map fun b => (t[b.toNat]?).getD b
                if squeezes then squeezed once data else data

end Replacing

end LineShell.Host
