import LineShell.Userland.Utility.Options

/-!
# Patterns for names

Patterns of the command interpreter: `*` for any bytes, `?` for one, brackets for one of a set. A byte that was quoted
stands for itself.

- `Pattern.ofMarked` reads a pattern, `Pattern.fits` says whether it fits a whole text;
- `Pattern.withoutStart` and `Pattern.withoutEnd` cut off what a pattern fits.
-/

namespace LineShell.Host

/-- One member of a set of bytes. -/
inductive ByteSet
  | range (first last : UInt8)
  /-- A named class, such as `digit`. -/
  | named (name : String)
deriving DecidableEq, Repr

namespace ByteSet

def isLower (b : UInt8) : Bool :=
  byte 'a' ≤ b && b ≤ byte 'z'

def isUpper (b : UInt8) : Bool :=
  byte 'A' ≤ b && b ≤ byte 'Z'

def isAlpha (b : UInt8) : Bool :=
  isLower b || isUpper b

def isSpace (b : UInt8) : Bool :=
  b = byte ' ' || (9 ≤ b && b ≤ 13)

/-- Whether a byte is in the class with a name. -/
def inClass (name : String) (b : UInt8) : Bool :=
  match name with
  | "alpha" => isAlpha b
  | "digit" => isDigit b
  | "alnum" => isAlpha b || isDigit b
  | "lower" => isLower b
  | "upper" => isUpper b
  | "space" => isSpace b
  | "blank" => b = byte ' ' || b = byte '\t'
  | "punct" => 33 ≤ b && b ≤ 126 && !(isAlpha b || isDigit b)
  | "print" => 32 ≤ b && b ≤ 126
  | "graph" => 33 ≤ b && b ≤ 126
  | "cntrl" => b < 32 || b = 127
  | "xdigit" => isDigit b || (byte 'a' ≤ b && b ≤ byte 'f') || (byte 'A' ≤ b && b ≤ byte 'F')
  | _ => false

def holds (set : ByteSet) (b : UInt8) : Bool :=
  match set with
  | range first last => first ≤ b && b ≤ last
  | named name => inClass name b

/-- All bytes of a member, in order. -/
def toList (set : ByteSet) : Bytes :=
  ((List.range 256).map UInt8.ofNat).filter set.holds

end ByteSet

/-- A byte, and whether it was quoted. -/
structure Marked where
  byte : UInt8
  quoted : Bool
deriving DecidableEq, Repr

namespace Marked

/-- Whether a byte is a character with a meaning. -/
def isSign (m : Marked) (c : Char) : Bool :=
  !m.quoted && m.byte = Host.byte c

def plain (marked : List Marked) : Bytes :=
  marked.map (·.byte)

end Marked

/-- One step of a pattern. -/
inductive PatternStep
  | one (b : UInt8)
  | any
  | anyOne
  | oneOf (negated : Bool) (sets : List ByteSet)
deriving DecidableEq, Repr

abbrev Pattern := List PatternStep

namespace Pattern

/-- The members up to the bracket that closes a set, and what follows it. -/
def readSet (first : Bool) (sets : List ByteSet) : (fuel : Nat) → List Marked → Option (List ByteSet × List Marked)
  | 0, _ | _, [] => none
  | fuel + 1, m :: rest =>
    if m.isSign ']' && !first then some (sets.reverse, rest)
    else if m.isSign '[' && rest.head?.any (·.isSign ':') then
      let name := rest.tail.takeWhile fun m => !m.isSign ':'
      let after := rest.drop (name.length + 2)
      if after.head?.any (·.isSign ']') then
        let name := String.ofList (name.map fun m => Char.ofNat m.byte.toNat)
        readSet false (.named name :: sets) fuel after.tail
      else readSet false (.range m.byte m.byte :: sets) fuel rest
    else
      match rest with
      | dash :: last :: more =>
        if dash.isSign '-' && !last.isSign ']' then readSet false (.range m.byte last.byte :: sets) fuel more
        else readSet false (.range m.byte m.byte :: sets) fuel rest
      | _ => readSet false (.range m.byte m.byte :: sets) fuel rest

/-- Read a pattern. A bracket that is not closed stands for itself. `fuel` is more than the length. -/
def readFrom : (fuel : Nat) → List Marked → Pattern
  | 0, _ | _, [] => []
  | fuel + 1, m :: rest =>
    if m.isSign '*' then .any :: readFrom fuel rest
    else if m.isSign '?' then .anyOne :: readFrom fuel rest
    else if m.isSign '[' then
      let negated := rest.head?.any fun n => n.isSign '!' || n.isSign '^'
      match readSet true [] (rest.length + 1) (if negated then rest.tail else rest) with
      | some (sets, rest) => .oneOf negated sets :: readFrom fuel rest
      | none => .one m.byte :: readFrom fuel rest
    else .one m.byte :: readFrom fuel rest

def ofMarked (marked : List Marked) : Pattern :=
  readFrom (marked.length + 1) marked

/-- A pattern none of whose bytes were quoted; a backslash quotes the next one. -/
def ofBytes (text : Bytes) : Pattern :=
  let rec mark : Bytes → List Marked
    | 92 :: b :: rest => ⟨b, true⟩ :: mark rest
    | b :: rest => ⟨b, false⟩ :: mark rest
    | [] => []
  ofMarked (mark text)

/-- Whether a pattern fits a whole text. -/
def fits : Pattern → Bytes → Bool
  | [], text => text.isEmpty
  | .any :: rest, [] => fits rest []
  | .any :: rest, b :: text => fits rest (b :: text) || fits (.any :: rest) text
  | _ :: _, [] => false
  | .one c :: rest, b :: text => c = b && fits rest text
  | .anyOne :: rest, _ :: text => fits rest text
  | .oneOf negated sets :: rest, b :: text => (sets.any (·.holds b)) != negated && fits rest text
termination_by p text => (p.length, text.length)

/-- Whether a pattern fits a text up to a NUL, which separates texts. -/
def fitsFirst (p : Pattern) (text : Bytes) : Bool :=
  p.fits (text.takeWhile (· != 0))

/-- A text without what the pattern fits at its start, the longest such start or the shortest. -/
def withoutStart (p : Pattern) (longest : Bool) (text : Bytes) : Bytes :=
  let lengths := List.range (text.length + 1)
  match (if longest then lengths.reverse else lengths).find? fun n => p.fitsFirst (text.take n) with
  | some n => text.drop n
  | none => text

/-- A text without what the pattern fits at its end. -/
def withoutEnd (p : Pattern) (longest : Bool) (text : Bytes) : Bytes :=
  let lengths := List.range (text.length + 1)
  match (if longest then lengths else lengths.reverse).find? fun n => p.fitsFirst (text.drop n) with
  | some n => text.take n
  | none => text

end Pattern

end LineShell.Host
