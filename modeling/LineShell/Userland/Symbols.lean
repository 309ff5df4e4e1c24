import LineShell.Text

/-!
# Texts as characters

The utilities of the system take bytes for characters in UTF-8. A byte that is part of no character stays apart as a
symbol of its own, so that nothing is lost.

- `Symbols.ofBytes` and `Symbols.bytes` go from bytes to symbols and back.
-/

namespace LineShell.Host

/-- The number of a character, or of a byte that is part of none. -/
abbrev Symbol := Nat

namespace Symbol

/-- The symbols from here on are bytes that are part of no character. -/
def strayBase : Nat := 0x110000

/-- The symbol of a byte that is part of no character. -/
def stray (b : UInt8) : Symbol :=
  strayBase + b.toNat

def isStray (x : Symbol) : Bool :=
  strayBase ≤ x

/-- The bytes of a symbol. -/
def bytes (x : Symbol) : Bytes :=
  let low (n : Nat) : UInt8 := UInt8.ofNat (0x80 + n % 0x40)
  if x < 0x80 then [UInt8.ofNat x]
  else if x < 0x800 then [UInt8.ofNat (0xc0 + x / 0x40), low x]
  else if x < 0x10000 then [UInt8.ofNat (0xe0 + x / 0x1000), low (x / 0x40), low x]
  else if x < strayBase then [UInt8.ofNat (0xf0 + x / 0x40000), low (x / 0x1000), low (x / 0x40), low x]
  else [UInt8.ofNat (x - strayBase)]

/-- How many columns a symbol takes on a terminal. -/
def columns (x : Symbol) : Nat :=
  let wide : List (Nat × Nat) :=
    [(0x1100, 0x115f), (0x2e80, 0x303e), (0x3041, 0x33ff), (0x3400, 0x4dbf), (0x4e00, 0x9fff), (0xa000, 0xa4cf),
      (0xac00, 0xd7a3), (0xf900, 0xfaff), (0xfe30, 0xfe6f), (0xff00, 0xff60), (0xffe0, 0xffe6), (0x1f300, 0x1f64f),
      (0x1f900, 0x1f9ff), (0x20000, 0x3fffd)]
  let marks : List (Nat × Nat) := [(0x300, 0x36f), (0x200b, 0x200f), (0x20d0, 0x20ff), (0xfe00, 0xfe0f)]
  let isIn (ranges : List (Nat × Nat)) : Bool := ranges.any fun (first, last) => first ≤ x && x ≤ last
  if x < 32 || (0x7f ≤ x && x < 0xa0) || isStray x || isIn marks then 0 else if isIn wide then 2 else 1

end Symbol

namespace Symbols

/-- The character that bytes start with, and how many bytes it takes; `none` if they start with no character. -/
def first? (data : Bytes) : Option (Symbol × Nat) :=
  let isNext (b : UInt8) : Bool := 0x80 ≤ b && b < 0xc0
  let bits (b : UInt8) : Nat := b.toNat % 0x40
  match data with
  | [] => none
  | a :: rest =>
    if a < 0x80 then some (a.toNat, 1)
    else if a < 0xe0 then
      match rest with
      | b :: _ => if 0xc2 ≤ a && isNext b then some (a.toNat % 0x20 * 0x40 + bits b, 2) else none
      | _ => none
    else if a < 0xf0 then
      match rest with
      | b :: c :: _ =>
        let x := a.toNat % 0x10 * 0x1000 + bits b * 0x40 + bits c
        if isNext b && isNext c && 0x800 ≤ x && !(0xd800 ≤ x && x < 0xe000) then some (x, 3) else none
      | _ => none
    else
      match rest with
      | b :: c :: d :: _ =>
        let x := a.toNat % 8 * 0x40000 + bits b * 0x1000 + bits c * 0x40 + bits d
        if a < 0xf5 && isNext b && isNext c && isNext d && 0x10000 ≤ x && x < Symbol.strayBase then some (x, 4)
        else none
      | _ => none

/-- The symbols of bytes, where the next `passed` bytes belong to a character that was read. -/
def readFrom : (passed : Nat) → Bytes → List Symbol
  | _, [] => []
  | passed + 1, _ :: rest => readFrom passed rest
  | 0, b :: rest =>
    match first? (b :: rest) with
    | some (x, size) => x :: readFrom (size - 1) rest
    | none => Symbol.stray b :: readFrom 0 rest

def ofBytes (data : Bytes) : List Symbol :=
  readFrom 0 data

def bytes (symbols : List Symbol) : Bytes :=
  symbols.flatMap Symbol.bytes

/-- How many characters there are in bytes. -/
def count (data : Bytes) : Nat :=
  ((ofBytes data).filter fun x => !x.isStray).length

end Symbols

end LineShell.Host
