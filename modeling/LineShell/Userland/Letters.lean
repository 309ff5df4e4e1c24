import LineShell.Userland.Symbols

/-!
# Classes of characters

Which symbols are letters, blanks or marks, and which letters are the two cases of one. Bytes that are part of no
character are in no class.

- `Symbol.isIn` is membership in a class by name, as in brackets;
- `Symbol.upper` and `Symbol.lower` change the case of a letter.
-/

namespace LineShell.Host

namespace Symbol

/-- Whether a symbol is in one of some ranges. -/
def within (ranges : List (Nat × Nat)) (x : Symbol) : Bool :=
  ranges.any fun (first, last) => first ≤ x && x ≤ last

/-- In these ranges upper and lower case alternate, upper case on the even numbers. -/
def evenPairs : List (Nat × Nat) :=
  [(0x100, 0x137), (0x14a, 0x177), (0x1de, 0x1ef), (0x1f8, 0x21f), (0x222, 0x233), (0x3d8, 0x3ef), (0x460, 0x481),
    (0x48a, 0x4bf), (0x4d0, 0x52f), (0x1e00, 0x1e95), (0x1ea0, 0x1eff)]

/-- In these ranges upper and lower case alternate, upper case on the odd numbers. -/
def oddPairs : List (Nat × Nat) :=
  [(0x139, 0x148), (0x179, 0x17e), (0x1cd, 0x1dc), (0x4c1, 0x4ce)]

/-- Ranges of upper case with how far behind them the lower case is. -/
def shifted : List (Nat × Nat × Nat) :=
  [(0x41, 0x5a, 32), (0xc0, 0xd6, 32), (0xd8, 0xde, 32), (0x386, 0x386, 38), (0x388, 0x38a, 37), (0x38c, 0x38c, 64),
    (0x38e, 0x38f, 63), (0x391, 0x3a1, 32), (0x3a3, 0x3ab, 32), (0x400, 0x40f, 80), (0x410, 0x42f, 32),
    (0x531, 0x556, 48), (0xff21, 0xff3a, 32)]

/-- The lower case of a letter; any other symbol stays what it is. -/
def lower (x : Symbol) : Symbol :=
  match shifted.find? fun (first, last, _) => first ≤ x && x ≤ last with
  | some (_, _, distance) => x + distance
  | none =>
    if x < 0x80 then x
    else if x = 0x178 then 0xff
    else if (within evenPairs x && x % 2 = 0) || (within oddPairs x && x % 2 = 1) then x + 1
    else x

/-- The upper case of a letter; any other symbol stays what it is. -/
def upper (x : Symbol) : Symbol :=
  match shifted.find? fun (first, last, distance) => first + distance ≤ x && x ≤ last + distance with
  | some (_, _, distance) => x - distance
  | none =>
    if x < 0x80 then x
    else if x = 0xff then 0x178
    else if x = 0xb5 then 0x39c
    else if x = 0x3c2 then 0x3a3
    else if (within evenPairs x && x % 2 = 1) || (within oddPairs x && x % 2 = 0) then x - 1
    else x

def isLower (x : Symbol) : Bool :=
  upper x != x || x = 0xdf

def isUpper (x : Symbol) : Bool :=
  lower x != x

/-- Ranges of letters beyond ASCII. -/
def letterRanges : List (Nat × Nat) :=
  [(0xaa, 0xaa), (0xb5, 0xb5), (0xba, 0xba), (0xc0, 0xd6), (0xd8, 0xf6), (0xf8, 0x2c1), (0x370, 0x373), (0x376, 0x377),
    (0x37b, 0x37d), (0x37f, 0x37f), (0x386, 0x386), (0x388, 0x3ff), (0x400, 0x481), (0x48a, 0x556), (0x561, 0x587),
    (0x5d0, 0x5ea), (0x620, 0x64a), (0x660, 0x669), (0x671, 0x6d3), (0x904, 0x939), (0xe01, 0xe30), (0x10a0, 0x10ff),
    (0x1100, 0x11ff), (0x1e00, 0x1fbc), (0x3041, 0x3096), (0x30a1, 0x30fa), (0x3400, 0x4dbf), (0x4e00, 0x9fff),
    (0xac00, 0xd7a3), (0xf900, 0xfaff), (0xff21, 0xff3a), (0xff41, 0xff5a), (0x20000, 0x2fa1d)]

def isDigit (x : Symbol) : Bool :=
  48 ≤ x && x ≤ 57

def isAlpha (x : Symbol) : Bool :=
  (97 ≤ x && x ≤ 122) || (65 ≤ x && x ≤ 90) || (0x80 ≤ x && within letterRanges x)

def isAlphanumeric (x : Symbol) : Bool :=
  isAlpha x || isDigit x

/-- Whether a symbol is part of a word. -/
def isWord (x : Symbol) : Bool :=
  isAlphanumeric x || x = 95

/-- Whether a symbol is white space that words are separated by. -/
def isSpace (x : Symbol) : Bool :=
  x = 32 || (9 ≤ x && x ≤ 13) || within
    [(0x1680, 0x1680), (0x2000, 0x2006), (0x2008, 0x200a), (0x2028, 0x2029), (0x205f, 0x205f), (0x3000, 0x3000)] x

def isControl (x : Symbol) : Bool :=
  x < 32 || (127 ≤ x && x < 160) || within [(0x2028, 0x2029)] x

/-- Whether a symbol is a character that can be shown. -/
def isShown (x : Symbol) : Bool :=
  !isControl x && !isStray x && !within [(0xd800, 0xdfff), (0xe000, 0xf8ff), (0xfff0, 0xfff8), (0xfffe, 0xffff)] x

/-- Whether a symbol is in the class with a name. -/
def isIn (name : String) (x : Symbol) : Bool :=
  match name with
  | "alpha" => isAlpha x
  | "digit" => isDigit x
  | "alnum" => isAlphanumeric x
  | "lower" => isLower x
  | "upper" => isUpper x
  | "space" => isSpace x
  | "blank" => x = 32 || x = 9 || (0x80 ≤ x && isSpace x && !within [(0x2028, 0x2029)] x)
  | "punct" => isShown x && !isSpace x && !isAlphanumeric x
  | "print" => isShown x
  | "graph" => isShown x && !isSpace x
  | "cntrl" => isControl x
  | "xdigit" => isDigit x || (97 ≤ x && x ≤ 102) || (65 ≤ x && x ≤ 70)
  | _ => false

/-- The names of all classes. -/
def classNames : List String :=
  ["alpha", "digit", "alnum", "lower", "upper", "space", "blank", "punct", "print", "graph", "cntrl", "xdigit"]

end Symbol

end LineShell.Host
