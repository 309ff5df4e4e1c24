import LineShell.Userland.Utility.Format
import LineShell.Userland.Utility.Inputs
import LineShell.Userland.Utility.Size

/-!
# Showing bytes as numbers

`od` shows its inputs as numbers or as names of bytes, in rows with the place of the first byte in front.

- `Dump.Column` is one way of showing, `Dump.row` a row in all ways that are asked for;
- `Dump.rows` leaves out rows that are equal to the one before.
-/

namespace LineShell.Host

namespace Dump

/-- What numbers are written as. -/
inductive Style
  | named
  | character
  | signed
  | octal
  | unsigned
  | hexadecimal
  | fraction
deriving DecidableEq, Repr

/-- One way of showing bytes: `size` of them together, perhaps with the characters behind the row. -/
structure Column where
  style : Style
  size : Nat
  trailer : Bool := false
deriving DecidableEq, Repr

/-- The least number of places that a number takes, without the blank in front. -/
def Column.width (c : Column) : Nat :=
  let of (widths : List Nat) : Nat := (widths[c.size]?).getD 0
  match c.style with
  | .named | .character => 3
  | .signed => of [1, 4, 6, 8, 11, 13, 16, 18, 20]
  | .octal => of [0, 3, 6, 8, 11, 14, 16, 19, 22]
  | .unsigned => of [0, 3, 5, 8, 10, 13, 15, 17, 20]
  | .hexadecimal => of [0, 2, 4, 6, 8, 10, 12, 14, 16]
  | .fraction => if c.size = 4 then 15 else 24

/-- The names of the bytes that are not shown as themselves. -/
def controlNames : List String :=
  ["nul", "soh", "stx", "etx", "eot", "enq", "ack", "bel", "bs", "ht", "nl", "vt", "ff", "cr", "so", "si", "dle", "dc1",
    "dc2", "dc3", "dc4", "nak", "syn", "etb", "can", "em", "sub", "esc", "fs", "gs", "rs", "us", "sp"]

/-- The name of a byte, of which the highest bit does not count. -/
def nameOf (b : UInt8) : Bytes :=
  let n := b.toNat % 128
  if n = 127 then Text.bytes "del"
  else
    match controlNames[n]? with
    | some name => Text.bytes name
    | none => [UInt8.ofNat n]

/-- A byte as a character or an escape. -/
def characterOf (b : UInt8) : Bytes :=
  if 32 ≤ b && b < 127 then [b]
  else if b = 0 then Text.bytes "\\0"
  else
    match Quoted.letterOf? b with
    | some letter => [byte '\\', byte letter]
    | none => padLeft 3 (byte '0') (Conversion.digitsOf 8 b.toNat false)

/-- The fraction that bytes stand for, in the fewest digits that tell it from all others. -/
def fractionOf (size n : Nat) : Bytes :=
  let (bits, exponentBits) := if size = 4 then (24, 8) else (53, 11)
  let top := Nat.pow 2 (bits - 1)
  let negative := n / Nat.pow 2 (size * 8 - 1) = 1
  let exponent := n / top % Nat.pow 2 exponentBits
  let fraction := n % top
  let sign : Bytes := if negative then [byte '-'] else []
  let bias : Int := (Nat.pow 2 (exponentBits - 1) : Int) - 2 + bits
  if exponent = Nat.pow 2 exponentBits - 1 then sign ++ Text.bytes (if fraction = 0 then "inf" else "nan")
  else
    let (num, den) :=
      if exponent = 0 then Precision.scaled fraction (1 - bias)
      else Precision.scaled (fraction + top) ((exponent : Int) - bias)
    let precision : Precision := ⟨bits, 1 - bias, Nat.pow 2 (exponentBits - 1)⟩
    let written (digits : Nat) : Bytes := Quantity.general 'e' false num den digits
    let readsBack (digits : Nat) : Bool :=
      match Quantity.read (written digits) with
      | some ({ size := .finite p q, .. }, _) =>
        match precision.round p q with
        | .finite m n => m * den = num * n
        | _ => false
      | _ => false
    let usual := if size = 4 then 6 else 15
    let least := ((List.range 17).drop (if exponent = 0 then 1 else usual)).find? readsBack
    sign ++ written (least.getD (if size = 4 then 9 else 17))

/-- Some bytes as one number. -/
def numberOf (big : Bool) (bytes : Bytes) : Nat :=
  (if big then bytes else bytes.reverse).foldl (fun n b => n * 256 + b.toNat) 0

/-- What stands for some bytes in a column. -/
def Column.text (c : Column) (big : Bool) (bytes : Bytes) : Bytes :=
  let n := numberOf big bytes
  match c.style with
  | .named => nameOf (bytes.headD 0)
  | .character => characterOf (bytes.headD 0)
  | .signed =>
    let half := Nat.pow 2 (8 * c.size - 1)
    if n < half then decimal n else byte '-' :: decimal (2 * half - n)
  | .octal => padLeft c.width (byte '0') (Conversion.digitsOf 8 n false)
  | .unsigned => decimal n
  | .hexadecimal => padLeft c.width (byte '0') (Conversion.digitsOf 16 n false)
  | .fraction => fractionOf c.size n

/-- How rows are shown. -/
structure Layout where
  columns : List Column
  /-- The base of the places in front of rows and the digits they take. -/
  radix : Option (Nat × Nat) := some (8, 7)
  perRow : Nat
  big : Bool := false
  all : Bool := false

namespace Layout

/-- The width of a row in the widest way of showing it. -/
def rowWidth (l : Layout) : Nat :=
  (l.columns.map fun c => (c.width + 1) * (l.perRow / c.size)).foldl max 0

/-- A place in front of a row. -/
def address (l : Layout) (n : Nat) : Bytes :=
  match l.radix with
  | some (base, digits) => padLeft digits (byte '0') (Conversion.digitsOf base n false)
  | none => []

/-- One row in one way of showing it: the numbers, filled up so that all ways take the same width. -/
def line (l : Layout) (c : Column) (bytes : Bytes) : Bytes :=
  let fields := l.perRow / c.size
  let shown := (bytes.length + c.size - 1) / c.size
  let spare := l.rowWidth - (c.width + 1) * fields
  let whole := bytes ++ List.replicate (c.size * shown - bytes.length) 0
  let text := (List.range shown).flatMap fun n =>
    let here := spare * (fields - n) / fields - spare * (fields - n - 1) / fields
    byte ' ' :: padLeft (c.width + here) (byte ' ') (c.text l.big ((whole.drop (n * c.size)).take c.size))
  if !c.trailer then text
  else
    let blank := fields - shown
    text ++ List.replicate (blank * (c.width + 1) + spare * blank / fields) (byte ' ') ++ Text.bytes "  >" ++
      (bytes.map fun b => if 32 ≤ b && b < 127 then b else byte '.') ++ [byte '<']

/-- One row, in all ways. -/
def row (l : Layout) (place : Nat) (bytes : Bytes) : Bytes :=
  l.columns.zipIdx.flatMap fun (c, n) =>
    (if n = 0 then l.address place else List.replicate (l.address place).length (byte ' ')) ++ l.line c bytes ++
      [newline]

/-- All rows from a place on; `before` is the row in front, `hidden` whether rows equal to it are left out already.
`fuel` is more than the number of rows. -/
def rows (l : Layout) : (fuel : Nat) → (place : Nat) → (before : Option Bytes) → (hidden : Bool) → Bytes → List Bytes
  | 0, _, _, _, _ => []
  | fuel + 1, place, before, hidden, data =>
    if data.isEmpty then if l.radix.isSome then [l.address place ++ [newline]] else []
    else
      let here := data.take l.perRow
      let next := l.rows fuel (place + here.length)
      if !l.all && here.length = l.perRow && before = some here then
        let more := next before true (data.drop l.perRow)
        if hidden then more else Text.bytes "*\n" :: more
      else l.row place here :: next (some here) false (data.drop l.perRow)

end Layout

/-! ## Options -/

/-- What is wrong with a word for ways of showing. -/
def typeFault (c : UInt8) (word : Bytes) : Bytes :=
  Text.bytes "invalid character '" ++ c :: Text.bytes "' in type string " ++ Quoted.curly word

/-- Read the size behind a letter. -/
def readSize (word rest : Bytes) (fraction : Bool) : Except Bytes (Nat × Bytes) :=
  let digits := rest.takeWhile isDigit
  let known : List (Char × Nat) :=
    if fraction then [('F', 4), ('D', 8), ('L', 16)] else [('C', 1), ('S', 2), ('I', 4), ('L', 8)]
  if digits.isEmpty then
    match (rest.head?.map fun b => Char.ofNat b.toNat).bind fun c => known.lookup c with
    | some size => .ok (size, rest.tail)
    | none => .ok (if fraction then 8 else 4, rest)
  else
    let size := number digits
    if (if fraction then [4, 8] else [1, 2, 4, 8]).contains size then .ok (size, rest.drop digits.length)
    else .error (Text.bytes "invalid type string " ++ Quoted.curly word ++
      Text.bytes ";\nthis system doesn't provide a " ++
      decimal size ++ Text.bytes (if fraction then "-byte floating point type" else "-byte integral type"))

/-- Read ways of showing, such as `x1z`. `fuel` is more than the length. -/
def readTypes (word : Bytes) : (fuel : Nat) → Bytes → Except Bytes (List Column)
  | 0, _ | _, [] => .ok []
  | fuel + 1, b :: rest => do
    let (style, size, rest) ← (match Char.ofNat b.toNat with
      | 'a' => .ok (.named, 1, rest)
      | 'c' => .ok (.character, 1, rest)
      | 'd' => (readSize word rest false).map (Style.signed, ·)
      | 'o' => (readSize word rest false).map (Style.octal, ·)
      | 'u' => (readSize word rest false).map (Style.unsigned, ·)
      | 'x' => (readSize word rest false).map (Style.hexadecimal, ·)
      | 'f' => (readSize word rest true).map (Style.fraction, ·)
      | _ => .error (typeFault b word) : Except Bytes (Style × Nat × Bytes))
    let trailer := rest.head? = some (byte 'z')
    let column : Column := { style := style, size := size, trailer := trailer }
    return column :: (← readTypes word fuel (if trailer then rest.tail else rest))

/-- The words for ways of showing that single letters stand for. -/
def letterTypes : List (Char × String) :=
  [('a', "a"), ('b', "o1"), ('c', "c"), ('d', "u2"), ('e', "fD"), ('f', "fF"), ('h', "x2"), ('i', "dI"), ('l', "dL"),
    ('o', "o2"), ('s', "d2"), ('x', "x2"), ('B', "o2"), ('D', "u4"), ('F', "fD"), ('H', "x4"), ('I', "dL"),
    ('L', "dL"), ('O', "o4"), ('X', "x4")]

/-- The number that a word writes to a base: octal behind a zero, hexadecimal behind `0x`. -/
def readCount (word : Bytes) : Option Nat :=
  let based (base : Nat) (text : Bytes) : Option Nat :=
    let digits := text.takeWhile fun b => (Quantity.hexValue? b).any (· < base)
    let n := digits.foldl (fun n b => n * base + (Quantity.hexValue? b).getD 0) 0
    if digits.isEmpty then none
    else if digits.length = text.length then some n
    else (Size.read? (byte '1' :: text.drop digits.length)).map (n * ·)
  match letters word with
  | '0' :: 'x' :: _ | '0' :: 'X' :: _ => based 16 (word.drop 2)
  | '0' :: _ => based 8 word
  | _ => based 10 word

/-- The place that an operand such as `+20` or `10.b` asks for. -/
def readPlace (word : Bytes) : Option Nat :=
  let word := if word.head? = some (byte '+') then word.tail else word
  let scale := if word.getLast? = some (byte 'b') then 512 else 1
  let word := if scale = 512 then word.dropLast else word
  let point := word.getLast? = some (byte '.')
  let word := if point then word.dropLast else word
  let hex := word.take 2 = Text.bytes "0x"
  let digits := if hex then word.drop 2 else word
  let base := if hex then 16 else if point then 10 else 8
  if digits.isEmpty || !digits.all fun b => (Quantity.hexValue? b).any (· < base) then none
  else some (scale * digits.foldl (fun n b => n * base + (Quantity.hexValue? b).getD 0) 0)

/-- The texts of at least so many characters that end with NUL, each with its place. -/
def texts (least : Nat) (data : Bytes) : List (Nat × Bytes) :=
  let start : List (Nat × Bytes) × Nat × Bytes := ([], 0, [])
  let (found, _, _) := data.foldl (fun (found, place, text) b =>
    if 32 ≤ b && b < 127 then (found, place + 1, b :: text)
    else
      let here := text.reverse
      (if b = 0 && least ≤ here.length then (place - here.length, here) :: found else found, place + 1, [])) start
  found.reverse

/-- The operands and the place to start at, which may be the last of them. -/
def withPlace (g : Given) : List Bytes × Option Nat :=
  let modern := ['A', 'j', 'N', 't', 'v', 'w', 'S'].any g.has
  let place (word : Bytes) (digits : Bool) : Option Nat :=
    if word.head? = some (byte '+') || (digits && word.head?.any isDigit) then readPlace word else none
  if modern then (g.operands, none)
  else
    match g.operands with
    | [word] => match place word false with
      | some n => ([], some n)
      | none => ([word], none)
    | [path, word] => match place word true with
      | some n => ([path], some n)
      | none => ([path, word], none)
    | operands => (operands, none)

/-- The least number that all of some sizes divide. -/
def commonSize (sizes : List Nat) : Nat :=
  sizes.foldl Nat.lcm 1

/-- Read the inputs that can be read, and whether there was any and all went well. -/
def gather (operands : List Bytes) : StateM Scene (Option Bytes × Nat) := do
  let mut all : List Bytes := []
  let mut opened := false
  let mut status := 0
  for path in Inputs.paths operands do
    match ← Inputs.stream path with
    | .error fault =>
      complainOf path fault
      status := 1
    | .ok number =>
      opened := true
      match ← Inputs.drain number none with
      | .ok data => all := data :: all
      | .error fault =>
        complainOf path fault
        status := 1
  return (if opened then some all.reverse.flatten else none, status)

/-- Shows bytes as numbers. -/
def od : Utility := withOptions
  { letters := "abcdefhilosvxBDFHILOX", valued := "AjNtSε", optional := "wσ",
    words := [("address-radix", 'A'), ("skip-bytes", 'j'), ("read-bytes", 'N'), ("format", 't'), ("strings", 'σ'),
      ("output-duplicates", 'v'), ("width", 'w'), ("endian", 'ε')] } 1 fun g => do
  let refuse (text : Bytes) : StateM Scene Nat := do
    complain text
    return 1
  let badCount := g.options.find? fun (letter, value) => "jNS".toList.contains letter && (readCount value).isNone
  let badWidth := (g.values 'w').find? fun value => !value.isEmpty && (readCount value).isNone
  let radix := (g.value? 'A').map letters
  let radices : List (List Char × Option (Nat × Nat)) :=
    [(['o'], some (8, 7)), (['d'], some (10, 7)), (['x'], some (16, 6)), (['n'], none)]
  let types : Except Bytes (List (List Column)) := g.options.filterMapM fun (letter, value) =>
    match letterTypes.lookup letter with
    | some word => (readTypes (Text.bytes word) 9 (Text.bytes word)).map some
    | none => if letter = 't' then (readTypes value (value.length + 1) value).map some else .ok none
  match badCount, badWidth, types with
  | some (letter, value), _, _ =>
    refuse (Text.bytes ("invalid -" ++ letter.toString ++ " argument '") ++ value ++ [byte '\''])
  | _, some value, _ => refuse (Text.bytes "invalid -w argument '" ++ value ++ [byte '\''])
  | _, _, .error text => refuse text
  | none, none, .ok columns =>
    if (radix.any fun word => (radices.lookup (word.take 1)).isNone) then
      refuse (Text.bytes "invalid output address radix '" ++ ((g.value? 'A').getD []).take 1 ++
        Text.bytes "'; it must be one character from [doxn]")
    else
      let (operands, place) := withPlace g
      let (data, status) ← gather operands
      match data with
      | none => return status
      | some data =>
        let start := place.getD (((g.value? 'j').bind readCount).getD 0)
        if data.length < start then
          complainText "cannot skip past end of combined input"
          return 1
        else
          let rest := data.drop start
          let rest := (((g.value? 'N').bind readCount).map rest.take).getD rest
          let columns := columns.flatten
          let columns := if columns.isEmpty then [({ style := .octal, size := 2 } : Column)] else columns
          let unit := commonSize (columns.map Column.size)
          let wanted := ((g.value? 'w').map fun word => (readCount word).getD 32).getD 16
          let fits := wanted != 0 && wanted % unit = 0
          if !fits && g.has 'w' then
            complain (Text.bytes "warning: invalid width " ++ decimal wanted ++ Text.bytes "; using " ++ decimal unit ++
              Text.bytes " instead")
          let l : Layout :=
            { columns := columns, radix := (radices.lookup (((g.value? 'A').map letters).getD ['o'] |>.take 1)).getD
                (some (8, 7))
              perRow := if fits then wanted else unit, big := g.value? 'ε' = some (Text.bytes "big"), all := g.has 'v' }
          if g.has 'S' || g.has 'σ' then
            let least := (((g.value? 'S').or (g.value? 'σ')).bind readCount).getD 3
            for (place, text) in texts least rest do
              putLine ((if l.radix.isSome then l.address (start + place) ++ [byte ' '] else []) ++ text)
          else put (l.rows (rest.length + 2) start none false rest).flatten
          return status

end Dump

end LineShell.Host
