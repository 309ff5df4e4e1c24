import LineShell.Userland.Letters
import LineShell.Userland.Utility.Choice
import LineShell.Userland.Utility.Inputs
import LineShell.Userland.Utility.Print
import LineShell.Userland.Utility.VersionOrder

/-!
# Sorting

`sort` puts lines in order, or checks whether they are. Lines are compared by keys, and as a whole where the keys leave
them equal.

- `Sorting.Key` is a part of a line and a way of comparing it, `Sorting.Order` all that makes an order of lines.
-/

namespace LineShell.Host

namespace Sorting

/-! ## Ways of comparing -/

/-- How parts of lines are compared. -/
inductive Measure
  | text
  | numeric
  | general
  | human
  | month
  | version
  | random
deriving DecidableEq, Repr

/-- The way of comparing that a letter asks for. -/
def Measure.ofLetter? (letter : Char) : Option Measure :=
  [('n', Measure.numeric), ('g', .general), ('h', .human), ('M', .month), ('V', .version), ('R', .random)].lookup letter

/-- What letters behind a key ask for. -/
structure Manner where
  measures : List Measure := []
  reversed : Bool := false
  /-- Blanks in front do not count, where a key starts and where it ends. -/
  skipsAtStart : Bool := false
  skipsAtEnd : Bool := false
  folded : Bool := false
  /-- Only letters, digits and blanks count. -/
  dictionary : Bool := false
  shownOnly : Bool := false
deriving DecidableEq, Repr

namespace Manner

def measure (m : Manner) : Measure :=
  m.measures.headD .text

/-- Add what a letter asks for; `start` and `stop` tell where blanks are skipped. -/
def add (m : Manner) (start stop : Bool) (letter : Char) : Option Manner :=
  match letter with
  | 'b' => some { m with skipsAtStart := m.skipsAtStart || start, skipsAtEnd := m.skipsAtEnd || stop }
  | 'd' => some { m with dictionary := true }
  | 'i' => some { m with shownOnly := true }
  | 'f' => some { m with folded := true }
  | 'r' => some { m with reversed := true }
  | _ =>
    (Measure.ofLetter? letter).map fun found =>
      if m.measures.contains found then m else { m with measures := m.measures ++ [found] }

/-- Whether nothing is asked for but perhaps the reverse. -/
def isPlain (m : Manner) : Bool :=
  { m with reversed := false } = {}

end Manner

/-- A number at the start of a text: whether it is negative, its digits, and those behind the point. -/
structure Digits where
  negative : Bool := false
  whole : Bytes := []
  part : Bytes := []
  rest : Bytes := []

def isGap (b : UInt8) : Bool :=
  b = byte ' ' || b = 9

/-- Read the number that a text starts with, without zeros that do not count. -/
def Digits.read (text : Bytes) : Digits :=
  let text := text.dropWhile fun b => isGap b || b = newline
  let negative := text.head? = some (byte '-')
  let text := if negative then text.tail else text
  let whole := text.takeWhile isDigit
  let rest := text.drop whole.length
  let part := if rest.head? = some (byte '.') then rest.tail.takeWhile isDigit else []
  let rest := if rest.head? = some (byte '.') then rest.tail.drop part.length else rest
  { negative := negative
    whole := whole.dropWhile (· = byte '0')
    part := (part.reverse.dropWhile (· = byte '0')).reverse
    rest := rest }

def Digits.isZero (d : Digits) : Bool :=
  d.whole.isEmpty && d.part.isEmpty

/-- Compare two numbers. -/
def compareDigits (a b : Digits) : Ordering :=
  let size : Ordering :=
    ((compare a.whole.length b.whole.length).then (compareOfLessAndEq a.whole b.whole)).then
      (compareOfLessAndEq a.part b.part)
  match a.negative && !a.isZero, b.negative && !b.isZero with
  | true, false => .lt
  | false, true => .gt
  | true, true => size.swap
  | false, false => size

/-- How large the unit behind a number is; numbers that are zero have none. -/
def unitOf (d : Digits) : Int :=
  let letters := "KMGTPEZY".toList.map byte
  let power := match d.rest with
    | b :: _ => if b = byte 'k' then 1 else (letters.idxOf? b).elim 0 (· + 1)
    | [] => 0
  if d.isZero then 0 else if d.negative then -(power : Int) else power

/-- The month that a text starts with, counted from 1, or 0. -/
def monthOf (text : Bytes) : Nat :=
  let name := ((text.dropWhile isGap).take 3).map fun b => if byte 'a' ≤ b && b ≤ byte 'z' then b - 32 else b
  let months := ["JAN", "FEB", "MAR", "APR", "MAY", "JUN", "JUL", "AUG", "SEP", "OCT", "NOV", "DEC"]
  ((months.map Text.bytes).idxOf? name).elim 0 (· + 1)

/-- Compare two texts by the numbers they start with; texts without a number come first, then those that are none. -/
def compareGeneral (a b : Bytes) : Ordering :=
  let read (text : Bytes) : Option Quantity := (Quantity.read (text.dropWhile isBlank)).map (·.1)
  match read a, read b with
  | none, none => .eq
  | none, some _ => .lt
  | some _, none => .gt
  | some x, some y =>
    match x.size, y.size with
    | .undefined, .undefined => .eq
    | .undefined, _ => .lt
    | _, .undefined => .gt
    | _, _ => Quantity.compare x y

/-- A number that stands for a text and has nothing to do with its order. -/
def scrambled (text : Bytes) : Nat :=
  text.foldl (fun n b => (n * 1000003 + b.toNat + 12345) % 0x1fffffffffffffff) 97

/-- A text as it counts where the order is that of texts. -/
def counted (m : Manner) (text : Bytes) : Bytes :=
  let kept := if m.dictionary then text.filter fun b => isGap b || (Symbol.isAlphanumeric b.toNat && b < 128)
    else if m.shownOnly then text.filter fun b => 32 ≤ b && b < 127
    else text
  if m.folded then kept.map fun b => if byte 'a' ≤ b && b ≤ byte 'z' then b - 32 else b else kept

/-- Compare two parts of lines. -/
def compareParts (m : Manner) (a b : Bytes) : Ordering :=
  let order : Ordering := match m.measure with
    | .text => compareOfLessAndEq (counted m a) (counted m b)
    | .numeric => compareDigits (.read a) (.read b)
    | .general => compareGeneral a b
    | .human =>
      let x := Digits.read a
      let y := Digits.read b
      (compare (unitOf x) (unitOf y)).then (compareDigits x y)
    | .month => compare (monthOf a) (monthOf b)
    | .version => versionOrder (counted m a) (counted m b)
    | .random => (compare (scrambled (counted m a)) (scrambled (counted m b))).then
        (compareOfLessAndEq (counted m a) (counted m b))
  if m.reversed then order.swap else order

/-! ## Keys -/

/-- A part of a line that is compared. Fields and bytes are counted from 0; without a byte, the field that ends a key
belongs to it. -/
structure Key where
  field : Nat := 0
  skipped : Nat := 0
  lastField : Option Nat := none
  lastByte : Nat := 0
  manner : Manner := {}
deriving DecidableEq, Repr

/-- What follows so many fields of a text. `fuel` is more than the length. -/
def pastFields (separator : Option UInt8) (closed : Bool) : (fuel : Nat) → (fields : Nat) → Bytes → Bytes
  | 0, _, text | _, 0, text => text
  | fuel + 1, fields + 1, text =>
    match separator with
    | some b =>
      let rest := text.dropWhile (· != b)
      pastFields separator closed fuel fields (if fields = 0 && !closed then rest else rest.drop 1)
    | none => pastFields separator closed fuel fields ((text.dropWhile isGap).dropWhile fun b => !isGap b)

/-- The part of a line that a key stands for. -/
def Key.part (k : Key) (separator : Option UInt8) (line : Bytes) : Bytes :=
  let fuel := line.length + 1
  let fromField := pastFields separator true fuel (min k.field fuel) line
  let start := (if k.manner.skipsAtStart then fromField.dropWhile isGap else fromField).drop k.skipped
  match k.lastField with
  | none => start
  | some last =>
    let after :=
      if k.lastByte = 0 then pastFields separator false fuel (min (last + 1) fuel) line
      else
        let field := pastFields separator true fuel (min last fuel) line
        (if k.manner.skipsAtEnd then field.dropWhile isGap else field).drop k.lastByte
    start.take (start.length - after.length)

/-- What is wrong with a key, and with which part of it. -/
structure KeyFault where
  text : String
  part : Bytes
deriving DecidableEq, Repr

/-- Read the letters behind a place in a key. -/
def readManner (m : Manner) (start stop : Bool) : Bytes → Manner × Bytes
  | [] => (m, [])
  | b :: rest =>
    match m.add start stop (Char.ofNat b.toNat) with
    | some m => readManner m start stop rest
    | none => (m, b :: rest)

/-- Read a number of a key. -/
def readCount (what : String) (text : Bytes) : Except KeyFault (Nat × Bytes) :=
  let digits := text.takeWhile isDigit
  if digits.isEmpty then .error ⟨what ++ ": invalid count at start of ", text⟩
  else .ok (number digits, text.drop digits.length)

/-- Read a key such as `2.3b,4nr`. -/
def Key.read (word : Bytes) : Except KeyFault Key := do
  let wrong (what : String) : KeyFault := ⟨what ++ ": invalid field specification ", word⟩
  let stray := wrong "stray character in field spec"
  let (field, rest) ← readCount "invalid number at field start" word
  if field = 0 then throw (wrong "field number is zero")
  let (skipped, rest) ← (match rest with
    | 46 :: rest => do
      let (n, rest) ← readCount "invalid number after '.'" rest
      if n = 0 then throw (wrong "character offset is zero")
      return (n - 1, rest)
    | _ => return (0, rest) : Except KeyFault (Nat × Bytes))
  let (manner, rest) := readManner {} true false rest
  match rest with
  | [] => return { field := field - 1, skipped := skipped, manner := manner }
  | 44 :: rest =>
    let (last, rest) ← readCount "invalid number after ','" rest
    if last = 0 then throw (wrong "field number is zero")
    let (lastByte, rest) ← (match rest with
      | 46 :: rest => readCount "invalid number after '.'" rest
      | _ => return (0, rest) : Except KeyFault (Nat × Bytes))
    let (manner, rest) := readManner manner false true rest
    if !rest.isEmpty then throw stray
    return { field := field - 1, skipped := skipped, lastField := some (last - 1), lastByte := lastByte,
             manner := manner }
  | _ => throw stray

/-! ## Orders of lines -/

/-- What makes an order of lines. -/
structure Order where
  keys : List Key
  separator : Option UInt8 := none
  /-- Lines with equal keys count as equal. -/
  keysOnly : Bool := false
  reversed : Bool := false

namespace Order

/-- A line with the parts that its keys stand for. -/
abbrev Keyed := Bytes × List Bytes

def keyed (o : Order) (line : Bytes) : Keyed :=
  (line, o.keys.map fun k => k.part o.separator line)

/-- Compare the keys of two lines. -/
def compareKeys (o : Order) (a b : Keyed) : Ordering :=
  (o.keys.zip (a.2.zip b.2)).foldl (fun order (k, x, y) => order.then (compareParts k.manner x y)) .eq

/-- Compare two lines. -/
def compare (o : Order) (a b : Keyed) : Ordering :=
  let byKeys := o.compareKeys a b
  if o.keysOnly && !o.keys.isEmpty then byKeys
  else
    let whole : Ordering := compareOfLessAndEq a.1 b.1
    byKeys.then (if o.reversed then whole.swap else whole)

/-- The first of each run of equal lines. -/
def unique (o : Order) (lines : List Keyed) : List Keyed :=
  (lines.foldl (fun (kept : List Keyed) line =>
    match kept with
    | before :: _ => if o.compare before line = .eq then kept else line :: kept
    | [] => [line]) []).reverse

/-- Sorted lists as one. `fuel` is more than the number of lines. -/
def merge (o : Order) : (fuel : Nat) → List (List Keyed) → List Keyed
  | 0, _ => []
  | fuel + 1, lists =>
    let heads := lists.zipIdx.filterMap fun (list, n) => list.head?.map fun line => (line, n)
    match heads with
    | [] => []
    | first :: rest =>
      let (line, n) := rest.foldl (fun best here => if o.compare here.1 best.1 = .lt then here else best) first
      line :: merge o fuel (lists.modify n List.tail)

/-- The first line that is out of order, with its number. -/
def disorder? (o : Order) (strictly : Bool) (lines : List Keyed) : Option (Nat × Bytes) :=
  ((lines.zip lines.tail).zipIdx 2).findSome? fun ((a, b), n) =>
    let order := o.compare a b
    if order = .gt || (strictly && order = .eq) then some (n, b.1) else none

end Order

/-! ## The utility -/

def sortTable : OptionTable :=
  { letters := "bdfghiMnRrVcCmsuz", valued := "kotSTσπβχω", optional := "ς",
    words := [("ignore-leading-blanks", 'b'), ("dictionary-order", 'd'), ("ignore-case", 'f'),
      ("general-numeric-sort", 'g'), ("human-numeric-sort", 'h'), ("ignore-nonprinting", 'i'), ("month-sort", 'M'),
      ("numeric-sort", 'n'), ("random-sort", 'R'), ("reverse", 'r'), ("version-sort", 'V'), ("check", 'ς'),
      ("key", 'k'), ("merge", 'm'), ("output", 'o'), ("stable", 's'), ("buffer-size", 'S'), ("field-separator", 't'),
      ("temporary-directory", 'T'), ("unique", 'u'), ("zero-terminated", 'z'), ("sort", 'σ'), ("parallel", 'π'),
      ("batch-size", 'β'), ("random-source", 'χ'), ("compress-program", 'ω')] }

/-- The letters that a manner was written with. -/
def Manner.letters (m : Manner) : String :=
  let letter (x : Measure) (c : Char) : List Char := if m.measures.contains x then [c] else []
  String.ofList ((if m.dictionary then ['d'] else []) ++ (if m.folded then ['f'] else []) ++ letter .general 'g' ++
    letter .human 'h' ++ (if m.shownOnly then ['i'] else []) ++ letter .month 'M' ++ letter .numeric 'n' ++
    letter .random 'R' ++ letter .version 'V')

/-- Whether a manner asks for ways of comparing that exclude each other. -/
def Manner.isTorn (m : Manner) : Bool :=
  let plain := m.dictionary || m.shownOnly
  let special := m.measures.filter fun x => x != .version && x != .random
  let loose := plain || m.measures.any fun x => x = .version || x = .random
  1 < special.length + if loose then 1 else 0

/-- The words for ways of comparing. -/
def measureWords : Choices :=
  [["general-numeric"], ["human-numeric"], ["month"], ["numeric"], ["random"], ["version"]]

/-- The words for ways of checking. -/
def checkWords : Choices :=
  [["quiet", "silent"], ["diagnose-first"]]

/-- What the options ask for that holds for all keys. -/
def generalManner (g : Given) : Manner :=
  let letters := ['g', 'h', 'M', 'n', 'R', 'V']
  g.options.foldl (fun m (letter, value) =>
    let letter := if letter = 'σ' then ((measureWords.find value).toOption.bind (letters[·]?)).getD letter else letter
    (m.add true true letter).getD m) {}

/-- What is wrong with a size or a count that an option gives. -/
def sizeFault? (letter : Char) (value : Bytes) : Option (List Bytes) :=
  let worded (what : String) (rest : Bytes) : Bytes := Text.bytes what ++ byte '\'' :: rest ++ [byte '\'']
  let digits := value.takeWhile isDigit
  let after := value.drop digits.length
  let checked (option : String) : Option (List Bytes) :=
    if digits.isEmpty then some [worded ("invalid " ++ option ++ " argument ") value]
    else if !after.isEmpty then some [worded ("invalid suffix in " ++ option ++ " argument ") value]
    else none
  match letter with
  | 'S' =>
    if !digits.isEmpty && (after.isEmpty || (after.length = 1 && after.all ("%bKkMGTPEZYm".toList.map byte).contains))
    then none
    else checked "-S"
  | 'π' =>
    (checked "--parallel").or
      (if number digits = 0 then some [Text.bytes "number in parallel must be nonzero"] else none)
  | 'β' =>
    (checked "--batch-size").or (if number digits < 2 then
        some [Text.bytes "invalid --batch-size argument " ++ Quoted.curly value,
          Text.bytes "minimum --batch-size argument is \u20182\u2019"]
      else none)
  | _ => none

/-- The separator of fields that an option gives, or what is wrong with it. -/
def separatorOf (g : Given) : Except Bytes (Option UInt8) :=
  match g.value? 't' with
  | none => .ok none
  | some [] => .error (Text.bytes "empty tab")
  | some [b] => .ok (some b)
  | some word =>
    if word = Text.bytes "\\0" then .ok (some 0)
    else .error (Text.bytes "multi-character tab " ++ Quoted.curly word)

/-- All keys that options give, or what is wrong with one. -/
def keysOf (g : Given) : Except Bytes (List Key) :=
  (g.values 'k').mapM fun word =>
    (Key.read word).mapError fun fault => Text.bytes fault.text ++ Quoted.curly fault.part

/-- Read all inputs; the first that cannot be read ends the work. -/
def readAll (paths : List Bytes) : StateM Scene (Option (List Bytes)) := do
  if paths.any Inputs.isStandard && ((← get).stream? 0).isNone then
    complainText ("stat failed: -: " ++ Fault.badDescriptor.text)
    return none
  let mut all : List Bytes := []
  for path in paths do
    if !Inputs.isStandard path then
      match (← get).openFile path .read with
      | .error fault =>
        complain (Text.bytes "cannot read: " ++ Quoted.whereNeeded path ++ Text.bytes (": " ++ fault.text))
        return none
      | .ok _ => pure ()
  for path in paths do
    match ← Inputs.load path with
    | .ok data => all := data :: all
    | .error fault =>
      complain (Text.bytes "read failed: " ++ Quoted.whereNeeded path ++ Text.bytes (": " ++ fault.text))
      return none
  return some all.reverse

/-- Put lines in order, or check whether they are. -/
def sortBy (g : Given) (order : Order) : StateM Scene Nat := do
  let paths := Inputs.paths g.operands
  match ← readAll paths with
  | none => return 2
  | some inputs =>
    let ending := Lines.ending g
    let lists := inputs.map fun data => (Lines.texts ending data).map order.keyed
    let all := lists.flatten
    let silent := g.has 'C' || (g.values 'ς').any fun word => (checkWords.find word).toOption = some 0
    if g.has 'c' || g.has 'C' || g.has 'ς' then
      match order.disorder? (g.has 'u') all with
      | none => return 0
      | some (n, line) =>
        if !silent then complain (paths.headD [] ++ byte ':' :: decimal n ++ Text.bytes ": disorder: " ++ line)
        return 1
    else
      let sorted := if g.has 'm' then order.merge (all.length + 1) lists
        else all.mergeSort fun a b => order.compare a b != .gt
      let kept := if g.has 'u' then order.unique sorted else sorted
      let text := kept.flatMap fun (line, _) => line ++ [ending]
      match g.value? 'o' with
      | none =>
        put text
        return 0
      | some path =>
        match ← Inputs.store path text false with
        | .ok () => return 0
        | .error fault =>
          complain (Text.bytes "open failed: " ++ Quoted.whereNeeded path ++ Text.bytes (": " ++ fault.text))
          return 2

/-- Prints its lines in order. -/
def sort : Utility := withOptions sortTable 2 fun g =>
  let checkLetter := if (g.last? ['c', 'C']) = some 'C' then "C" else "c"
  let words := g.options.filter fun (letter, value) => letter != 'ς' || !value.isEmpty
  choosing [('σ', "sort", measureWords), ('ς', "check", checkWords)] { g with options := words } 1 do
    match g.options.findSome? fun (letter, value) => sizeFault? letter value with
    | some texts =>
      for text in texts do complain text
      return 2
    | none =>
      match separatorOf g, keysOf g with
      | .error text, _ | .ok _, .error text =>
        complain text
        return 2
      | .ok separator, .ok keys =>
        let general := generalManner g
        let inherits (k : Key) : Key :=
          if k.manner = {} then { k with manner := general } else k
        let keys := if keys.isEmpty then if general.isPlain then [] else [{ manner := general }]
          else keys.map inherits
        match (keys.map (·.manner) ++ [general]).find? Manner.isTorn with
        | some torn =>
          complain (Text.bytes ("options '-" ++ torn.letters ++ "' are incompatible"))
          return 2
        | none =>
          let checks := g.has 'c' || g.has 'C' || g.has 'ς'
          if checks && 1 < g.operands.length then
            complain (Text.bytes "extra operand " ++ Quoted.always ((g.operands[1]?).getD []) ++
              Text.bytes (" not allowed with -" ++ checkLetter))
            return 2
          else if checks && g.has 'o' then
            complainText ("options '-" ++ checkLetter ++ "o' are incompatible")
            return 2
          else
            sortBy g { keys := keys, separator := separator, keysOnly := g.has 's' || g.has 'u',
                       reversed := general.reversed }

end Sorting

end LineShell.Host
