import LineShell.Userland.Utility.Files.Transfer

/-!
# What files take

Sizes of files and the room they take on the disk, and the units that both are shown in.

- `BlockScale` is such a unit, `BlockScale.read` reads one, `BlockScale.write` writes a size in it.
-/

namespace LineShell.Host

namespace Files

/-- How many pages of the disk a file takes. -/
def pageCount : Node → Nat
  | .file content _ =>
    let pages := content.writes.flatMap fun (start, data) =>
      let first := start / 4096
      (List.range ((start + data.length + 4095) / 4096 - first)).map (first + ·)
    (pages.eraseDups.filter fun page => page * 4096 < content.size).length
  | .dir .. => 1
  | .tool _ => 1
  | _ => 0

/-- How many names a file has, with those that the directories in a directory have for it. -/
def linkCount (d : Disk) (id : Nat) : Node → Nat
  | .dir entries _ => 2 + (entries.filter fun (_, id) => (d.node? id).any Node.isDir).length
  | _ => max 1 (nameCount d id)

/-- The number that is told of a file. -/
def shownId (id : Nat) : Nat :=
  id + 1000

/-- The size that is told of a file; a directory takes a page. -/
def shownSize : Node → Nat
  | .dir .. => 4096
  | node => node.size

/-- The letters of the units, each for a higher power. -/
def powerLetters : List Char :=
  "KMGTPEZY".toList

/-- A size with a letter for its unit, rounded up, with one decimal if it is less than ten units. -/
def readableSize (base : Nat) (n : Nat) : Bytes :=
  let units := if base = 1000 then 'k' :: powerLetters.tail else powerLetters
  if n < base then decimal n
  else
    let rec go (unit : Nat) : List Char → Bytes
      | [] => decimal n
      | letter :: more =>
        let tenths := (n * 10 + unit - 1) / unit
        let whole := (n + unit - 1) / unit
        if tenths < 100 then decimal (tenths / 10) ++ byte '.' :: decimal (tenths % 10) ++ [byte letter]
        else if whole < base || more.isEmpty then decimal whole ++ [byte letter]
        else go (unit * base) more
    go base units

/-- The unit that sizes are shown in: the one that fits each of them best, or always the same with a letter or none. -/
inductive BlockScale
  | fitting (base : Nat)
  | fixed (unit : Nat) (mark : Bytes)
deriving DecidableEq, Repr

/-- What is wrong with a unit. -/
inductive ScaleFault
  | invalid
  | suffix
  | tooLarge
deriving DecidableEq, Repr

/-- What is said of a unit that an option asks for. -/
def ScaleFault.text (option : String) (word : Bytes) : ScaleFault → Bytes
  | invalid => Text.bytes ("invalid " ++ option ++ " argument ") ++ Quoted.curly word
  | suffix => Text.bytes ("invalid suffix in " ++ option ++ " argument ") ++ Quoted.curly word
  | tooLarge => Text.bytes (option ++ " argument ") ++ Quoted.curly word ++ Text.bytes " too large"

namespace BlockScale

/-- The unit that a letter with what follows it stands for, and how it is shown behind sizes if no number is in front
of it. -/
def readLetters (text : Bytes) : Option (Nat × Bytes) :=
  let powerOf (letter : UInt8) : Option Nat :=
    let upper := if ("kmgt".toList.map byte).contains letter then letter - 32 else letter
    ((powerLetters.map byte).idxOf? upper).map (· + 1)
  match text with
  | [letter] | [letter, 105, 66] | [letter, 66] =>
    (powerOf letter).map fun n =>
      let base := if text.length = 2 then 1000 else 1024
      let letter := powerLetters.getD (n - 1) 'K'
      let mark : Bytes := [byte (if n = 1 && base = 1000 then 'k' else letter)]
      let tail : Bytes := match text.length with
        | 1 => []
        | 2 => [byte 'B']
        | _ => Text.bytes "iB"
      (Nat.pow base n, mark ++ tail)
  | _ => none

/-- Read a unit: a word, a number, a letter for a power, or a number of those. -/
def read (word : Bytes) : Except ScaleFault BlockScale :=
  let text := if word.head? = some (byte '\'') then word.tail else word
  if text = Text.bytes "human-readable" then .ok (.fitting 1024)
  else if text = Text.bytes "si" then .ok (.fitting 1000)
  else
    let digits := text.takeWhile isDigit
    let rest := text.drop digits.length
    let unit (n : Nat) (mark : Bytes) : Except ScaleFault BlockScale :=
      if n = 0 then .error .invalid
      else if 0xffffffffffffffff < n then .error .tooLarge
      else .ok (.fixed n mark)
    if rest.isEmpty then (if digits.isEmpty then .error .invalid else unit (number digits) [])
    else
      match readLetters rest with
      | some (n, mark) => if digits.isEmpty then unit n mark else unit (number digits * n) []
      | none =>
        let isLetter := ("eEgGkKmMpPtTyYzZ".toList.map byte).contains (rest.headD 0)
        .error (if digits.isEmpty && !isLetter then .invalid else .suffix)

/-- A size in a unit, rounded up. -/
def write (scale : BlockScale) (size : Nat) : Bytes :=
  match scale with
  | fitting base => readableSize base size
  | fixed unit mark => decimal ((size + unit - 1) / unit) ++ mark

/-- The unit that room on the disk is shown in if nothing else is asked for. -/
def usual : BlockScale :=
  .fixed 1024 []

end BlockScale

end Files

end LineShell.Host
