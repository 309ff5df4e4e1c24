import LineShell.Userland.Utility.Child
import LineShell.Userland.Utility.Filters.Passing

/-!
# Splitting

`split` writes its input into files, piece by piece, under names that are counted up.

- `piecesOf` are the pieces of a text;
- `Plan` is what options ask for, `Plan.name?` the name of a piece.
-/

namespace LineShell.Host

namespace Filters

/-- How an input is split. -/
inductive Pieces
  | lines (count : Nat)
  | bytes (count : Nat)
  /-- Whole lines, as many as fit. -/
  | lineBytes (count : Nat)
  /-- So many pieces: of bytes, of lines or of lines dealt out in turn; of these perhaps one only, to be printed. -/
  | parts (kind : Option Char) (count : Nat) (only : Option Nat)

/-- Lines that together fit into so many bytes. -/
def fitting (size : Nat) (present : Bytes) : List Bytes → List Bytes
  | [] => if present.isEmpty then [] else [present]
  | line :: rest =>
    if present.length + line.length ≤ size then fitting size (present ++ line) rest
    else
      let before := if present.isEmpty then [] else [present]
      let whole := chunks size (line.length + 1) line
      before ++ whole.dropLast ++ fitting size (whole.getLastD []) rest

/-- The pieces of a text. -/
def piecesOf (ending : UInt8) (kind : Pieces) (data : Bytes) : List Bytes :=
  let rec groups (count : Nat) : (fuel : Nat) → List Bytes → List Bytes
    | 0, _ | _, [] => []
    | fuel + 1, all => (all.take (max 1 count)).flatten :: groups count fuel (all.drop (max 1 count))
  let all := Lines.split ending data
  match kind with
  | .lines n => groups n (all.length + 1) all
  | .bytes n => chunks n (data.length + 1) data
  | .lineBytes n => fitting n [] all
  | .parts none n _ =>
    /- What is left over belongs to the last piece. -/
    let size := max data.length n / n
    (List.range n).map fun k =>
      let rest := data.drop (k * size)
      if k + 1 < n then rest.take size else rest
  | .parts (some 'r') n _ =>
    (List.range n).map fun k => (all.zipIdx.filterMap fun (line, m) => if m % n = k then some line else none).flatten
  | .parts _ n _ =>
    /- A line belongs to the piece in which it starts. -/
    let size := max data.length n / n
    let starts := (all.foldl (fun (starts, at_) line => (starts ++ [at_], at_ + line.length)) (([] : List Nat), 0)).1
    (List.range n).map fun k =>
      ((all.zip starts).filterMap fun (line, start) =>
        if min (start / size) (n - 1) = k then some line else none).flatten

/-- The name of a piece: its number to some base in so many digits, or more if they do not suffice. -/
def pieceName (digits : List Char) (width n : Nat) : Bytes :=
  let base := digits.length
  ((List.range width).map fun k => byte (digits.getD (n / Nat.pow base (width - 1 - k) % base) '0'))

/-- The name of a piece where the length of names is not given: they get longer when they would run out. -/
def growingName (digits : List Char) (n : Nat) : Bytes :=
  let base := digits.length
  let last := digits.getLastD 'z'
  let rec go : (fuel : Nat) → (width n : Nat) → Bytes
    | 0, width, n => pieceName digits width n
    | fuel + 1, width, n =>
      let room := Nat.pow base (width - 1) * (base - 1)
      if n < room then pieceName digits width n else byte last :: go fuel width (n - room)
  go 8 2 n

/-- Read how many pieces there are to be, and which of them is printed. -/
def readParts (word : Bytes) : Except Bytes Pieces :=
  let word := word.dropWhile isBlank
  let (kind, rest) : Option Char × Bytes := match letters word with
    | 'l' :: '/' :: _ => (some 'l', word.drop 2)
    | 'r' :: '/' :: _ => (some 'r', word.drop 2)
    | _ => (none, word)
  let first := rest.takeWhile (· != byte '/')
  let whole := first.length = rest.length
  let countText := if whole then rest else rest.drop (first.length + 1)
  let fault (what : String) (text : Bytes) (fault : SizeFault) : Bytes :=
    Text.bytes (what ++ ": ") ++ Quoted.curly text ++ Text.bytes fault.tail
  match Size.readBetween false "" 1 Size.limit countText with
  | .error wrong => .error (fault "invalid number of chunks" countText wrong)
  | .ok n =>
    if whole then .ok (.parts kind n.toNat none)
    else
      match Size.readBetween false "" 1 n first with
      | .error wrong => .error (fault "invalid chunk number" first wrong)
      | .ok k => .ok (.parts kind n.toNat (some k.toNat))

/-- What options ask for. -/
structure Plan where
  pieces : Option Pieces := none
  /-- The digits of a number of lines that was given as an option. -/
  digits : Option Bytes := none
  /-- How long the endings of names are, if that is asked for. -/
  width : Nat := 0
  alphabet : String := "abcdefghijklmnopqrstuvwxyz"
  start : Option Bytes := none
  behind : Bytes := []
  separator : Option UInt8 := none
  sparing : Bool := false
  verbose : Bool := false
  command : Option Bytes := none

/-- What is wrong with an option: what is said of it, and whether help is referred to. -/
structure PlanFault where
  text : Bytes
  refers : Bool := false

namespace Plan

/-- Choose the way to split; there may be only one. -/
def choose (p : Plan) (pieces : Except Bytes Pieces) : Except PlanFault Plan :=
  if p.pieces.isSome || p.digits.isSome then .error ⟨Text.bytes "cannot split in more than one way", true⟩
  else
    match pieces with
    | .ok pieces => .ok { p with pieces := some pieces }
    | .error text => .error { text }

/-- A count that is not zero. -/
def sized (units : String) (most : Nat) (what : String) (make : Nat → Pieces) (word : Bytes) : Except Bytes Pieces :=
  match Size.readBetween false units 1 most word with
  | .ok n => .ok (make n.toNat)
  | .error fault =>
    .error (Text.bytes ("invalid number of " ++ what ++ ": ") ++ Quoted.curly word ++ Text.bytes fault.tail)

/-- The units of sizes. -/
def units : String :=
  "bEGKkMmPTYZ0"

/-- The byte that ends records. -/
def readSeparator (p : Plan) (word : Bytes) : Except PlanFault Plan :=
  let found : Except PlanFault UInt8 := match word with
    | [] => .error ⟨Text.bytes "empty record separator", false⟩
    | [b] => .ok b
    | [92, 48] => .ok 0
    | _ => .error ⟨Text.bytes "multi-character separator " ++ Quoted.curly word, false⟩
  found.bind fun b =>
    if p.separator.any (· != b) then .error ⟨Text.bytes "multiple separator characters specified", false⟩
    else .ok { p with separator := some b }

/-- Count names with some digits, from a number on. -/
def withDigits (p : Plan) (alphabet : String) (what : String) (word : Bytes) : Except PlanFault Plan :=
  let p := { p with alphabet := alphabet }
  if word.isEmpty then .ok p
  else if word.all (alphabet.toList.map byte).contains then
    let trimmed := word.dropWhile (· = byte '0')
    .ok { p with start := some (if trimmed.isEmpty then [byte '0'] else trimmed) }
  else .error ⟨Quoted.curly word ++ Text.bytes (": invalid start value for " ++ what ++ " suffix"), true⟩

/-- One more option. -/
def add (p : Plan) (option : Char × Bytes) : Except PlanFault Plan :=
  let (letter, word) := option
  match letter with
  | 'a' =>
    match Size.readBetween false "" 0 0x1fffffffffffffff word with
    | .ok n => .ok { p with width := n.toNat }
    | .error fault =>
      .error { text := Text.bytes "invalid suffix length: " ++ Quoted.curly word ++ Text.bytes fault.tail }
  | 'σ' =>
    if word.contains Place.slash then
      .error ⟨Text.bytes "invalid suffix " ++ Quoted.curly word ++ Text.bytes ", contains directory separator", true⟩
    else .ok { p with behind := word }
  | 'b' => p.choose (sized units 0x7fffffffffffffff "bytes" .bytes word)
  | 'l' => p.choose (sized "" Size.limit "lines" .lines word)
  | 'C' => p.choose (sized units 0x7fffffffffffffff "lines" .lineBytes word)
  | 'n' => p.choose (readParts word)
  | 't' => p.readSeparator word
  | 'ν' =>
    /- Digits that are an option by themselves; the last of several counts. -/
    if p.pieces.isSome then .error ⟨Text.bytes "cannot split in more than one way", true⟩
    else .ok { p with digits := some word }
  | 'd' => p.withDigits "0123456789" "numerical" word
  | 'x' => p.withDigits "0123456789abcdef" "hexadecimal" word
  | 'e' => .ok { p with sparing := true }
  | 'ω' => .ok { p with verbose := true }
  | 'φ' => .ok { p with command := some word }
  | 'ι' =>
    match Size.readBetween false units 1 Size.limit word with
    | .ok _ => .ok p
    | .error fault =>
      .error { text := Text.bytes "invalid IO block size: " ++ Quoted.curly word ++ Text.bytes fault.tail }
  | _ => .ok p

/-- The way to split. -/
def way (p : Plan) : Pieces :=
  match p.pieces, p.digits with
  | some pieces, _ => pieces
  | none, some digits => .lines (number digits)
  | none, none => .lines 1000

/-- The number of the first name. -/
def firstNumber (p : Plan) : Nat :=
  (p.start.getD []).foldl (fun n b => n * p.alphabet.length + (Quantity.hexValue? b).getD 0) 0

/-- How long the endings of names have to be: for a number of pieces that is known. -/
def neededWidth (p : Plan) : Nat :=
  match p.way with
  | .parts _ n _ =>
    let first := number (p.start.getD [])
    let last := n - 1 + if first < n then first else 0
    ((List.range 64).find? fun k => last < Nat.pow p.alphabet.length (k + 1)).getD 64 + 1
  | _ => 0

/-- How long the endings of names are; `none` if they get longer when they would run out. -/
def fixedWidth (p : Plan) : Option Nat :=
  if p.width != 0 then some p.width
  else
    match p.way with
    | .parts .. => some (max 2 p.neededWidth)
    | _ => if p.start.isSome then some 2 else none

/-- What is wrong with options as a whole. -/
def fault? (p : Plan) : Option PlanFault :=
  let only : Bool := match p.way with
    | .parts _ _ only => only.isSome
    | _ => false
  if only && p.command.isSome then some ⟨Text.bytes "--filter does not process a chunk extracted to stdout", true⟩
  else
    match p.way with
    | .lines 0 => some ⟨Text.bytes "invalid number of lines: " ++ Quoted.curly [byte '0'], true⟩
    | _ =>
      if p.width != 0 && p.width < p.neededWidth then
        some ⟨Text.bytes "the suffix length needs to be at least " ++ decimal p.neededWidth, false⟩
      else none

/-- The name of a piece, if there is one left. -/
def name? (p : Plan) (lead : Bytes) (n : Nat) : Option Bytes :=
  let digits := p.alphabet.toList
  match p.fixedWidth with
  | some width =>
    if Nat.pow digits.length width ≤ n then none else some (lead ++ pieceName digits width n ++ p.behind)
  | none => some (lead ++ growingName digits n ++ p.behind)

end Plan

def splitTable : OptionTable :=
  { letters := "0123456789deuxω", valued := "lbCnatσφι", optional := "δχ",
    words := [("lines", 'l'), ("bytes", 'b'), ("line-bytes", 'C'), ("number", 'n'), ("suffix-length", 'a'),
      ("additional-suffix", 'σ'), ("numeric-suffixes", 'δ'), ("hex-suffixes", 'χ'), ("separator", 't'),
      ("elide-empty-files", 'e'), ("unbuffered", 'u'), ("verbose", 'ω'), ("filter", 'φ'), ("-io-blksize", 'ι')] }

/-- Options in which single digits in a row are one number, and words are the letters they stand for. -/
def gathered : List (Char × Bytes) → List (Char × Bytes)
  | [] => []
  | (letter, word) :: rest =>
    if letter.isDigit then
      match gathered rest with
      | ('ν', more) :: others => ('ν', byte letter :: more) :: others
      | others => ('ν', [byte letter]) :: others
    else (if letter = 'δ' then 'd' else if letter = 'χ' then 'x' else letter, word) :: gathered rest

/-- Complain of a fault. -/
def complainOfPlan (fault : PlanFault) : StateM Scene Nat := do
  complain fault.text
  if fault.refers then referToHelp
  return 1

/-- Let a command read a piece under its name. -/
def runFilter (starter : Starter) (command name piece : Bytes) : StateM Scene Nat := do
  let s ← get
  let (number, there) := s.addStream (.pipe piece [])
  let program := (starter.environment.lookup (Text.bytes "SHELL")).getD (Text.bytes "/bin/sh")
  let environment := starter.environment.filter (·.1 != Text.bytes "FILE") ++ [(Text.bytes "FILE", name)]
  match starter.start environment starter.ignored [program, Text.bytes "-c", command] (there.assign 0 (some number)) with
  | .error fault =>
    complain (Text.bytes "failed to run command: \"" ++ program ++ Text.bytes " -c " ++ command ++
      Text.bytes ("\": " ++ fault.text))
    return 1
  | .ok (ending, after) =>
    set (s.after after)
    let code := statusOfEnding ending
    if code != 0 then
      let how : Bytes := match ending with
        | .killed signal => Text.bytes "signal " ++ decimal signal
        | .exited _ => Text.bytes "exit " ++ decimal code
      complain (Text.bytes "with FILE=" ++ Quoted.whereNeeded name ++ Text.bytes ", " ++ how ++
        Text.bytes " from command: " ++ Quoted.curly command)
    return code

/-- Write a piece into the file that its name stands for; `input` is the file that is split. -/
def writePiece (input : Option Nat) (name piece : Bytes) : StateM Scene Nat := do
  let s ← get
  if input.isSome && (s.disk.locate? s.dir name).map (·.id) = input then
    complain (Quoted.always name ++ Text.bytes " would overwrite input; aborting")
    return 1
  else
    match ← Inputs.store name piece false with
    | .ok () => return 0
    | .error fault =>
      complainOf name fault
      return 1

/-- Write all pieces, each under its name. What is told of commands goes out when all of them have ended; `told` are the
lines so far. -/
def writePieces (starter : Starter) (p : Plan) (input : Option Nat) (lead : Bytes) (n : Nat) (told : Bytes) :
    List Bytes → StateM Scene Nat
  | [] => do
    put told
    return 0
  | piece :: rest => do
    if p.sparing && piece.isEmpty then writePieces starter p input lead n told rest
    else
      match p.name? lead n, p.command with
      | none, _ =>
        put told
        complainText "output file suffixes exhausted"
        return 1
      | some name, some command =>
        let told := if p.verbose then told ++ Text.bytes "executing with FILE=" ++ Quoted.whereNeeded name ++ [newline]
          else told
        match ← runFilter starter command name piece with
        | 0 => writePieces starter p input lead (n + 1) told rest
        | code =>
          put told
          return code
      | some name, none =>
        if p.verbose then putLine (Text.bytes "creating file " ++ Quoted.always name)
        match ← writePiece input name piece with
        | 0 => writePieces starter p input lead (n + 1) told rest
        | code => return code

/-- Split what a stream holds. -/
def splitStream (starter : Starter) (p : Plan) (path lead : Bytes) (number : Nat) : StateM Scene Nat := do
  let s ← get
  let input : Option Nat := match s.commons.streams[number]? with
    | some (.file id ..) => some id
    | _ => none
  let seekable := (s.commons.streams[number]?).any fun stream =>
    s.canReturn stream || match stream with
      | .file id .. => (s.disk.node? id).any fun node => match node with
        | .fifo .. => false
        | _ => true
      | _ => false
  let measured : Bool := match p.way with
    | .parts kind .. => kind != some 'r'
    | _ => false
  if measured && !seekable then
    complain (Quoted.whereNeeded path ++ Text.bytes ": cannot determine file size")
    return 1
  else
    match ← Inputs.drain number none with
    | .error fault =>
      complain (Quoted.whereNeeded path ++ Text.bytes ((if measured then ": cannot determine file size" else "") ++
        ": " ++ fault.text))
      return 1
    | .ok data =>
      let all := piecesOf (p.separator.getD newline) p.way data
      match p.way with
      | .parts _ _ (some k) =>
        put ((all[k - 1]?).getD [])
        return 0
      | _ => writePieces starter p input lead p.firstNumber [] all

/-- Writes its input into files, piece by piece. -/
def split (starter : Starter) : Utility := fun args => do
  let reading := splitTable.readFrom false {} args
  match (gathered reading.1.options).foldlM Plan.add {} with
  | .error fault => complainOfPlan fault
  | .ok p =>
    withReading (OptionTable.ofReading reading) 1 fun g => do
      match p.fault?, g.operands with
      | some fault, _ => complainOfPlan fault
      | none, _ :: _ :: extra :: _ => extraOperand extra 1
      | none, operands =>
        if p.fixedWidth.any (· < (p.start.getD []).length) then
          complainOfUse (Text.bytes "numerical suffix start value is too large for the suffix length")
          return 1
        else
          let path := operands.headD [byte '-']
          match ← Inputs.stream path with
          | .error fault =>
            complain (Text.bytes "cannot open " ++ Quoted.always path ++ Text.bytes (" for reading: " ++ fault.text))
            return 1
          | .ok number => splitStream starter p path ((operands[1]?).getD [byte 'x']) number

end Filters

end LineShell.Host
