import LineShell.Userland.Digest
import LineShell.Userland.Utility.Format
import LineShell.Userland.Utility.Inputs

/-!
# Encodings and checksums

`base64`, `base32` and `basenc` write bytes with the characters of an alphabet, or read them back; `md5sum`, the
utilities of the same kind, `cksum` and `sum` write digests of their inputs, or check them.

- `Alphabet.encode` and `Alphabet.decode` are the two directions;
- `CheckedLine.read` reads a line of a list of digests.
-/

namespace LineShell.Host

namespace Encoding

/-! ## Alphabets -/

/-- Characters that stand for so many bits each, in groups that are filled up. -/
structure Alphabet where
  characters : Bytes
  bits : Nat
  group : Nat
  padded : Bool := true

namespace Alphabet

def capitals : List Char :=
  "ABCDEFGHIJKLMNOPQRSTUVWXYZ".toList

def base64 : Alphabet :=
  ⟨(capitals ++ "abcdefghijklmnopqrstuvwxyz0123456789+/".toList).map byte, 6, 4, true⟩

def base64url : Alphabet :=
  ⟨(capitals ++ "abcdefghijklmnopqrstuvwxyz0123456789-_".toList).map byte, 6, 4, true⟩

def base32 : Alphabet :=
  ⟨(capitals ++ "234567".toList).map byte, 5, 8, true⟩

def base32hex : Alphabet :=
  ⟨("0123456789ABCDEFGHIJKLMNOPQRSTUV".toList).map byte, 5, 8, true⟩

def base16 : Alphabet :=
  ⟨("0123456789ABCDEF".toList).map byte, 4, 2, false⟩

def base2 : Alphabet :=
  ⟨("01".toList).map byte, 1, 8, false⟩

/-- How many bytes a group stands for. -/
def unit (a : Alphabet) : Nat :=
  a.bits * a.group / 8

/-- The characters for the bytes of one group. -/
def encodeGroup (a : Alphabet) (bytes : Bytes) : Bytes :=
  let n := Digest.ofBigEndian (bytes ++ List.replicate (a.unit - bytes.length) 0)
  let digits := (List.range a.group).reverse.map fun i =>
    (a.characters[n / Nat.pow 2 (a.bits * i) % Nat.pow 2 a.bits]?).getD 0
  let used := (8 * bytes.length + a.bits - 1) / a.bits
  digits.take used ++ List.replicate (a.group - used) (byte '=')

def encode (a : Alphabet) (text : Bytes) : Bytes :=
  (Digest.blocks a.unit (text.length + 1) text).flatMap a.encodeGroup

/-- The bytes that a group stands for, and whether it is a group at all: of one that is not, as many bytes as its start
makes. -/
def decodeGroup (a : Alphabet) (group : Bytes) : Bytes × Bool :=
  let digits := group.takeWhile a.characters.contains
  let rest := group.drop digits.length
  let n := digits.foldl (fun n b => n * Nat.pow 2 a.bits + (a.characters.idxOf? b).getD 0) 0
  let count := a.bits * digits.length / 8
  let bytes := Digest.bigEndian count (n / Nat.pow 2 (a.bits * digits.length - 8 * count))
  -- Characters that add no byte belong to none
  let exact := (8 * count + a.bits - 1) / a.bits = digits.length
  let fine := group.length = a.group && exact && (rest.isEmpty || (a.padded && 0 < count && rest.all (· = byte '=')))
  (bytes, fine)

/-- The bytes that a text stands for, and whether all of it made sense. `fuel` is more than its length. -/
def decodeAll (a : Alphabet) : (fuel : Nat) → Bytes → List Bytes × Bool
  | 0, _ => ([], true)
  | fuel + 1, text =>
    if text.isEmpty then ([], true)
    else
      let (bytes, fine) := a.decodeGroup (text.take a.group)
      if !fine then ([bytes], false)
      else
        let (more, fine) := decodeAll a fuel (text.drop a.group)
        (bytes :: more, fine)

/-- Read a text back; with `loose`, characters of no meaning are passed over. -/
def decode (a : Alphabet) (loose : Bool) (text : Bytes) : Bytes × Bool :=
  let meant := text.filter fun b =>
    b != newline && (!loose || a.characters.contains b || (a.padded && b = byte '='))
  let (bytes, fine) := a.decodeAll (meant.length + 1) meant
  (bytes.flatten, fine)

end Alphabet

/-- A text in lines of a width. -/
def wrapped (width : Nat) (text : Bytes) : Bytes :=
  if width = 0 then text
  else (Digest.blocks width (text.length + 1) text).flatMap (· ++ [newline])

/-- The options that all of these utilities have. -/
def encodingTable : OptionTable :=
  { letters := "di", valued := "w", words := [("decode", 'd'), ("ignore-garbage", 'i'), ("wrap", 'w')] }

/-- Write the input in an alphabet, or read it back. -/
def translate (a : Alphabet) (g : Given) : StateM Scene Nat := do
  let width := (g.value? 'w').getD (decimal 76)
  match g.operands, number? width with
  | _, none =>
    complain (Text.bytes "invalid wrap size: " ++ Quoted.curly width)
    return 1
  | _ :: extra :: _, _ => extraOperand extra 1
  | operands, some width =>
    let path := operands.headD [byte '-']
    match ← Inputs.stream path with
    | .error fault =>
      complainOf path fault
      return 1
    | .ok number =>
      match ← Inputs.drain number none with
      | .error fault =>
        complainText ("read error: " ++ fault.text)
        return 1
      | .ok data =>
        if g.has 'd' then
          let (bytes, fine) := a.decode (g.has 'i') data
          put bytes
          if !fine then complainText "invalid input"
          return if fine then 0 else 1
        else
          put (wrapped width (a.encode data))
          return 0

/-- Writes bytes with the characters of one alphabet. -/
def encoder (a : Alphabet) : Utility := withOptions encodingTable 1 (translate a)

/-- Writes bytes with the characters of an alphabet that an option names. -/
def basenc : Utility :=
  let alphabets : List (String × Char × Alphabet) :=
    [("base64", '6', .base64), ("base64url", 'u', .base64url), ("base32", '3', .base32),
      ("base32hex", 'h', .base32hex), ("base16", 'x', .base16), ("base2msbf", 'm', .base2)]
  withOptions
    { encodingTable with
      letters := encodingTable.letters ++ "6u3hxm"
      words := encodingTable.words ++ alphabets.map fun (name, letter, _) => (name, letter) } 1 fun g =>
    match (g.last? (alphabets.map (·.2.1))).bind fun letter => (alphabets.map (·.2)).lookup letter with
    | some a => translate a g
    | none => do
      complainOfUse (Text.bytes "missing encoding type")
      return 1

/-! ## Digests of files -/

/-- A way of making digests, with its name. -/
structure Method where
  name : String
  make : Bytes → Bytes

def methods : List Method :=
  [⟨"MD5", Digest.md5⟩, ⟨"SHA1", Digest.sha1⟩, ⟨"SHA224", Digest.sha224⟩, ⟨"SHA256", Digest.sha256⟩,
    ⟨"SHA384", Digest.sha384⟩, ⟨"SHA512", Digest.sha512⟩, ⟨"BLAKE2b", Digest.blake2b 64⟩]

/-- The hexadecimal digits of bytes. -/
def hexadecimal (bytes : Bytes) : Bytes :=
  bytes.flatMap fun b => padLeft 2 (byte '0') (Conversion.digitsOf 16 b.toNat false)

/-- A name as lists of digests show it, and whether it had to be changed for that. -/
def listedName (name : Bytes) : Bytes × Bool :=
  let shown := name.flatMap fun b =>
    if b = byte '\\' then Text.bytes "\\\\" else if b = newline then Text.bytes "\\n"
    else if b = 13 then Text.bytes "\\r" else [b]
  (shown, shown != name)

/-- A line of a list of digests. -/
structure CheckedLine where
  digest : Bytes
  name : Bytes
deriving DecidableEq, Repr

/-- Read a line of a list of digests in one of its two forms. -/
def CheckedLine.read (m : Method) (line : Bytes) : Option CheckedLine :=
  let line := line.dropWhile fun b => b = byte ' ' || b = 9
  let size := 2 * (m.make []).length
  let isHex (text : Bytes) : Bool := text.length = size && text.all fun b => (Quantity.hexValue? b).isSome
  let lower (text : Bytes) : Bytes := text.map fun b => if byte 'A' ≤ b && b ≤ byte 'Z' then b + 32 else b
  let tag := Text.bytes (m.name ++ " (")
  if tag.isPrefixOf line then
    let digest := line.drop (line.length - size)
    let before := line.take (line.length - size)
    let ending := Text.bytes ") = "
    if isHex digest && ending.isSuffixOf before then
      some ⟨lower digest, (before.take (before.length - ending.length)).drop tag.length⟩
    else none
  else
    let digest := line.take size
    match line.drop size with
    | 32 :: mark :: name =>
      if isHex digest && (mark = byte ' ' || mark = byte '*') && !name.isEmpty then some ⟨lower digest, name⟩ else none
    | _ => none

/-- How many, in words that fit the number. -/
def counted (n : Nat) (one several : String) : Bytes :=
  Text.bytes "WARNING: " ++ decimal n ++ Text.bytes (if n = 1 then one else several)

/-- Check the digests that a list names. -/
def checkList (m : Method) (g : Given) (path : Bytes) : StateM Scene Nat := do
  match ← Inputs.load path with
  | .error fault =>
    complainOf path fault
    return 1
  | .ok data =>
    let silent := g.has 'σ'
    let mut good := 0
    let mut unfit := 0
    let mut failed := 0
    let mut unread := 0
    for (line, n) in (Lines.texts newline data).zipIdx 1 do
      match CheckedLine.read m line with
      | none =>
        if !line.isEmpty && line.head? != some (byte '#') then
          unfit := unfit + 1
          if g.has 'w' then
            complain (Quoted.whereNeeded path ++ Text.bytes ": " ++ decimal n ++
              Text.bytes (": improperly formatted " ++ m.name ++ " checksum line"))
      | some line =>
        match ← Inputs.load line.name with
        | .error fault =>
          if !(g.has 'μ' && fault = .missing) then
            complainOf line.name fault
            unread := unread + 1
            if !silent then putLine (line.name ++ Text.bytes ": FAILED open or read")
          good := good + 1
        | .ok data =>
          good := good + 1
          if hexadecimal (m.make data) = line.digest then
            if !silent && !g.has 'q' then putLine (line.name ++ Text.bytes ": OK")
          else
            failed := failed + 1
            if !silent then putLine (line.name ++ Text.bytes ": FAILED")
    if good = 0 then
      complain (Quoted.whereNeeded path ++ Text.bytes ": no properly formatted checksum lines found")
      return 1
    else
      if !silent then
        if unfit != 0 then complain (counted unfit " line is improperly formatted" " lines are improperly formatted")
        if unread != 0 then complain (counted unread " listed file could not be read" " listed files could not be read")
        if failed != 0 then
          complain (counted failed " computed checksum did NOT match" " computed checksums did NOT match")
      return if failed = 0 && unread = 0 && !(g.has 'τ' && unfit != 0) then 0 else 1

/-- Write digests of files, in the form with the name of the method if `tagged`. -/
def writeDigests (m : Method) (tagged : Bool) (g : Given) : StateM Scene Nat := do
  let ending : Bytes := [Lines.ending g]
  forOperands (Inputs.paths g.operands) fun path => do
    match ← Inputs.load path with
    | .error fault =>
      complainOf path fault
      return 1
    | .ok data =>
      let digest := hexadecimal (m.make data)
      let (name, changed) := if g.has 'z' then (path, false) else listedName path
      let lead : Bytes := if changed then [byte '\\'] else []
      put (if tagged then lead ++ Text.bytes (m.name ++ " (") ++ name ++ Text.bytes ") = " ++ digest ++ ending
        else lead ++ digest ++ Text.bytes (if g.has 'b' then " *" else "  ") ++ name ++ ending)
      return 0

def digestTable : OptionTable :=
  { letters := "bctwz",
    words := [("binary", 'b'), ("check", 'c'), ("text", 't'), ("warn", 'w'), ("zero", 'z'), ("tag", 'γ'),
      ("quiet", 'q'), ("status", 'σ'), ("strict", 'τ'), ("ignore-missing", 'μ')] }

/-- Writes digests of files, or checks them. -/
def digester (m : Method) : Utility := withOptions digestTable 1 fun g => do
  let refuse (text : String) : StateM Scene Nat := do
    complainOfUse (Text.bytes text)
    return 1
  let onlyChecking := [('μ', "ignore-missing"), ('σ', "status"), ('w', "warn"), ('q', "quiet"), ('τ', "strict")]
  if g.has 'γ' && g.has 't' then refuse "--tag does not support --text mode"
  else if g.has 'c' && g.has 'γ' then refuse "the --tag option is meaningless when verifying checksums"
  else if g.has 'c' && (g.has 'b' || g.has 't') then
    refuse "the --binary and --text options are meaningless when verifying checksums"
  else if g.has 'c' then
    forOperands (Inputs.paths g.operands) (checkList m g)
  else
    match onlyChecking.find? fun (letter, _) => g.has letter with
    | some (_, name) => refuse ("the --" ++ name ++ " option is meaningful only when verifying checksums")
    | none => writeDigests m (g.has 'γ') g

/-- Write checksums that are numbers, with the length of what they stand for. -/
def writeNumbers (line : Bytes → Bytes) (g : Given) : StateM Scene Nat :=
  Inputs.forAll g.operands 1 fun path data =>
    putLine (line data ++ if g.operands.isEmpty then [] else byte ' ' :: path)

/-- The remainder of a text and its length. -/
def cyclicLine (data : Bytes) : Bytes :=
  decimal (Digest.cyclic data) ++ byte ' ' :: decimal data.length

/-- The sum of a text and its length in blocks of 1024 bytes. -/
def rotatingLine (data : Bytes) : Bytes :=
  padLeft 5 (byte '0') (decimal (Digest.rotating data)) ++ byte ' ' ::
    padLeft 5 (byte ' ') (decimal ((data.length + 1023) / 1024))

/-- The sum of a text and its length in blocks of 512 bytes. -/
def summingLine (data : Bytes) : Bytes :=
  decimal (Digest.summing data) ++ byte ' ' :: decimal ((data.length + 511) / 512)

/-- Writes sums of files. -/
def sum : Utility := withOptions { letters := "rs", words := [("sysv", 's')] } 1 fun g =>
  writeNumbers (if g.last? ['r', 's'] = some 's' then summingLine else rotatingLine) g

/-- Writes remainders of files, or digests of a kind that an option names. -/
def cksum : Utility := withOptions
  { digestTable with
    valued := "al"
    words := digestTable.words ++ [("algorithm", 'a'), ("length", 'l'), ("untagged", 'υ')] } 1 fun g =>
  let lower (name : String) : String := String.ofList (name.toList.map Char.toLower)
  match g.value? 'a' with
  | none => writeNumbers cyclicLine g
  | some name =>
    match methods.find? fun m => Text.bytes (lower m.name) = name with
    | some m => if g.has 'c' then forOperands (Inputs.paths g.operands) (checkList m g)
      else writeDigests m (!g.has 'υ') g
    | none =>
      if name = Text.bytes "bsd" then writeNumbers rotatingLine g
      else if name = Text.bytes "sysv" then writeNumbers summingLine g
      else writeNumbers cyclicLine g

/-- The utilities for digests, each under its name. -/
def digesters : List (String × Utility) :=
  (["md5sum", "sha1sum", "sha224sum", "sha256sum", "sha384sum", "sha512sum", "b2sum"].zip methods).map
    fun (name, m) => (name, digester m)

end Encoding

end LineShell.Host
