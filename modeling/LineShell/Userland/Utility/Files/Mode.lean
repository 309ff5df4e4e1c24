import LineShell.Userland.Utility.Print

/-!
# Modes

A mode has three bits each for the owner, the group and the others, and three before them. `Mode.after` is the mode
that a text such as `u+x,go=r` or `644` makes of another one; `Mode.letters` shows a mode.
-/

namespace LineShell.Host

namespace Files

/-! ## Changing modes -/

/-- All bits of a mode. -/
def modeBits : Nat := 0xfff

/-- The bits of a set that are not in another one. -/
def without (bits other : Nat) : Nat :=
  bits - (bits &&& other)

/-- The bits that belong to those that a letter names. -/
def whoBits (who : Bytes) : Nat :=
  who.foldl (fun bits b => bits ||| match Char.ofNat b.toNat with
    | 'u' => 0x9c0
    | 'g' => 0x438
    | 'o' => 0x207
    | _ => modeBits) 0

/-- The bits that letters of a permission stand for. -/
def permissionBits (chars : Bytes) : Nat :=
  chars.foldl (fun bits b => bits ||| match Char.ofNat b.toNat with
    | 'r' => 0x124
    | 'w' => 0x92
    | 'x' => 0x49
    | 's' => 0xc00
    | 't' => 0x200
    | _ => 0) 0

/-- Three bits for each of three, where the bits of one of them are given. -/
def spread (bits : Nat) : Nat :=
  let three := (bits ||| bits / 8 ||| bits / 64) % 8
  three * 0x49

/-- One operation on a mode: what is affected, the sign, the bits it names, and those that are meant expressly. A
directory keeps the bits of owner and group that are not. -/
def operate (mask affected : Nat) (sign : Char) (value mentioned : Nat) (isDir : Bool) (mode : Nat) : Nat :=
  let kept := if isDir then without 0xc00 mentioned else 0
  let value := without (value &&& (if affected = 0 then without modeBits mask else affected)) kept
  match sign with
  | '+' => mode ||| value
  | '-' => without mode value
  | _ => (mode &&& ((if affected = 0 then 0 else without modeBits affected) ||| kept)) ||| value

/-- Carry out the operations of one clause of a mode, such as `+r-x`, for those that `who` names. -/
def operations (mask : Nat) (who : Bytes) (isDir : Bool) : (fuel : Nat) → Bytes → Nat → Option Nat
  | 0, _, _ => none
  | _, [], mode => some mode
  | fuel + 1, sign :: rest, mode =>
    let isSign (b : UInt8) : Bool := b = byte '+' || b = byte '-' || b = byte '='
    let chars := rest.takeWhile fun b => !isSign b
    let affected := whoBits who
    let next (value mentioned : Nat) : Option Nat :=
      some (operate mask affected (Char.ofNat sign.toNat) value mentioned isDir mode)
    let changed := if !isSign sign then none
      else if !chars.isEmpty && chars.all Print.isOctal then
        if who.isEmpty && Print.octal chars ≤ modeBits then
          some (operate mask modeBits (Char.ofNat sign.toNat) (Print.octal chars) modeBits isDir mode)
        else none
      else
        match chars with
        | [117] => next (spread (mode &&& 0x1c0)) 0
        | [103] => next (spread (mode &&& 0x38)) 0
        | [111] => next (spread (mode &&& 7)) 0
        | _ =>
          if chars.all fun b => "rwxXst".toList.contains (Char.ofNat b.toNat) then
            let started := chars.contains (byte 'X') && (mode &&& Node.startBits != 0 || isDir)
            let value := permissionBits chars ||| if started then 0x49 else 0
            next value (if affected = 0 then value else affected &&& value)
          else none
    changed.bind fun mode => operations mask who isDir fuel (rest.drop chars.length) mode

/-- The mode that a text makes of another one; `none` if it says nothing about modes. -/
def modeAfter (mask : Nat) (isDir : Bool) (text : Bytes) (mode : Nat) : Option Nat :=
  if text.isEmpty then none
  else if text.all Print.isOctal then
    let value := Print.octal text
    let mentioned := if 4 < text.length then modeBits else (value &&& 0xc00) ||| 0x3ff
    if modeBits < value then none else some (operate mask modeBits '=' value mentioned isDir mode)
  else
    (text.splitOn (byte ',')).foldlM (fun mode clause =>
      let who := clause.takeWhile fun b => [byte 'u', byte 'g', byte 'o', byte 'a'].contains b
      let rest := clause.drop who.length
      if rest.isEmpty then none else operations mask who isDir (rest.length + 1) rest mode) mode

/-! ## Showing modes -/

/-- Three letters for three bits of a mode. A bit before them changes the last letter. -/
def triple (bits : Nat) (special : Bool) (mark : Char) : Bytes :=
  let last := match bits % 2 == 1, special with
    | true, true => mark
    | true, false => 'x'
    | false, true => mark.toUpper
    | false, false => '-'
  [byte (if bits / 4 % 2 = 1 then 'r' else '-'), byte (if bits / 2 % 2 = 1 then 'w' else '-'), byte last]

/-- Nine letters for a mode. -/
def modeLetters (mode : Nat) : Bytes :=
  triple (mode / 64) (mode &&& 0x800 != 0) 's' ++ triple (mode / 8) (mode &&& 0x400 != 0) 's' ++
    triple mode (mode &&& 0x200 != 0) 't'

/-- A mode in octal digits. -/
def modeDigits (width mode : Nat) : Bytes :=
  padLeft width (byte '0') (Conversion.digitsOf 8 mode false)

/-- The letter for the kind of a file. -/
def kindLetter : Node → Char
  | .dir .. => 'd'
  | .link _ => 'l'
  | .device _ => 'c'
  | .fifo .. => 'p'
  | .file .. | .tool _ | .report _ => '-'

/-- The kind and the mode of a file, in letters. -/
def kindAndMode (node : Node) : Bytes :=
  byte (kindLetter node) :: modeLetters node.mode

/-! ## chmod -/

/-- The path of a name in a directory. -/
def under (dir name : Bytes) : Bytes :=
  if dir.getLast? = some Place.slash then dir ++ name else dir ++ Place.slash :: name

/-- Change the mode of a file, and with `-R` of all below it. `depth` bounds the nesting. -/
def chmodOne (g : Given) (change : Node → Nat) (depth : Nat) (path : Bytes) : StateM Scene Nat :=
  match depth with
  | 0 => return 1
  | depth + 1 => do
    let s ← get
    match s.disk.locate s.dir path with
    | .error fault =>
      if !g.has 'f' then
        let dangling := (s.disk.lastOf? s.dir path).any (·.2.isLink)
        if dangling && fault = .missing then
          complain (Text.bytes "cannot operate on dangling symlink " ++ Quoted.always path)
        else complainAbout "cannot access" path fault
      return 1
    | .ok place =>
      match s.disk.node? place.id with
      | none => return 1
      | some node =>
        let new := change node
        set (s.withDisk (s.disk.setNode place.id (node.withMode new)))
        let told := Quoted.always path
        let shown (mode : Nat) : Bytes := modeDigits 4 mode ++ Text.bytes " (" ++ modeLetters mode ++ [byte ')']
        if g.has 'v' && new = node.mode then
          putLine (Text.bytes "mode of " ++ told ++ Text.bytes " retained as " ++ shown new)
        else if (g.has 'v' || g.has 'c') && new != node.mode then
          putLine (Text.bytes "mode of " ++ told ++ Text.bytes " changed from " ++ shown node.mode ++
            Text.bytes " to " ++ shown new)
        match node with
        | .dir entries _ =>
          if g.has 'R' then
            forOperands (entries.map (·.1)) fun name => do
              let below := under path name
              if ((← get).disk.findLast? s.dir below).any Node.isLink then return 0
              else chmodOne g change depth below
          else return 0
        | _ => return 0

/-- Whether a word is a mode that starts like an option. -/
def isSignedMode (word : Bytes) : Bool :=
  match word with
  | 45 :: b :: rest => (b :: rest).all fun b => ("rwxXstugoa,+-=01234567".toList.map byte).contains b
  | _ => false

def chmod : Utility := fun args => do
  let table : OptionTable :=
    { letters := "Rvcf", valued := "ρ",
      words := [("recursive", 'R'), ("verbose", 'v'), ("changes", 'c'), ("quiet", 'f'), ("silent", 'f'),
        ("reference", 'ρ')] }
  /- A mode with a minus in front comes first, or behind options. -/
  let signed := args.find? isSignedMode
  let args := match signed with
    | some mode => args.erase mode
    | none => args
  withReading (table.read args) 1 fun g => do
    let s ← get
    let operands := match signed with
      | some mode => mode :: g.operands
      | none => g.operands
    match g.value? 'ρ', operands with
    | some model, paths =>
      match s.find? model with
      | none =>
        complainAbout "failed to get attributes of" model .missing
        return 1
      | some node =>
        if paths.isEmpty then missingOperand 1 else forOperands paths (chmodOne g (fun _ => node.mode) 64)
    | none, [] => missingOperand 1
    | none, [mode] =>
      complainOfUse (Text.bytes "missing operand after " ++ Quoted.curly mode)
      return 1
    | none, mode :: paths =>
      if (modeAfter 0 false mode 0).isNone then
        complainOfUse (Text.bytes "invalid mode: " ++ Quoted.curly mode)
        return 1
      else
        forOperands paths (chmodOne g (fun node => (modeAfter s.mask node.isDir mode node.mode).getD node.mode) 64)

end Files

end LineShell.Host
