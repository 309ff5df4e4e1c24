import LineShell.Userland.Utility.Files.Listing

/-!
# Looking at files

`stat`, `readlink`, `realpath`, `pwd` and `du`.

- `canonical` is the path that leads to a file without links.
-/

namespace LineShell.Host

namespace Files

/-! ## Paths -/

/-- How strict the steps of a path are taken. -/
inductive Strictness
  /-- All steps have to exist. -/
  | all
  /-- All but the last. -/
  | parents
  | nothing
deriving DecidableEq, Repr

/-- Follow steps from the names before them, deepest first. Steps that lead nowhere are taken as they are written, if
that is allowed. -/
def canonicalFrom (d : Disk) (strict : Strictness) (follows : Bool) :
    (fuel : Nat) → (links : Nat) → (here : List Bytes) → List Bytes → Except Fault (List Bytes)
  | 0, _, _, _ => .error .loop
  | _, _, here, [] => .ok here
  | fuel + 1, links, here, name :: rest =>
    let dirPath : Bytes := if here.isEmpty then [Place.slash] else here.reverse.flatMap fun name => Place.slash :: name
    let next := here
    if name = [byte '.'] then
      if strict != .nothing && !rest.isEmpty && (d.find? [] dirPath).any (fun node => !node.isDir) then
        .error .notDirectory
      else if rest.isEmpty && strict != .nothing && (d.find? [] dirPath).any (fun node => !node.isDir) then
        .error .notDirectory
      else canonicalFrom d strict follows fuel links next rest
    else if name = Text.bytes ".." then
      if strict != .nothing && (d.find? [] dirPath).any (fun node => !node.isDir) then .error .notDirectory
      else canonicalFrom d strict follows fuel links here.tail rest
    else
      let path := under dirPath name
      match d.findLast [] path with
      | .ok (_, .link target) =>
        if !follows then canonicalFrom d strict follows fuel links (name :: here) rest
        else
          match links with
          | 0 => .error .loop
          | links + 1 =>
            canonicalFrom d strict follows fuel links (if Disk.isRooted target then [] else here)
              (Disk.split target ++ rest)
      | .ok (_, node) =>
        if !rest.isEmpty && !node.isDir && strict != .nothing then .error .notDirectory
        else canonicalFrom d strict follows fuel links (name :: here) rest
      | .error fault =>
        let isLast := rest.all (· = [byte '.'])
        if strict = .nothing || (strict = .parents && fault = .missing && isLast) then
          canonicalFrom d (if strict = .parents then .nothing else strict) follows fuel links (name :: here) rest
        else .error fault

/-- The path that leads to a file without links and detours. -/
def canonical (s : Scene) (strict : Strictness) (follows : Bool) (path : Bytes) : Except Fault Bytes :=
  if path.isEmpty then .error .missing
  else
    let here : List Bytes := if Disk.isRooted path then [] else s.dir.map (·.1)
    (canonicalFrom s.disk strict follows (path.length + 5000) Disk.linkLimit here (Disk.steps path)).map fun names =>
      if names.isEmpty then [Place.slash] else names.reverse.flatMap fun name => Place.slash :: name

def readlink : Utility := withOptions
  { letters := "femnqsvz",
    words := [("canonicalize", 'f'), ("canonicalize-existing", 'e'), ("canonicalize-missing", 'm'), ("no-newline", 'n'),
      ("quiet", 'q'), ("silent", 's'), ("verbose", 'v'), ("zero", 'z')] } 1 fun g => do
  if g.operands.isEmpty then missingOperand 1
  else
    let several := 1 < g.operands.length
    if g.has 'n' && several then complainText "ignoring --no-newline with multiple arguments"
    let ending := if g.has 'n' && !several then [] else Print.lineEnd g
    forOperands g.operands fun path => do
      let s ← get
      let found : Except Fault Bytes := match g.last? ['f', 'e', 'm'] with
        | some 'f' => canonical s .parents true path
        | some 'e' => canonical s .all true path
        | some _ => canonical s .nothing true path
        | none =>
          match s.disk.findLast s.dir path with
          | .ok (_, .link target) => .ok target
          | .ok _ => .error .invalid
          | .error fault => .error fault
      match found with
      | .ok text =>
        put (text ++ ending)
        return 0
      | .error fault =>
        if g.has 'v' then complainOf path fault
        return 1

/-- A path as it is reached from a directory. -/
def relativeTo (base path : Bytes) : Bytes :=
  let place (path : Bytes) : Place := ((Disk.split path).map fun name => (name, 0)).reverse
  relativePath (place base) (place path)

def realpath : Utility := withOptions
  { letters := "eLmPqsz", valued := "ρβ",
    words := [("canonicalize-existing", 'e'), ("canonicalize-missing", 'm'), ("logical", 'L'), ("physical", 'P'),
      ("quiet", 'q'), ("strip", 's'), ("no-symlinks", 's'), ("zero", 'z'), ("relative-to", 'ρ'),
      ("relative-base", 'β')] } 1 fun g => do
  if g.operands.isEmpty then missingOperand 1
  else
    let strict : Strictness := match g.last? ['e', 'm'] with
      | some 'e' => .all
      | some _ => .nothing
      | none => .parents
    let s ← get
    let resolved (path : Bytes) : Except Fault Bytes :=
      if path.isEmpty then .error .missing
      else if g.has 's' then canonical s strict false path
      else if g.last? ['L', 'P'] = some 'L' then
        /- Going up is done before links are followed. -/
        let whole := if Disk.isRooted path then path else under s.dir.path path
        (canonical s .nothing false whole).bind (canonical s strict true)
      else canonical s strict true path
    let base (letter : Char) : Option (Except Fault Bytes) := (g.value? letter).map resolved
    let wrong := ['ρ', 'β'].findSome? fun letter => match base letter with
      | some (.error fault) => some (letter, fault)
      | _ => none
    match wrong with
    | some (letter, fault) =>
      if !g.has 'q' then complainOf' ((g.value? letter).getD []) fault
      return 1
    | none =>
      let goal := (base 'ρ').bind Except.toOption
      let above := (base 'β').bind Except.toOption
      let isUnder (dir path : Bytes) : Bool := (Disk.split dir).isPrefixOf (Disk.split path)
      forOperands g.operands fun path => do
        match resolved path with
        | .error fault =>
          if !g.has 'q' then complainOf' path fault
          return 1
        | .ok full =>
          let shown := match goal, above with
            | some goal, some above =>
              if isUnder above goal && isUnder above full then relativeTo goal full else full
            | some goal, none => relativeTo goal full
            | none, some above => if isUnder above full then relativeTo above full else full
            | none, none => full
          put (shown ++ Print.lineEnd g)
          return 0
where
  /-- Complain of a path, in quotes if there is nothing in it. -/
  complainOf' (path : Bytes) (fault : Fault) : StateM Scene Unit :=
    complainOf path fault

def pwd (environment : List (Bytes × Bytes)) : Utility := withOptions
  { letters := "LP", words := [("logical", 'L'), ("physical", 'P')] } 1 fun g => do
  if !g.operands.isEmpty then complainText "ignoring non-option arguments"
  let s ← get
  let told := environment.lookup (Text.bytes "PWD")
  let isSame (path : Bytes) : Bool :=
    Disk.isRooted path && followed? s path = some s.dir.id &&
      (Disk.split path).all fun name => name != [byte '.'] && name != Text.bytes ".."
  putLine (match told with
    | some path => if g.last? ['L', 'P'] = some 'L' && isSame path then path else s.dir.path
    | none => s.dir.path)
  return 0

/-! ## stat -/

/-- What a kind of file is called. -/
def kindName : Node → String
  | .file content _ => if content.size = 0 then "regular empty file" else "regular file"
  | .report _ => "regular empty file"
  | .tool _ => "regular file"
  | .dir .. => "directory"
  | .link _ => "symbolic link"
  | .device _ => "character special file"
  | .fifo .. => "fifo"

/-- The bits that tell the kind of a file, before those of its mode. -/
def kindBits : Node → Nat
  | .file .. | .report _ | .tool _ => 0x8000
  | .dir .. => 0x4000
  | .link _ => 0xa000
  | .device _ => 0x2000
  | .fifo .. => 0x1000

/-- The two numbers of a device. -/
def deviceNumbers : Node → Nat × Nat
  | .device .null => (1, 3)
  | .device .zero => (1, 5)
  | .device .full => (1, 7)
  | .device .random => (1, 9)
  | .device .absent => (5, 0)
  | _ => (0, 0)

/-- A time as `stat` shows it. -/
def statTime (time : Int) : Bytes :=
  (Moment.ofTime time).render (Text.bytes "%Y-%m-%d %H:%M:%S.%N %z")

/-- A time in seconds, with so many decimals. -/
def secondsOf (places : Option Nat) (time : Int) : Bytes :=
  let seconds := time / 1000000000
  let rest := (time % 1000000000).toNat
  match places with
  | none | some 0 => Print.ofInteger seconds
  | some n =>
    let digits := padLeft 9 (byte '0') (decimal rest)
    Print.ofInteger seconds ++ byte '.' :: padRight n (byte '0') (digits.take n)

/-- What a letter of a format stands for. -/
def statField (s : Scene) (path : Bytes) (id : Nat) (node : Node) (c : Conversion) (letter : Char) : Option Bytes :=
  let stamp := s.disk.stampOf id
  let hex (n : Nat) : Bytes := Conversion.digitsOf 16 n false
  match letter with
  | 'n' => some path
  | 'N' =>
    some (Quoted.always path ++ match node with
      | .link target => Text.bytes " -> " ++ Quoted.always target
      | _ => [])
  | 's' => some (decimal (shownSize node))
  | 'F' => some (Text.bytes (kindName node))
  | 'a' => some (modeDigits 1 node.mode)
  | 'A' => some (kindAndMode node)
  | 'f' => some (hex (kindBits node + node.mode))
  | 'h' => some (decimal (linkCount s.disk id node))
  | 'U' | 'G' => some (Text.bytes "root")
  | 'u' | 'g' => some [byte '0']
  | 'i' => some (decimal (shownId id))
  | 'd' => some (decimal 64)
  | 'D' => some (hex 64)
  | 'b' => some (decimal (pageCount node * 8))
  | 'B' => some (Text.bytes "512")
  | 'o' => some (Text.bytes "4096")
  | 'm' => some (Text.bytes "/")
  | 't' => some (hex (deviceNumbers node).1)
  | 'T' => some (hex (deviceNumbers node).2)
  | 'y' | 'x' | 'z' | 'w' => some (statTime stamp)
  | 'Y' | 'X' | 'Z' | 'W' => some (secondsOf c.precision stamp)
  | 'C' => some [byte '?']
  | _ => none

/-- A field with its flags and its width. -/
def statCell (c : Conversion) (letter : Char) (text : Bytes) : Bytes :=
  let isTime := ['Y', 'X', 'Z', 'W'].contains letter
  let isNumber := "abBdDfghiostTu".toList.contains letter || isTime
  let text := match c.precision with
    | some n => if isNumber then (if isTime then text else padLeft n (byte '0') text) else text.take n
    | none => text
  let text := if c.alternate && letter = 'a' then byte '0' :: text
    else if c.alternate && ['f', 'D', 't', 'T'].contains letter then Text.bytes "0x" ++ text
    else text
  if c.left then padRight c.width (byte ' ') text
  else padLeft c.width (byte (if c.zeros && isNumber then '0' else ' ')) text

/-- Write a format. `fuel` is more than its length. -/
def statFormat (s : Scene) (escapes : Bool) (path : Bytes) (id : Nat) (node : Node) : (fuel : Nat) → Bytes → Bytes
  | 0, _ | _, [] => []
  | fuel + 1, b :: rest =>
    if b = byte '%' then
      let (c, _, after) := Conversion.read [] rest
      match after with
      | [] => [b]
      | letter :: after =>
        let text := if letter = byte '%' then [letter]
          else match statField s path id node c (Char.ofNat letter.toNat) with
            | some text => statCell c (Char.ofNat letter.toNat) text
            | none => [byte '?']
        text ++ statFormat s escapes path id node fuel after
    else if b = byte '\\' && escapes then
      match Print.unescape { hexadecimal := true, stops := false } rest with
      | .ok (bytes, rest) => bytes ++ statFormat s escapes path id node fuel rest
      | .error _ => []
    else b :: statFormat s escapes path id node fuel rest

/-- What is shown if no format is given. -/
def statUsual (node : Node) : Bytes :=
  let special : Bool := match node with
    | .device _ => true
    | _ => false
  Text.bytes ("  File: %N\n  Size: %-10s\tBlocks: %-10b IO Block: %-6o %F\n" ++
    "Device: 0,64\tInode: %-11i Links: %-5h" ++ (if special then " Device type: %t,%T\n" else "\n") ++
    "Access: (%04a/%10.10A)  Uid: (%5u/%8U)   Gid: (%5g/%8G)\nAccess: %x\nModify: %y\nChange: %z\n Birth: %w\n")

def stat : Utility := withOptions
  { letters := "Lftς", valued := "cπ",
    words := [("dereference", 'L'), ("file-system", 'f'), ("terse", 't'), ("format", 'c'), ("printf", 'π')] } 1
  fun g => do
  if g.operands.isEmpty then missingOperand 1
  else
    forOperands g.operands fun path => do
      let s ← get
      match listedAt s (g.has 'L') path path with
      | .error fault =>
        let deed := if g.has 'f' then "cannot read file system information for" else "cannot statx"
        complainAbout deed path fault
        return 1
      | .ok f =>
        let written (escapes : Bool) (format : Bytes) : Bytes :=
          statFormat s escapes path f.id f.node (format.length + 1) format
        match g.last? ['c', 'π'] with
        | some 'c' => putLine (written false ((g.value? 'c').getD []))
        | some _ => put (written true ((g.value? 'π').getD []))
        | none =>
          if g.has 't' then putLine (written false (Text.bytes "%n %s %b %f %u %g %D %i %h %t %T %X %Y %Z %W %o"))
          else put (written false (statUsual f.node))
        return 0

/-! ## du -/

/-- What files take: in all, and the lines to be shown. `depth` bounds the nesting. -/
def usage (g : Given) (sizeOf : Node → Nat) (render : Nat → Bytes) (level depth : Nat) (path : Bytes) :
    StateM Scene Nat :=
  match depth with
  | 0 => return 0
  | depth + 1 => do
    let s ← get
    match listedAt s (g.has 'L') path path with
    | .error _ => return 0
    | .ok f =>
      let limit := if g.has 's' then 0 else ((g.value? 'd').bind number?).getD 1000
      let row (n : Nat) : StateM Scene Unit := putLine (render n ++ byte '\t' :: path)
      match f.node with
      | .dir entries _ =>
        let mut total := sizeOf f.node
        for (name, _) in entries do
          total := total + (← usage g sizeOf render (level + 1) depth (under path name))
        if level ≤ limit then row total
        return total
      | node =>
        if level = 0 || (g.has 'a' && level ≤ limit) then row (sizeOf node)
        return sizeOf node

def du : Utility := withOptions
  { letters := "sahbckmLx0S", valued := "dBt",
    words := [("summarize", 's'), ("all", 'a'), ("human-readable", 'h'), ("bytes", 'b'), ("total", 'c'),
      ("max-depth", 'd'), ("apparent-size", 'α')] } 1 fun g => do
  let apparent := g.has 'b' || g.has 'α'
  let sizeOf (node : Node) : Nat := if apparent then shownSize node else pageCount node * 4096
  let render (n : Nat) : Bytes :=
    if g.has 'h' then readableSize 1024 n
    else if g.has 'b' then decimal n
    else if g.has 'm' then decimal ((n + 1048575) / 1048576)
    else decimal ((n + 1023) / 1024)
  let mut status := 0
  let mut total := 0
  for path in if g.operands.isEmpty then [[byte '.']] else g.operands do
    let s ← get
    match listedAt s false path path with
    | .error fault =>
      complainAbout "cannot access" path fault
      status := 1
    | .ok _ => total := total + (← usage g sizeOf render 0 64 path)
  if g.has 'c' then putLine (render total ++ Text.bytes "\ttotal")
  return status

end Files

end LineShell.Host
