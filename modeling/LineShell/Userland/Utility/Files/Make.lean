import LineShell.Userland.Calendar
import LineShell.Userland.Utility.Files.Mode
import LineShell.Userland.Utility.Size

/-!
# Making and removing files

`mkdir`, `rmdir`, `touch`, `truncate`, `mkfifo`, `mktemp`, `ln`, `link`, `rm` and `unlink`. Each works on its operands
in order and goes on after one that fails.
-/

namespace LineShell.Host

namespace Files

/-! ## Directories -/

/-- Make a directory, and tell of it if that is asked for. -/
def makeDir (g : Given) (mode : Option Nat) (path : Bytes) : StateM Scene Nat := do
  let s ← get
  let made := match mode with
    | some mode => s.newDir.withMode mode
    | none => s.newDir
  let status ← attempt ((s.disk.add s.dir path made).map (·.2)) fun fault =>
    complain (Text.bytes "cannot create directory " ++ Quoted.curly path ++ Text.bytes (": " ++ fault.text))
  if status = 0 && g.has 'v' then
    putLine ((← get).title ++ Text.bytes ": created directory " ++ Quoted.always path)
  return status

/-- Make a directory and those above it that are missing. -/
def makeParents (g : Given) (mode : Option Nat) (path : Bytes) : StateM Scene Nat := do
  let start : Bytes := if Disk.isRooted path then [Place.slash] else []
  let paths := (Disk.split path).foldl (fun (paths : List Bytes) name =>
    paths ++ [match paths.getLast? with
      | none => start ++ name
      | some before => under before name]) []
  let mut status := 0
  for (path, n) in paths.zipIdx 1 do
    if status = 0 then
      let s ← get
      if (s.find? path).any Node.isDir then status := 0
      else if (s.find? path).isSome && n < paths.length then
        complain (Text.bytes "cannot create directory " ++ Quoted.curly path ++ Text.bytes ": Not a directory")
        status := 1
      else status ← makeDir g (if n = paths.length then mode else none) path
  return status

def mkdir : Utility := withOptions
  { letters := "pvZ", valued := "m", words := [("parents", 'p'), ("mode", 'm'), ("verbose", 'v')] } 1 fun g => do
  if g.operands.isEmpty then missingOperand 1
  else
    let mask := (← get).mask
    let mode := g.value? 'm'
    let bits := mode.bind fun text => modeAfter mask true text 0x1ff
    if mode.isSome && bits.isNone then
      complain (Text.bytes "invalid mode " ++ Quoted.curly (mode.getD []))
      return 1
    else forOperands g.operands fun path => if g.has 'p' then makeParents g bits path else makeDir g bits path

/-- Take away a directory with nothing in it, and with `-p` those above it that are left with nothing. -/
def removeDirs (g : Given) (path : Bytes) : StateM Scene Nat := do
  let names := Disk.split path
  let start : Bytes := if Disk.isRooted path then [Place.slash] else []
  let above := if g.has 'p' then
      ((List.range (names.length - 1)).map fun n =>
        start ++ ((names.take (names.length - 1 - n)).intersperse [Place.slash]).flatten)
    else []
  let mut status := 0
  for path in path :: above do
    if status = 0 then
      if g.has 'v' then putLine ((← get).title ++ Text.bytes ": removing directory, " ++ Quoted.always path)
      let s ← get
      match s.disk.removeDir s.dir path with
      | .ok d => set (s.withDisk d)
      | .error fault =>
        if g.has 'ι' && fault = .notEmpty then return 0
        complainAbout "failed to remove" path fault
        status := 1
  return status

def rmdir : Utility := withOptions
  { letters := "pv", words := [("parents", 'p'), ("verbose", 'v'), ("ignore-fail-on-non-empty", 'ι')] } 1 fun g => do
  if g.operands.isEmpty then missingOperand 1 else forOperands g.operands (removeDirs g)

/-! ## Times and sizes -/

/-- The time that options of `touch` ask for, and whether it is now; `none` if there is a mistake, which was complained
of. -/
def timeAsked (g : Given) : StateM Scene (Option Int) := do
  let s ← get
  let now := s.disk.now
  match g.value? 'r', g.value? 'd', g.value? 't' with
  | some model, date, _ =>
    match s.disk.locate s.dir model with
    | .ok place =>
      let stamp := s.disk.stampOf place.id
      match date with
      | none => return some stamp
      | some text =>
        match Calendar.read stamp text with
        | some time => return some time
        | none =>
          complain (Text.bytes "invalid date format " ++ Quoted.curly text)
          return none
    | .error fault =>
      complainAbout "failed to get attributes of" model fault
      return none
  | none, some text, _ =>
    match Calendar.read now text with
    | some time => return some time
    | none =>
      complain (Text.bytes "invalid date format " ++ Quoted.curly text)
      return none
  | none, none, some text =>
    match Calendar.readDigits now text with
    | some time => return some time
    | none =>
      complain (Text.bytes "invalid date format " ++ Quoted.curly text)
      return none
  | none, none, none => return some now

def touch : Utility := withOptions
  { letters := "camhf", valued := "drtτ",
    words := [("no-create", 'c'), ("date", 'd'), ("reference", 'r'), ("no-dereference", 'h'), ("time", 'τ')] } 1
  fun g => do
  match ← timeAsked g with
  | none => return 1
  | some time =>
    if g.operands.isEmpty then
      complainOfUse (Text.bytes "missing file operand")
      return 1
    else
      let given := g.has 'd' || g.has 'r' || g.has 't'
      forOperands g.operands fun path => do
        if path = [byte '-'] then return 0
        let s ← get
        let stamped (d : Disk) (id : Nat) : Disk :=
          if g.has 'a' && !g.has 'm' then d else if given then d.setStamp id time else d.mark id
        match if g.has 'h' then (s.disk.findLast s.dir path).map (·.1) else (s.disk.locate s.dir path).map Place.id with
        | .ok id =>
          set (s.withDisk (stamped s.disk id))
          return 0
        | .error fault =>
          if g.has 'c' && fault = .missing then return 0
          match if fault = .missing && !g.has 'c' then s.disk.create s.dir path s.newFile Disk.linkLimit
            else .error fault with
          | .ok (id, d) =>
            set (s.withDisk (stamped d id))
            return 0
          | .error fault =>
            complainAbout "cannot touch" path fault
            return 1

/-- The size that `truncate` is asked for, from the size a file has. -/
def sizeAsked (word : Bytes) (size : Nat) : Option Nat :=
  match letters (word.take 1) with
  | ['+'] => (Size.read? word.tail).map (size + ·)
  | ['-'] => (Size.read? word.tail).map (size - ·)
  | ['<'] => (Size.read? word.tail).map (min size ·)
  | ['>'] => (Size.read? word.tail).map (max size ·)
  | ['/'] => (Size.read? word.tail).map fun n => if n = 0 then size else size / n * n
  | ['%'] => (Size.read? word.tail).map fun n => if n = 0 then size else (size + n - 1) / n * n
  | _ => Size.read? word

def truncate : Utility := withOptions
  { letters := "co", valued := "sr",
    words := [("size", 's'), ("reference", 'r'), ("no-create", 'c'), ("io-blocks", 'o')] } 1 fun g => do
  let wish := g.value? 's'
  if wish.isNone && (g.value? 'r').isNone then
    complainOfUse (Text.bytes "you must specify either " ++ Quoted.curly (Text.bytes "--size") ++ Text.bytes " or " ++
      Quoted.curly (Text.bytes "--reference"))
    return 1
  else if wish.any fun word => (sizeAsked word 0).isNone then
    complain (Text.bytes "Invalid number: " ++ Quoted.curly (wish.getD []))
    return 1
  else if g.operands.isEmpty then
    complainOfUse (Text.bytes "missing file operand")
    return 1
  else
    let s ← get
    match (g.value? 'r').map fun model => s.disk.find s.dir model with
    | some (.error fault) =>
      complainAbout "cannot stat" ((g.value? 'r').getD []) fault
      return 1
    | model =>
      let base : Option Nat := match model with
        | some (.ok node) => some node.size
        | _ => none
      forOperands g.operands fun path => do
        let s ← get
        if g.has 'c' && (s.find? path).isNone then return 0
        let opened : Except Fault (Nat × Scene) := match s.disk.locate s.dir path with
          | .ok place => .ok (place.id, s)
          | .error .missing =>
            (s.disk.create s.dir path s.newFile Disk.linkLimit).map fun (id, d) => (id, s.withDisk d)
          | .error fault => .error fault
        match opened with
        | .error fault =>
          complain (Text.bytes "cannot open " ++ Quoted.always path ++ Text.bytes (" for writing: " ++ fault.text))
          return 1
        | .ok (id, s) =>
          set s
          match s.disk.node? id with
          | some (.file content _) =>
            let size := match wish with
              | some word => (sizeAsked word (base.getD content.size)).getD 0
              | none => base.getD 0
            if Disk.sizeLimit < size then
              complain (Text.bytes "failed to truncate " ++ Quoted.always path ++ Text.bytes " at " ++ decimal size ++
                Text.bytes " bytes: File too large")
              return 1
            set (s.withDisk ((s.disk.alter id (·.resize size)).getD s.disk))
            return 0
          | some (.dir ..) =>
            complain (Text.bytes "cannot open " ++ Quoted.always path ++ Text.bytes " for writing: Is a directory")
            return 1
          | _ =>
            complain (Text.bytes "failed to truncate " ++ Quoted.always path ++ Text.bytes ": Invalid argument")
            return 1

/-! ## Other kinds of files -/

def mkfifo : Utility := withOptions { letters := "Z", valued := "m", words := [("mode", 'm')] } 1 fun g => do
  if g.operands.isEmpty then missingOperand 1
  else
    let mode := g.value? 'm'
    let mask := (← get).mask
    let bits := match mode with
      | some text => modeAfter mask false text 0x1b6
      | none => some (Node.unmasked 0x1b6 mask)
    match bits with
    | none =>
      complainText "invalid mode"
      return 1
    | some bits =>
      forOperands g.operands fun path => do
        let s ← get
        attempt ((s.disk.add s.dir path (.fifo [] bits)).map (·.2)) (complainAbout "cannot create fifo" path)

/-- The letters that stand in the place of the marks in a name that is made up, by a count of what was made. -/
def madeUp (count : Nat) (length : Nat) : Bytes :=
  let letter (n : Nat) : UInt8 :=
    let n := (count * 7919 + n * n * 131 + n * 17 + 5) % 62
    if n < 10 then byte '0' + UInt8.ofNat n
    else if n < 36 then byte 'A' + UInt8.ofNat (n - 10)
    else byte 'a' + UInt8.ofNat (n - 36)
  (List.range length).map letter

/-- Makes a file or directory with a name that nothing has. -/
def mktemp : Utility := withOptions
  { letters := "duqt", valued := "pσ", optional := "τ",
    words := [("directory", 'd'), ("dry-run", 'u'), ("quiet", 'q'), ("suffix", 'σ'), ("tmpdir", 'τ')] } 1 fun g => do
  let s ← get
  let template := (g.operands.head?).getD (Text.bytes "tmp.XXXXXXXXXX")
  let stem := (template.reverse.dropWhile (· != byte 'X')).reverse
  let ending := template.drop stem.length ++ (g.value? 'σ').getD []
  let marks := (stem.reverse.takeWhile (· = byte 'X')).length
  if marks < 3 then
    complain (Text.bytes "too few X's in template " ++ Quoted.curly template)
    return 1
  let temporary := g.operands.isEmpty || g.has 'p' || g.has 'τ' || g.has 't'
  let dir := (g.value? 'p').getD (if (g.value? 'τ').getD [] = [] then Text.bytes "/tmp" else (g.value? 'τ').getD [])
  let name := stem.take (stem.length - marks) ++ madeUp s.disk.moments marks ++ ending
  let path := if temporary then under dir name else name
  let node := if g.has 'd' then Node.dir [] 0x1c0 else Node.file {} 0x180
  let status ← if g.has 'u' then pure 0
    else attempt ((s.disk.add s.dir path node).map (·.2)) fun fault =>
      complain (Text.bytes (if g.has 'd' then "failed to create directory via template " else
        "failed to create file via template ") ++ Quoted.curly (if temporary then under dir template else template) ++
        Text.bytes (": " ++ fault.text))
  if status = 0 then putLine path
  return status

/-! ## Links -/

/-- A path that leads from one directory to another place. -/
def relativePath (source target : Place) : Bytes :=
  let from? := source.reverse.map (·.1)
  let goal := target.reverse.map (·.1)
  let same := ((from?.zip goal).takeWhile fun (a, b) => a == b).length
  let up : List Bytes := List.replicate (from?.length - same) (Text.bytes "..")
  let steps := up ++ goal.drop same
  if steps.isEmpty then [byte '.'] else (steps.intersperse [Place.slash]).flatten

/-- The name that a file in the way is kept under: with an ending, or with a number that is not in use. -/
def backupName (g : Given) (taken : List Bytes) (name : Bytes) : Bytes :=
  let ending := (g.value? 'S').getD [byte '~']
  let numbered (n : Nat) : Bytes := name ++ Text.bytes ".~" ++ decimal n ++ [byte '~']
  let isNumbered : Bool := taken.any fun other => (name ++ Text.bytes ".~").isPrefixOf other
  let way := g.value? 'μ'
  let is (names : List String) : Bool := names.any fun known => way = some (Text.bytes known)
  if is ["numbered", "t"] || (!is ["simple", "never"] && isNumbered) then
    (((List.range (taken.length + 1)).map fun n => numbered (n + 1)).find? fun path => !taken.contains path).getD
      (name ++ ending)
  else name ++ ending

/-- Operands of a utility that takes sources and a destination: pairs of a source and the path it goes to. A
destination that is a directory takes sources under their own names. -/
def pairs (g : Given) (into? : Bool) : StateM Scene (Option (List (Bytes × Bytes))) := do
  let s ← get
  let isDir (path : Bytes) : Bool := (s.find? path).any Node.isDir
  let into (dir : Bytes) (sources : List Bytes) : List (Bytes × Bytes) :=
    sources.map fun source => (source, under dir (Print.baseName source))
  let reason (path : Bytes) : String := match s.disk.find s.dir path with
    | .error fault => fault.text
    | .ok _ => "Not a directory"
  match g.value? 't' with
  | some dir =>
    if g.operands.isEmpty then
      complainOfUse (Text.bytes "missing file operand")
      return none
    else if isDir dir then return some (into dir g.operands)
    else
      complain (Text.bytes "target directory " ++ Quoted.always dir ++ Text.bytes (": " ++ reason dir))
      return none
  | none =>
    match g.operands with
    | [] =>
      complainOfUse (Text.bytes "missing file operand")
      return none
    | [only] =>
      if into? && !g.has 'T' then return some [(only, under [byte '.'] (Print.baseName only))]
      complainOfUse (Text.bytes "missing destination file operand after " ++ Quoted.always only)
      return none
    | [source, target] =>
      if isDir target && !g.has 'T' then return some (into target [source]) else return some [(source, target)]
    | several =>
      let target := several.getLast?.getD []
      if g.has 'T' then
        complainOfUse (Text.bytes "extra operand " ++ Quoted.always ((several[2]?).getD []))
        return none
      else if isDir target then return some (into target several.dropLast)
      else
        complain (Text.bytes "target " ++ Quoted.always target ++ Text.bytes (": " ++ reason target))
        return none

/-- Take away a file that is in the way of another, if it is no directory. -/
def cleared (s : Scene) (path : Bytes) : Disk :=
  ((s.disk.removeFile s.dir path).toOption).getD s.disk

/-- Options that keep what is in the way ask for it in one form. -/
def withBackup (g : Given) : Given :=
  let isOff := g.value? 'μ' == some (Text.bytes "none") || g.value? 'μ' == some (Text.bytes "off")
  if (g.has 'μ' && !isOff) || g.has 'S' then
    g.add 'b' []
  else g

/-- Move a file that is in the way of another to where it is kept, if that is asked for; the answer is the path it is
kept under. -/
def keepBackup (g : Given) (path : Bytes) : StateM Scene (Option Bytes) := do
  if !g.has 'b' then return none
  let s ← get
  match s.disk.lastOf? s.dir path, s.disk.locateLast? s.dir path with
  | some (id, _), some (parent, name) =>
    let taken := ((s.disk.entries? parent.id).getD []).map (·.1)
    let kept := backupName g taken name
    let d := (s.disk.detach parent name).detach parent kept
    set (s.withDisk (((d.attach parent kept id).toOption).getD d))
    return some (path.take (path.length - name.length) ++ kept)
  | _, _ => return none

/-- Whether the next line of standard input agrees. -/
def agreed : StateM Scene Bool := do
  match (← get).readLine 0 with
  | .ok (line, s) =>
    set s
    return line.head? = some (byte 'y') || line.head? = some (byte 'Y')
  | .error _ => return false

/-- Ask a question under the name of the program. -/
def ask (question : Bytes) : StateM Scene Bool := do
  modify fun s => s.complain (s.title ++ Text.bytes ": " ++ question)
  agreed

/-- Make one link. -/
def linkOne (g : Given) (target path : Bytes) : StateM Scene Nat := do
  let s ← get
  let symbolic := g.has 's'
  let there := s.disk.lastOf? s.dir path
  let source := if g.has 'L' then (s.disk.locate? s.dir target).bind fun place =>
      (s.disk.node? place.id).map fun node => (place.id, node)
    else (s.disk.findLast s.dir target).toOption
  if !symbolic && source.isNone then
    let fault := match s.disk.findLast s.dir target with
      | .error fault => fault
      | .ok _ => .missing
    complainAbout "failed to access" target fault
    return 1
  if !symbolic && source.any (·.2.isDir) then
    complain (Quoted.whereNeeded target ++ Text.bytes ": hard link not allowed for directory")
    return 1
  if there.any (·.2.isDir) && (g.has 'f' || g.has 'i') then
    complain (Quoted.whereNeeded path ++ Text.bytes ": cannot overwrite directory")
    return 1
  if !symbolic && g.has 'f' && there.isSome && there.map (·.1) = source.map (·.1) then
    if target = path then
      complain (Quoted.always target ++ Text.bytes " and " ++ Quoted.always path ++ Text.bytes " are the same file")
      return 1
    else return 0
  if g.has 'i' && there.isSome then
    if !(← ask (Text.bytes "replace " ++ Quoted.always path ++ Text.bytes "? ")) then return 0
  let backup ← if there.any (·.2.isDir) then pure none else keepBackup g path
  let s ← get
  let d := if g.has 'f' || g.has 'i' then cleared s path else s.disk
  let goal := if symbolic && g.has 'r' then
      match s.disk.locate? s.dir target, s.disk.locateLast? s.dir path with
      | some goal, some (parent, _) => relativePath parent goal
      | _, _ => target
    else target
  let made : Except Fault Disk :=
    if symbolic then
      if target.isEmpty then .error .missing else (d.add s.dir path (.link goal)).map (·.2)
    else if path.getLast? = some Place.slash then .error .missing
    else
      (d.locateLast s.dir path).bind fun (parent, name) => d.attach parent name ((source.map (·.1)).getD 0)
  let arrow := if symbolic then " -> " else " => "
  let status ← attempt made fun fault =>
    let deed := if symbolic then "failed to create symbolic link " else "failed to create hard link "
    let whole := fault != .present && !(symbolic && !target.isEmpty)
    complain (Text.bytes deed ++ Quoted.always path ++
      (if whole then Text.bytes arrow ++ Quoted.always target else []) ++ Text.bytes (": " ++ fault.text))
  if status = 0 && g.has 'v' then
    let note := match backup with
      | some name => Quoted.always name ++ Text.bytes " ~ "
      | none => []
    putLine (note ++ Quoted.always path ++ Text.bytes arrow ++ Quoted.always goal)
  return status

def ln : Utility := withOptions
  { letters := "sfnvTPLribdF", valued := "tS", optional := "μ",
    words := [("symbolic", 's'), ("backup", 'μ'), ("suffix", 'S'), ("force", 'f'), ("no-dereference", 'n'),
      ("verbose", 'v'), ("relative", 'r'),
      ("no-target-directory", 'T'), ("target-directory", 't'), ("interactive", 'i'), ("logical", 'L'),
      ("physical", 'P')] } 1
  fun g => do
  let g := withBackup g
  let s ← get
  let onto := g.has 'n' && (g.operands.getLast?.bind fun path => s.disk.findLast? s.dir path).any Node.isLink
  let g := if onto then g.add 'T' [] else g
  match ← pairs g true with
  | none => return 1
  | some asked =>
    let mut status := 0
    for (target, path) in asked do
      let code ← linkOne g target (if path.take 2 = Text.bytes "./" then path.drop 2 else path)
      if code != 0 then status := code
    return status

/-- Gives a file one more name. -/
def link : Utility := withOptions {} 1 fun g => do
  match g.operands with
  | [] => missingOperand 1
  | [only] =>
    complainOfUse (Text.bytes "missing operand after " ++ Quoted.curly only)
    return 1
  | [target, path] =>
    let s ← get
    let made := (s.disk.findLast s.dir target).bind fun (id, node) =>
      if node.isDir then .error .forbidden
      else (s.disk.locateLast s.dir path).bind fun (parent, name) => s.disk.attach parent name id
    attempt made fun fault =>
      complain (Text.bytes "cannot create link " ++ Quoted.always path ++ Text.bytes " to " ++ Quoted.always target ++
        Text.bytes (": " ++ fault.text))
  | _ :: _ :: extra :: _ => extraOperand extra 1

/-! ## Removing -/

/-- What a file is called in a question. -/
def kindText : Node → String
  | .dir .. => "directory"
  | .link _ => "symbolic link"
  | .device _ => "character special file"
  | .fifo .. => "fifo"
  | .file content _ => if content.size = 0 then "regular empty file" else "regular file"
  | .report _ => "regular empty file"
  | .tool _ => "regular file"

/-- Remove a file, and with `-r` all below it. `depth` bounds the nesting. -/
def removeOne (g : Given) (depth : Nat) (path : Bytes) : StateM Scene Nat :=
  match depth with
  | 0 => return 1
  | depth + 1 => do
    let s ← get
    let whole := g.has 'r' || g.has 'R'
    let asks := g.last? ['i', 'f'] = some 'i'
    let failed (fault : Fault) : StateM Scene Nat := do
      complainAbout "cannot remove" path fault
      return 1
    let told (lead : String) : StateM Scene Unit := do
      if g.has 'v' then putLine (Text.bytes lead ++ Quoted.always path)
    match s.disk.findLast s.dir path with
    | .error fault => if g.has 'f' && (fault = .missing || fault = .notDirectory) then return 0 else failed fault
    | .ok (_, .dir entries _) =>
      if whole then
        if asks && !entries.isEmpty then
          if !(← ask (Text.bytes "descend into directory " ++ Quoted.always path ++ Text.bytes "? ")) then return 0
        let status ← forOperands (entries.map (·.1)) fun name => removeOne g depth (under path name)
        if asks then
          if !(← ask (Text.bytes "remove directory " ++ Quoted.always path ++ Text.bytes "? ")) then return status
        let s ← get
        match s.disk.removeDir s.dir path with
        | .ok d =>
          set (s.withDisk d)
          told "removed directory "
          return status
        | .error fault => if status = 0 && !asks then failed fault else return status
      else if g.has 'd' && entries.isEmpty then
        if asks then
          if !(← ask (Text.bytes "remove directory " ++ Quoted.always path ++ Text.bytes "? ")) then return 0
        match s.disk.removeDir s.dir path with
        | .ok d =>
          modify fun s => s.withDisk d
          told "removed directory "
          return 0
        | .error fault => failed fault
      else failed (if g.has 'd' then .notEmpty else .isDirectory)
    | .ok (_, node) =>
      if asks then
        if !(← ask (Text.bytes ("remove " ++ kindText node ++ " ") ++ Quoted.always path ++ Text.bytes "? ")) then
          return 0
      let s ← get
      match s.disk.removeFile s.dir path with
      | .ok d =>
        set (s.withDisk d)
        told "removed "
        return 0
      | .error fault => failed fault

def rm : Utility := withOptions
  { letters := "rRfdviI", optional := "ι",
    words := [("recursive", 'r'), ("force", 'f'), ("dir", 'd'), ("verbose", 'v'), ("interactive", 'ι'),
      ("preserve-root", 'π'), ("one-file-system", 'ο')] } 1 fun g => do
  if g.operands.isEmpty then
    if g.has 'f' then return 0 else missingOperand 1
  else
    let g := if g.value? 'ι' = some [] || g.value? 'ι' = some (Text.bytes "always") then g.add 'i' [] else g
    forOperands g.operands fun path => do
      let whole := g.has 'r' || g.has 'R'
      let last := (Disk.split path).getLast?
      if whole && (last = some [byte '.'] || last = some (Text.bytes "..")) then
        complain (Text.bytes "refusing to remove '.' or '..' directory: skipping " ++ Quoted.always path)
        return 1
      else if whole && !path.isEmpty && last = none then
        complain (Text.bytes "it is dangerous to operate recursively on " ++ Quoted.always path)
        complainText "use --no-preserve-root to override this failsafe"
        return 1
      else removeOne g 64 path

/-- Takes away one name. -/
def unlink : Utility := withOptions {} 1 fun g => do
  match g.operands with
  | [] => missingOperand 1
  | [path] =>
    let s ← get
    attempt (s.disk.removeFile s.dir path) (complainAbout "cannot unlink" path)
  | _ :: extra :: _ => extraOperand extra 1

end Files

end LineShell.Host
