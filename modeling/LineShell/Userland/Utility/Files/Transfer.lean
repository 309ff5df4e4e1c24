import LineShell.Userland.Utility.Files.Make

/-!
# Copying and moving files

`cp`, `mv` and `install`. A copy follows links at its source or takes them as they are (`Copying.follows`); neither a
copy nor a move may be onto the file itself (`sameFile`) or into the directory it comes from.
-/

namespace LineShell.Host

namespace Files

/-- How files are copied. -/
structure Copying where
  recursive : Bool := false
  /-- Whether links are followed where they are named, and where they are met. -/
  followsNamed : Bool := true
  followsMet : Bool := true
  keepsMode : Bool := false
  keepsTime : Bool := false
  keepsLinks : Bool := false
  /-- Whether another name for the same file is made instead of a copy. -/
  hard : Bool := false
  /-- Whether a symbolic link is made instead of a copy. -/
  symbolic : Bool := false
  bare : Bool := false
  clears : Bool := false
  /-- What is done where a file is in the way. -/
  skips : Bool := false
  asks : Bool := false
  updates : Bool := false
  tells : Bool := false

namespace Copying

/-- The way of copying that options ask for. -/
def ofOptions (g : Given) : Copying :=
  let whole := g.has 'a'
  let recursive := whole || g.has 'r' || g.has 'R'
  let kept := ((g.value? 'κ').map fun text => text.splitOn (byte ',')).getD []
  let keeps (what : String) : Bool := kept.contains (Text.bytes what) || kept.contains (Text.bytes "all")
  let bareKept := (g.value? 'κ') = some []
  let how := g.last? (if recursive then ['L', 'P', 'H', 'd', 'a'] else ['L', 'P', 'd', 'a'])
  let follows := match how with
    | some 'L' => (true, true)
    | some 'H' => (true, false)
    | some _ => (false, false)
    | none => if recursive then (false, false) else (true, true)
  let how := g.last? ['i', 'n', 'f']
  { recursive := recursive
    followsNamed := follows.1
    followsMet := follows.2
    keepsMode := whole || g.has 'p' || bareKept || keeps "mode"
    keepsTime := whole || g.has 'p' || bareKept || keeps "timestamps"
    keepsLinks := whole || g.has 'd' || keeps "links"
    hard := g.has 'l'
    symbolic := g.has 's'
    bare := g.has 'β'
    clears := g.has 'γ'
    skips := how = some 'n' || g.value? 'υ' = some (Text.bytes "none")
    asks := how = some 'i'
    updates := g.has 'u' || g.value? 'υ' = some (Text.bytes "older") || g.value? 'υ' = some []
    tells := g.has 'v' }

end Copying

/-- The number of the file that a path leads to, links followed. -/
def followed? (s : Scene) (path : Bytes) : Option Nat :=
  (s.disk.locate? s.dir path).map Place.id

/-- How many names a file has. -/
def nameCount (d : Disk) (id : Nat) : Nat :=
  d.nodes.foldl (fun n node =>
    match node with
    | .dir entries _ => n + (entries.filter (·.2 == id)).length
    | _ => n) 0

/-- Whether a source and a target are one file, so that one must not be put in the place of the other. -/
def sameFile (s : Scene) (follows moving clears keeps : Bool) (source target : Bytes) : Bool :=
  let last (path : Bytes) : Option (Nat × Node) := (s.disk.findLast s.dir path).toOption
  let isLink (path : Bytes) : Bool := (last path).any (·.2.isLink)
  let sameLast := (last source).map (·.1) = (last target).map (·.1)
  let sameName := s.disk.locateLast? s.dir source = s.disk.locateLast? s.dir target
  let same := followed? s source = followed? s target && (followed? s source).isSome
  if isLink source && isLink target && !follows then sameName
  else if !same && !(sameLast && (last source).isSome) then false
  else if keeps then (if sameLast then sameName else follows && isLink source && !isLink target)
  else if (moving || clears) && isLink target then false
  else if clears && sameLast && !sameName then false
  else true

/-- Where a copy was made to, and what was made for it. -/
structure CopyState where
  /-- The directory that was made first, which is not copied into itself. -/
  first : Option Nat := none
  /-- The copies of files that have several names. -/
  copies : List (Nat × Nat) := []
  /-- The paths that were made. -/
  made : List Bytes := []
  /-- Whether a copy ran into itself. -/
  intoSelf : Bool := false

/-- Copies keep account of what was made. -/
abbrev CopyAct := StateT CopyState (StateM Scene)

/-- Put a new node at a path where there is nothing, or say why not. -/
def placed (deed : String) (path : Bytes) (node : Node) : CopyAct (Option Nat) := do
  let s ← getThe Scene
  let path' := if node.isDir then Print.withoutEnd path else path
  match s.disk.add s.dir path' node with
  | .ok (id, d) =>
    set (s.withDisk d)
    return some id
  | .error fault =>
    let fault := if fault = .isDirectory then .notDirectory else fault
    (complainAbout deed path fault : StateM Scene Unit)
    return none

/-- Copy the content of a file to a path, where there may be a file already. -/
def copyContent (c : Copying) (node : Node) (path : Bytes) : CopyAct (Option Nat) := do
  let s ← getThe Scene
  let content : Sparse := if c.bare then {} else match node with
    | .file content _ => content
    | node => .ofBytes (node.content?.getD [])
  match s.disk.locate s.dir path with
  | .ok place =>
    match s.disk.node? place.id with
    | some (.file ..) =>
      if !c.bare then set (s.withDisk ((s.disk.alter place.id fun _ => content).getD s.disk))
      return some place.id
    | some (.device .full) =>
      if content.size = 0 then return some place.id
      complainAbout "error writing" path .noSpace
      return none
    | some (.device .absent) =>
      complainAbout "cannot create regular file" path .noDevice
      return none
    | some (.fifo before mode) =>
      set (s.withDisk (s.disk.setNode place.id (.fifo (before ++ content.content) mode)))
      return some place.id
    | some (.device _) => return some place.id
    | _ =>
      complainAbout "cannot create regular file" path .denied
      return none
  | .error _ =>
    if (s.disk.lastOf? s.dir path).any (·.2.isLink) then
      (complain (Text.bytes "not writing through dangling symlink " ++ Quoted.always path) : StateM Scene Unit)
      return none
    let mode := if c.keepsMode then node.mode else Node.unmasked (node.mode % 0x200) s.mask
    placed "cannot create regular file" path (.file content mode)

/-- Give a copy what it is to keep of its source. -/
def keepTraits (c : Copying) (source id : Nat) (node : Node) : CopyAct Unit := do
  let s ← getThe Scene
  let d := s.disk
  let d := if c.keepsMode then ((d.node? id).map fun made => d.setNode id (made.withMode node.mode)).getD d else d
  let d := if c.keepsTime then d.setStamp id (d.stampOf source) else d
  set (s.withDisk d)

/-- Tell of a copy. -/
def tellCopy (c : Copying) (source path : Bytes) (backup : Option Bytes) : CopyAct Unit := do
  if c.tells then
    let note := match backup with
      | some name => Text.bytes " (backup: " ++ Quoted.always name ++ [byte ')']
      | none => []
    (putLine (Quoted.always source ++ Text.bytes " -> " ++ Quoted.always path ++ note) : StateM Scene Unit)

/-- Copy a file to a path, with all below it if that is asked for. `top` holds the source and target that were named;
`depth` bounds the nesting. -/
def copyOne (g : Given) (c : Copying) (top : Bytes × Bytes) (named : Bool) (depth : Nat) (source path : Bytes) :
    CopyAct Nat :=
  match depth with
  | 0 => return 1
  | depth + 1 => do
    let s ← getThe Scene
    let follows := if named then c.followsNamed else c.followsMet
    let found := if follows then (s.disk.locate s.dir source).bind fun place =>
        match s.disk.node? place.id with
        | some node => .ok (place.id, node)
        | none => .error .missing
      else s.disk.findLast s.dir source
    match found with
    | .error fault =>
      (complainAbout "cannot stat" source fault : StateM Scene Unit)
      return 1
    | .ok (sourceId, node) =>
      if node.isDir && !c.recursive then
        let reason := if g.has 'ι' then "omitting directory " else "-r not specified; omitting directory "
        (complain (Text.bytes reason ++ Quoted.always source) : StateM Scene Unit)
        return 1
      let account ← getThe CopyState
      if node.isDir && account.first = some sourceId then
        modifyThe CopyState fun account => { account with intoSelf := true }
        (complain (Text.bytes "cannot copy a directory, " ++ Quoted.always top.1 ++ Text.bytes ", into itself, " ++
          Quoted.always top.2) : StateM Scene Unit)
        return 1
      /- What is there already. -/
      let plain := node.isLink || c.clears
      let there := if plain || (followed? s path).isNone then s.disk.lastOf? s.dir path
        else (followed? s path).bind fun id => (s.disk.node? id).map fun node => (id, node)
      let backs := g.has 'b' && !there.any (·.2.isDir)
      if there.isSome then
        if !(node.isDir && there.any (·.2.isDir)) && !(c.hard && followed? s source = followed? s path) then
          if sameFile s follows false c.clears backs source path then
            (complain (Quoted.always source ++ Text.bytes " and " ++ Quoted.always path ++
              Text.bytes " are the same file") : StateM Scene Unit)
            return 1
        if node.isDir && !there.any (·.2.isDir) then
          (complain (Text.bytes "cannot overwrite non-directory " ++ Quoted.always path ++
            Text.bytes " with directory " ++
            Quoted.always source) : StateM Scene Unit)
          return 1
        if !node.isDir && there.any (·.2.isDir) then
          (complain (Text.bytes "cannot overwrite directory " ++ Quoted.always path ++
            Text.bytes " with non-directory") : StateM Scene Unit)
          return 1
        if account.made.contains path && !node.isDir then
          (complain (Text.bytes "will not overwrite just-created " ++ Quoted.always path ++ Text.bytes " with " ++
            Quoted.always source) : StateM Scene Unit)
          return 1
        if !node.isDir then
          if c.skips then return 0
          if c.updates && there.any (fun entry => s.disk.stampOf sourceId ≤ s.disk.stampOf entry.1) then return 0
          if c.asks then
            if !(← (ask (Text.bytes "overwrite " ++ Quoted.always path ++ Text.bytes "? ") : StateM Scene Bool)) then
              return 0
      let backup ← (do if backs && there.isSome && !node.isDir then keepBackup g path else return none :
        StateM Scene (Option Bytes))
      if !node.isDir then modifyThe CopyState fun account => { account with made := path :: account.made }
      match node with
      | .dir entries mode =>
        let made ← match there with
          | some (id, _) => pure (some id)
          | none => do
            let mask := (← getThe Scene).mask
            let made ← placed "cannot create directory" path (.dir [] (Node.unmasked (mode % 0x200) mask))
            if made.isSome then
              modifyThe CopyState fun account =>
                { account with first := if account.first.isNone then made else account.first }
              tellCopy c source path none
            pure made
        match made with
        | none => return 1
        | some id =>
          let present := ((← getThe Scene).disk.entries? sourceId).getD entries
          let names := present.map (·.1)
          let mut status := 0
          for name in names do
            if !(← getThe CopyState).intoSelf then
              let code ← copyOne g c top false depth (under source name) (under path name)
              if code != 0 then status := code
          if there.isNone || c.keepsMode then keepTraits c sourceId id node
          return status
      | .link target =>
        if there.isSome && backup.isNone then
          modifyThe Scene fun s => s.withDisk (cleared s path)
        match ← placed "cannot create symbolic link" path (.link target) with
        | none => return 1
        | some id =>
          keepTraits c sourceId id node
          tellCopy c source path backup
          return 0
      | node =>
        if c.hard || (c.keepsLinks && (account.copies.lookup sourceId).isSome) then
          let other := if c.hard then sourceId else (account.copies.lookup sourceId).getD sourceId
          if there.any (·.1 == other) then return 0
          if there.isSome && (g.has 'f' || c.clears || !c.hard) then
            modifyThe Scene fun s => s.withDisk (cleared s path)
          let s ← getThe Scene
          match (s.disk.locateLast s.dir path).bind fun (parent, name) => s.disk.attach parent name other with
          | .ok d =>
            set (s.withDisk d)
            tellCopy c source path backup
            return 0
          | .error fault =>
            (complain (Text.bytes "cannot create hard link " ++ Quoted.always path ++ Text.bytes " to " ++
              Quoted.always source ++ Text.bytes (": " ++ fault.text)) : StateM Scene Unit)
            return 1
        else if c.symbolic then
          if !Disk.isRooted source && (Print.dirName path != [byte '.']) then
            (complain (Quoted.whereNeeded path ++
              Text.bytes ": can make relative symbolic links only in current directory") : StateM Scene Unit)
            return 1
          if there.isSome && (g.has 'f' || c.clears) then modifyThe Scene fun s => s.withDisk (cleared s path)
          let s ← getThe Scene
          match s.disk.add s.dir path (.link source) with
          | .ok (_, d) =>
            set (s.withDisk d)
            tellCopy c source path backup
            return 0
          | .error fault =>
            (complain (Text.bytes "cannot create symbolic link " ++ Quoted.always path ++ Text.bytes " to " ++
              Quoted.always source ++ Text.bytes (": " ++ fault.text)) : StateM Scene Unit)
            return 1
        else
          if c.clears && there.isSome then
            modifyThe Scene fun s => s.withDisk (cleared s path)
            if c.tells then (putLine (Text.bytes "removed " ++ Quoted.always path) : StateM Scene Unit)
          let special : Bool := c.recursive && match node with
            | .device _ | .fifo .. => true
            | _ => false
          let made ← if special then do
              if there.isSome then modifyThe Scene fun s => s.withDisk (cleared s path)
              placed "cannot create special file" path node
            else do
              let isNew := (followed? (← getThe Scene) path).isNone
              if isNew || !(path.getLast? = some Place.slash) then tellCopy c source path backup
              copyContent c node path
          match made with
          | none => return 1
          | some id =>
            keepTraits c sourceId id node
            if c.keepsLinks && 1 < nameCount s.disk sourceId then
              modifyThe CopyState fun account => { account with copies := (sourceId, id) :: account.copies }
            return 0

/-- The options of `cp`. -/
def copyTable : OptionTable :=
  { letters := "abdfHilLnPprRsTuvxZβγπ", valued := "tS", optional := "κμυρ",
    words := [("archive", 'a'), ("backup", 'μ'), ("attributes-only", 'β'), ("force", 'f'), ("interactive", 'i'),
      ("link", 'l'), ("dereference", 'L'), ("no-clobber", 'n'), ("no-dereference", 'P'), ("preserve", 'κ'),
      ("parents", 'π'), ("recursive", 'R'), ("remove-destination", 'γ'), ("symbolic-link", 's'), ("suffix", 'S'),
      ("target-directory", 't'), ("no-target-directory", 'T'), ("update", 'υ'), ("verbose", 'v'), ("reflink", 'ρ'),
      ("one-file-system", 'x')] }

/-- Make the directories that lead to a copy with the whole path of its source. -/
def makeLeading (target source : Bytes) : StateM Scene Bool := do
  let names := (Disk.split source).dropLast
  let mut fine := true
  for n in List.range names.length do
    let part := ((names.take (n + 1)).intersperse [Place.slash]).flatten
    let path := under target part
    let s ← get
    if fine && (s.find? path).isNone then
      match s.disk.add s.dir path (s.newDir) with
      | .ok (_, d) => set (s.withDisk d)
      | .error fault =>
        complainAbout "cannot make directory" path fault
        fine := false
  return fine

/-- Pairs for copies with the whole paths of their sources. -/
def parentPairs (g : Given) : StateM Scene (Option (List (Bytes × Bytes))) := do
  let (target, sources) := match g.value? 't' with
    | some dir => (dir, g.operands)
    | none => (g.operands.getLast?.getD [], g.operands.dropLast)
  if sources.isEmpty then return ← pairs g false
  let s ← get
  if !(s.find? target).any Node.isDir then
    complainOfUse (Text.bytes "with --parents, the destination must be a directory")
    return none
  let mut made : List (Bytes × Bytes) := []
  for source in sources do
    if (s.disk.findLast? s.dir source).isNone || (← makeLeading target source) then
      let inner := source.dropWhile (· = Place.slash)
      made := made ++ [(source, under target (Print.withoutEnd inner))]
  return some made

def cp : Utility := withOptions copyTable 1 fun g => do
  let g := withBackup g
  let c := Copying.ofOptions g
  match ← (if g.has 'π' then parentPairs g else pairs g false) with
  | none => return 1
  | some asked =>
    let mut status := 0
    let mut account : CopyState := {}
    let mut seen : List Bytes := []
    for (source, path) in asked do
      let isRelative := path.take 2 = Text.bytes "./" && 2 < path.length && g.operands.length = 1
      let path := if isRelative then path.drop 2 else path
      if seen.contains source && path != source then
        let kind := if ((← get).find? source).any Node.isDir then "directory " else "file "
        complain (Text.bytes ("warning: source " ++ kind) ++ Quoted.always source ++
          Text.bytes " specified more than once")
      else
        let (code, after) ← (copyOne g c (source, path) true 64 source path).run
          { account with first := none, intoSelf := false }
        account := after
        if code != 0 then status := code
      seen := source :: seen
    return status

/-! ## Moving -/

/-- Whether one place is below another. -/
def isBelow (place above : Place) : Bool :=
  above.isSuffixOf place

/-- Move a file to a path. -/
def moveOne (g : Given) (source path : Bytes) : StateM Scene Nat := do
  let s ← get
  match s.disk.findLast s.dir source with
  | .error fault =>
    complainAbout "cannot stat" source fault
    return 1
  | .ok (id, node) =>
    let there := (s.disk.findLast s.dir path).toOption
    let how := g.last? ['i', 'n', 'f']
    let backs := g.has 'b' && there.isSome
    if there.isSome then
      if sameFile s false true false backs source path then
        complain (Quoted.always source ++ Text.bytes " and " ++ Quoted.always path ++ Text.bytes " are the same file")
        return 1
      if how = some 'n' || g.value? 'υ' = some (Text.bytes "none") then return 0
      if node.isDir && !there.any (·.2.isDir) && !backs then
        complain (Text.bytes "cannot overwrite non-directory " ++ Quoted.always path ++ Text.bytes " with directory " ++
          Quoted.always source)
        return 1
      if !node.isDir && there.any (·.2.isDir) && !backs then
        complain (Text.bytes "cannot overwrite directory " ++ Quoted.always path ++ Text.bytes " with non-directory")
        return 1
      if (g.has 'u' || g.has 'υ') && !node.isDir &&
          there.any (fun entry => s.disk.stampOf id ≤ s.disk.stampOf entry.1) then
        return 0
      if how = some 'i' then
        if !(← ask (Text.bytes "overwrite " ++ Quoted.always path ++ Text.bytes "? ")) then return 0
    let failed (fault : Fault) : StateM Scene Nat := do
      complain (Text.bytes "cannot move " ++ Quoted.always source ++ Text.bytes " to " ++ Quoted.always path ++
        Text.bytes (": " ++ fault.text))
      return 1
    let s ← get
    match s.disk.locateLast s.dir source, s.disk.locateLast s.dir path with
    | .error fault, _ =>
      failed (if fault = .present then .invalid else fault)
    | _, .error fault => failed (if fault = .present then .invalid else fault)
    | .ok (origin, name), .ok (parent, target) =>
      if node.isDir && isBelow parent ((name, id) :: origin) then
        complain (Text.bytes "cannot move " ++ Quoted.always source ++ Text.bytes " to a subdirectory of itself, " ++
          Quoted.always path)
        return 1
      else if !node.isDir && path.getLast? = some Place.slash then failed .notDirectory
      else if !backs && there.any (fun entry => entry.2.isDir && !entry.2.isEmptyDir) then
        failed .notEmpty
      else
        let backup ← if backs then keepBackup g path else pure none
        let s ← get
        let d := (s.disk.detach origin name).detach parent target
        match d.attach parent target id with
        | .ok d =>
          set (s.withDisk d)
          if g.has 'v' then
            let note := match backup with
              | some name => Text.bytes " (backup: " ++ Quoted.always name ++ [byte ')']
              | none => []
            putLine (Text.bytes "renamed " ++ Quoted.always source ++ Text.bytes " -> " ++ Quoted.always path ++ note)
          return 0
        | .error fault => failed fault

def mv : Utility := withOptions
  { letters := "bfinTuvZ", valued := "tS", optional := "μυ",
    words := [("backup", 'μ'), ("force", 'f'), ("interactive", 'i'), ("no-clobber", 'n'), ("suffix", 'S'),
      ("target-directory", 't'), ("no-target-directory", 'T'), ("update", 'υ'), ("verbose", 'v'),
      ("strip-trailing-slashes", 'ς')] } 1
  fun g => do
  let g := withBackup g
  match ← pairs g false with
  | none => return 1
  | some asked =>
    let mut status := 0
    let mut made : List Bytes := []
    for (source, path) in asked do
      if made.contains path then
        complain (Text.bytes "will not overwrite just-created " ++ Quoted.always path ++ Text.bytes " with " ++
          Quoted.always source)
        status := 1
      else
        let code ← moveOne g source path
        if code != 0 then status := code else made := path :: made
    return status

/-! ## Installing -/

/-- Make a directory and those above it for `install`. -/
def installDir (g : Given) (mode : Nat) (path : Bytes) : StateM Scene Nat := do
  let start : Bytes := if Disk.isRooted path then [Place.slash] else []
  let paths := (Disk.split path).foldl (fun (paths : List Bytes) name =>
    paths ++ [match paths.getLast? with
      | none => start ++ name
      | some before => under before name]) []
  let mut status := 0
  for (path, n) in paths.zipIdx 1 do
    if status = 0 then
      let s ← get
      match s.disk.locate s.dir path with
      | .ok place =>
        match s.disk.node? place.id with
        | some (.dir entries old) =>
          if n = paths.length then
            set (s.withDisk (s.disk.setNode place.id (.dir entries (if g.has 'm' then mode else old))))
        | _ =>
          complainAbout (if n = paths.length then "cannot create directory" else "cannot create directory") path
            (if n = paths.length then .present else .notDirectory)
          status := 1
      | .error _ =>
        let made := (s.disk.add s.dir path (.dir [] (if n = paths.length then mode else Node.usualDirMode))).map (·.2)
        status ← attempt made fun fault => complainAbout "cannot create directory" path fault
        if status = 0 && g.has 'v' then
          putLine ((← get).title ++ Text.bytes ": creating directory " ++ Quoted.always path)
  return status

/-- Copies files to where they are used, with a mode of their own. -/
def install : Utility := withOptions
  { letters := "bcCdDpsTv", valued := "gmotS", optional := "μ",
    words := [("directory", 'd'), ("mode", 'm'), ("target-directory", 't'), ("no-target-directory", 'T'),
      ("verbose", 'v'), ("owner", 'o'), ("group", 'g'), ("compare", 'C'), ("preserve-timestamps", 'p'),
      ("strip", 's'), ("backup", 'μ'), ("suffix", 'S')] } 1
  fun g => do
  let g := withBackup g
  let text := (g.value? 'm').getD (Text.bytes "755")
  match modeAfter 0 (g.has 'd') text 0 with
  | none =>
    complain (Text.bytes "invalid mode " ++ Quoted.curly text)
    return 1
  | some mode =>
    if g.has 'd' then
      if g.operands.isEmpty then
        complainOfUse (Text.bytes "missing file operand")
        return 1
      else forOperands g.operands (installDir g mode)
    else
      if g.has 'D' then
        let dir := (g.value? 't').getD (if g.operands.length = 2 then Print.dirName (g.operands.getLast?.getD [])
          else [byte '.'])
        if ((← get).find? dir).isNone then
          let _ ← installDir { g with options := g.options.filter (·.1 != 'v') } Node.usualDirMode dir
      match ← pairs g false with
      | none => return 1
      | some asked =>
        let c : Copying := { clears := true, keepsTime := g.has 'p', tells := g.has 'v' }
        let mut status := 0
        for (source, path) in asked do
          let (code, _) ← (copyOne (g.add 'ι' []) c (source, path) true 64 source path).run {}
          if code != 0 then status := code
          else
            let s ← get
            match followed? s path with
            | some id => set (s.withDisk (((s.disk.node? id).map fun node =>
                s.disk.setNode id (node.withMode mode)).getD s.disk))
            | none => pure ()
        return status

end Files

end LineShell.Host
