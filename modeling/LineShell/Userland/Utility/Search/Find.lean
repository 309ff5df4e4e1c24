import LineShell.Userland.Utility.Inputs
import LineShell.Userland.Utility.Search.Query

/-!
# Looking for files

`find` goes through directories and puts a question to each file it meets.

- `Hunt` is what it keeps account of on the way;
- `ask` puts a question to one file, `visit` goes through all that is below a path.
-/

namespace LineShell.Host

namespace Finding

/-- A file on the way. -/
structure Sight where
  /-- The path that the way started from. -/
  start : Bytes
  path : Bytes
  depth : Nat
  id : Nat
  node : Node
deriving DecidableEq, Repr

/-- What is kept account of on the way. -/
structure Hunt where
  status : Nat := 0
  /-- Nothing more is looked at. -/
  finished : Bool := false
  /-- The directory at hand is not gone into. -/
  pruned : Bool := false
  /-- The files that commands are still to be run for, latest first. -/
  waiting : List (Command × Place × List Bytes) := []
  /-- The streams of the files that are written. -/
  streams : List (Bytes × Nat) := []

/-- Looking for files. -/
abbrev Hunting := StateT Hunt (StateM Scene)

namespace Hunting

def fail : Hunting Unit :=
  modify fun h => { h with status := 1 }

/-- Complain of a path. -/
def complainOf (path : Bytes) (fault : Fault) : Hunting Unit := do
  (complain (Quoted.curly path ++ Text.bytes (": " ++ fault.text)) : StateM Scene Unit)
  fail

/-- Write on standard output, or into a file. -/
def write (into : Option Bytes) (text : Bytes) : Hunting Unit := do
  let s ← getThe Scene
  let streams := (← get).streams
  match into.bind fun path => streams.lookup path with
  | none => set (s.print text)
  | some number => set (((s.writeStream number text).toOption).getD s)

end Hunting

/-! ## Tests -/

/-- The letter for the kind of a file. -/
def kindOf (node : Node) : Char :=
  match Files.kindLetter node with
  | '-' => 'f'
  | letter => letter

/-- The name at the end of a path. -/
def lastName (path : Bytes) : Bytes :=
  Print.baseName path

/-- What a link leads to, or the link if it leads nowhere; what follows links looks at the link. -/
def otherSide (following : Following) (s : Scene) (f : Sight) : Node :=
  let link := (s.disk.findLast? s.dir f.path).getD f.node
  if following = .always then link else (s.find? f.path).getD link

/-- Whether something is so of a file. -/
def Test.holds (t : Test) (following : Following) (s : Scene) (f : Sight) : Bool :=
  let stamp := s.disk.stampOf f.id
  let fits (loose : Bool) (p : Pattern) (text : Bytes) : Bool := p.fits (if loose then lowered text else text)
  match t with
  | .constant value => value
  | .name loose whole p => fits loose p (if whole then f.path else lastName f.path)
  | .target loose p =>
    match f.node with
    | .link goal => fits loose p goal
    | _ => false
  | .path m => (m.fitAt (Symbols.ofBytes f.path).toArray 0).isSome
  | .kind through letters => letters.contains (kindOf (if through then otherSide following s f else f.node))
  | .size unit m => m.holds ((Files.shownSize f.node + unit - 1) / unit)
  | .empty =>
    match f.node with
    | .dir entries _ => entries.isEmpty
    | .file .. | .tool _ | .report _ => f.node.size == 0
    | _ => false
  | .mode how file dir =>
    let asked := if f.node.isDir then dir else file
    let mode := f.node.mode
    match how with
    | .same => mode == asked
    | .all => mode &&& asked == asked
    | .some => mode &&& asked != 0
  | .changedAfter time => time < stamp
  | .changed relation start span =>
    match relation with
    | .less => stamp < start
    | .greater => start < stamp
    | .equal => start < stamp && stamp ≤ start + span
  | .links m => m.holds (Files.linkCount s.disk f.id f.node)
  | .id m => m.holds (Files.shownId f.id)
  | .owner m => m.holds 0
  | .same other => f.id == other
  | .startable =>
    let node := (s.find? f.path).getD f.node
    node.isDir || node.isExecutable

/-! ## Formats -/

/-- A time the way the system's own format has it, with a fraction. -/
def fraction (time : Int) : Bytes :=
  byte '.' :: padLeft 9 (byte '0') (decimal (time % 1000000000).toNat) ++ [byte '0']

/-- A time in a format that a letter names. -/
def timeField (time : Int) (letter : Char) : Bytes :=
  let render (format : String) : Bytes := (Moment.ofTime time).render (Text.bytes format)
  match letter with
  | '@' => render "%s" ++ fraction time
  | '+' => render "%Y-%m-%d+%H:%M:%S" ++ fraction time
  | 'T' | 'X' => render "%H:%M:%S" ++ fraction time
  | 'S' => render "%S" ++ fraction time
  | 'q' | 'N' | 'P' | 'f' | 'i' | 'J' | 'K' | 'L' | 'o' | 'Q' | 'v' | 'E' | 'O' => [byte '%', byte letter]
  | _ => render (String.ofList ['%', letter])

/-- The whole time that a field without a format of its own shows. -/
def usualTime (time : Int) : Bytes :=
  let moment := Moment.ofTime time
  moment.render (Text.bytes "%a %b %e %H:%M:%S") ++ fraction time ++ moment.render (Text.bytes " %Y")

/-- The part of a path in front of its last name. -/
def leadingDirs (path : Bytes) : Bytes :=
  let before := (path.reverse.dropWhile (· != Place.slash)).reverse
  if before.isEmpty then [byte '.'] else before.dropLast

/-- A path without the one that the way started from. -/
def withoutStart (f : Sight) : Bytes :=
  let rest := f.path.drop f.start.length
  if rest.head? = some Place.slash then rest.tail else rest

/-- What a letter of a format stands for. -/
def fieldOf (s : Scene) (f : Sight) (c : Conversion) (letter : Char) : Bytes :=
  let stamp := s.disk.stampOf f.id
  let text (value : Bytes) : Bytes := c.text value
  let number (n : Nat) : Bytes := text (decimal n)
  match letter with
  | 'p' => text f.path
  | 'f' => text (if f.path.getLast? = some Place.slash then f.path else lastName f.path)
  | 'h' => text (leadingDirs f.path)
  | 'H' => text f.start
  | 'P' => text (withoutStart f)
  | 's' => number (Files.shownSize f.node)
  | 'k' => number (Files.pageCount f.node * 4)
  | 'b' => number (Files.pageCount f.node * 8)
  | 'm' => c.unsigned 'o' f.node.mode
  | 'M' => text (Files.kindAndMode f.node)
  | 'y' => text [byte (kindOf f.node)]
  | 'Y' =>
    text [match s.disk.locate s.dir f.path with
      | .ok _ => byte (kindOf ((s.find? f.path).getD f.node))
      | .error .loop => byte 'L'
      | .error _ => byte 'N']
  | 'l' =>
    text (match f.node with
      | .link target => target
      | _ => [])
  | 'd' => c.signed f.depth
  | 'n' => number (Files.linkCount s.disk f.id f.node)
  | 'i' => number (Files.shownId f.id)
  | 'u' | 'g' => text (Text.bytes "root")
  | 'U' | 'G' => number 0
  | 'a' | 'c' | 't' => text (usualTime stamp)
  | 'D' => number 64
  | 'F' => text (Text.bytes "overlay")
  | 'S' =>
    text (if Files.shownSize f.node = 0 then Text.bytes "1"
      else
        Quantity.general 'g' false (Files.pageCount f.node * 4096) (Files.shownSize f.node) 6)
  | _ => []

/-- A format filled in for a file. -/
def filledIn (s : Scene) (f : Sight) : List Piece → Bytes
  | [] | .stop :: _ => []
  | .text text :: rest => text ++ filledIn s f rest
  | .field c letter :: rest => fieldOf s f c letter ++ filledIn s f rest
  | .time c letter :: rest => c.text (timeField (s.disk.stampOf f.id) letter) ++ filledIn s f rest

/-- A file as a line of a list. -/
def listed (s : Scene) (f : Sight) : Bytes :=
  let right (width : Nat) (n : Nat) : Bytes := padLeft width (byte ' ') (decimal n)
  let owner := padRight 8 (byte ' ') (Text.bytes "root")
  let time := s.disk.stampOf f.id
  let now := s.disk.now
  let isRecent := time ≤ now && now - time < 15778476000000000
  let shownTime := (Moment.ofTime time).render (Text.bytes (if isRecent then "%b %e %H:%M" else "%b %e  %Y"))
  let name := Files.NameStyle.escaped.write [32] f.path ++ match f.node with
    | .link target => Text.bytes " -> " ++ Files.NameStyle.escaped.write [32] target
    | _ => []
  Print.joined [right 9 (Files.shownId f.id), right 6 (Files.pageCount f.node * 4), Files.kindAndMode f.node,
    right 3 (Files.linkCount s.disk f.id f.node), owner, owner, right 8 (Files.shownSize f.node), shownTime, name] ++
    [newline]

/-! ## Commands -/

/-- Run a command in a directory; whether it went well. -/
def runIn (starter : Starter) (dir : Place) (closed : Bool) (words : List Bytes) : Hunting Bool := do
  let s ← getThe Scene
  let there : Scene := { s with dir := dir }
  let there := if closed then there.assign 0 none else there
  match starter.start starter.environment starter.ignored words there with
  | .ok (ending, after) =>
    set (s.after after)
    match ending with
    | .exited code => return code = 0
    | .killed signal =>
      (complain (Quoted.curly (words.headD []) ++ Text.bytes " terminated by signal " ++ decimal signal) :
        StateM Scene Unit)
      return false
  | .error fault =>
    (complain (Quoted.curly (words.headD []) ++ Text.bytes (": " ++ fault.text)) : StateM Scene Unit)
    return false

/-- The directory that a file is in. -/
def placeOf (s : Scene) (path : Bytes) : Place :=
  let bare := Print.withoutEnd path
  let dir := leadingDirs bare
  let dir := if dir.isEmpty then [Place.slash] else dir
  ((s.disk.locate? s.dir dir)).getD s.dir

/-- A file as it is called in the directory that it is in. -/
def nameInside (path : Bytes) : Bytes :=
  if path = [Place.slash] then path
  else Text.bytes "./" ++ lastName path ++ if path.getLast? = some Place.slash then [Place.slash] else []

/-- Run the commands that files are waiting for. -/
def runWaiting (starter : Starter) : Hunting Unit := do
  let h ← get
  set { h with waiting := [] }
  for (command, dir, paths) in h.waiting.reverse do
    let went ← runIn starter dir false (command.words ++ paths.reverse)
    if !went then Hunting.fail

/-- Let a file wait for a command that is run for many. -/
def await (command : Command) (dir : Place) (path : Bytes) : Hunting Unit :=
  modify fun h =>
    let isMine (entry : Command × Place × List Bytes) : Bool :=
      entry.1.number = command.number && entry.2.1 = dir
    if h.waiting.any isMine then
      { h with waiting := h.waiting.map fun entry =>
          if isMine entry then (entry.1, entry.2.1, path :: entry.2.2) else entry }
    else { h with waiting := (command, dir, [path]) :: h.waiting }

/-- Run a command for a file, or let the file wait. -/
def runFor (starter : Starter) (command : Command) (f : Sight) : Hunting Bool := do
  let s ← getThe Scene
  let dir := if command.inside then placeOf s f.path else s.dir
  let path := if command.inside then nameInside f.path else f.path
  if command.together then
    await command dir path
    return true
  else
    let words := command.words.map (Search.filled path)
    if command.asks then
      set (s.complain (Text.bytes "< " ++ command.words.headD [] ++ Text.bytes " ... " ++ f.path ++ Text.bytes " > ? "))
      let yes ← (Files.agreed : StateM Scene Bool)
      if !yes then return false
    runIn starter dir command.asks words

/-! ## Questions -/

/-- Take a file away; whether that went well. -/
def delete (f : Sight) : Hunting Bool := do
  if f.path = [byte '.'] then return true
  let s ← getThe Scene
  let change := if f.node.isDir then s.disk.removeDir s.dir (Print.withoutEnd f.path)
    else s.disk.removeFile s.dir f.path
  match change with
  | .ok d =>
    set (s.withDisk d)
    return true
  | .error fault =>
    (complain (Text.bytes "cannot delete " ++ Quoted.curly f.path ++ Text.bytes (": " ++ fault.text)) :
      StateM Scene Unit)
    Hunting.fail
    return false

/-- Do something for a file; whether that went well. -/
def act (starter : Starter) (f : Sight) : Deed → Hunting Bool
  | .print into ending => do
    Hunting.write into (f.path ++ [ending])
    return true
  | .format into pieces => do
    Hunting.write into (filledIn (← getThe Scene) f pieces)
    return true
  | .list into => do
    Hunting.write into (listed (← getThe Scene) f)
    return true
  | .delete => delete f
  | .prune => do
    modify fun h => { h with pruned := true }
    return true
  | .quit => do
    modify fun h => { h with finished := true }
    return true
  | .run command => runFor starter command f

/-- Put a question to a file. Nothing more is done once all is over. -/
def ask (starter : Starter) (following : Following) (f : Sight) : Query → Hunting Bool
  | .test t => do return t.holds following (← getThe Scene) f
  | .deed d => do
    if (← get).finished then return false
    act starter f d
  | .negation q => do return !(← ask starter following f q)
  | .both first second => do
    if ← ask starter following f first then ask starter following f second else return false
  | .either first second => do
    if ← ask starter following f first then return true else ask starter following f second
  | .afterwards first second => do
    let _ ← ask starter following f first
    ask starter following f second

/-! ## The way -/

/-- Go through all that is below a path; `above` are the directories on the way there. `fuel` bounds the nesting. -/
def visit (starter : Starter) (search : Search) (q : Query) (start : Bytes) (above : List Nat) (depth : Nat) :
    (fuel : Nat) → Bytes → Hunting Unit
  | 0, _ => pure ()
  | fuel + 1, path => do
    if (← get).finished then return
    let s ← getThe Scene
    let follows := search.following = .always || (search.following = .named && depth = 0)
    match Files.listedAt s follows path path with
    | .error fault => Hunting.complainOf path fault
    | .ok file =>
      let f : Sight := { start, path, depth, id := file.id, node := file.node }
      let isLoop := file.node.isDir && above.contains file.id
      if isLoop then
        (complain (Text.bytes "File system loop detected; " ++ Quoted.curly path ++
          Text.bytes " is part of the same file system loop as " ++
          Quoted.curly (pathOf start above file.id path) ++ [byte '.']) : StateM Scene Unit)
        Hunting.fail
      else
        let due := search.least ≤ depth
        let goesOn := file.node.isDir && search.most.all (depth < ·)
        if due && !search.deep then
          modify fun h => { h with pruned := false }
          let _ ← ask starter search.following f q
        let pruned := (← get).pruned && due && !search.deep
        if goesOn && !pruned && !(← get).finished then
          match (← getThe Scene).disk.entries? file.id, Files.listedAt (← getThe Scene) follows path path with
          | some entries, .ok _ =>
            for (name, _) in entries do
              visit starter search q start (file.id :: above) (depth + 1) fuel (Files.under path name)
          | _, .error fault => Hunting.complainOf path fault
          | _, _ => pure ()
        if due && search.deep && !(← get).finished then
          let _ ← ask starter search.following f q
where
  /-- The path of the directory with a number on the way to a path. -/
  pathOf (start : Bytes) (above : List Nat) (id : Nat) (path : Bytes) : Bytes :=
    let up := (above.takeWhile (· != id)).length + 1
    let cut := (List.range up).foldl (fun path _ => leadingDirs path) path
    if cut.length < start.length then start else cut

/-- The files that the deeds of a question write. -/
def filesWritten : Query → List Bytes
  | .test _ => []
  | .deed (.print (some path) _) | .deed (.format (some path) _) | .deed (.list (some path)) => [path]
  | .deed _ => []
  | .negation q => filesWritten q
  | .both a b | .either a b | .afterwards a b => filesWritten a ++ filesWritten b

/-- Open the files that are written; the first that cannot be is an error. -/
def openFiles : List Bytes → StateM Scene (Except QueryFault (List (Bytes × Nat)))
  | [] => return .ok []
  | path :: rest => do
    match (← get).openFile path .write with
    | .error fault => return .error (.file path fault)
    | .ok (number, s) =>
      set s
      return (← openFiles rest).map ((path, number) :: ·)

/-- So deep directories are gone into. -/
def depthLimit : Nat := 2100

/-- Looks for files. -/
def find (starter : Starter) : Utility := fun args => do
  match Search.read (← get) args with
  | .error fault =>
    complain fault.text
    for text in fault.more?.toList do
      complain text
    return 1
  | .ok (search, q) =>
    for warning in search.warnings do
      complain warning
    match ← openFiles (filesWritten q).eraseDups with
    | .error fault =>
      complain fault.text
      return 1
    | .ok streams =>
      let mut starts := if search.starts.isEmpty then [[byte '.']] else search.starts
      match search.list with
      | none => pure ()
      | some path =>
        match ← Inputs.load path with
        | .ok data => starts := Lines.texts 0 data
        | .error fault =>
          complain (Text.bytes "cannot open " ++ Quoted.curly path ++ Text.bytes (": " ++ fault.text))
          return 1
      let go : Hunting Unit := do
        for start in starts do
          visit starter search q start [] 0 depthLimit start
        runWaiting starter
      let (_, h) ← go.run { streams := streams }
      return h.status

end Finding

end LineShell.Host
