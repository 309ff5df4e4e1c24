import LineShell.Host.Fault
import LineShell.Host.Sparse
import LineShell.Path

/-!
# An operating system's files in memory

Files are numbered and never change their number; a directory lists numbers under names, so a file may have several
names, or none any more while someone still has it open. Names are bytes other than slash and NUL, up to 255 of them.

- `Disk.follow` takes a path through links to the `Place` it leads to, or says why it leads nowhere;
- `Disk.add`, `Disk.attach`, `Disk.detach` and `Disk.setNode` are all the changes there are;
- `Disk.stampOf` is the time at which a file was last changed. There is no clock: each change takes a moment, and the
  first one was made at `Disk.epoch`.
-/

namespace LineShell.Host

/-- What a device does. -/
inductive Device
  /-- Takes everything and holds nothing. -/
  | null
  /-- Takes everything and holds NUL without end. -/
  | zero
  /-- Takes nothing and holds NUL without end. -/
  | full
  /-- Takes everything and holds bytes without end that nobody can foresee. -/
  | random
  /-- There is none behind its name. -/
  | absent
deriving DecidableEq, Repr

namespace Device

/-- The first `count` bytes of what a device holds. -/
def bytes (kind : Device) (count : Nat) : Bytes :=
  match kind with
  | .null | .absent => []
  | .zero | .full => List.replicate count 0
  | .random => (List.range count).map fun n => UInt8.ofNat ((n * n * 31 + n * 97 + 53) % 251)

end Device

/-- A file of the host. Most kinds have a mode: three bits each for the owner, the group and the others, and three bits
before them. -/
inductive Node
  | file (content : Sparse) (mode : Nat)
  | dir (entries : List (Bytes × Nat)) (mode : Nat)
  | link (target : Bytes)
  /-- A program of the system, by name. -/
  | tool (name : String)
  | device (kind : Device)
  /-- What is written into it is read from it again, once. -/
  | fifo (content : Bytes) (mode : Nat)
  /-- A text that the system makes up when it is read; before that it has no length. -/
  | report (text : Bytes)
deriving DecidableEq, Repr

namespace Node

def isDir : Node → Bool
  | dir .. => true
  | _ => false

def isLink : Node → Bool
  | link _ => true
  | _ => false

/-- Whether a node is a directory with nothing in it. -/
def isEmptyDir : Node → Bool
  | dir entries _ => entries.isEmpty
  | _ => false

/-- The mode of a new file. -/
def usualMode : Nat := 0x1a4

/-- The mode of a new directory. -/
def usualDirMode : Nat := 0x1ed

/-- The bits that say who may start a file. -/
def startBits : Nat := 0x49

/-- The bits of a mode that a mask does not take away. -/
def unmasked (mode mask : Nat) : Nat :=
  mode - (mode &&& mask)

/-- A file with nothing in it. -/
def emptyFile : Node :=
  file {} usualMode

/-- A directory with nothing in it. -/
def emptyDir : Node :=
  dir [] usualDirMode

/-- The mode of a file of any kind. -/
def mode : Node → Nat
  | file _ mode | dir _ mode | fifo _ mode => mode
  | tool _ => usualDirMode
  | link _ => 0x1ff
  | device _ => 0x1b6
  | report _ => 0x124

/-- The file with another mode; some kinds keep theirs. -/
def withMode (mode : Nat) : Node → Node
  | file content _ => file content mode
  | dir entries _ => dir entries mode
  | fifo content _ => fifo content mode
  | node => node

/-- Whether a node may be started as a program. -/
def isExecutable : Node → Bool
  | file _ mode => mode &&& startBits != 0
  | tool _ => true
  | _ => false

/-- The start of a program's code, which is what tells the system that it is one. -/
def code : Bytes :=
  [0x7f, 0x45, 0x4c, 0x46, 2, 1, 1, 0, 0, 0, 0, 0, 0, 0, 0, 0, 3, 0, 0x3e, 0, 1, 0, 0, 0] ++ List.replicate 40 0

/-- The length of what is in a file. -/
def size : Node → Nat
  | file content _ => content.size
  | link target => target.length
  | tool _ => code.length
  | _ => 0

/-- What is in a file, if that has an end. -/
def content? : Node → Option Bytes
  | file content _ => some content.content
  | tool _ => some code
  | report text => some text
  | fifo content _ => some content
  | device .null => some []
  | _ => none

end Node

/-- The way from the root to a file: names and numbers, deepest first. -/
abbrev Place := List (Bytes × Nat)

namespace Place

/-- The number of the file. -/
def id (place : Place) : Nat :=
  match place with
  | [] => 0
  | (_, id) :: _ => id

def slash : UInt8 := 47

/-- The path of a place. -/
def path (place : Place) : Bytes :=
  if place.isEmpty then [slash] else place.reverse.flatMap fun (name, _) => slash :: name

end Place

/-- All files by number; the root is number 0. -/
structure Disk where
  nodes : Array Node
  /-- When each of them was last changed, in billionths of a second. -/
  stamps : Array Int
  /-- How many moments went by. -/
  moments : Nat := 0
deriving DecidableEq, Repr

namespace Disk

/-! ## Looking -/

/-- The longest name. -/
def nameLimit : Nat := 255

/-- Paths are shorter than this. -/
def pathLimit : Nat := 4096

/-- The longest file. -/
def sizeLimit : Nat := 0xffffffff000

/-- The most links on a path. -/
def linkLimit : Nat := 40

/-- The time of the first change. -/
def epoch : Int := 1760000000000000000

/-- The time it is now; a moment is a thousandth of a second. -/
def now (d : Disk) : Int :=
  epoch + d.moments * 1000000

def stampOf (d : Disk) (id : Nat) : Int :=
  (d.stamps[id]?).getD epoch

def node? (d : Disk) (id : Nat) : Option Node :=
  d.nodes[id]?

def entries? (d : Disk) (id : Nat) : Option (List (Bytes × Nat)) :=
  match d.node? id with
  | some (.dir entries _) => some entries
  | _ => none

/-- The names between the slashes. -/
def split (path : Bytes) : List Bytes :=
  (path.splitOn Place.slash).filter fun piece => !piece.isEmpty

def isRooted (path : Bytes) : Bool :=
  path.head? = some Place.slash

/-- The steps of a path. A slash at the end asks for a directory, as one more step to itself does. -/
def steps (path : Bytes) : List Bytes :=
  split path ++ if path.getLast? = some Place.slash then [[46]] else []

/-- Follow steps from a place. At most `links` links are followed; the last step is followed too if it is a link. -/
def follow (d : Disk) (here : Place) (todo : List Bytes) (links : Nat) : Except PathFault Place :=
  match todo with
  | [] => .ok here
  | name :: rest =>
    match d.entries? here.id with
    | none => .error .notDirectory
    | some entries =>
      if nameLimit < name.length then .error .tooLong
      else if name = [46] then d.follow here rest links
      else if name = [46, 46] then d.follow here.tail rest links
      else
        match entries.lookup name with
        | none => .error .missing
        | some id =>
          match d.node? id with
          | some (.link target) =>
            match links with
            | 0 => .error .loop
            | links + 1 => d.follow (if isRooted target then [] else here) (steps target ++ rest) links
          | _ => d.follow ((name, id) :: here) rest links
termination_by (links, todo.length)

/-- Whether a path may be given to the system at all, and if not, what is wrong with it. -/
def inadmissible? (path : Bytes) : Option Fault :=
  if path.contains 0 || path.isEmpty then some .missing
  else if pathLimit ≤ path.length then some .tooLong
  else none

/-- Where a path starts from. -/
def origin (dir : Place) (path : Bytes) : Place :=
  if isRooted path then [] else dir

/-- The place that a path leads to from a directory. -/
def locate (d : Disk) (dir : Place) (path : Bytes) : Except Fault Place :=
  match inadmissible? path with
  | some fault => .error fault
  | none => (d.follow (origin dir path) (steps path) linkLimit).mapError Fault.ofPath

def locate? (d : Disk) (dir : Place) (path : Bytes) : Option Place :=
  (d.locate dir path).toOption

/-- The node that a path leads to. -/
def find (d : Disk) (dir : Place) (path : Bytes) : Except Fault Node :=
  (d.locate dir path).bind fun place =>
    match d.node? place.id with
    | some node => .ok node
    | none => .error .missing

def find? (d : Disk) (dir : Place) (path : Bytes) : Option Node :=
  (d.find dir path).toOption

/-- The directory that the last name of a path is in, and that name, not followed. The root and the two names that
every directory has are no last names. -/
def locateLast (d : Disk) (dir : Place) (path : Bytes) : Except Fault (Place × Bytes) :=
  match inadmissible? path with
  | some fault => .error fault
  | none =>
    match (split path).reverse with
    | [] => .error .present
    | name :: before =>
      match d.follow (origin dir path) before.reverse linkLimit with
      | .error fault => .error (.ofPath fault)
      | .ok parent =>
        if (d.entries? parent.id).isNone then .error .notDirectory
        else if name = [46] || name = [46, 46] then .error .present
        else if nameLimit < name.length then .error .tooLong
        else .ok (parent, name)

def locateLast? (d : Disk) (dir : Place) (path : Bytes) : Option (Place × Bytes) :=
  (d.locateLast dir path).toOption

/-- The file under the last name of a path, links not followed. -/
def lastOf? (d : Disk) (dir : Place) (path : Bytes) : Option (Nat × Node) :=
  (d.locateLast? dir path).bind fun (parent, name) =>
    ((d.entries? parent.id).bind fun entries => entries.lookup name).bind fun id =>
      (d.node? id).map fun node => (id, node)

/-- The number and the node at a path, a link at its end not followed unless a slash asks for a directory. -/
def findLast (d : Disk) (dir : Place) (path : Bytes) : Except Fault (Nat × Node) :=
  let followed : Except Fault (Nat × Node) :=
    (d.locate dir path).bind fun place =>
      match d.node? place.id with
      | some node => .ok (place.id, node)
      | none => .error .missing
  if path.getLast? = some Place.slash then followed
  else
    match d.lastOf? dir path with
    | some found => .ok found
    | none => followed

def findLast? (d : Disk) (dir : Place) (path : Bytes) : Option Node :=
  ((d.findLast dir path).toOption).map (·.2)

/-! ## Changes -/

def setNode (d : Disk) (id : Nat) (node : Node) : Disk :=
  { d with nodes := d.nodes.setIfInBounds id node }

/-- Say when a file was last changed. -/
def setStamp (d : Disk) (id : Nat) (time : Int) : Disk :=
  { d with stamps := d.stamps.setIfInBounds id time }

/-- Say that a file was changed now, which takes a moment. -/
def mark (d : Disk) (id : Nat) : Disk :=
  { d with stamps := d.stamps.setIfInBounds id d.now, moments := d.moments + 1 }

/-- One more file, without a name. -/
def grown (d : Disk) (node : Node) : Nat × Disk :=
  (d.nodes.size, { d with nodes := d.nodes.push node, stamps := d.stamps.push d.now })

/-- Let a directory have other entries. -/
def setEntries (d : Disk) (parent : Place) (entries : List (Bytes × Nat)) : Disk :=
  match d.node? parent.id with
  | some (.dir _ mode) => (d.setNode parent.id (.dir entries mode)).mark parent.id
  | _ => d

/-- List a file in a directory under a name where there is nothing yet. -/
def attach (d : Disk) (parent : Place) (name : Bytes) (id : Nat) : Except Fault Disk :=
  match d.entries? parent.id with
  | some entries =>
    if (entries.lookup name).isSome then .error .present else .ok (d.setEntries parent (entries ++ [(name, id)]))
  | none => .error .notDirectory

/-- Take a name out of a directory. -/
def detach (d : Disk) (parent : Place) (name : Bytes) : Disk :=
  match d.entries? parent.id with
  | some entries => d.setEntries parent (entries.filter (·.1 != name))
  | none => d

/-- Create a file where there is nothing. Only a directory may be asked for with a slash at the end. -/
def add (d : Disk) (dir : Place) (path : Bytes) (node : Node) : Except Fault (Nat × Disk) :=
  if path.getLast? = some Place.slash && !node.isDir then
    .error (if node.isLink then .missing else .isDirectory)
  else
    (d.locateLast dir path).bind fun (parent, name) =>
      let (id, grown) := d.grown node
      (grown.attach parent name id).map fun d => (id, d)

/-- Create a file that is written to: a link that leads nowhere is followed to where it would lead. -/
def create (d : Disk) (dir : Place) (path : Bytes) (node : Node) : (links : Nat) → Except Fault (Nat × Disk)
  | 0 => .error .loop
  | links + 1 =>
    match d.locateLast? dir path, d.lastOf? dir path with
    | some (parent, _), some (_, .link target) => d.create parent target node links
    | _, _ => d.add dir path node

/-- Take away a file that is no directory. A link is itself taken away. -/
def removeFile (d : Disk) (dir : Place) (path : Bytes) : Except Fault Disk :=
  match d.locateLast dir path with
  | .error .present => .error .isDirectory
  | .error fault => .error fault
  | .ok (parent, name) =>
    match d.lastOf? dir path with
    | none => .error .missing
    | some (_, node) =>
      if node.isDir then .error .isDirectory
      else if path.getLast? = some Place.slash then .error .notDirectory
      else .ok (d.detach parent name)

/-- Take away a directory with nothing in it. -/
def removeDir (d : Disk) (dir : Place) (path : Bytes) : Except Fault Disk :=
  match d.locateLast dir path with
  | .error .present => .error .invalid
  | .error fault => .error fault
  | .ok (parent, name) =>
    match d.lastOf? dir path with
    | none => .error .missing
    | some (_, node) =>
      if !node.isDir then .error .notDirectory
      else if !node.isEmptyDir then .error .notEmpty
      else .ok (d.detach parent name)

/-- Change the content of the file with a number. -/
def alter (d : Disk) (id : Nat) (change : Sparse → Sparse) : Option Disk :=
  match d.node? id with
  | some (.file content mode) => some ((d.setNode id (.file (change content) mode)).mark id)
  | _ => none

/-! ## The operations of the system, on absolute paths -/

/-- The node at an absolute path, with its number. -/
def atPath? (d : Disk) (path : String) : Option (Nat × Node) :=
  (d.locate? [] (Text.bytes path)).bind fun place => (d.node? place.id).map fun node => (place.id, node)

def statusOf (d : Disk) (path : String) : Option Stat :=
  (d.atPath? path).map fun (_, node) =>
    match node with
    | .dir entries _ => { size := entries.length, directory := true }
    | node => { size := node.size, directory := false }

/-- The real path is found step by step, so that its own length is all that counts. -/
def realPathOf (d : Disk) (path : String) : Except PathFault String :=
  let data := Text.bytes path
  if data.contains 0 then .error .unusable
  else (d.follow [] (steps data) linkLimit).map fun place => Text.decodeLossy place.path

def listOf (d : Disk) (path : String) : Option (List Bytes) :=
  match d.atPath? path with
  | some (_, .dir entries _) => some (entries.map (·.1))
  | _ => none

/-- An open file: its number, and the position in it. -/
structure Handle where
  id : Nat
  position : Nat := 0
deriving DecidableEq, Repr

/-- Open a file to read it; there is nothing to open behind the name of a device that is absent. -/
def openRead (d : Disk) (path : String) : Option Handle :=
  match d.atPath? path with
  | some (_, .device .absent) | none => none
  | some (id, _) => some { id }

/-- Open a file to write into it. Only regular files and devices are written. -/
def openWrite (d : Disk) (path : String) : Option Handle :=
  match d.atPath? path with
  | some (_, .device .absent) => none
  | some (id, .file ..) | some (id, .device _) => some { id }
  | _ => none

/-- Devices do not mind the position. In a file it may not be past what a file can hold. -/
def seekTo (d : Disk) (file : Handle) (offset : Nat) : Option Handle :=
  match d.node? file.id with
  | some (.device _) => some file
  | some _ => if offset ≤ sizeLimit then some { file with position := offset } else none
  | none => none

def readFrom (d : Disk) (file : Handle) (count : Nat) : Option (Bytes × Handle) :=
  let read (data : Bytes) : Bytes × Handle := (data, { file with position := file.position + data.length })
  match d.node? file.id with
  | some (.file content _) => some (read (content.read file.position count))
  | some (.device kind) => some (read (kind.bytes count))
  | some (.dir ..) | none => none
  | some node => node.content?.map fun data => read ((data.drop file.position).take count)

/-- A file takes all bytes at once, or none. -/
def writeTo (d : Disk) (file : Handle) (data : Bytes) : Option (Nat × Handle) × Disk :=
  let behind : Handle := { file with position := file.position + data.length }
  match d.node? file.id with
  | some (.file ..) =>
    if sizeLimit < file.position + data.length then (none, d)
    else
      match d.alter file.id (·.write file.position data) with
      | some d => (some (data.length, behind), d)
      | none => (none, d)
  | some (.device .null) | some (.device .zero) | some (.device .random) => (some (data.length, behind), d)
  | _ => (none, d)

/-- Only regular files have a length that can be set. -/
def setLength (d : Disk) (file : Handle) (length : Nat) : Option Disk :=
  if length ≤ sizeLimit then d.alter file.id (·.resize length) else none

/-- The files of a disk as a system, on which programs start as `spawn` says. -/
def system (spawn : Disk → (program : String) → (args : List String) → (dir : String) → (passed : Nat) →
    (input : Bytes) → Option (Child × Disk)) : HostSystem Disk where
  File := Handle
  status := statusOf
  realPath := realPathOf
  list := listOf
  openRead := openRead
  openWrite := openWrite
  seek := seekTo
  read := readFrom
  write := writeTo
  setLength := setLength
  createFile d path := ((d.add [] (Text.bytes path) .emptyFile).map (·.2)).toOption
  createDir d path := ((d.add [] (Text.bytes path) .emptyDir).map (·.2)).toOption
  removeFile d path := (d.removeFile [] (Text.bytes path)).toOption
  removeDir d path := (d.removeDir [] (Text.bytes path)).toOption
  spawn := spawn

end Disk

end LineShell.Host
