import LineShell.Host.Disk

/-!
# What a running program sees

A process has descriptors, each of which stands for an open stream, and a working directory. Streams, files and the
signals under way are shared by all processes (`Commons`); descriptors and directory are a process's own (`Scene`).

- `Scene.unread` and `Scene.skip` are reading: what a descriptor still holds, and going past some of it;
- `Scene.write` is writing; `Scene.print` writes on standard output and remembers a failure.
-/

namespace LineShell.Host

/-- An open stream. -/
inductive Stream
  /-- Standard input of the session. -/
  | input
  /-- The console. -/
  | terminal
  /-- Takes what nobody is shown. -/
  | unseen
  /-- An open file, and how far it was read or written. -/
  | file (id offset : Nat) (reads writes append : Bool)
  /-- What one process wrote for another to read, and what was added to it later, latest first. -/
  | pipe (content : Bytes) (added : List Bytes)
deriving DecidableEq, Repr

/-- What all processes share. -/
structure Commons where
  disk : Disk
  /-- What is left of the standard input of the session. -/
  input : Bytes := []
  /-- How much of it was taken before. -/
  passed : Nat := 0
  /-- What was written on the console, latest first. -/
  printed : List Bytes := []
  streams : Array Stream := #[.input, .terminal, .unseen]
  /-- Signals sent and not received yet: to which process, and which. -/
  signals : List (Nat × Nat) := []
  lastPid : Nat := 4242
  /-- The time spent with waiting, in billionths of a second. -/
  clock : Nat := 0
  /-- When the processes at work are killed, and by which signal. -/
  deadline : Option (Nat × Nat) := none

/-- What one process sees. -/
structure Scene where
  commons : Commons
  /-- The streams behind the descriptors. -/
  descriptors : List (Nat × Nat) := [(0, 0), (1, 1), (2, 2)]
  dir : Place
  /-- The bits of a mode that new files do not get. -/
  mask : Nat := 0x12
  /-- The name under which the program at work complains. -/
  title : Bytes := []
  /-- Why something could not be written on standard output. -/
  spoiled : Option Fault := none

/-- How a file is to be opened. -/
inductive Mode
  | read
  | write
  | append
  | readWrite
deriving DecidableEq, Repr

namespace Scene

/-! ## Files -/

def disk (s : Scene) : Disk :=
  s.commons.disk

def withDisk (s : Scene) (d : Disk) : Scene :=
  { s with commons := { s.commons with disk := d } }

def find? (s : Scene) (path : Bytes) : Option Node :=
  s.disk.find? s.dir path

/-- A new file, with nothing in it. -/
def newFile (s : Scene) : Node :=
  .file {} (Node.unmasked 0x1b6 s.mask)

/-- A new directory, with nothing in it. -/
def newDir (s : Scene) : Node :=
  .dir [] (Node.unmasked 0x1ff s.mask)

/-- What a file holds that can be read to its end. -/
def contentOf? (s : Scene) (path : Bytes) : Option Bytes :=
  (s.find? path).bind Node.content?

/-! ## Streams -/

def stream? (s : Scene) (fd : Nat) : Option (Nat × Stream) :=
  (s.descriptors.lookup fd).bind fun number => (s.commons.streams[number]?).map fun stream => (number, stream)

def setStream (s : Scene) (number : Nat) (stream : Stream) : Scene :=
  { s with commons := { s.commons with streams := s.commons.streams.setIfInBounds number stream } }

/-- Open one more stream. -/
def addStream (s : Scene) (stream : Stream) : Nat × Scene :=
  (s.commons.streams.size, { s with commons := { s.commons with streams := s.commons.streams.push stream } })

/-- Let a descriptor stand for a stream, or for none. -/
def assign (s : Scene) (fd : Nat) : Option Nat → Scene
  | some number => { s with descriptors := (fd, number) :: s.descriptors.filter (·.1 != fd) }
  | none => { s with descriptors := s.descriptors.filter (·.1 != fd) }

/-- The descriptor that a path is another name of. -/
def namedDescriptor? (path : Bytes) : Option Nat :=
  let numbered (dir : String) : Option Nat :=
    let dir := Text.bytes dir
    match (path.drop dir.length).map fun b => Char.ofNat b.toNat with
    | [c] => if dir.isPrefixOf path && c.isDigit then some (c.toNat - '0'.toNat) else none
    | _ => none
  if path = Text.bytes "/dev/stdin" then some 0
  else if path = Text.bytes "/dev/stdout" then some 1
  else if path = Text.bytes "/dev/stderr" then some 2
  else (numbered "/dev/fd/").orElse fun _ => numbered "/proc/self/fd/"

/-- Open a file. For writing it is created if need be, and emptied. A file that is open already is read from its start
if it is opened by the name of its descriptor. -/
def openFile (s : Scene) (path : Bytes) (mode : Mode) : Except Fault (Nat × Scene) :=
  match namedDescriptor? path with
  | some fd =>
    match s.stream? fd with
    | none => .error .missing
    | some (number, stream) =>
      match stream, mode with
      | .file id _ reads writes append, .read => .ok (s.addStream (.file id 0 reads writes append))
      | .input, .read => .ok (s.addStream (.pipe s.commons.input []))
      | _, _ => .ok (number, s)
  | none =>
    match s.disk.locate s.dir path with
    | .ok place =>
      match s.disk.node? place.id, mode with
      | some (.dir ..), .read => .ok (s.addStream (.file place.id 0 false false false))
      | some (.dir ..), _ => .error .isDirectory
      | some (.device .absent), _ => .error .noDevice
      | some _, .read => .ok (s.addStream (.file place.id 0 true false false))
      | some _, .write =>
        let emptied := (s.disk.alter place.id fun _ => {}).getD s.disk
        .ok ((s.withDisk emptied).addStream (.file place.id 0 false true false))
      | some _, .append => .ok (s.addStream (.file place.id 0 false true true))
      | some _, .readWrite => .ok (s.addStream (.file place.id 0 true true false))
      | none, _ => .error .missing
    | .error fault =>
      if mode = .read || fault != .missing then .error fault
      else
        (s.disk.create s.dir path s.newFile Disk.linkLimit).map fun (id, d) =>
          (s.withDisk d).addStream (.file id 0 (mode = .readWrite) true (mode = .append))

/-- So much is read of what has no end where no limit is asked for. -/
def endless : Nat := 0x20000

/-- At most `limit` bytes of what a stream still holds, all of it if there is no limit. -/
def ahead (s : Scene) (stream : Stream) (limit : Option Nat) : Except Fault Bytes :=
  let upTo (data : Bytes) : Bytes := match limit with
    | some n => data.take n
    | none => data
  match stream with
  | .input => .ok (upTo s.commons.input)
  | .pipe content added => .ok (upTo (if added.isEmpty then content else content ++ added.reverse.flatten))
  | .file id offset reads _ _ =>
    match s.disk.node? id, reads with
    | some (.dir ..), _ => .error .isDirectory
    | some (.file content _), true => .ok (content.read offset (limit.getD (content.size - offset)))
    | some (.device .null), true => .ok []
    | some (.device kind), true => .ok (kind.bytes (limit.getD endless))
    | some (.fifo content _), true => .ok (upTo content)
    | some node, true => .ok (upTo ((node.content?.getD []).drop offset))
    | _, _ => .error .badDescriptor
  | .terminal | .unseen => .error .badDescriptor

/-- Go past the first `count` bytes of what a stream holds. -/
def advance (s : Scene) (number count : Nat) : Scene :=
  match s.commons.streams[number]? with
  | some .input =>
    { s with commons := { s.commons with
        input := s.commons.input.drop count
        passed := s.commons.passed + min count s.commons.input.length } }
  | some (.pipe content added) => s.setStream number (.pipe ((content ++ added.reverse.flatten).drop count) [])
  | some (.file id offset reads writes append) =>
    match s.disk.node? id with
    | some (.fifo content mode) => s.withDisk (s.disk.setNode id (.fifo (content.drop count) mode))
    | _ => s.setStream number (.file id (offset + count) reads writes append)
  | _ => s

/-- At most `limit` bytes of what a descriptor still holds, all of it if there is no limit. -/
def unread (s : Scene) (fd : Nat) (limit : Option Nat) : Except Fault Bytes :=
  match s.stream? fd with
  | some (_, stream) => s.ahead stream limit
  | none => .error .badDescriptor

/-- Go past the first `count` bytes of what a descriptor holds. -/
def skip (s : Scene) (fd count : Nat) : Scene :=
  match s.stream? fd with
  | some (number, _) => s.advance number count
  | none => s

/-- Whether one can go back in what a stream holds. -/
def canReturn (s : Scene) (stream : Stream) : Bool :=
  match stream with
  | .input => true
  | .file id .. => (s.disk.node? id).any fun
    | .file .. => true
    | _ => false
  | _ => false

/-- Whether one can go back in what a descriptor holds. -/
def isSeekable (s : Scene) (fd : Nat) : Bool :=
  (s.stream? fd).any fun (_, stream) => s.canReturn stream

/-- Go past what a program used of what it read in blocks. Where one cannot go back, whole blocks are gone. -/
def settle (s : Scene) (fd used block : Nat) : Scene :=
  s.skip fd (if s.isSeekable fd then used else (used + block - 1) / block * block)

/-- Take all that a descriptor still holds. -/
def readAll (s : Scene) (fd : Nat) : Except Fault (Bytes × Scene) :=
  (s.unread fd none).map fun data => (data, s.skip fd data.length)

/-- Take bytes through the next newline. -/
def readLine (s : Scene) (fd : Nat) : Except Fault (Bytes × Scene) :=
  (s.unread fd none).map fun data =>
    let line := data.take ((data.takeWhile (· != newline)).length + 1)
    (line, s.skip fd line.length)

/-- Write bytes into a stream, if that is possible. -/
def writeStream (s : Scene) (number : Nat) (data : Bytes) : Except Fault Scene :=
  match s.commons.streams[number]? with
  | some .terminal => .ok { s with commons := { s.commons with printed := data :: s.commons.printed } }
  | some .unseen => .ok s
  | some (.pipe content added) => .ok (if data.isEmpty then s else s.setStream number (.pipe content (data :: added)))
  | some (.file id offset reads true append) =>
    match s.disk.node? id with
    | some (.file content _) =>
      let start := if append then content.size else offset
      if data.isEmpty then .ok s
      else if Disk.sizeLimit < start + data.length then .error .tooLarge
      else
        match s.disk.alter id (·.write start data) with
        | some d => .ok ((s.withDisk d).setStream number (.file id (start + data.length) reads true append))
        | none => .error .badDescriptor
    | some (.fifo content mode) => .ok (s.withDisk (s.disk.setNode id (.fifo (content ++ data) mode)))
    | some (.device .full) => if data.isEmpty then .ok s else .error .noSpace
    | some (.device _) => .ok s
    | _ => .error .badDescriptor
  | _ => .error .badDescriptor

/-- Write bytes through a descriptor, if that is possible. -/
def write (s : Scene) (fd : Nat) (data : Bytes) : Except Fault Scene :=
  match s.descriptors.lookup fd with
  | some number => s.writeStream number data
  | none => .error .badDescriptor

/-- Write on standard output. -/
def print (s : Scene) (data : Bytes) : Scene :=
  if data.isEmpty then s
  else
    match s.write 1 data with
    | .ok s => s
    | .error fault => { s with spoiled := some (s.spoiled.getD fault) }

/-- Write a complaint, if there is anywhere to write it. -/
def complain (s : Scene) (text : Bytes) : Scene :=
  ((s.write 2 text).toOption).getD s

/-- Whether another program reads what is written on standard output. -/
def feedsPipe (s : Scene) : Bool :=
  (s.stream? 1).any fun
    | (_, .pipe ..) => true
    | _ => false

/-- All that was written on the console, in order. -/
def shown (s : Scene) : Bytes :=
  s.commons.printed.reverse.flatten

/-! ## Processes -/

/-- The signal that kills the processes at work, if their time is over. -/
def expired? (s : Scene) : Option Nat :=
  match s.commons.deadline with
  | some (time, signal) => if time ≤ s.commons.clock then some signal else none
  | none => none

/-- Wait for some time, or until the deadline. -/
def wait (s : Scene) (time : Nat) : Scene :=
  let clock := s.commons.clock + time
  let clock := match s.commons.deadline with
    | some (limit, _) => min clock (max limit s.commons.clock)
    | none => clock
  { s with commons := { s.commons with clock := clock } }

/-- Go on without end, which is until the deadline if there is one. -/
def exhaust (s : Scene) : Scene :=
  match s.commons.deadline with
  | some (limit, _) => { s with commons := { s.commons with clock := max limit s.commons.clock } }
  | none => s

/-- A number for a new process. -/
def newPid (s : Scene) : Nat × Scene :=
  let pid := s.commons.lastPid + 1
  (pid, { s with commons := { s.commons with lastPid := pid } })

/-- A process that goes on with what another one left, in a directory and with descriptors of its own. -/
def after (s : Scene) (other : Scene) : Scene :=
  { s with commons := other.commons }

end Scene

end LineShell.Host
