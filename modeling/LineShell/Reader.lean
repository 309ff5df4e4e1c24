import LineShell.Line
import LineShell.ReadError

/-!
# Reading lines from the console

A reader fetches the console in batches and keeps what follows a newline for the next call. The line under
construction sits in a block that starts with one byte and doubles when it is full. A line for which the heap has no
room is dropped up to its newline (`Reader.skip`, at the start of the next call), and the lines after it are kept.

`Reader.readLine` is cut off after `supply` batches that delivered something.
-/

namespace LineShell

/-! ## The line under construction -/

/-- The bytes so far, latest first, their number, and the size of the block they sit in. -/
structure Draft where
  reversed : Bytes := []
  length : Nat := 0
  size : Nat := 1
deriving DecidableEq, Repr

namespace Draft

def push (d : Draft) (b : UInt8) : Draft :=
  { d with reversed := b :: d.reversed, length := d.length + 1 }

/-- Double the block. -/
def grow (d : Draft) : Prog (Except AllocError Draft) := do
  if d.size * 2 < wordLimit then
    match ← Prog.allocate (.realloc d.size (d.size * 2)) with
    | .error e => return .error e
    | .ok () => return .ok { d with size := d.size * 2 }
  else return .error .outOfMemory

/-- Append bytes, growing as needed. Where there is no room for a byte, the bytes after it are left. -/
def extend (d : Draft) : Bytes → Prog (Draft × Option Bytes)
  | [] => return (d, none)
  | b :: rest =>
    if d.length < d.size then (d.push b).extend rest
    else do
      match ← d.grow with
      | .error _ => return (d, some rest)
      | .ok d => (d.push b).extend rest

/-- Give the block back. -/
def drop (d : Draft) : Prog Unit :=
  Prog.free d.size

/-- The line, which takes the block over; bytes that are no text are dropped. -/
def finish (d : Draft) : Prog (Except ReadError Line) := do
  match Text.decode? d.reversed.reverse with
  | some text => return .ok ⟨text, d.size⟩
  | none => do
    d.drop
    return .error .encoding

end Draft

/-! ## The reader -/

/-- A reader of the console. -/
structure Reader where
  /-- The size of a batch. -/
  chunk : Nat
  /-- The batch fetched last. -/
  batch : Bytes := []
  /-- The end of it that was not looked at yet. -/
  unread : Bytes := []
  /-- Whether the rest of a dropped line is still to come. -/
  skipping : Bool := false
deriving DecidableEq, Repr

namespace Reader

/-- No buffer has this many bytes: batches are smaller. A process whose reader asks for a batch as large breaks off at the
first `fetch`, and one whose reader asks for more than the machine has gives up there. -/
def bufferLimit : Nat := 0x8000000000000000

/-- A reader that fetches `chunk` bytes at a time, at least one. -/
def ofChunk (chunk : Nat) : Reader :=
  { chunk := max chunk 1 }

/-- The first `count` bytes of a buffer of `room` bytes that held `old` and then NUL, after `new` was written to its
start. -/
def overwritten (room : Nat) (old new : Bytes) (count : Nat) : Bytes :=
  let n := min count room
  let held := new ++ old.drop new.length
  (held ++ List.replicate (n - held.length) 0).take n

/-- Fetch the next batch into the buffer of the last one, which there is for a batch below `bufferLimit`. The answer is
how many bytes the kernel says it delivered; after a failure, and at the end, there is no batch. -/
def fetch (r : Reader) : Prog (Except SysError Nat × Reader) := do
  match ← Prog.read .stdin (UInt64.ofNat r.chunk) 0 with
  | .error e => return (.error e, { r with batch := [], unread := [] })
  | .ok (count, data) =>
    let batch := overwritten r.chunk r.batch data count
    return (.ok count, { r with batch := batch, unread := batch })

/-- Pass over the rest of a batch up to a newline; at its end the next one is fetched. There is no answer yet if the
dropped line goes on in that one. -/
def passOver (r : Reader) : Prog (Option (Except SysError Unit) × Reader) :=
  match r.unread.dropWhile (· != newline) with
  | _ :: rest => return (some (.ok ()), { r with unread := rest, skipping := false })
  | [] => do
    match ← { r with unread := [] }.fetch with
    | (.error e, r) => return (some (.error e), r)
    | (.ok 0, r) => return (some (.ok ()), { r with skipping := false })
    | (.ok (_ + 1), r) => return (none, r)

/-- Pass over the rest of a dropped line. -/
def skip (supply : Nat) (r : Reader) : Prog (Except SysError Unit × Reader) := do
  if !r.skipping then return (.ok (), r)
  else
    match ← r.passOver with
    | (some result, r) => return (result, r)
    | (none, r) =>
      match supply with
      | 0 => .stuck
      | supply + 1 => skip supply r

/-- What the rest of a batch does for a line: it ends the line, or the line goes on in the next batch. -/
inductive Progress
  | ended (result : Except ReadError Line) (r : Reader)
  | more (d : Draft) (r : Reader)

/-- What fetching the next batch does for a line. -/
def refill (r : Reader) (d : Draft) : Prog Progress := do
  match ← r.fetch with
  | (.error e, r) => do
    d.drop
    return .ended (.error (.io e)) r
  | (.ok 0, r) =>
    if d.length = 0 then do
      d.drop
      return .ended (.error .endOfInput) r
    else return .ended (← d.finish) r
  | (.ok (_ + 1), r) => return .more d r

/-- Take bytes up to a newline or the end of the batch; there the next one is fetched. -/
def advance (r : Reader) (d : Draft) : Prog Progress := do
  let after := r.unread.dropWhile (· != newline)
  match ← d.extend (r.unread.takeWhile (· != newline)) with
  | (d, some rest) => do
    d.drop
    return .ended (.error .alloc) { r with unread := rest ++ after, skipping := true }
  | (d, none) =>
    match after with
    | _ :: rest => return .ended (← d.finish) { r with unread := rest }
    | [] => refill { r with unread := [] } d

/-- Take bytes up to a newline or the end of the input. -/
def fill (supply : Nat) (r : Reader) (d : Draft) : Prog (Except ReadError Line × Reader) := do
  match ← r.advance d with
  | .ended result r => return (result, r)
  | .more d r =>
    match supply with
    | 0 => .stuck
    | supply + 1 => fill supply r d

/-- The next line. A prompt is written first, unless it is empty. -/
def readLine (supply : Nat) (r : Reader) (prompt : String) : Prog (Except ReadError Line × Reader) := do
  match ← Prog.printText prompt with
  | .error e => return (.error (.io e), r)
  | .ok () =>
    match ← r.skip supply with
    | (.error e, r) => return (.error (.io e), r)
    | (.ok (), r) =>
      match ← Prog.allocate (.malloc 1) with
      | .error _ => return (.error .alloc, r)
      | .ok () => r.fill supply {}

end Reader

end LineShell
