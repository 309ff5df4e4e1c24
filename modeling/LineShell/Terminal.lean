import LineShell.Text

/-!
# The terminal

- `Script` is console input as it arrives: chunks of bytes and faults. One read takes from one chunk only
  (`Script.read`), and a fault fails one read; `Script.unread` bounds the reads that are left.
- `StdStream` is standard input as a process has it: a buffer filled in blocks, and behind it what the buffer has
  not taken yet, which is where a child process goes on reading.
- `Terminal` is standard input together with everything written on the console.
-/

namespace LineShell

/-! ## Scripted input -/

/-- One arrival on the console. -/
inductive Chunk
  | data (bytes : Bytes)
  /-- The read that meets it fails. -/
  | fault
deriving DecidableEq, Repr

/-- Console input, in order of arrival. -/
abbrev Script := List Chunk

namespace Script

/-- Read up to `count` bytes of the first chunk that has any; `none` is a failed read. Nothing is left of a chunk
that was read to its end. -/
def read (script : Script) (count : Nat) : Option Bytes × Script :=
  match script with
  | [] => (some [], [])
  | .fault :: rest => (none, rest)
  | .data bytes :: rest =>
    if bytes.isEmpty then read rest count
    else
      let left := bytes.drop count
      (some (bytes.take count), if left.isEmpty then rest else .data left :: rest)

/-- The bytes and faults that are left, counted. -/
def unread : Script → Nat
  | [] => 0
  | .data bytes :: rest => bytes.length + unread rest
  | .fault :: rest => 1 + unread rest

end Script

/-! ## Standard input -/

/-- Standard input: the bytes in the buffer, those behind it, and how many there were in all. -/
structure StdStream where
  buffered : Bytes := []
  behind : Bytes := []
  size : Nat := 0
deriving DecidableEq, Repr

namespace StdStream

/-- The size of the blocks in which the buffer is filled. -/
def blockSize : Nat := 8192

/-- How far the buffer was filled. -/
def passed (s : StdStream) : Nat :=
  s.size - s.behind.length

/-- All that is left. -/
def unread (s : StdStream) : Bytes :=
  s.buffered ++ s.behind

/-- An empty buffer filled with the next block. -/
def refill (s : StdStream) : StdStream :=
  if s.buffered.isEmpty then { s with buffered := s.behind.take blockSize, behind := s.behind.drop blockSize } else s

/-- Read up to `count` bytes. A read of a block or more goes past an empty buffer. -/
def read (s : StdStream) (count : Nat) : Bytes × StdStream :=
  if s.buffered.isEmpty && blockSize ≤ count then
    (s.behind.take count, { s with behind := s.behind.drop count })
  else
    let s := s.refill
    (s.buffered.take count, { s with buffered := s.buffered.drop count })

/-- Leave the first `count` bytes of all that is left, the buffer filled block by block. -/
def discard (s : StdStream) (count : Nat) : StdStream :=
  if count ≤ s.buffered.length then { s with buffered := s.buffered.drop count }
  else
    let inLastBlock := (count - s.buffered.length - 1) % blockSize + 1
    let before := count - s.buffered.length - inLastBlock
    let behind := s.behind.drop before
    { s with buffered := (behind.take blockSize).drop inLastBlock, behind := behind.drop blockSize }

/-- The next line with the newline that ends it; the last line may have none. Nothing is left at the end. A line that
ends in the buffer is taken from there. -/
def takeLine (s : StdStream) : Option (Bytes × StdStream) :=
  let text := s.buffered.takeWhile (· != newline)
  match s.buffered.drop text.length with
  | _ :: rest => some (text ++ [newline], { s with buffered := rest })
  | [] =>
    let text := s.unread.takeWhile (· != newline)
    let line := s.unread.take (text.length + 1)
    if line.isEmpty then none else some (line, s.discard line.length)

end StdStream

/-! ## Both directions -/

/-- Standard input, and what was written on the console, latest first. -/
structure Terminal where
  stdin : StdStream := {}
  written : List Bytes := []
deriving DecidableEq, Repr

namespace Terminal

/-- Everything written on the console, in order. -/
def output (t : Terminal) : Bytes :=
  t.written.reverse.flatten

/-- Write on the console. -/
def emit (t : Terminal) (data : Bytes) : Terminal :=
  { t with written := data :: t.written }

/-- A terminal whose standard input holds `input`. -/
def ofInput (input : Bytes) : Terminal :=
  { stdin := { behind := input, size := input.length } }

end Terminal

end LineShell
