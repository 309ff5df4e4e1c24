import LineShell.Content

/-!
# Contents with holes

A file of the host may be far longer than what was written into it. `Sparse` keeps the writes; a byte that no write
reached is NUL.

- `Sparse.read` answers from the latest write that reached a byte, `Sparse.write` and `Sparse.resize` change it.
-/

namespace LineShell.Host

/-- A length, and what was written where, latest first. No write goes past the length. -/
structure Sparse where
  size : Nat := 0
  writes : List (Nat × Bytes) := []
deriving DecidableEq, Repr

namespace Sparse

/-- The bytes `window` of a content, the first of which is the byte `start`, after a write. -/
def overlay (start : Nat) (window : Bytes) (write : Nat × Bytes) : Bytes :=
  let seen := write.2.drop (start - write.1)
  let place := write.1 - start
  if seen.isEmpty || window.length ≤ place then window
  else
    let seen := seen.take (window.length - place)
    window.take place ++ seen ++ window.drop (place + seen.length)

/-- Up to `count` bytes from `offset` on. -/
def read (s : Sparse) (offset count : Nat) : Bytes :=
  let empty : Bytes := List.replicate (min count (s.size - offset)) 0
  s.writes.foldr (fun write window => overlay offset window write) empty

/-- All that is in it. -/
def content (s : Sparse) : Bytes :=
  s.read 0 s.size

def ofBytes (data : Bytes) : Sparse :=
  ⟨data.length, if data.isEmpty then [] else [(0, data)]⟩

/-- Write bytes at an offset; no bytes change nothing. A write that goes on where the latest one ended is joined to
it. -/
def write (s : Sparse) (offset : Nat) (data : Bytes) : Sparse :=
  if data.isEmpty then s
  else if offset = 0 && s.size ≤ data.length then ofBytes data
  else
    let size := max s.size (offset + data.length)
    match s.writes with
    | (start, latest) :: before =>
      if start + latest.length = offset then ⟨size, (start, latest ++ data) :: before⟩
      else ⟨size, (offset, data) :: s.writes⟩
    | [] => ⟨size, [(offset, data)]⟩

/-- Cut to a length, or fill up with NUL. -/
def resize (s : Sparse) (length : Nat) : Sparse :=
  ⟨length, (s.writes.map fun write => (write.1, write.2.take (length - write.1))).filter (!·.2.isEmpty)⟩

end Sparse

end LineShell.Host
