/-!
# The user heap

A heap is its accounts: the bytes handed out, the number of blocks alive, and perhaps a limit. Sizes are 64-bit
words: no request may bring the use to `2 ^ 64` bytes.

- `charge` hands out bytes or refuses; `malloc`, `calloc` and `realloc` refuse exactly when a charge does, and
  then nothing has changed;
- `free` and a shrinking `realloc` give bytes back and never fail, also above a lowered limit.
-/

namespace LineShell

/-- Sizes and counts are below this, the number of 64-bit words. -/
def wordLimit : Nat := 0x10000000000000000

/-- A request was refused for lack of memory. -/
inductive AllocError
  | outOfMemory
deriving DecidableEq, Repr

/-- What is said of a refused request. -/
def AllocError.message : AllocError → String
  | .outOfMemory => "memory allocation failed"

/-- The accounts of the user heap. -/
structure Heap where
  /-- The most bytes that may be handed out at once, if there is a bound. -/
  limit : Option Nat := none
  /-- Bytes handed out. -/
  inUse : Nat := 0
  /-- Blocks not yet freed. -/
  blocks : Nat := 0
deriving DecidableEq, Repr

namespace Heap

/-- Whether `total` bytes may be handed out at once. -/
def admits (heap : Heap) (total : Nat) : Bool :=
  total < wordLimit && heap.limit.all (total ≤ ·)

/-- Hand out `size` more bytes. -/
def charge (heap : Heap) (size : Nat) : Option Heap :=
  if heap.admits (heap.inUse + size) then some { heap with inUse := heap.inUse + size } else none

/-- Take back `size` bytes. -/
def release (heap : Heap) (size : Nat) : Heap :=
  { heap with inUse := heap.inUse - size }

/-- A new block of `size` bytes. -/
def malloc (heap : Heap) (size : Nat) : Option Heap :=
  (heap.charge size).map fun h => { h with blocks := h.blocks + 1 }

/-- A new block for `count` items of `size` bytes each; the product is a word too. -/
def calloc (heap : Heap) (count size : Nat) : Option Heap :=
  if count * size < wordLimit then heap.malloc (count * size) else none

/-- Resize a block from `old` to `new` bytes. Only growing can fail. -/
def realloc (heap : Heap) (old new : Nat) : Option Heap :=
  if old < new then heap.charge (new - old) else some (heap.release (old - new))

/-- The block of `size` bytes is gone. -/
def free (heap : Heap) (size : Nat) : Heap :=
  { heap.release size with blocks := heap.blocks - 1 }

end Heap

/-- What a user program asks of its heap. -/
inductive HeapRequest
  | malloc (size : Nat)
  | calloc (count size : Nat)
  | realloc (old new : Nat)
  | free (size : Nat)
deriving DecidableEq, Repr

/-- Serve a request. The answer says whether it was granted; a refused request changes nothing. -/
def Heap.serve (heap : Heap) : HeapRequest → Bool × Heap
  | .malloc size => answer heap (heap.malloc size)
  | .calloc count size => answer heap (heap.calloc count size)
  | .realloc old new => answer heap (heap.realloc old new)
  | .free size => (true, heap.free size)
where
  /-- The changed heap if the request was granted, the old one if not. -/
  answer (old : Heap) : Option Heap → Bool × Heap
    | some new => (true, new)
    | none => (false, old)

end LineShell
