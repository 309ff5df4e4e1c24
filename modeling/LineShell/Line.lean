import LineShell.Prog

/-!
# Command lines and their words

A line and a word list live on the user heap: a line in one block, a word list in a block of slots and one block
for each word. `Words.ofLine` is the text side (`words` are the runs between spaces), `Words.hold` asks for the
blocks one after the other and gives everything back when one is refused.
-/

namespace LineShell

/-- One command line, without the newline that ended it, and the size of its block. -/
structure Line where
  text : String
  size : Nat
deriving DecidableEq, Repr

namespace Line

/-- A line that holds a copy of `text`, in a block of that size. -/
def copy (text : String) : Prog (Except AllocError Line) := do
  match ← Prog.allocate (.malloc (Text.size text)) with
  | .error e => return .error e
  | .ok () => return .ok ⟨text, Text.size text⟩

/-- Give the block of a line back. -/
def drop (line : Line) : Prog Unit :=
  Prog.free line.size

end Line

/-- The words of a command line: the runs between spaces. No other character separates words. -/
def words (line : String) : List String :=
  ((line.toList.splitOn ' ').filter (fun piece => !piece.isEmpty)).map String.ofList

/-- How many words a line has, counted without taking them out of the line. -/
def countWords (line : String) : Nat :=
  (line.toList.splitOn ' ').countP (fun piece => !piece.isEmpty)

/-- Words held on the heap, in order. -/
structure Words where
  toList : List String
deriving DecidableEq, Repr

namespace Words

/-- The size of the slot that each word has in the first block. -/
def slotSize : Nat := 40

/-- Give the block of each word back. -/
def dropEach : List String → Prog Unit
  | [] => return ()
  | word :: rest => do
    Prog.free (Text.size word)
    dropEach rest

/-- Ask for a block for each word, with the words of `held` in blocks already. When one is refused, give all of these
back. -/
def holdEach (held : List String) : List String → Prog (Except AllocError Unit)
  | [] => return .ok ()
  | word :: rest => do
    match ← Prog.allocate (.malloc (Text.size word)) with
    | .ok () => holdEach (word :: held) rest
    | .error e => do
      dropEach held
      return .error e

/-- Ask for the slots of `list`, then for each word. -/
def hold (list : List String) : Prog (Except AllocError Words) := do
  match ← Prog.allocate (.calloc list.length slotSize) with
  | .error e => return .error e
  | .ok () =>
    match ← holdEach [] list with
    | .ok () => return .ok ⟨list⟩
    | .error e => do
      Prog.free (list.length * slotSize)
      return .error e

/-- The words of a line, held on the heap. -/
def ofLine (line : String) : Prog (Except AllocError Words) :=
  hold (words line)

/-- Give all blocks back. -/
def drop (ws : Words) : Prog Unit := do
  dropEach ws.toList
  Prog.free (ws.toList.length * slotSize)

end Words

end LineShell
