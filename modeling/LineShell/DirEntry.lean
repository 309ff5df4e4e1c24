import LineShell.Text
import LineShell.Descriptor

/-!
# Directory entries

An entry holds a name in a field of eleven bytes, filled up with NUL; a name that takes the whole field has no
terminator. `DirEntry.ofName` cuts a longer name between two characters, and `DirEntry.name` reads the field up
to its first NUL.
-/

namespace LineShell

/-- The width of the name field, and so the most bytes that a file's name may take. -/
def fileNameWidth : Nat := 11

namespace Text

/-- Whether a place among the bytes of a text is at an end of it or between two characters. -/
def isBoundary (data : Bytes) (place : Nat) : Bool :=
  place = 0 || place = data.length || data[place]?.any fun b => !isContinuation b

/-- The last boundary up to a place. -/
def lastBoundary (data : Bytes) : (place : Nat) → Nat
  | 0 => 0
  | place + 1 => if isBoundary data (place + 1) then place + 1 else lastBoundary data place

end Text

/-- One entry of a directory listing. -/
structure DirEntry where
  /-- The name, filled up with NUL. -/
  field : Bytes
  /-- The handle of the file. -/
  id : Fd
deriving DecidableEq, Repr

namespace DirEntry

/-- Bytes filled up with NUL, or cut, to the width of the field. -/
def pad (data : Bytes) : Bytes :=
  (data ++ List.replicate (fileNameWidth - data.length) 0).take fileNameWidth

/-- The entry of the file `id` under the name `name`. The field holds the name up to the last boundary within its
width. -/
def ofName (name : String) (id : Fd) : DirEntry :=
  let data := Text.bytes name
  ⟨pad (data.take (Text.lastBoundary data (min data.length fileNameWidth))), id⟩

/-- The name in the field; a field that holds no text has none. -/
def name (entry : DirEntry) : String :=
  (Text.decode? (entry.field.takeWhile (· != 0))).getD ""

/-- The entry nothing has been written to. -/
def blank : DirEntry :=
  ⟨pad [], ⟨-1⟩⟩

end DirEntry

end LineShell
