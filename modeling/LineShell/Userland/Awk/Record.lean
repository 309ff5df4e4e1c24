import LineShell.Userland.Awk.Matching
import LineShell.Userland.Awk.Value

/-!
# Records and their fields

A record is a text and the fields that it is cut into. Text and fields follow each other: a new text is cut when a field
is asked for, and the text is put together again when it is asked for after a field was changed.

- `Separator.cut` cuts a text into fields;
- `Record.withFields` and `Record.withText` make one side follow the other.
-/

namespace LineShell.Host.Awk

/-- What separates fields. -/
inductive Separator
  /-- Any number of blanks, also around all fields. -/
  | blanks
  /-- Each byte is a field. -/
  | each
  | byte (b : UInt8)
  | fits (m : Matcher)

instance : Inhabited Separator := ⟨.blanks⟩

namespace Separator

/-- The separator that a text stands for. -/
def ofText (text : Bytes) : Except MatchFault Separator :=
  match text with
  | [] => .ok .each
  | [b] => .ok (if b = 32 then .blanks else .byte b)
  | _ => (Matching.read text).map .fits

/-- The words between blanks. -/
def words : (fuel : Nat) → Bytes → List Bytes
  | 0, _ => []
  | fuel + 1, text =>
    match text.dropWhile isSpace with
    | [] => []
    | bare =>
      let word := bare.takeWhile fun b => !isSpace b
      word :: words fuel (bare.drop word.length)

/-- The pieces between single bytes. -/
def pieces (b : UInt8) (piece : Bytes) : Bytes → List Bytes
  | [] => [piece.reverse]
  | c :: rest => if c = b then piece.reverse :: pieces b [] rest else pieces b (c :: piece) rest

/-- The fields of a text. An empty text has none. -/
def cut (s : Separator) (text : Bytes) : List Bytes :=
  if text.isEmpty then []
  else
    match s with
    | blanks => words (text.length + 1) text
    | each => text.map fun b => [b]
    | byte b => pieces b [] text
    | fits m => Matching.split m text

end Separator

/-- A record. -/
structure Record where
  text : Bytes := []
  fields : Array Value := #[]
  /-- Whether the fields are those of the text, and the text that of the fields. -/
  isCut : Bool := true
  isWhole : Bool := true

instance : Inhabited Record := ⟨{}⟩

namespace Record

def ofText (text : Bytes) : Record :=
  { text := text, isCut := false }

/-- A record of which the fields are known. -/
def withFields (r : Record) (separator : Separator) : Record :=
  if r.isCut then r
  else { r with fields := ((separator.cut r.text).map Value.given).toArray, isCut := true }

/-- A record of which the text is known; `between` stands between fields. -/
def withText (r : Record) (format between : Bytes) : Record :=
  if r.isWhole then r
  else
    let texts := r.fields.toList.map (·.toText format)
    { r with text := (texts.intersperse between).flatten, isWhole := true }

/-- A field, counted from one on. -/
def field (r : Record) (n : Nat) : Value :=
  if n = 0 then .given r.text else (r.fields[n - 1]?).getD (.text [])

/-- A record with so many fields. -/
def resized (r : Record) (count : Nat) : Record :=
  let fields := if count ≤ r.fields.size then r.fields.extract 0 count
    else r.fields ++ Array.replicate (count - r.fields.size) (Value.text [])
  { r with fields := fields, isWhole := false }

/-- A record with another field, counted from one on. -/
def withField (r : Record) (n : Nat) (value : Value) : Record :=
  let r := if r.fields.size < n then r.resized n else r
  { r with fields := r.fields.setIfInBounds (n - 1) value, isWhole := false }

end Record

end LineShell.Host.Awk
