import LineShell.Userland.Awk.Value

/-!
# Tables

A table lists values under keys. A key is asked for as a whole number or as a text; both are the same key if the text is
what the number is written as.

What is in a table is gone through in an order of its own: entries lie in slots by their text, and what was asked for
last comes first in its slot. An entry that was only asked for by number gets its text, and with it its place in a slot,
when the first text is asked for.

- `Table.find` looks up a key and may make an entry for it, `Table.erase` takes one out;
- `Table.keys` are the keys in order.
-/

namespace LineShell.Host.Awk

/-- A key, as it is asked for. -/
inductive Key
  | number (n : Int)
  | text (t : Bytes)
deriving DecidableEq, Repr

namespace Key

/-- The key that a value stands for. -/
def ofValue (format : Bytes) : Value → Key
  | .number x =>
    match wholeOf? x with
    | some n => if n.natAbs < 0x80000000 then .number n else .text (wholeText n)
    | none => .text (numberText format x)
  | value => .text (value.toText format)

/-- A key as a text. -/
def toText : Key → Bytes
  | number n => wholeText n
  | text t => t

end Key

/-- An entry of a table. -/
structure Entry where
  /-- The number that it was asked for by. -/
  index : Option Int := none
  /-- The text of its key, if it has one yet, and the mark of the text. -/
  key : Option Bytes := none
  mark : Nat := 0
  value : Value := .nothing

instance : Inhabited Entry := ⟨{}⟩

/-- A table. -/
structure Table where
  /-- Entries by number; those taken out are empty. -/
  entries : Array Entry := #[]
  /-- Numbers of entries by the number that they were asked for by, and by the mark of their text. -/
  byNumber : Array (List Nat) := #[]
  byText : Array (List Nat) := #[]
  hasTexts : Bool := false
  size : Nat := 0
  /-- Values under the numbers from one on, while there is nothing else. -/
  row : Array Value := #[]

instance : Inhabited Table := ⟨{}⟩

namespace Table

/-! ## Slots -/

/-- The slots that a table starts with, and how many entries it has for each before it gets more. -/
def firstSlots : Nat := 64

def slotLimit : Nat := 12

/-- The mark of a text, which tells its slot. -/
def markOf (t : Bytes) : Nat :=
  (t.foldl (fun (h : UInt32) b => (h ^^^ b.toUInt32) * 16777619) 2166136261).toNat

/-- The slot of a number. -/
def slotOfNumber (slots : Nat) (n : Int) : Nat :=
  (n % (slots : Int)).toNat

/-- How many slots a table has. -/
def slots (t : Table) : Nat :=
  t.byNumber.size

/-- Put an entry in front of a slot. -/
def pushFront (all : Array (List Nat)) (slot id : Nat) : Array (List Nat) :=
  all.modify slot (id :: ·)

/-- Take an entry out of a slot. -/
def dropFrom (all : Array (List Nat)) (slot id : Nat) : Array (List Nat) :=
  all.modify slot (·.erase id)

/-- Give each slot a second one, and move there what belongs there. -/
def split (all : Array (List Nat)) (slotOf : Nat → Nat) : Array (List Nat) :=
  let lower := all.mapIdx fun slot ids => ids.filter fun id => slotOf id = slot
  let upper := all.mapIdx fun slot ids => ids.filter fun id => slotOf id = slot + all.size
  lower ++ upper

/-- Get more slots if there are too many entries. -/
def grown (t : Table) : Table :=
  if t.size ≤ t.slots * slotLimit then t
  else
    let slots := 2 * t.slots
    let entry (id : Nat) : Entry := (t.entries[id]?).getD {}
    { t with
      byNumber := split t.byNumber fun id => slotOfNumber slots ((entry id).index.getD 0)
      byText := split t.byText fun id => (entry id).mark % slots }

/-- A table with its first slots. -/
def opened (t : Table) : Table :=
  if t.slots = 0 then
    { t with byNumber := Array.replicate firstSlots [], byText := Array.replicate firstSlots [] }
  else t

/-! ## Rows -/

/-- A table of values under the numbers from one on. -/
def ofRow (values : List Value) : Table :=
  { row := values.toArray, size := values.length }

/-- The slots for so many entries. -/
def slotsFor (size : Nat) : (fuel : Nat) → Nat → Nat
  | 0, slots => slots
  | fuel + 1, slots => if size ≤ slots * slotLimit then slots else slotsFor size fuel (2 * slots)

/-- A row as entries like any other. -/
def unrolled (t : Table) : Table :=
  if t.row.isEmpty then t
  else
    let slots := slotsFor t.size 40 firstSlots
    let entries : Array Entry := t.row.mapIdx fun n value => { index := some (n + 1), value := value }
    let byNumber := (List.range t.row.size).foldl (fun all n => pushFront all ((n + 1) % slots) n)
      (Array.replicate slots [])
    { t with entries := entries, byNumber := byNumber, byText := Array.replicate slots [], row := #[] }

/-! ## Looking up -/

/-- Give texts to all entries that were asked for by number. -/
def withTexts (t : Table) : Table :=
  if t.hasTexts then t
  else
    let ids := t.byNumber.toList.flatten
    { ids.foldl (fun (t : Table) id =>
        let e := (t.entries[id]?).getD {}
        match e.index, e.key with
        | some n, none =>
          let text := wholeText n
          let mark := markOf text
          let slot := mark % t.slots
          { t with
            entries := t.entries.modify id fun e => { e with key := some text, mark := mark }
            byText := pushFront t.byText slot id }
        | _, _ => t) t with hasTexts := true }

/-- Look up a text. The entry comes to the front of its slot; without one, it is made if `makes`. -/
def findText (t : Table) (makes : Bool) (text : Bytes) : Option Nat × Table :=
  let t := t.withTexts
  let mark := markOf text
  let slot := mark % t.slots
  let ids := (t.byText[slot]?).getD []
  match ids.find? fun id => ((t.entries[id]?).bind Entry.key) = some text with
  | some id =>
    (some id, if ids.head? = some id then t
      else { t with byText := t.byText.setIfInBounds slot (id :: ids.erase id) })
  | none =>
    if !makes then (none, t)
    else
      let id := t.entries.size
      let t := { t with entries := t.entries.push { key := some text, mark := mark }, size := t.size + 1 }.grown
      let slot := mark % t.slots
      (some id, { t with byText := pushFront t.byText slot id })

/-- Look up a number. -/
def findNumber (t : Table) (makes : Bool) (n : Int) : Option Nat × Table :=
  let slot := slotOfNumber t.slots n
  let ids := (t.byNumber[slot]?).getD []
  match ids.find? fun id => ((t.entries[id]?).bind Entry.index) = some n with
  | some id =>
    (some id, if ids.head? = some id then t
      else { t with byNumber := t.byNumber.setIfInBounds slot (id :: ids.erase id) })
  | none =>
    let (found, t) : Option Nat × Table :=
      if t.hasTexts then t.findText makes (wholeText n)
      else if makes then
        (some t.entries.size, { t with entries := t.entries.push {}, size := t.size + 1 }.grown)
      else (none, t)
    match found with
    | none => (none, t)
    | some id =>
      let slot := slotOfNumber t.slots n
      (some id, { t with
        entries := t.entries.modify id fun e => { e with index := some n }
        byNumber := pushFront t.byNumber slot id })

/-- Look up a key. -/
def find (t : Table) (makes : Bool) : Key → Option Nat × Table
  | .number n => t.findNumber makes n
  | .text text => t.findText makes text

/-- The value in a row under a key. -/
def inRow? (t : Table) : Key → Option Nat
  | .number n => if 1 ≤ n && n ≤ t.row.size then some (n.toNat - 1) else none
  | .text _ => none

/-- Whether there is an entry under a key. -/
def contains (t : Table) (key : Key) : Bool × Table :=
  if t.size = 0 then (false, t)
  else
    match t.inRow? key, key with
    | some _, _ => (true, t)
    | none, .number _ =>
      if !t.row.isEmpty then (false, t) else let (found, t) := t.opened.find false key; (found.isSome, t)
    | none, .text _ => let (found, t) := t.unrolled.opened.find false key; (found.isSome, t)

/-- The value under a key; an entry is made if there is none. -/
def get (t : Table) (key : Key) : Value × Table :=
  match t.inRow? key with
  | some n => ((t.row[n]?).getD .nothing, t)
  | none =>
    match t.unrolled.opened.find true key with
    | (some id, t) => (((t.entries[id]?).getD {}).value, t)
    | (none, t) => (.nothing, t)

/-- List a value under a key. -/
def insert (t : Table) (key : Key) (value : Value) : Table :=
  match t.inRow? key with
  | some n => { t with row := t.row.setIfInBounds n value }
  | none =>
    match t.unrolled.opened.find true key with
    | (some id, t) => { t with entries := t.entries.modify id fun e => { e with value := value } }
    | (none, t) => t

/-- Take out the entry under a key. -/
def erase (t : Table) (key : Key) : Table :=
  let isOutside := match key with
    | .number _ => !t.row.isEmpty && (t.inRow? key).isNone
    | .text _ => false
  if t.size = 0 || isOutside then t
  else
    match t.unrolled.opened.find false key with
    | (none, t) => t
    | (some id, t) =>
      if t.size = 1 then {}
      else
        let e := (t.entries[id]?).getD {}
        let byNumber := match e.index with
          | some n => dropFrom t.byNumber (slotOfNumber t.slots n) id
          | none => t.byNumber
        let byText := if e.key.isSome then dropFrom t.byText (e.mark % t.slots) id else t.byText
        { t with entries := t.entries.setIfInBounds id {}, byNumber := byNumber, byText := byText, size := t.size - 1 }

/-- The keys in order, and the table, in which all keys have texts now. -/
def keys (t : Table) : List Bytes × Table :=
  if t.size = 0 then ([], t)
  else
    let t := t.unrolled.opened.withTexts
    (t.byText.toList.flatten.filterMap fun id => (t.entries[id]?).bind Entry.key, t)

end Table

end LineShell.Host.Awk
