import LineShell.Content
import LineShell.Path
import LineShell.Request

/-!
# The file store in memory

Files and directories sit in a table of slots, found by number; slot `0` is the root. A directory lists the numbers
of its children in the order of their creation, every file knows its name and its parent, and a slot is never used
again after its file was removed.

- `Store.lookup` follows names from the root; `Store.append` and `Store.remove` change the tree, `Store.writeAt` and
  `Store.resize` what a file holds.
-/

namespace LineShell

namespace Sim

/-- A file holds bytes, a directory the numbers of its children. -/
inductive Data
  | file (content : Bytes)
  | dir (children : List Nat)
deriving DecidableEq, Repr

/-- A file or directory. -/
structure Inode where
  name : String
  /-- The number of the directory it is in. -/
  parent : Nat
  data : Data
deriving DecidableEq, Repr

/-- The table of files and directories. -/
structure Store where
  slots : Array (Option Inode)
deriving DecidableEq, Repr

namespace Store

/-- The number of the root. -/
def root : Nat := 0

/-- Nothing but an empty root. -/
def empty : Store :=
  ⟨#[some { name := "", parent := root, data := .dir [] }]⟩

/-- The file or directory with a number. -/
def get? (s : Store) (id : Nat) : Option Inode :=
  (s.slots[id]?).join

/-- What the directory with a number lists. -/
def children? (s : Store) (id : Nat) : Option (List Nat) :=
  match s.get? id with
  | some { data := .dir children, .. } => some children
  | _ => none

/-- What the file with a number holds. -/
def content? (s : Store) (id : Nat) : Option Bytes :=
  match s.get? id with
  | some { data := .file content, .. } => some content
  | _ => none

/-- The child with a name. -/
def child? (s : Store) (dir : Nat) (name : String) : Option Nat :=
  (s.children? dir).bind fun children =>
    children.find? fun child => (s.get? child).any (·.name == name)

/-- Follow names down from a directory. -/
def descend (s : Store) (dir : Nat) : List String → Option Nat
  | [] => some dir
  | name :: rest => (s.child? dir name).bind fun child => s.descend child rest

/-- The number of the file at a path in normal form. -/
def lookup (s : Store) (path : String) : Option Nat :=
  s.descend root (Path.components path)

/-- Change what a file or directory holds. -/
def setData (s : Store) (id : Nat) (data : Data) : Store :=
  match s.get? id with
  | some inode => ⟨s.slots.setIfInBounds id (some { inode with data := data })⟩
  | none => s

/-- The store with a new slot at the end, listed last in its parent. -/
def append (s : Store) (inode : Inode) : Store :=
  let grown : Store := ⟨s.slots.push (some inode)⟩
  match s.children? inode.parent with
  | some children => grown.setData inode.parent (.dir (children ++ [s.slots.size]))
  | none => grown

/-- Remove a file, or a directory that is empty and not the root. -/
def remove (s : Store) (id : Nat) : Option Store :=
  if id = root || (s.children? id).any (fun children => !children.isEmpty) then none
  else
    match s.get? id with
    | none => none
    | some inode =>
      let unlisted :=
        match s.children? inode.parent with
        | some children => s.setData inode.parent (.dir (children.filter (· != id)))
        | none => s
      some ⟨unlisted.slots.setIfInBounds id none⟩

/-- Write into a file. -/
def writeAt (s : Store) (id offset : Nat) (data : Bytes) : Option Store :=
  match s.content? id with
  | none => none
  | some content =>
    if offset + data.length < Content.lengthLimit then
      some (s.setData id (.file (Content.writeAt content offset data)))
    else none

/-- Cut a file, or fill it up with NUL, to a length. -/
def resize (s : Store) (id length : Nat) : Option Store :=
  match s.content? id with
  | none => none
  | some content => some (s.setData id (.file (Content.resize content length)))

/-- The size of a file or directory. -/
def stat? (s : Store) (id : Nat) : Option Stat :=
  (s.get? id).map fun inode =>
    match inode.data with
    | .file content => { size := content.length, directory := false }
    | .dir children => { size := children.length, directory := true }

/-- The entry at a place of a directory's list. -/
def entry? (s : Store) (dir offset : Nat) : Option DirEntry :=
  match s.children? dir with
  | none => none
  | some children =>
    match children[offset]? with
    | none => none
    | some child =>
      match s.get? child, Fd.ofFileId? child with
      | some inode, some fd => some (DirEntry.ofName inode.name fd)
      | _, _ => none

end Store

end Sim

end LineShell
