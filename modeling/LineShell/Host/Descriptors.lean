import LineShell.Descriptor

/-!
# The descriptor table of the host kernel

The table gives each path that was used a number, and keeps it until the path is removed; the number of a removed path
goes to the next new one, the latest removed first.

- `Descriptors.intern` is the number of a path, a new one if it has none;
- `Descriptors.retire` forgets a path.
-/

namespace LineShell.Host

/-- Paths and their numbers. -/
structure Descriptors where
  /-- The path of each number, if it is in use. -/
  files : Array (Option String) := #[]
  /-- The number of each path. -/
  handles : List (String × Nat) := []
  /-- The numbers not in use, the next to be given out first. -/
  free : List Nat := []
deriving DecidableEq, Repr

namespace Descriptors

/-- The path with a number. -/
def path? (t : Descriptors) (id : Nat) : Option String :=
  (t.files[id]?).join

/-- The number of a path, and the table that knows it. -/
def intern (t : Descriptors) (path : String) : Nat × Descriptors :=
  match t.handles.lookup path with
  | some id => (id, t)
  | none =>
    match t.free with
    | id :: free => (id, ⟨t.files.setIfInBounds id (some path), (path, id) :: t.handles, free⟩)
    | [] => (t.files.size, ⟨t.files.push (some path), (path, t.files.size) :: t.handles, []⟩)

/-- Forget a path. -/
def retire (t : Descriptors) (path : String) : Descriptors :=
  match t.handles.lookup path with
  | some id =>
    ⟨t.files.setIfInBounds id none, t.handles.filter (·.1 != path), id :: t.free⟩
  | none => t

end Descriptors

end LineShell.Host
