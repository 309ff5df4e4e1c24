import LineShell.Text

/-!
# Paths

A path is text; resolving it looks nothing up. `absolute` writes the path that a path means from a working
directory: it starts with a slash, has no empty, `.` or `..` component, and never climbs above the root.
`components` and `splitLast` take such a path apart again.
-/

namespace LineShell.Path

/-- The names between the slashes of a path, in order; empty pieces are no names. -/
def components (path : String) : List String :=
  ((path.toList.splitOn '/').filter (fun piece => !piece.isEmpty)).map String.ofList

/-- One component walked from the directory whose names are `stack`, innermost first: `.` stays, `..` goes up
(and stays at the root), any other name goes down. -/
def walk (stack : List String) (component : String) : List String :=
  if component = "." then stack
  else if component = ".." then stack.tail
  else component :: stack

/-- The path of the directory or file that is reached from the root through `names`. -/
def ofNames (names : List String) : String :=
  if names.isEmpty then "/" else String.join (names.map ("/" ++ ·))

/-- Whether a path starts at the root. -/
def isRooted (path : String) : Bool :=
  path.toList.head? == some '/'

/-- The names of the place that `path` means from the working directory `cwd`. -/
def resolve (cwd path : String) : List String :=
  let start := if isRooted path then [] else components cwd
  ((start ++ components path).foldl walk []).reverse

/-- The normal form of `path`, seen from the working directory `cwd`. -/
def absolute (cwd path : String) : String :=
  ofNames (resolve cwd path)

/-- The text up to the last slash and the text after it, if there is a slash. -/
def cutLast (path : String) : Option (String × String) :=
  let tail := path.toList.reverse.takeWhile (· != '/')
  match path.toList.reverse.dropWhile (· != '/') with
  | [] => none
  | _ :: before => some (String.ofList before.reverse, String.ofList tail.reverse)

/-- The parent of a path in normal form and its last name; the root has neither. -/
def splitLast (path : String) : Option (String × String) :=
  match cutLast path with
  | none => none
  | some (before, name) =>
    if name = "" then none else some (if before = "" then "/" else before, name)

end LineShell.Path
