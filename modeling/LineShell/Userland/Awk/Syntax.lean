import LineShell.Userland.Awk.Matching
import LineShell.Userland.Awk.Value

/-!
# Programs that work on records

A program has rules, each with a pattern that says for which records it is, and functions. `Expr` are its expressions,
`Place` what can be assigned to, `Stmt` its statements.
-/

namespace LineShell.Host.Awk

/-- A variable: one of the whole program, or one of the function at work. -/
inductive Slot
  | whole (n : Nat)
  | local (n : Nat)
deriving DecidableEq, Repr

instance : Inhabited Slot := ⟨.whole 0⟩

/-- The functions that every program has. -/
inductive Builtin
  | length
  | substr
  | index
  | toupper
  | tolower
  | sprintf
  | int
  | sqrt
  | exp
  | log
  | sin
  | cos
  | atan2
  | rand
  | srand
  | system
  | close
  | fflush
  | strftime
  | mktime
  | systime
deriving DecidableEq, Repr

namespace Builtin

/-- All of them by name, with the least and the most arguments. -/
def all : List (String × Builtin × Nat × Nat) :=
  [("length", length, 0, 1), ("substr", substr, 2, 3), ("index", index, 2, 2), ("toupper", toupper, 1, 1),
    ("tolower", tolower, 1, 1), ("sprintf", sprintf, 1, 255), ("int", int, 1, 1), ("sqrt", sqrt, 1, 1),
    ("exp", exp, 1, 1), ("log", log, 1, 1), ("sin", sin, 1, 1), ("cos", cos, 1, 1), ("atan2", atan2, 2, 2),
    ("rand", rand, 0, 0), ("srand", srand, 0, 1), ("system", system, 1, 1), ("close", close, 1, 1),
    ("fflush", fflush, 0, 1), ("strftime", strftime, 0, 3), ("mktime", mktime, 1, 1), ("systime", systime, 0, 0)]

end Builtin

mutual

/-- An expression. -/
inductive Expr
  | number (x : Float)
  | text (t : Bytes)
  /-- What texts are matched against; alone, it is matched against the record. -/
  | regex (m : Matcher)
  | get (p : Place)
  | assign (p : Place) (e : Expr)
  | update (o : Operation) (p : Place) (e : Expr)
  /-- One more or one less; the value is the new one if that comes first. -/
  | count (first up : Bool) (p : Place)
  | operate (o : Operation) (a b : Expr)
  | concat (a b : Expr)
  | compare (c : Comparison) (a b : Expr)
  | matches_ (negated : Bool) (a b : Expr)
  | both (a b : Expr)
  | either (a b : Expr)
  | not (e : Expr)
  | negate (e : Expr)
  | plus (e : Expr)
  | choose (c a b : Expr)
  | isIn (subscripts : List Expr) (table : Slot)
  | call (function : Nat) (args : List Expr)
  | builtin (b : Builtin) (args : List Expr)
  | split (e : Expr) (table : Slot) (separator : Option Expr)
  | locate (e pattern : Expr)
  | substitute (everywhere : Bool) (pattern by_ : Expr) (p : Place)
  /-- Reading a line of the input, of a file, or of what a command prints. -/
  | readNext (into : Option Place)
  | readFile (into : Option Place) (path : Expr)
  | readCommand (into : Option Place) (command : Expr)

/-- What can be assigned to. -/
inductive Place
  | named (s : Slot)
  | element (table : Slot) (subscripts : List Expr)
  | field (e : Expr)

end

instance : Inhabited Expr := ⟨.number 0⟩

/-- Where something is written. -/
inductive Output
  | standard
  | file (appends : Bool) (path : Expr)
  | command (e : Expr)

/-- A statement. -/
inductive Stmt
  | nothing
  | sequence (first rest : Stmt)
  | evaluate (e : Expr)
  | print (args : List Expr) (into : Output)
  | printf (args : List Expr) (into : Output)
  | ifElse (c : Expr) (yes no : Stmt)
  /-- A loop; what comes between rounds, and whether the first round is not asked for. -/
  | loop (c : Expr) (step body : Stmt) (first : Bool)
  | forEach (p : Place) (table : Slot) (body : Stmt)
  | next
  | nextFile
  | exit (e : Option Expr)
  | giveBack (e : Option Expr)
  | leave
  | again
  | delete (table : Slot) (subscripts : List Expr)
  | clear (table : Slot)

instance : Inhabited Stmt := ⟨.nothing⟩

/-- The records that a rule is for. -/
inductive Pattern
  | all
  | where_ (e : Expr)
  /-- From one record to another, both of them as well; each such pattern has a number. -/
  | range (first last : Expr) (number : Nat)

/-- A function: how many variables it has, all of which may be given, which of them are tables, and what it does. -/
structure Function where
  params : Nat := 0
  tables : List Nat := []
  body : Stmt := .nothing

instance : Inhabited Function := ⟨{}⟩

/-- A program. -/
structure Program where
  starts : List Stmt := []
  rules : List (Pattern × Stmt) := []
  ends : List Stmt := []
  functions : Array Function := #[]
  /-- The variables of the whole program, and the numbers of those that are tables. -/
  names : List Bytes := []
  tables : List Nat := []

namespace Special

/-- The variables that have a meaning of their own, in the order of their numbers. -/
def names : List String :=
  ["NF", "NR", "FNR", "FS", "RS", "OFS", "ORS", "SUBSEP", "CONVFMT", "OFMT", "FILENAME", "RSTART", "RLENGTH", "ARGC",
    "ARGV", "ENVIRON"]

def fieldCount : Nat := 0
def recordNumber : Nat := 1
def fileRecordNumber : Nat := 2
def fieldSeparator : Nat := 3
def recordSeparator : Nat := 4
def outputFieldSeparator : Nat := 5
def outputRecordSeparator : Nat := 6
def subscriptSeparator : Nat := 7
def numberFormat : Nat := 8
def outputFormat : Nat := 9
def fileName : Nat := 10
def matchStart : Nat := 11
def matchLength : Nat := 12
def argumentCount : Nat := 13
def arguments : Nat := 14
def environment : Nat := 15

end Special

end LineShell.Host.Awk
