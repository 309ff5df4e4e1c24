import LineShell.Userland.Letters

/-!
# Regular expressions

An expression describes texts of symbols. `Regex` is its structure, however it was written.
-/

namespace LineShell.Host

/-- One member of a set of symbols. -/
inductive SetMember
  | range (first last : Symbol)
  /-- A class by name, or all that is outside of it. -/
  | named (inside : Bool) (name : String)
deriving DecidableEq, Repr

def SetMember.holds (m : SetMember) (x : Symbol) : Bool :=
  match m with
  | range first last => first ≤ x && x ≤ last
  | named inside name => (if name = "word" then x.isWord else x.isIn name) = inside

/-- A set of symbols: its members, or all characters but these. -/
structure SymbolSet where
  negated : Bool := false
  members : List SetMember
deriving DecidableEq, Repr

namespace SymbolSet

def single (x : Symbol) : SymbolSet :=
  { members := [.range x x] }

/-- All characters, with the newline or without. -/
def all (newlineToo : Bool) : SymbolSet :=
  { negated := true, members := if newlineToo then [] else [.range 10 10] }

/-- Whether a set holds a symbol. A byte that is part of no character is only held if it is named. -/
def holds (set : SymbolSet) (x : Symbol) : Bool :=
  if x.isStray then !set.negated && set.members.any fun m => m.holds x && m = .range x x
  else set.members.any (·.holds x) != set.negated

/-- As `holds`, where the two cases of a letter are the same. -/
def holdsLoosely (set : SymbolSet) (x : Symbol) : Bool :=
  let any (x : Symbol) : Bool := set.members.any (·.holds x)
  if x.isStray then set.holds x else (any x || any x.lower || any x.upper) != set.negated

end SymbolSet

/-- A condition on a place in a text, which takes up no symbol. -/
inductive Edge
  | textStart
  | textEnd
  /-- The end, or the place before a newline at the end. -/
  | lastLineEnd
  | lineStart
  | lineEnd
  | wordEdge
  | noWordEdge
  | wordStart
  | wordEnd
  /-- What comes before is no part of a word. -/
  | afterOther
  /-- What comes next is no part of a word. -/
  | beforeOther
deriving DecidableEq, Repr

namespace Edge

/-- Whether the condition holds at a place of a text. -/
def holds (e : Edge) (text : Array Symbol) (place : Nat) : Bool :=
  let before := if place = 0 then none else text[place - 1]?
  let next := text[place]?
  let afterWord := before.any (·.isWord)
  let beforeWord := next.any (·.isWord)
  match e with
  | textStart => place = 0
  | textEnd => text.size ≤ place
  | lastLineEnd => text.size ≤ place || (place + 1 = text.size && next = some 10)
  | lineStart => place = 0 || before = some 10
  | lineEnd => text.size ≤ place || next = some 10
  | wordEdge => afterWord != beforeWord
  | noWordEdge => afterWord = beforeWord
  | wordStart => !afterWord && beforeWord
  | wordEnd => afterWord && !beforeWord
  | afterOther => !afterWord
  | beforeOther => !beforeWord

end Edge

/-- A regular expression. -/
inductive Regex
  | empty
  | one (set : SymbolSet)
  | both (first second : Regex)
  | either (first second : Regex)
  /-- At least `least` and at most `most` times; as often as possible if it is eager, else as rarely as possible. -/
  | repeated (eager : Bool) (body : Regex) (least : Nat) (most : Option Nat)
  | group (number : Nat) (body : Regex)
  /-- What a group fitted, once more. -/
  | again (number : Nat)
  | edge (e : Edge)
  /-- What comes next, or before, fits or does not fit. -/
  | look (ahead negated : Bool) (body : Regex)
  /-- What was fitted so far does not count. -/
  | restart
deriving DecidableEq, Repr

namespace Regex

def literal (x : Symbol) : Regex :=
  .one (.single x)

/-- One expression behind another; nothing is left out. -/
def andThen : Regex → Regex → Regex
  | .empty, second => second
  | first, .empty => first
  | first, second => .both first second

/-- The expression that fits a text and nothing else. -/
def ofText (text : List Symbol) : Regex :=
  text.foldr (fun x rest => (literal x).andThen rest) .empty

/-- Whether an expression refers back to what its groups fitted. -/
def refersBack : Regex → Bool
  | .again _ => true
  | .both a b | .either a b => a.refersBack || b.refersBack
  | .repeated _ body _ _ | .group _ body | .look _ _ body => body.refersBack
  | _ => false

/-- How deeply looking ahead or back is nested. -/
def lookDepth : Regex → Nat
  | .both a b | .either a b => max a.lookDepth b.lookDepth
  | .repeated _ body _ _ | .group _ body => body.lookDepth
  | .look _ _ body => body.lookDepth + 1
  | _ => 0

/-- How many symbols an expression takes, if that is the same wherever it fits. -/
def width? : Regex → Option Nat
  | .empty | .edge _ | .look .. | .restart => some 0
  | .one _ => some 1
  | .both a b => a.width?.bind fun n => b.width?.map (n + ·)
  | .either a b => a.width?.bind fun n => if b.width? = some n then some n else none
  | .repeated _ body least most => if most = some least then body.width?.map (· * least) else none
  | .group _ body => body.width?
  | .again _ => none

/-- Whether each branch of an expression takes the same number of symbols wherever it fits. -/
def hasFixedBranches : Regex → Bool
  | .either a b => a.hasFixedBranches && b.hasFixedBranches
  | .group _ body => body.hasFixedBranches
  | r => r.width?.isSome

/-- How many groups an expression has. -/
def groupCount : Regex → Nat
  | .both a b | .either a b => max a.groupCount b.groupCount
  | .repeated _ body _ _ | .look _ _ body => body.groupCount
  | .group number body => max number body.groupCount
  | _ => 0

end Regex

end LineShell.Host
