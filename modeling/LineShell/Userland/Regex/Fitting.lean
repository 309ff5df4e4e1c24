import LineShell.Userland.Regex.Expression

/-!
# Where expressions fit

All ways of fitting an expression are followed side by side, symbol by symbol. A way is the list of what is still to be
fitted, so there are only as many as the expression has parts; of two ways with the same to do, the one that came first
is kept. A repetition only goes round again after a round that took something.

- `Matcher.find` is the first place from which an expression fits: the longest fit there, or, if `longest` is not asked
  for, the one of the way that came first.
-/

namespace LineShell.Host

/-- What is still to be done on a way. -/
inductive Task
  | fit (r : Regex)
  | close (number : Nat)
  /-- Go round once more, if the round that ends here took something. -/
  | round (used eager : Bool) (body : Regex) (most : Option Nat)
  /-- The way goes through this place. -/
  | place (n : Nat)
deriving DecidableEq, Repr

/-- The task after a symbol was taken. -/
def Task.begun : Task → Task
  | .round _ eager body most => .round true eager body most
  | task => task

/-- The groups that are open, those that were fitted, latest first, and where what counts starts. -/
structure Marks where
  opened : List (Nat × Nat) := []
  closed : List (Nat × Nat × Nat) := []
  start : Option Nat := none
deriving DecidableEq, Repr

namespace Marks

def enter (m : Marks) (number place : Nat) : Marks :=
  { m with opened := (number, place) :: m.opened }

def leave (m : Marks) (number place : Nat) : Marks :=
  match m.opened.lookup number with
  | some start =>
    { m with
      opened := m.opened.eraseP (·.1 == number)
      closed := (number, start, place) :: m.closed.filter (·.1 != number) }
  | none => m

end Marks

/-- How far a way has come without taking another symbol: to its end, or to a symbol that has to be in a set. -/
inductive Arrival
  | done (marks : Marks)
  | needs (set : SymbolSet) (rest : List Task) (marks : Marks)
deriving DecidableEq, Repr

/-- A fit: from where to where, and what the groups fitted. -/
structure RegexMatch where
  start : Nat
  stop : Nat
  groups : List (Nat × Nat × Nat)
deriving DecidableEq, Repr

/-- An expression made ready for fitting. -/
structure Matcher where
  regex : Regex
  /-- The two cases of a letter are the same. -/
  loose : Bool := false
  longest : Bool := true
  refersBack : Bool := regex.refersBack
deriving DecidableEq, Repr

namespace Matcher

/-- The most steps a way goes without taking a symbol. -/
def stillLimit : Nat := 100000

/-- What looks ahead or back from a place: the marks if it fits. -/
abbrev Looker := Regex → Bool → Nat → Marks → Option Marks

/-- The symbols from one place to another. -/
def slice (text : Array Symbol) (start stop : Nat) : List Symbol :=
  (text.extract start stop).toList

/-- Go on with tasks from a place, without taking a symbol. -/
def expand (look : Looker) (text : Array Symbol) (place : Nat) : (fuel : Nat) → List Task → Marks → List Arrival
  | 0, _, _ => []
  | _, [], marks => [.done marks]
  | fuel + 1, task :: rest, marks =>
    match task with
    | .close number => expand look text place fuel rest (marks.leave number place)
    | .place n => if n = place then expand look text place fuel rest marks else []
    | .round used eager body most =>
      if used then expand look text place fuel (.fit (.repeated eager body 0 most) :: rest) marks else []
    | .fit r =>
      match r with
      | .empty => expand look text place fuel rest marks
      | .one set => [.needs set rest marks]
      | .both a b => expand look text place fuel (.fit a :: .fit b :: rest) marks
      | .either a b =>
        expand look text place fuel (.fit a :: rest) marks ++ expand look text place fuel (.fit b :: rest) marks
      | .group number body =>
        expand look text place fuel (.fit body :: .close number :: rest) (marks.enter number place)
      | .again number =>
        match marks.closed.lookup number with
        | some (start, stop) =>
          let again := (slice text start stop).map fun x => Task.fit (.literal x)
          expand look text place fuel (again ++ rest) marks
        | none => []
      | .edge e => if e.holds text place then expand look text place fuel rest marks else []
      | .repeated eager body least most =>
        match least with
        | least + 1 =>
          expand look text place fuel (.fit body :: .fit (.repeated eager body least (most.map (· - 1))) :: rest) marks
        | 0 =>
          let stop := expand look text place fuel rest marks
          if most = some 0 then stop
          else
            let round := Task.round false eager body (most.map (· - 1))
            let more := expand look text place fuel (.fit body :: round :: rest) marks
            if eager then more ++ stop else stop ++ more
      | .look ahead negated body =>
        match look body ahead place marks with
        | some found => if negated then [] else expand look text place fuel rest found
        | none => if negated then expand look text place fuel rest marks else []
      | .restart => expand look text place fuel rest { marks with start := some place }

/-- Whether two ways have the same to do; where it matters, what they fitted is looked at too. -/
def sameWay (refersBack : Bool) : Arrival → Arrival → Bool
  | .done _, .done _ => true
  | .needs set rest marks, .needs set' rest' marks' =>
    set == set' && rest == rest' && (!refersBack || marks == marks')
  | _, _ => false

/-- The ways without those that have the same to do as an earlier one. -/
def distinct (refersBack : Bool) (arrivals : List Arrival) : List Arrival :=
  match arrivals with
  | [] | [_] => arrivals
  | _ => (arrivals.foldl (fun kept a => if kept.any (sameWay refersBack a) then kept else a :: kept) []).reverse

/-- All ways that can take a symbol, after it. -/
def after (m : Matcher) (look : Looker) (text : Array Symbol) (place : Nat) (x : Symbol) (arrivals : List Arrival) :
    List Arrival :=
  distinct m.refersBack (arrivals.flatMap fun
    | .done _ => []
    | .needs set rest marks =>
      if if m.loose then set.holdsLoosely x else set.holds x then
        expand look text (place + 1) stillLimit (rest.map Task.begun) marks
      else [])

/-- Follow ways from a place to the end; `left` symbols are left. -/
def follow (m : Matcher) (look : Looker) (text : Array Symbol) (place : Nat) (best : Option (Nat × Marks)) :
    (left : Nat) → List Arrival → Option (Nat × Marks)
  | left, arrivals =>
    let isDone : Arrival → Bool
      | .done _ => true
      | _ => false
    let best := match arrivals.find? isDone with
      | some (.done marks) => some (place, marks)
      | _ => best
    let going := if m.longest then arrivals else arrivals.takeWhile fun a => !isDone a
    match left, text[place]? with
    | left + 1, some x =>
      match after m look text place x going with
      | [] => best
      | next => follow m look text (place + 1) best left next
    | _, _ => best

/-- Where a fit from a place ends. -/
def fitWith (m : Matcher) (look : Looker) (text : Array Symbol) (place : Nat) (tasks : List Task) (marks : Marks) :
    Option (Nat × Marks) :=
  match distinct m.refersBack (expand look text place stillLimit tasks marks) with
  | [] => none
  | arrivals => follow m look text place none (text.size - place) arrivals

/-- What looks ahead and back, nested up to a depth. -/
def looker (m : Matcher) (text : Array Symbol) : (depth : Nat) → Looker
  | 0 => fun _ _ _ _ => none
  | depth + 1 => fun body ahead place marks =>
    let first := { m with longest := false }
    if ahead then (fitWith first (looker m text depth) text place [.fit body] marks).map (·.2)
    else
      (List.range (place + 1)).reverse.findSome? fun start =>
        (fitWith first (looker m text depth) text start [.fit body, .place place] marks).map (·.2)

/-- The fit from a place, if there is one. -/
def fitAt (m : Matcher) (text : Array Symbol) (place : Nat) : Option RegexMatch :=
  (fitWith m (looker m text m.regex.lookDepth) text place [.fit m.regex] {}).map fun (stop, marks) =>
    { start := marks.start.getD place, stop := stop, groups := marks.closed }

/-- The first fit from one of the next `left` places on. -/
def findWithin (m : Matcher) (text : Array Symbol) : (left : Nat) → (place : Nat) → Option RegexMatch
  | 0, _ => none
  | left + 1, place =>
    match m.fitAt text place with
    | some found => some found
    | none => findWithin m text left (place + 1)

/-- The first fit in a text that does not start before a place. -/
def find (m : Matcher) (text : Array Symbol) (place : Nat) : Option RegexMatch :=
  findWithin m text (text.size + 1 - place) place

/-- Whether an expression fits somewhere in a text. -/
def occurs (m : Matcher) (text : Array Symbol) : Bool :=
  (m.find text 0).isSome

end Matcher

end LineShell.Host
