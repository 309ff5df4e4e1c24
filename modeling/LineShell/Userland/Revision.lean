import LineShell.Userland.Utility.Options

/-!
# What differs between two texts

Two lists of lines are compared: `Revision.marks` tells which lines of each are not part of what they have in common,
`Revision.changes` the places where one has to be changed into the other.

The search goes from both ends of the lists towards the middle and divides the lists where the two searches meet
(`Meeting.middle`), so that what is in common is as long as it can be. Where lines repeat, a run of changed lines is
moved as far down as it can go (`Slide`).
-/

namespace LineShell.Host

namespace Revision

/-! ## Dividing two lists -/

/-- Two lists of numbers; equal numbers are equal lines. -/
structure Pair where
  left : Array Nat
  right : Array Nat

namespace Pair

/-- Whether a line of the first list equals one of the second. -/
def same (p : Pair) (x y : Int) : Bool :=
  match p.left[x.toNat]?, p.right[y.toNat]? with
  | some a, some b => 0 ≤ x && 0 ≤ y && a = b
  | _, _ => false

/-- How far equal lines go from a place on, down to an end. `fuel` is more than their number. -/
def down (p : Pair) (xEnd yEnd : Int) : (fuel : Nat) → Int → Int → Int
  | 0, x, _ => x
  | fuel + 1, x, y => if x < xEnd && y < yEnd && p.same x y then down p xEnd yEnd fuel (x + 1) (y + 1) else x

/-- How far equal lines go in front of a place, up to a start. `fuel` is more than their number. -/
def up (p : Pair) (xStart yStart : Int) : (fuel : Nat) → Int → Int → Int
  | 0, x, _ => x
  | fuel + 1, x, y =>
    if xStart < x && yStart < y && p.same (x - 1) (y - 1) then up p xStart yStart fuel (x - 1) (y - 1) else x

end Pair

/-- A part of both lists. -/
structure Window where
  xStart : Int
  xEnd : Int
  yStart : Int
  yEnd : Int

/-- The two searches: how far each came on each diagonal, and the diagonals it is on. -/
structure Meeting where
  /-- Added to a diagonal to find its place. -/
  shift : Int
  forward : Array Int
  backward : Array Int
  forwardLow : Int
  forwardHigh : Int
  backwardLow : Int
  backwardHigh : Int

namespace Meeting

def get (m : Meeting) (reached : Array Int) (d : Int) : Int :=
  (reached[(d + m.shift).toNat]?).getD 0

def set (m : Meeting) (reached : Array Int) (d x : Int) : Array Int :=
  reached.setIfInBounds (d + m.shift).toNat x

/-- Go one step on along the diagonals from `d` downwards; the place where the searches meet, if they do. -/
def forwardStep (p : Pair) (w : Window) (odd : Bool) : (fuel : Nat) → Int → Meeting → Meeting × Option (Int × Int)
  | 0, _, m => (m, none)
  | fuel + 1, d, m =>
    if d < m.forwardLow then (m, none)
    else
      let low := m.get m.forward (d - 1)
      let high := m.get m.forward (d + 1)
      let start := if low < high then high else low + 1
      let x := p.down w.xEnd w.yEnd (p.left.size + 1) start (start - d)
      let m := { m with forward := m.set m.forward d x }
      if odd && m.backwardLow ≤ d && d ≤ m.backwardHigh && m.get m.backward d ≤ x then (m, some (x, x - d))
      else forwardStep p w odd fuel (d - 2) m

/-- As `forwardStep`, from the ends of the lists. -/
def backwardStep (p : Pair) (w : Window) (odd : Bool) : (fuel : Nat) → Int → Meeting → Meeting × Option (Int × Int)
  | 0, _, m => (m, none)
  | fuel + 1, d, m =>
    if d < m.backwardLow then (m, none)
    else
      let low := m.get m.backward (d - 1)
      let high := m.get m.backward (d + 1)
      let start := if low < high then low else high - 1
      let x := p.up w.xStart w.yStart (p.left.size + 1) start (start - d)
      let m := { m with backward := m.set m.backward d x }
      if !odd && m.forwardLow ≤ d && d ≤ m.forwardHigh && x ≤ m.get m.forward d then (m, some (x, x - d))
      else backwardStep p w odd fuel (d - 2) m

/-- Widen the diagonals of the search from the starts, or narrow them at the edges. -/
def widenForward (m : Meeting) (least most : Int) : Meeting :=
  let m := if least < m.forwardLow then
      { m with forwardLow := m.forwardLow - 1, forward := m.set m.forward (m.forwardLow - 2) (-1) }
    else { m with forwardLow := m.forwardLow + 1 }
  if m.forwardHigh < most then
    { m with forwardHigh := m.forwardHigh + 1, forward := m.set m.forward (m.forwardHigh + 2) (-1) }
  else { m with forwardHigh := m.forwardHigh - 1 }

/-- Widen the diagonals of the search from the ends, or narrow them at the edges. -/
def widenBackward (m : Meeting) (least most far : Int) : Meeting :=
  let m := if least < m.backwardLow then
      { m with backwardLow := m.backwardLow - 1, backward := m.set m.backward (m.backwardLow - 2) far }
    else { m with backwardLow := m.backwardLow + 1 }
  if m.backwardHigh < most then
    { m with backwardHigh := m.backwardHigh + 1, backward := m.set m.backward (m.backwardHigh + 2) far }
  else { m with backwardHigh := m.backwardHigh - 1 }

/-- Search until the searches meet. `fuel` is more than the number of differences. -/
def search (p : Pair) (w : Window) (odd : Bool) : (fuel : Nat) → Meeting → Option (Int × Int)
  | 0, _ => none
  | fuel + 1, m =>
    let least := w.xStart - w.yEnd
    let most := w.xEnd - w.yStart
    let m := m.widenForward least most
    let span := (most - least).toNat + 2
    match forwardStep p w odd span m.forwardHigh m with
    | (_, some place) => some place
    | (m, none) =>
      let m := m.widenBackward least most 0x7fffffffffffffff
      match backwardStep p w odd span m.backwardHigh m with
      | (_, some place) => some place
      | (m, none) => search p w odd fuel m

/-- A place where what a window has in common can be divided. -/
def middle (p : Pair) (w : Window) : Option (Int × Int) :=
  let size := p.left.size + p.right.size + 4
  let shift : Int := p.right.size + 2
  let first := w.xStart - w.yStart
  let last := w.xEnd - w.yEnd
  let empty : Array Int := Array.replicate size 0
  let m : Meeting :=
    { shift := shift, forward := empty.setIfInBounds (first + shift).toNat w.xStart
      backward := empty.setIfInBounds (last + shift).toNat w.xEnd, forwardLow := first, forwardHigh := first
      backwardLow := last, backwardHigh := last }
  search p w ((first - last) % 2 != 0) size m

end Meeting

/-! ## Marks -/

/-- Which lines of each list are changed. -/
structure Marks where
  left : Array Bool
  right : Array Bool
deriving DecidableEq, Repr

namespace Marks

def markLeft (m : Marks) (from_ upTo : Int) : Marks :=
  { m with left := (List.range (upTo - from_).toNat).foldl (fun a n => a.setIfInBounds (from_.toNat + n) true) m.left }

def markRight (m : Marks) (from_ upTo : Int) : Marks :=
  { m with
    right := (List.range (upTo - from_).toNat).foldl (fun a n => a.setIfInBounds (from_.toNat + n) true) m.right }

end Marks

/-- Mark what is changed within a window. `fuel` is more than the number of lines. -/
def markWithin (p : Pair) : (fuel : Nat) → Window → Marks → Marks
  | 0, _, marks => marks
  | fuel + 1, w, marks =>
    let size := p.left.size + 1
    let xStart := p.down w.xEnd w.yEnd size w.xStart w.yStart
    let yStart := w.yStart + (xStart - w.xStart)
    let xEnd := p.up xStart yStart size w.xEnd w.yEnd
    let yEnd := w.yEnd - (w.xEnd - xEnd)
    if xStart = xEnd then marks.markRight yStart yEnd
    else if yStart = yEnd then marks.markLeft xStart xEnd
    else
      let w : Window := ⟨xStart, xEnd, yStart, yEnd⟩
      match Meeting.middle p w with
      | none => (marks.markLeft xStart xEnd).markRight yStart yEnd
      | some (x, y) =>
        let marks := markWithin p fuel { w with xEnd := x, yEnd := y } marks
        markWithin p fuel { w with xStart := x, yStart := y } marks

/-- The lines of a list that the other one has as well, each with its place. -/
def shared (lines others : Array Nat) : List (Nat × Nat) :=
  let most := (lines.foldl max 0) + 1
  let known := others.foldl (fun (a : Array Bool) n => a.setIfInBounds n true) (Array.replicate most false)
  lines.toList.zipIdx.filter fun (n, _) => (known[n]?).getD false

/-- Mark what is changed; lines that the other list does not have are changed in any case. -/
def rough (left right : Array Nat) : Marks :=
  let lefts := shared left right
  let rights := shared right left
  let p : Pair := ⟨(lefts.map (·.1)).toArray, (rights.map (·.1)).toArray⟩
  let inner := markWithin p (p.left.size + p.right.size + 1) ⟨0, p.left.size, 0, p.right.size⟩
    ⟨Array.replicate p.left.size false, Array.replicate p.right.size false⟩
  let spread (size : Nat) (kept : List (Nat × Nat)) (flags : Array Bool) : Array Bool :=
    (kept.map (·.2)).zipIdx.foldl (fun (a : Array Bool) (place, n) => a.setIfInBounds place ((flags[n]?).getD false))
      (Array.replicate size true)
  ⟨spread left.size lefts inner.left, spread right.size rights inner.right⟩

/-! ## Moving runs of changes -/

/-- Where moving the runs of changes of one list stands: its lines, which of them are changed and which of the other
list are, the run at work, and the place in the other list. -/
structure Slide where
  lines : Array Nat
  changed : Array Bool
  other : Array Bool
  start : Nat := 0
  stop : Nat := 0
  place : Int := 0

namespace Slide

def isChanged (s : Slide) (n : Nat) : Bool :=
  (s.changed[n]?).getD false

def isOther (s : Slide) (n : Int) : Bool :=
  0 ≤ n && (s.other[n.toNat]?).getD false

/-- Go past the changed lines of the other list, and one that is not. -/
def passOther (s : Slide) : (fuel : Nat) → Int → Int
  | 0, n => n
  | fuel + 1, n => if s.isOther n then passOther s fuel (n + 1) else n + 1

/-- The start of the changed lines in front of a line. -/
def runStart (s : Slide) : Nat → Nat
  | 0 => 0
  | n + 1 => if s.isChanged n then runStart s n else n + 1

/-- The end of the changed lines from a line on. -/
def runEnd (s : Slide) : (fuel : Nat) → Nat → Nat
  | 0, n => n
  | fuel + 1, n => if s.isChanged n then runEnd s fuel (n + 1) else n

/-- Go back in the other list to a line that is not changed. -/
def backOther (s : Slide) : (fuel : Nat) → Int → Int
  | 0, n => n
  | fuel + 1, n => if s.isOther (n - 1) then backOther s fuel (n - 1) else n - 1

/-- Move the run one line up. -/
def lift (s : Slide) : Slide :=
  let changed := (s.changed.setIfInBounds (s.start - 1) true).setIfInBounds (s.stop - 1) false
  { s with changed := changed, start := s.start - 1, stop := s.stop - 1, place := s.backOther s.other.size s.place }

/-- Move the run up as long as the line in front of it equals its last one. `fuel` is more than the number of lines. -/
def rise : (fuel : Nat) → Slide → Slide
  | 0, s => s
  | fuel + 1, s =>
    if 0 < s.start && s.lines[s.start - 1]? = s.lines[s.stop - 1]? then
      let s := s.lift
      rise fuel { s with start := s.runStart s.start }
    else s

/-- Move the run down as long as its first line equals the one behind it; the end of the run at the last place that
corresponds to changes in the other list. `fuel` is more than the number of lines. -/
def sink : (fuel : Nat) → Slide → (corresponding : Option Nat) → Slide × Option Nat
  | 0, s, corresponding => (s, corresponding)
  | fuel + 1, s, corresponding =>
    if s.stop < s.lines.size && s.lines[s.start]? = s.lines[s.stop]? then
      let changed := (s.changed.setIfInBounds s.start false).setIfInBounds s.stop true
      let s := { s with changed := changed, start := s.start + 1, stop := s.stop + 1 }
      let s := { s with stop := s.runEnd s.lines.size s.stop }
      let place : Int := s.place + 1
      let corresponding := if s.isOther place then some s.stop else corresponding
      let after : Int := s.passOther (s.other.size + 1) place - 1
      sink fuel { s with place := after } corresponding
    else (s, corresponding)

/-- Move the run until it does not grow any more. `fuel` is more than the number of lines. -/
def settle : (fuel : Nat) → Slide → Slide × Option Nat
  | 0, s => (s, none)
  | fuel + 1, s =>
    let size := s.stop - s.start
    let s := rise (s.lines.size + 1) s
    let corresponding := if s.isOther (s.place - 1) then some s.stop else none
    let (s, corresponding) := sink (s.lines.size + 1) s corresponding
    if s.stop - s.start = size then (s, corresponding) else settle fuel s

/-- Move the run up to an end. `fuel` is more than the number of lines. -/
def liftTo (stop : Nat) : (fuel : Nat) → Slide → Slide
  | 0, s => s
  | fuel + 1, s => if stop < s.stop then liftTo stop fuel s.lift else s

/-- Move all runs from `stop` on. `fuel` is more than the number of lines. -/
def all : (fuel : Nat) → Slide → Slide
  | 0, s => s
  | fuel + 1, s =>
    if s.lines.size ≤ s.stop then s
    else if !s.isChanged s.stop then
      all fuel { s with stop := s.stop + 1, place := s.passOther (s.other.size + 1) s.place }
    else
      let s := { s with start := s.stop, stop := s.runEnd s.lines.size s.stop }
      let s := { s with place := s.passOther (s.other.size + 1) s.place - 1 }
      let (s, corresponding) := settle (s.lines.size + 1) s
      all fuel (match corresponding with
        | some stop => liftTo stop (s.lines.size + 1) s
        | none => s)

end Slide

/-- Which lines are changed, with the runs of changes moved to their places. -/
def marks (left right : Array Nat) : Marks :=
  let m := rough left right
  let slide (lines : Array Nat) (changed other : Array Bool) : Array Bool :=
    (Slide.all (2 * lines.size + 2) { lines := lines, changed := changed, other := other }).changed
  let left := slide left m.left m.right
  ⟨left, slide right m.right left⟩

/-! ## Changes -/

/-- Lines of the first list that give way to lines of the second: the place of the first of each, and how many. -/
structure Change where
  left : Nat
  right : Nat
  removed : Nat
  added : Nat
deriving DecidableEq, Repr

/-- The changes from two places on. `fuel` is more than the number of lines. -/
def changesFrom (m : Marks) : (fuel : Nat) → Nat → Nat → List Change
  | 0, _, _ => []
  | fuel + 1, x, y =>
    let run (flags : Array Bool) (start : Nat) : Nat := ((flags.toList.drop start).takeWhile id).length
    if m.left.size ≤ x && m.right.size ≤ y then []
    else
      let removed := run m.left x
      let added := run m.right y
      if removed = 0 && added = 0 then changesFrom m fuel (x + 1) (y + 1)
      else ⟨x, y, removed, added⟩ :: changesFrom m fuel (x + removed) (y + added)

/-- What has to be changed in the first list to make it the second. Of the lines that both start or end with, only
`margin` are looked at. -/
def changes (margin : Nat) (left right : Array Nat) : List Change :=
  let common (a b : List Nat) : Nat := ((a.zip b).takeWhile fun (x, y) => x = y).length
  let before := common left.toList right.toList
  let behind := common (left.toList.drop before).reverse (right.toList.drop before).reverse
  let skip := before - margin
  let cut (lines : Array Nat) : Array Nat := lines.extract skip (lines.size - (behind - margin))
  let m := marks (cut left) (cut right)
  (changesFrom m (left.size + right.size + 1) 0 0).map fun c =>
    { c with left := c.left + skip, right := c.right + skip }

end Revision

end LineShell.Host
