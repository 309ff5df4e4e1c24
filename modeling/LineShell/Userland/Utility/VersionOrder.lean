import LineShell.Userland.Pattern

/-!
# The order of versions

Names with numbers in them are ordered so that `v2` comes before `v10`: texts between the numbers are compared as texts,
numbers as numbers, and endings such as `.tar.gz` count only among names that are otherwise the same.
-/

namespace LineShell.Host

namespace VersionOrder

/-- Where a byte that is no digit stands; nothing comes before letters, and letters before signs. -/
def rank : Bytes → Int
  | [] => -1
  | b :: _ =>
    if isDigit b then 0
    else if ByteSet.isAlpha b then b.toNat
    else if b = byte '~' then -2
    else b.toNat + 256

/-- Compare texts up to the next number, and what follows it. `fuel` is more than the lengths. -/
def comparePieces : (fuel : Nat) → Bytes → Bytes → Ordering
  | 0, _, _ => .eq
  | fuel + 1, a, b =>
    if a.isEmpty && b.isEmpty then .eq
    else if a.head?.any (fun x => !isDigit x) || b.head?.any (fun x => !isDigit x) then
      (compare (rank a) (rank b)).then (comparePieces fuel a.tail b.tail)
    else
      let m := (a.takeWhile isDigit).dropWhile (· = byte '0')
      let n := (b.takeWhile isDigit).dropWhile (· = byte '0')
      ((compare m.length n.length).then (compareOfLessAndEq m n)).then
        (comparePieces fuel (a.dropWhile isDigit) (b.dropWhile isDigit))

/-- Whether a text is nothing but endings: a dot, a letter or tilde, and letters, digits and tildes. -/
def isEnding : (fuel : Nat) → Bytes → Bool
  | 0, _ => false
  | _, [] => true
  | fuel + 1, 46 :: c :: rest =>
    (ByteSet.isAlpha c || c = byte '~') &&
      isEnding fuel (rest.dropWhile fun d => ByteSet.isAlpha d || isDigit d || d = byte '~')
  | _, _ => false

/-- A name without its endings. -/
def stem (name : Bytes) : Bytes :=
  let lengths := (List.range name.length).map (· + 1)
  name.take ((lengths.find? fun n => isEnding (name.length + 1) (name.drop n)).getD name.length)

/-- Where a name stands by its dots: `.` and `..` come first, then other names with a dot in front. -/
def dots (name : Bytes) : Nat :=
  if name.isEmpty then 0
  else if name = [byte '.'] then 1
  else if name = Text.bytes ".." then 2
  else if name.head? = some (byte '.') then 3
  else 4

end VersionOrder

/-- Compare names in the order of versions. -/
def versionOrder (a b : Bytes) : Ordering :=
  let fuel := a.length + b.length + 2
  ((compare (VersionOrder.dots a) (VersionOrder.dots b)).then
    (VersionOrder.comparePieces fuel (VersionOrder.stem a) (VersionOrder.stem b))).then
    (VersionOrder.comparePieces fuel a b)

end LineShell.Host
