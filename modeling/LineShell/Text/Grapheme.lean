import LineShell.Text.GraphemeTable

/-!
# Graphemes

`graphemes` splits text into extended grapheme clusters, what a reader takes for one character: between two
characters there is a break unless one of the rules GB3 to GB13 of Unicode joins them. The rules look at the two
characters and at the text before them, which `Before` sums up.
-/

namespace LineShell.Text

/-- What the rules ask of a character. -/
inductive GraphemeClass
  | other | cr | lf | control | extend | joiner | flag | prepended | spacing | leading | vowel | trailing
  | leadingVowel | syllable | pictographic | conjoining
deriving DecidableEq, Repr

/-- Whether a character lies in one of the ranges of a table. -/
def inRanges (table : List (Nat × Nat)) (c : Char) : Bool :=
  table.any fun (first, last) => first ≤ c.toNat && c.toNat ≤ last

/-- The class of a character. The syllables of Hangul are computed: every twenty-eighth has no final consonant. The
vowels of Kirat Rai join as those of Hangul do. -/
def GraphemeClass.of (c : Char) : GraphemeClass :=
  let n := c.toNat
  if 0x20 ≤ n && n < 0x7f then .other
  else if c = '\r' then .cr
  else if c = '\n' then .lf
  else if n = 0x200d then .joiner
  else if 0x1f1e6 ≤ n && n ≤ 0x1f1ff then .flag
  else if (0x1100 ≤ n && n ≤ 0x115f) || (0xa960 ≤ n && n ≤ 0xa97c) then .leading
  else if (0x1160 ≤ n && n ≤ 0x11a7) || (0xd7b0 ≤ n && n ≤ 0xd7c6) then .vowel
  else if n = 0x16d63 || (0x16d67 ≤ n && n ≤ 0x16d6a) then .vowel
  else if (0x11a8 ≤ n && n ≤ 0x11ff) || (0xd7cb ≤ n && n ≤ 0xd7fb) then .trailing
  else if 0xac00 ≤ n && n ≤ 0xd7a3 then
    if (n - 0xac00) % 28 = 0 then .leadingVowel else .syllable
  else if inRanges GraphemeTable.control c then .control
  else if inRanges GraphemeTable.extend c then .extend
  else if inRanges GraphemeTable.spacing c then .spacing
  else if inRanges GraphemeTable.prepended c then .prepended
  else if inRanges GraphemeTable.pictographic c then .pictographic
  else if inRanges GraphemeTable.conjoining c then .conjoining
  else .other

/-- Whether a mark joins the consonant before it to the one after. -/
def isLinker (c : Char) : Bool :=
  GraphemeTable.linkers.contains c.toNat

/-- The mark that keeps the consonants beside it apart. -/
def nonJoiner : Char :=
  '\u200c'

/-- What the rules need to know of the text before a place. -/
structure Before where
  /-- The class of the last character. -/
  last : GraphemeClass
  /-- Whether the text ends in a picture followed by marks. -/
  picture : Bool
  /-- Whether it ends in a picture, marks and a joiner. -/
  joined : Bool
  /-- Whether it ends in an odd number of flag letters. -/
  oddFlag : Bool
  /-- Whether it ends in a consonant followed by marks. -/
  consonant : Bool
  /-- Whether a linker is among those marks. -/
  linked : Bool
deriving DecidableEq, Repr

namespace Before

/-- The text that consists of `c` alone, or ends in `c` after what `before` describes. -/
def next (before : Option Before) (c : Char) : Before :=
  let cls := GraphemeClass.of c
  let mark := (cls = .extend && c != nonJoiner) || cls = .joiner
  let was (f : Before → Bool) := before.any f
  { last := cls
    picture := cls = .pictographic || (cls = .extend && was picture)
    joined := cls = .joiner && was picture
    oddFlag := cls = .flag && !was oddFlag
    consonant := cls = .conjoining || (mark && was consonant)
    linked := mark && was consonant && (isLinker c || was linked) }

/-- Whether the next character, of class `cls`, belongs to the grapheme before it. -/
def joins (b : Before) (cls : GraphemeClass) : Bool :=
  match b.last, cls with
  | .cr, .lf => true
  | .control, _ | .cr, _ | .lf, _ => false
  | _, .control | _, .cr | _, .lf => false
  | .leading, .leading | .leading, .vowel | .leading, .leadingVowel | .leading, .syllable => true
  | .leadingVowel, .vowel | .leadingVowel, .trailing | .vowel, .vowel | .vowel, .trailing => true
  | .syllable, .trailing | .trailing, .trailing => true
  | _, .extend | _, .joiner | _, .spacing => true
  | .prepended, _ => true
  | _, .conjoining => b.linked
  | .joiner, .pictographic => b.joined
  | .flag, .flag => b.oddFlag
  | _, _ => false

end Before

/-- The graphemes of a text, in order. The accumulators hold the finished ones and the present one, latest first. -/
def graphemesFrom (before : Option Before) (present : List Char) (finished : List (List Char)) :
    List Char → List (List Char)
  | [] => (if present.isEmpty then finished else present.reverse :: finished).reverse
  | c :: rest =>
    if before.any (·.joins (GraphemeClass.of c)) then
      graphemesFrom (some (.next before c)) (c :: present) finished rest
    else
      graphemesFrom (some (.next before c)) [c]
        (if present.isEmpty then finished else present.reverse :: finished) rest

/-- Split a text into its graphemes. -/
def graphemes (text : List Char) : List (List Char) :=
  graphemesFrom none [] [] text

end LineShell.Text
