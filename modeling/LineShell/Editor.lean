import LineShell.LineSource
import LineShell.Text.Grapheme

/-!
# A line editor for standard input

`Editor.plain` is the line editor of a session whose input is no terminal. It shows no prompt and edits by the characters
in the line alone: a newline ends a line, a carriage return before that newline is dropped, and a backspace erases the
grapheme before it (`Editor.erase`). The length of a grapheme is kept in one byte, so of a very long one only some bytes
are erased; where these are not whole characters, the editor breaks off.
-/

namespace LineShell.Editor

def backspace : Char := '\x08'

/-- The length of a grapheme as the editor remembers it, in one byte. -/
def remembered (grapheme : List Char) : Nat :=
  Text.size (String.ofList grapheme) % 256

/-- A text, written latest first, without its last `n` bytes; `none` if these are not whole characters. -/
def dropBytes (n : Nat) : List Char → Option (List Char)
  | [] => some []
  | c :: rest => if n = 0 then some (c :: rest) else if c.utf8Size ≤ n then dropBytes (n - c.utf8Size) rest else none

/-- Write graphemes one after the other. `text` is what stands there, latest first, and `lengths` are the lengths of
the graphemes in it. -/
def erase (text : List Char) (lengths : List Nat) : List (List Char) → Option (List Char)
  | [] => some text.reverse
  | g :: rest =>
    if g = [backspace] then
      match lengths with
      | [] => erase text [] rest
      | n :: lengths => (dropBytes n text).bind fun text => erase text lengths rest
    else erase (g.reverse ++ text) (remembered g :: lengths) rest

/-- The line that was meant by the one typed: without its end and with its backspaces carried out. -/
def edited (typed : String) : Option String :=
  let chars := typed.toList
  let line :=
    match chars.reverse with
    | '\n' :: '\r' :: before => before.reverse
    | '\n' :: before => before.reverse
    | _ => chars
  (erase [] [] (Text.graphemes line)).map String.ofList

/-- The next line of standard input; `none` if the editor breaks off on it. A line that is not UTF-8 is passed over. -/
def readLine (s : StdStream) : Option (Except EditorError String × StdStream) :=
  match s.takeLine with
  | none => some (.error .endOfInput, s)
  | some (data, s) =>
    match Text.decode? data with
    | none => some (.error (.other "stream did not contain valid UTF-8"), s)
    | some typed => (edited typed).map fun line => (.ok line, s)

/-- The editor of a session whose input is no terminal. What it remembers is never asked for. -/
def plain : LineEditor where
  readLine _ _ terminal :=
    (readLine terminal.stdin).map fun (answer, stdin) => (answer, { terminal with stdin := stdin })
  remember _ _ := .ok ()
  supply terminal := terminal.stdin.unread.length

end LineShell.Editor
