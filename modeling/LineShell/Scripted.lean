import LineShell.Kernel

/-!
# A kernel that follows a script

It answers each request with the next of a list of words, and with failure when the list is used up; it writes nothing
into the caller's memory and keeps a record of what it was asked. The console is no part of the script: writing there
always succeeds and is not recorded.
-/

namespace LineShell

/-- The words still to be answered, and what was asked so far, latest first. -/
structure Scripted where
  words : List Int64
  asked : List Request := []
deriving Repr

namespace Scripted

/-- The answer to a request. -/
def serve (r : Request) (m : Machine Scripted) : Reply × Machine Scripted :=
  match r with
  | .write ⟨1⟩ data _ => (.granted .nothing, m.emit data)
  | r =>
    let asked := r :: m.state.asked
    match m.state.words with
    | [] => (.refused, { m with state := ⟨[], asked⟩ })
    | word :: words => (⟨word, .nothing⟩, { m with state := ⟨words, asked⟩ })

def kernel : Kernel Scripted :=
  ⟨fun r m => some (serve r m), fun m => m.state.words.length⟩

end Scripted

end LineShell
