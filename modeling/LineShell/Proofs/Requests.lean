import LineShell.Proofs.Run

/-!
# Requests one after another

`Kernel.serveAll` answers a sequence of requests, each on the machine that the ones before it left, and the bytes of an
answer go to the start of the buffer that was given with the request (`Reply.filled`).
-/

namespace LineShell

variable {σ : Type}

namespace Kernel

/-- The answers to a sequence of requests; there are none if one of them is never answered. -/
def serveAll (K : Kernel σ) : List Request → Machine σ → Option (List Reply × Machine σ)
  | [], m => some ([], m)
  | r :: rest, m => (K.serve r m).bind fun x => (serveAll K rest x.2).map fun y => (x.1 :: y.1, y.2)

variable {K : Kernel σ} {m m' m'' : Machine σ} {reply : Reply} {replies : List Reply}

theorem serveAll_cons {r : Request} {rest : List Request} (h : K.serve r m = some (reply, m'))
    (hrest : K.serveAll rest m' = some (replies, m'')) : K.serveAll (r :: rest) m = some (reply :: replies, m'') := by
  rw [serveAll, h, Option.bind_some, hrest]
  rfl

end Kernel

/-- What a buffer holds after an answer: what was written at its start, and behind it what it held before. -/
def Reply.filled (reply : Reply) (buffer : Bytes) : Bytes :=
  match reply.fill with
  | .bytes data => data ++ buffer.drop data.length
  | _ => buffer

/-- The bytes of an answer stand in front of what was in the buffer. -/
theorem Reply.getElem?_filled (word : Int64) (data buffer : Bytes) (i : Nat) :
    ((⟨word, .bytes data⟩ : Reply).filled buffer)[i]? = if i < data.length then data[i]? else buffer[i]? := by
  show (data ++ buffer.drop data.length)[i]? = _
  split
  · next hdata => exact List.getElem?_append_left hdata
  · next hdata =>
    rw [List.getElem?_append_right (Nat.le_of_not_lt hdata), List.getElem?_drop,
      Nat.add_sub_cancel' (Nat.le_of_not_lt hdata)]

end LineShell
