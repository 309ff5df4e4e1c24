import LineShell.Terminal

/-!
# What arrives on a console

A script is a list of chunks; what a reader can tell of it is the list of its bytes and faults, whatever the chunks
(`Script.arrivals`).

- `Script.read_cases`: a read of at least one byte answers nothing at the end only, meets the next fault, or takes
  some of the bytes before it;
- `Script.unread_eq`: what is left, counted, is the number of arrivals.
-/

namespace LineShell

/-- One thing that arrives on a console. -/
inductive Arrival
  | byte (b : UInt8)
  | fault
deriving DecidableEq, Repr

/-- What a chunk brings. -/
def Chunk.arrivals : Chunk → List Arrival
  | .data bytes => bytes.map .byte
  | .fault => [.fault]

namespace Script

/-- Everything that a script brings, in order. -/
def arrivals (script : Script) : List Arrival :=
  script.flatMap Chunk.arrivals

@[simp] theorem arrivals_nil : arrivals [] = [] := rfl

@[simp] theorem arrivals_fault (rest : Script) : arrivals (.fault :: rest) = .fault :: arrivals rest := rfl

@[simp] theorem arrivals_data (bytes : Bytes) (rest : Script) :
    arrivals (.data bytes :: rest) = bytes.map .byte ++ arrivals rest := rfl

/-- What is left, counted. -/
theorem unread_eq : ∀ script : Script, script.unread = script.arrivals.length
  | [] => rfl
  | .data bytes :: rest => by simp [unread, unread_eq rest]
  | .fault :: rest => by simp [unread, unread_eq rest, Nat.add_comm]

/-- What a read of at least one byte answers, and what it leaves. -/
theorem read_cases {count : Nat} (hcount : 0 < count) : ∀ script : Script,
    (script.read count = (some [], []) ∧ script.arrivals = []) ∨
    (∃ rest, script.read count = (none, rest) ∧ script.arrivals = .fault :: rest.arrivals) ∨
    (∃ data rest, script.read count = (some data, rest) ∧ data ≠ [] ∧ data.length ≤ count ∧
      script.arrivals = data.map .byte ++ rest.arrivals)
  | [] => .inl ⟨rfl, rfl⟩
  | .fault :: rest => .inr (.inl ⟨rest, rfl, rfl⟩)
  | .data [] :: rest => by simpa [read] using read_cases hcount rest
  | .data (b :: bytes) :: rest => by
    refine .inr (.inr ⟨(b :: bytes).take count, _, rfl, ?_, ?_, ?_⟩)
    · rw [ne_eq, List.take_eq_nil_iff]
      simp only [reduceCtorEq, or_false]
      omega
    · rw [List.length_take]
      omega
    · -- a chunk that is read to its end leaves nothing, any other one its end
      by_cases hleft : ((b :: bytes).drop count).isEmpty
      · have hall : (b :: bytes).take count = b :: bytes := by
          rw [List.isEmpty_iff, List.drop_eq_nil_iff] at hleft
          exact List.take_of_length_le hleft
        simp [hleft, hall]
      · simp only [hleft, Bool.false_eq_true, ↓reduceIte, arrivals_data]
        rw [← List.append_assoc, ← List.map_append, List.take_append_drop]

/-- A read leaves no more than there was. -/
theorem read_le (count : Nat) : ∀ script : Script, (script.read count).2.arrivals.length ≤ script.arrivals.length
  | [] => Nat.le_refl _
  | .fault :: rest => by simp [read]
  | .data [] :: rest => by simpa [read] using read_le count rest
  | .data (b :: bytes) :: rest => by
    simp only [read, List.isEmpty_cons, Bool.false_eq_true, ↓reduceIte]
    split
    · simp only [arrivals_data, List.length_append]
      omega
    · simp only [arrivals_data, List.length_append, List.length_map, List.length_drop]
      omega

end Script

end LineShell
