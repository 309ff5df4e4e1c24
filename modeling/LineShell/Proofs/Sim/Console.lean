import LineShell.Proofs.Arrival
import LineShell.Proofs.Run
import LineShell.Proofs.Text
import LineShell.Reader
import LineShell.Sim.Kernel

/-!
# The console of the kernel in memory

Reading a line changes the heap and the console input of a machine and nothing else, so machines are written as
`m.facing heap script`. `Sim.run_read` says what reading from the console delivers; `Sim.run_printText` says when it
takes a text, and `Machine.shown` is the machine then.
-/

namespace LineShell

/-! ## Machines up to their heap and input -/

/-- The same machine with another heap and another script on its console. -/
def Machine.facing (m : Machine Sim) (heap : Heap) (script : Script) : Machine Sim :=
  { m with heap := heap, state := { m.state with input := .script script } }

namespace Machine

variable (m : Machine Sim) (heap heap' : Heap) (script script' : Script)

@[simp] theorem facing_heap : (m.facing heap script).heap = heap := rfl

@[simp] theorem facing_input : (m.facing heap script).state.input = .script script := rfl

@[simp] theorem facing_room : (m.facing heap script).state.room = m.state.room := rfl

@[simp] theorem facing_facing : (m.facing heap script).facing heap' script' = m.facing heap' script' := rfl

@[simp] theorem facing_with_heap : { m.facing heap script with heap := heap' } = m.facing heap' script := rfl

theorem facing_self {m : Machine Sim} {script : Script} (h : m.state.input = .script script) :
    m.facing m.heap script = m := by
  obtain ⟨heap, terminal, state⟩ := m
  simp only at h
  simp [facing, ← h]

end Machine

/-- No script in memory is as long as this. -/
def Script.limit : Nat := 0x8000000000000000

/-! ## Reading -/

namespace Sim

variable (depth : Nat) (m : Machine Sim) (heap : Heap)

/-- The reply that delivers what was read from a script; nothing read is a refusal. -/
def delivered : Option Bytes → Reply
  | some data => ⟨Int64.ofNat data.length, .bytes data⟩
  | none => .refused

theorem readConsole_facing (script : Script) (count : Nat) :
    readConsole (m.facing heap script) count =
      (delivered (script.read count).1, m.facing heap (script.read count).2) := by
  rw [readConsole]
  simp only [Machine.facing_input]
  obtain ⟨data, rest⟩ := script.read count
  cases data <;> rfl

theorem serve_read (script : Script) (count : UInt64) :
    (kernel depth).serve (.read .stdin count 0) (m.facing heap script) =
      some (delivered (script.read count.toNat).1, m.facing heap (script.read count.toNat).2) := by
  have hserve : (kernel depth).serve (.read .stdin count 0) (m.facing heap script) =
      some (readConsole (m.facing heap script) count.toNat) := rfl
  rw [hserve, readConsole_facing]

/-- The reads that still deliver something are no more than the arrivals. -/
theorem supply_eq {m : Machine Sim} {script : Script} (h : m.state.input = .script script) :
    supply m = script.arrivals.length := by
  unfold supply
  rw [h]
  exact script.unread_eq

/-- A delivery that fits into memory is read as it was meant. -/
theorem delivered_ok {data : Bytes} (h : data.length < Script.limit) :
    (delivered (some data)).failed = false ∧ (delivered (some data)).word.toInt.toNat = data.length := by
  have hint : (Int64.ofNat data.length).toInt = data.length :=
    Int64.toInt_ofNat_of_lt (by simpa [Script.limit] using h)
  exact ⟨Reply.failed_of_natCast hint, by rw [delivered, hint]; rfl⟩

/-- What reading the console comes to, in terms of the script. -/
theorem run_read {script : Script} (hfits : script.arrivals.length < Script.limit) {count : UInt64}
    (hcount : 0 < count.toNat) :
    (script.arrivals = [] ∧
      (Prog.read .stdin count 0).run (kernel depth) (m.facing heap script) = some (.ok (0, []), m.facing heap [])) ∨
    (∃ rest, script.arrivals = .fault :: rest.arrivals ∧
      (Prog.read .stdin count 0).run (kernel depth) (m.facing heap script) =
        some (.error Operation.read.failed, m.facing heap rest)) ∨
    (∃ data rest, script.arrivals = data.map .byte ++ rest.arrivals ∧ data ≠ [] ∧ data.length ≤ count.toNat ∧
      (Prog.read .stdin count 0).run (kernel depth) (m.facing heap script) =
        some (.ok (data.length, data), m.facing heap rest)) := by
  simp only [Prog.read, Prog.run_ask, serve_read, Option.map_some]
  rcases Script.read_cases hcount script with ⟨hread, harr⟩ | ⟨rest, hread, harr⟩ | ⟨data, rest, hread, hne, hle, harr⟩
  · refine .inl ⟨harr, ?_⟩
    rw [hread]
    rfl
  · refine .inr (.inl ⟨rest, harr, ?_⟩)
    rw [hread]
    rfl
  · refine .inr (.inr ⟨data, rest, harr, hne, hle, ?_⟩)
    have hlen : data.length < Script.limit := by
      rw [harr, List.length_append, List.length_map] at hfits
      omega
    obtain ⟨hok, hword⟩ := delivered_ok hlen
    rw [hread, Prog.understood, hok, hword]
    rfl

end Sim

/-! ## Writing -/

namespace Sim

variable (depth : Nat) {m : Machine Sim}

theorem writeConsole_refused (h : m.state.room = some 0) (data : Bytes) : writeConsole m data = (.refused, m) := by
  unfold writeConsole
  split
  · rfl
  · next hroom => exact absurd h hroom

theorem writeConsole_granted (h : m.state.room ≠ some 0) (data : Bytes) :
    writeConsole m data =
      (.granted .nothing, { m.emit data with state := { m.state with room := m.state.room.map (· - 1) } }) := by
  unfold writeConsole
  split
  · next hroom => exact absurd hroom h
  · rfl

theorem writeConsole_facing (heap : Heap) (script : Script) (data : Bytes) :
    writeConsole (m.facing heap script) data =
      ((writeConsole m data).1, (writeConsole m data).2.facing heap script) := by
  by_cases h : m.state.room = some 0
  · rw [writeConsole_refused h, writeConsole_refused (m := m.facing heap script) h]
  · rw [writeConsole_granted h, writeConsole_granted (m := m.facing heap script) h]
    rfl

theorem writeConsole_heap (data : Bytes) : (writeConsole m data).2.heap = m.heap := by
  by_cases h : m.state.room = some 0
  · rw [writeConsole_refused h]
  · rw [writeConsole_granted h]
    rfl

theorem kernel_prints : (kernel depth).Prints :=
  fun _ _ => rfl

end Sim

/-- The machine after a text was printed on a console that takes it. -/
def Machine.shown (m : Machine Sim) (text : String) : Machine Sim :=
  if text = "" then m else (Sim.writeConsole m (Text.bytes text)).2

namespace Machine

variable {m : Machine Sim} (text : String)

theorem shown_heap : (m.shown text).heap = m.heap := by
  unfold shown
  split
  · rfl
  · exact Sim.writeConsole_heap _

theorem shown_facing (heap : Heap) (script : Script) :
    (m.facing heap script).shown text = (m.shown text).facing heap script := by
  unfold shown
  split
  · rfl
  · rw [Sim.writeConsole_facing]

/-- A console that takes every write is as it was but for what stands on it. -/
theorem shown_eq (h : m.state.room = none) : m.shown text = if text = "" then m else m.emit (Text.bytes text) := by
  have hstate : { m.state with room := m.state.room.map (· - 1) } = m.state := by rw [h, Option.map_none, ← h]
  rw [shown, Sim.writeConsole_granted (by simp [h]), hstate]
  rfl

theorem shown_state (h : m.state.room = none) : (m.shown text).state = m.state := by
  rw [shown_eq text h]
  split <;> rfl

theorem output_shown (h : text = "" ∨ m.state.room ≠ some 0) :
    (m.shown text).terminal.output = m.terminal.output ++ Text.bytes text := by
  unfold shown
  split
  · next h => simp [Text.bytes_eq_nil_iff.2 h]
  · next hne =>
    rw [Sim.writeConsole_granted (h.resolve_left hne)]
    simp [emit, Terminal.emit, Terminal.output]

/-- The machine after a text was printed in pieces. -/
def shownParts (m : Machine Sim) (parts : List String) : Machine Sim :=
  parts.foldl shown m

theorem shownParts_facing (heap : Heap) (script : Script) : ∀ (parts : List String) (m : Machine Sim),
    (m.facing heap script).shownParts parts = (m.shownParts parts).facing heap script
  | [], _ => rfl
  | part :: rest, m => by
    rw [shownParts, List.foldl_cons, shown_facing]
    exact shownParts_facing heap script rest (m.shown part)

theorem shownParts_heap : ∀ (parts : List String) (m : Machine Sim), (m.shownParts parts).heap = m.heap
  | [], _ => rfl
  | part :: rest, m => (shownParts_heap rest (m.shown part)).trans (shown_heap part)

theorem shownParts_state : ∀ (parts : List String) {m : Machine Sim}, m.state.room = none →
    (m.shownParts parts).state = m.state
  | [], _, _ => rfl
  | part :: rest, m, h => by
    have hpart := shown_state part h
    exact (shownParts_state rest (by rw [hpart, h])).trans hpart

/-- Pieces are printed as the text that they make. -/
theorem output_shownParts : ∀ (parts : List String) {m : Machine Sim}, m.state.room = none →
    (m.shownParts parts).terminal.output = m.terminal.output ++ Text.bytes (String.join parts)
  | [], m, _ => (List.append_nil m.terminal.output).symm
  | part :: rest, m, h => by
    have hrest := output_shownParts rest (m := m.shown part) (by rw [shown_state part h, h])
    rw [output_shown part (.inr (by simp [h])), List.append_assoc, ← Text.bytes_append, ← String.join_cons] at hrest
    exact hrest

end Machine

namespace Sim

variable (depth : Nat) {m : Machine Sim} {text : String}

/-- Nothing is asked of the console for an empty text. -/
theorem run_printText_empty : (Prog.printText "").run (kernel depth) m = some (.ok (), m) := rfl

/-- Any other text is one request. -/
theorem run_printText (h : text ≠ "") :
    (Prog.printText text).run (kernel depth) m =
      some (if m.state.room = some 0 then (.error Operation.write.failed, m) else (.ok (), m.shown text)) := by
  have hne : (Text.bytes text).isEmpty = false := by
    simpa [List.isEmpty_eq_false_iff, Text.bytes_eq_nil_iff] using h
  have hserve : (kernel depth).serve (.write .stdout (Text.bytes text) 0) m =
      some (writeConsole m (Text.bytes text)) := rfl
  simp only [Prog.printText, Prog.print, hne, Bool.false_eq_true, ↓reduceIte, Prog.write, Prog.act, Prog.run_ask,
    hserve, Machine.shown, h]
  by_cases hroom : m.state.room = some 0
  · rw [writeConsole_refused hroom, if_pos hroom]
    rfl
  · rw [writeConsole_granted hroom, if_neg hroom]
    rfl

/-- Printing a text on a console that takes it. -/
theorem run_printText_ok (h : text = "" ∨ m.state.room ≠ some 0) :
    (Prog.printText text).run (kernel depth) m = some (.ok (), m.shown text) := by
  by_cases htext : text = ""
  · subst htext
    exact run_printText_empty depth
  · rw [run_printText depth htext, if_neg (h.resolve_left htext)]

/-- Printing a text in pieces on a console that takes every write. -/
theorem run_printParts_ok : ∀ (parts : List String) {m : Machine Sim}, m.state.room = none →
    (Prog.printParts parts).run (kernel depth) m = some (.ok (), m.shownParts parts)
  | [], _, _ => rfl
  | part :: rest, m, h => by
    have hprint : (Prog.printText part).run (kernel depth) m = some (.ok (), m.shown part) :=
      run_printText_ok depth (.inr (by simp [h]))
    rw [Prog.printParts, Prog.run_seq, hprint, Option.bind_some]
    exact run_printParts_ok rest (by rw [Machine.shown_state part h, h])

end Sim

end LineShell
