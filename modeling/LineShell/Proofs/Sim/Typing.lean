import LineShell.Proofs.Sim.Refusal

/-!
# Typing on any console

What exactly is made of typed lines is told by `Program.run_typedLines`, for a script without faults and a heap without a
limit. Whatever the heap and the console are, a reader takes no more than what is due to it (`Reader.due`): the rest of its
batch, and what is left on the console. So a program that reads lines comes to an end, with a text that is not much longer
than what was typed (`Program.typedLines_yields`), and changes nothing besides.

- `Sim.Wrote`: what printing leaves, whether the console takes it or not;
- `Sim.Rests`: a machine differs in its heap and its console alone;
- `Sim.ask_rests`: requests that keep it so, with whatever answer.
-/

namespace LineShell

/-! ## Machines at rest -/

/-- Whether all that a request can change is the console. -/
def Request.isQuiet : Request → Bool
  | .read .. | .openFile _ | .fstat _ | .currentDir | .readDir .. => true
  | .write fd .. => fd = .stdout || fd = .stderr
  | _ => false

namespace Sim

/-- The same state with this input left on its console, after so many more writes. -/
def wornTo (s : Sim) (input : Input) (written : Nat) : Sim :=
  s.facing input (s.room.map (· - written))

theorem wornTo_self (s : Sim) : s.wornTo s.input 0 = s := by
  simp [wornTo, facing]

@[simp] theorem wornTo_wornTo (s : Sim) (input input' : Input) (written written' : Nat) :
    (s.wornTo input written).wornTo input' written' = s.wornTo input' (written + written') := by
  simp only [wornTo, facing, Option.map_map, Function.comp_def, Nat.sub_sub]

theorem contents_wornTo (s : Sim) (input : Input) (written : Nat) (path : String) :
    (s.wornTo input written).contents path = s.contents path := rfl

/-- The console has taken writes at most, and nothing else has changed. -/
structure Wrote (m m' : Machine Sim) : Prop where
  heap_eq : m'.heap = m.heap
  state_eq : ∃ written, m'.state = m.state.wornTo m.state.input written

theorem Wrote.self (m : Machine Sim) : Wrote m m :=
  ⟨rfl, 0, m.state.wornTo_self.symm⟩

theorem Wrote.trans {m m₁ m' : Machine Sim} (h : Wrote m m₁) (h' : Wrote m₁ m') : Wrote m m' := by
  obtain ⟨written, hstate⟩ := h.state_eq
  obtain ⟨written', hstate'⟩ := h'.state_eq
  refine ⟨h'.heap_eq.trans h.heap_eq, written + written', ?_⟩
  rw [hstate', hstate]
  exact m.state.wornTo_wornTo _ _ written written'

/-- The machine has this state, with whatever input is left on its console and whatever was written there. -/
def Rests (s : Sim) (m : Machine Sim) : Prop :=
  ∃ input written, m.state = s.wornTo input written

namespace Rests

variable {s : Sim} {m : Machine Sim}

theorem self (m : Machine Sim) : m.state.Rests m :=
  ⟨m.state.input, 0, m.state.wornTo_self.symm⟩

theorem readConsole (h : s.Rests m) (count : Nat) : s.Rests (readConsole m count).2 := by
  obtain ⟨input, written, hstate⟩ := h
  obtain ⟨terminal, input', heq⟩ := readConsole_eq m count
  refine ⟨input', written, ?_⟩
  rw [heq, hstate]
  rfl

theorem wrote {m' : Machine Sim} (h : s.Rests m) (hwrote : Wrote m m') : s.Rests m' := by
  obtain ⟨input, before, hstate⟩ := h
  obtain ⟨written, hstate'⟩ := hwrote.state_eq
  refine ⟨input, before + written, ?_⟩
  rw [hstate', hstate]
  exact s.wornTo_wornTo _ _ before written

theorem writeConsole (h : s.Rests m) (data : Bytes) : s.Rests (writeConsole m data).2 := by
  obtain ⟨input, written, hstate⟩ := h
  obtain ⟨terminal, heq⟩ := writeConsole_eq m data
  refine ⟨input, written + 1, ?_⟩
  rw [heq, hstate]
  exact s.wornTo_wornTo input input written 1

end Rests

section

variable {s : Sim} {m : Machine Sim} {r : Request} (depth : Nat)

theorem serve_rests (hr : r.isQuiet = true) (h : s.Rests m) :
    ∃ reply m', (kernel depth).serve r m = some (reply, m') ∧ s.Rests m' := by
  cases r with
  | read fd count offset =>
    by_cases hfd : fd = .stdin
    · rw [hfd, serve_readConsole]
      exact ⟨_, _, rfl, h.readConsole _⟩
    · rw [serve_readFile depth m hfd]
      exact ⟨_, _, rfl, h⟩
  | write fd data offset =>
    rw [serve_writeConsole depth m hr]
    exact ⟨_, _, rfl, h.writeConsole _⟩
  | openFile path => exact ⟨_, _, serve_openFile depth m path, h⟩
  | fstat fd => exact ⟨_, _, serve_fstat depth m fd, h⟩
  | readDir fd offset => exact ⟨_, _, serve_readDir depth m fd offset, h⟩
  | currentDir => exact ⟨_, _, rfl, h⟩
  | _ => cases hr

/-- A quiet request is answered, and leaves the machine at rest. -/
theorem ask_rests {α : Type} (hr : r.isQuiet = true) (h : s.Rests m) (f : Reply → Except SysError α) :
    (Prog.ask r f).Yields (kernel depth) m fun _ m' => s.Rests m' := by
  obtain ⟨reply, m', hserve, hrests⟩ := serve_rests depth hr h
  refine ⟨Prog.understood r f reply, m', ?_, hrests⟩
  rw [Prog.run_ask, hserve]
  rfl

/-- Printing changes nothing else, whether the console takes it or not. -/
theorem printText_wrote (m : Machine Sim) (text : String) :
    (Prog.printText text).Yields (kernel depth) m fun _ m' => Wrote m m' := by
  unfold Prog.printText Prog.print
  split
  · exact .pure (.self m)
  · obtain ⟨terminal, hwrite⟩ := writeConsole_eq m (Text.bytes text)
    have hserve := @serve_writeConsole depth m .stdout rfl (Text.bytes text) 0
    refine .of_run (by rw [Prog.write, Prog.act, Prog.run_ask, hserve]; rfl) ⟨?_, 1, ?_⟩
    · rw [hwrite]
    · rw [hwrite]
      rfl

theorem printParts_wrote : ∀ (parts : List String) (m : Machine Sim),
    (Prog.printParts parts).Yields (kernel depth) m fun _ m' => Wrote m m'
  | [], m => .pure (.self m)
  | part :: rest, m => by
    refine (printText_wrote depth m part).seq fun result m₁ hwrote => ?_
    cases result with
    | error e => exact .pure hwrote
    | ok _ => exact (printParts_wrote rest m₁).mono fun _ _ hrest => hwrote.trans hrest

theorem printText_rests (h : s.Rests m) (text : String) :
    (Prog.printText text).Yields (kernel depth) m fun _ m' => s.Rests m' :=
  (printText_wrote depth m text).mono fun _ _ hwrote => h.wrote hwrote

theorem printParts_rests (parts : List String) (h : s.Rests m) :
    (Prog.printParts parts).Yields (kernel depth) m fun _ m' => s.Rests m' :=
  (printParts_wrote depth parts m).mono fun _ _ hwrote => h.wrote hwrote

end

end Sim

/-! ## Reading some bytes -/

/-- What a read delivers and what it leaves is no more than there was. -/
theorem Script.length_read_add_le (count : Nat) : ∀ script : Script,
    ((script.read count).1.getD []).length + (script.read count).2.unread ≤ script.unread
  | [] => Nat.le_refl _
  | .fault :: rest => by simp [read, unread]
  | .data [] :: rest => by simpa [read, unread] using length_read_add_le count rest
  | .data (b :: bytes) :: rest => by
    simp only [read, List.isEmpty_cons, Bool.false_eq_true, ↓reduceIte, Option.getD_some, List.length_take, unread]
    split
    · omega
    · simp only [unread, List.length_drop]
      omega

theorem StdStream.length_read_add_le (stream : StdStream) (count : Nat) :
    (stream.read count).1.length + (stream.read count).2.unread.length ≤ stream.unread.length := by
  have hrefill : stream.refill.unread = stream.unread := by
    unfold refill
    split
    · next hempty => simp [unread, List.isEmpty_iff.1 hempty]
    · rfl
  unfold read
  split
  · simp only [unread, List.length_append, List.length_take, List.length_drop]
    omega
  · rw [← hrefill]
    simp only [unread, List.length_append, List.length_take, List.length_drop]
    omega

namespace Sim

variable {s : Sim} {m : Machine Sim} (depth : Nat)

/-- Reading the console delivers some bytes that were left on it, or is refused. -/
theorem readConsole_takes (m : Machine Sim) (count : Nat) :
    (∃ data : Bytes, (readConsole m count).1 = ⟨Int64.ofNat data.length, .bytes data⟩ ∧ data.length ≤ count ∧
      supply (readConsole m count).2 + data.length ≤ supply m) ∨
    ((readConsole m count).1 = .refused ∧ supply (readConsole m count).2 ≤ supply m) := by
  cases hinput : m.state.input with
  | script script =>
    have hle := Script.length_read_add_le count script
    have hsupply : supply m = script.unread := by simp only [supply, hinput]
    cases hread : script.read count with | mk data? rest =>
    rw [hread] at hle
    simp only [readConsole, hinput, hread, hsupply]
    cases data? with
    | some data =>
      refine .inl ⟨data, rfl, Script.length_read_le hread, ?_⟩
      rw [Nat.add_comm]
      exact hle
    | none =>
      refine .inr ⟨rfl, ?_⟩
      simpa [supply] using hle
  | standard =>
    have hle := m.terminal.stdin.length_read_add_le count
    have hsupply : supply m = m.terminal.stdin.unread.length := by simp only [supply, hinput]
    simp only [readConsole, hinput, hsupply]
    refine .inl ⟨_, rfl, StdStream.length_read_le _ _, ?_⟩
    rw [Nat.add_comm]
    simpa only [supply, hinput] using hle

/-- Fetching takes from the console what it delivers. -/
theorem read_yields {count : UInt64} (hcount : count.toNat < Script.limit) (h : s.Rests m) :
    (Prog.read .stdin count 0).Yields (kernel depth) m fun result m' =>
      s.Rests m' ∧ supply m' ≤ supply m ∧ ∀ answer, result = .ok answer → supply m' + answer.1 ≤ supply m := by
  have hrests := h.readConsole count.toNat
  have hserve := serve_readConsole depth m count 0
  rcases readConsole_takes m count.toNat with ⟨data, hreply, hlength, hle⟩ | ⟨hreply, hle⟩
  · have hint : (Int64.ofNat data.length).toInt = data.length :=
      Int64.toInt_ofNat_of_lt (Nat.lt_of_le_of_lt hlength hcount)
    refine ⟨.ok (data.length, data), _, ?_, hrests, Nat.le_of_add_right_le hle, ?_⟩
    · rw [Prog.read, Prog.run_ask, hserve, Option.map_some, hreply, Prog.understood, Reply.failed_of_natCast hint, hint]
      rfl
    · rintro _ ⟨⟩
      exact hle
  · refine ⟨.error Operation.read.failed, _, ?_, hrests, hle, ?_⟩
    · rw [Prog.read, Prog.run_ask, hserve, Option.map_some, hreply]
      rfl
    · rintro _ ⟨⟩

end Sim

/-! ## Drafts -/

namespace Draft

variable {σ : Type} {K : Kernel σ}

theorem grow_yields (d : Draft) (m : Machine σ) :
    d.grow.Yields K m fun result m' =>
      (∃ heap, m' = { m with heap := heap }) ∧ ∀ d', result = .ok d' → d'.reversed = d.reversed := by
  unfold grow
  split
  · refine .seq (.allocate _ m) fun granted m' hheap => ?_
    cases granted with
    | error e => exact .pure ⟨hheap, nofun⟩
    | ok _ =>
      refine .pure ⟨hheap, ?_⟩
      rintro _ ⟨⟩
      rfl
  · exact .pure ⟨⟨m.heap, rfl⟩, nofun⟩

/-- Where there is room for all bytes, a draft is longer by as many. -/
theorem extend_yields : ∀ (data : Bytes) (d : Draft) (m : Machine σ),
    (d.extend data).Yields K m fun x m' => (∃ heap, m' = { m with heap := heap }) ∧
      (x.2 = none → x.1.reversed.length = d.reversed.length + data.length)
  | [], d, m => .pure ⟨⟨m.heap, rfl⟩, fun _ => rfl⟩
  | b :: data, d, m => by
    unfold extend
    split
    · refine (extend_yields data (d.push b) m).mono fun x m' ⟨hheap, hlength⟩ => ⟨hheap, fun hnone => ?_⟩
      rw [hlength hnone, push, List.length_cons, List.length_cons]
      omega
    · refine .seq (grow_yields d m) fun grown m₁ ⟨⟨heap, hheap⟩, hgrown⟩ => ?_
      subst hheap
      cases grown with
      | error e => exact .pure ⟨⟨heap, rfl⟩, nofun⟩
      | ok d' =>
        refine (extend_yields data (d'.push b) _).mono fun x m' ⟨⟨heap', hheap'⟩, hlength⟩ =>
          ⟨⟨heap', hheap'⟩, fun hnone => ?_⟩
        rw [hlength hnone, push, hgrown d' rfl, List.length_cons, List.length_cons]
        omega

/-- A finished line is as long as its draft. -/
theorem finish_yields (d : Draft) (m : Machine σ) :
    d.finish.Yields K m fun result m' => (∃ heap, m' = { m with heap := heap }) ∧
      ∀ line, result = .ok line → Text.size line.text = d.reversed.length := by
  unfold finish
  split
  · next text htext =>
    refine .pure ⟨⟨m.heap, rfl⟩, ?_⟩
    rintro _ ⟨⟩
    rw [← Text.length_bytes, ← Text.decode?_eq_some_iff.1 htext, List.length_reverse]
  · exact .of_run rfl ⟨⟨_, rfl⟩, nofun⟩

end Draft

/-! ## Lines -/

/-- The bytes of the batch that were not looked at yet, and all that is left on the console. -/
def Reader.due (r : Reader) (m : Machine Sim) : Nat :=
  r.unread.length + Sim.supply m

namespace Reader

variable {s : Sim} {m : Machine Sim} {r : Reader} (depth : Nat)

/-- The reader is at the beginning of a line, or inside of one that it does not drop, with a batch of this size. -/
structure Listening (r : Reader) (chunk : Nat) : Prop where
  chunk_eq : r.chunk = chunk
  skipping_eq : r.skipping = false

/-- What a step comes to with `due` bytes in the draft and still to come, and `supply` of them on the console: no more than
these are in the line, or in the draft, and still to come, and a batch takes something from the console. -/
def Progress.Within (chunk due supply : Nat) (m' : Machine Sim) : Progress → Prop
  | .ended result r => ∀ line, result = .ok line → r.Listening chunk ∧ Text.size line.text + r.due m' ≤ due
  | .more d r => r.Listening chunk ∧ d.reversed.length + r.due m' ≤ due ∧ Sim.supply m' < supply

theorem fetch_yields (h : s.Rests m) (hchunk : r.chunk < Script.limit) :
    r.fetch.Yields (Sim.kernel depth) m fun x m' =>
      s.Rests m' ∧ x.2.chunk = r.chunk ∧ x.2.skipping = r.skipping ∧
      ∀ count, x.1 = .ok count → x.2.unread.length ≤ count ∧ Sim.supply m' + count ≤ Sim.supply m := by
  have hcount : (UInt64.ofNat r.chunk).toNat < Script.limit :=
    Nat.lt_of_le_of_lt (Nat.mod_le _ _) hchunk
  refine .seq (Sim.read_yields depth hcount h) fun result m' ⟨hrests, _, htakes⟩ => ?_
  cases result with
  | error e => exact .pure ⟨hrests, rfl, rfl, nofun⟩
  | ok answer =>
    refine .pure ⟨hrests, rfl, rfl, ?_⟩
    rintro _ ⟨⟩
    refine ⟨?_, htakes answer rfl⟩
    simp only [overwritten, List.length_take]
    omega

theorem refill_yields {chunk : Nat} (h : s.Rests m) (hr : r.Listening chunk) (hchunk : chunk < Script.limit)
    (d : Draft) :
    (r.refill d).Yields (Sim.kernel depth) m fun progress m' =>
      s.Rests m' ∧ progress.Within chunk (d.reversed.length + Sim.supply m) (Sim.supply m) m' := by
  obtain ⟨rfl, hskipping⟩ := hr
  refine .seq (fetch_yields depth h hchunk) fun ⟨fetched, r'⟩ m₁ ⟨hrests, hsize, hkept, hcount⟩ => ?_
  have hlistening : r'.Listening r.chunk := ⟨hsize, hkept.trans hskipping⟩
  match fetched with
  | .error e => exact .of_run rfl ⟨hrests, nofun⟩
  | .ok 0 =>
    obtain ⟨hunread, hleft⟩ := hcount 0 rfl
    dsimp only
    split
    · exact .of_run rfl ⟨hrests, nofun⟩
    · refine .seq (d.finish_yields m₁) fun result m₂ ⟨⟨heap, hheap⟩, hlength⟩ => ?_
      subst hheap
      refine .pure ⟨hrests, fun line hline => ⟨hlistening, ?_⟩⟩
      have hdue : r'.due { m₁ with heap := heap } = r'.unread.length + Sim.supply m₁ := rfl
      rw [hlength line hline, hdue]
      dsimp only at hunread
      omega
  | .ok (count + 1) =>
    obtain ⟨hunread, hleft⟩ := hcount (count + 1) rfl
    refine .pure ⟨hrests, hlistening, ?_, ?_⟩
    · rw [due]
      dsimp only at hunread
      omega
    · omega

theorem advance_yields {chunk : Nat} (h : s.Rests m) (hr : r.Listening chunk) (hchunk : chunk < Script.limit)
    (d : Draft) :
    (r.advance d).Yields (Sim.kernel depth) m fun progress m' =>
      s.Rests m' ∧ progress.Within chunk (d.reversed.length + r.due m) (Sim.supply m) m' := by
  have hsplit : (r.unread.takeWhile (· != newline)).length + (r.unread.dropWhile (· != newline)).length =
      r.unread.length := by
    rw [← List.length_append, List.takeWhile_append_dropWhile]
  unfold advance
  dsimp only
  refine .seq (d.extend_yields _ m) fun ⟨d', left?⟩ m₁ ⟨⟨heap, hheap⟩, hlength⟩ => ?_
  subst hheap
  have hdue : r.due m = r.unread.length + Sim.supply m := rfl
  cases left? with
  | some left => exact .of_run rfl ⟨h, nofun⟩
  | none =>
    have hlength := hlength rfl
    dsimp only at hlength ⊢
    split
    · next newline' rest hafter =>
      rw [hafter, List.length_cons] at hsplit
      refine .seq (d'.finish_yields _) fun result m₂ ⟨⟨heap', hheap'⟩, hfinished⟩ => ?_
      subst hheap'
      refine .pure ⟨h, fun line hline => ⟨⟨hr.chunk_eq, hr.skipping_eq⟩, ?_⟩⟩
      have hrest : Reader.due { r with unread := rest } { m with heap := heap' } = rest.length + Sim.supply m := rfl
      rw [hfinished line hline, hrest]
      omega
    · next hafter =>
      rw [hafter, List.length_nil] at hsplit
      have hbound : d'.reversed.length + Sim.supply m = d.reversed.length + r.due m := by omega
      rw [← hbound]
      exact refill_yields depth (m := { m with heap := heap }) h ⟨hr.chunk_eq, hr.skipping_eq⟩ hchunk d'

/-- What taking a line comes to with `due` bytes in the draft and still to come. -/
def Took (chunk due : Nat) (x : Except ReadError Line × Reader) (m' : Machine Sim) : Prop :=
  ∀ line, x.1 = .ok line → x.2.Listening chunk ∧ Text.size line.text + x.2.due m' ≤ due

/-- **Filling a line** on any console comes to an end before the rounds do. -/
theorem fill_yields {chunk : Nat} (hchunk : chunk < Script.limit) : ∀ (supply : Nat) {r : Reader} {m : Machine Sim}
    (d : Draft), s.Rests m → r.Listening chunk → Sim.supply m ≤ supply →
    (r.fill supply d).Yields (Sim.kernel depth) m fun x m' =>
      s.Rests m' ∧ Took chunk (d.reversed.length + r.due m) x m' := by
  intro supply
  induction supply with
  | zero =>
    intro r m d h hr hsupply
    rw [fill.eq_def]
    refine .seq (advance_yields depth h hr hchunk d) fun progress m₁ ⟨hrests, hwithin⟩ => ?_
    cases progress with
    | ended result r' => exact .pure ⟨hrests, hwithin⟩
    | more d' r' => exact absurd hwithin.2.2 (by omega)
  | succ supply ih =>
    intro r m d h hr hsupply
    rw [fill.eq_def]
    refine .seq (advance_yields depth h hr hchunk d) fun progress m₁ ⟨hrests, hwithin⟩ => ?_
    cases progress with
    | ended result r' => exact .pure ⟨hrests, hwithin⟩
    | more d' r' =>
      obtain ⟨hr', hdue, hlt⟩ := hwithin
      refine (ih d' hrests hr' (by omega)).mono fun x m' ⟨hrests', htook⟩ => ⟨hrests', fun line hline => ?_⟩
      obtain ⟨hr'', hle⟩ := htook line hline
      exact ⟨hr'', Nat.le_trans hle hdue⟩

/-- **Reading a line** without a prompt. -/
theorem readLine_yields {chunk supply : Nat} (hchunk : chunk < Script.limit) (h : s.Rests m) (hr : r.Listening chunk)
    (hsupply : Sim.supply m ≤ supply) :
    (r.readLine supply "").Yields (Sim.kernel depth) m fun x m' => s.Rests m' ∧ Took chunk (r.due m) x m' := by
  have hskip : (r.skip supply).run (Sim.kernel depth) m = some ((.ok (), r), m) := by
    rw [skip.eq_def, hr.skipping_eq]
    rfl
  unfold readLine
  refine .seq_run (Sim.run_printText_empty depth) (.seq_run hskip (.seq (.allocate _ m) fun granted m₁ hheap => ?_))
  obtain ⟨heap, rfl⟩ := hheap
  cases granted with
  | error e => exact .pure ⟨h, nofun⟩
  | ok _ =>
    refine (fill_yields depth hchunk supply (m := { m with heap := heap }) {} h hr hsupply).mono fun x m' ⟨hrests, htook⟩ =>
      ⟨hrests, fun line hline => ?_⟩
    obtain ⟨hr', hle⟩ := htook line hline
    have hdue : r.due { m with heap := heap } = r.due m := rfl
    rw [hdue, List.length_nil, Nat.zero_add] at hle
    exact ⟨hr', hle⟩

end Reader

/-! ## Typed lines -/

/-- **Typed lines**, on any console and any heap: with rounds for all that is due, typing ends, and of what is due each byte
comes to no more than two. -/
theorem Program.typedLines_yields {s : Sim} {chunk : Nat} (depth supply : Nat) (hchunk : chunk < Script.limit) :
    ∀ (rounds : Nat) {r : Reader} {m : Machine Sim} (content : String), s.Rests m → r.Listening chunk →
    r.due m ≤ supply → r.due m < rounds →
    (typedLines supply r content rounds).Yields (Sim.kernel depth) m fun result m' =>
      s.Rests m' ∧ ∀ typed, result = .ok typed → Text.size typed ≤ Text.size content + 2 * r.due m := by
  intro rounds
  induction rounds with
  | zero => exact fun _ _ _ _ hrounds => absurd hrounds (Nat.not_lt_zero _)
  | succ rounds ih =>
    intro r m content h hr hsupply hrounds
    unfold typedLines
    have hconsole : Sim.supply m ≤ supply := Nat.le_trans (Nat.le_add_left _ _) hsupply
    refine .seq (Reader.readLine_yields depth hchunk h hr hconsole) fun ⟨result, r'⟩ m₁ ⟨hrests, htook⟩ => ?_
    cases result with
    | error e =>
      cases e with
      | endOfInput =>
        refine .pure ⟨hrests, ?_⟩
        rintro _ ⟨⟩
        exact Nat.le_add_right _ _
      | _ => exact .pure ⟨hrests, nofun⟩
    | ok line =>
      obtain ⟨hr', hle⟩ := htook line rfl
      refine .seq_run (Prog.run_free _ m₁) ?_
      let m₂ : Machine Sim := { m₁ with heap := m₁.heap.free line.size }
      have hdue : r'.due m₂ = r'.due m₁ := rfl
      split
      · refine .pure ⟨hrests, ?_⟩
        rintro _ ⟨⟩
        exact Nat.le_add_right _ _
      · next hne =>
        -- a line that is not empty takes at least one byte
        have hpos : 0 < Text.size line.text := by
          rw [← Text.length_bytes, List.length_pos_iff]
          exact fun hnil => hne (Text.bytes_eq_nil_iff.1 hnil)
        dsimp only at hle
        refine (ih (r := r') (m := m₂) (content ++ line.text ++ "\n") hrests hr' (by omega)
          (by omega)).mono fun typed m' ⟨hrests', hsize⟩ => ⟨hrests', fun text htext => ?_⟩
        have hsize := hsize text htext
        have hcontent : Text.size (content ++ line.text ++ "\n") = Text.size content + Text.size line.text + 1 := by
          simp only [← Text.length_bytes, Text.bytes_append, List.length_append]
          rfl
        rw [hcontent, hdue] at hsize
        omega

end LineShell
