import LineShell.Proofs.Balance
import LineShell.Proofs.Deliveries

/-!
# A reader with its cursor

A reader may also keep its batch in one place and count how far it has looked at it, as `IndexedReader` does. Such a reader
goes by index, which may be out of range, and puts bytes into a block, which may be too small. In its programs each of these
bounds is checked wherever a byte is looked at and behind each call, and `none` is the answer where a check fails.

- `Reader.fill_indexed`, `Reader.skip_indexed`: from byte to byte, it asks for what a reader of batches asks for, and no
  check fails;
- `Reader.readEach_safe`: so do calls one after the other, which leave no blocks but those of their lines, and each of which
  begins where the one before it has ended.
-/

namespace LineShell

open Prog (carried)

instance (d : Draft) : Decidable d.Fits :=
  decidable_of_iff (d.length = d.reversed.length ∧ d.length ≤ d.size ∧ 0 < d.size)
    ⟨fun ⟨length_eq, length_le, size_pos⟩ => ⟨length_eq, length_le, size_pos⟩,
      fun ⟨length_eq, length_le, size_pos⟩ => ⟨length_eq, length_le, size_pos⟩⟩

/-- A reader that counts how far it has looked at the batch that it keeps. -/
structure IndexedReader where
  /-- The size of a batch. -/
  chunk : Nat
  /-- The batch fetched last. -/
  pending : Bytes := []
  /-- How many bytes of it were looked at. -/
  cursor : Nat := 0
  /-- Whether the rest of a dropped line is still to come. -/
  skipping : Bool := false
deriving DecidableEq, Repr

/-- A line that was read sits in a block with room for it. -/
def Housed : Except ReadError Line → Prop
  | .ok line => (Text.bytes line.text).length ≤ line.size
  | .error _ => True

instance : DecidablePred Housed
  | .ok _ => Nat.decLe ..
  | .error _ => .isTrue trivial

namespace IndexedReader

/-- The cursor is in the batch or at its end, and the batch is no longer than it may be. -/
structure InBounds (r : IndexedReader) : Prop where
  cursor_le : r.cursor ≤ r.pending.length
  pending_le : r.pending.length ≤ r.chunk

instance (r : IndexedReader) : Decidable r.InBounds :=
  decidable_of_iff (r.cursor ≤ r.pending.length ∧ r.pending.length ≤ r.chunk)
    ⟨fun ⟨cursor_le, pending_le⟩ => ⟨cursor_le, pending_le⟩, fun ⟨cursor_le, pending_le⟩ => ⟨cursor_le, pending_le⟩⟩

/-- A reader that fetches `chunk` bytes at a time, at least one. -/
def ofChunk (chunk : Nat) : IndexedReader :=
  { chunk := max chunk 1 }

/-- The reader behind the byte at its cursor. -/
def past (r : IndexedReader) (skipping : Bool) : IndexedReader :=
  { r with cursor := r.cursor + 1, skipping := skipping }

/-- Fetch the next batch. The last one is brought to the size of a buffer, the kernel writes to the start of it, and what it
counts is kept. -/
def fetch (r : IndexedReader) : Prog (Except SysError Nat × IndexedReader) := do
  let buffer := r.pending.take r.chunk ++ List.replicate (r.chunk - r.pending.length) 0
  match ← Prog.read .stdin (UInt64.ofNat r.chunk) 0 with
  | .error e => return (.error e, { r with pending := [], cursor := 0 })
  | .ok (count, data) =>
    let filled := (data ++ buffer.drop data.length).take r.chunk
    return (.ok count, { r with pending := filled.take count, cursor := 0 })

/-- Pass over the rest of a dropped line. -/
def skip (supply : Nat) (r : IndexedReader) : Prog (Option (Except SysError Unit × IndexedReader)) :=
  if ¬r.InBounds then return none
  else if !r.skipping then return some (.ok (), r)
  else if r.cursor = r.pending.length then do
    match ← r.fetch with
    | (.error e, r) => return some (.error e, r)
    | (.ok 0, r) => return some (.ok (), { r with skipping := false })
    | (.ok (_ + 1), r) =>
      match supply with
      | 0 => .stuck
      | supply + 1 =>
        -- the byte at the cursor is looked at next
        if r.cursor < r.pending.length then skip supply r else return none
  else if h : r.cursor < r.pending.length then skip supply (r.past (r.pending[r.cursor] != newline))
  else return none
termination_by (supply, r.pending.length - r.cursor)
decreasing_by
  · exact Prod.Lex.left _ _ (Nat.lt_succ_self _)
  · exact Prod.Lex.right _ (Nat.sub_succ_lt_self _ _ h)

/-- Take bytes up to a newline or the end of the input. -/
def fill (supply : Nat) (r : IndexedReader) (d : Draft) : Prog (Option (Except ReadError Line × IndexedReader)) :=
  if ¬(r.InBounds ∧ d.Fits) then return none
  else if r.cursor = r.pending.length then do
    match ← r.fetch with
    | (.error e, r) => do
      d.drop
      return some (.error (.io e), r)
    | (.ok 0, r) =>
      if d.length = 0 then do
        d.drop
        return some (.error .endOfInput, r)
      else return some (← d.finish, r)
    | (.ok (_ + 1), r) =>
      match supply with
      | 0 => .stuck
      | supply + 1 =>
        -- the byte at the cursor is looked at next
        if r.cursor < r.pending.length then fill supply r d else return none
  else if h : r.cursor < r.pending.length then do
    let b := r.pending[r.cursor]
    if b = newline then return some (← d.finish, r.past r.skipping)
    else if d.length = d.size then do
      match ← d.grow with
      | .error _ => do
        d.drop
        return some (.error .alloc, r.past true)
      | .ok d => fill supply (r.past r.skipping) (d.push b)
    else fill supply (r.past r.skipping) (d.push b)
  else return none
termination_by (supply, r.pending.length - r.cursor)
decreasing_by
  · exact Prod.Lex.left _ _ (Nat.lt_succ_self _)
  · exact Prod.Lex.right _ (Nat.sub_succ_lt_self _ _ h)
  · exact Prod.Lex.right _ (Nat.sub_succ_lt_self _ _ h)

/-- The next line. A prompt is written first, unless it is empty. -/
def readLine (supply : Nat) (r : IndexedReader) (prompt : String) :
    Prog (Option (Except ReadError Line × IndexedReader)) := do
  match ← Prog.printText prompt with
  | .error e => return some (.error (.io e), r)
  | .ok () =>
    match ← r.skip supply with
    | none => return none
    | some (.error e, r) => return some (.error (.io e), r)
    | some (.ok (), r) =>
      match ← Prog.allocate (.malloc 1) with
      | .error _ => return some (.error .alloc, r)
      | .ok () => r.fill supply {}

/-- Calls one after the other. -/
def readEach (supply : Nat) :
    List String → IndexedReader → Prog (Option (List (Except ReadError Line) × IndexedReader))
  | [], r => return some ([], r)
  | prompt :: prompts, r => do
    match ← r.readLine supply prompt with
    | none => return none
    | some (result, r) =>
      if ¬(r.InBounds ∧ Housed result) then return none
      else
        match ← readEach supply prompts r with
        | none => return none
        | some (results, r) => return some (result :: results, r)

end IndexedReader

/-! ## The same reader -/

namespace Reader

/-- The reader, with its place in the batch as a number. -/
def indexed (r : Reader) : IndexedReader :=
  { chunk := r.chunk, pending := r.batch, cursor := r.batch.length - r.unread.length, skipping := r.skipping }

/-- A program of a reader as one in which checks are made and none fails. -/
def unfailing {α : Type} (p : Prog (α × Reader)) : Prog (Option (α × IndexedReader)) := do
  let (value, r) ← p
  return some (value, r.indexed)

theorem unfailing_seq {α β : Type} (p : Prog β) (f : β → Prog (α × Reader)) :
    unfailing (p >>= f) = p >>= fun value => unfailing (f value) :=
  Prog.seq_assoc ..

theorem seq_unfailing {α β : Type} (p : Prog (α × Reader)) (f : Option (α × IndexedReader) → Prog β) :
    unfailing p >>= f = p >>= fun (value, r) => f (some (value, r.indexed)) :=
  Prog.seq_assoc ..

/-- What is in a buffer of `chunk` bytes after the kernel wrote to its start. -/
theorem overwritten_eq_take (chunk : Nat) (old new : Bytes) (count : Nat) :
    overwritten chunk old new count =
      ((new ++ (old.take chunk ++ List.replicate (chunk - old.length) 0).drop new.length).take chunk).take count := by
  apply List.ext_getElem?
  intro i
  simp only [overwritten, List.getElem?_take, List.getElem?_append, List.getElem?_drop, List.getElem?_replicate,
    List.length_append, List.length_drop, List.length_take]
  grind

theorem indexed_fetch (r : Reader) :
    r.indexed.fetch = r.fetch >>= fun fetched => pure (fetched.1, fetched.2.indexed) := by
  rw [fetch, IndexedReader.fetch, Prog.seq_assoc]
  refine congrArg (Prog.read _ _ _ >>= ·) (funext fun answer => ?_)
  obtain e | ⟨count, data⟩ := answer
  · simp [Prog.pure_seq, indexed]
  · simp [Prog.pure_seq, indexed, overwritten_eq_take]

variable {r : Reader}

namespace Placed

theorem length_le (hr : r.Placed) : r.unread.length ≤ r.batch.length :=
  hr.unread_suffix.length_le

theorem inBounds (hr : r.Placed) : r.indexed.InBounds :=
  ⟨Nat.sub_le .., hr.batch_le⟩

/-- The cursor is at the end of the batch if nothing is left to be looked at. -/
theorem cursor_eq_iff (hr : r.Placed) : r.indexed.cursor = r.indexed.pending.length ↔ r.unread = [] := by
  have hle := hr.length_le
  rw [← List.length_eq_zero_iff]
  simp only [indexed]
  omega

theorem cursor_lt (hr : r.Placed) (h : r.unread ≠ []) : r.indexed.cursor < r.indexed.pending.length :=
  Nat.lt_of_le_of_ne hr.inBounds.cursor_le fun heq => h (hr.cursor_eq_iff.1 heq)

/-- At the cursor is the byte that is to be looked at next. -/
theorem getElem_cursor (hr : r.Placed) {b : UInt8} {rest : Bytes} (hunread : r.unread = b :: rest)
    (h : r.indexed.cursor < r.indexed.pending.length) : r.indexed.pending[r.indexed.cursor] = b := by
  obtain ⟨front, hfront⟩ := hr.unread_suffix
  have hcursor : r.indexed.cursor = front.length := by simp [indexed, ← hfront]
  have hpending : r.indexed.pending = front ++ b :: rest := by rw [← hunread, hfront, indexed]
  simp [hcursor, hpending]

/-- Looking at it moves the cursor past it. -/
theorem indexed_tail (hr : r.Placed) {b : UInt8} {rest : Bytes} (h : r.unread = b :: rest) (skipping : Bool) :
    indexed { r with unread := rest, skipping := skipping } = r.indexed.past skipping := by
  have hle := hr.length_le
  rw [h, List.length_cons] at hle
  simp only [indexed, IndexedReader.past, h, List.length_cons, IndexedReader.mk.injEq, true_and, and_true]
  omega

theorem tail (hr : r.Placed) {b : UInt8} {rest : Bytes} (h : r.unread = b :: rest) (skipping : Bool) :
    Placed { r with unread := rest, skipping := skipping } :=
  (Takes.byte h (.nothing { r with unread := rest } skipping)).placed hr

end Placed

/-- **Passing over a dropped line**, no check fails. -/
theorem skip_indexed (supply : Nat) (r : Reader) (hr : r.Placed) :
    r.indexed.skip supply = unfailing (r.skip supply) := by
  rw [IndexedReader.skip, if_neg (not_not_intro hr.inBounds)]
  cases hskip : r.skipping with
  | false =>
    rw [skip_idle supply hskip, if_pos (by simp [indexed, hskip])]
    rfl
  | true =>
    rw [if_neg (by simp [indexed, hskip])]
    cases hunread : r.unread with
    | nil =>
      rw [if_pos (hr.cursor_eq_iff.2 hunread), skip_nil supply hskip hunread, unfailing_seq, indexed_fetch,
        Prog.seq_assoc]
      refine Prog.seq_congr fun log fetched hfetch => ?_
      obtain ⟨_ | _ | n, r₁⟩ := fetched
      · rfl
      · rfl
      · obtain ⟨hr₁, hsome⟩ := fetch_more hr hunread hfetch
        cases supply with
        | zero => rfl
        | succ supply =>
          simp only [Prog.pure_seq]
          rw [if_pos (hr₁.cursor_lt hsome)]
          exact skip_indexed supply r₁ hr₁
    | cons b rest =>
      have hlt := hr.cursor_lt (by simp [hunread])
      rw [if_neg (Nat.ne_of_lt hlt), dif_pos hlt, hr.getElem_cursor hunread hlt, skip_cons supply hskip hunread,
        ← hr.indexed_tail hunread]
      exact skip_indexed supply _ (hr.tail hunread _)
termination_by (supply, r.unread.length)
decreasing_by
  · exact Prod.Lex.left _ _ (by omega)
  · exact Prod.Lex.right _ (by simp [hunread])

/-- **Filling a line**, no check fails. -/
theorem fill_indexed (supply : Nat) (r : Reader) (d : Draft) (hr : r.Placed) (hd : d.Fits) :
    r.indexed.fill supply d = unfailing (r.fill supply d) := by
  rw [IndexedReader.fill, if_neg (not_not_intro ⟨hr.inBounds, hd⟩)]
  cases hunread : r.unread with
  | nil =>
    rw [if_pos (hr.cursor_eq_iff.2 hunread), fill_nil supply hunread, unfailing_seq, indexed_fetch, Prog.seq_assoc]
    refine Prog.seq_congr fun log fetched hfetch => ?_
    obtain ⟨_ | _ | n, r₁⟩ := fetched
    · rfl
    · simp only [Prog.pure_seq]
      by_cases hlength : d.length = 0
      · simp only [hlength, ↓reduceIte]
        rfl
      · simp only [hlength, ↓reduceIte, unfailing_seq]
        rfl
    · obtain ⟨hr₁, hsome⟩ := fetch_more hr hunread hfetch
      cases supply with
      | zero => rfl
      | succ supply =>
        simp only [Prog.pure_seq]
        rw [if_pos (hr₁.cursor_lt hsome)]
        exact fill_indexed supply r₁ d hr₁ hd
  | cons b rest =>
    have hlt := hr.cursor_lt (by simp [hunread])
    have htail := hr.tail hunread r.skipping
    have hindexed : indexed { r with unread := rest } = r.indexed.past r.indexed.skipping :=
      hr.indexed_tail hunread r.skipping
    simp only [if_neg (Nat.ne_of_lt hlt), dif_pos hlt, hr.getElem_cursor hunread hlt, fill_cons supply hunread,
      ← hindexed]
    by_cases hb : b = newline
    · rw [if_pos hb, if_pos hb, unfailing_seq]
      rfl
    · rw [if_neg hb, if_neg hb]
      by_cases hroom : d.length < d.size
      · rw [if_neg (Nat.ne_of_lt hroom), if_pos hroom]
        exact fill_indexed supply _ _ htail (hd.push hroom b)
      · rw [if_pos (Nat.le_antisymm hd.length_le (Nat.le_of_not_lt hroom)), if_neg hroom, unfailing_seq]
        refine Prog.seq_congr fun log grown hgrow => ?_
        cases grown with
        | error e =>
          simp only [unfailing_seq, ← hr.indexed_tail hunread true]
          rfl
        | ok d' =>
          obtain rfl := (Draft.grow_dialogue hgrow).2 d' rfl
          exact fill_indexed supply _ _ htail (hd.push_doubled b)
termination_by (supply, r.unread.length)
decreasing_by
  · exact Prod.Lex.left _ _ (by omega)
  · exact Prod.Lex.right _ (by simp [hunread])
  · exact Prod.Lex.right _ (by simp [hunread])

/-- **A call**, no check fails. -/
theorem readLine_indexed (supply : Nat) (prompt : String) (hr : r.Placed) :
    r.indexed.readLine supply prompt = unfailing (r.readLine supply prompt) := by
  rw [IndexedReader.readLine, readLine, unfailing_seq]
  refine Prog.seq_congr fun log printed _ => ?_
  cases printed with
  | error e => rfl
  | ok _ =>
    simp only [skip_indexed supply r hr, seq_unfailing, unfailing_seq]
    refine Prog.seq_congr fun log skipped hskip => ?_
    obtain ⟨_ | _, r₁⟩ := skipped
    · rfl
    · obtain ⟨_, htakes, -⟩ := skip_dialogue supply r hr hskip
      simp only [unfailing_seq]
      refine Prog.seq_congr fun log granted _ => ?_
      cases granted with
      | error e => rfl
      | ok _ => exact fill_indexed supply r₁ {} (htakes.placed hr) ⟨rfl, Nat.zero_le _, Nat.one_pos⟩

/-! ## Calls one after the other -/

/-- Calls one after the other, with these prompts. -/
def readEach (supply : Nat) : List String → Reader → Prog (List (Except ReadError Line) × Reader)
  | [], r => return ([], r)
  | prompt :: prompts, r => do
    let (result, r) ← r.readLine supply prompt
    let (results, r) ← readEach supply prompts r
    return (result :: results, r)

/-- What calls take one after the other, and what they answer: each begins in the state, in the middle of a dropped line or
not, that the one before it has left, and takes what comes behind what that one took. -/
inductive Calls : List String → Bool → List Delivery → List (Except ReadError Line) → Bool → Prop
  | none (skipping : Bool) : Calls [] skipping [] [] skipping
  | more {prompt : String} {prompts : List String} {skipping between after : Bool} {taken others : List Delivery}
    {result : Except ReadError Line} {results : List (Except ReadError Line)}
    (h : Answers prompt skipping taken result between) (hmore : Calls prompts between others results after) :
    Calls (prompt :: prompts) skipping (taken ++ others) (result :: results) after

theorem Answers.housed {prompt : String} {skipping after : Bool} {taken : List Delivery} {result : Except ReadError Line}
    (h : Answers prompt skipping taken result after) : Housed result := by
  cases result with
  | error e => trivial
  | ok line => exact h.held_le

theorem readEach_calls (supply : Nat) : ∀ (prompts : List String) {r r' : Reader} {log : List Exchange}
    {results : List (Except ReadError Line)}, r.Placed → (readEach supply prompts r).Dialogue log (results, r') →
    ∃ taken, r.Takes log taken r' ∧ Calls prompts r.skipping taken results r'.skipping
  | [], r, r', log, results, hr, h => by
    obtain ⟨rfl, heq⟩ := Prog.dialogue_pure.1 h
    cases heq
    exact ⟨[], .nothing r r.skipping, .none _⟩
  | prompt :: prompts, r, r', log, results, hr, h => by
    obtain ⟨⟨result, r₁⟩, before, _, rfl, hread, hrest⟩ := Prog.dialogue_seq.1 h
    obtain ⟨⟨others, r₂⟩, behind, _, rfl, hothers, hend⟩ := Prog.dialogue_seq.1 hrest
    obtain ⟨rfl, heq⟩ := Prog.dialogue_pure.1 hend
    cases heq
    obtain ⟨taken, htakes, hanswers⟩ := readLine_answers hr hread
    obtain ⟨more, hmore, hcalls⟩ := readEach_calls supply prompts (htakes.placed hr) hothers
    exact ⟨taken ++ more, by simpa using htakes.trans hmore, .more hanswers hcalls⟩

theorem readEach_indexed (supply : Nat) : ∀ (prompts : List String) {r : Reader}, r.Placed →
    r.indexed.readEach supply prompts = unfailing (r.readEach supply prompts)
  | [], r, hr => rfl
  | prompt :: prompts, r, hr => by
    rw [IndexedReader.readEach, readEach, readLine_indexed supply prompt hr, seq_unfailing, unfailing_seq]
    refine Prog.seq_congr fun log read hread => ?_
    obtain ⟨result, r₁⟩ := read
    obtain ⟨taken, htakes, hanswers⟩ := readLine_answers hr hread
    have hr₁ := htakes.placed hr
    dsimp only
    rw [if_neg (not_not_intro ⟨hr₁.inBounds, hanswers.housed⟩), readEach_indexed supply prompts hr₁, seq_unfailing,
      unfailing_seq]
    rfl

theorem readEach_carries (supply : Nat) : ∀ (prompts : List String) (r : Reader),
    (readEach supply prompts r).Carries 0 fun read => (read.1.map (carried Line.blocks)).sum
  | [], r => .pure rfl
  | prompt :: prompts, r => by
    refine .seq (r.readLine_carries supply prompt) fun ⟨result, r₁⟩ => ?_
    have hframed := (readEach_carries supply prompts r₁).frame (carried Line.blocks result)
    rw [zero_add] at hframed
    exact .seq hframed fun ⟨results, r₂⟩ => .pure (by simp [add_comm])

theorem ofChunk_placed (chunk : Nat) : (ofChunk chunk).Placed :=
  ⟨List.nil_suffix, Nat.zero_le _, Nat.le_max_right chunk 1⟩

/-- **Calls one after the other** to a new reader, whatever is replied and granted. A reader with a cursor does the same
and none of its checks fails: its cursor is in its batch, which is no longer than a batch may be, where a byte is looked at
there is one, and a line is never larger than its block. The calls leave no blocks but those of the lines that they answer.
And they take what the reader was brought piece by piece from the front, however they end, so that a line begins with the
first byte that was not taken for a line before it, dropped or not. -/
theorem readEach_safe (chunk supply : Nat) (prompts : List String) :
    (IndexedReader.ofChunk chunk).readEach supply prompts = unfailing ((ofChunk chunk).readEach supply prompts) ∧
    ((ofChunk chunk).readEach supply prompts).Carries 0 (fun read => (read.1.map (carried Line.blocks)).sum) ∧
    ∀ log results r, ((ofChunk chunk).readEach supply prompts).Dialogue log (results, r) →
      ∃ taken, (ofChunk chunk).stream log = taken ++ r.unread.map .byte ∧
        Calls prompts false taken results r.skipping := by
  refine ⟨readEach_indexed supply prompts (ofChunk_placed chunk), readEach_carries supply prompts _,
    fun log results r h => ?_⟩
  obtain ⟨taken, htakes, hcalls⟩ := readEach_calls supply prompts (ofChunk_placed chunk) h
  exact ⟨taken, by simpa [stream, deliveries] using htakes.stream_eq [], hcalls⟩

/-- A count above what was written and what there is room for, one with nothing written behind it, a fault in the middle of
a line for which there was no room, and at last no room for any line. -/
theorem readEach_safe_lying :
    let replies : List Reply := [⟨9, .bytes (Text.bytes "ab\n")⟩, ⟨2, .nothing⟩, .refused,
      ⟨3, .bytes (Text.bytes "x\ny")⟩, ⟨0, .nothing⟩]
    let log : List Exchange := replies.map fun reply => ⟨.read .stdin 4 0, reply⟩
    let results : List (Except ReadError Line) := [.ok ⟨"ab", 2⟩, .error .alloc, .error (.io Operation.read.failed),
      .ok ⟨"y", 1⟩, .error .alloc]
    let r : Reader := ofChunk 4
    ((r.readEach 3 ["", "", "", "", ""]).Dialogue log (results, r) ∧
      r.stream log = (Text.bytes "ab\n\x00ab").map .byte ++ [.fault] ++ (Text.bytes "x\ny").map .byte ++ [.ending]) ∧
    Calls ["", "", "", "", ""] false (r.stream log) results false := by
  intro replies log results r
  -- a kernel that gives these replies, on a heap of three bytes
  let K : Kernel (List Reply) :=
    ⟨fun _ m => m.state.head?.map fun reply => (reply, { m with state := m.state.tail }), fun _ => 0⟩
  let m : Machine (List Reply) := { heap := { limit := some 3 }, state := replies }
  have hrun : ((r.readEach 3 ["", "", "", "", ""]).run K m).map Prod.fst = some (results, r) := by decide +kernel
  have hlog : (r.readEach 3 ["", "", "", "", ""]).trace K m = log := by decide +kernel
  obtain ⟨⟨read, m'⟩, hrun, rfl⟩ := Option.map_eq_some_iff.1 hrun
  have hdialogue := hlog ▸ Prog.dialogue_trace hrun
  obtain ⟨-, -, hcalls⟩ := readEach_safe 4 3 ["", "", "", "", ""]
  obtain ⟨taken, hstream, htaken⟩ := hcalls log results r hdialogue
  have hunread : r.unread = [] := rfl
  rw [hunread, List.map_nil, List.append_nil] at hstream
  exact ⟨⟨hdialogue, by decide +kernel⟩, hstream ▸ htaken⟩

end Reader

end LineShell
