import LineShell.Proofs.Sim.Console

/-!
# Reading a line, byte by byte

A reader fetches its bytes in batches. What it makes of them is what a reader of single bytes makes of the arrivals
(`Draft.take`): the batch and the console behind it are one list of arrivals, and the batch only says how much of it
has left the console already.

- `Draft.run_extend`: appending a run of bytes is appending them one by one;
- `Reader.run_fill`, `Reader.run_skip`, `Reader.run_readLine`: from any division into chunks and batches, the result,
  the heap, and the arrivals that are left are those of `Draft.take` and `dropLine`.
-/

namespace LineShell

/-! ## One byte at a time -/

/-- What reading a line comes to: the result, the heap and the arrivals that are left, and whether the rest of a
dropped line is still among them. -/
structure Taken where
  result : Except ReadError Line
  heap : Heap
  left : List Arrival
  skipping : Bool

namespace Draft

/-- The draft as a line, with nothing more to come for it. -/
def close (heap : Heap) (d : Draft) (left : List Arrival) : Taken :=
  match Text.decode? d.reversed.reverse with
  | some text => ⟨.ok ⟨text, d.size⟩, heap, left, false⟩
  | none => ⟨.error .encoding, heap.free d.size, left, false⟩

/-- The heap after the block of a draft was doubled, if there is room. -/
def doubled (heap : Heap) (d : Draft) : Option Heap :=
  if d.size * 2 < wordLimit then heap.realloc d.size (d.size * 2) else none

/-- Go on with a line from the arrivals, one by one. -/
def take (heap : Heap) (d : Draft) : List Arrival → Taken
  | [] => if d.length = 0 then ⟨.error .endOfInput, heap.free d.size, [], false⟩ else d.close heap []
  | .fault :: rest => ⟨.error (.io Operation.read.failed), heap.free d.size, rest, false⟩
  | .byte b :: rest =>
    if b = newline then d.close heap rest
    else if d.length < d.size then take heap (d.push b) rest
    else
      match d.doubled heap with
      | none => ⟨.error .alloc, heap.free d.size, rest, true⟩
      | some heap => take heap (push { d with size := d.size * 2 } b) rest

end Draft

/-- The arrivals after the first newline, or after everything; a fault on the way ends the search behind it. The answer
tells whether there was none. -/
def dropLine : List Arrival → Bool × List Arrival
  | [] => (true, [])
  | .fault :: rest => (false, rest)
  | .byte b :: rest => if b = newline then (true, rest) else dropLine rest

theorem dropLine_append {data : Bytes} (h : newline ∉ data) (rest : List Arrival) :
    dropLine (data.map .byte ++ rest) = dropLine rest := by
  induction data with
  | nil => rfl
  | cons b data ih =>
    have hb : b ≠ newline := fun e => h (by simp [e])
    simpa [dropLine, hb] using ih fun hmem => h (List.mem_cons_of_mem _ hmem)

/-- The arrivals after the rest of a dropped line, if that is still to come. -/
def skipped (skipping : Bool) (arrivals : List Arrival) : Bool × List Arrival :=
  if skipping then dropLine arrivals else (true, arrivals)

/-- Read a line from the arrivals, after the rest of a dropped one if that is still to come. -/
def Taken.ofArrivals (heap : Heap) (skipping : Bool) (arrivals : List Arrival) : Taken :=
  match skipped skipping arrivals with
  | (false, left) => ⟨.error (.io Operation.read.failed), heap, left, true⟩
  | (true, left) =>
    match heap.malloc 1 with
    | none => ⟨.error .alloc, heap, left, false⟩
    | some heap => Draft.take heap {} left

theorem Heap.malloc_one (heap : Heap) :
    heap.malloc 1 = if heap.admits (heap.inUse + 1) then
      some { heap with inUse := heap.inUse + 1, blocks := heap.blocks + 1 } else none := by
  unfold malloc charge
  split <;> rfl

/-! ## Drafts -/

namespace Draft

@[simp] theorem close_left (heap : Heap) (d : Draft) (left : List Arrival) : (d.close heap left).left = left := by
  unfold close
  split <;> rfl

@[simp] theorem close_skipping (heap : Heap) (d : Draft) (left : List Arrival) :
    (d.close heap left).skipping = false := by
  unfold close
  split <;> rfl

variable (K : Kernel Sim)

theorem run_grow (d : Draft) (m : Machine Sim) (heap : Heap) (script : Script) :
    d.grow.run K (m.facing heap script) =
      some (match d.doubled heap with
        | some heap => (.ok { d with size := d.size * 2 }, m.facing heap script)
        | none => (.error .outOfMemory, m.facing heap script)) := by
  unfold grow doubled
  by_cases hword : d.size * 2 < wordLimit
  · simp only [hword, ↓reduceIte, Prog.run_seq, Prog.run_allocate, Option.bind_some, Machine.facing_heap]
    cases hre : heap.realloc d.size (d.size * 2) with
    | none => simp [Heap.serve, hre, Heap.serve.answer]
    | some heap => simp [Heap.serve, hre, Heap.serve.answer]
  · simp [hword]

theorem run_finish (d : Draft) (m : Machine Sim) (heap : Heap) (script : Script) (left : List Arrival) :
    d.finish.run K (m.facing heap script) =
      some ((d.close heap left).result, m.facing (d.close heap left).heap script) := by
  unfold finish close
  cases Text.decode? d.reversed.reverse with
  | none => rfl
  | some text => rfl

/-- Appending bytes of one line goes on like appending them one by one. -/
theorem run_extend (m : Machine Sim) (script : Script) : ∀ (data : Bytes) (d : Draft) (heap : Heap),
    newline ∉ data →
    (∃ d' heap', (d.extend data).run K (m.facing heap script) = some ((d', none), m.facing heap' script) ∧
      ∀ rest, d.take heap (data.map .byte ++ rest) = d'.take heap' rest) ∨
    (∃ d' heap' left, (d.extend data).run K (m.facing heap script) = some ((d', some left), m.facing heap' script) ∧
      left.length < data.length ∧ ∀ rest, d.take heap (data.map .byte ++ rest) =
        ⟨.error .alloc, heap'.free d'.size, left.map .byte ++ rest, true⟩)
  | [], d, heap, _ => .inl ⟨d, heap, rfl, fun _ => rfl⟩
  | b :: data, d, heap, hline => by
    have hb : b ≠ newline := fun h => hline (by simp [h])
    have hdata : newline ∉ data := fun h => hline (List.mem_cons_of_mem _ h)
    by_cases hroom : d.length < d.size
    · have hstep : ∀ rest, d.take heap ((b :: data).map .byte ++ rest) =
          (d.push b).take heap (data.map .byte ++ rest) := fun rest => by
        simp [take, hb, hroom]
      rw [extend, if_pos hroom]
      simp only [hstep]
      exact (run_extend m script data (d.push b) heap hdata).imp_right fun ⟨d', heap', left, hrun, hlt, htake⟩ =>
        ⟨d', heap', left, hrun, Nat.lt_succ_of_lt hlt, htake⟩
    · rw [extend, if_neg hroom]
      simp only [Prog.run_seq, run_grow, Option.bind_some]
      cases hgrow : d.doubled heap with
      | none =>
        exact .inr ⟨d, heap, data, rfl, Nat.lt_succ_self _, fun rest => by simp [take, hb, hroom, hgrow]⟩
      | some heap' =>
        have hstep : ∀ rest, d.take heap ((b :: data).map .byte ++ rest) =
            (push { d with size := d.size * 2 } b).take heap' (data.map .byte ++ rest) := fun rest => by
          simp [take, hb, hroom, hgrow]
        simp only [hstep]
        exact (run_extend m script data (push { d with size := d.size * 2 } b) heap' hdata).imp_right
          fun ⟨d', heap', left, hrun, hlt, htake⟩ => ⟨d', heap', left, hrun, Nat.lt_succ_of_lt hlt, htake⟩

end Draft

/-! ## Readers -/

namespace Reader

/-- Between the reader and the console that holds `script`, these arrivals are still to come; a reader that is
`skipping` passes over the first line of them. -/
structure Awaits (r : Reader) (script : Script) (arrivals : List Arrival) (skipping : Bool) : Prop where
  arrivals_eq : r.unread.map .byte ++ script.arrivals = arrivals
  skipping_eq : r.skipping = skipping
  unread_le : r.unread.length ≤ r.chunk
  chunk_pos : 0 < r.chunk
  chunk_lt : r.chunk < wordLimit
  fits : script.arrivals.length < Script.limit

/-- A reader that keeps some other bytes, before a console that did not get more, awaits these bytes and what is on the
console. -/
theorem Awaits.keeping {r : Reader} {script script' : Script} {arrivals : List Arrival} {skipping : Bool}
    (hr : r.Awaits script arrivals skipping) (batch kept : Bytes) (skipping' : Bool)
    (hkept : kept.length ≤ r.chunk) (hle : script'.arrivals.length ≤ script.arrivals.length) :
    ({ chunk := r.chunk, batch := batch, unread := kept, skipping := skipping' } : Reader).Awaits script'
      (kept.map .byte ++ script'.arrivals) skipping' :=
  ⟨rfl, rfl, hkept, hr.chunk_pos, hr.chunk_lt, Nat.lt_of_le_of_lt hle hr.fits⟩

/-- The same with its own bytes, before a console that lost some of its input. -/
theorem Awaits.drained {r : Reader} {script script' : Script} {arrivals : List Arrival} {skipping : Bool}
    (hr : r.Awaits script arrivals skipping) (hle : script'.arrivals.length ≤ script.arrivals.length) :
    r.Awaits script' (r.unread.map .byte ++ script'.arrivals) skipping :=
  hr.skipping_eq ▸ hr.keeping r.batch r.unread r.skipping hr.unread_le hle

/-- A fresh reader awaits what is on the console. -/
theorem ofChunk_awaits (batch : UInt64) {script : Script} (hfits : script.arrivals.length < Script.limit) :
    (ofChunk batch.toNat).Awaits script script.arrivals false := by
  have hlt : batch.toNat < wordLimit := batch.toNat_lt
  refine ⟨rfl, rfl, Nat.zero_le _, ?_, ?_, hfits⟩
  · simp only [ofChunk]
    omega
  · simp only [ofChunk]
    simp only [wordLimit] at hlt ⊢
    omega

/-- A batch that was filled from its start holds what was delivered. -/
theorem overwritten_eq {room : Nat} (old : Bytes) {new : Bytes} (h : new.length ≤ room) :
    overwritten room old new new.length = new := by
  simp [overwritten, Nat.min_eq_left h]

variable (depth : Nat) (m : Machine Sim) (heap : Heap)

/-- The next batch: nothing at the end, a fault, or some of the bytes before the next fault. -/
theorem run_fetch {r : Reader} {script : Script} {arrivals : List Arrival} {skipping : Bool}
    (hr : r.Awaits script arrivals skipping) :
    (script.arrivals = [] ∧ r.fetch.run (Sim.kernel depth) (m.facing heap script) =
      some ((.ok 0, { r with batch := [], unread := [] }), m.facing heap [])) ∨
    (∃ rest, script.arrivals = .fault :: rest.arrivals ∧ rest.arrivals.length < script.arrivals.length ∧
      r.fetch.run (Sim.kernel depth) (m.facing heap script) =
        some ((.error Operation.read.failed, { r with batch := [], unread := [] }), m.facing heap rest)) ∨
    (∃ data count rest, script.arrivals = data.map .byte ++ rest.arrivals ∧
      rest.arrivals.length < script.arrivals.length ∧ data.length ≤ r.chunk ∧
      r.fetch.run (Sim.kernel depth) (m.facing heap script) =
        some ((.ok (count + 1), { r with batch := data, unread := data }), m.facing heap rest)) := by
  have hcount : (UInt64.ofNat r.chunk).toNat = r.chunk :=
    UInt64.toNat_ofNat_of_lt' (by simpa [wordLimit] using hr.chunk_lt)
  have hpos : 0 < (UInt64.ofNat r.chunk).toNat := by
    rw [hcount]
    exact hr.chunk_pos
  have hread := Sim.run_read depth m heap hr.fits hpos
  rw [hcount] at hread
  rcases hread with ⟨harr, hrun⟩ | ⟨rest, harr, hrun⟩ | ⟨data, rest, harr, hne, hle, hrun⟩
  · refine .inl ⟨harr, ?_⟩
    simp [fetch, hrun, overwritten]
  · exact .inr (.inl ⟨rest, harr, by simp [harr], by simp [fetch, hrun]⟩)
  · obtain ⟨count, hcount⟩ := Nat.exists_eq_succ_of_ne_zero (Nat.ne_of_gt (List.length_pos_iff.2 hne))
    refine .inr (.inr ⟨data, count, rest, harr, ?_, hle, ?_⟩)
    · rw [harr, List.length_append, List.length_map]
      omega
    · simpa [fetch, hrun, overwritten_eq r.batch hle] using hcount

/-- The reader keeps less than a whole batch for the next call. -/
def Spent (r : Reader) : Prop :=
  r.unread.length < r.chunk

/-- On a console that holds `script`, the program `p` comes to `t`, and leaves a reader of `chunk` bytes and a console
between which the arrivals that `t` leaves are to come. -/
def Reads (p : Prog (Except ReadError Line × Reader)) (script : Script) (chunk : Nat) (t : Taken) : Prop :=
  ∃ r script', p.run (Sim.kernel depth) (m.facing heap script) = some ((t.result, r), m.facing t.heap script') ∧
    r.Awaits script' t.left t.skipping ∧ r.Spent ∧ r.chunk = chunk ∧
    script'.arrivals.length ≤ script.arrivals.length

/-- `p` comes to `t`, or to a draft that comes to `t` once it is filled from what is left, which is less. -/
def Progresses (p : Prog Progress) (script : Script) (chunk : Nat) (t : Taken) : Prop :=
  (∃ r script', p.run (Sim.kernel depth) (m.facing heap script) =
      some (.ended t.result r, m.facing t.heap script') ∧
    r.Awaits script' t.left t.skipping ∧ r.Spent ∧ r.chunk = chunk ∧
    script'.arrivals.length ≤ script.arrivals.length) ∨
  (∃ d r heap' script' arrivals, p.run (Sim.kernel depth) (m.facing heap script) =
      some (.more d r, m.facing heap' script') ∧
    r.Awaits script' arrivals false ∧ d.take heap' arrivals = t ∧ r.chunk = chunk ∧
    script'.arrivals.length < script.arrivals.length)

/-- The bytes up to the next newline, and what is behind them. -/
theorem cut_unread (unread : Bytes) :
    newline ∉ unread.takeWhile (· != newline) ∧
    ((unread.dropWhile (· != newline) = [] ∧ unread = unread.takeWhile (· != newline)) ∨
      ∃ rest, unread.dropWhile (· != newline) = newline :: rest ∧ rest.length < unread.length ∧
        unread = unread.takeWhile (· != newline) ++ newline :: rest) := by
  have happ : unread.takeWhile (· != newline) ++ unread.dropWhile (· != newline) = unread :=
    List.takeWhile_append_dropWhile
  refine ⟨fun h => by simpa using List.all_eq_true.1 List.all_takeWhile _ h, ?_⟩
  cases hdrop : unread.dropWhile (· != newline) with
  | nil =>
    rw [hdrop, List.append_nil] at happ
    exact .inl ⟨rfl, happ.symm⟩
  | cons b rest =>
    have hb : b = newline := by
      have hne : unread.dropWhile (· != newline) ≠ [] := by simp [hdrop]
      simpa [hdrop] using List.head_dropWhile_not _ hne
    subst hb
    rw [hdrop] at happ
    have hlength := congrArg List.length happ
    rw [List.length_append, List.length_cons] at hlength
    exact .inr ⟨rest, rfl, by omega, happ.symm⟩

/-- Fetching the next batch, with nothing left of the one before. -/
theorem run_refill {r : Reader} (d : Draft) {script : Script} {arrivals : List Arrival}
    (hr : r.Awaits script arrivals false) (hunread : r.unread = []) :
    Progresses depth m heap (r.refill d) script r.chunk (d.take heap arrivals) := by
  obtain ⟨chunk, batch, unread, skipping⟩ := r
  obtain rfl : unread = [] := hunread
  obtain rfl : skipping = false := hr.skipping_eq
  obtain rfl : script.arrivals = arrivals := hr.arrivals_eq
  have hpos := hr.chunk_pos
  unfold Progresses refill
  simp only [Prog.run_seq]
  rcases run_fetch depth m heap hr with ⟨h, hrun⟩ | ⟨rest, h, hlt, hrun⟩ | ⟨data, count, rest, h, hlt, hle, hrun⟩
  · -- the end of the input
    left
    simp only [h, hrun, Option.bind_some, Draft.take]
    by_cases hd : d.length = 0
    · simp only [hd, ↓reduceIte]
      exact ⟨_, [], rfl, hr.keeping [] [] false (Nat.zero_le _) (Nat.zero_le _), hpos, rfl, Nat.le_refl _⟩
    · simp only [hd, ↓reduceIte, Prog.run_seq, Draft.run_finish _ d m heap [] [], Option.bind_some, Draft.close_left,
        Draft.close_skipping]
      exact ⟨_, [], rfl, hr.keeping [] [] false (Nat.zero_le _) (Nat.zero_le _), hpos, rfl, Nat.le_refl _⟩
  · -- a fault
    left
    have hd : d.take heap script.arrivals =
        ⟨.error (.io Operation.read.failed), heap.free d.size, rest.arrivals, false⟩ := by rw [h, Draft.take]
    simp only [hd, hrun, Option.bind_some]
    exact ⟨_, rest, rfl, hr.keeping [] [] false (Nat.zero_le _) (Nat.le_of_lt hlt), hpos, rfl, Nat.le_of_lt hlt⟩
  · -- some bytes
    right
    have hr' := hr.keeping data data false hle (Nat.le_of_lt hlt)
    rw [← h] at hr'
    simp only [hrun, Option.bind_some]
    exact ⟨d, _, heap, rest, script.arrivals, rfl, hr', rfl, rfl, hlt⟩

/-- Looking at one batch. -/
theorem run_advance {r : Reader} (d : Draft) {script : Script} {arrivals : List Arrival}
    (hr : r.Awaits script arrivals false) :
    Progresses depth m heap (r.advance d) script r.chunk (d.take heap arrivals) := by
  obtain ⟨hline, hcut⟩ := cut_unread r.unread
  have harr := hr.arrivals_eq
  unfold Progresses advance
  simp only [Prog.run_seq]
  rcases Draft.run_extend (Sim.kernel depth) m script _ d heap hline with
    ⟨d', heap', hrun, htake⟩ | ⟨d', heap', left, hrun, hleft, htake⟩
  · rcases hcut with ⟨hafter, hbatch⟩ | ⟨rest, hafter, hrest, hbatch⟩
    · -- the batch ends inside the line
      have hd : d.take heap arrivals = d'.take heap' script.arrivals := by
        rw [← harr, hbatch, htake]
      simp only [hrun, hafter, hd, Option.bind_some]
      have hr' := hr.keeping r.batch [] false (Nat.zero_le _) (Nat.le_refl _)
      exact run_refill depth m heap' d' (hr.skipping_eq ▸ hr') rfl
    · -- the batch holds the newline
      have hd : d.take heap arrivals = d'.close heap' (rest.map .byte ++ script.arrivals) := by
        rw [← harr, hbatch, List.map_append, List.append_assoc, htake]
        simp [Draft.take]
      left
      simp only [hrun, hafter, hd, Option.bind_some, Prog.run_seq,
        Draft.run_finish _ d' m heap' script (rest.map .byte ++ script.arrivals), Draft.close_left,
        Draft.close_skipping]
      have hshort : rest.length < r.chunk := Nat.lt_of_lt_of_le hrest hr.unread_le
      have hr' := hr.keeping r.batch rest false (Nat.le_of_lt hshort) (Nat.le_refl _)
      exact ⟨_, script, rfl, hr.skipping_eq ▸ hr', hshort, rfl, Nat.le_refl _⟩
  · -- there is no room for the line
    have happ : r.unread.takeWhile (· != newline) ++ r.unread.dropWhile (· != newline) = r.unread :=
      List.takeWhile_append_dropWhile
    have hd : d.take heap arrivals = ⟨.error .alloc, heap'.free d'.size,
        (left ++ r.unread.dropWhile (· != newline)).map .byte ++ script.arrivals, true⟩ := by
      rw [← harr, ← happ, List.map_append, List.append_assoc, htake, happ, List.map_append, List.append_assoc]
    have hshort : (left ++ r.unread.dropWhile (· != newline)).length < r.chunk := by
      have hlength := congrArg List.length happ
      have hle := hr.unread_le
      rw [List.length_append] at hlength ⊢
      omega
    left
    simp only [hrun, hd, Option.bind_some]
    exact ⟨_, script, rfl, hr.keeping r.batch _ true (Nat.le_of_lt hshort) (Nat.le_refl _), hshort, rfl, Nat.le_refl _⟩

/-- **Filling a line** takes the arrivals one by one, whatever of them is in the batch already. -/
theorem run_fill (supply : Nat) : ∀ (r : Reader) (d : Draft) (heap : Heap) (script : Script) (arrivals : List Arrival),
    r.Awaits script arrivals false → script.arrivals.length ≤ supply →
    Reads depth m heap (r.fill supply d) script r.chunk (d.take heap arrivals) := by
  induction supply with
  | zero =>
    intro r d heap script arrivals hr hsupply
    rw [fill.eq_def]
    rcases run_advance depth m heap d hr with ⟨r', script', hrun, h⟩ | ⟨_, _, _, _, _, _, _, _, _, hlt⟩
    · exact ⟨r', script', by simp [hrun], h⟩
    · omega
  | succ supply ih =>
    intro r d heap script arrivals hr hsupply
    rw [fill.eq_def]
    rcases run_advance depth m heap d hr with
      ⟨r', script', hrun, h⟩ | ⟨d', r', heap', script', arrivals', hrun, hr', ht, hchunk, hlt⟩
    · exact ⟨r', script', by simp [hrun], h⟩
    · obtain ⟨r'', script'', hrun', hr'', hspent, hchunk', hle⟩ := ih r' d' heap' script' arrivals' hr' (by omega)
      rw [ht] at hrun' hr''
      exact ⟨r'', script'', by simp [hrun, hrun'], hr'', hspent, by rw [hchunk', hchunk], by omega⟩

/-- Passing over the rest of a dropped line: the answer, or none yet if the line goes on in the next batch. -/
theorem run_passOver {r : Reader} {script : Script} {arrivals : List Arrival} (hr : r.Awaits script arrivals true) :
    (∃ r' script', r.passOver.run (Sim.kernel depth) (m.facing heap script) =
        some ((some (if (dropLine arrivals).1 then .ok () else .error Operation.read.failed), r'),
          m.facing heap script') ∧
      r'.Awaits script' (dropLine arrivals).2 (!(dropLine arrivals).1) ∧ r'.Spent ∧ r'.chunk = r.chunk ∧
      script'.arrivals.length ≤ script.arrivals.length) ∨
    (∃ r' script' arrivals', r.passOver.run (Sim.kernel depth) (m.facing heap script) =
        some ((none, r'), m.facing heap script') ∧
      r'.Awaits script' arrivals' true ∧ dropLine arrivals' = dropLine arrivals ∧ r'.chunk = r.chunk ∧
      script'.arrivals.length < script.arrivals.length) := by
  obtain ⟨chunk, batch, unread, skipping⟩ := r
  obtain rfl : skipping = true := hr.skipping_eq
  have harr := hr.arrivals_eq
  have hpos := hr.chunk_pos
  obtain ⟨hline, ⟨hafter, hbatch⟩ | ⟨rest, hafter, hrest, hbatch⟩⟩ := cut_unread unread
  · -- the batch ends inside the line
    have hdrop : dropLine arrivals = dropLine script.arrivals := by
      rw [← harr, hbatch, dropLine_append hline]
    unfold passOver
    simp only [hafter, Prog.run_seq, hdrop]
    have hr₀ := hr.keeping batch [] true (Nat.zero_le _) (Nat.le_refl _)
    rcases run_fetch depth m heap hr₀ with ⟨h, hrun⟩ | ⟨rest, h, hlt, hrun⟩ | ⟨data, count, rest, h, hlt, hle, hrun⟩
    · left
      simp only [h, hrun, Option.bind_some]
      exact ⟨_, [], rfl, hr.keeping [] [] false (Nat.zero_le _) (Nat.zero_le _), hpos, rfl, Nat.le_refl _⟩
    · left
      have hdropped : dropLine script.arrivals = (false, rest.arrivals) := by rw [h, dropLine]
      simp only [hdropped, hrun, Option.bind_some]
      exact ⟨_, rest, rfl, hr.keeping [] [] true (Nat.zero_le _) (Nat.le_of_lt hlt), hpos, rfl, Nat.le_of_lt hlt⟩
    · right
      have hr' := hr.keeping data data true hle (Nat.le_of_lt hlt)
      rw [← h] at hr'
      simp only [hrun, Option.bind_some]
      exact ⟨_, rest, script.arrivals, rfl, hr', rfl, rfl, hlt⟩
  · -- the batch holds the newline
    have hdrop : dropLine arrivals = (true, rest.map .byte ++ script.arrivals) := by
      rw [← harr, hbatch, List.map_append, List.append_assoc, dropLine_append hline]
      simp [dropLine]
    left
    unfold passOver
    simp only [hafter, hdrop]
    have hshort : rest.length < chunk := Nat.lt_of_lt_of_le hrest hr.unread_le
    have hr' := hr.keeping batch rest false (Nat.le_of_lt hshort) (Nat.le_refl _)
    exact ⟨_, script, rfl, hr', hshort, rfl, Nat.le_refl _⟩

/-- **Skipping** takes the arrivals up to the next newline, if the rest of a dropped line is still to come. -/
theorem run_skip (supply : Nat) : ∀ (r : Reader) (script : Script) (arrivals : List Arrival) (skipping : Bool),
    r.Awaits script arrivals skipping → script.arrivals.length ≤ supply →
    ∃ r' script', (r.skip supply).run (Sim.kernel depth) (m.facing heap script) =
        some ((if (skipped skipping arrivals).1 then .ok () else .error Operation.read.failed, r'),
          m.facing heap script') ∧
      r'.Awaits script' (skipped skipping arrivals).2 (!(skipped skipping arrivals).1) ∧
      (skipping → r'.Spent) ∧ r'.chunk = r.chunk ∧ script'.arrivals.length ≤ script.arrivals.length := by
  induction supply with
  | zero =>
    intro r script arrivals skipping hr hsupply
    rw [skip.eq_def]
    cases skipping with
    | false => exact ⟨r, script, by simp [hr.skipping_eq, skipped], hr, by simp, rfl, Nat.le_refl _⟩
    | true =>
      rcases run_passOver depth m heap hr with ⟨r', script', hrun, hr', hspent, h⟩ | ⟨_, _, _, _, _, _, _, hlt⟩
      · exact ⟨r', script', by simp [hr.skipping_eq, hrun, skipped], hr', fun _ => hspent, h⟩
      · omega
  | succ supply ih =>
    intro r script arrivals skipping hr hsupply
    rw [skip.eq_def]
    cases skipping with
    | false => exact ⟨r, script, by simp [hr.skipping_eq, skipped], hr, by simp, rfl, Nat.le_refl _⟩
    | true =>
      rcases run_passOver depth m heap hr with
        ⟨r', script', hrun, hr', hspent, h⟩ | ⟨r', script', arrivals', hrun, hr', hdrop, hchunk, hlt⟩
      · exact ⟨r', script', by simp [hr.skipping_eq, hrun, skipped], hr', fun _ => hspent, h⟩
      · obtain ⟨r'', script'', hrun', hr'', hspent', hchunk', hle⟩ := ih r' script' arrivals' true hr' (by omega)
        simp only [skipped, ↓reduceIte, hdrop] at hrun' hr'' ⊢
        exact ⟨r'', script'', by simp [hr.skipping_eq, hrun, hrun'], hr'', fun _ => hspent' rfl,
          by rw [hchunk', hchunk], by omega⟩

/-- **Reading a line**, on a console that takes the prompt. -/
theorem run_readLine {supply : Nat} {r : Reader} {script : Script} {arrivals : List Arrival} {skipping : Bool}
    (hr : r.Awaits script arrivals skipping) (hsupply : script.arrivals.length ≤ supply) {prompt : String}
    (hprompt : prompt = "" ∨ m.state.room ≠ some 0) :
    ∃ r' script', (r.readLine supply prompt).run (Sim.kernel depth) (m.facing heap script) =
        some (((Taken.ofArrivals heap skipping arrivals).result, r'),
          (m.shown prompt).facing (Taken.ofArrivals heap skipping arrivals).heap script') ∧
      r'.Awaits script' (Taken.ofArrivals heap skipping arrivals).left
        (Taken.ofArrivals heap skipping arrivals).skipping ∧
      (heap.admits (heap.inUse + 1) → r'.Spent) ∧ r'.chunk = r.chunk ∧
      script'.arrivals.length ≤ script.arrivals.length := by
  obtain ⟨r', script', hrun, hr', hspent, hchunk, hle⟩ :=
    run_skip depth (m.shown prompt) heap supply r script arrivals _ hr hsupply
  unfold readLine Taken.ofArrivals
  have hprint : (Prog.printText prompt).run (Sim.kernel depth) (m.facing heap script) =
      some (.ok (), (m.facing heap script).shown prompt) := Sim.run_printText_ok depth hprompt
  simp only [Prog.run_seq, hprint, Machine.shown_facing, hrun, Option.bind_some]
  cases hskipped : skipped skipping arrivals with | mk done left =>
  rw [hskipped] at hr'
  cases done with
  | false =>
    have hskipping : skipping = true := by
      cases skipping with
      | false => cases hskipped
      | true => rfl
    exact ⟨r', script', rfl, hr', fun _ => hspent hskipping, hchunk, hle⟩
  | true =>
    simp only [↓reduceIte, Prog.run_seq, Prog.run_allocate, Machine.facing_heap, Option.bind_some]
    cases hmalloc : heap.malloc 1 with
    | none =>
      refine ⟨r', script', by simp [Heap.serve, hmalloc, Heap.serve.answer], hr', fun h => ?_, hchunk, hle⟩
      rw [Heap.malloc_one, if_pos h] at hmalloc
      cases hmalloc
    | some heap' =>
      obtain ⟨r'', script'', hrun', hr'', hspent', hchunk', hle'⟩ :=
        run_fill depth (m.shown prompt) supply r' {} heap' script' left hr' (by omega)
      refine ⟨r'', script'', ?_, hr'', fun _ => hspent', by rw [hchunk', hchunk], by omega⟩
      simpa [Heap.serve, hmalloc, Heap.serve.answer] using hrun'

/-- A prompt that the console refuses is all that becomes of reading a line. -/
theorem run_readLine_refused (supply : Nat) (r : Reader) {prompt : String} (hprompt : prompt ≠ "")
    (hroom : m.state.room = some 0) :
    (r.readLine supply prompt).run (Sim.kernel depth) m =
      some ((.error (.io Operation.write.failed), r), m) := by
  have hprint := Sim.run_printText depth (m := m) hprompt
  rw [if_pos hroom] at hprint
  rw [readLine, Prog.run_seq, hprint]
  rfl

end Reader

end LineShell
