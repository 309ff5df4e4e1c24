import LineShell.Proofs.Reading

/-!
# The lines of a console

What repeated calls of a reader answer is told from the arrivals alone: a `Piece` is what one call takes of them
(`cut`), and says what that call answers (`Piece.result`).

- `Draft.take_unlimited`: on an unlimited heap, reading byte by byte takes the first piece;
- `readLines_script`: calls of a reader answer the pieces of the arrivals one after the other, whatever the division
  into chunks and the size of the batches, and together with what is left the pieces are all that arrived.
-/

namespace LineShell

/-! ## Pieces -/

/-- How a piece ends. -/
inductive Stop
  | newline
  | fault
  /-- Nothing is left. -/
  | exhausted
deriving DecidableEq, Repr

/-- What one call takes of the arrivals: bytes without a newline, and what follows them. -/
structure Piece where
  bytes : Bytes
  stop : Stop
deriving DecidableEq, Repr

/-- The first piece, and the arrivals behind it. -/
def cut : List Arrival → Piece × List Arrival
  | [] => (⟨[], .exhausted⟩, [])
  | .fault :: rest => (⟨[], .fault⟩, rest)
  | .byte b :: rest =>
    if b = newline then (⟨[], .newline⟩, rest)
    else
      let (piece, left) := cut rest
      ({ piece with bytes := b :: piece.bytes }, left)

/-- The first pieces, and the arrivals behind them. -/
def pieces : Nat → List Arrival → List Piece × List Arrival
  | 0, arrivals => ([], arrivals)
  | n + 1, arrivals =>
    let (piece, left) := cut arrivals
    let (rest, left) := pieces n left
    (piece :: rest, left)

namespace Piece

/-- The line that bytes are, if they are a text. -/
def line (bytes : Bytes) : Except ReadError String :=
  match Text.decode? bytes with
  | some text => .ok text
  | none => .error .encoding

/-- The answer of the call that takes the piece. -/
def result (piece : Piece) : Except ReadError String :=
  match piece.stop with
  | .newline => line piece.bytes
  | .fault => .error (.io Operation.read.failed)
  | .exhausted => if piece.bytes = [] then .error .endOfInput else line piece.bytes

/-- The arrivals that make up the piece. -/
def arrivals (piece : Piece) : List Arrival :=
  piece.bytes.map .byte ++
    match piece.stop with
    | .newline => [.byte newline]
    | .fault => [.fault]
    | .exhausted => []

end Piece

/-- A piece and what is behind it are all the arrivals. -/
theorem cut_arrivals : ∀ arrivals : List Arrival, (cut arrivals).1.arrivals ++ (cut arrivals).2 = arrivals
  | [] => rfl
  | .fault :: rest => rfl
  | .byte b :: rest => by
    by_cases hb : b = newline
    · simp [cut, hb, Piece.arrivals]
    · simpa [cut, hb, Piece.arrivals] using cut_arrivals rest

/-- So are several pieces. -/
theorem pieces_arrivals : ∀ (n : Nat) (arrivals : List Arrival),
    (pieces n arrivals).1.flatMap Piece.arrivals ++ (pieces n arrivals).2 = arrivals
  | 0, arrivals => rfl
  | n + 1, arrivals => by
    simp only [pieces, List.flatMap_cons, List.append_assoc, pieces_arrivals n]
    exact cut_arrivals arrivals

theorem length_cut (arrivals : List Arrival) :
    (cut arrivals).1.arrivals.length + (cut arrivals).2.length = arrivals.length := by
  rw [← List.length_append, cut_arrivals]

/-! ## A heap with room -/

/-- No limit is set, and there are words to count what reading `bytes` bytes takes: the lines and words of one byte of
input never take more than 64 bytes of heap. -/
structure Heap.Unlimited (heap : Heap) (bytes : Nat) : Prop where
  limit_eq : heap.limit = none
  room : heap.inUse + 64 * (bytes + 1) < wordLimit

/-- What a heap without a limit admits. -/
theorem Heap.admits_of_limit {heap : Heap} (h : heap.limit = none) {total : Nat} (htotal : total < wordLimit) :
    heap.admits total = true := by
  simp [admits, h, htotal]

namespace Draft

/-- The draft of a line on a heap: its block is twice as large as its bytes at most, and `base` bytes are in use
besides. -/
structure On (d : Draft) (heap : Heap) (base : Nat) : Prop where
  limit_eq : heap.limit = none
  inUse_eq : heap.inUse = base + d.size
  length_eq : d.length = d.reversed.length
  length_le : d.length ≤ d.size
  size_pos : 0 < d.size
  size_le : d.size ≤ max 1 (2 * d.length)

variable {d : Draft} {heap : Heap} {base : Nat}

theorem On.push (h : d.On heap base) (hroom : d.length < d.size) (b : UInt8) : (d.push b).On heap base := by
  obtain ⟨hlimit, hinUse, hlength, hle, hpos, hsize⟩ := h
  refine ⟨hlimit, hinUse, by simp [Draft.push, hlength], hroom, hpos, ?_⟩
  simp only [Draft.push]
  omega

/-- A full draft grows, if the words suffice. -/
theorem On.doubled (h : d.On heap base) (hfull : ¬d.length < d.size) (hroom : base + 2 * d.size < wordLimit)
    (b : UInt8) :
    ∃ heap', d.doubled heap = some heap' ∧ (Draft.push { d with size := d.size * 2 } b).On heap' base := by
  obtain ⟨hlimit, hinUse, hlength, hle, hpos, hsize⟩ := h
  have hcharge : heap.charge (d.size * 2 - d.size) =
      some { heap with inUse := heap.inUse + (d.size * 2 - d.size) } := by
    rw [Heap.charge, Heap.admits_of_limit hlimit (by omega), if_pos rfl]
  refine ⟨{ heap with inUse := heap.inUse + (d.size * 2 - d.size) }, ?_, hlimit, ?_, ?_, ?_, ?_, ?_⟩
  · rw [Draft.doubled, if_pos (by omega), Heap.realloc, if_pos (by omega), hcharge]
  · simp only [Draft.push]
    omega
  · simp [Draft.push, hlength]
  all_goals
    simp only [Draft.push]
    omega

end Draft

/-- The bytes that a result keeps on the heap. -/
def heldSize : Except ReadError Line → Nat
  | .ok line => line.size
  | .error _ => 0

/-- `t` is what the first piece of the arrivals comes to, for a line that has the bytes `before` already; `base` bytes
are in use besides. -/
structure Taken.FirstPiece (t : Taken) (before : Bytes) (arrivals : List Arrival) (base : Nat) : Prop where
  result_eq : t.result.map Line.text =
    Piece.result { (cut arrivals).1 with bytes := before ++ (cut arrivals).1.bytes }
  left_eq : t.left = (cut arrivals).2
  skipping_eq : t.skipping = false
  limit_eq : t.heap.limit = none
  inUse_eq : t.heap.inUse = base + heldSize t.result
  held_le : heldSize t.result ≤ 2 * (before.length + (cut arrivals).1.arrivals.length)

/-- A byte that ends no line belongs to the line. -/
theorem Taken.FirstPiece.cons {t : Taken} {before : Bytes} {b : UInt8} {rest : List Arrival} {base : Nat}
    (hb : b ≠ newline) (h : t.FirstPiece (before ++ [b]) rest base) : t.FirstPiece before (.byte b :: rest) base := by
  obtain ⟨hresult, hleft, hskipping, hlimit, hinUse, hheld⟩ := h
  refine ⟨?_, ?_, hskipping, hlimit, hinUse, ?_⟩
  · simpa [cut, hb] using hresult
  · simpa [cut, hb] using hleft
  · simp only [Piece.arrivals, List.length_append, List.length_map, List.length_singleton] at hheld
    simp only [cut, hb, ↓reduceIte, Piece.arrivals, List.length_append, List.length_map, List.length_cons]
    omega

namespace Draft

variable {d : Draft} {heap : Heap} {base : Nat}

theorem On.close (h : d.On heap base) (left : List Arrival) :
    (d.close heap left).result.map Line.text = Piece.line d.reversed.reverse ∧
    (d.close heap left).heap.limit = none ∧
    (d.close heap left).heap.inUse = base + heldSize (d.close heap left).result ∧
    heldSize (d.close heap left).result ≤ max 1 (2 * d.length) := by
  obtain ⟨hlimit, hinUse, -, -, -, hsize⟩ := h
  unfold Draft.close Piece.line
  cases Text.decode? d.reversed.reverse with
  | none => exact ⟨rfl, hlimit, by simp [Heap.free, Heap.release, heldSize, hinUse], Nat.zero_le _⟩
  | some text => exact ⟨rfl, hlimit, hinUse, hsize⟩

theorem On.free (h : d.On heap base) : (heap.free d.size).limit = none ∧ (heap.free d.size).inUse = base :=
  ⟨h.limit_eq, by simp [Heap.free, Heap.release, h.inUse_eq]⟩

/-- **On an unlimited heap** a draft takes the bytes up to the end of the first piece. -/
theorem take_unlimited : ∀ (arrivals : List Arrival) (d : Draft) (heap : Heap), d.On heap base →
    base + 2 * (d.length + arrivals.length) + 1 < wordLimit →
    (d.take heap arrivals).FirstPiece d.reversed.reverse arrivals base
  | [], d, heap, h, hroom => by
    by_cases hd : d.length = 0
    · have hnil : d.reversed = [] := List.eq_nil_of_length_eq_zero (h.length_eq ▸ hd)
      simp only [take, hd, ↓reduceIte, hnil]
      exact ⟨rfl, rfl, rfl, h.free.1, h.free.2, Nat.zero_le _⟩
    · have hne : d.reversed ≠ [] := fun e => hd (by simp [h.length_eq, e])
      obtain ⟨hresult, hlimit, hinUse, hheld⟩ := h.close []
      simp only [take, hd, ↓reduceIte]
      refine ⟨?_, close_left .., close_skipping .., hlimit, hinUse, ?_⟩
      · simpa [cut, Piece.result, hne] using hresult
      · rw [List.length_reverse, ← h.length_eq]
        omega
  | .fault :: rest, d, heap, h, hroom => ⟨rfl, rfl, rfl, h.free.1, h.free.2, Nat.zero_le _⟩
  | .byte b :: rest, d, heap, h, hroom => by
    rw [List.length_cons] at hroom
    by_cases hb : b = newline
    · obtain ⟨hresult, hlimit, hinUse, hheld⟩ := h.close rest
      simp only [take, hb, ↓reduceIte]
      refine ⟨?_, ?_, close_skipping .., hlimit, hinUse, ?_⟩
      · simpa [cut, Piece.result] using hresult
      · simp [cut]
      · simp only [cut, ↓reduceIte, Piece.arrivals, List.length_reverse, ← h.length_eq, List.map_nil, List.nil_append,
          List.length_singleton]
        omega
    · apply Taken.FirstPiece.cons hb
      simp only [take, hb, ↓reduceIte]
      by_cases hd : d.length < d.size
      · simp only [hd, ↓reduceIte]
        simpa [push] using take_unlimited rest (d.push b) heap (h.push hd b) (by simp only [push]; omega)
      · have hle := h.length_le
        obtain ⟨heap', hdoubled, h'⟩ := h.doubled hd (by omega) b
        simp only [hd, ↓reduceIte, hdoubled]
        simpa [push] using take_unlimited rest _ heap' h' (by simp only [push]; omega)

end Draft

/-- **Reading a line on an unlimited heap** takes the first piece of the arrivals. -/
theorem Taken.ofArrivals_unlimited {heap : Heap} {arrivals : List Arrival} (h : heap.Unlimited arrivals.length) :
    (Taken.ofArrivals heap false arrivals).FirstPiece [] arrivals heap.inUse := by
  have hmalloc : heap.malloc 1 = some { heap with inUse := heap.inUse + 1, blocks := heap.blocks + 1 } := by
    have := h.room
    rw [Heap.malloc, Heap.charge, Heap.admits_of_limit h.limit_eq (by omega)]
    rfl
  simp only [ofArrivals, skipped, Bool.false_eq_true, ↓reduceIte, hmalloc]
  have hon : Draft.On {} { heap with inUse := heap.inUse + 1, blocks := heap.blocks + 1 } heap.inUse :=
    ⟨h.limit_eq, rfl, rfl, Nat.zero_le 1, Nat.one_pos, Nat.le_refl 1⟩
  have hroom := h.room
  exact Draft.take_unlimited arrivals {} _ hon (by simp only; omega)

/-! ## Repeated calls -/

namespace Reader

/-- What becomes of the line that was read, if there is one: it stays on the heap if `keep` says so, else it is given
back. -/
def settle (keep : String → Bool) : Except ReadError Line → Prog Unit
  | .ok line => if keep line.text then return () else line.drop
  | .error _ => return ()

/-- What `n` calls answer, one after the other. -/
def readLines (supply : Nat) (keep : String → Bool) : Nat → Reader → Prog (List (Except ReadError String) × Reader)
  | 0, r => return ([], r)
  | n + 1, r => do
    let (result, r) ← r.readLine supply ""
    settle keep result
    let (rest, r) ← readLines supply keep n r
    return (result.map Line.text :: rest, r)

/-- A piece leaves the heap unlimited for what is behind it, whether its line is kept or not. -/
theorem unlimited_after {t : Taken} {arrivals : List Arrival} {heap : Heap} (h : heap.Unlimited arrivals.length)
    (ht : t.FirstPiece [] arrivals heap.inUse) :
    t.heap.Unlimited t.left.length ∧ ∀ line, t.result = .ok line → (t.heap.free line.size).Unlimited t.left.length := by
  have hroom := h.room
  have hheld := ht.held_le
  have hinUse := ht.inUse_eq
  have hlength := length_cut arrivals
  rw [← ht.left_eq] at hlength
  simp only [List.length_nil, Nat.zero_add] at hheld
  refine ⟨⟨ht.limit_eq, by omega⟩, fun line hline => ⟨ht.limit_eq, ?_⟩⟩
  simp only [Heap.free, Heap.release]
  omega

/-- Calls of a reader take the pieces of what it awaits. -/
theorem run_readLines (depth supply : Nat) (keep : String → Bool) (m : Machine Sim) : ∀ (n : Nat) (r : Reader)
    (heap : Heap) (script : Script) (arrivals : List Arrival), r.Awaits script arrivals false →
    script.arrivals.length ≤ supply → heap.Unlimited arrivals.length →
    ∃ r' heap' script', (r.readLines supply keep n).run (Sim.kernel depth) (m.facing heap script) =
        some (((pieces n arrivals).1.map Piece.result, r'), m.facing heap' script') ∧
      r'.Awaits script' (pieces n arrivals).2 false
  | 0, r, heap, script, arrivals, hr, _, _ => ⟨r, heap, script, rfl, hr⟩
  | n + 1, r, heap, script, arrivals, hr, hsupply, hheap => by
    obtain ⟨r₁, script₁, hrun, hr₁, -, -, hle⟩ := run_readLine depth m heap hr hsupply (.inl rfl)
    have ht := Taken.ofArrivals_unlimited hheap
    obtain ⟨hkept, hdropped⟩ := unlimited_after hheap ht
    have hresult := ht.result_eq
    rw [ht.skipping_eq] at hr₁
    -- the heap of the next call, after the line was kept or given back
    have hnext : ∃ heap₁, (settle keep (Taken.ofArrivals heap false arrivals).result).run (Sim.kernel depth)
          ((m.shown "").facing (Taken.ofArrivals heap false arrivals).heap script₁) =
        some ((), m.facing heap₁ script₁) ∧ heap₁.Unlimited (Taken.ofArrivals heap false arrivals).left.length := by
      cases hline : (Taken.ofArrivals heap false arrivals).result with
      | error e => exact ⟨_, rfl, hkept⟩
      | ok line =>
        rw [settle]
        by_cases hkeep : keep line.text
        · rw [if_pos hkeep]
          exact ⟨_, rfl, hkept⟩
        · rw [if_neg hkeep]
          exact ⟨_, rfl, hdropped line hline⟩
    obtain ⟨heap₁, hdrop, hheap₁⟩ := hnext
    obtain ⟨r', heap', script', hrest, hr'⟩ :=
      run_readLines depth supply keep m n r₁ heap₁ script₁ _ hr₁ (by omega) hheap₁
    rw [ht.left_eq] at hrest hr'
    refine ⟨r', heap', script', ?_, hr'⟩
    simp only [readLines, Prog.run_seq, hrun, Option.bind_some, hdrop, hrest, Prog.run_pure, hresult, pieces,
      List.map_cons, List.nil_append]

/-- **Lines of a console.** On an unlimited heap, the calls of a fresh reader, of whatever batch size, on whatever
division of the arrivals into chunks, answer the pieces of the arrivals one after the other; and the pieces followed by
what is left are all that arrived. -/
theorem readLines_script (depth : Nat) (batch : UInt64) (keep : String → Bool) (n : Nat) {supply : Nat}
    {m : Machine Sim} {script : Script} (hinput : m.state.input = .script script)
    (hheap : m.heap.Unlimited script.arrivals.length) (hsupply : (Sim.kernel depth).supply m ≤ supply) :
    ∃ r heap script', ((Reader.ofChunk batch.toNat).readLines supply keep n).run (Sim.kernel depth) m =
        some (((pieces n script.arrivals).1.map Piece.result, r), m.facing heap script') ∧
      (pieces n script.arrivals).1.flatMap Piece.arrivals ++ (r.unread.map .byte ++ script'.arrivals) =
        script.arrivals := by
  have hsupply' : script.arrivals.length ≤ supply := Sim.supply_eq hinput ▸ hsupply
  have hr : (Reader.ofChunk batch.toNat).Awaits script script.arrivals false :=
    ofChunk_awaits batch (by have := hheap.room; simp only [wordLimit] at this; simp only [Script.limit]; omega)
  obtain ⟨r, heap, script', hrun, hr'⟩ :=
    run_readLines depth supply keep m n _ m.heap script script.arrivals hr hsupply' hheap
  rw [Machine.facing_self hinput] at hrun
  exact ⟨r, heap, script', hrun, by rw [hr'.arrivals_eq, pieces_arrivals]⟩

/-- Five calls, with two bytes in each batch: a fault after a byte, a character cut between two chunks, bytes that are
no text, a last line without a newline, and the end. -/
theorem readLines_faulty_script :
    let script : Script := [.data [97], .data [], .fault, .data [0xc3], .data [0xa9, 10, 0xff], .data [10, 98]]
    let m : Machine Sim := { state := Sim.empty (.script script) }
    m.state.input = .script script ∧ m.heap.Unlimited script.arrivals.length ∧ (Sim.kernel 0).supply m ≤ 8 ∧
      ∃ r heap script', ((Reader.ofChunk (2 : UInt64).toNat).readLines 8 (fun _ => true) 5).run (Sim.kernel 0) m =
          some (([.error (.io Operation.read.failed), .ok "é", .error .encoding, .ok "b", .error .endOfInput], r),
            m.facing heap script') ∧
        (pieces 5 script.arrivals).1.flatMap Piece.arrivals ++ (r.unread.map .byte ++ script'.arrivals) =
          script.arrivals := by
  intro script m
  have hheap : m.heap.Unlimited script.arrivals.length := ⟨rfl, by decide⟩
  have hresults : (pieces 5 script.arrivals).1.map Piece.result =
      [.error (.io Operation.read.failed), .ok "é", .error .encoding, .ok "b", .error .endOfInput] := by rfl
  refine ⟨rfl, hheap, by decide, ?_⟩
  rw [← hresults]
  exact readLines_script 0 2 (fun _ => true) 5 rfl hheap (by decide)

end Reader

end LineShell
