import LineShell.Proofs.Accounts
import LineShell.Proofs.Editing
import Mathlib.Data.Nat.Log
import Mathlib.Order.Bounds.Basic

/-!
# The block of a line

The block in which a line is read starts with one byte and doubles when it is full, so in the end it is the smallest power
of two that has room for the line (`blockSize`), and reading fails for want of memory exactly where the heap does not admit
a block of that size. The byte for which there was no room is the last one that such a call takes; the next call begins
behind the line all the same.

- `Taken.Within`: what reading the arrivals comes to on any heap;
- `Taken.ofArrivals_within`: on a heap that admits one byte it comes to that;
- `Reader.answer`: what a call answers, told from the heap it finds and the line that is next;
- `Reader.calls_lines`: calls one after the other, with anything done to the heap between them, answer just this for the
  lines one after the other, and then the end.
-/

namespace LineShell

/-! ## The size of a block -/

/-- The size of the block of a line of `n` bytes. -/
def blockSize (n : Nat) : Nat :=
  2 ^ Nat.clog 2 n

/-- **The smallest power of two** that is at least one and has room for the line. -/
theorem isLeast_blockSize (n : Nat) : IsLeast {size | (∃ k, size = 2 ^ k) ∧ max 1 n ≤ size} (blockSize n) := by
  refine ⟨⟨⟨_, rfl⟩, ?_⟩, ?_⟩
  · exact max_le Nat.one_le_two_pow (Nat.le_pow_clog (by decide) n)
  · rintro _ ⟨⟨k, rfl⟩, hle⟩
    exact Nat.pow_le_pow_right (by decide) (Nat.clog_le_of_le_pow (le_of_max_le_right hle))

theorem le_blockSize (n : Nat) : n ≤ blockSize n :=
  le_of_max_le_right (isLeast_blockSize n).1.2

theorem one_le_blockSize (n : Nat) : 1 ≤ blockSize n :=
  le_of_max_le_left (isLeast_blockSize n).1.2

theorem blockSize_mono {n n' : Nat} (h : n ≤ n') : blockSize n ≤ blockSize n' :=
  Nat.pow_le_pow_right (by decide) (Nat.clog_mono_right 2 h)

/-- What is longer than a power of two takes at least the next one. -/
theorem two_pow_succ_le_blockSize {k n : Nat} (h : 2 ^ k < n) : 2 ^ (k + 1) ≤ blockSize n :=
  Nat.pow_le_pow_right (by decide) ((Nat.lt_clog_iff_pow_lt (by decide)).2 h)

/-- A block with room for another byte stays. -/
theorem blockSize_succ_of_lt {n : Nat} (h : n < blockSize n) : blockSize (n + 1) = blockSize n := by
  refine Nat.le_antisymm ?_ (blockSize_mono (Nat.le_succ n))
  exact Nat.pow_le_pow_right (by decide) (Nat.clog_le_of_le_pow h)

theorem two_pow_clog_of_full {n : Nat} (h : blockSize n ≤ n) : 2 ^ Nat.clog 2 n = n :=
  Nat.le_antisymm h (le_blockSize n)

/-- A full block is doubled. -/
theorem blockSize_succ_of_full {n : Nat} (h : blockSize n ≤ n) : blockSize (n + 1) = blockSize n * 2 := by
  have hfull := two_pow_clog_of_full h
  have hclog : Nat.clog 2 (n + 1) = Nat.clog 2 n + 1 := by
    refine Nat.le_antisymm (Nat.clog_le_of_le_pow ?_) ((Nat.lt_clog_iff_pow_lt (by decide)).2 (by omega))
    have hpos : 1 ≤ 2 ^ Nat.clog 2 n := Nat.one_le_two_pow
    rw [pow_succ]
    omega
  rw [blockSize, hclog, pow_succ, blockSize]

/-! ## Reading on any heap -/

/-- What reading a piece comes to where its block is granted. -/
def Piece.taken (heap : Heap) (piece : Piece) (left : List Arrival) : Taken :=
  match piece.result with
  | .ok text => ⟨.ok ⟨text, blockSize piece.bytes.length⟩, heap.grown (blockSize piece.bytes.length) 1, left, false⟩
  | .error e => ⟨.error e, heap, left, false⟩

/-- What reading the arrivals comes to on a heap that admits a byte. The first piece is taken as a whole where the heap
admits a block for its bytes. Where it does not, a block of some size is admitted and twice that size is not; then the byte
behind as many as that is the last one that is taken, and the rest of the line is still to be passed over. -/
inductive Taken.Within (heap : Heap) (arrivals : List Arrival) : Taken → Prop
  | whole : heap.admits (heap.inUse + blockSize (cut arrivals).1.bytes.length) = true →
      Within heap arrivals ((cut arrivals).1.taken heap (cut arrivals).2)
  | cutOff (k : Nat) : heap.admits (heap.inUse + 2 ^ k) = true → heap.admits (heap.inUse + 2 ^ (k + 1)) = false →
      2 ^ k < (cut arrivals).1.bytes.length →
      Within heap arrivals ⟨.error .alloc, heap, arrivals.drop (2 ^ k + 1), true⟩

/-- There is no newline in a piece. -/
theorem newline_not_mem_cut : ∀ arrivals : List Arrival, newline ∉ (cut arrivals).1.bytes
  | [] => List.not_mem_nil
  | .fault :: _ => List.not_mem_nil
  | .byte b :: rest => by
    by_cases hb : b = newline
    · simp [cut, hb]
    · simpa [cut, hb] using not_mem_cons hb (newline_not_mem_cut rest)

namespace Draft

/-- A draft with nothing more to come for it is the line of its bytes. -/
theorem close_grown (d : Draft) (heap : Heap) (rest : List Arrival) : d.close (heap.grown d.size 1) rest =
    match Piece.line d.reversed.reverse with
    | .ok text => ⟨.ok ⟨text, d.size⟩, heap.grown d.size 1, rest, false⟩
    | .error e => ⟨.error e, heap, rest, false⟩ := by
  unfold close Piece.line
  cases Text.decode? d.reversed.reverse with
  | none => simp
  | some text => rfl

/-- The draft of a line that began these arrivals, with the others behind it: its block is the smallest one for its
bytes. -/
structure Of (d : Draft) (arrivals left : List Arrival) : Prop where
  arrivals_eq : d.reversed.reverse.map .byte ++ left = arrivals
  newline_not_mem : newline ∉ d.reversed.reverse
  length_eq : d.length = d.reversed.length
  size_eq : d.size = blockSize d.length

namespace Of

variable {d : Draft} {heap : Heap} {arrivals left : List Arrival}

/-- The first piece begins with the bytes of the draft. -/
theorem cut_eq (h : d.Of arrivals left) : cut arrivals =
    ({ (cut left).1 with bytes := d.reversed.reverse ++ (cut left).1.bytes }, (cut left).2) := by
  rw [← h.arrivals_eq, cut_append h.newline_not_mem]

theorem length_cut (h : d.Of arrivals left) :
    (cut arrivals).1.bytes.length = d.length + (cut left).1.bytes.length := by
  rw [h.cut_eq, List.length_append, List.length_reverse, h.length_eq]

/-- One more byte of the line, in a block of the size that it takes then. -/
theorem push {b : UInt8} {size : Nat} (h : d.Of arrivals (.byte b :: left)) (hb : b ≠ newline)
    (hsize : size = blockSize (d.length + 1)) : (Draft.push { d with size := size } b).Of arrivals left where
  arrivals_eq := by simpa [Draft.push] using h.arrivals_eq
  newline_not_mem := by simpa [Draft.push, Ne.symm hb] using h.newline_not_mem
  length_eq := by simp [Draft.push, h.length_eq]
  size_eq := hsize

/-- Doubling is granted exactly where the heap admits the doubled block. -/
theorem doubled_eq (h : d.Of arrivals left) : d.doubled (heap.grown d.size 1) =
    if heap.admits (heap.inUse + d.size * 2) then some (heap.grown (d.size * 2) 1) else none := by
  have hpos : 1 ≤ d.size := h.size_eq ▸ one_le_blockSize d.length
  have htotal : heap.inUse + d.size + (d.size * 2 - d.size) = heap.inUse + d.size * 2 := by omega
  have hcharge : (heap.grown d.size 1).charge (d.size * 2 - d.size) =
      if heap.admits (heap.inUse + d.size * 2) then some (heap.grown (d.size * 2) 1) else none := by
    simp only [Heap.charge, Heap.admits_grown, Heap.grown_inUse, htotal]
    rfl
  unfold doubled
  split
  · rw [Heap.realloc, if_pos (by omega), hcharge]
  · next hword =>
    rw [if_neg fun hadmits => hword (Nat.lt_of_le_of_lt (Nat.le_add_left _ _) (Heap.lt_wordLimit_of_admits hadmits))]

/-- Where the piece ends behind the draft, its block is the one that the draft has. -/
theorem whole_of_ended (h : d.Of arrivals left) (hended : (cut left).1.bytes = [])
    (hroom : heap.admits (heap.inUse + d.size) = true) :
    ((cut arrivals).1.taken heap (cut arrivals).2).Within heap arrivals := by
  refine .whole ?_
  rwa [h.length_cut, hended, List.length_nil, Nat.add_zero, ← h.size_eq]

/-- **Reading on** comes to what reading from the first byte does. -/
theorem take_within : ∀ (left : List Arrival) (d : Draft), d.Of arrivals left →
    heap.admits (heap.inUse + d.size) = true → (d.take (heap.grown d.size 1) left).Within heap arrivals
  | [], d, h, hroom => by
    have hcut : cut arrivals = (⟨d.reversed.reverse, .exhausted⟩, []) := by simpa [cut] using h.cut_eq
    have hempty : d.length = 0 ↔ d.reversed.reverse = [] := by
      rw [h.length_eq, List.length_eq_zero_iff, List.reverse_eq_nil_iff]
    have htaken : d.take (heap.grown d.size 1) [] = (cut arrivals).1.taken heap (cut arrivals).2 := by
      rw [hcut, take, Piece.taken, Piece.result, List.length_reverse, ← h.length_eq, ← h.size_eq]
      by_cases hd : d.length = 0
      · simp [hd, hempty.1 hd]
      · simp only [hd, mt hempty.2 hd, ↓reduceIte, close_grown]
    rw [htaken]
    exact h.whole_of_ended rfl hroom
  | .fault :: rest, d, h, hroom => by
    have hcut : cut arrivals = (⟨d.reversed.reverse, .fault⟩, rest) := by simpa [cut] using h.cut_eq
    have htaken : d.take (heap.grown d.size 1) (.fault :: rest) = (cut arrivals).1.taken heap (cut arrivals).2 := by
      rw [hcut, take, Heap.free_grown_self]
      rfl
    rw [htaken]
    exact h.whole_of_ended rfl hroom
  | .byte b :: rest, d, h, hroom => by
    by_cases hb : b = newline
    · have hcut : cut arrivals = (⟨d.reversed.reverse, .newline⟩, rest) := by simpa [cut, hb] using h.cut_eq
      have htaken : d.take (heap.grown d.size 1) (.byte b :: rest) =
          (cut arrivals).1.taken heap (cut arrivals).2 := by
        rw [hcut, take, if_pos hb, close_grown, Piece.taken, List.length_reverse, ← h.length_eq, ← h.size_eq]
        rfl
      rw [htaken]
      exact h.whole_of_ended (by simp [cut, hb]) hroom
    rw [take, if_neg hb]
    by_cases hd : d.length < d.size
    · rw [if_pos hd]
      exact take_within rest (d.push b)
        (h.push hb (h.size_eq.trans (blockSize_succ_of_lt (h.size_eq ▸ hd)).symm)) hroom
    · have hfull : blockSize d.length ≤ d.length := h.size_eq ▸ Nat.not_lt.1 hd
      rw [if_neg hd, h.doubled_eq]
      cases hadmits : heap.admits (heap.inUse + d.size * 2) with
      | true =>
        have hdouble : d.size * 2 = blockSize (d.length + 1) := by rw [blockSize_succ_of_full hfull, h.size_eq]
        exact take_within rest (Draft.push { d with size := d.size * 2 } b) (h.push hb hdouble) hadmits
      | false =>
        -- a full block is as long as its bytes, and a power of two
        have hsize : d.size = 2 ^ Nat.clog 2 d.length := h.size_eq
        have hlength : 2 ^ Nat.clog 2 d.length = d.length := two_pow_clog_of_full hfull
        have hleft : arrivals.drop (2 ^ Nat.clog 2 d.length + 1) = rest := by
          rw [← h.arrivals_eq, hlength, h.length_eq]
          simp [List.drop_append]
        have hlonger : 2 ^ Nat.clog 2 d.length < (cut arrivals).1.bytes.length := by
          rw [h.length_cut, cut, if_neg hb, hlength, List.length_cons]
          omega
        have hcutOff := @Taken.Within.cutOff heap arrivals (Nat.clog 2 d.length)
          (hsize ▸ hroom) (by rw [pow_succ, ← hsize]; exact hadmits) hlonger
        rw [hleft] at hcutOff
        simpa using hcutOff

end Of

end Draft

namespace Taken

variable {heap : Heap} {arrivals : List Arrival}

/-- **Reading on a heap that admits a byte.** -/
theorem ofArrivals_within (h : heap.admits (heap.inUse + 1) = true) (arrivals : List Arrival) :
    (ofArrivals heap false arrivals).Within heap arrivals := by
  have hmalloc : heap.malloc 1 = some (heap.grown 1 1) := by
    rw [Heap.malloc_one, if_pos h]
    rfl
  have hof : ({} : Draft).Of arrivals arrivals := ⟨rfl, List.not_mem_nil, rfl, rfl⟩
  simp only [ofArrivals, skipped, Bool.false_eq_true, ↓reduceIte, hmalloc]
  exact hof.take_within arrivals {} h

/-- Reading on a heap that admits none takes nothing. -/
theorem ofArrivals_starved (h : heap.admits (heap.inUse + 1) = false) (arrivals : List Arrival) :
    ofArrivals heap false arrivals = ⟨.error .alloc, heap, arrivals, false⟩ := by
  have hmalloc : heap.malloc 1 = none := by rw [Heap.malloc_one, h, if_neg Bool.false_ne_true]
  simp only [ofArrivals, skipped, Bool.false_eq_true, ↓reduceIte, hmalloc]

/-- With nothing to come, reading meets the end. -/
theorem ofArrivals_nil (h : heap.admits (heap.inUse + 1) = true) :
    ofArrivals heap false [] = ⟨.error .endOfInput, heap, [], false⟩ := by
  have hwithin := ofArrivals_within h []
  generalize ofArrivals heap false [] = t at hwithin ⊢
  cases hwithin with
  | whole => rfl
  | cutOff k _ _ hlonger => exact absurd hlonger (Nat.not_lt_zero _)

end Taken

/-! ## The next line -/

/-- What a call answers and the heap that it leaves, on a heap that admits a byte, given the line that is next, if there is
one. -/
def Reader.answer (heap : Heap) : Option Bytes → Except ReadError Line × Heap
  | none => (.error .endOfInput, heap)
  | some line =>
    let size := blockSize (lineBody line).length
    if heap.admits (heap.inUse + size) then
      match Text.decode? (lineBody line) with
      | some text => (.ok ⟨text, size⟩, heap.grown size 1)
      | none => (.error .encoding, heap)
    else (.error .alloc, heap)

namespace FirstLine

variable {line rest : Bytes}

theorem bytes_cut (h : FirstLine line rest) : (cut ((line ++ rest).map .byte)).1.bytes = lineBody line := by
  cases h with
  | ended h rest =>
    rw [lineBody_ended h, List.append_assoc, List.map_append, cut_append h]
    simp [cut]
  | last h hne =>
    rw [lineBody_last h, List.append_nil, ← List.append_nil (line.map _), cut_append h]
    simp [cut]

/-- The rest of a line, from wherever, is dropped up to the line behind it. -/
theorem dropLine_drop (h : FirstLine line rest) {n : Nat} (hn : n ≤ (lineBody line).length) :
    dropLine (((line ++ rest).map .byte).drop n) = (true, rest.map .byte) := by
  have hbody {body : Bytes} (h : newline ∉ body) : newline ∉ body.drop n := fun hmem => h (List.mem_of_mem_drop hmem)
  cases h with
  | ended h rest =>
    rw [lineBody_ended h] at hn
    rw [List.append_assoc, List.map_append, List.drop_append_of_le_length (by simpa using hn), ← List.map_drop,
      dropLine_append (hbody h)]
    simp [dropLine]
  | last h hne =>
    rw [List.append_nil, ← List.map_drop, ← List.append_nil (List.map _ _), dropLine_append (hbody h)]
    rfl

end FirstLine

namespace Taken

variable {heap : Heap}

/-- A line is taken or dropped, and what is behind it is next. -/
theorem Within.leaves {line rest : Bytes} (hline : FirstLine line rest) {t : Taken}
    (h : t.Within heap ((line ++ rest).map .byte)) :
    t.Leaves (Reader.answer heap (some line)).1 (Reader.answer heap (some line)).2 (rest.map .byte) := by
  obtain ⟨hresult, hleft⟩ := hline.cut_eq
  cases h with
  | whole hroom =>
    rw [hline.bytes_cut] at hroom
    rw [Piece.taken, hresult, hline.bytes_cut, hleft, Reader.answer, if_pos hroom, Piece.line]
    cases Text.decode? (lineBody line) <;> exact ⟨rfl, rfl, rfl⟩
  | cutOff k hroom hfull hlonger =>
    rw [hline.bytes_cut] at hlonger
    have hrefused : heap.admits (heap.inUse + blockSize (lineBody line).length) = false := by
      refine Bool.eq_false_iff.2 fun hadmits => ?_
      have hle := two_pow_succ_le_blockSize hlonger
      rw [Heap.admits_mono (by omega) hadmits] at hfull
      cases hfull
    rw [Reader.answer, hrefused, if_neg Bool.false_ne_true]
    exact ⟨rfl, rfl, hline.dropLine_drop hlonger⟩

/-- **Reading the next line**, behind the rest of a dropped one if that is still to come. -/
theorem ofArrivals_leaves (hheap : heap.admits (heap.inUse + 1) = true) {skipping : Bool} {arrivals : List Arrival}
    {data : Bytes} (hskipped : skipped skipping arrivals = (true, data.map .byte)) :
    (ofArrivals heap skipping arrivals).Leaves (Reader.answer heap (lines data).head?).1
      (Reader.answer heap (lines data).head?).2 ((lines data).tail.flatten.map .byte) := by
  rw [ofArrivals_skipped hskipped]
  rcases lines_cases data with ⟨rfl, -⟩ | ⟨line, rest, hline, rfl, hlines⟩
  · rw [List.map_nil, ofArrivals_nil hheap]
    exact ⟨rfl, rfl, rfl⟩
  · rw [hlines, List.head?_cons, List.tail_cons, flatten_lines]
    exact (ofArrivals_within hheap _).leaves hline

end Taken

namespace Reader

/-- A line is not the end. -/
theorem answer_ne_endOfInput (heap : Heap) (line : Bytes) : (answer heap (some line)).1 ≠ .error .endOfInput := by
  rw [answer]
  split
  · cases Text.decode? (lineBody line) <;> simp
  · simp

variable (depth : Nat) {m : Machine Sim} {prompt : String} (hprompt : prompt = "" ∨ m.state.room ≠ some 0)
  (hheap : m.heap.admits (m.heap.inUse + 1) = true) {r : Reader} {script : Script} {supply : Nat}
  (hsupply : script.arrivals.length ≤ supply)

include hprompt hheap hsupply

/-- **Reading the first line** of some bytes comes to the same whatever lies behind it and however it is fetched, and
the bytes behind it are expected next. -/
theorem run_readLine_firstLine {line rest : Bytes} (hline : FirstLine line rest)
    (hr : r.Expects script (line ++ rest)) :
    ∃ r' script', (r.readLine supply prompt).run (Sim.kernel depth) (m.facing m.heap script) =
        some (((answer m.heap (some line)).1, r'),
          (m.shown prompt).facing (answer m.heap (some line)).2 script') ∧
      r'.Expects script' rest ∧ script'.arrivals.length ≤ script.arrivals.length := by
  obtain ⟨arrivals, skipping, hr, hskipped⟩ := hr
  obtain ⟨r', script', hrun, hr', -, -, hle⟩ := run_readLine depth m m.heap hr hsupply hprompt
  rw [Taken.ofArrivals_skipped hskipped] at hrun hr'
  obtain ⟨hresult, hheap', hleft⟩ := (Taken.ofArrivals_within hheap _).leaves hline
  rw [hresult, hheap'] at hrun
  exact ⟨r', script', hrun, ⟨_, _, hr', hleft⟩, hle⟩

/-- Reading behind the last line meets the end. -/
theorem run_readLine_end (hr : r.Expects script []) :
    ∃ r' script', (r.readLine supply prompt).run (Sim.kernel depth) (m.facing m.heap script) =
        some ((.error .endOfInput, r'), (m.shown prompt).facing m.heap script') ∧ r'.Awaits script' [] false := by
  obtain ⟨arrivals, skipping, hr, hskipped⟩ := hr
  obtain ⟨r', script', hrun, hr', -⟩ := run_readLine depth m m.heap hr hsupply hprompt
  rw [Taken.ofArrivals_skipped hskipped, List.map_nil, Taken.ofArrivals_nil hheap] at hrun hr'
  exact ⟨r', script', hrun, hr'⟩

end Reader

/-! ## Calls one after the other -/

/-- One call of a reader: the heap that it found, what it answered, and the heap that it left. -/
structure Call where
  before : Heap
  result : Except ReadError Line
  after : Heap
deriving DecidableEq, Repr

namespace Reader

/-- Calls one after the other. Before each of them something is done to the heap: its limit is moved, blocks are obtained
from it or given back to it. -/
def calls {σ : Type} (K : Kernel σ) (supply : Nat) (prompt : String) :
    List (Heap → Heap) → Reader → Machine σ → Option (List Call × Reader × Machine σ)
  | [], r, m => some ([], r, m)
  | change :: changes, r, m =>
    match (r.readLine supply prompt).run K { m with heap := change m.heap } with
    | none => none
    | some ((result, r), m') =>
      (calls K supply prompt changes r m').map fun (more, last) => (⟨change m.heap, result, m'.heap⟩ :: more, last)

/-- Calls of a reader answer the lines that it awaits. -/
theorem run_calls (depth : Nat) {supply : Nat} {prompt : String} : ∀ (changes : List (Heap → Heap)) (r : Reader)
    (m : Machine Sim) (script : Script) (arrivals : List Arrival) (skipping : Bool),
    m.state.input = .script script → r.Awaits script arrivals skipping → script.arrivals.length ≤ supply →
    (prompt = "" ∨ m.state.room = none) →
    ∃ (done : List Call) (last : Reader × Machine Sim),
      r.calls (Sim.kernel depth) supply prompt changes m = some (done, last) ∧ done.length = changes.length ∧
      ∀ data : Bytes, skipped skipping arrivals = (true, data.map .byte) →
        (∀ call ∈ done, call.before.admits (call.before.inUse + 1) = true) →
        ∀ (i : Nat) (call : Call), done[i]? = some call →
          (call.result, call.after) = answer call.before (lines data)[i]?
  | [], r, m, _, _, _, _, _, _, _ => ⟨[], (r, m), rfl, rfl, fun _ _ _ i call h => by simp at h⟩
  | change :: changes, r, m, script, arrivals, skipping, hinput, hr, hsupply, hprompt => by
    obtain ⟨r₁, script₁, hrun, hr₁, -, -, hle⟩ :=
      run_readLine depth m (change m.heap) hr hsupply (hprompt.imp_right fun h => by simp [h])
    have hfacing : { m with heap := change m.heap } = m.facing (change m.heap) script := by
      have hself := congrArg (fun m : Machine Sim => { m with heap := change m.heap }) (m.facing_self hinput)
      exact hself.symm
    have hprompt₁ : prompt = "" ∨ ((m.shown prompt).facing
        (Taken.ofArrivals (change m.heap) skipping arrivals).heap script₁).state.room = none :=
      hprompt.imp_right fun h => by rw [Machine.facing_room, Machine.shown_state prompt h, h]
    obtain ⟨done, last, hcalls, hlength, hanswers⟩ := run_calls depth changes r₁ _ script₁ _ _ rfl hr₁
      (Nat.le_trans hle hsupply) hprompt₁
    refine ⟨_, last, by rw [Reader.calls, hfacing, hrun]; exact congrArg (Option.map _) hcalls, by simp [hlength], ?_⟩
    intro data hskipped hadmits i call hcall
    obtain ⟨hresult, hheap, hleft⟩ := Taken.ofArrivals_leaves (hadmits _ List.mem_cons_self) hskipped
    cases i with
    | zero =>
      cases hcall
      rw [← List.head?_eq_getElem?]
      exact Prod.ext hresult hheap
    | succ i =>
      have hrest := hanswers _ hleft (fun call hmem => hadmits call (List.mem_cons_of_mem _ hmem)) i call hcall
      have hlines : lines (lines data).tail.flatten = (lines data).tail := by
        rcases lines_cases data with ⟨rfl, -⟩ | ⟨line, rest, -, -, hlines⟩
        · rfl
        · rw [hlines, List.tail_cons, flatten_lines]
      rw [hrest, hlines, List.getElem?_tail]

/-- **Calls of a fresh reader**, with batches of any size, answer the lines of a console without faults one after the
other, and behind the last one that the input has ended. The heap may be changed before each of them as long as it admits
one byte when the call comes. -/
theorem calls_lines (depth : Nat) (batch : UInt64) (prompt : String) (changes : List (Heap → Heap)) {m : Machine Sim}
    {script : Script} {data : Bytes} {supply : Nat} (hinput : m.state.input = .script script)
    (hdata : script.arrivals = data.map .byte) (hfits : data.length < Script.limit)
    (hprompt : prompt = "" ∨ m.state.room = none) (hsupply : (Sim.kernel depth).supply m ≤ supply) :
    ∃ done r last, (ofChunk batch.toNat).calls (Sim.kernel depth) supply prompt changes m = some (done, r, last) ∧
      done.length = changes.length ∧
      ((∀ call ∈ done, call.before.admits (call.before.inUse + 1) = true) →
        ∀ (i : Nat) (call : Call), done[i]? = some call →
          (call.result, call.after) = answer call.before (lines data)[i]?) := by
  have hlength : script.arrivals.length = data.length := by rw [hdata, List.length_map]
  have hsupply' : script.arrivals.length ≤ supply := Sim.supply_eq hinput ▸ hsupply
  obtain ⟨done, ⟨r, last⟩, hcalls, hcount, hanswers⟩ :=
    run_calls depth changes (ofChunk batch.toNat) m script script.arrivals false hinput
      (ofChunk_awaits batch (hlength ▸ hfits)) hsupply' hprompt
  have hskipped : skipped false script.arrivals = (true, data.map .byte) := by
    rw [hdata]
    rfl
  exact ⟨done, r, last, hcalls, hcount, hanswers data hskipped⟩

/-- Three bytes in each batch, and five bytes in use: a line for which the limit is too low, one of four bytes that is
kept, bytes that are no text, a line for which a second byte is too much, and the end. -/
theorem calls_moving_limits :
    let data := Text.bytes "abcdef\nnext\n" ++ [0xff, newline] ++ Text.bytes "ab"
    let script : Script := [.data (data.take 8), .data (data.drop 8)]
    let m : Machine Sim := { heap := ⟨none, 5, 2⟩, state := Sim.empty (.script script) }
    let moved (most : Option Nat) (heap : Heap) : Heap := { heap with limit := most }
    let changes := [moved (some 12), moved none, id, moved (some 10), id]
    m.state.input = .script script ∧ script.arrivals = data.map .byte ∧ data.length < Script.limit ∧
      (Sim.kernel 0).supply m ≤ 16 ∧
      ∃ done r last, (ofChunk (3 : UInt64).toNat).calls (Sim.kernel 0) 16 "" changes m = some (done, r, last) ∧
        done = [⟨⟨some 12, 5, 2⟩, .error .alloc, ⟨some 12, 5, 2⟩⟩, ⟨⟨none, 5, 2⟩, .ok ⟨"next", 4⟩, ⟨none, 9, 3⟩⟩,
          ⟨⟨none, 9, 3⟩, .error .encoding, ⟨none, 9, 3⟩⟩, ⟨⟨some 10, 9, 3⟩, .error .alloc, ⟨some 10, 9, 3⟩⟩,
          ⟨⟨some 10, 9, 3⟩, .error .endOfInput, ⟨some 10, 9, 3⟩⟩] ∧
        (∀ call ∈ done, call.before.admits (call.before.inUse + 1) = true) ∧
        ∀ (i : Nat) (call : Call), done[i]? = some call →
          (call.result, call.after) = answer call.before (lines data)[i]? := by
  intro data script m moved changes
  have hinput : m.state.input = .script script := rfl
  have hdata : script.arrivals = data.map .byte := by decide +kernel
  have hfits : data.length < Script.limit := by decide +kernel
  have hsupply : (Sim.kernel 0).supply m ≤ 16 := by decide +kernel
  have hdone : ((ofChunk (3 : UInt64).toNat).calls (Sim.kernel 0) 16 "" changes m).map Prod.fst =
      some [⟨⟨some 12, 5, 2⟩, .error .alloc, ⟨some 12, 5, 2⟩⟩, ⟨⟨none, 5, 2⟩, .ok ⟨"next", 4⟩, ⟨none, 9, 3⟩⟩,
        ⟨⟨none, 9, 3⟩, .error .encoding, ⟨none, 9, 3⟩⟩, ⟨⟨some 10, 9, 3⟩, .error .alloc, ⟨some 10, 9, 3⟩⟩,
        ⟨⟨some 10, 9, 3⟩, .error .endOfInput, ⟨some 10, 9, 3⟩⟩] := by decide +kernel
  obtain ⟨done, r, last, hcalls, -, hanswers⟩ :=
    calls_lines 0 3 "" changes hinput hdata hfits (.inl rfl) hsupply
  rw [hcalls] at hdone
  cases hdone
  exact ⟨hinput, hdata, hfits, hsupply, _, r, last, hcalls, rfl, by decide, hanswers (by decide)⟩

end Reader

end LineShell
