import LineShell.Proofs.Balance
import LineShell.Proofs.Words

/-!
# The accounts of a heap

What a program has in hand are blocks of its own, lines and word lists (`Holding`). It obtains them, resizes its blocks
and gives things back in any order, and meanwhile the limit may be moved (`InHand`).

- `Wanted.run_obtain`: a request for memory is granted exactly where the heap admits all of its bytes at once, although
  the blocks of words are asked for one by one; a refusal leaves the machine as it was;
- `Heap.Counts.apart`: the counters are the sizes and the number of the blocks in hand, so whatever is given back was
  counted;
- `Handling.exact` is one operation, `InHand.counts` and `InHand.within` are all of them one after the other.
-/

namespace LineShell

/-! ## Requests, with all that they change -/

namespace Heap

/-- The heap with so many more bytes handed out, in so many more blocks. -/
def grown (heap : Heap) (bytes count : Nat) : Heap :=
  { heap with inUse := heap.inUse + bytes, blocks := heap.blocks + count }

variable {heap : Heap}

@[simp] theorem grown_inUse (bytes count : Nat) : (heap.grown bytes count).inUse = heap.inUse + bytes := rfl

@[simp] theorem grown_blocks (bytes count : Nat) : (heap.grown bytes count).blocks = heap.blocks + count := rfl

@[simp] theorem grown_limit (bytes count : Nat) : (heap.grown bytes count).limit = heap.limit := rfl

@[simp] theorem grown_zero : heap.grown 0 0 = heap := rfl

@[simp] theorem admits_grown (bytes count total : Nat) :
    (heap.grown bytes count).admits total = heap.admits total := rfl

theorem grown_grown (bytes count bytes' count' : Nat) :
    (heap.grown bytes count).grown bytes' count' = heap.grown (bytes + bytes') (count + count') := by
  simp [grown, Nat.add_assoc]

/-- Bytes that are given back were counted. -/
theorem release_grown (bytes count size : Nat) :
    (heap.grown (size + bytes) count).release size = heap.grown bytes count := by
  simp only [release, grown, Heap.mk.injEq, true_and, and_true]
  omega

/-- A block that is given back was counted. -/
theorem free_grown (bytes count size : Nat) :
    (heap.grown (size + bytes) (count + 1)).free size = heap.grown bytes count := by
  rw [free, release_grown]
  simp [grown]

@[simp] theorem free_grown_self (size : Nat) : (heap.grown size 1).free size = heap := by
  have hfree : (heap.grown (size + 0) (0 + 1)).free size = heap.grown 0 0 := free_grown 0 0 size
  rwa [Nat.add_zero, Nat.zero_add, grown_zero] at hfree

theorem admits_iff {total : Nat} :
    heap.admits total = true ↔ total < wordLimit ∧ ∀ most ∈ heap.limit, total ≤ most := by
  simp only [admits, Bool.and_eq_true, decide_eq_true_eq, Option.all_eq_true, Option.mem_def]

/-- Who has room for more has room for less. -/
theorem admits_mono {total total' : Nat} (hle : total ≤ total') (h : heap.admits total' = true) :
    heap.admits total = true := by
  obtain ⟨hword, hlimit⟩ := admits_iff.1 h
  exact admits_iff.2 ⟨Nat.lt_of_le_of_lt hle hword, fun most hmost => Nat.le_trans hle (hlimit most hmost)⟩

theorem lt_wordLimit_of_admits {total : Nat} (h : heap.admits total = true) : total < wordLimit :=
  (admits_iff.1 h).1

/-- A block is refused where the heap does not admit its bytes. -/
theorem malloc_eq_none_iff {size : Nat} : heap.malloc size = none ↔ heap.admits (heap.inUse + size) = false := by
  simp [malloc, charge]

theorem calloc_eq_none_iff {count size : Nat} :
    heap.calloc count size = none ↔ heap.admits (heap.inUse + count * size) = false := by
  rw [calloc, ← malloc_eq_none_iff]
  split
  · exact Iff.rfl
  · next hword =>
    refine iff_of_true rfl (malloc_eq_none_iff.2 (Bool.eq_false_iff.2 fun hadmits => hword ?_))
    exact Nat.lt_of_le_of_lt (Nat.le_add_left ..) (lt_wordLimit_of_admits hadmits)

theorem serve_malloc_eq (size : Nat) : heap.serve (.malloc size) =
    if heap.admits (heap.inUse + size) then (true, heap.grown size 1) else (false, heap) := by
  cases hadmits : heap.admits (heap.inUse + size) <;>
    simp [serve, serve.answer, malloc, charge, hadmits, grown]

/-- A product that is no word is refused like a size that is none. -/
theorem serve_calloc_eq (count size : Nat) : heap.serve (.calloc count size) =
    if heap.admits (heap.inUse + count * size) then (true, heap.grown (count * size) 1) else (false, heap) := by
  by_cases hword : count * size < wordLimit
  · rw [← serve_malloc_eq, serve, serve, calloc, if_pos hword]
  · have hrefused : ¬heap.admits (heap.inUse + count * size) = true := fun hadmits =>
      hword (Nat.lt_of_le_of_lt (Nat.le_add_left ..) (lt_wordLimit_of_admits hadmits))
    rw [if_neg hrefused, serve, calloc, if_neg hword, serve.answer]

theorem serve_realloc_of_lt {old new : Nat} (h : old < new) : heap.serve (.realloc old new) =
    if heap.admits (heap.inUse + (new - old)) then (true, heap.grown (new - old) 0) else (false, heap) := by
  cases hadmits : heap.admits (heap.inUse + (new - old)) <;>
    simp [serve, serve.answer, realloc, h, charge, hadmits, grown]

theorem serve_realloc_of_le {old new : Nat} (h : new ≤ old) :
    heap.serve (.realloc old new) = (true, heap.release (old - new)) := by
  rw [serve, realloc, if_neg (Nat.not_lt.2 h), serve.answer]

end Heap

/-! ## Words, one block after the other -/

namespace Words

variable {σ : Type} {K : Kernel σ}

theorem sum_wordBlocks : ∀ list : List String, (wordBlocks list).sum = sizes list
  | [] => rfl
  | word :: rest => by rw [wordBlocks_cons, Multiset.sum_cons, sum_wordBlocks rest, sizes]

theorem card_wordBlocks : ∀ list : List String, (wordBlocks list).card = list.length
  | [] => rfl
  | word :: rest => by rw [wordBlocks_cons, Multiset.card_cons, card_wordBlocks rest, List.length_cons]

/-- The blocks of words take what the words cost. -/
theorem sum_blocks (ws : Words) : ws.blocks.sum = cost ws.toList := by
  rw [blocks, Multiset.sum_add, Multiset.sum_singleton, sum_wordBlocks, cost, Nat.add_comm]

theorem card_blocks (ws : Words) : ws.blocks.card = ws.toList.length + 1 := by
  rw [blocks, Multiset.card_add, Multiset.card_singleton, card_wordBlocks]

/-- Words that were counted are taken off the counters. -/
theorem run_dropEach_grown : ∀ (list : List String) (m : Machine σ) (heap : Heap) (bytes count : Nat),
    m.heap = heap.grown (sizes list + bytes) (list.length + count) →
    (dropEach list).run K m = some ((), { m with heap := heap.grown bytes count })
  | [], m, heap, bytes, count, h => by
    simp only [sizes, List.length_nil, Nat.zero_add] at h
    rw [← h]
    rfl
  | word :: rest, m, heap, bytes, count, h => by
    have hfree : m.heap.free (Text.size word) = heap.grown (sizes rest + bytes) (rest.length + count) := by
      rw [h, sizes, List.length_cons, Nat.add_assoc, Nat.add_right_comm, Heap.free_grown]
    have hrest := run_dropEach_grown rest { m with heap := m.heap.free (Text.size word) } heap bytes count hfree
    simp [dropEach, hrest]

/-- All words get their blocks, or those that had one before have given it back. -/
theorem run_holdEach_grown : ∀ (list held : List String) (m : Machine σ) (heap : Heap),
    m.heap = heap.grown (sizes held) held.length →
    heap.admits (heap.inUse + sizes held) = true →
    (holdEach held list).run K m =
      if heap.admits (heap.inUse + (sizes held + sizes list)) then
        some (.ok (), { m with heap := heap.grown (sizes held + sizes list) (held.length + list.length) })
      else some (.error .outOfMemory, { m with heap := heap })
  | [], held, m, heap, h, hheld => by
    simp only [sizes, Nat.add_zero, hheld, ↓reduceIte, List.length_nil, ← h]
    rfl
  | word :: rest, held, m, heap, h, _ => by
    have hserve : m.heap.serve (.malloc (Text.size word)) = _ := Heap.serve_malloc_eq _
    rw [h] at hserve
    simp only [Heap.admits_grown, Heap.grown_inUse, Heap.grown_grown] at hserve
    by_cases hadmits : heap.admits (heap.inUse + (sizes held + Text.size word)) = true
    · rw [Nat.add_assoc, if_pos hadmits] at hserve
      have hheld : sizes (word :: held) = sizes held + Text.size word := Nat.add_comm ..
      have hrest := run_holdEach_grown rest (word :: held)
        { m with heap := heap.grown (sizes held + Text.size word) (held.length + 1) } heap
        (by rw [hheld, List.length_cons]) (by rwa [hheld])
      rw [hheld, List.length_cons, Nat.add_assoc, ← sizes, Nat.succ_add_eq_add_succ] at hrest
      simp only [holdEach, Prog.run_seq, Prog.run_allocate, h, hserve, ↓reduceIte, Option.bind_some]
      exact hrest
    · -- what does not hold this word does not hold all of them
      have hall : ¬heap.admits (heap.inUse + (sizes held + sizes (word :: rest))) = true := fun hall =>
        hadmits (Heap.admits_mono (by rw [sizes]; omega) hall)
      rw [Nat.add_assoc, if_neg hadmits] at hserve
      have hdrop := run_dropEach_grown (K := K) held m heap 0 0 h
      rw [if_neg hall]
      simp only [holdEach, Prog.run_seq, Prog.run_allocate, h, hserve]
      simp [← h, hdrop]

/-- **Holding words** is granted exactly where there is room for all of them; a refusal leaves the machine as it was. -/
theorem run_hold_eq (list : List String) (m : Machine σ) :
    (hold list).run K m =
      if m.heap.admits (m.heap.inUse + cost list) then
        some (.ok ⟨list⟩, { m with heap := m.heap.grown (cost list) (list.length + 1) })
      else some (.error .outOfMemory, m) := by
  have hserve : m.heap.serve (.calloc list.length slotSize) = _ := Heap.serve_calloc_eq _ _
  by_cases hslots : m.heap.admits (m.heap.inUse + list.length * slotSize) = true
  · rw [if_pos hslots] at hserve
    have heach := run_holdEach_grown (K := K) list []
      { m with heap := m.heap.grown (list.length * slotSize) 1 } (m.heap.grown (list.length * slotSize) 1) rfl hslots
    have hcost : list.length * slotSize + sizes list = cost list := rfl
    simp only [sizes, Nat.zero_add, List.length_nil, Heap.admits_grown, Heap.grown_inUse, Heap.grown_grown,
      Nat.add_assoc, Nat.add_comm 1, hcost] at heach
    by_cases hall : m.heap.admits (m.heap.inUse + cost list) = true <;>
      simp [hold, hserve, heach, hall]
  · have hall : ¬m.heap.admits (m.heap.inUse + cost list) = true := fun hall =>
      hslots (Heap.admits_mono (by rw [cost]; omega) hall)
    rw [if_neg hslots] at hserve
    simp [hold, hserve, hall]

/-- Where no limit is set, holding words takes what they cost. -/
theorem run_hold {m : Machine σ} {bytes : Nat} {list : List String} (h : m.heap.Uses bytes)
    (hroom : bytes + cost list < wordLimit) :
    ∃ heap, (hold list).run K m = some (.ok ⟨list⟩, { m with heap := heap }) ∧ heap.Uses (bytes + cost list) := by
  have hadmits : m.heap.admits (m.heap.inUse + cost list) = true :=
    Heap.admits_of_limit h.limit_eq (by rw [h.inUse_eq]; exact hroom)
  refine ⟨_, (run_hold_eq list m).trans (if_pos hadmits), h.limit_eq, ?_⟩
  rw [Heap.grown_inUse, h.inUse_eq]

/-- Words that were counted are taken off the counters, with their slots. -/
theorem run_drop_grown (ws : Words) {m : Machine σ} {heap : Heap}
    (h : m.heap = heap.grown ws.blocks.sum ws.blocks.card) :
    ws.drop.run K m = some ((), { m with heap := heap }) := by
  rw [sum_blocks, card_blocks, cost, Nat.add_comm _ (sizes _)] at h
  simp [drop, run_dropEach_grown ws.toList m heap _ _ h]

end Words

/-! ## What a program has in hand -/

/-- What a program can ask for. -/
inductive Wanted
  | malloc (size : Nat)
  | calloc (count size : Nat)
  /-- A line that holds a copy of `text`. -/
  | line (text : String)
  /-- The words of the line `text`. -/
  | words (text : String)
deriving DecidableEq, Repr

/-- What a program has in hand. -/
inductive Holding
  | block (size : Nat)
  | line (line : Line)
  | words (ws : Words)
deriving DecidableEq, Repr

namespace Holding

/-- The sizes of its blocks. -/
def blocks : Holding → Multiset Nat
  | .block size => {size}
  | .line l => l.blocks
  | .words ws => ws.blocks

/-- Give all its blocks back. -/
def drop : Holding → Prog Unit
  | .block size => Prog.free size
  | .line l => l.drop
  | .words ws => ws.drop

/-- The sizes of all blocks in hand. -/
def allBlocks (held : List Holding) : Multiset Nat :=
  (held.map blocks).sum

theorem allBlocks_cons (x : Holding) (held : List Holding) : allBlocks (x :: held) = x.blocks + allBlocks held := by
  simp [allBlocks]

/-- Whatever is in hand stands beside the rest. -/
theorem allBlocks_eraseIdx {held : List Holding} {place : Nat} {x : Holding} (h : held[place]? = some x) :
    allBlocks held = x.blocks + allBlocks (held.eraseIdx place) := by
  induction held generalizing place with
  | nil => simp at h
  | cons y rest ih =>
    cases place with
    | zero =>
      cases h
      exact allBlocks_cons x rest
    | succ place =>
      rw [List.eraseIdx_cons_succ, allBlocks_cons, allBlocks_cons, ih h, add_left_comm]

theorem allBlocks_set {held : List Holding} {place : Nat} {x : Holding} (h : held[place]? = some x) (y : Holding) :
    allBlocks (held.set place y) = y.blocks + allBlocks (held.eraseIdx place) := by
  obtain ⟨hlt, -⟩ := List.getElem?_eq_some_iff.1 h
  rw [allBlocks_eraseIdx (List.getElem?_set_self hlt), List.eraseIdx_set_eq]

variable {σ : Type} {K : Kernel σ}

/-- What was counted is taken off the counters. -/
theorem run_drop (x : Holding) {m : Machine σ} {heap : Heap} (h : m.heap = heap.grown x.blocks.sum x.blocks.card) :
    x.drop.run K m = some ((), { m with heap := heap }) := by
  cases x with
  | block size =>
    simp only [blocks, Multiset.sum_singleton, Multiset.card_singleton] at h
    simp [drop, h]
  | line l =>
    simp only [blocks, Line.blocks, Multiset.sum_singleton, Multiset.card_singleton] at h
    simp [drop, Line.drop, h]
  | words ws => exact ws.run_drop_grown h

end Holding

namespace Wanted

/-- The bytes that the use grows by. -/
def bytes : Wanted → Nat
  | .malloc size => size
  | .calloc count size => count * size
  | .line text => Text.size text
  | .words text => Words.cost (LineShell.words text)

/-- What comes into the hands of the program. -/
def holding : Wanted → Holding
  | .malloc size => .block size
  | .calloc count size => .block (count * size)
  | .line text => .line ⟨text, Text.size text⟩
  | .words text => .words ⟨LineShell.words text⟩

/-- Ask for it. -/
def obtain : Wanted → Prog (Except AllocError Holding)
  | .malloc size => do return (← Prog.allocate (.malloc size)).map fun _ => .block size
  | .calloc count size => do return (← Prog.allocate (.calloc count size)).map fun _ => .block (count * size)
  | .line text => do return (← Line.copy text).map .line
  | .words text => do return (← Words.ofLine text).map .words

theorem sum_holding (wanted : Wanted) : wanted.holding.blocks.sum = wanted.bytes := by
  cases wanted <;> simp [holding, bytes, Holding.blocks, Line.blocks, Words.sum_blocks]

variable {σ : Type} {K : Kernel σ}

/-- **A request for memory** is granted exactly where the heap admits all of its bytes at once; a refusal leaves the
machine as it was. -/
theorem run_obtain (wanted : Wanted) (m : Machine σ) :
    wanted.obtain.run K m =
      if m.heap.admits (m.heap.inUse + wanted.bytes) then
        some (.ok wanted.holding, { m with heap := m.heap.grown wanted.bytes wanted.holding.blocks.card })
      else some (.error .outOfMemory, m) := by
  by_cases hadmits : m.heap.admits (m.heap.inUse + wanted.bytes) = true
  all_goals
    simp only [hadmits, ↓reduceIte]
    cases wanted with
    | malloc size =>
      rw [bytes] at hadmits
      simp [obtain, bytes, holding, Holding.blocks, Heap.serve_malloc_eq, hadmits, Except.map]
    | calloc count size =>
      rw [bytes] at hadmits
      simp [obtain, bytes, holding, Holding.blocks, Heap.serve_calloc_eq, hadmits, Except.map]
    | line text =>
      rw [bytes] at hadmits
      simp [obtain, Line.copy, bytes, holding, Holding.blocks, Line.blocks, Heap.serve_malloc_eq, hadmits, Except.map]
    | words text =>
      rw [bytes] at hadmits
      simp [obtain, Words.ofLine, bytes, holding, Holding.blocks, Words.card_blocks, Words.run_hold_eq, hadmits,
        Except.map]

end Wanted

/-! ## Operations in any order -/

/-- What a program does with its memory. -/
inductive Handling
  | obtain (wanted : Wanted)
  /-- Resize the block in this place to `new` bytes. -/
  | resize (place new : Nat)
  | drop (place : Nat)
deriving DecidableEq, Repr

/-- Do it to what is in hand. The result is what is in hand then; after a refusal that is what was in hand before. -/
def Handling.perform (held : List Holding) : Handling → Prog (Except AllocError (List Holding))
  | .obtain wanted => do return (← wanted.obtain).map (· :: held)
  | .resize place new =>
    match held[place]? with
    | some (.block old) => do return (← Prog.allocate (.realloc old new)).map fun _ => held.set place (.block new)
    | _ => return .ok held
  | .drop place =>
    match held[place]? with
    | some x => do
      x.drop
      return .ok (held.eraseIdx place)
    | none => return .ok held

/-- The counters of the heap are the sizes and the number of the blocks in hand. -/
structure Heap.Counts (heap : Heap) (held : List Holding) : Prop where
  inUse_eq : heap.inUse = (Holding.allBlocks held).sum
  blocks_eq : heap.blocks = (Holding.allBlocks held).card
  inUse_lt : heap.inUse < wordLimit

namespace Heap.Counts

variable {heap : Heap} {held : List Holding}

theorem more (h : heap.Counts held) (x : Holding) (hroom : heap.admits (heap.inUse + x.blocks.sum) = true) :
    (heap.grown x.blocks.sum x.blocks.card).Counts (x :: held) where
  inUse_eq := by rw [grown_inUse, h.inUse_eq, Holding.allBlocks_cons, Multiset.sum_add, Nat.add_comm]
  blocks_eq := by rw [grown_blocks, h.blocks_eq, Holding.allBlocks_cons, Multiset.card_add, Nat.add_comm]
  inUse_lt := lt_wordLimit_of_admits hroom

/-- **Whatever is in hand was counted**: without it the counters are those of the rest. -/
theorem apart (h : heap.Counts held) {place : Nat} {x : Holding} (hx : held[place]? = some x) :
    ∃ rest : Heap, heap = rest.grown x.blocks.sum x.blocks.card ∧ rest.Counts (held.eraseIdx place) := by
  have hinUse := h.inUse_eq
  have hblocks := h.blocks_eq
  rw [Holding.allBlocks_eraseIdx hx, Multiset.sum_add] at hinUse
  rw [Holding.allBlocks_eraseIdx hx, Multiset.card_add] at hblocks
  refine ⟨{ heap with
      inUse := (Holding.allBlocks (held.eraseIdx place)).sum,
      blocks := (Holding.allBlocks (held.eraseIdx place)).card }, ?_, rfl, rfl, ?_⟩
  · rw [grown, Nat.add_comm, ← hinUse, Nat.add_comm, ← hblocks]
  · have := h.inUse_lt
    simp only
    omega

/-- A block of another size in its place. -/
theorem resized {rest : Heap} {place old : Nat} (hrest : rest.Counts (held.eraseIdx place))
    (hplace : held[place]? = some (.block old)) {new : Nat} (hword : rest.inUse + new < wordLimit) :
    (rest.grown new 1).Counts (held.set place (.block new)) where
  inUse_eq := by
    rw [grown_inUse, hrest.inUse_eq, Holding.allBlocks_set hplace, Multiset.sum_add, Nat.add_comm, Holding.blocks,
      Multiset.sum_singleton]
  blocks_eq := by
    rw [grown_blocks, hrest.blocks_eq, Holding.allBlocks_set hplace, Multiset.card_add, Nat.add_comm, Holding.blocks,
      Multiset.card_singleton]
  inUse_lt := hword

/-- A block that does not grow is resized whatever the limit, and what it gives back was counted. -/
theorem shrink (h : heap.Counts held) {old new : Nat} (hmem : .block old ∈ held) (hle : new ≤ old) :
    ∃ heap', heap.serve (.realloc old new) = (true, heap') ∧ heap = heap'.grown (old - new) 0 := by
  obtain ⟨place, hplace⟩ := List.getElem?_of_mem hmem
  obtain ⟨rest, rfl, -⟩ := h.apart hplace
  refine ⟨_, serve_realloc_of_le hle, ?_⟩
  simp only [release, grown, Holding.blocks, Multiset.sum_singleton, Heap.mk.injEq, true_and, Nat.add_zero, and_true]
  omega

end Heap.Counts

section Handling

variable {σ : Type} {K : Kernel σ} {m : Machine σ} {held : List Holding}

namespace Handling

/-- The operation is refused, with the machine as it was, or leaves the counters right for what is in hand then; the use
has not grown, or the limit admits it. -/
def Exact (K : Kernel σ) (m : Machine σ) (held : List Holding) (op : Handling) : Prop :=
  (op.perform held).run K m = some (.error .outOfMemory, m) ∨
    ∃ held' heap, (op.perform held).run K m = some (.ok held', { m with heap := heap }) ∧ heap.Counts held' ∧
      heap.limit = m.heap.limit ∧ (heap.inUse ≤ m.heap.inUse ∨ heap.admits heap.inUse = true)

/-- Where nothing is done, nothing changes. -/
theorem Exact.of_idle {op : Handling} (h : m.heap.Counts held) (hidle : op.perform held = pure (.ok held)) :
    op.Exact K m held :=
  .inr ⟨held, m.heap, by rw [hidle]; rfl, h, rfl, .inl (Nat.le_refl _)⟩

theorem obtain_exact (h : m.heap.Counts held) (wanted : Wanted) : (Handling.obtain wanted).Exact K m held := by
  have hrun := wanted.run_obtain (K := K) m
  by_cases hadmits : m.heap.admits (m.heap.inUse + wanted.bytes) = true
  · have hmore := h.more wanted.holding (by rwa [wanted.sum_holding])
    rw [wanted.sum_holding] at hmore
    refine .inr ⟨wanted.holding :: held, _, ?_, hmore, rfl, .inr hadmits⟩
    simp [perform, hrun, hadmits, Except.map]
  · exact .inl (by simp [perform, hrun, hadmits, Except.map])

/-- A block stands beside `rest`; resized, it stands there with its new size. -/
theorem resize_exact (h : m.heap.Counts held) (place new : Nat) : (Handling.resize place new).Exact K m held := by
  match hplace : held[place]? with
  | none => exact .of_idle h (by simp [perform, hplace])
  | some (.line _) => exact .of_idle h (by simp [perform, hplace])
  | some (.words _) => exact .of_idle h (by simp [perform, hplace])
  | some (.block old) =>
    obtain ⟨rest, hheap, hrest⟩ := h.apart hplace
    have hword := h.inUse_lt
    simp only [Holding.blocks, Multiset.sum_singleton, Multiset.card_singleton] at hheap
    rw [hheap, Heap.grown_inUse] at hword
    rcases Nat.lt_or_ge old new with hgrow | hshrink
    · have hserve : m.heap.serve (.realloc old new) = _ := Heap.serve_realloc_of_lt hgrow
      have hnew : m.heap.grown (new - old) 0 = rest.grown new 1 := by
        rw [hheap, Heap.grown_grown, Nat.add_sub_cancel' (Nat.le_of_lt hgrow)]
      by_cases hadmits : m.heap.admits (m.heap.inUse + (new - old)) = true
      · rw [if_pos hadmits, hnew] at hserve
        have hroom : (rest.grown new 1).admits (rest.grown new 1).inUse = true := by
          rw [← hnew]
          exact hadmits
        refine .inr ⟨held.set place (.block new), rest.grown new 1, ?_,
          hrest.resized hplace (Heap.lt_wordLimit_of_admits hroom), ?_, .inr hroom⟩
        · simp [perform, hplace, hserve, Except.map]
        · rw [← hnew, Heap.grown_limit]
      · exact .inl (by simp [perform, hplace, hserve, hadmits, Except.map])
    · have hserve : m.heap.serve (.realloc old new) = _ := Heap.serve_realloc_of_le hshrink
      have hnew : (rest.grown (old - new + new) 1).release (old - new) = _ := Heap.release_grown new 1 (old - new)
      rw [Nat.sub_add_cancel hshrink, ← hheap] at hnew
      rw [hnew] at hserve
      refine .inr ⟨held.set place (.block new), rest.grown new 1, ?_, hrest.resized hplace (by omega), ?_, .inl ?_⟩
      · simp [perform, hplace, hserve, Except.map]
      · rw [hheap, Heap.grown_limit, Heap.grown_limit]
      · rw [hheap, Heap.grown_inUse, Heap.grown_inUse]
        omega

theorem drop_exact (h : m.heap.Counts held) (place : Nat) : (Handling.drop place).Exact K m held := by
  cases hplace : held[place]? with
  | none => exact .of_idle h (by simp [perform, hplace])
  | some x =>
    obtain ⟨rest, hheap, hrest⟩ := h.apart hplace
    refine .inr ⟨held.eraseIdx place, rest, by simp [perform, hplace, x.run_drop hheap], hrest, by simp [hheap],
      .inl ?_⟩
    rw [hheap]
    exact Nat.le_add_right ..

/-- **One operation**, whichever it is. -/
theorem exact (h : m.heap.Counts held) : ∀ op : Handling, op.Exact K m held
  | .obtain wanted => obtain_exact h wanted
  | .resize place new => resize_exact h place new
  | .drop place => drop_exact h place

/-- What there is after a refusal. -/
theorem of_refused {op : Handling} {m' : Machine σ} {e : AllocError} (h : m.heap.Counts held)
    (hrun : (op.perform held).run K m = some (.error e, m')) : m' = m := by
  rcases exact (K := K) h op with hrefused | ⟨_, _, hgranted, -⟩
  · rw [hrefused] at hrun
    cases hrun
    rfl
  · rw [hgranted] at hrun
    cases hrun

/-- What there is after an operation that was granted. -/
theorem of_granted {op : Handling} {m' : Machine σ} {held' : List Holding} (h : m.heap.Counts held)
    (hrun : (op.perform held).run K m = some (.ok held', m')) :
    m'.heap.Counts held' ∧ m'.heap.limit = m.heap.limit ∧
      (m'.heap.inUse ≤ m.heap.inUse ∨ m'.heap.admits m'.heap.inUse = true) := by
  rcases exact (K := K) h op with hrefused | ⟨_, _, hgranted, hcounts, hlimit, hbound⟩
  · rw [hrefused] at hrun
    cases hrun
  · rw [hgranted] at hrun
    cases hrun
    exact ⟨hcounts, hlimit, hbound⟩

end Handling

/-! ## Operations one after the other -/

/-- The machines on which a program can have `held` in hand: it began with nothing on a heap of its own, did one
operation after the other, and the limit was moved, as `allowed` says, at any time. -/
inductive InHand (K : Kernel σ) (allowed : Heap → Option Nat → Prop) : Machine σ → List Holding → Prop
  | fresh {m : Machine σ} : m.heap.inUse = 0 → m.heap.blocks = 0 → InHand K allowed m []
  | granted {m m' : Machine σ} {held held' : List Holding} (op : Handling) : InHand K allowed m held →
      (op.perform held).run K m = some (.ok held', m') → InHand K allowed m' held'
  | refused {m m' : Machine σ} {held : List Holding} {e : AllocError} (op : Handling) : InHand K allowed m held →
      (op.perform held).run K m = some (.error e, m') → InHand K allowed m' held
  | limited {m : Machine σ} {held : List Holding} {limit : Option Nat} : InHand K allowed m held →
      allowed m.heap limit → InHand K allowed { m with heap := { m.heap with limit := limit } } held

namespace InHand

variable {allowed : Heap → Option Nat → Prop}

/-- The counters are right all the time. -/
theorem counts (h : InHand K allowed m held) : m.heap.Counts held := by
  induction h with
  | fresh hinUse hblocks => exact ⟨hinUse, hblocks, hinUse ▸ Nat.two_pow_pos 64⟩
  | granted op _ hrun ih => exact (Handling.of_granted ih hrun).1
  | refused op _ hrun ih => rwa [Handling.of_refused ih hrun]
  | limited _ _ ih => exact ⟨ih.inUse_eq, ih.blocks_eq, ih.inUse_lt⟩

/-- If no limit is set below what is in use, the use is within the limit. -/
theorem within (hallowed : ∀ heap limit, allowed heap limit → ∀ most ∈ limit, heap.inUse ≤ most)
    (h : InHand K allowed m held) : ∀ most ∈ m.heap.limit, m.heap.inUse ≤ most := by
  induction h with
  | fresh hinUse => exact fun most _ => hinUse ▸ Nat.zero_le most
  | granted op hbefore hrun ih =>
    obtain ⟨-, hlimit, hle | hadmits⟩ := Handling.of_granted hbefore.counts hrun
    · rw [hlimit]
      exact fun most hmost => Nat.le_trans hle (ih most hmost)
    · exact (Heap.admits_iff.1 hadmits).2
  | refused op hbefore hrun ih => rwa [Handling.of_refused hbefore.counts hrun]
  | @limited m held limit _ hmay _ => exact hallowed m.heap limit hmay

/-- **The accounts are exact and bounded.** Whatever a program did, the counters are the sum of the sizes and the number
of the blocks in hand, and the sum is a word. What makes the use grow by some bytes is granted exactly where the heap
admits the sum, and a refusal leaves the machine as it was; a block is resized to no more than its size whatever the
limit; what is given back was counted. If no limit is set below what is in use, the use is within the limit. -/
theorem accounts_exact_and_bounded (h : InHand K allowed m held) :
    (m.heap.inUse = (Holding.allBlocks held).sum ∧ m.heap.blocks = (Holding.allBlocks held).card ∧
      m.heap.inUse < wordLimit) ∧
    (∀ wanted : Wanted, wanted.obtain.run K m =
      if m.heap.admits (m.heap.inUse + wanted.bytes) then
        some (.ok wanted.holding, { m with heap := m.heap.grown wanted.bytes wanted.holding.blocks.card })
      else some (.error .outOfMemory, m)) ∧
    (∀ old new, .block old ∈ held → old < new → (Prog.allocate (.realloc old new)).run K m =
      if m.heap.admits (m.heap.inUse + (new - old)) then
        some (.ok (), { m with heap := m.heap.grown (new - old) 0 })
      else some (.error .outOfMemory, m)) ∧
    (∀ old new, .block old ∈ held → new ≤ old → ∃ heap, m.heap = heap.grown (old - new) 0 ∧
      (Prog.allocate (.realloc old new)).run K m = some (.ok (), { m with heap := heap })) ∧
    (∀ x ∈ held, ∃ heap, m.heap = heap.grown x.blocks.sum x.blocks.card ∧
      x.drop.run K m = some ((), { m with heap := heap })) ∧
    ((∀ heap limit, allowed heap limit → ∀ most ∈ limit, heap.inUse ≤ most) →
      ∀ most ∈ m.heap.limit, m.heap.inUse ≤ most) := by
  have hcounts := h.counts
  refine ⟨⟨hcounts.inUse_eq, hcounts.blocks_eq, hcounts.inUse_lt⟩, fun wanted => wanted.run_obtain m, ?_, ?_, ?_,
    fun hallowed => h.within hallowed⟩
  · intro old new _ hgrow
    have hserve : m.heap.serve (.realloc old new) = _ := Heap.serve_realloc_of_lt hgrow
    by_cases hadmits : m.heap.admits (m.heap.inUse + (new - old)) = true <;>
      simp [hserve, hadmits]
  · intro old new hmem hle
    obtain ⟨heap, hserve, hheap⟩ := hcounts.shrink hmem hle
    exact ⟨heap, hheap, by simp [hserve]⟩
  · intro x hmem
    obtain ⟨place, hplace⟩ := List.getElem?_of_mem hmem
    obtain ⟨rest, hheap, -⟩ := hcounts.apart hplace
    exact ⟨rest, hheap, x.run_drop hheap⟩

/-- The words of a line and a block, and then a limit below their 95 bytes: not even an empty block is granted, and the
block shrinks. -/
theorem shrinks_above_the_limit :
    let held : List Holding := [.block 12, .words ⟨["ab", "c"]⟩]
    let m : Machine Unit := { heap := { limit := some 50, inUse := 95, blocks := 4 }, state := () }
    let K := Kernel.refusing Unit
    InHand K (fun _ _ => True) m held ∧
      (Wanted.malloc 0).obtain.run K m = some (.error .outOfMemory, m) ∧
      ∃ heap, m.heap = heap.grown 9 0 ∧
        (Prog.allocate (.realloc 12 3)).run K m = some (.ok (), { m with heap := heap }) := by
  intro held m K
  have hheld : InHand K (fun _ _ => True) m held := by
    have hwords : InHand K (fun _ _ => True)
        { heap := { limit := some 200, inUse := 83, blocks := 3 }, state := () } [.words ⟨["ab", "c"]⟩] :=
      .granted (.obtain (.words "ab c")) (.fresh (m := { heap := { limit := some 200 }, state := () }) rfl rfl) rfl
    exact .limited (.granted (.obtain (.malloc 12)) hwords rfl) trivial
  obtain ⟨-, hobtain, -, hshrink, -⟩ := accounts_exact_and_bounded hheld
  exact ⟨hheld, hobtain (.malloc 0), hshrink 12 3 List.mem_cons_self (by decide)⟩

end InHand

end Handling

end LineShell
