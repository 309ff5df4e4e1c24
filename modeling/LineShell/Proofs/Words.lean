import LineShell.Proofs.Lines
import LineShell.Proofs.Text

/-!
# What words cost

Where the heap has no limit, only the words that count its bytes can run out. `Heap.Uses` is such a heap with what is in
use.

- `Words.cost_words_le`: the words of a line take 41 bytes of heap for each byte of it at most;
- `Words.run_drop`: dropping words gives back what they cost.
-/

namespace LineShell

/-! ## What is in use -/

/-- No limit is set, and so many bytes are in use. -/
structure Heap.Uses (heap : Heap) (bytes : Nat) : Prop where
  limit_eq : heap.limit = none
  inUse_eq : heap.inUse = bytes

namespace Heap.Uses

variable {heap : Heap} {bytes size : Nat}

theorem free (h : heap.Uses (bytes + size)) : (heap.free size).Uses bytes :=
  ⟨h.limit_eq, by simp [Heap.free, Heap.release, h.inUse_eq]⟩

end Heap.Uses

/-! ## What words cost -/

namespace Words

/-- The bytes of the blocks of some words. -/
def sizes : List String → Nat
  | [] => 0
  | word :: rest => Text.size word + sizes rest

/-- The bytes of all blocks that hold some words. -/
def cost (list : List String) : Nat :=
  list.length * slotSize + sizes list

/-- What one more word costs. -/
theorem cost_cons (word : String) (list : List String) :
    cost (word :: list) = slotSize + Text.size word + cost list := by
  simp only [cost, sizes, List.length_cons, slotSize]
  omega

/-- What the words among the pieces of a line cost. -/
def piecesCost : List (List Char) → Nat
  | [] => 0
  | piece :: rest => (if piece.isEmpty then 0 else slotSize + Text.size (String.ofList piece)) + piecesCost rest

theorem cost_pieces : ∀ pieces : List (List Char),
    cost ((pieces.filter fun piece => !piece.isEmpty).map String.ofList) = piecesCost pieces
  | [] => rfl
  | piece :: pieces => by
    cases hpiece : piece.isEmpty with
    | true => simpa [hpiece, piecesCost] using cost_pieces pieces
    | false => simp [hpiece, piecesCost, cost_cons, cost_pieces pieces]

/-- One more character in front of the first piece costs little. -/
theorem piecesCost_cons (c : Char) (piece : List Char) (pieces : List (List Char)) :
    piecesCost ((c :: piece) :: pieces) ≤ 41 * c.utf8Size + piecesCost (piece :: pieces) := by
  have hpos := c.utf8Size_pos
  cases piece with
  | nil =>
    simp only [piecesCost, List.isEmpty_cons, List.isEmpty_nil, Bool.false_eq_true, ↓reduceIte, Text.size_cons,
      slotSize]
    have hnil : Text.size (String.ofList []) = 0 := rfl
    omega
  | cons d piece =>
    simp only [piecesCost, List.isEmpty_cons, Bool.false_eq_true, ↓reduceIte, Text.size_cons]
    omega

theorem piecesCost_splitOn (chars : List Char) :
    piecesCost (chars.splitOn ' ') ≤ 41 * Text.size (String.ofList chars) := by
  induction chars with
  | nil => simp [piecesCost]
  | cons c chars ih =>
    rw [List.splitOn_cons_eq_if_modifyHead, Text.size_cons]
    split
    · simp only [piecesCost, List.isEmpty_nil, ↓reduceIte]
      omega
    · obtain ⟨piece, pieces, hpieces⟩ := List.exists_cons_of_ne_nil (List.splitOn_ne_nil ' ' chars)
      have hcons := piecesCost_cons c piece pieces
      rw [hpieces] at ih
      rw [hpieces, List.modifyHead_cons]
      omega

/-- **The words of a line** cost little more than the line. -/
theorem cost_words_le (line : String) : cost (words line) ≤ 41 * Text.size line := by
  have hline := piecesCost_splitOn line.toList
  rw [String.ofList_toList] at hline
  rwa [words, cost_pieces]

/-! ## Dropping -/

section Run

variable {σ : Type} {K : Kernel σ}

theorem run_dropEach : ∀ (list : List String) (m : Machine σ) (bytes : Nat), m.heap.Uses (bytes + sizes list) →
    ∃ heap, (dropEach list).run K m = some ((), { m with heap := heap }) ∧ heap.Uses bytes
  | [], m, bytes, h => ⟨m.heap, rfl, h⟩
  | word :: list, m, bytes, h => by
    have hfree : (m.heap.free (Text.size word)).Uses (bytes + sizes list) := by
      refine Heap.Uses.free ?_
      rw [Nat.add_assoc, Nat.add_comm (sizes list)]
      exact h
    obtain ⟨heap', hrun', hheap'⟩ :=
      run_dropEach list { m with heap := m.heap.free (Text.size word) } bytes hfree
    exact ⟨heap', by simp [dropEach, hrun'], hheap'⟩

/-- Dropped words give back what they cost. -/
theorem run_drop {m : Machine σ} {bytes : Nat} (ws : Words) (h : m.heap.Uses (bytes + cost ws.toList)) :
    ∃ heap, ws.drop.run K m = some ((), { m with heap := heap }) ∧ heap.Uses bytes := by
  rw [cost, ← Nat.add_assoc] at h
  obtain ⟨heap, hrun, hheap⟩ := run_dropEach (K := K) ws.toList m _ h
  exact ⟨heap.free (ws.toList.length * slotSize), by simp [drop, hrun], hheap.free⟩

end Run

end Words

end LineShell
