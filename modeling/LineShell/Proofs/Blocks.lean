import LineShell.Failure
import LineShell.Proofs.Run
import Mathlib.Algebra.BigOperators.Group.Multiset.Basic

/-!
# Blocks that a program holds

The blocks in a program's hands are a multiset of sizes. `Prog.Carries` follows them through the tree of a program, for
every answer of the kernel and of the heap: a block is resized or given back only by a program that holds it.

- `Prog.Carries.seq`, `Prog.Carries.frame`: parts of a program one after the other, and blocks that a part leaves alone;
- `Prog.Carries.run`: on a kernel that leaves the heap as it finds it (`Kernel.Neutral`), the accounts of the heap are
  those of the blocks held, on top of what was in use before.
-/

namespace LineShell

/-! ## The accounts of blocks -/

/-- Besides what `base` has handed out, blocks of these sizes are alive. -/
structure Heap.Bears (heap base : Heap) (held : Multiset Nat) : Prop where
  inUse_eq : heap.inUse = base.inUse + held.sum
  blocks_eq : heap.blocks = base.blocks + held.card

namespace Heap.Bears

variable {heap heap' base : Heap} {held : Multiset Nat} {size : Nat}

theorem refl (heap : Heap) : heap.Bears heap 0 :=
  ⟨by simp, by simp⟩

/-- What was done to the accounts below comes on top. -/
theorem trans {base' : Heap} (h : heap.Bears base' 0) (hbase : base'.Bears base held) : heap.Bears base held :=
  ⟨by simp [h.inUse_eq, hbase.inUse_eq], by simp [h.blocks_eq, hbase.blocks_eq]⟩

theorem charge (h : heap.charge size = some heap') :
    heap'.inUse = heap.inUse + size ∧ heap'.blocks = heap.blocks := by
  unfold Heap.charge at h
  split at h
  · cases h
    exact ⟨rfl, rfl⟩
  · cases h

theorem malloc (h : heap.Bears base held) (hmalloc : heap.malloc size = some heap') :
    heap'.Bears base (size ::ₘ held) := by
  obtain ⟨charged, hcharge, rfl⟩ := Option.map_eq_some_iff.1 hmalloc
  obtain ⟨hinUse, hblocks⟩ := charge hcharge
  constructor
  · simp only [hinUse, h.inUse_eq, Multiset.sum_cons]
    omega
  · simp only [hblocks, h.blocks_eq, Multiset.card_cons]
    omega

theorem realloc {old : Nat} (h : heap.Bears base (old ::ₘ held)) (hrealloc : heap.realloc old size = some heap') :
    heap'.Bears base (size ::ₘ held) := by
  obtain ⟨hinUse, hblocks⟩ := h
  rw [Multiset.sum_cons] at hinUse
  rw [Multiset.card_cons] at hblocks
  unfold Heap.realloc at hrealloc
  constructor
  all_goals
    simp only [Multiset.sum_cons, Multiset.card_cons]
    split at hrealloc
    · obtain ⟨hcharge, hcount⟩ := charge hrealloc
      omega
    · cases hrealloc
      simp only [release]
      omega

theorem free (h : heap.Bears base (size ::ₘ held)) : (heap.free size).Bears base held := by
  obtain ⟨hinUse, hblocks⟩ := h
  rw [Multiset.sum_cons] at hinUse
  rw [Multiset.card_cons] at hblocks
  constructor
  all_goals
    simp only [Heap.free, release]
    omega

/-- A new block is refused, or one more is alive. -/
theorem serve_malloc (h : heap.Bears base held) (size : Nat) :
    heap.serve (.malloc size) = (false, heap) ∨
      ∃ heap', heap.serve (.malloc size) = (true, heap') ∧ heap'.Bears base (size ::ₘ held) := by
  rw [serve]
  cases hmalloc : heap.malloc size with
  | none => exact .inl rfl
  | some heap' => exact .inr ⟨heap', rfl, h.malloc hmalloc⟩

theorem serve_calloc (h : heap.Bears base held) (count size : Nat) :
    heap.serve (.calloc count size) = (false, heap) ∨
      ∃ heap', heap.serve (.calloc count size) = (true, heap') ∧ heap'.Bears base (count * size ::ₘ held) := by
  rw [serve, calloc]
  split
  · exact h.serve_malloc (count * size)
  · exact .inl rfl

theorem serve_realloc {old : Nat} (h : heap.Bears base (old ::ₘ held)) (new : Nat) :
    heap.serve (.realloc old new) = (false, heap) ∨
      ∃ heap', heap.serve (.realloc old new) = (true, heap') ∧ heap'.Bears base (new ::ₘ held) := by
  rw [serve]
  cases hrealloc : heap.realloc old new with
  | none => exact .inl rfl
  | some heap' => exact .inr ⟨heap', rfl, h.realloc hrealloc⟩

end Heap.Bears

/-! ## Blocks along a program -/

namespace Prog

variable {α β ε : Type}

/-- A program that starts with the blocks `held` and ends with those that come with its value. -/
def Carries (held : Multiset Nat) : Prog α → (α → Multiset Nat) → Prop
  | done value, left => held = left value
  | stuck, _ => True
  | request _ next, left => ∀ reply, (next reply).Carries held left
  | memory (.malloc size) next, left => (next true).Carries (size ::ₘ held) left ∧ (next false).Carries held left
  | memory (.calloc count size) next, left =>
    (next true).Carries (count * size ::ₘ held) left ∧ (next false).Carries held left
  | memory (.realloc old new) next, left =>
    ∃ others, held = old ::ₘ others ∧ (next true).Carries (new ::ₘ others) left ∧ (next false).Carries held left
  -- giving back is never refused
  | memory (.free size) next, left => ∃ others, held = size ::ₘ others ∧ (next true).Carries others left

/-- A program that gives back what it takes, and nothing else. -/
def Balanced (p : Prog α) : Prop :=
  p.Carries 0 fun _ => 0

/-- The blocks that come with a result; an error comes with none. -/
def carried (blocks : α → Multiset Nat) : Except ε α → Multiset Nat
  | .ok value => blocks value
  | .error _ => 0

variable {held : Multiset Nat} {left : α → Multiset Nat} {p : Prog α}

namespace Carries

theorem pure {value : α} (h : held = left value) : (pure value : Prog α).Carries held left :=
  h

/-- What one part ends with, the next part starts with. -/
theorem seq {f : α → Prog β} {left' : β → Multiset Nat} (hp : p.Carries held left)
    (hf : ∀ value, (f value).Carries (left value) left') : (p >>= f).Carries held left' := by
  show (p.bind f).Carries held left'
  induction p generalizing held with
  | done value =>
    rw [show held = left value from hp]
    exact hf value
  | stuck => trivial
  | request r next ih => exact fun reply => ih reply (hp reply)
  | memory r next ih =>
    cases r with
    | malloc size => exact ⟨ih true hp.1, ih false hp.2⟩
    | calloc count size => exact ⟨ih true hp.1, ih false hp.2⟩
    | realloc old new =>
      obtain ⟨others, hheld, hgranted, hrefused⟩ := hp
      exact ⟨others, hheld, ih true hgranted, ih false hrefused⟩
    | free size =>
      obtain ⟨others, hheld, hfreed⟩ := hp
      exact ⟨others, hheld, ih true hfreed⟩

/-- **Blocks held besides** stay where they are. -/
theorem frame (h : p.Carries held left) (others : Multiset Nat) :
    p.Carries (held + others) fun value => left value + others := by
  induction p generalizing held with
  | done value => exact congrArg (· + others) h
  | stuck => trivial
  | request r next ih => exact fun reply => ih reply (h reply)
  | memory r next ih =>
    cases r with
    | malloc size =>
      have hgranted := ih true h.1
      rw [Multiset.cons_add] at hgranted
      exact ⟨hgranted, ih false h.2⟩
    | calloc count size =>
      have hgranted := ih true h.1
      rw [Multiset.cons_add] at hgranted
      exact ⟨hgranted, ih false h.2⟩
    | realloc old new =>
      obtain ⟨rest, rfl, hgranted, hrefused⟩ := h
      have hgranted := ih true hgranted
      rw [Multiset.cons_add] at hgranted
      exact ⟨rest + others, Multiset.cons_add .., hgranted, ih false hrefused⟩
    | free size =>
      obtain ⟨rest, rfl, hfreed⟩ := h
      exact ⟨rest + others, Multiset.cons_add .., ih true hfreed⟩

theorem malloc (held : Multiset Nat) (size : Nat) :
    (allocate (.malloc size)).Carries held fun granted => carried (fun _ => {size}) granted + held :=
  ⟨by simp [Carries, carried], by simp [Carries, carried]⟩

theorem calloc (held : Multiset Nat) (count size : Nat) :
    (allocate (.calloc count size)).Carries held fun granted => carried (fun _ => {count * size}) granted + held :=
  malloc held (count * size)

theorem free (held : Multiset Nat) (size : Nat) : (free size).Carries (size ::ₘ held) fun _ => held :=
  ⟨held, rfl, rfl⟩

end Carries

namespace Balanced

/-- A balanced program, run with some blocks in hand. -/
theorem carries (h : p.Balanced) (held : Multiset Nat) : p.Carries held fun _ => held := by
  have hframe := Carries.frame h held
  simpa only [Multiset.zero_add] using hframe

theorem pure (value : α) : (pure value : Prog α).Balanced :=
  rfl

theorem seq {f : α → Prog β} (hp : p.Balanced) (hf : ∀ value, (f value).Balanced) : (p >>= f).Balanced :=
  Carries.seq hp hf

theorem ask (r : Request) (f : Reply → Except SysError α) : (ask r f).Balanced :=
  fun _ => rfl

theorem printText (text : String) : (printText text).Balanced := by
  unfold Prog.printText print
  split
  · exact .pure _
  · exact .ask _ _

theorem orFail {p : Prog (Except SysError α)} {next : α → Prog Outcome} (hp : p.Balanced)
    (hnext : ∀ value, (next value).Balanced) : (p.orFail next).Balanced := by
  refine .seq hp fun result => ?_
  cases result with
  | error e => exact .pure _
  | ok value => exact hnext value

theorem printParts : ∀ parts, (printParts parts).Balanced
  | [] => .pure _
  | part :: rest => by
    refine .seq (.printText part) fun result => ?_
    cases result with
    | error e => exact .pure _
    | ok _ => exact printParts rest

theorem report (parts : List String) (code : ExitCode) : (report parts code).Balanced :=
  .orFail (.printParts _) fun _ => .pure _

end Balanced

/-- A balanced part in front changes nothing about the blocks in hand. -/
theorem Carries.seq_balanced {f : α → Prog β} {left : β → Multiset Nat} (hp : p.Balanced)
    (hf : ∀ value, (f value).Carries held left) : (p >>= f).Carries held left :=
  .seq (hp.carries held) hf

end Prog

/-! ## Blocks along a run -/

section Run

variable {σ α : Type}

/-- On states that are `Ready`, the kernel answers with the accounts of the heap in the end as they were, in a state that
is `Ready` again. -/
def Kernel.Neutral (K : Kernel σ) (Ready : σ → Prop) : Prop :=
  ∀ ⦃r m reply m'⦄, Ready m.state → K.serve r m = some (reply, m') → Ready m'.state ∧ m'.heap.Bears m.heap 0

/-- **A run on a neutral kernel** leaves alive, besides what was alive before, the blocks that its program carries. -/
theorem Prog.Carries.run {K : Kernel σ} {Ready : σ → Prop} (hK : K.Neutral Ready) {p : Prog α} {held : Multiset Nat}
    {left : α → Multiset Nat} (hp : p.Carries held left) {base : Heap} {m m' : Machine σ} {value : α}
    (hready : Ready m.state) (hheap : m.heap.Bears base held) (h : p.run K m = some (value, m')) :
    Ready m'.state ∧ m'.heap.Bears base (left value) := by
  induction p generalizing held m with
  | done value =>
    cases h
    rw [show held = left value from hp] at hheap
    exact ⟨hready, hheap⟩
  | stuck => cases h
  | request r next ih =>
    obtain ⟨reply, m₁, hserve, hnext⟩ := run_request_eq_some.1 h
    obtain ⟨hready₁, hheap₁⟩ := hK hready hserve
    exact ih reply (hp reply) hready₁ (hheap₁.trans hheap) hnext
  | memory r next ih =>
    cases r with
    | malloc size =>
      rcases hheap.serve_malloc size with hserve | ⟨heap, hserve, hheap⟩
      · simp only [Prog.run, hserve] at h
        exact ih false hp.2 hready hheap h
      · simp only [Prog.run, hserve] at h
        exact ih true hp.1 (m := { m with heap := heap }) hready hheap h
    | calloc count size =>
      rcases hheap.serve_calloc count size with hserve | ⟨heap, hserve, hheap⟩
      · simp only [Prog.run, hserve] at h
        exact ih false hp.2 hready hheap h
      · simp only [Prog.run, hserve] at h
        exact ih true hp.1 (m := { m with heap := heap }) hready hheap h
    | realloc old new =>
      obtain ⟨others, rfl, hgranted, hrefused⟩ := hp
      rcases hheap.serve_realloc new with hserve | ⟨heap, hserve, hheap⟩
      · simp only [Prog.run, hserve] at h
        exact ih false hrefused hready hheap h
      · simp only [Prog.run, hserve] at h
        exact ih true hgranted (m := { m with heap := heap }) hready hheap h
    | free size =>
      obtain ⟨others, rfl, hfreed⟩ := hp
      exact ih true hfreed (m := { m with heap := m.heap.free size }) hready hheap.free h

end Run

end LineShell
