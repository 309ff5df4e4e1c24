import LineShell.Kernel

/-!
# Runs of programs

- A run goes through a program part by part (`run_seq`, `run_pure`), and each kind of request has an equation; where it
  comes to an end it did so in every part (`run_seq_eq_some`, `run_request_eq_some`);
- a relation between machines that every answer and every change of the heap keeps holds between the beginning and the
  end of each run (`Kernel.Keeps.run`);
- `Prog.Ends`: the program comes to an end on every machine;
- `Prog.Yields`: it comes to an end on this one, with something that is true of what it leaves.
-/

namespace LineShell

/-- A word that counts something is no failure. -/
theorem Reply.failed_of_natCast {reply : Reply} {n : Nat} (h : reply.word.toInt = n) : reply.failed = false := by
  simp only [failed, Int64.lt_iff_toInt_lt, h, decide_eq_false_iff_not, Int.not_lt]
  exact Int.natCast_nonneg n

/-- A word that counts what memory can hold is no failure. -/
theorem Reply.failed_ofNat {n : Nat} (h : n < 0x8000000000000000) (fill : Fill) :
    (⟨Int64.ofNat n, fill⟩ : Reply).failed = false :=
  failed_of_natCast (Int64.toInt_ofNat_of_lt h)

variable {σ α β : Type}

namespace Prog

variable {K : Kernel σ}

@[simp] theorem run_pure (value : α) (m : Machine σ) : (pure value : Prog α).run K m = some (value, m) := rfl

@[simp] theorem run_done (value : α) (m : Machine σ) : (done value).run K m = some (value, m) := rfl

/-- Two parts, one after the other. -/
@[simp] theorem run_seq (p : Prog α) (f : α → Prog β) (m : Machine σ) :
    (p >>= f).run K m = (p.run K m).bind fun x => (f x.1).run K x.2 :=
  run_bind K p f m

/-- Who gets to the end of two parts gets to the end of the first one, and from there to that of the second. -/
theorem run_seq_eq_some {p : Prog α} {f : α → Prog β} {m : Machine σ} {x : β × Machine σ} :
    (p >>= f).run K m = some x ↔
      ∃ first m₁, p.run K m = some (first, m₁) ∧ (f first).run K m₁ = some x := by
  rw [run_seq, Option.bind_eq_some_iff]
  exact Prod.exists

theorem run_request (r : Request) (next : Reply → Prog α) (m : Machine σ) :
    (request r next).run K m = (K.serve r m).bind fun x => (next x.1).run K x.2 := by
  rw [run]
  cases K.serve r m with
  | none => rfl
  | some answer => rfl

/-- Who gets to the end after a request gets there from its answer. -/
theorem run_request_eq_some {r : Request} {next : Reply → Prog α} {m : Machine σ} {x : α × Machine σ} :
    (request r next).run K m = some x ↔
      ∃ reply m₁, K.serve r m = some (reply, m₁) ∧ (next reply).run K m₁ = some x := by
  rw [run_request, Option.bind_eq_some_iff]
  exact Prod.exists

/-- What a request comes to once its answer is known. -/
def understood (r : Request) (f : Reply → Except SysError α) (reply : Reply) : Except SysError α :=
  if reply.failed then .error r.operation.failed else f reply

@[simp] theorem run_ask (r : Request) (f : Reply → Except SysError α) (m : Machine σ) :
    (ask r f).run K m = (K.serve r m).map fun x => (understood r f x.1, x.2) := by
  rw [ask, run_request]
  cases K.serve r m with
  | none => rfl
  | some answer => rfl

@[simp] theorem run_allocate (r : HeapRequest) (m : Machine σ) :
    (allocate r).run K m =
      some (if (m.heap.serve r).1 then .ok () else .error .outOfMemory, { m with heap := (m.heap.serve r).2 }) := rfl

@[simp] theorem run_free (size : Nat) (m : Machine σ) :
    (free size).run K m = some ((), { m with heap := m.heap.free size }) := rfl

end Prog

/-! ## What a run keeps -/

/-- A relation between machines that no answer and no change of the heap breaks. -/
structure Kernel.Keeps (K : Kernel σ) (R : Machine σ → Machine σ → Prop) : Prop where
  refl : ∀ m, R m m
  trans : ∀ {a b c}, R a b → R b c → R a c
  heap : ∀ (m : Machine σ) (r : HeapRequest), R m { m with heap := (m.heap.serve r).2 }
  serve : ∀ {r m reply m'}, K.serve r m = some (reply, m') → R m m'

/-- What every step keeps, a run keeps. -/
theorem Kernel.Keeps.run {K : Kernel σ} {R : Machine σ → Machine σ → Prop} (hR : K.Keeps R) (p : Prog α)
    {m m' : Machine σ} {value : α} (h : p.run K m = some (value, m')) : R m m' := by
  induction p generalizing m with
  | done value => cases h; exact hR.refl _
  | stuck => cases h
  | request r next ih =>
    obtain ⟨reply, m₁, hserve, hnext⟩ := Prog.run_request_eq_some.1 h
    exact hR.trans (hR.serve hserve) (ih reply hnext)
  | memory r next ih => exact hR.trans (hR.heap m r) (ih _ h)

/-! ## Programs that end -/

/-- Every write on the console is answered. -/
def Kernel.Prints (K : Kernel σ) : Prop :=
  ∀ data m, (K.serve (.write .stdout data 0) m).isSome

namespace Prog

/-- The program ends, whatever the machine. -/
def Ends (K : Kernel σ) (p : Prog α) : Prop :=
  ∀ m, (p.run K m).isSome

variable {K : Kernel σ}

theorem Ends.pure (value : α) : Ends K (pure value : Prog α) :=
  fun _ => rfl

theorem Ends.seq {p : Prog α} {f : α → Prog β} (hp : Ends K p) (hf : ∀ value, Ends K (f value)) :
    Ends K (p >>= f) := by
  intro m
  obtain ⟨x, hx⟩ := Option.isSome_iff_exists.1 (hp m)
  rw [run_seq, hx]
  exact hf x.1 x.2

theorem Ends.allocate (r : HeapRequest) : Ends K (allocate r) :=
  fun _ => rfl

theorem Ends.free (size : Nat) : Ends K (free size) :=
  fun _ => rfl

theorem Ends.ask {r : Request} (h : ∀ m, (K.serve r m).isSome) (f : Reply → Except SysError α) : Ends K (ask r f) := by
  intro m
  rw [run_ask, Option.isSome_map]
  exact h m

theorem Ends.printText (hK : K.Prints) (text : String) : Ends K (printText text) := by
  unfold Prog.printText print
  split
  · exact .pure _
  · exact .ask (hK _) _

theorem Ends.printParts (hK : K.Prints) : ∀ parts, Ends K (printParts parts)
  | [] => .pure _
  | part :: rest => by
    refine .seq (.printText hK part) fun result => ?_
    cases result with
    | error e => exact .pure _
    | ok _ => exact Ends.printParts hK rest

/-- The program comes to an end on the machine, and this is true of what it ends with and of the machine that it leaves. -/
def Yields (K : Kernel σ) (p : Prog α) (m : Machine σ) (Q : α → Machine σ → Prop) : Prop :=
  ∃ value m', p.run K m = some (value, m') ∧ Q value m'

namespace Yields

variable {K : Kernel σ} {p : Prog α} {m : Machine σ} {R R' : α → Machine σ → Prop} {Q : β → Machine σ → Prop}

theorem pure {value : α} (h : R value m) : (Pure.pure value : Prog α).Yields K m R :=
  ⟨value, m, rfl, h⟩

theorem of_run {value : α} {m' : Machine σ} (hrun : p.run K m = some (value, m')) (h : R value m') : p.Yields K m R :=
  ⟨value, m', hrun, h⟩

theorem allocate (r : HeapRequest) (m : Machine σ) :
    (Prog.allocate r).Yields K m fun _ m' => ∃ heap, m' = { m with heap := heap } :=
  of_run (run_allocate r m) ⟨_, rfl⟩

theorem mono (hp : p.Yields K m R) (h : ∀ value m', R value m' → R' value m') : p.Yields K m R' := by
  obtain ⟨value, m', hrun, hR⟩ := hp
  exact ⟨value, m', hrun, h value m' hR⟩

/-- A part with a known end, and then another one. -/
theorem seq_run {f : α → Prog β} {value : α} {m₁ : Machine σ} (hrun : p.run K m = some (value, m₁))
    (hf : (f value).Yields K m₁ Q) : (p >>= f).Yields K m Q := by
  obtain ⟨value', m₂, hrun', hQ⟩ := hf
  refine ⟨value', m₂, ?_, hQ⟩
  rw [run_seq, hrun]
  exact hrun'

theorem seq {f : α → Prog β} (hp : p.Yields K m R) (hf : ∀ value m', R value m' → (f value).Yields K m' Q) :
    (p >>= f).Yields K m Q := by
  obtain ⟨value, m₁, hrun, hR⟩ := hp
  exact seq_run hrun (hf value m₁ hR)

end Yields

/-- If the program comes to an end on the machine, this is true of what it ends with and of the machine that it leaves. -/
def Ensures (K : Kernel σ) (p : Prog α) (m : Machine σ) (Q : α → Machine σ → Prop) : Prop :=
  ∀ value m', p.run K m = some (value, m') → Q value m'

section Ensures

variable {K : Kernel σ} {p : Prog α} {m : Machine σ} {R R' : α → Machine σ → Prop} {Q : β → Machine σ → Prop}

/-- There is one end at most. -/
theorem Yields.ensures (h : p.Yields K m R) : p.Ensures K m R := by
  obtain ⟨value, m₁, hrun, hR⟩ := h
  intro value' m' hrun'
  cases hrun.symm.trans hrun'
  exact hR

namespace Ensures

theorem pure {value : α} (h : R value m) : (Pure.pure value : Prog α).Ensures K m R :=
  (Yields.pure h).ensures

theorem stuck : (Prog.stuck : Prog α).Ensures K m R := by
  rintro _ _ ⟨⟩

theorem mono (hp : p.Ensures K m R) (h : ∀ value m', R value m' → R' value m') : p.Ensures K m R' :=
  fun value m' hrun => h value m' (hp value m' hrun)

theorem seq {f : α → Prog β} (hp : p.Ensures K m R) (hf : ∀ value m', R value m' → (f value).Ensures K m' Q) :
    (p >>= f).Ensures K m Q := by
  intro value m' hrun
  obtain ⟨first, m₁, hfirst, hrest⟩ := run_seq_eq_some.1 hrun
  exact hf first m₁ (hp first m₁ hfirst) value m' hrest

/-- It does not matter what the first part does. -/
theorem seq_any {f : α → Prog β} (hf : ∀ value m', (f value).Ensures K m' Q) : (p >>= f).Ensures K m Q :=
  seq (R := fun _ _ => True) (fun _ _ _ => trivial) fun value m' _ => hf value m'

end Ensures

end Ensures

end Prog

end LineShell
