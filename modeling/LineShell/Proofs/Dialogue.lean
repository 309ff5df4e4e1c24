import LineShell.Failure
import LineShell.Proofs.Run

/-!
# Programs and what they ask

A dialogue of a program is a way through its tree: the requests that it makes and the replies that it gets, whatever
they are, up to the value it ends with. What the heap grants is left open too.

- `Prog.dialogue_seq`: the dialogue of two parts is one dialogue after the other;
- `Prog.Only`: every request of a program is of some kind, whatever is answered;
- `Prog.trace`, `Prog.dialogue_trace`: the dialogue of a run on a kernel.
-/

namespace LineShell

variable {σ α β : Type}

/-- A request and the reply to it. -/
structure Exchange where
  request : Request
  reply : Reply
deriving DecidableEq, Repr

/-- The request writes on standard output. -/
def Request.Prints (r : Request) : Prop :=
  ∃ data offset, r = .write .stdout data offset

namespace Prog

/-! ## Dialogues -/

/-- One of the dialogues in which a program comes to a value. -/
inductive Dialogue : Prog α → List Exchange → α → Prop
  | done (value : α) : Dialogue (.done value) [] value
  | request {r : Request} {next : Reply → Prog α} {reply : Reply} {log : List Exchange} {value : α} :
    Dialogue (next reply) log value → Dialogue (.request r next) (⟨r, reply⟩ :: log) value
  | memory {r : HeapRequest} {next : Bool → Prog α} {granted : Bool} {log : List Exchange} {value : α} :
    Dialogue (next granted) log value → Dialogue (.memory r next) log value

@[simp] theorem dialogue_done {ended value : α} {log : List Exchange} :
    (done ended).Dialogue log value ↔ log = [] ∧ value = ended := by
  constructor
  · rintro ⟨⟩
    exact ⟨rfl, rfl⟩
  · rintro ⟨rfl, rfl⟩
    exact .done _

@[simp] theorem dialogue_pure {ended value : α} {log : List Exchange} :
    (pure ended : Prog α).Dialogue log value ↔ log = [] ∧ value = ended :=
  dialogue_done

@[simp] theorem dialogue_stuck {value : α} {log : List Exchange} : ¬ (stuck : Prog α).Dialogue log value :=
  nofun

/-- **Two parts**, one after the other. -/
@[simp] theorem dialogue_seq {p : Prog α} {f : α → Prog β} {log : List Exchange} {value : β} :
    (p >>= f).Dialogue log value ↔
      ∃ first before after, log = before ++ after ∧ p.Dialogue before first ∧ (f first).Dialogue after value := by
  constructor
  · intro h
    induction p generalizing log with
    | done first => exact ⟨first, [], log, rfl, .done first, h⟩
    | stuck => cases h
    | request r next ih =>
      cases h with
      | request h =>
        obtain ⟨first, before, after, rfl, hfirst, hrest⟩ := ih _ h
        exact ⟨first, _ :: before, after, rfl, .request hfirst, hrest⟩
    | memory r next ih =>
      cases h with
      | memory h =>
        obtain ⟨first, before, after, rfl, hfirst, hrest⟩ := ih _ h
        exact ⟨first, before, after, rfl, .memory hfirst, hrest⟩
  · rintro ⟨first, before, after, rfl, hfirst, hrest⟩
    induction hfirst with
    | done first => exact hrest
    | request _ ih => exact .request (ih hrest)
    | memory _ ih => exact .memory (ih hrest)

@[simp] theorem dialogue_ask {r : Request} {f : Reply → Except SysError α} {log : List Exchange}
    {value : Except SysError α} :
    (ask r f).Dialogue log value ↔ ∃ reply, log = [⟨r, reply⟩] ∧ value = understood r f reply := by
  constructor
  · intro h
    cases h with
    | @request _ _ reply _ _ h =>
      obtain ⟨rfl, rfl⟩ := dialogue_done.1 h
      exact ⟨reply, rfl, rfl⟩
  · rintro ⟨reply, rfl, rfl⟩
    exact .request (.done _)

/-! ## Programs that ask for one kind of thing -/

/-- In every dialogue of the program, all requests are of this kind. -/
def Only (P : Request → Prop) (p : Prog α) : Prop :=
  ∀ ⦃log value⦄, p.Dialogue log value → ∀ e ∈ log, P e.request

/-- The program asks the kernel for nothing. -/
abbrev Silent (p : Prog α) : Prop :=
  p.Only fun _ => False

namespace Only

variable {P : Request → Prop} {p : Prog α} {f : α → Prog β}

theorem pure (value : α) : (pure value : Prog α).Only P := by
  intro log ended h
  obtain ⟨rfl, -⟩ := dialogue_pure.1 h
  nofun

theorem stuck : (stuck : Prog α).Only P :=
  nofun

theorem seq (hp : p.Only P) (hf : ∀ value, (f value).Only P) : (p >>= f).Only P := by
  intro log value h e he
  obtain ⟨first, before, after, rfl, hfirst, hrest⟩ := dialogue_seq.1 h
  rcases List.mem_append.1 he with hbefore | hafter
  · exact hp hfirst e hbefore
  · exact hf first hrest e hafter

theorem ask {r : Request} (h : P r) (f : Reply → Except SysError α) : (ask r f).Only P := by
  intro log value hlog e he
  obtain ⟨reply, rfl, -⟩ := dialogue_ask.1 hlog
  rw [List.mem_singleton.1 he]
  exact h

theorem allocate (r : HeapRequest) : (allocate r).Only P := by
  intro log value h
  cases h with
  | memory h =>
    obtain ⟨rfl, -⟩ := dialogue_done.1 h
    nofun

theorem free (size : Nat) : (free size).Only P := by
  intro log value h
  cases h with
  | memory h =>
    obtain ⟨rfl, -⟩ := dialogue_done.1 h
    nofun

theorem orFail {p : Prog (Except SysError α)} {next : α → Prog Outcome} (hp : p.Only P)
    (hnext : ∀ value, (next value).Only P) : (p.orFail next).Only P := by
  refine .seq hp fun result => ?_
  cases result with
  | error e => exact .pure _
  | ok value => exact hnext value

end Only

theorem Silent.nil {p : Prog α} (h : p.Silent) {log : List Exchange} {value : α} (hlog : p.Dialogue log value) :
    log = [] :=
  List.eq_nil_iff_forall_not_mem.2 (h hlog)

/-! ## Printing -/

theorem printText_only (text : String) : (printText text).Only Request.Prints := by
  unfold printText print
  split
  · exact .pure _
  · exact .ask ⟨_, _, rfl⟩ _

theorem printParts_only : ∀ parts, (printParts parts).Only Request.Prints
  | [] => .pure _
  | part :: rest => by
    refine .seq (printText_only part) fun result => ?_
    cases result with
    | error e => exact .pure _
    | ok _ => exact printParts_only rest

theorem report_only (parts : List String) (code : ExitCode) : (report parts code).Only Request.Prints :=
  .orFail (printParts_only _) fun _ => .pure _

/-! ## Runs -/

/-- The requests of a program on a kernel, with the replies to them. -/
def trace (K : Kernel σ) : Prog α → Machine σ → List Exchange
  | done _, _ => []
  | stuck, _ => []
  | request r next, m =>
    match K.serve r m with
    | none => []
    | some (reply, m) => ⟨r, reply⟩ :: (next reply).trace K m
  | memory r next, m =>
    match m.heap.serve r with
    | (granted, heap) => (next granted).trace K { m with heap := heap }

variable {K : Kernel σ} {m m' : Machine σ}

@[simp] theorem trace_pure (value : α) : (pure value : Prog α).trace K m = [] := rfl

/-- **A run** is a dialogue with the kernel. -/
theorem dialogue_trace {p : Prog α} {value : α} (h : p.run K m = some (value, m')) :
    p.Dialogue (p.trace K m) value := by
  induction p generalizing m with
  | done ended =>
    cases h
    exact .done value
  | stuck => cases h
  | request r next ih =>
    obtain ⟨reply, m₁, hserve, hnext⟩ := run_request_eq_some.1 h
    rw [trace, hserve]
    exact .request (ih reply hnext)
  | memory r next ih => exact .memory (ih _ h)

theorem trace_seq {p : Prog α} {f : α → Prog β} {first : α} (h : p.run K m = some (first, m')) :
    (p >>= f).trace K m = p.trace K m ++ (f first).trace K m' := by
  induction p generalizing m with
  | done ended =>
    cases h
    rfl
  | stuck => cases h
  | request r next ih =>
    obtain ⟨reply, m₁, hserve, hnext⟩ := run_request_eq_some.1 h
    show trace K (request r fun reply => next reply >>= f) m = _
    rw [trace, trace, hserve]
    exact congrArg _ (ih reply hnext)
  | memory r next ih => exact ih _ h

end Prog

end LineShell
