import LineShell.Kernel

/-!
# Standing between a program and its kernel

Rules answer chosen requests in place of a kernel. Rules are tried in order; the first that applies answers with its
word and nothing else, and all other requests go to the kernel (`Interposed.kernel`).
-/

namespace LineShell

/-- Answers requests for one operation. -/
structure Rule where
  operation : Operation
  /-- How many matching requests are let through first. -/
  after : Nat
  /-- How many requests are answered; no number means all. -/
  times : Option Nat
  answer : Int64
deriving DecidableEq, Repr

namespace Rule

/-- Whether a rule has something to say about requests for an operation. -/
def matching (rule : Rule) (operation : Operation) : Bool :=
  rule.operation = operation && rule.times != some 0

/-- Go through the rules for one request: the answer, if a rule gives one, and the rules afterwards. -/
def apply (operation : Operation) : List Rule → Option Int64 × List Rule
  | [] => (none, [])
  | rule :: rest =>
    if rule.matching operation then
      match rule.after with
      | 0 => (some rule.answer, { rule with times := rule.times.map (· - 1) } :: rest)
      | n + 1 =>
        let (answer, rest) := apply operation rest
        (answer, { rule with after := n } :: rest)
    else
      let (answer, rest) := apply operation rest
      (answer, rule :: rest)

/-- More answers than anyone waits for. -/
def unlimited : Nat := 0x4000000000000000

/-- A bound on the requests that a rule still counts or answers. -/
def budget (rule : Rule) : Nat :=
  rule.after + rule.times.getD unlimited

/-- A bound on the requests that rules still count or answer. -/
def budgets : List Rule → Nat
  | [] => 0
  | rule :: rest => rule.budget + budgets rest

end Rule

/-- A kernel state with the rules in front of it. -/
structure Interposed (σ : Type) where
  rules : List Rule := []
  inner : σ

namespace Interposed

variable {σ : Type}

/-- The kernel behind rules. Programs that the kernel runs itself meet no rules. -/
def kernel (K : Kernel σ) : Kernel (Interposed σ) where
  serve r m :=
    match Rule.apply r.operation m.state.rules with
    | (some word, rules) => some (⟨word, .nothing⟩, { m with state := { m.state with rules := rules } })
    | (none, rules) =>
      match K.serve r (m.withState m.state.inner) with
      | none => none
      | some (reply, m') => some (reply, m'.withState ⟨rules, m'.state⟩)
  supply m := K.supply (m.withState m.state.inner) + Rule.budgets m.state.rules

end Interposed

end LineShell
