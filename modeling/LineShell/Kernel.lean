import LineShell.Prog
import LineShell.Terminal

/-!
# Kernels

A machine is a heap, a terminal and the state of a kernel; a kernel says how a machine answers a request. Answering
may never end, which `none` stands for: the process was ended, or waited for a program that does not end.

- `Prog.run` runs a program on a machine, `run_bind` says that it runs one part after the other;
- `Kernel.supply` bounds how many more reads of the console deliver anything: loops over the console need no more
  rounds than that.
-/

namespace LineShell

/-- What a program runs on: the heap, the terminal, and the state of the kernel. -/
structure Machine (σ : Type) where
  heap : Heap := {}
  terminal : Terminal := {}
  state : σ

/-- How machines with kernel state `σ` answer. -/
structure Kernel (σ : Type) where
  /-- Answer a request; `none` if the answer never comes. -/
  serve : Request → Machine σ → Option (Reply × Machine σ)
  /-- A bound on the reads of the console that still deliver bytes or fail. -/
  supply : Machine σ → Nat

namespace Machine

variable {σ τ : Type}

/-- The same heap and terminal with another kernel state. -/
def withState (m : Machine σ) (state : τ) : Machine τ :=
  ⟨m.heap, m.terminal, state⟩

/-- Write on the console. -/
def emit (m : Machine σ) (data : Bytes) : Machine σ :=
  { m with terminal := m.terminal.emit data }

end Machine

namespace Prog

variable {σ α β : Type}

/-- Run a program. There is no result if the program does not end or one of its requests is never answered. -/
def run (K : Kernel σ) : Prog α → Machine σ → Option (α × Machine σ)
  | done value, m => some (value, m)
  | stuck, _ => none
  | request r next, m =>
    match K.serve r m with
    | none => none
    | some (reply, m) => (next reply).run K m
  | memory r next, m =>
    match m.heap.serve r with
    | (granted, heap) => (next granted).run K { m with heap := heap }

/-- A program in two parts runs the first, then the second on what the first ended with. -/
theorem run_bind (K : Kernel σ) (p : Prog α) (f : α → Prog β) (m : Machine σ) :
    (p.bind f).run K m = (p.run K m).bind fun (value, m) => (f value).run K m := by
  induction p generalizing m with
  | done value => rfl
  | stuck => rfl
  | request r next ih =>
    simp only [bind, run]
    cases K.serve r m with
    | none => rfl
    | some answer => exact ih _ _
  | memory r next ih => simp only [bind, run, ih]

end Prog

/-- The kernel that refuses everything. -/
def Kernel.refusing (σ : Type) : Kernel σ :=
  ⟨fun _ m => some (.refused, m), fun _ => 0⟩

end LineShell
