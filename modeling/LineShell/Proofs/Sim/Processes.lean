import LineShell.Proofs.Sim.Answers
import LineShell.Proofs.Sim.Console
import LineShell.Shell

/-!
# Running a child

`Executable.run` starts a program, waits for it once and says how it ended. On the kernel in memory a process runs when
it is waited for, so this is running the program as a process (`Sim.run_child`), with an identifier gone.
-/

namespace LineShell

/-- The machine on which a child runs that is started from `m`, and waited for at once. -/
def Machine.launching (m : Machine Sim) : Machine Sim :=
  { m with state := { m.state with nextPid := m.state.nextPid + 1 } }

namespace Sim

/-- The name starts the program, with an identifier that no process has. -/
structure Starts (s : Sim) (name : String) (program : Program) : Prop where
  image_eq : (s.lookup name).bind (fun id => s.images.lookup id) = some program
  fresh : ∀ entry ∈ s.processes, entry.1 < s.nextPid
  pid_lt : s.nextPid + 1 < Pid.limit

variable {s : Sim} {m : Machine Sim}

/-- A process that was just started is found, and the table is what it was without it. -/
theorem take_started (hfresh : ∀ entry ∈ s.processes, entry.1 < s.nextPid) (hpid : s.nextPid + 1 < Pid.limit)
    (process : Process) :
    ({ s with nextPid := s.nextPid + 1, processes := s.processes ++ [(s.nextPid, process)] } : Sim).take
        ⟨Int64.ofNat s.nextPid⟩ =
      some (process, { s with nextPid := s.nextPid + 1 }) := by
  have hraw : (Int64.ofNat s.nextPid).toInt = s.nextPid :=
    Int64.toInt_ofNat_of_lt (by simp only [Pid.limit] at hpid; omega)
  have hnone : s.processes.find? (fun entry => (entry.1 : Int) == (s.nextPid : Int)) = none := by
    refine List.find?_eq_none.2 fun entry hentry => ?_
    have := hfresh entry hentry
    simp only [beq_iff_eq, Int.natCast_inj]
    omega
  have hfilter : s.processes.filter (fun entry => entry.1 != s.nextPid) = s.processes := by
    refine List.filter_eq_self.2 fun entry hentry => ?_
    have := hfresh entry hentry
    simp only [bne_iff_ne]
    omega
  simp only [take, hraw, List.find?_append, hnone, List.find?_cons, beq_self_eq_true, Option.none_or]
  simp [hfilter]

variable {name : String} {program : Program}

/-- **Running an executable** is running its program as a process, in the same directory, and saying how it ended. -/
theorem run_child (depth : Nat) (args : List String) (h : m.state.Starts name program) :
    (Executable.run (name :: args)).run (kernel depth) m =
      (runProcess depth ⟨program, name :: args, m.state.cwd⟩ m.launching).bind fun x =>
        (Executable.reportExit name x.1).run (kernel depth)
          { x.2 with state := { x.2.state with cwd := m.state.cwd } } := by
  obtain ⟨himage, hfresh, hpid⟩ := h
  have hok : (⟨Int64.ofNat m.state.nextPid, .nothing⟩ : Reply).failed = false :=
    Reply.failed_of_natCast (Int64.toInt_ofNat_of_lt (by simp only [Pid.limit] at hpid; omega))
  have hexec : (kernel depth).serve (.exec name (name :: args)) m =
      some (⟨Int64.ofNat m.state.nextPid, .nothing⟩, { m with state := { m.state with
        nextPid := m.state.nextPid + 1,
        processes := m.state.processes ++ [(m.state.nextPid, ⟨program, name :: args, m.state.cwd⟩)] } }) := by
    rw [serve_exec]
    unfold spawn
    rw [himage]
    simp only [hpid, ↓reduceIte, Option.map_some]
  have htake := take_started hfresh hpid ⟨program, name :: args, m.state.cwd⟩
  simp only [Executable.run, Prog.exec, Prog.run_seq, Prog.run_ask, hexec, Option.map_some, Option.bind_some,
    Prog.understood, hok, Bool.false_eq_true, ↓reduceIte, Prog.waitpid]
  have hwait : ∀ m' : Machine Sim, (kernel depth).serve (.waitpid ⟨Int64.ofNat m.state.nextPid⟩) m' =
      reap (runProcess depth) ⟨Int64.ofNat m.state.nextPid⟩ m' := fun _ => rfl
  rw [hwait, reap_some htake]
  show ((Option.map _ (Option.map _ (runProcess depth _ m.launching))).bind _) = _
  cases runProcess depth ⟨program, name :: args, m.state.cwd⟩ m.launching with
  | none => rfl
  | some x => rfl

end Sim

end LineShell
