import LineShell.Proofs.Sim.Console
import LineShell.Proofs.Sim.Programs

/-!
# Programs that leave the console alone

On a kernel whose console nobody attends, a read of standard input is never answered (`Sim.unattended`). A program that
ends there reads nothing, and then it does the same on the kernel that does answer, whatever is on the console
(`Prog.detached_of_unattended`).

A program is told how much is left to read, and must not make anything of it before it reads (`Program.Steady`). All
that a booted kernel comes to run is like that (`Sim.Sound`, `Sim.booted_sound`).
-/

namespace LineShell

variable {α β : Type}

/-! ## Programs up to their first read -/

/-- The same program, up to the first read of standard input. -/
inductive Prog.Alike : Prog α → Prog α → Prop
  | done (value : α) : Alike (done value) (done value)
  | stuck : Alike stuck stuck
  | read (count offset : UInt64) (next next' : Reply → Prog α) :
      Alike (request (.read .stdin count offset) next) (request (.read .stdin count offset) next')
  | request (r : Request) {next next' : Reply → Prog α} (h : ∀ reply, Alike (next reply) (next' reply)) :
      Alike (request r next) (request r next')
  | memory (r : HeapRequest) {next next' : Bool → Prog α} (h : ∀ granted, Alike (next granted) (next' granted)) :
      Alike (memory r next) (memory r next')

namespace Prog.Alike

theorem refl : ∀ p : Prog α, p.Alike p
  | .done value => .done value
  | .stuck => .stuck
  | .request r next => .request r fun reply => refl (next reply)
  | .memory r next => .memory r fun granted => refl (next granted)

theorem seq {p p' : Prog α} {f f' : α → Prog β} (hp : p.Alike p') (hf : ∀ value, (f value).Alike (f' value)) :
    (p >>= f).Alike (p' >>= f') := by
  induction hp with
  | done value => exact hf value
  | stuck => exact .stuck
  | read count offset next next' =>
    exact .read count offset (fun reply => (next reply).bind f) fun reply => (next' reply).bind f'
  | request r _ ih => exact .request r ih
  | memory r _ ih => exact .memory r ih

/-- Programs that begin alike and go on differently. -/
theorem seq_left (p : Prog α) {f f' : α → Prog β} (hf : ∀ value, (f value).Alike (f' value)) :
    (p >>= f).Alike (p >>= f') :=
  (refl p).seq hf

end Prog.Alike

/-- How much is left to read makes no difference to the program before it reads. -/
def Program.Steady (program : Program) : Prop :=
  ∀ argv supply supply', (program supply argv).Alike (program supply' argv)

namespace Program

theorem steady_of_const {body : List String → Prog Outcome} : Steady fun _ argv => body argv :=
  fun _ _ _ => .refl _

theorem Steady.start {program : Program} (h : program.Steady) (argv : List String) (supply supply' : Nat) :
    (program.start supply argv).Alike (program.start supply' argv) :=
  (h argv supply supply').seq fun _ => .refl _

/-- With nothing fetched yet, reading a line fails for lack of memory or begins with a read. -/
theorem readLine_alike {r : Reader} (hunread : r.unread = []) (hskipping : r.skipping = false) (supply supply' : Nat)
    {next next' : Except ReadError Line × Reader → Prog α}
    (hnext : (next (.error .alloc, r)).Alike (next' (.error .alloc, r))) :
    (r.readLine supply "" >>= next).Alike (r.readLine supply' "" >>= next') := by
  have hskip (supply : Nat) : r.skip supply = pure (.ok (), r) := by
    rw [Reader.skip.eq_def, hskipping]
    rfl
  have hadvance : r.advance {} = Reader.refill { r with unread := [] } {} := by
    rw [Reader.advance, hunread]
    rfl
  simp only [Reader.readLine, hskip]
  refine .memory (.malloc 1) fun granted => ?_
  cases granted with
  | false => exact hnext
  | true =>
    show (r.fill supply {} >>= next).Alike (r.fill supply' {} >>= next')
    rw [Reader.fill.eq_def supply, Reader.fill.eq_def supply', hadvance]
    exact .read _ _ _ _

theorem edit_steady : Steady edit := by
  intro argv supply supply'
  unfold edit
  cases argv[1]? with
  | none => exact .refl _
  | some path =>
    refine .seq_left _ fun opened => ?_
    cases opened with
    | error e => exact .refl _
    | ok fd =>
      refine .seq_left _ fun found => ?_
      cases found with
      | error e => exact .refl _
      | ok stat =>
        dsimp only
        split
        · exact .refl _
        · have htyped : (typedLines supply (.ofChunk 1) "" (supply + 1)).Alike
              (typedLines supply' (.ofChunk 1) "" (supply' + 1)) :=
            readLine_alike rfl rfl supply supply' (.refl _)
          exact htyped.seq fun _ => .refl _

/-- **The bundled programs** are steady: all but the editor have nothing to do with the console. -/
theorem bundled_steady : ∀ entry ∈ bundled, entry.2.Steady := by
  simp only [bundled, List.mem_cons, List.not_mem_nil, or_false, forall_eq_or_imp, forall_eq]
  exact ⟨steady_of_const, steady_of_const, steady_of_const, steady_of_const, steady_of_const, steady_of_const,
    steady_of_const, steady_of_const, edit_steady⟩

end Program

namespace Sim

/-! ## The tables of a kernel -/

/-- What is installed and started is steady, and no process has an identifier that is still to come. -/
structure Sound (s : Sim) : Prop where
  images : ∀ image ∈ s.images, image.2.Steady
  processes : ∀ entry ∈ s.processes, entry.2.program.Steady ∧ entry.1 < s.nextPid

namespace Sound

variable {s s' : Sim}

theorem of_eq (h : s.Sound) (himages : s'.images = s.images) (hprocesses : s'.processes = s.processes)
    (hpid : s'.nextPid = s.nextPid) : s'.Sound :=
  ⟨himages ▸ h.images, hprocesses ▸ hpid ▸ h.processes⟩

theorem facing {m : Machine Sim} (h : m.state.Sound) (heap : Heap) (script : Script) :
    (m.facing heap script).state.Sound :=
  h.of_eq rfl rfl rfl

theorem every (h : s.Sound) : s.Every Program.Steady :=
  ⟨h.images, fun entry hentry => (h.processes entry hentry).1⟩

theorem moves (h : s.Sound) (hmoves : s.Moves s') : s'.Sound := by
  have hevery := h.every.moves hmoves
  refine ⟨hevery.images, fun entry hentry => ⟨hevery.processes entry hentry, ?_⟩⟩
  rcases hmoves.processes_eq with ⟨hprocesses, hpid⟩ | ⟨_, -, _, hprocesses, hpid⟩
  · rw [hpid]
    exact (h.processes entry (hprocesses ▸ hentry)).2
  · rw [hpid]
    rw [hprocesses] at hentry
    rcases List.mem_append.1 hentry with hold | hnew
    · exact Nat.lt_succ_of_lt (h.processes entry hold).2
    · rw [List.mem_singleton.1 hnew]
      exact Nat.lt_succ_self _

theorem take {pid : Pid} {process : Process} (h : s.Sound) (htake : s.take pid = some (process, s')) :
    process.program.Steady ∧ s'.Sound := by
  refine ⟨(h.every.take htake).1, ?_⟩
  obtain ⟨id, -, rfl⟩ := take_eq htake
  exact ⟨h.images, fun entry hentry => h.processes entry (List.mem_filter.1 hentry).1⟩

/-- Whatever runs, the tables stay sound. -/
theorem kept : Kept fun m m' => m.state.Sound → m'.state.Sound where
  refl _ h := h
  trans hab hbc h := hbc (hab h)
  heap _ _ h := h
  read m count h := by
    obtain ⟨terminal, input, heq⟩ := readConsole_eq m count
    rw [heq]
    exact h.of_eq rfl rfl rfl
  write m data h := by
    obtain ⟨terminal, heq⟩ := writeConsole_eq m data
    rw [heq]
    exact h.of_eq rfl rfl rfl
  change _ _ _ hchange h := h.moves hchange.moves
  wait _ _ _ _ _ htake hrun h := (hrun ((h.take htake).2.of_eq rfl rfl rfl)).of_eq rfl rfl rfl

end Sound

/-- **A booted kernel** has sound tables. -/
theorem booted_sound (input : Input) : (booted input).Sound := by
  refine ⟨(Every.booted Program.bundled_steady input).images, ?_⟩
  obtain ⟨store, images, heq⟩ := booted_eq input
  simp [heq, empty]

end Sim

/-! ## Without anybody at the console -/

/-- Whether a request reads standard input. -/
def Request.readsConsole : Request → Bool
  | .read fd .. => fd = .stdin
  | _ => false

namespace Sim

/-- Answers as they are where nobody attends the console: a read of standard input waits for ever. -/
def answerUnattended (runProcess : Process → Machine Sim → Option (ExitCode × Machine Sim)) (r : Request)
    (m : Machine Sim) : Option (Reply × Machine Sim) :=
  if r.readsConsole then none else answer runProcess r m

/-- Run a process where nobody attends the console. -/
def runUnattended : (depth : Nat) → Process → Machine Sim → Option (ExitCode × Machine Sim)
  | 0, _, _ => none
  | depth + 1, process, m =>
    (Program.start process.program (supply m) process.argv).run ⟨answerUnattended (runUnattended depth), supply⟩ m

/-- The kernel in memory where nobody attends the console. -/
def unattended (depth : Nat) : Kernel Sim :=
  ⟨answerUnattended (runUnattended depth), supply⟩

theorem unattended_prints (depth : Nat) : (unattended depth).Prints :=
  fun _ _ => rfl

/-- `run` does what `alone` does, whatever is on the console, and leaves the tables sound. -/
def Follows (alone run : Machine Sim → Option (α × Machine Sim)) : Prop :=
  ∀ m value m', m.state.Sound → alone m = some (value, m') →
    m'.state.Sound ∧ ∀ script, run (m.facing m.heap script) = some (value, m'.facing m'.heap script)

section Follows

variable {runAlone runProcess : Process → Machine Sim → Option (ExitCode × Machine Sim)}

/-- Waiting for a process, where its run follows. -/
theorem reap_follows (hrun : ∀ process, process.program.Steady → Follows (runAlone process) (runProcess process))
    (pid : Pid) : Follows (reap runAlone pid) (reap runProcess pid) := by
  intro m reply m' hs h
  cases hfound : m.state.take pid with
  | none =>
    cases (reap_none hfound).symm.trans h
    refine ⟨hs, fun script => reap_none ?_⟩
    show (m.state.facing (.script script) m.state.room).take pid = none
    rw [take_facing, hfound]
    rfl
  | some found =>
    obtain ⟨hsteady, hs'⟩ := hs.take hfound
    have hroom : found.2.room = m.state.room := by
      obtain ⟨id, -, heq⟩ := take_eq hfound
      rw [heq]
    obtain ⟨⟨code, m₁⟩, halone, heq⟩ := Option.map_eq_some_iff.1 ((reap_some hfound).symm.trans h)
    cases heq
    obtain ⟨hs₁, hsame⟩ := hrun found.1 hsteady _ _ _ (hs'.of_eq rfl rfl rfl) halone
    refine ⟨hs₁.of_eq rfl rfl rfl, fun script => ?_⟩
    have hfound' : (m.facing m.heap script).state.take pid =
        some (found.1, found.2.facing (.script script) found.2.room) := by
      show (m.state.facing (.script script) m.state.room).take pid = _
      rw [take_facing, hfound, hroom]
      rfl
    rw [reap_some hfound']
    exact congrArg (Option.map _) (hsame script)

/-- Every other request, where runs of processes follow. -/
theorem answer_follows (hrun : ∀ process, process.program.Steady → Follows (runAlone process) (runProcess process))
    (r : Request) : Follows (answerUnattended runAlone r) (answer runProcess r) := by
  intro m reply m' hs h
  unfold answerUnattended at h
  by_cases hreads : r.readsConsole
  · rw [if_pos hreads] at h
    cases h
  rw [if_neg hreads] at h
  by_cases hinner : r.isInner
  · -- neither the console nor a process has anything to do with it
    obtain ⟨a, hchange, ha⟩ := answer_inner m.state hinner
    have halone := ha runAlone m.heap m.terminal m.state.input m.state.room
    obtain ⟨x, hx, heq⟩ := Option.map_eq_some_iff.1 (halone.symm.trans h)
    cases heq
    refine ⟨(hs.moves (hchange x hx).moves).of_eq rfl rfl rfl, fun script => ?_⟩
    exact (ha runProcess m.heap m.terminal (.script script) m.state.room).trans (by rw [hx]; rfl)
  · cases r with
    | read fd count offset =>
      have hfd : fd = .stdin := by simpa [Request.isInner] using hinner
      simp [Request.readsConsole, hfd] at hreads
    | write fd data offset =>
      have hfd : (fd = .stdout || fd = .stderr) = true := by
        simpa [Request.isInner, Decidable.or_iff_not_imp_left] using hinner
      simp only [answer, hfd, ↓reduceIte, writeConsole_facing] at h ⊢
      have hs' := Sound.kept.write m data hs
      have hheap := writeConsole_heap (m := m) data
      rw [Option.some.inj h] at hs' hheap ⊢
      exact ⟨hs', fun script => by rw [hheap]⟩
    | waitpid pid => exact reap_follows hrun pid m reply m' hs h
    | _ => exact absurd rfl hinner

/-- A program that never reads the console, where answers follow. -/
theorem run_follows (hrun : ∀ process, process.program.Steady → Follows (runAlone process) (runProcess process))
    {p p' : Prog α} (h : p.Alike p') :
    Follows (p.run ⟨answerUnattended runAlone, supply⟩) (p'.run ⟨answer runProcess, supply⟩) := by
  induction h with
  | done value =>
    intro m value' m' hs h
    cases h
    exact ⟨hs, fun _ => rfl⟩
  | stuck =>
    intro m value m' hs h
    cases h
  | read count offset next next' =>
    intro m value m' hs h
    cases h
  | request r _ ih =>
    intro m value m' hs h
    obtain ⟨reply, m₁, hserve, hnext⟩ := Prog.run_request_eq_some.1 h
    obtain ⟨hs₁, hsame⟩ := answer_follows hrun r m reply m₁ hs hserve
    obtain ⟨hs', hsame'⟩ := ih reply m₁ value m' hs₁ hnext
    refine ⟨hs', fun script => ?_⟩
    rw [Prog.run_request]
    exact (congrArg (Option.bind · _) (hsame script)).trans (hsame' script)
  | memory r _ ih =>
    intro m value m' hs h
    exact ih (m.heap.serve r).1 { m with heap := (m.heap.serve r).2 } value m' hs h

end Follows

/-- At every depth of waiting, a process that never reads the console does the same whatever is on it. -/
theorem process_follows : ∀ (depth : Nat) (process : Process), process.program.Steady →
    Follows (runUnattended depth process) (runProcess depth process)
  | 0, _, _ => fun _ _ _ _ h => nomatch h
  | depth + 1, process, hsteady => by
    intro m code m' hs h
    have hsupply (script : Script) := hsteady.start process.argv (supply m) (supply (m.facing m.heap script))
    have hrun (script : Script) := run_follows (process_follows depth) (hsupply script) m code m' hs h
    exact ⟨(hrun []).1, fun script => (hrun script).2 script⟩

end Sim

namespace Prog

/-- Whatever is on the console, the program runs from `m` to `m'` and leaves it there. -/
def Detached (depth : Nat) (p : Prog α) (m : Machine Sim) (value : α) (m' : Machine Sim) : Prop :=
  ∀ script, p.run (Sim.kernel depth) (m.facing m.heap script) = some (value, m'.facing m'.heap script)

theorem Detached.run_facing {p : Prog α} {depth : Nat} {m m' : Machine Sim} {heap : Heap} {script : Script} {value : α}
    (h : p.Detached depth (m.facing heap script) value m') (script' : Script) :
    p.run (Sim.kernel depth) (m.facing heap script') = some (value, m'.facing m'.heap script') :=
  h script'

/-- **A program that leaves the console alone** does the same whatever is on it. -/
theorem detached_of_unattended {p : Prog α} {depth : Nat} {m m' : Machine Sim} {value : α} (hs : m.state.Sound)
    (hrun : p.run (Sim.unattended depth) m = some (value, m')) : m'.state.Sound ∧ p.Detached depth m value m' :=
  Sim.run_follows (Sim.process_follows depth) (.refl p) m value m' hs hrun

/-- A program that ends on its own, and asks nobody at the console. -/
theorem Ends.detached {p : Prog α} {depth : Nat} (hp : p.Ends (Sim.unattended depth)) {m : Machine Sim}
    (hs : m.state.Sound) : ∃ value m', m'.state.Sound ∧ p.Detached depth m value m' := by
  obtain ⟨⟨value, m'⟩, hrun⟩ := Option.isSome_iff_exists.1 (hp m)
  exact ⟨value, m', detached_of_unattended hs hrun⟩

end Prog

end LineShell
