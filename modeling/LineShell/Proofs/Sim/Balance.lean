import LineShell.Builtin.Usage
import LineShell.Host.Kernel
import LineShell.Interposed
import LineShell.Proofs.Balance
import LineShell.Proofs.Sim.Console
import LineShell.Proofs.Sim.Programs

/-!
# The heap between two passes

Programs share the heap with the shell that starts them. Where all that is installed and started gives back what it
takes, as the bundled programs do (`Program.bundled_balanced`), waiting for a process is neutral, at every depth
(`Sim.kernel_neutral`). So is a host, and each of them behind rules that answer in its place.

- `Shell.step_heap`: a pass leaves the accounts of the heap as they were, whatever kernel answers, whatever was in use
  before, and whichever way the pass goes.
-/

namespace LineShell

/-! ## The bundled programs -/

/-- The program gives back what it takes, for whatever words. -/
def Program.Balanced (program : Program) : Prop :=
  ∀ supply argv, (program supply argv).Balanced

namespace Program

theorem Balanced.start {program : Program} (h : program.Balanced) (supply : Nat) (argv : List String) :
    (program.start supply argv).Balanced := by
  refine .seq (h supply argv) fun outcome => ?_
  cases outcome with
  | ok code => exact .pure _
  | error failure => exact .seq (.printParts _) fun _ => .pure _

theorem printTimes_balanced (text : String) : ∀ n, (printTimes text n).Balanced
  | 0 => .report _ _
  | n + 1 => .orFail (.printText text) fun _ => printTimes_balanced text n

theorem repeatText_balanced : Balanced repeatText := by
  intro supply argv
  unfold repeatText
  split
  · exact .report _ _
  · exact printTimes_balanced _ _

theorem echo_balanced : Balanced echo :=
  fun _ _ => .report _ _

theorem listFrom_balanced (dir : Fd) : ∀ (count offset : Nat) (listing : String),
    (listFrom dir offset listing count).Balanced
  | 0, _, _ => .orFail (.printText _) fun _ => .pure _
  | count + 1, offset, listing => by
    refine .seq (.ask _ _) fun found => ?_
    cases found with
    | error e => exact .pure _
    | ok entry =>
      refine .seq (.ask _ _) fun looked => ?_
      cases looked with
      | error e => exact .pure _
      | ok stat => exact listFrom_balanced dir count (offset + 1) _

theorem ls_balanced : Balanced ls := by
  intro supply argv
  refine .seq (.ask _ _) fun opened => ?_
  cases opened with
  | error e => exact .report _ _
  | ok fd =>
    refine .orFail (.ask _ _) fun stat => ?_
    split
    · exact listFrom_balanced fd _ 0 ""
    · exact .report _ _

theorem cat_balanced : Balanced cat := by
  intro supply argv
  unfold cat
  split
  · exact .report _ _
  · refine .seq (.ask _ _) fun opened => ?_
    cases opened with
    | error e => exact .report _ _
    | ok fd =>
      refine .orFail (.ask _ _) fun stat => ?_
      split
      · exact .report _ _
      · exact .orFail (.ask _ _) fun _ => .orFail (.ask _ _) fun _ => .pure _

theorem touch_balanced : Balanced touch := by
  intro supply argv
  unfold touch
  split
  · exact .report _ _
  · refine .seq (.ask _ _) fun opened => ?_
    cases opened with
    | ok fd => exact .pure _
    | error e =>
      refine .seq (.ask _ _) fun created => ?_
      cases created with
      | ok fd => exact .pure _
      | error e => exact .report _ _

theorem mkdir_balanced : Balanced mkdir := by
  intro supply argv
  unfold mkdir
  split
  · exact .report _ _
  · refine .seq (.ask _ _) fun created => ?_
    cases created with
    | ok fd => exact .pure _
    | error e => exact .report _ _

theorem rm_balanced : Balanced rm := by
  intro supply argv
  unfold rm
  split
  · exact .report _ _
  · refine .seq (.ask _ _) fun opened => ?_
    cases opened with
    | error e => exact .report _ _
    | ok fd =>
      refine .orFail (.ask _ _) fun stat => ?_
      split
      · exact .report _ _
      · refine .seq (.ask _ _) fun removed => ?_
        cases removed <;> exact .pure _

theorem rmdir_balanced : Balanced rmdir := by
  intro supply argv
  unfold rmdir
  split
  · exact .report _ _
  · refine .seq (.ask _ _) fun opened => ?_
    cases opened with
    | error e => exact .report _ _
    | ok fd =>
      refine .orFail (.ask _ _) fun stat => ?_
      split
      · refine .seq (.ask _ _) fun removed => ?_
        cases removed with
        | ok _ => exact .pure _
        | error e => exact .report _ _
      · exact .report _ _

/-- Typed lines are given back one by one, also the one that the typing ends with. -/
theorem typedLines_balanced (supply : Nat) : ∀ (rounds : Nat) (reader : Reader) (content : String),
    (typedLines supply reader content rounds).Balanced
  | 0, _, _ => trivial
  | rounds + 1, reader, content => by
    refine Prog.Carries.seq (reader.readLine_carries supply "") fun read => ?_
    obtain ⟨e | line, reader'⟩ := read
    · cases e <;> exact .pure rfl
    · refine .seq (line.drop_carries 0) fun _ => ?_
      split
      · exact .pure rfl
      · exact typedLines_balanced supply rounds reader' _

theorem edit_balanced : Balanced edit := by
  intro supply argv
  unfold edit
  split
  · exact .report _ _
  · refine .seq (.ask _ _) fun opened => ?_
    cases opened with
    | error e => exact .report _ _
    | ok fd =>
      refine .orFail (.ask _ _) fun stat => ?_
      split
      · exact .report _ _
      · refine .seq (typedLines_balanced supply _ _ _) fun typed => ?_
        cases typed with
        | error e => exact .pure _
        | ok content => exact .orFail (.ask _ _) fun _ => .orFail (.ask _ _) fun _ => .pure _

/-- **The bundled programs** give back what they take. -/
theorem bundled_balanced : ∀ entry ∈ bundled, entry.2.Balanced := by
  simp only [bundled, List.mem_cons, List.not_mem_nil, or_false, forall_eq_or_imp, forall_eq]
  exact ⟨repeatText_balanced, ls_balanced, cat_balanced, echo_balanced, touch_balanced, mkdir_balanced, rm_balanced,
    rmdir_balanced, edit_balanced⟩

end Program

/-! ## Neutral kernels -/

namespace Sim

/-- Where running a process is neutral, so is answering. -/
theorem answer_neutral {runProcess : Process → Machine Sim → Option (ExitCode × Machine Sim)}
    (hrun : ∀ {process m code m'}, process.program.Balanced → m.state.Every Program.Balanced →
      runProcess process m = some (code, m') → m'.state.Every Program.Balanced ∧ m'.heap.Bears m.heap 0) :
    Kernel.Neutral ⟨answer runProcess, supply⟩ (Every Program.Balanced) := by
  intro r m reply m' h hserve
  rcases answer_cases hserve with ⟨count, rfl⟩ | ⟨data, rfl⟩ | ⟨pid, process, s, code, m₁, htake, hprocess, rfl⟩ |
    ⟨s, hchange, rfl⟩
  · obtain ⟨terminal, input, heq⟩ := readConsole_eq m count
    rw [heq]
    exact ⟨⟨h.images, h.processes⟩, .refl _⟩
  · obtain ⟨terminal, heq⟩ := writeConsole_eq m data
    rw [heq]
    exact ⟨⟨h.images, h.processes⟩, .refl _⟩
  · obtain ⟨hbalanced, hs⟩ := h.take htake
    obtain ⟨hs₁, hheap⟩ := hrun hbalanced ⟨hs.images, hs.processes⟩ hprocess
    exact ⟨⟨hs₁.images, hs₁.processes⟩, hheap⟩
  · exact ⟨h.moves hchange.moves, .refl _⟩

/-- At every depth of waiting, a process leaves the heap as it found it. -/
theorem runProcess_neutral : ∀ (depth : Nat) {process : Process} {m m' : Machine Sim} {code : ExitCode},
    process.program.Balanced → m.state.Every Program.Balanced → runProcess depth process m = some (code, m') →
    m'.state.Every Program.Balanced ∧ m'.heap.Bears m.heap 0
  | 0, _, _, _, _, _, _, hrun => nomatch hrun
  | depth + 1, process, m, _, _, hbalanced, h, hrun =>
    (hbalanced.start (supply m) process.argv).run (answer_neutral (runProcess_neutral depth)) h (.refl _) hrun

/-- **The kernel in memory** is neutral, where all that it runs gives back what it takes. -/
theorem kernel_neutral (depth : Nat) : (kernel depth).Neutral (Every Program.Balanced) :=
  answer_neutral (runProcess_neutral depth)

end Sim

/-- Rules in front of a kernel touch no heap. -/
theorem Interposed.kernel_neutral {σ : Type} {K : Kernel σ} {Ready : σ → Prop} (hK : K.Neutral Ready) :
    (Interposed.kernel K).Neutral fun s => Ready s.inner := by
  intro r m reply m' h hserve
  unfold kernel at hserve
  dsimp only at hserve
  split at hserve
  · cases hserve
    exact ⟨h, .refl _⟩
  · split at hserve
    · cases hserve
    · next hinner =>
      cases hserve
      exact @hK r (m.withState m.state.inner) _ _ h hinner

/-- A host has nothing to do with the heap of the shell. -/
theorem Host.kernel_neutral {φ : Type} (S : Host.HostSystem φ) : (Host.kernel S).Neutral fun _ => True := by
  intro r m reply m' _ hserve
  refine ⟨trivial, ?_⟩
  have hheap : m'.heap = m.heap := by
    have hrest {result : Reply × Host φ}
        (h : some (result.1, ({ m with state := result.2 } : Machine (Host φ))) = some (reply, m')) :
        m'.heap = m.heap := by
      rw [← (Prod.mk.inj (Option.some.inj h)).2]
    have hsame {result : Reply × Machine (Host φ)} (hresult : result.2.heap = m.heap)
        (h : some result = some (reply, m')) : m'.heap = m.heap := by
      rw [Option.some.inj h] at hresult
      exact hresult
    simp only [kernel, serve] at hserve
    cases r with
    | read fd count offset =>
      dsimp only at hserve
      split at hserve
      · exact hsame rfl hserve
      · exact hsame rfl hserve
    | write fd data offset =>
      dsimp only at hserve
      split at hserve
      · exact hsame rfl hserve
      · exact hrest hserve
    | fstat fd =>
      dsimp only at hserve
      split at hserve
      · exact hsame rfl hserve
      · exact hsame rfl hserve
    | waitpid pid =>
      refine hsame ?_ hserve
      unfold reap
      split <;> rfl
    | exec path argv =>
      refine hsame ?_ hserve
      unfold spawn
      dsimp only
      split <;> rfl
    | exit status => cases hserve
    | openFile path => exact hrest hserve
    | truncate path length => exact hrest hserve
    | ftruncate fd length => exact hrest hserve
    | currentDir => exact hsame rfl hserve
    | chdir path => exact hrest hserve
    | creat path directory => exact hrest hserve
    | removeFile path => exact hrest hserve
    | readDir fd offset => exact hrest hserve
  rw [hheap]
  exact .refl _

/-! ## Passes -/

namespace Shell

variable {σ : Type}

/-- Every pass that returns leaves the accounts of the heap as they were, on states that are `Ready`. -/
def KeepsHeap (sh : Shell) (K : Kernel σ) (Ready : σ → Prop) : Prop :=
  ∀ ⦃supply m pass sh' m'⦄, Ready m.state → sh.step K supply m = some ((pass, sh'), m') →
    m'.heap.inUse = m.heap.inUse ∧ m'.heap.blocks = m.heap.blocks

/-- A source of lines takes them from the terminal at most, before the pass runs. -/
theorem nextLine_machine (supply : Nat) (source : LineSource) (prompt : String) (m : Machine σ) :
    (source.nextLine supply prompt m).2.heap = m.heap ∧ (source.nextLine supply prompt m).2.state = m.state := by
  unfold LineSource.nextLine
  split
  · exact ⟨rfl, rfl⟩
  · split <;> exact ⟨rfl, rfl⟩

/-- A shell whose builtins give back what they take, on a neutral kernel. -/
theorem keepsHeap {sh : Shell} (h : sh.builtins.Balanced) {K : Kernel σ} {Ready : σ → Prop} (hK : K.Neutral Ready) :
    sh.KeepsHeap K Ready := by
  intro supply m pass sh' m' hready hstep
  obtain ⟨hheap, hstate⟩ := nextLine_machine supply sh.input sh.prompt m
  have hbalanced := pass_balanced h (nextLine_carries supply sh.input sh.prompt m)
  rw [step] at hstep
  generalize sh.input.nextLine supply sh.prompt m = next at hstep hheap hstate hbalanced
  obtain ⟨⟨⟨pass', input⟩, m₁⟩, hrun, heq⟩ := Option.map_eq_some_iff.1 hstep
  cases heq
  have hbears := (hbalanced.run hK (hstate ▸ hready) (.refl _) hrun).2
  rw [hheap] at hbears
  exact ⟨by simpa using hbears.inUse_eq, by simpa using hbears.blocks_eq⟩

/-- **The heap is the same before and after a pass**: for the builtins of every shell, whatever their arguments are taken
to be, and further ones that give back what they take; on every kernel whose own answers are neutral; on the kernel in
memory with programs that give back what they take, as those of a booted one do, whatever is answered in its place; and
likewise on a host. -/
theorem step_heap {sh : Shell} {reader : ArgumentReader} {registered : Builtins}
    (hbuiltins : sh.builtins = .standard reader ++ registered) (hregistered : registered.Balanced) :
    (∀ {σ : Type} (K : Kernel σ) (Ready : σ → Prop), K.Neutral Ready → sh.KeepsHeap K Ready) ∧
    (∀ depth, sh.KeepsHeap (Interposed.kernel (Sim.kernel depth)) fun s => s.inner.Every Program.Balanced) ∧
    (∀ input, (Sim.booted input).Every Program.Balanced) ∧
    ∀ {φ : Type} (S : Host.HostSystem φ), sh.KeepsHeap (Interposed.kernel (Host.kernel S)) fun _ => True := by
  have hbalanced : sh.builtins.Balanced := hbuiltins ▸ (Builtins.standard_balanced reader).append hregistered
  refine ⟨fun _ _ => keepsHeap hbalanced, fun depth => ?_, .booted Program.bundled_balanced, fun S => ?_⟩
  · exact keepsHeap hbalanced (Interposed.kernel_neutral (Sim.kernel_neutral depth))
  · exact keepsHeap hbalanced (Interposed.kernel_neutral (Host.kernel_neutral S))

/-- A limited heap with one block of seven bytes in use: the editor runs on it and takes a line, and the report of its
exit is refused. -/
theorem step_heap_edit :
    let input : Sim.Input := .script [.data (Text.bytes "/edit /f\nab\ncd\n")]
    let booted : Machine (Interposed Sim) :=
      { heap := ⟨some 4096, 7, 1⟩, state := ⟨[⟨.write, 1, some 1, -1⟩], ((Sim.booted input).create "/f" false).2⟩ }
    let sh : Shell := { input := .console (.ofChunk 3), builtins := .standard Usage.builtins }
    ∃ sh' m', sh.step (Interposed.kernel (Sim.kernel 1)) 20 booted = some ((.completed .failure, sh'), m') ∧
      m'.state.inner.contents "/f" = some (Text.bytes "ab\ncd\n") ∧ m'.heap.inUse = 7 ∧ m'.heap.blocks = 1 := by
  intro input m sh
  have hbuiltins : sh.builtins = Builtins.standard Usage.builtins ++ [] := rfl
  have hregistered : Builtins.Balanced [] := by simp [Builtins.Balanced]
  obtain ⟨-, hsim, hbooted, -⟩ := step_heap hbuiltins hregistered
  have hready : m.state.inner.Every Program.Balanced := (hbooted input).moves (Sim.create_moves _ _ _)
  have hran : (sh.step (Interposed.kernel (Sim.kernel 1)) 20 m).map
      (fun x => (x.1.1, x.2.state.inner.contents "/f")) =
        some (.completed .failure, some (Text.bytes "ab\ncd\n")) := by decide +kernel
  obtain ⟨⟨⟨pass, sh'⟩, m'⟩, hstep, heq⟩ := Option.map_eq_some_iff.1 hran
  obtain ⟨rfl, hcontents⟩ := Prod.mk.inj heq
  obtain ⟨hinUse, hblocks⟩ := hsim 1 hready hstep
  exact ⟨sh', m', hstep, hcontents, hinUse, hblocks⟩

end Shell

end LineShell
