import LineShell.Proofs.Sim.Answers

/-!
# The programs that a kernel comes to run

What holds of all programs that are installed and started goes on to hold (`Sim.Every.moves`, `Sim.Every.take`), since a
process is started from an image. For a booted kernel it is enough that it holds of the bundled programs
(`Sim.Every.booted`).
-/

namespace LineShell.Sim

/-- All that is installed and started is a program of this kind. -/
structure Every (P : Program → Prop) (s : Sim) : Prop where
  images : ∀ image ∈ s.images, P image.2
  processes : ∀ entry ∈ s.processes, P entry.2.program

namespace Every

variable {P : Program → Prop} {s s' : Sim}

theorem moves (h : s.Every P) (hmoves : s.Moves s') : s'.Every P := by
  refine ⟨fun image himage => h.images image (hmoves.images_sub image himage), ?_⟩
  rcases hmoves.processes_eq with ⟨hprocesses, -⟩ | ⟨image, himage, argv, hprocesses, -⟩
  · rw [hprocesses]
    exact h.processes
  · rw [hprocesses]
    intro entry hentry
    rcases List.mem_append.1 hentry with hold | hnew
    · exact h.processes entry hold
    · rw [List.mem_singleton.1 hnew]
      exact h.images image himage

theorem take {pid : Pid} {process : Process} (h : s.Every P) (htake : s.take pid = some (process, s')) :
    P process.program ∧ s'.Every P := by
  obtain ⟨id, hmem, rfl⟩ := take_eq htake
  exact ⟨h.processes _ hmem, h.images, fun entry hentry => h.processes entry (List.mem_filter.1 hentry).1⟩

theorem install (h : s.Every P) {program : Program} (hprogram : P program) (path : String) :
    (s.install path program).2.Every P := by
  rw [install_resolved]
  split
  · exact h
  · split
    · refine ⟨fun image himage => ?_, h.processes⟩
      rcases List.mem_cons.1 himage with rfl | hold
      · exact hprogram
      · exact h.images image (List.mem_filter.1 hold).1
    · exact ⟨h.images, h.processes⟩

/-- Whatever runs, and however deep it waits, only such programs are installed and started. -/
theorem kept : Kept fun m m' => m.state.Every P → m'.state.Every P where
  refl _ h := h
  trans hab hbc h := hbc (hab h)
  heap _ _ h := h
  read m count h := by
    obtain ⟨terminal, input, heq⟩ := readConsole_eq m count
    rw [heq]
    exact ⟨h.images, h.processes⟩
  write m data h := by
    obtain ⟨terminal, heq⟩ := writeConsole_eq m data
    rw [heq]
    exact ⟨h.images, h.processes⟩
  change _ _ _ hchange h := h.moves hchange.moves
  wait _ _ _ _ _ htake hrun h := by
    have hend := hrun ⟨(h.take htake).2.images, (h.take htake).2.processes⟩
    exact ⟨hend.images, hend.processes⟩

/-- What holds of the bundled programs holds of all that a booted kernel comes to run. -/
theorem booted (hbundled : ∀ entry ∈ Program.bundled, P entry.2) (input : Input) : (booted input).Every P := by
  have hempty : (empty input).Every P := ⟨by simp [empty], by simp [empty]⟩
  exact installAll_keeps _ (fun entry hentry _ h => h.install (hbundled entry hentry) _)
    (hempty.moves (create_moves _ _ _))

end Every

end LineShell.Sim
