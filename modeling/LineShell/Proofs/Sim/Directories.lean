import LineShell.Proofs.Dialogue
import LineShell.Proofs.Sim.Identifiers
import LineShell.Proofs.Sim.Reachable

/-!
# Working directories

The kernel has one working directory, which belongs to whoever runs: a process that is waited for finds the one in which
it was started, and the one who waits finds its own again. So what others do to their working directories is never seen.

- `Sim.run_cwd`: the working directory after a run is the history of its own changes;
- `Sim.Course.directories`: a process begins where it was started, and waiting changes nothing.
-/

namespace LineShell

/-- The working directory of who made a request and got this reply. -/
def Exchange.moved (cwd : String) (e : Exchange) : String :=
  match e.request with
  | .chdir path => if e.reply.failed then cwd else Path.absolute cwd path
  | _ => cwd

namespace Sim

/-! ## One's own requests -/

theorem Effect.cwd_eq {s s' : Sim} {r : Request} {reply : Reply} (h : s.Effect r reply s') :
    s'.cwd = Exchange.moved s.cwd ⟨r, reply⟩ := by
  cases h with
  | started => rfl
  | moved => rfl
  | apart _ _ hcwd hkind =>
    rw [hcwd]
    cases r with
    | chdir path => exact (if_pos (hkind.resolve_left nofun)).symm
    | _ => rfl

section Runs

variable {α : Type} {depth : Nat} {m m' : Machine Sim}

/-- **A request** changes the working directory if it asks for that; what runs for it makes no difference. -/
theorem serve_cwd {r : Request} {reply : Reply} (h : (kernel depth).serve r m = some (reply, m')) :
    m'.state.cwd = Exchange.moved m.state.cwd ⟨r, reply⟩ := by
  rcases serve_cases h with hserve | ⟨pid, process, s, code, m₁, rfl, -, -, -, rfl⟩
  · exact (serve_effect hserve).cwd_eq
  · rfl

/-- **A run** leaves the working directory where its own requests brought it. -/
theorem run_cwd {p : Prog α} {value : α} (h : p.run (kernel depth) m = some (value, m')) :
    m'.state.cwd = (p.trace (kernel depth) m).foldl Exchange.moved m.state.cwd := by
  induction p generalizing m with
  | done ended =>
    cases h
    rfl
  | stuck => cases h
  | request r next ih =>
    obtain ⟨reply, m₁, hserve, hnext⟩ := Prog.run_request_eq_some.1 h
    rw [Prog.trace, hserve, List.foldl_cons, ← serve_cwd hserve]
    exact ih reply hnext
  | memory r next ih => exact ih _ h

end Runs

/-! ## Processes of a reachable state -/

theorem Counted.course {now later : Moment} {log : List Event} (h : now.state.Counted) (hcourse : Course now log later) :
    later.state.Counted := by
  induction hcourse with
  | nil => exact h
  | cons hstep _ ih => exact ih (h.tabled hstep.tabled)

/-- In a reachable state processes have numbers of their own, below the next one. -/
theorem Reachable.counted {s : Sim} (h : s.Reachable) : s.Counted := by
  induction h with
  | empty input =>
    have hnumbered : Numbered [] ⟨Sim.empty input, []⟩ := (empty_unused input).numbered rfl
    exact hnumbered.counted
  | @installed s path program _ ih =>
    have hstep : Step ⟨s, []⟩ .outside ⟨(s.install path program).2, []⟩ := .installed path program
    have htabled := hstep.tabled
    generalize s.install path program = installed at htabled ⊢
    exact ih.tabled htabled
  | served _ hserve ih =>
    obtain ⟨log, hcourse, -⟩ := Course.of_serve hserve []
    exact ih.course hcourse
  | @entered s _ pid _ _ htake ih =>
    have hstep : Step ⟨s, []⟩ (.entered pid) _ := .entered htake
    exact ih.tabled hstep.tabled
  | @facing s input room _ ih =>
    have hstep : Step ⟨s, []⟩ .outside _ := .facing input room
    exact ih.tabled hstep.tabled

/-- A start that is granted puts the program that is found into the table, with the working directory of the moment. -/
theorem Effect.process {s s' : Sim} {path : String} {argv : List String} {reply : Reply}
    (h : s.Effect (.exec path argv) reply s') (hreply : reply.failed = false) :
    ∃ program, (s.lookup path).bind (fun id => s.images.lookup id) = some program ∧
      (⟨reply.word⟩ : Pid) = Pid.ofNat s.nextPid ∧ (s.nextPid, ⟨program, argv, s.cwd⟩) ∈ s'.processes := by
  cases h with
  | @started _ _ program hprogram _ =>
    exact ⟨program, hprogram, rfl, List.mem_append_right _ (List.mem_singleton_self _)⟩
  | apart _ _ _ hkind =>
    rcases hkind with hplain | hfailed
    · cases hplain
    · rw [hfailed] at hreply
      cases hreply

theorem Step.effect {there next : Moment} {r : Request} {reply : Reply} (h : Step there (.asked r reply) next) :
    there.state.Effect r reply next.state := by
  cases h with
  | asked hserve => exact serve_effect hserve

/-- **A process begins where it was started, and waiting changes nothing.** A start is granted at some moment of a kernel,
inside of any waits. As long as nobody waited for it, and wherever the working directory came to be, waiting for it runs
the program that was found then, in the working directory of then. At every depth of waiting, and whether it succeeds or
fails, who waited finds the working directory unchanged. And what a program leaves as its working directory are its own
changes alone, whatever is done by the processes that it waits for. -/
theorem Course.directories {there next now : Moment} {path : String} {argv : List String} {reply : Reply}
    {log : List Event} (hthere : there.state.Reachable) (hstart : Step there (.asked (.exec path argv) reply) next)
    (hreply : reply.failed = false) (hcourse : Course next log now) (hlog : .entered ⟨reply.word⟩ ∉ log) :
    (∃ program, (there.state.lookup path).bind (fun id => there.state.images.lookup id) = some program ∧
      ∀ depth m, m.state = now.state →
        let inside : Machine Sim := { m with state := { m.state with
          processes := m.state.processes.filter (·.1 != there.state.nextPid), cwd := there.state.cwd } }
        (kernel (depth + 1)).serve (.waitpid ⟨reply.word⟩) m =
          ((program.start (supply inside) argv).run (kernel depth) inside).map fun x =>
            (.granted (.status x.1), { x.2 with state := { x.2.state with cwd := m.state.cwd } })) ∧
    (∀ depth pid m answer m', (kernel depth).serve (.waitpid pid) m = some (answer, m') →
      m'.state.cwd = m.state.cwd) ∧
    ∀ depth (program : Program) argv m code m',
      (program.start (supply m) argv).run (kernel depth) m = some (code, m') →
        m'.state.cwd = ((program.start (supply m) argv).trace (kernel depth) m).foldl Exchange.moved m.state.cwd := by
  obtain ⟨program, hprogram, hpid, hmem⟩ := hstart.effect.process hreply
  refine ⟨⟨program, hprogram, fun depth m hm => ?_⟩, fun depth pid m answer m' hserve => serve_cwd hserve,
    fun depth program argv m code m' hrun => run_cwd hrun⟩
  have hcounted := hthere.counted.tabled hstart.tabled
  have hstays := (hcounted.stays_iff hcourse hmem).2 (hpid ▸ hlog)
  have htake := (hcounted.course hcourse).take_eq_some hstays
  rw [← hm, ← hpid] at htake
  exact reap_some htake

/-- A program that goes to `tmp` and says whether there is such a directory is started in the root, and waited for in
`/tmp`: it finds the directory, where there is none in `/tmp`, and who waited is in `/tmp` as before. -/
theorem Course.directories_relative :
    let program : Program := fun _ _ => Prog.chdir "tmp" >>= fun moved => pure (.ok (if moved.isOk then 0 else 1))
    let s := (((empty (.script [])).create "/tmp" true).2.install "/a" program).2
    let started := ((s.spawn "/a" ["/a"]).map Prod.snd).getD s
    let now := (started.changeDir "/tmp").2
    s.Reachable ∧ s.cwd = "/" ∧ now.cwd = "/tmp" ∧ (now.changeDir "tmp").1.failed = true ∧
      ((kernel 1).serve (.waitpid ⟨0⟩) ⟨{}, {}, now⟩).map (fun x => (x.1, x.2.state.cwd)) =
        some (.granted (.status 0), "/tmp") := by
  intro program s started now
  have hreachable : s.Reachable := ((Reachable.empty _).created "/tmp" true).installed "/a" program
  have hstart : Step ⟨s, []⟩ (.asked (.exec "/a" ["/a"]) ⟨0, .nothing⟩) ⟨started, []⟩ :=
    .of_spawn (spawn_of_fst (by decide +kernel))
  have hcourse : Course ⟨started, []⟩ [.asked (.chdir "/tmp") (.granted .nothing)] ⟨now, []⟩ :=
    .single (.of_changeDir (by decide +kernel))
  obtain ⟨⟨found, hfound, hserve⟩, -, -⟩ := Course.directories hreachable hstart rfl hcourse (by simp)
  obtain rfl : found = program := by
    have himages : s.images = (2, program) :: _ := install_images _ "/a" program rfl rfl
    have hlookup : s.lookup "/a" = some 2 := by decide +kernel
    rw [hlookup, himages] at hfound
    exact (Option.some.inj hfound).symm
  refine ⟨hreachable, by decide +kernel, by decide +kernel, by decide +kernel, ?_⟩
  have hwait := hserve 0 ⟨{}, {}, now⟩ rfl
  exact (congrArg (Option.map _) hwait).trans (by decide +kernel)

end Sim

end LineShell
