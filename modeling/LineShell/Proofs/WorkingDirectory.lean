import LineShell.Proofs.Diagnostics
import LineShell.Proofs.Sim.Directories

/-!
# The working directory of the shell

Only `cd` changes the working directory: what a program does to its own one is not seen by the shell, which waits for it,
and there is nothing else in a pass that asks for a change.

- `Shell.target?`: the directory that words ask to change to;
- `Shell.dispatch_stays`, `Shell.dispatch_target`: what other commands do to the working directory, and what `cd` does;
- `Session.cwd_history`: after any number of passes, the working directory is the history of the changes that succeeded.
-/

namespace LineShell

variable {α : Type}

/-! ## Requests that change nothing about it -/

/-- The request is not to change the working directory. -/
def Request.Stays (r : Request) : Prop :=
  ∀ path, r ≠ .chdir path

theorem Request.Prints.stays {r : Request} (h : r.Prints) : r.Stays := by
  obtain ⟨data, offset, rfl⟩ := h
  exact fun _ => Request.noConfusion

theorem Request.ReadsInput.stays {r : Request} (h : r.ReadsInput) : r.Stays := by
  obtain ⟨count, offset, rfl⟩ := h
  exact fun _ => Request.noConfusion

theorem Exchange.moved_of_stays {e : Exchange} (h : e.request.Stays) (cwd : String) : e.moved cwd = cwd := by
  obtain ⟨r, reply⟩ := e
  cases r with
  | chdir path => exact absurd rfl (h path)
  | _ => rfl

theorem Exchange.foldl_moved_of_stays {log : List Exchange} (h : ∀ e ∈ log, e.request.Stays) (cwd : String) :
    log.foldl Exchange.moved cwd = cwd := by
  induction log with
  | nil => rfl
  | cons e log ih =>
    obtain ⟨he, hlog⟩ := List.forall_mem_cons.1 h
    rw [List.foldl_cons, moved_of_stays he]
    exact ih hlog

/-- A run that asks for no change leaves the working directory as it is. -/
theorem Sim.run_stays {p : Prog α} {depth : Nat} {m m' : Machine Sim} {value : α}
    (h : ∀ e ∈ p.trace (kernel depth) m, e.request.Stays) (hrun : p.run (kernel depth) m = some (value, m')) :
    m'.state.cwd = m.state.cwd :=
  (run_cwd hrun).trans (Exchange.foldl_moved_of_stays h _)

/-! ## Reading a line -/

namespace LineSource

theorem hold_only {P : Request → Prop} (typed : Except ReadError String) : (hold typed).Only P := by
  cases typed with
  | error e => exact .pure _
  | ok text =>
    refine .seq (.seq (.allocate _) fun granted => ?_) fun copied => ?_
    · cases granted <;> exact .pure _
    · cases copied <;> exact .pure _

/-- Whoever brings the next line asks for no change. -/
theorem nextLine_stays {σ : Type} (supply : Nat) (source : LineSource) (prompt : String) (m : Machine σ) :
    (source.nextLine supply prompt m).1.Only Request.Stays := by
  cases source with
  | console reader =>
    refine .seq (fun log value h e he => ?_) fun _ => .pure _
    obtain ⟨prompting, reading, rfl, hprompting, hreading⟩ := Reader.readLine_dialogue h
    rcases List.mem_append.1 he with hprompt | hread
    · rcases hprompting with rfl | ⟨reply, rfl⟩
      · cases hprompt
      · rw [List.mem_singleton.1 hprompt]
        exact fun _ => Request.noConfusion
    · exact (hreading e hread).stays
  | editor ed remembered =>
    simp only [nextLine]
    cases ed.readLine remembered prompt m.terminal with
    | none => exact .stuck
    | some answer => exact .seq (hold_only _) fun _ => .pure _

theorem nextLine_state {σ : Type} (supply : Nat) (source : LineSource) (prompt : String) (m : Machine σ) :
    (source.nextLine supply prompt m).2.state = m.state := by
  cases source with
  | console reader => rfl
  | editor ed remembered =>
    simp only [nextLine]
    cases ed.readLine remembered prompt m.terminal <;> rfl

end LineSource

/-! ## Commands -/

theorem Builtin.run_changeDir_granted {σ : Type} {K : Kernel σ} {m m₁ : Machine σ} {reply : Reply} {target : String}
    (rest : List String) (hserve : K.serve (.chdir target) m = some (reply, m₁)) (hok : reply.failed = false) :
    (changeDir (target :: rest)).run K m = some (.ok .success, m₁) := by
  rw [changeDir, Prog.run_seq, Prog.chdir, Prog.act, Prog.run_ask_ok hserve hok]
  rfl

/-- A directory that became the working directory was there. -/
theorem Sim.Effect.directory {s s' : Sim} {path : String} {reply : Reply} (h : s.Effect (.chdir path) reply s')
    (hok : reply.failed = false) : ∃ id children, s.lookup path = some id ∧ s.store.children? id = some children := by
  cases h with
  | moved hlookup hchildren => exact ⟨_, _, hlookup, hchildren⟩
  | apart _ _ _ hkind =>
    rcases hkind with hplain | hfailed
    · cases hplain
    · rw [hfailed] at hok
      cases hok

namespace Shell

/-- The directory that words ask to change to: the first operand of `cd`, if it is no path to an executable and `reader`
understands its arguments. -/
def target? (sh : Shell) (reader : ArgumentReader) : List String → Option String
  | [] => none
  | word :: args =>
    if word = "cd" ∧ sh.prefixes.admits word = false then
      match reader.cd args with
      | .error _ => none
      | .ok operands => operands.head?
    else none

section Dispatch

variable {sh : Shell} {reader : ArgumentReader} {word : String} {args : List String} {depth : Nat} {m m' : Machine Sim}
  {outcome : Outcome}

theorem target?_eq_some {target : String} (h : sh.target? reader (word :: args) = some target) :
    word = "cd" ∧ sh.prefixes.admits word = false ∧ ∃ rest, reader.cd args = .ok (target :: rest) := by
  simp only [target?] at h
  split at h
  · next hword =>
    refine ⟨hword.1, hword.2, ?_⟩
    split at h
    · cases h
    · next operands hgiven =>
      obtain ⟨rest, rfl⟩ := List.head?_eq_some_iff.1 h
      exact ⟨rest, hgiven⟩
  · cases h

/-- What there is to ask for words that ask for no change. -/
theorem Dialogue.stays {log : List Exchange} (h : sh.Dialogue reader word args log)
    (htarget : sh.target? reader (word :: args) = none) : ∀ e ∈ log, e.request.Stays := by
  have printing {out : List Exchange} (hout : Printing out) : ∀ e ∈ out, e.request.Stays :=
    fun e he => (hout e he).stays
  unfold Dialogue at h
  split at h
  · cases h with
    | refused _ hout => exact List.forall_mem_cons.2 ⟨fun _ => Request.noConfusion, printing hout⟩
    | awaited _ hout =>
      exact List.forall_mem_cons.2 ⟨fun _ => Request.noConfusion,
        List.forall_mem_cons.2 ⟨fun _ => Request.noConfusion, printing hout⟩⟩
  · next hmatching =>
    cases h with
    | printing hout => exact printing hout
    | chdir hgiven hout =>
      have hadmits : sh.prefixes.admits "cd" = false := by simpa [ExecPrefixes.admits] using hmatching
      simp only [target?, hadmits, hgiven, and_self, if_pos, List.head?_cons] at htarget
      cases htarget
    | currentDir _ hout => exact List.forall_mem_cons.2 ⟨fun _ => Request.noConfusion, printing hout⟩

/-- **Any other command** leaves the working directory as it is. -/
theorem dispatch_stays (hbuiltins : sh.builtins = .standard reader)
    (htarget : sh.target? reader (word :: args) = none)
    (h : (sh.dispatch (word :: args)).run (Sim.kernel depth) m = some (outcome, m')) : m'.state.cwd = m.state.cwd :=
  Sim.run_stays ((dispatch_dialogue hbuiltins (Prog.dialogue_trace h)).stays htarget) h

/-- A failure that is reported is no success, whether it can be printed or not. -/
theorem report_failure {parts : List String}
    (h : (Prog.report parts .failure).run (Sim.kernel depth) m = some (outcome, m')) : exitCode outcome = .failure := by
  obtain ⟨printed, _, -, hend⟩ := Prog.run_seq_eq_some.1 h
  cases printed <;> cases hend <;> rfl

/-- **A `cd`** that has a target succeeds where the target is a directory, and then this is the working directory; else
it fails and changes nothing. -/
theorem dispatch_target (hbuiltins : sh.builtins = .standard reader) {target : String}
    (htarget : sh.target? reader (word :: args) = some target)
    (h : (sh.dispatch (word :: args)).run (Sim.kernel depth) m = some (outcome, m')) :
    (exitCode outcome = .success ∧ m'.state.cwd = Path.absolute m.state.cwd target ∧
      ∃ id children, m.state.lookup target = some id ∧ m.state.store.children? id = some children) ∨
    (exitCode outcome ≠ .success ∧ m'.state.cwd = m.state.cwd) := by
  obtain ⟨rfl, hadmits, rest, hgiven⟩ := target?_eq_some htarget
  have hoffers : sh.builtins.Offers "cd" reader.cd Builtin.changeDir := by
    rw [hbuiltins]
    exact Builtins.offers_cd reader []
  rw [dispatch_offered hadmits hoffers hgiven] at h
  obtain ⟨ended, m₁, hbody, hend⟩ := Prog.run_seq_eq_some.1 h
  have hserve : (Sim.kernel depth).serve (.chdir target) m =
      some ((m.state.changeDir target).1, { m with state := (m.state.changeDir target).2 }) := rfl
  have hcwd := Sim.serve_cwd hserve
  cases hfailed : (m.state.changeDir target).1.failed with
  | true =>
    cases hbody.symm.trans (Builtin.run_changeDir_refused rest hserve hfailed)
    refine .inr ⟨by rw [report_failure hend]; decide, ?_⟩
    have hsaid := Sim.run_stays (fun e he => (Prog.report_only _ _ (Prog.dialogue_trace hend) e he).stays) hend
    rw [hsaid, hcwd, Exchange.moved, hfailed]
    rfl
  | false =>
    cases hbody.symm.trans (Builtin.run_changeDir_granted rest hserve hfailed)
    cases hend
    refine .inl ⟨rfl, ?_, (m.state.changeDir_effect target).directory hfailed⟩
    rw [hcwd, Exchange.moved, hfailed]
    rfl

end Dispatch

/-! ## One pass -/

/-- The directory that a pass changed to, with the words that it got and what it did: the target of a `cd` that completed
with success. -/
def entered? (depth supply : Nat) (sh : Shell) (reader : ArgumentReader) (m : Machine Sim) (pass : Pass) :
    Option String :=
  if pass = .completed .success then
    (sh.started (Sim.kernel depth) supply m).bind fun x => sh.target? reader x.1.toList
  else none

section Step

variable {sh sh' : Shell} {reader : ArgumentReader} {depth supply : Nat} {m m' : Machine Sim} {pass : Pass}

/-- A pass that performs its line, up to the command: it has no words to run, or it starts one in the working directory. -/
theorem step_command (h : sh.step (Sim.kernel depth) supply m = some ((pass, sh'), m')) :
    (pass ≠ .completed .success ∧ m'.state.cwd = m.state.cwd) ∨
    ∃ ws word args m₁ outcome m₂, sh.started (Sim.kernel depth) supply m = some (ws, m₁) ∧ ws.toList = word :: args ∧
      m₁.state.cwd = m.state.cwd ∧ (sh.dispatch (word :: args)).run (Sim.kernel depth) m₁ = some (outcome, m₂) ∧
      pass = .completed (exitCode outcome) ∧ m'.state.cwd = m₂.state.cwd := by
  obtain ⟨line, source, m₀, hread, hperform, -⟩ := step_trace_cases h
  have hline : m₀.state.cwd = m.state.cwd := by
    rw [Sim.run_stays (LineSource.nextLine_stays _ _ _ _ (Prog.dialogue_trace hread)) hread, LineSource.nextLine_state]
  have hwords {asked : Except Pass Words} {m₁ : Machine Sim}
      (hsplit : (split line).run (Sim.kernel depth) m₀ = some (asked, m₁)) : m₁.state.cwd = m.state.cwd := by
    refine (Sim.run_stays ?_ hsplit).trans hline
    rcases split_dialogue (Prog.dialogue_trace hsplit) with ⟨-, hout⟩ | ⟨-, hlog⟩ | ⟨_, _, -, -, hlog, -⟩
    · exact fun e he => (hout e he).stays
    · exact fun e he => absurd (hlog ▸ he) List.not_mem_nil
    · exact fun e he => absurd (hlog ▸ he) List.not_mem_nil
  rcases perform_cases hperform with hsplit | ⟨ws, outcome, m₁, m₂, hsplit, hdispatch, hdrop, hpass⟩
  · refine .inl ⟨?_, hwords hsplit⟩
    rcases split_cases hsplit with ⟨-, ⟨⟩, -⟩ | ⟨-, ⟨⟨⟩⟩ | ⟨⟨⟩⟩ | ⟨_, ⟨⟩⟩⟩ <;> exact Pass.noConfusion
  · have hstarted : sh.started (Sim.kernel depth) supply m = some (ws, m₁) := by
      simp only [started, hread, hsplit]
    obtain ⟨word, args, hlist, -⟩ := step_started hstarted
    have hdropped : m'.state.cwd = m₂.state.cwd :=
      Sim.run_stays (fun e he => (ws.drop_silent (Prog.dialogue_trace hdrop) e he).elim) hdrop
    exact .inr ⟨ws, word, args, m₁, outcome, m₂, hstarted, hlist, hwords hsplit, hlist ▸ hdispatch, hpass, hdropped⟩

/-- **A pass** changes the working directory if it is a `cd` that completed with success, to its target, which was a
directory when the command ran. -/
theorem step_cwd (hbuiltins : sh.builtins = .standard reader)
    (h : sh.step (Sim.kernel depth) supply m = some ((pass, sh'), m')) :
    (∀ target, sh.entered? depth supply reader m pass = some target →
      m'.state.cwd = Path.absolute m.state.cwd target ∧
      ∃ ws m₁ id children, sh.started (Sim.kernel depth) supply m = some (ws, m₁) ∧
        m₁.state.cwd = m.state.cwd ∧ m₁.state.lookup target = some id ∧ m₁.state.store.children? id = some children) ∧
    (sh.entered? depth supply reader m pass = none → m'.state.cwd = m.state.cwd) := by
  rcases step_command h with ⟨hpass, hcwd⟩ | ⟨ws, word, args, m₁, outcome, m₂, hstarted, hlist, hwords, hrun, rfl, hcwd⟩
  · rw [entered?, if_neg hpass]
    exact ⟨nofun, fun _ => hcwd⟩
  · rw [entered?, hstarted, Option.bind_some, hlist]
    cases htarget : sh.target? reader (word :: args) with
    | none =>
      rw [ite_self]
      exact ⟨nofun, fun _ => by rw [hcwd, dispatch_stays hbuiltins htarget hrun, hwords]⟩
    | some target =>
      rcases dispatch_target hbuiltins htarget hrun with ⟨hcode, hmoved, id, children, hlookup, hchildren⟩ | ⟨hcode, hstays⟩
      · rw [hcode, if_pos rfl]
        refine ⟨?_, nofun⟩
        rintro _ ⟨⟩
        exact ⟨by rw [hcwd, hmoved, hwords], ws, m₁, id, children, rfl, hwords, hlookup, hchildren⟩
      · rw [if_neg (by simpa using hcode)]
        exact ⟨nofun, fun _ => by rw [hcwd, hstays, hwords]⟩

end Step

end Shell

/-! ## Sessions -/

/-- One pass of a session. -/
structure Round where
  shell : Shell
  supply : Nat
  before : Machine Sim
  pass : Pass
  after : Machine Sim

namespace Round

/-- The directory that the pass changed to. -/
def entered? (depth : Nat) (reader : ArgumentReader) (r : Round) : Option String :=
  r.shell.entered? depth r.supply reader r.before r.pass

end Round

/-- A shell goes through passes. In between, programs may be installed, and the files, the heap, its limit and the console
may come to be different; the working directory may not. -/
inductive Session (depth : Nat) : Shell → Machine Sim → List Round → Shell → Machine Sim → Prop
  | nil (sh : Shell) (m : Machine Sim) : Session depth sh m [] sh m
  | cons {sh sh₁ sh' : Shell} {m m₁ before m' : Machine Sim} {supply : Nat} {pass : Pass} {rounds : List Round} :
    before.state.cwd = m.state.cwd → sh.step (Sim.kernel depth) supply before = some ((pass, sh₁), m₁) →
      Session depth sh₁ m₁ rounds sh' m' → Session depth sh m (⟨sh, supply, before, pass, m₁⟩ :: rounds) sh' m'

namespace Session

/-- **The working directory of a shell is the history of its successful `cd` commands.** After any session of a shell with
the standard builtins, whatever their arguments are taken to be, and whatever its input, its prefixes, the heap, the
programs and the console are, which may refuse all that is written from any write on, the working directory is the initial
one, changed by the targets of the passes that completed a `cd` with success, in their order. Each of these was an
existing directory when its command ran, in the working directory of that pass. Every other pass leaves the working
directory as it is. -/
theorem cwd_history {depth : Nat} {sh sh' : Shell} {reader : ArgumentReader} {m m' : Machine Sim} {rounds : List Round}
    (h : Session depth sh m rounds sh' m') (hbuiltins : sh.builtins = .standard reader) :
    m'.state.cwd = (rounds.filterMap (Round.entered? depth reader)).foldl Path.absolute m.state.cwd ∧
    ∀ r ∈ rounds,
      (∀ target, r.entered? depth reader = some target →
        r.after.state.cwd = Path.absolute r.before.state.cwd target ∧
        ∃ ws m₁ id children, r.shell.started (Sim.kernel depth) r.supply r.before = some (ws, m₁) ∧
          m₁.state.cwd = r.before.state.cwd ∧ m₁.state.lookup target = some id ∧
          m₁.state.store.children? id = some children) ∧
      (r.entered? depth reader = none → r.after.state.cwd = r.before.state.cwd) := by
  induction h with
  | nil => exact ⟨rfl, fun r hr => absurd hr List.not_mem_nil⟩
  | @cons sh sh₁ _ m m₁ before _ supply pass rounds hbetween hstep _ ih =>
    obtain ⟨input, rfl⟩ := Shell.step_shell hstep
    obtain ⟨hcwd, hrounds⟩ := ih hbuiltins
    have hpass := Shell.step_cwd hbuiltins hstep
    refine ⟨?_, List.forall_mem_cons.2 ⟨hpass, hrounds⟩⟩
    rw [hcwd, List.filterMap_cons]
    cases hentered : Round.entered? depth reader ⟨sh, supply, before, pass, m₁⟩ with
    | none => rw [hpass.2 hentered, hbetween]
    | some target => rw [List.foldl_cons, (hpass.1 target hentered).1, hbetween]

/-- A directory, a program that goes to the root, and a console that takes eight writes: a `cd` to the directory, the
program, and a `cd` that fails, in the middle of whose diagnostic the console begins to refuse. The last two leave the
shell where the first one brought it. -/
theorem cwd_history_wandering :
    let wander : Program := fun _ _ => Prog.chdir "/" >>= fun _ => pure (.ok 0)
    let script : Script := [.data (Text.bytes "cd t\n/w\ncd x\n")]
    let files : Sim := (((Sim.empty (.script script)).create "/t" true).2.install "/w" wander).2
    let m : Machine Sim := { state := { files with room := some 8 } }
    let sh : Shell := { builtins := .standard Usage.builtins }
    ∃ rounds sh' m', Session 1 sh m rounds sh' m' ∧
      rounds.map Round.pass = [.completed 0, .completed 0, .completed 1] ∧
      rounds.map (Round.entered? 1 Usage.builtins) = [some "t", none, none] ∧
      m'.state.room = some 0 ∧ m'.state.cwd = "/t" := by
  intro wander script files m sh
  have hran : ((sh.step (Sim.kernel 1) 8 m).bind fun x => (x.1.2.step (Sim.kernel 1) 8 x.2).bind fun y =>
      (y.1.2.step (Sim.kernel 1) 8 y.2).map fun z => ([x.1.1, y.1.1, z.1.1],
        [sh.entered? 1 8 Usage.builtins m x.1.1, x.1.2.entered? 1 8 Usage.builtins x.2 y.1.1,
          y.1.2.entered? 1 8 Usage.builtins y.2 z.1.1], z.2.state.room)) =
        some ([.completed 0, .completed 0, .completed 1], [some "t", none, none], some 0) := by decide +kernel
  obtain ⟨⟨⟨pass, sh₁⟩, m₁⟩, hfirst, hran⟩ := Option.bind_eq_some_iff.1 hran
  obtain ⟨⟨⟨pass', sh₂⟩, m₂⟩, hsecond, hran⟩ := Option.bind_eq_some_iff.1 hran
  obtain ⟨⟨⟨pass'', sh₃⟩, m₃⟩, hthird, hran⟩ := Option.map_eq_some_iff.1 hran
  obtain ⟨hpasses, hran⟩ := Prod.mk.inj hran
  obtain ⟨hentered, hroom⟩ := Prod.mk.inj hran
  have hsession : Session 1 sh m _ sh₃ m₃ := .cons rfl hfirst (.cons rfl hsecond (.cons rfl hthird (.nil sh₃ m₃)))
  refine ⟨_, sh₃, m₃, hsession, hpasses, hentered, hroom, ?_⟩
  rw [(hsession.cwd_history rfl).1, ← Function.id_comp (Round.entered? 1 Usage.builtins), ← List.filterMap_map]
  refine (congrArg (fun targets => (List.filterMap id targets).foldl Path.absolute _) hentered).trans ?_
  decide +kernel

end Session

end LineShell
