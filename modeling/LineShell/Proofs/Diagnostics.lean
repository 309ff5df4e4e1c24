import LineShell.Builtin.Probe
import LineShell.Builtin.Usage
import LineShell.Proofs.Protocol
import LineShell.Proofs.Termination

/-!
# What a failing command says

Where the console takes what is written (`Kernel.Hearing`), a pass that fails ends by saying why. A line is written piece
by piece, each piece by a request of its own: the last that the pass asks for are writes that put the line together
(`Says`).

- `Prog.Tells`: a program ends with a value after it has said something, put together part by part;
- `Shell.Fails`: the ways in which a command fails that say why, with the exit code and the text;
- `Shell.step_said`: each of them is said, and only that. An entry of the table that was registered besides is left to
  speak for itself: of a failure that it ends with, the shell says nothing.
-/

namespace LineShell

variable {σ α β : Type}

/-! ## A console that takes what is written -/

/-- The console of an open machine takes every write, and nothing that is asked of the machine closes it, nor does what an
editor does to the terminal. -/
structure Kernel.Hearing (K : Kernel σ) (Open : Machine σ → Prop) : Prop where
  write : ∀ {m}, Open m → ∀ data, ∃ reply m', K.serve (.write .stdout data 0) m = some (reply, m') ∧ reply.failed = false
  serve : ∀ {r m reply m'}, K.serve r m = some (reply, m') → Open m → Open m'
  heap : ∀ {m}, Open m → ∀ r : HeapRequest, Open { m with heap := (m.heap.serve r).2 }
  terminal : ∀ {m}, Open m → ∀ terminal : Terminal, Open { m with terminal := terminal }

namespace Kernel.Hearing

variable {K : Kernel σ} {Open : Machine σ → Prop} {m m' : Machine σ}

/-- A machine stays open as long as a program runs on it. -/
theorem run (hK : K.Hearing Open) {p : Prog α} {value : α} (h : p.run K m = some (value, m')) (hm : Open m) :
    Open m' := by
  have hkeeps : K.Keeps fun m m' => Open m → Open m' :=
    ⟨fun _ => id, fun hab hbc => hbc ∘ hab, fun _ r hm => hK.heap hm r, hK.serve⟩
  exact hkeeps.run p h hm

/-- Taking a line from the editor leaves a machine open. -/
theorem nextLine (hK : K.Hearing Open) (hm : Open m) (source : LineSource) (supply : Nat) (prompt : String) :
    Open (source.nextLine supply prompt m).2 := by
  cases source with
  | console reader => exact hm
  | editor ed remembered =>
    simp only [LineSource.nextLine]
    cases ed.readLine remembered prompt m.terminal with
    | none => exact hm
    | some taken => exact hK.terminal hm taken.2

end Kernel.Hearing

/-- The kernel in memory hears where its console takes every write. -/
theorem Sim.hearing (depth : Nat) : (kernel depth).Hearing fun m => m.state.room = none where
  write {m} hm data := by
    refine ⟨(writeConsole m data).1, (writeConsole m data).2, serve_writeConsole depth m rfl data 0, ?_⟩
    rw [writeConsole_granted (by simp [hm])]
    rfl
  serve h hm := ((Drains.kept.kernel depth).serve h).worn.none hm
  heap hm _ := hm
  terminal hm _ := hm

/-! ## Saying something -/

/-- Nothing but writes on the console, each of which was granted, and together they write `data`. -/
inductive Shows : Bytes → List Exchange → Prop
  | nothing : Shows [] []
  | write {data more : Bytes} {reply : Reply} {log : List Exchange} : reply.failed = false → Shows more log →
    Shows (data ++ more) (⟨.write .stdout data 0, reply⟩ :: log)

/-- The last that was asked for is to write `text` as a line of the console, and it was done. -/
def Says (text : String) (log : List Exchange) : Prop :=
  ∃ before said, log = before ++ said ∧ Shows (Text.bytes (text ++ "\n")) said

theorem Shows.toSays {text : String} {log : List Exchange} (h : Shows (Text.bytes (text ++ "\n")) log) : Says text log :=
  ⟨[], log, rfl, h⟩

theorem Says.behind {text : String} {log : List Exchange} (h : Says text log) (earlier : List Exchange) :
    Says text (earlier ++ log) := by
  obtain ⟨before, said, rfl, hsaid⟩ := h
  exact ⟨earlier ++ before, said, by rw [List.append_assoc], hsaid⟩

namespace Prog

/-- On this machine, a program ends with `value`, and the last that it asks for is to say `text`. -/
def Tells (K : Kernel σ) (m : Machine σ) (p : Prog α) (value : α) (text : String) : Prop :=
  ∃ m', p.run K m = some (value, m') ∧ Says text (p.trace K m)

variable {K : Kernel σ} {Open : Machine σ → Prop} {m m₁ : Machine σ} {text : String}

/-- What the second part says is said. -/
theorem Tells.after {p : Prog α} {f : α → Prog β} {first : α} {value : β} (hp : p.run K m = some (first, m₁))
    (hf : (f first).Tells K m₁ value text) : (p >>= f).Tells K m value text := by
  obtain ⟨m', hrun, hsays⟩ := hf
  refine ⟨m', ?_, ?_⟩
  · rw [run_seq, hp]
    exact hrun
  · rw [trace_seq hp]
    exact hsays.behind _

/-- What the first part says is said if nothing is asked for after it. -/
theorem Tells.before {p : Prog α} {f : α → Prog β} {first : α} {value : β} (hp : p.Tells K m first text)
    (hf : ∀ m, ∃ m', (f first).run K m = some (value, m')) (hsilent : (f first).Silent) :
    (p >>= f).Tells K m value text := by
  obtain ⟨m₁, hrun, hsays⟩ := hp
  obtain ⟨m', hrest⟩ := hf m₁
  refine ⟨m', ?_, ?_⟩
  · rw [run_seq, hrun]
    exact hrest
  · rw [trace_seq hrun, hsilent.nil (dialogue_trace hrest), List.append_nil]
    exact hsays

/-- One piece is one write, unless it is empty. -/
theorem printText_shows (hK : K.Hearing Open) (hm : Open m) (text : String) {more : Bytes} {log : List Exchange}
    (hmore : Shows more log) : ∃ m', (printText text).run K m = some (.ok (), m') ∧ Open m' ∧
      Shows (Text.bytes text ++ more) ((printText text).trace K m ++ log) := by
  unfold printText print
  split
  · next hempty =>
    rw [List.isEmpty_iff.1 hempty]
    exact ⟨m, rfl, hm, hmore⟩
  · obtain ⟨reply, m', hserve, hok⟩ := hK.write hm (Text.bytes text)
    refine ⟨m', ?_, hK.serve hserve hm, ?_⟩
    · rw [write, act, run_ask, hserve, Option.map_some, understood, hok]
      rfl
    · rw [write, act, ask, trace, hserve]
      exact .write hok hmore

/-- A text in pieces is written piece by piece. -/
theorem printParts_shows (hK : K.Hearing Open) : ∀ (parts : List String) {m : Machine σ}, Open m →
    ∃ m', (printParts parts).run K m = some (.ok (), m') ∧
      Shows (Text.bytes (String.join parts)) ((printParts parts).trace K m)
  | [], m, _ => ⟨m, rfl, .nothing⟩
  | part :: rest, m, hm => by
    obtain ⟨m₁, hrun, hm₁, -⟩ := printText_shows hK hm part .nothing
    obtain ⟨m', hrest, hshows⟩ := printParts_shows hK rest hm₁
    obtain ⟨_, hrun', -, hshows'⟩ := printText_shows hK hm part hshows
    refine ⟨m', ?_, ?_⟩
    · rw [printParts, run_seq, hrun]
      exact hrest
    · rw [printParts, trace_seq hrun, String.join_cons, Text.bytes_append]
      exact hshows'

theorem printParts_tells (hK : K.Hearing Open) (hm : Open m) {parts : List String}
    (hparts : String.join parts = text ++ "\n") : (printParts parts).Tells K m (.ok ()) text := by
  obtain ⟨m', hrun, hshows⟩ := printParts_shows hK parts hm
  exact ⟨m', hrun, (hparts ▸ hshows).toSays⟩

/-- A report is the last that is said. -/
theorem report_tells (hK : K.Hearing Open) (hm : Open m) {parts : List String}
    (hparts : String.join parts = text ++ "\n") (code : ExitCode) : (report parts code).Tells K m (.ok code) text :=
  .before (printParts_tells hK hm hparts) (fun m => ⟨m, rfl⟩) (.pure _)

/-- What a request comes to that was refused. -/
theorem run_ask_failed {r : Request} {f : Reply → Except SysError α} {reply : Reply}
    (hserve : K.serve r m = some (reply, m₁)) (hfailed : reply.failed = true) :
    (ask r f).run K m = some (.error r.operation.failed, m₁) := by
  rw [run_ask, hserve, Option.map_some, understood, if_pos hfailed]

/-- What a request comes to that was granted. -/
theorem run_ask_ok {r : Request} {f : Reply → Except SysError α} {reply : Reply}
    (hserve : K.serve r m = some (reply, m₁)) (hok : reply.failed = false) :
    (ask r f).run K m = some (f reply, m₁) := by
  rw [run_ask, hserve, Option.map_some, understood, hok]
  rfl

end Prog

/-! ## Commands -/

/-- The table answers to a word with the builtin that understands its arguments by `read` and then runs `body`. -/
def Builtins.Offers (table : Builtins) (word : String) (read : List String → Except EarlyExit α)
    (body : α → Prog Outcome) : Prop :=
  ∀ args, table.findSome? (fun find => find word args) = Builtin.factory word read body word args

namespace Builtin

variable {K : Kernel σ} {m m₁ : Machine σ} {reply : Reply}

theorem run_changeDir_refused {target : String} (rest : List String)
    (hserve : K.serve (.chdir target) m = some (reply, m₁)) (hfailed : reply.failed = true) :
    (changeDir (target :: rest)).run K m = some
      (.error (.context ("cd: " ++ target ++ ": no such directory") (.system Operation.chdir.failed)), m₁) := by
  rw [changeDir, Prog.run_seq, Prog.chdir, Prog.act, Prog.run_ask_failed hserve hfailed]
  rfl

theorem run_printDir_refused (hserve : K.serve .currentDir m = some (reply, m₁)) (hfailed : reply.failed = true) :
    printDir.run K m = some
      (.error (.context "pwd: cannot determine the working directory" (.system Operation.currentDir.failed)), m₁) := by
  rw [printDir, Prog.run_seq, Prog.currentDir, Prog.run_ask_failed hserve hfailed]
  rfl

end Builtin

namespace Builtins

variable (reader : ArgumentReader) (registered : Builtins)

theorem offers_cd : Offers (standard reader ++ registered) "cd" reader.cd Builtin.changeDir := by
  intro args
  simp [standard, Builtin.cd, Builtin.factory]

theorem offers_pwd : Offers (standard reader ++ registered) "pwd" reader.pwd fun () => Builtin.printDir := by
  intro args
  simp [standard, Builtin.cd, Builtin.pwd, Builtin.factory]

theorem dispatch_of_find {table : Builtins} {word : String} {args : List String} {command : Prog Outcome}
    (h : table.findSome? (fun find => find word args) = some command) : dispatch table (word :: args) = command := by
  rw [dispatch, h]

end Builtins

namespace Shell

variable {K : Kernel σ} {Open : Machine σ → Prop} {sh : Shell} {reader : ArgumentReader} {m m₁ : Machine σ}
  {word : String} {args : List String}

/-- How the command `word :: args` fails on a machine, where `reader` understands the arguments of the standard builtins:
the exit code that it fails with, and what there is to say. -/
inductive Fails (K : Kernel σ) (sh : Shell) (reader : ArgumentReader) (m : Machine σ) (word : String)
    (args : List String) : ExitCode → String → Prop
  | exec {reply : Reply} {m₁ : Machine σ} : sh.prefixes.admits word = true →
    K.serve (.exec word (word :: args)) m = some (reply, m₁) → reply.failed = true →
      Fails K sh reader m word args .failure (word ++ ": failed to execute")
  | waitpid {reply ended : Reply} {m₁ m₂ : Machine σ} : sh.prefixes.admits word = true →
    K.serve (.exec word (word :: args)) m = some (reply, m₁) → reply.failed = false →
    K.serve (.waitpid ⟨reply.word⟩) m₁ = some (ended, m₂) → ended.failed = true →
      Fails K sh reader m word args .failure (word ++ ": failed to wait for process " ++ toString reply.word.toInt)
  | unknown : sh.prefixes.admits word = false → (∀ find ∈ sh.builtins, find word args = none) →
      Fails K sh reader m word args .notFound (word ++ ": command not found")
  /-- The arguments of a builtin are wrong. -/
  | arguments {α : Type} {read : List String → Except EarlyExit α} {body : α → Prog Outcome} {early : EarlyExit} :
    sh.prefixes.admits word = false → sh.builtins.Offers word read body → read args = .error early →
    early.isError = true →
      Fails K sh reader m word args .failure (Text.trimEnd early.output)
  | chdir {target : String} {rest : List String} {reply : Reply} {m₁ : Machine σ} :
    sh.prefixes.admits word = false → word = "cd" → reader.cd args = .ok (target :: rest) →
    K.serve (.chdir target) m = some (reply, m₁) → reply.failed = true →
      Fails K sh reader m word args .failure ("cd: " ++ target ++ ": no such directory")
  | currentDir {reply : Reply} {m₁ : Machine σ} :
    sh.prefixes.admits word = false → word = "pwd" → reader.pwd args = .ok () →
    K.serve .currentDir m = some (reply, m₁) → reply.failed = true →
      Fails K sh reader m word args .failure "pwd: cannot determine the working directory"
  /-- A builtin ends with a failure, whatever it is. -/
  | body {α : Type} {read : List String → Except EarlyExit α} {body : α → Prog Outcome} {given : α} {failure : Failure}
    {m₁ : Machine σ} :
    sh.prefixes.admits word = false → sh.builtins.Offers word read body → read args = .ok given →
    (body given).run K m = some (.error failure, m₁) →
      Fails K sh reader m word args .failure failure.message

/-- A builtin of the table that is given what it takes runs its body. -/
theorem dispatch_offered {read : List String → Except EarlyExit α} {body : α → Prog Outcome} {given : α}
    (h : sh.prefixes.admits word = false) (hoffers : sh.builtins.Offers word read body)
    (hgiven : read args = .ok given) : sh.dispatch (word :: args) = Builtin.reporting (body given) := by
  refine (dispatch_builtin h).trans (Builtins.dispatch_of_find ((hoffers args).trans ?_))
  rw [Builtin.factory, if_pos rfl, hgiven]

/-- The failure of the body of a builtin is said. -/
theorem reporting_tells (hK : K.Hearing Open) (hm : Open m) {command : Prog Outcome} {failure : Failure}
    (h : command.run K m = some (.error failure, m₁)) :
    (Builtin.reporting command).Tells K m (.ok .failure) failure.message :=
  .after h (Prog.report_tells hK (hK.run h hm) (by simp [Failure.message]) _)

/-- **Each way to fail** is said, and is what the command ends with. -/
theorem Fails.tells (hK : K.Hearing Open) (hm : Open m) {registered : Builtins}
    (hbuiltins : sh.builtins = Builtins.standard reader ++ registered) {code : ExitCode} {text : String}
    (h : sh.Fails K reader m word args code text) : (sh.dispatch (word :: args)).Tells K m (.ok code) text := by
  cases h with
  | exec hadmits hserve hfailed =>
    rw [dispatch_executable hadmits]
    exact .after (Prog.run_ask_failed hserve hfailed)
      (Prog.report_tells hK (hK.serve hserve hm) (by simp [String.append_assoc]) _)
  | waitpid hadmits hserve hok hwait hfailed =>
    rw [dispatch_executable hadmits]
    exact .after (Prog.run_ask_ok hserve hok) (.after (Prog.run_ask_failed hwait hfailed)
      (Prog.report_tells hK (hK.serve hwait (hK.serve hserve hm)) (by simp [String.append_assoc]) _))
  | unknown hadmits hnone =>
    rw [dispatch_builtin hadmits, Builtins.dispatch, List.findSome?_eq_none_iff.2 hnone]
    exact Prog.report_tells hK hm (by simp [String.append_assoc]) _
  | arguments hadmits hoffers hread herror =>
    rw [dispatch_builtin hadmits, Builtins.dispatch, hoffers args, Builtin.factory, if_pos rfl, hread]
    dsimp only
    rw [Builtin.showInstead, if_pos herror]
    exact Prog.report_tells hK hm (by simp) _
  | chdir hadmits hword hgiven hserve hfailed =>
    subst hword
    rw [dispatch_offered hadmits (hbuiltins ▸ Builtins.offers_cd reader registered) hgiven]
    exact reporting_tells hK hm (Builtin.run_changeDir_refused _ hserve hfailed)
  | currentDir hadmits hword hgiven hserve hfailed =>
    subst hword
    rw [dispatch_offered hadmits (hbuiltins ▸ Builtins.offers_pwd reader registered) hgiven]
    exact reporting_tells hK hm (Builtin.run_printDir_refused hserve hfailed)
  | body hadmits hoffers hgiven hbody =>
    rw [dispatch_offered hadmits hoffers hgiven]
    exact reporting_tells hK hm hbody

/-! ## Passes -/

/-- A rejection is said. -/
theorem reject_tells (hK : K.Hearing Open) (hm : Open m) : reject.Tells K m .rejected readFailed :=
  .before (Prog.printParts_tells hK hm (by simp)) (fun m => ⟨m, rfl⟩) (.pure _)

/-- Splitting that ends in a rejection has said so. -/
theorem split_rejected (hK : K.Hearing Open) (hm : Open m) {line : Except ReadError Line}
    (h : (split line).run K m = some (.error .rejected, m₁)) : Says readFailed ((split line).trace K m) := by
  cases line with
  | error e =>
    by_cases he : e = .endOfInput
    · subst he
      cases h
    · have htells : (split (.error e)).Tells K m (.error .rejected) readFailed := by
        cases e
        case endOfInput => exact absurd rfl he
        all_goals exact .before (reject_tells hK hm) (fun m => ⟨m, rfl⟩) (.pure _)
      exact htells.choose_spec.2
  | ok line =>
    obtain ⟨held, m₂, hheld, hrun⟩ := Prog.run_seq_eq_some.1 h
    cases held with
    | error e =>
      have htells : (split (.ok line)).Tells K m (.error .rejected) readFailed :=
        .after hheld (.before (reject_tells hK (hK.run hheld hm)) (fun m => ⟨_, rfl⟩)
          (.seq line.drop_silent fun _ => .pure _))
      exact htells.choose_spec.2
    | ok ws =>
      -- Words that are held are no rejection: there are none, or they are run.
      obtain ⟨_, _, -, hrun⟩ := Prog.run_seq_eq_some.1 hrun
      by_cases hempty : ws.toList.isEmpty
      · simp only [hempty, ↓reduceIte] at hrun
        obtain ⟨_, _, -, hdone⟩ := Prog.run_seq_eq_some.1 hrun
        cases hdone
      · simp only [hempty, Bool.false_eq_true, ↓reduceIte] at hrun
        cases hrun

/-- What performing a line asks for. -/
theorem trace_perform {line : Except ReadError Line} {asked : Except Pass Words}
    (h : (split line).run K m = some (asked, m₁)) :
    (sh.perform line).trace K m = (split line).trace K m ++
      match asked with
      | .error _ => []
      | .ok ws => (sh.carryOut ws).trace K m₁ := by
  rw [perform, Prog.trace_seq h]
  cases asked <;> rfl

/-- What there is to ask for the words of a line is what their command asks for. -/
theorem trace_carryOut {ws : Words} {outcome : Outcome} (h : (sh.dispatch ws.toList).run K m = some (outcome, m₁)) :
    (sh.carryOut ws).trace K m = (sh.dispatch ws.toList).trace K m := by
  obtain ⟨⟨_, m₂⟩, hdrop⟩ := Option.isSome_iff_exists.1 (ws.drop_ends (K := K) m₁)
  rw [carryOut, Prog.trace_seq h, Prog.trace_seq hdrop, ws.drop_silent.nil (Prog.dialogue_trace hdrop)]
  simp

/-- What a pass asks for before it performs its line. -/
def readingTrace (K : Kernel σ) (supply : Nat) (sh : Shell) (m : Machine σ) : List Exchange :=
  let (read, m) := sh.input.nextLine supply sh.prompt m
  read.trace K m

section Step

variable {supply : Nat} {sh' : Shell} {m' : Machine σ} {pass : Pass}

/-- A pass reads a line and performs it, and this is what it asks for. -/
theorem step_trace_cases (h : sh.step K supply m = some ((pass, sh'), m')) :
    ∃ line source m₁, (sh.input.nextLine supply sh.prompt m).1.run K (sh.input.nextLine supply sh.prompt m).2 =
        some ((line, source), m₁) ∧
      (sh.perform line).run K m₁ = some (pass, m') ∧
      sh.trace K supply m = sh.readingTrace K supply m ++ (sh.perform line).trace K m₁ := by
  simp only [step] at h
  obtain ⟨_, hpass, heq⟩ := Option.map_eq_some_iff.1 h
  obtain ⟨⟨line, source⟩, m₁, hread, hpass⟩ := Prog.run_seq_eq_some.1 hpass
  obtain ⟨pass', m₂, hperform, hdone⟩ := Prog.run_seq_eq_some.1 hpass
  cases hdone
  cases heq
  refine ⟨line, source, m₁, hread, hperform, ?_⟩
  simp only [trace, readingTrace, Shell.pass, Prog.trace_seq hread, Prog.trace_seq hperform]
  simp

/-- **A rejected pass** has said so. -/
theorem step_rejected (hK : K.Hearing Open) (hm : Open m) (h : sh.step K supply m = some ((.rejected, sh'), m')) :
    Says readFailed (sh.trace K supply m) := by
  obtain ⟨line, source, m₁, hread, hperform, htrace⟩ := step_trace_cases h
  have hm₁ : Open m₁ := hK.run hread (hK.nextLine hm _ _ _)
  rcases perform_cases hperform with hsplit | ⟨_, _, _, _, -, -, -, ⟨⟩⟩
  rw [htrace, trace_perform hsplit, List.append_nil]
  exact (split_rejected hK hm₁ hsplit).behind _

/-- A pass that runs a command has words for it, read on an open machine. -/
theorem started_open (hK : K.Hearing Open) (hm : Open m) {ws : Words} (h : sh.started K supply m = some (ws, m₁)) :
    Open m₁ := by
  simp only [started] at h
  split at h
  · cases h
  · next line source m₂ hread =>
    split at h
    · next hsplit =>
      cases h
      exact hK.run hsplit (hK.run hread (hK.nextLine hm _ _ _))
    · cases h

/-- What the command asks for is all that a pass asks for once it has its words, and what the command ends with is what
the pass completes with. -/
theorem step_started {ws : Words} (h : sh.started K supply m = some (ws, m₁)) :
    ∃ word args, ws.toList = word :: args ∧
      ∀ {outcome m₂}, (sh.dispatch (word :: args)).run K m₁ = some (outcome, m₂) →
        (∃ sh' m', sh.step K supply m = some ((.completed (exitCode outcome), sh'), m')) ∧
        sh.trace K supply m = sh.readingTrace K supply m ++ (sh.dispatch (word :: args)).trace K m₁ := by
  simp only [started] at h
  split at h
  · cases h
  · next line source m₂ hread =>
    split at h
    · next hsplit =>
      cases h
      obtain ⟨hsilent, word, args, hwords⟩ :
          (split line).trace K m₂ = [] ∧ ∃ word args, ws.toList = word :: args := by
        rcases split_dialogue (Prog.dialogue_trace hsplit) with ⟨⟨⟩, -⟩ | ⟨⟨⟨⟩⟩ | ⟨⟨⟩⟩, -⟩ | ⟨_, _, -, ⟨⟩, hlog, -, hne⟩
        exact ⟨hlog, List.exists_cons_of_ne_nil hne⟩
      refine ⟨word, args, hwords, fun {outcome m₃} hdispatch => ?_⟩
      rw [← hwords] at hdispatch ⊢
      obtain ⟨⟨_, m₄⟩, hdrop⟩ := Option.isSome_iff_exists.1 (ws.drop_ends (K := K) m₃)
      have hstep : sh.step K supply m =
          some ((.completed (exitCode outcome), { sh with input := source }), m₄) := by
        simp only [step, Shell.pass, Prog.run_seq, hread, Option.bind_some, run_perform, hsplit, run_carryOut,
          hdispatch, hdrop]
        rfl
      refine ⟨⟨_, _, hstep⟩, ?_⟩
      obtain ⟨line', source', m₁', hread', -, htrace⟩ := step_trace_cases hstep
      cases hread.symm.trans hread'
      rw [htrace, trace_perform hsplit, hsilent]
      exact congrArg _ (trace_carryOut hdispatch)
    · cases h

/-- **No failing builtin and no failing program is silent.** On a console that takes what is written, a pass that rejects
its line has said so. A command that fails in one of the ways above, whatever its arguments are taken to be, completes
with the code of that way, and the last that the pass asks for is to say why. That leaves the commands that were
registered besides: where one of them ends with a failure, the pass completes with code `1`, but the shell itself adds
nothing to what the command asked for. -/
theorem step_said (hK : K.Hearing Open) (hm : Open m) {registered : Builtins}
    (hbuiltins : sh.builtins = Builtins.standard reader ++ registered) :
    (∀ sh' m', sh.step K supply m = some ((.rejected, sh'), m') → Says readFailed (sh.trace K supply m)) ∧
    ∀ ws m₁, sh.started K supply m = some (ws, m₁) → ∃ word args, ws.toList = word :: args ∧
      (∀ code text, sh.Fails K reader m₁ word args code text →
        (∃ sh' m', sh.step K supply m = some ((.completed code, sh'), m')) ∧ Says text (sh.trace K supply m)) ∧
      (∀ command failure m₂, sh.prefixes.admits word = false →
        (∀ find ∈ Builtins.standard reader, find word args = none) →
        registered.findSome? (fun find => find word args) = some command →
        command.run K m₁ = some (.error failure, m₂) →
          (∃ sh' m', sh.step K supply m = some ((.completed .failure, sh'), m')) ∧
          sh.trace K supply m = sh.readingTrace K supply m ++ command.trace K m₁) := by
  refine ⟨fun sh' m' h => step_rejected hK hm h, fun ws m₁ h => ?_⟩
  have hm₁ := started_open hK hm h
  obtain ⟨word, args, hwords, hpass⟩ := step_started h
  refine ⟨word, args, hwords, fun code text hfails => ?_, fun command failure m₂ hadmits hnone hfound hrun => ?_⟩
  · obtain ⟨m₂, hrun, hsays⟩ := hfails.tells hK hm₁ hbuiltins
    obtain ⟨hstep, htrace⟩ := hpass hrun
    exact ⟨hstep, htrace ▸ hsays.behind _⟩
  · have hdispatch : sh.dispatch (word :: args) = command := by
      refine (dispatch_builtin hadmits).trans (Builtins.dispatch_of_find ?_)
      rw [hbuiltins, List.findSome?_append, List.findSome?_eq_none_iff.2 hnone]
      exact hfound
    rw [hdispatch] at hpass
    exact hpass hrun

/-- With `boom` registered for a command that gives up: a `cd` that fails is reported, and `boom` fails without a word,
since reading its line is all that the pass asks for. -/
theorem step_said_boom :
    let sh : Shell := { prompt := "", builtins := .standard Usage.builtins ++ [Builtin.failing "boom" "kaput"] }
    let typing (line : String) : Machine Sim := { state := .booted (.script [.data (Text.bytes line)]) }
    Says "cd: x: no such directory" (sh.trace (Sim.kernel 1) 1 (typing "cd x\n")) ∧
    (∃ sh' m', sh.step (Sim.kernel 1) 1 (typing "boom\n") = some ((.completed .failure, sh'), m')) ∧
      (sh.trace (Sim.kernel 1) 1 (typing "boom\n")).map Exchange.request = [.read .stdin 64 0] := by
  intro sh typing
  have said (line : String) (hopen : (typing line).state.room = none) :=
    @step_said _ _ _ sh _ _ 1 (Sim.hearing 1) hopen _ rfl
  constructor
  · have hstarted : ((sh.started (Sim.kernel 1) 1 (typing "cd x\n")).bind fun x =>
        ((Sim.kernel 1).serve (.chdir "x") x.2).map fun y => (x.1.toList, y.1.failed)) =
          some (["cd", "x"], true) := by decide +kernel
    obtain ⟨⟨ws, m₁⟩, hws, hchdir⟩ := Option.bind_eq_some_iff.1 hstarted
    obtain ⟨⟨reply, m₂⟩, hserve, heq⟩ := Option.map_eq_some_iff.1 hchdir
    obtain ⟨hlist, hfailed⟩ := Prod.mk.inj heq
    obtain ⟨word, args, hwords, hfails, -⟩ := (said _ (by decide +kernel)).2 ws m₁ hws
    cases hwords.symm.trans hlist
    exact (hfails _ _ (.chdir rfl rfl rfl hserve hfailed)).2
  · have hstarted : (sh.started (Sim.kernel 1) 1 (typing "boom\n")).map (·.1.toList) = some ["boom"] := by
      decide +kernel
    obtain ⟨⟨ws, m₁⟩, hws, hlist⟩ := Option.map_eq_some_iff.1 hstarted
    obtain ⟨word, args, hwords, -, hsilent⟩ := (said _ (by decide +kernel)).2 ws m₁ hws
    cases hwords.symm.trans hlist
    obtain ⟨hstep, htrace⟩ := hsilent _ (.other "kaput") m₁ rfl (by decide) rfl rfl
    refine ⟨hstep, ?_⟩
    rw [htrace, Prog.trace_pure, List.append_nil]
    decide +kernel

end Step

end Shell

end LineShell
