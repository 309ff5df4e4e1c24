import LineShell.Builtin.Usage
import LineShell.Proofs.Dialogue
import LineShell.Proofs.Pass
import LineShell.Sim.Kernel

/-!
# What a pass asks for

A pass writes its prompt, reads standard input, and then does what the words of the line say. The replies are left
open, so these are statements about a shell on any kernel, also on one that answers at random.

- `Reader.readLine_dialogue`: a prompt, then reads of standard input;
- `Builtins.Dialogue`, `Executable.Dialogue`: what there is to ask for a command, on either side of the table of marks;
- `Shell.step_trace`: the requests of a whole pass.
-/

namespace LineShell

variable {σ : Type}

/-- The request reads standard input. -/
def Request.ReadsInput (r : Request) : Prop :=
  ∃ count offset, r = .read .stdin count offset

/-! ## Silent parts -/

theorem Line.drop_silent (line : Line) : line.drop.Silent :=
  .free line.size

namespace Words

theorem dropEach_silent : ∀ list : List String, (dropEach list).Silent
  | [] => .pure ()
  | _ :: rest => .seq (.free _) fun _ => dropEach_silent rest

theorem drop_silent (ws : Words) : ws.drop.Silent :=
  .seq (dropEach_silent ws.toList) fun _ => .free _

theorem holdEach_silent : ∀ held list : List String, (holdEach held list).Silent
  | _, [] => .pure _
  | held, word :: rest => by
    refine .seq (.allocate _) fun granted => ?_
    cases granted with
    | error e => exact .seq (dropEach_silent held) fun _ => .pure _
    | ok _ => exact holdEach_silent (word :: held) rest

theorem hold_silent (list : List String) : (hold list).Silent := by
  refine .seq (.allocate _) fun granted => ?_
  cases granted with
  | error e => exact .pure _
  | ok _ =>
    refine .seq (holdEach_silent [] list) fun held => ?_
    cases held with
    | error e => exact .seq (.free _) fun _ => .pure _
    | ok _ => exact .pure _

/-- The words that are held are those that were to be held. -/
theorem hold_eq {list : List String} {log : List Exchange} {ws : Words} (h : (hold list).Dialogue log (.ok ws)) :
    ws.toList = list := by
  obtain ⟨granted, _, _, -, -, h⟩ := Prog.dialogue_seq.1 h
  cases granted with
  | error e => cases h
  | ok _ =>
    obtain ⟨held, _, _, -, -, h⟩ := Prog.dialogue_seq.1 h
    cases held with
    | error e =>
      obtain ⟨_, _, _, -, -, h⟩ := Prog.dialogue_seq.1 h
      cases h
    | ok _ =>
      cases h
      rfl

end Words

/-! ## Reading a line -/

namespace Draft

variable {P : Request → Prop}

theorem grow_only (d : Draft) : d.grow.Only P := by
  unfold grow
  split
  · refine .seq (.allocate _) fun granted => ?_
    cases granted <;> exact .pure _
  · exact .pure _

theorem extend_only : ∀ (data : Bytes) (d : Draft), (d.extend data).Only P
  | [], _ => .pure _
  | b :: rest, d => by
    rw [extend]
    split
    · exact extend_only rest (d.push b)
    · refine .seq d.grow_only fun grown => ?_
      cases grown with
      | error e => exact .pure _
      | ok d => exact extend_only rest (d.push b)

theorem drop_only (d : Draft) : d.drop.Only P :=
  .free d.size

theorem finish_only (d : Draft) : d.finish.Only P := by
  unfold finish
  split
  · exact .pure _
  · exact .seq d.drop_only fun _ => .pure _

end Draft

namespace Reader

theorem fetch_only (r : Reader) : r.fetch.Only Request.ReadsInput := by
  refine .seq (.ask ⟨_, _, rfl⟩ _) fun read => ?_
  cases read <;> exact .pure _

theorem passOver_only (r : Reader) : r.passOver.Only Request.ReadsInput := by
  unfold passOver
  split
  · exact .pure _
  · refine .seq (fetch_only _) fun fetched => ?_
    obtain ⟨_ | _ | _, _⟩ := fetched <;> exact .pure _

theorem skip_only (supply : Nat) (r : Reader) : (r.skip supply).Only Request.ReadsInput := by
  induction supply generalizing r with
  | zero =>
    rw [skip.eq_def]
    split
    · exact .pure _
    · refine .seq r.passOver_only fun passed => ?_
      obtain ⟨_ | _, _⟩ := passed
      · exact .stuck
      · exact .pure _
  | succ supply ih =>
    rw [skip.eq_def]
    split
    · exact .pure _
    · refine .seq r.passOver_only fun passed => ?_
      obtain ⟨_ | _, r'⟩ := passed
      · exact ih r'
      · exact .pure _

theorem refill_only (r : Reader) (d : Draft) : (r.refill d).Only Request.ReadsInput := by
  refine .seq r.fetch_only fun fetched => ?_
  obtain ⟨_ | _ | _, _⟩ := fetched
  · exact .seq d.drop_only fun _ => .pure _
  · dsimp only
    split
    · exact .seq d.drop_only fun _ => .pure _
    · exact .seq d.finish_only fun _ => .pure _
  · exact .pure _

theorem advance_only (r : Reader) (d : Draft) : (r.advance d).Only Request.ReadsInput := by
  refine .seq (d.extend_only _) fun extended => ?_
  obtain ⟨d', _ | rest⟩ := extended
  · dsimp only
    split
    · exact .seq d'.finish_only fun _ => .pure _
    · exact refill_only _ d'
  · exact .seq d'.drop_only fun _ => .pure _

theorem fill_only (supply : Nat) (r : Reader) (d : Draft) : (r.fill supply d).Only Request.ReadsInput := by
  induction supply generalizing r d with
  | zero =>
    rw [fill.eq_def]
    refine .seq (r.advance_only d) fun progress => ?_
    cases progress
    · exact .pure _
    · exact .stuck
  | succ supply ih =>
    rw [fill.eq_def]
    refine .seq (r.advance_only d) fun progress => ?_
    cases progress with
    | ended result r' => exact .pure _
    | more d' r' => exact ih r' d'

/-- What there is to ask before a pass has its line: the prompt is written, unless it is empty, and then standard input
is read. -/
def Dialogue (prompt : String) (log : List Exchange) : Prop :=
  ∃ prompting reading, log = prompting ++ reading ∧
    (prompting = [] ∨ ∃ reply, prompting = [⟨.write .stdout (Text.bytes prompt) 0, reply⟩]) ∧
    ∀ e ∈ reading, e.request.ReadsInput

theorem readLine_dialogue {supply : Nat} {r : Reader} {prompt : String} {log : List Exchange}
    {read : Except ReadError Line × Reader} (h : (r.readLine supply prompt).Dialogue log read) :
    Dialogue prompt log := by
  obtain ⟨printed, prompting, reading, rfl, hprompt, hreading⟩ := Prog.dialogue_seq.1 h
  refine ⟨prompting, reading, rfl, ?_, ?_⟩
  · unfold Prog.printText Prog.print at hprompt
    split at hprompt
    · exact .inl (Prog.dialogue_done.1 hprompt).1
    · obtain ⟨reply, rfl, -⟩ := Prog.dialogue_ask.1 hprompt
      exact .inr ⟨reply, rfl⟩
  · cases printed with
    | error e =>
      obtain ⟨rfl, -⟩ := Prog.dialogue_pure.1 hreading
      nofun
    | ok _ =>
      refine Prog.Only.seq (r.skip_only supply) (fun skipped => ?_) hreading
      obtain ⟨_ | _, r'⟩ := skipped
      · exact .pure _
      · refine .seq (.allocate _) fun granted => ?_
        cases granted with
        | error e => exact .pure _
        | ok _ => exact fill_only supply r' {}

end Reader

/-! ## Commands -/

/-- Nothing is asked for but writes on standard output. -/
def Printing (log : List Exchange) : Prop :=
  ∀ e ∈ log, e.request.Prints

theorem Printing.append {log log' : List Exchange} (h : Printing log) (h' : Printing log') : Printing (log ++ log') :=
  fun e he => (List.mem_append.1 he).elim (h e) (h' e)

namespace Builtins

variable {α : Type} {reader : ArgumentReader} {log : List Exchange} {outcome : Outcome}

/-- What there is to ask for a command that is no path: besides printing, `cd` changes to the directory that its first
operand names, and `pwd` asks for the working directory. -/
inductive Dialogue (reader : ArgumentReader) : List String → List Exchange → Prop
  | printing {argv : List String} {out : List Exchange} : Printing out → Dialogue reader argv out
  | chdir {args rest : List String} {target : String} {reply : Reply} {out : List Exchange} :
    reader.cd args = .ok (target :: rest) → Printing out →
      Dialogue reader ("cd" :: args) (⟨.chdir target, reply⟩ :: out)
  | currentDir {args : List String} {reply : Reply} {out : List Exchange} : reader.pwd args = .ok () → Printing out →
      Dialogue reader ("pwd" :: args) (⟨.currentDir, reply⟩ :: out)

/-- A command of the table of builtins prints and asks for what its body asks for, which it runs on the arguments that
were understood. -/
theorem factory_dialogue {name word : String} {read : List String → Except EarlyExit α} {body : α → Prog Outcome}
    {args : List String} {command : Prog Outcome} (hcommand : Builtin.factory name read body word args = some command)
    (h : command.Dialogue log outcome) :
    word = name ∧ (Printing log ∨ ∃ given ended before out, read args = .ok given ∧ log = before ++ out ∧
      (body given).Dialogue before ended ∧ Printing out) := by
  unfold Builtin.factory at hcommand
  split at hcommand
  · next hword =>
    refine ⟨hword, ?_⟩
    cases hcommand
    split at h
    · exact .inl (Prog.report_only _ _ h)
    · next given hgiven =>
      obtain ⟨ended, before, out, rfl, hbody, hout⟩ := Prog.dialogue_seq.1 h
      refine .inr ⟨given, ended, before, out, hgiven, rfl, hbody, ?_⟩
      cases ended with
      | ok code =>
        obtain ⟨rfl, -⟩ := Prog.dialogue_pure.1 hout
        nofun
      | error failure => exact Prog.report_only _ _ hout
  · cases hcommand

theorem cd_dialogue {word : String} {args : List String} {command : Prog Outcome}
    (hcommand : Builtin.cd reader word args = some command) (h : command.Dialogue log outcome) :
    Dialogue reader (word :: args) log := by
  obtain ⟨rfl, hout | ⟨given, ended, before, out, hgiven, rfl, hbody, hout⟩⟩ := factory_dialogue hcommand h
  · exact .printing hout
  · unfold Builtin.changeDir at hbody
    split at hbody
    · obtain ⟨rfl, -⟩ := Prog.dialogue_pure.1 hbody
      exact .printing hout
    · next target rest =>
      obtain ⟨changed, _, _, rfl, hchdir, hend⟩ := Prog.dialogue_seq.1 hbody
      obtain ⟨reply, rfl, -⟩ := Prog.dialogue_ask.1 hchdir
      cases changed <;>
      · obtain ⟨rfl, -⟩ := Prog.dialogue_pure.1 hend
        exact .chdir hgiven hout

theorem pwd_dialogue {word : String} {args : List String} {command : Prog Outcome}
    (hcommand : Builtin.pwd reader word args = some command) (h : command.Dialogue log outcome) :
    Dialogue reader (word :: args) log := by
  obtain ⟨rfl, hout | ⟨given, ended, before, out, hgiven, rfl, hbody, hout⟩⟩ := factory_dialogue hcommand h
  · exact .printing hout
  · obtain ⟨found, _, printed, rfl, hask, hend⟩ := Prog.dialogue_seq.1 hbody
    obtain ⟨reply, rfl, -⟩ := Prog.dialogue_ask.1 hask
    have hprinted : Printing printed := by
      cases found with
      | ok dir => exact Prog.report_only _ _ hend
      | error e =>
        obtain ⟨rfl, -⟩ := Prog.dialogue_pure.1 hend
        nofun
    exact .currentDir hgiven (hprinted.append hout)

theorem dispatch_dialogue {argv : List String} (h : (dispatch (standard reader) argv).Dialogue log outcome) :
    Dialogue reader argv log := by
  cases argv with
  | nil =>
    obtain ⟨rfl, -⟩ := Prog.dialogue_pure.1 h
    exact .printing nofun
  | cons word args =>
    rw [dispatch] at h
    cases hfound : (standard reader).findSome? (fun find => find word args) with
    | none =>
      rw [hfound] at h
      exact .printing (Prog.report_only _ _ h)
    | some command =>
      rw [hfound] at h
      obtain ⟨find, hmem, hcommand⟩ := List.exists_of_findSome?_eq_some hfound
      simp only [standard, List.mem_cons, List.not_mem_nil, or_false] at hmem
      rcases hmem with rfl | rfl
      · exact cd_dialogue hcommand h
      · exact pwd_dialogue hcommand h

end Builtins

namespace Executable

/-- What there is to ask for a command that is a path: it is started with all of its words, and waited for once, under
the identifier that was answered, if it started. -/
inductive Dialogue (path : String) (argv : List String) : List Exchange → Prop
  | refused {reply : Reply} {out : List Exchange} : reply.failed = true → Printing out →
      Dialogue path argv (⟨.exec path argv, reply⟩ :: out)
  | awaited {reply ended : Reply} {out : List Exchange} : reply.failed = false → Printing out →
      Dialogue path argv (⟨.exec path argv, reply⟩ :: ⟨.waitpid ⟨reply.word⟩, ended⟩ :: out)

theorem run_dialogue {path : String} {args : List String} {log : List Exchange} {outcome : Outcome}
    (h : (run (path :: args)).Dialogue log outcome) : Dialogue path (path :: args) log := by
  obtain ⟨started, _, rest, rfl, hexec, hrest⟩ := Prog.dialogue_seq.1 h
  obtain ⟨reply, rfl, rfl⟩ := Prog.dialogue_ask.1 hexec
  cases hreply : reply.failed with
  | true =>
    simp only [Prog.understood, hreply, ↓reduceIte] at hrest
    exact .refused hreply (Prog.report_only _ _ hrest)
  | false =>
    simp only [Prog.understood, hreply, Bool.false_eq_true, ↓reduceIte] at hrest
    obtain ⟨waited, _, out, rfl, hwait, hout⟩ := Prog.dialogue_seq.1 hrest
    obtain ⟨ended, rfl, -⟩ := Prog.dialogue_ask.1 hwait
    refine .awaited hreply ?_
    cases waited <;> exact Prog.report_only _ _ hout

end Executable

/-! ## Passes -/

namespace Shell

/-- What there is to ask for the words of a line. -/
def Dialogue (sh : Shell) (reader : ArgumentReader) (word : String) (args : List String) (log : List Exchange) : Prop :=
  if (sh.prefixes.matching word).isSome then Executable.Dialogue word (word :: args) log
  else Builtins.Dialogue reader (word :: args) log

theorem reject_dialogue {log : List Exchange} {pass : Pass} (h : reject.Dialogue log pass) :
    pass = .rejected ∧ Printing log := by
  obtain ⟨_, out, _, rfl, hout, hend⟩ := Prog.dialogue_seq.1 h
  obtain ⟨rfl, rfl⟩ := Prog.dialogue_pure.1 hend
  refine ⟨rfl, ?_⟩
  rw [List.append_nil]
  exact Prog.printParts_only _ hout

/-- A line without words to run is rejected in print, and tidied away. -/
theorem reject_then_dialogue {tidy : Prog Unit} (htidy : tidy.Silent) {log : List Exchange}
    {asked : Except Pass Words}
    (h : (do let pass ← reject; tidy; return .error pass : Prog (Except Pass Words)).Dialogue log asked) :
    asked = .error .rejected ∧ Printing log := by
  obtain ⟨pass, out, _, rfl, hout, hrest⟩ := Prog.dialogue_seq.1 h
  obtain ⟨_, _, _, rfl, hsilent, hend⟩ := Prog.dialogue_seq.1 hrest
  obtain ⟨rfl, hprinting⟩ := reject_dialogue hout
  obtain rfl := htidy.nil hsilent
  obtain ⟨rfl, rfl⟩ := Prog.dialogue_pure.1 hend
  exact ⟨rfl, by simpa using hprinting⟩

/-- What there is to ask before a pass has its words, and which words it gets. -/
theorem split_dialogue {line : Except ReadError Line} {log : List Exchange} {asked : Except Pass Words}
    (h : (split line).Dialogue log asked) :
    (asked = .error .rejected ∧ Printing log) ∨
    ((asked = .error .endOfInput ∨ asked = .error .empty) ∧ log = []) ∨
    ∃ held ws, line = .ok held ∧ asked = .ok ws ∧ log = [] ∧ ws.toList = words held.text ∧ ws.toList ≠ [] := by
  cases line with
  | error e =>
    cases e
    case endOfInput =>
      obtain ⟨rfl, rfl⟩ := Prog.dialogue_pure.1 h
      exact .inr (.inl ⟨.inl rfl, rfl⟩)
    all_goals exact .inl (reject_then_dialogue (Prog.Only.pure ()) h)
  | ok line =>
    obtain ⟨held, _, rest, rfl, hhold, hrest⟩ := Prog.dialogue_seq.1 h
    obtain rfl := (Words.hold_silent _).nil hhold
    cases held with
    | error e => exact .inl (reject_then_dialogue line.drop_silent hrest)
    | ok ws =>
      obtain ⟨_, _, _, rfl, hdrop, hend⟩ := Prog.dialogue_seq.1 hrest
      obtain rfl := line.drop_silent.nil hdrop
      refine .inr ?_
      by_cases hempty : ws.toList.isEmpty
      · simp only [hempty, ↓reduceIte] at hend
        obtain ⟨_, _, _, rfl, hgone, hdone⟩ := Prog.dialogue_seq.1 hend
        obtain rfl := ws.drop_silent.nil hgone
        obtain ⟨rfl, rfl⟩ := Prog.dialogue_pure.1 hdone
        exact .inl ⟨.inr rfl, rfl⟩
      · simp only [hempty, Bool.false_eq_true, ↓reduceIte] at hend
        obtain ⟨rfl, rfl⟩ := Prog.dialogue_pure.1 hend
        exact .inr ⟨line, ws, rfl, rfl, rfl, Words.hold_eq hhold, by simpa using hempty⟩

theorem dispatch_dialogue {sh : Shell} {reader : ArgumentReader} (hbuiltins : sh.builtins = .standard reader)
    {word : String} {args : List String} {log : List Exchange} {outcome : Outcome}
    (h : (sh.dispatch (word :: args)).Dialogue log outcome) : sh.Dialogue reader word args log := by
  unfold dispatch at h
  rw [List.headD_cons] at h
  unfold Dialogue
  split at h
  · next hmatching =>
    rw [hmatching, Option.isSome_some, if_pos rfl]
    exact Executable.run_dialogue h
  · next hmatching =>
    rw [hbuiltins] at h
    rw [hmatching, Option.isSome_none, if_neg Bool.false_ne_true]
    exact Builtins.dispatch_dialogue h

/-- What there is to ask once a pass has a line, by the way the pass goes. -/
def Answering (sh : Shell) (reader : ArgumentReader) (line : Except ReadError Line) (log : List Exchange) : Pass → Prop
  | .empty | .endOfInput => log = []
  | .rejected => Printing log
  | .completed _ => ∃ held word args, line = .ok held ∧ words held.text = word :: args ∧
    sh.Dialogue reader word args log

theorem perform_dialogue {sh : Shell} {reader : ArgumentReader} (hbuiltins : sh.builtins = .standard reader)
    {line : Except ReadError Line} {log : List Exchange} {pass : Pass} (h : (sh.perform line).Dialogue log pass) :
    sh.Answering reader line log pass := by
  obtain ⟨asked, before, after, rfl, hsplit, hrest⟩ := Prog.dialogue_seq.1 h
  rcases split_dialogue hsplit with ⟨rfl, hprinting⟩ | ⟨hasked, rfl⟩ | ⟨held, ws, rfl, rfl, rfl, hwords, hne⟩
  · obtain ⟨rfl, rfl⟩ := Prog.dialogue_pure.1 hrest
    simpa [Answering] using hprinting
  · rcases hasked with rfl | rfl <;>
    · obtain ⟨rfl, rfl⟩ := Prog.dialogue_pure.1 hrest
      rfl
  · obtain ⟨outcome, asks, _, rfl, hdispatch, hdrop⟩ := Prog.dialogue_seq.1 hrest
    obtain ⟨_, _, _, rfl, hsilent, hend⟩ := Prog.dialogue_seq.1 hdrop
    obtain rfl := ws.drop_silent.nil hsilent
    obtain ⟨rfl, rfl⟩ := Prog.dialogue_pure.1 hend
    obtain ⟨word, args, hlist⟩ := List.exists_cons_of_ne_nil hne
    rw [hlist] at hdispatch hwords
    refine ⟨held, word, args, rfl, hwords.symm, ?_⟩
    simpa using dispatch_dialogue hbuiltins hdispatch

/-- The requests of one pass on a kernel, with the replies to them. -/
def trace (K : Kernel σ) (supply : Nat) (sh : Shell) (m : Machine σ) : List Exchange :=
  let (read, m) := sh.input.nextLine supply sh.prompt m
  (sh.pass read).trace K m

/-- **The requests of a pass** on any kernel: the prompt is written, then standard input is read for a line, and then there
is nothing to ask at the end of the input and for a line without words; a rejected line is said to be so on standard
output; and the first word of every other line tells whether there is a program to start and to wait for, under the
identifier that starting it was answered with, or a builtin to run, whatever its arguments are taken to be. -/
theorem step_trace {K : Kernel σ} {supply : Nat} {sh sh' : Shell} {r : Reader} {reader : ArgumentReader}
    {m m' : Machine σ} {pass : Pass} (hsource : sh.input = .console r) (hbuiltins : sh.builtins = .standard reader)
    (h : sh.step K supply m = some ((pass, sh'), m')) :
    ∃ reading answering line r' m₁, sh.trace K supply m = reading ++ answering ∧
      (r.readLine supply sh.prompt).run K m = some ((line, r'), m₁) ∧ Reader.Dialogue sh.prompt reading ∧
      sh.Answering reader line answering pass := by
  obtain ⟨line, r', m₁, hread, -, hperform, -⟩ := step_cases hsource h
  refine ⟨(r.readLine supply sh.prompt).trace K m, (sh.perform line).trace K m₁, line, r', m₁, ?_, hread,
    Reader.readLine_dialogue (Prog.dialogue_trace hread), perform_dialogue hbuiltins (Prog.dialogue_trace hperform)⟩
  have hnext : (sh.input.nextLine supply sh.prompt m).1.run K m = some ((line, .console r'), m₁) := by
    rw [nextLine_console hsource, Prog.run_seq, hread]
    rfl
  rw [nextLine_console hsource] at hnext
  simp only [trace, nextLine_console hsource, Shell.pass, Prog.trace_seq hnext, Prog.trace_seq hread,
    Prog.trace_seq hperform]
  simp

/-- A program on a booted kernel: the prompt, one batch of input, the start, the wait and the report, piece by piece. -/
theorem step_trace_echo :
    let m : Machine Sim := { state := .booted (.script [.data (Text.bytes "/echo hi\n")]) }
    let sh : Shell := { builtins := .standard Usage.builtins }
    (sh.trace (Sim.kernel 1) 2 m).map Exchange.request =
      [.write .stdout (Text.bytes "$ ") 0, .read .stdin 64 0, .exec "/echo" ["/echo", "hi"], .waitpid ⟨0⟩,
        .write .stdout (Text.bytes "/echo") 0, .write .stdout (Text.bytes " exited with code ") 0,
        .write .stdout (Text.bytes "0") 0, .write .stdout (Text.bytes "\n") 0] ∧
    ∃ reading answering line, sh.trace (Sim.kernel 1) 2 m = reading ++ answering ∧
      Reader.Dialogue sh.prompt reading ∧ sh.Answering Usage.builtins line answering (.completed .success) := by
  intro m sh
  refine ⟨by decide +kernel, ?_⟩
  have hran : (sh.step (Sim.kernel 1) 2 m).map (fun x => x.1.1) = some (.completed .success) := by decide +kernel
  obtain ⟨⟨⟨pass, sh'⟩, m'⟩, hstep, rfl⟩ := Option.map_eq_some_iff.1 hran
  obtain ⟨reading, answering, line, -, -, htrace, -, hreading, hanswering⟩ := step_trace rfl rfl hstep
  exact ⟨reading, answering, line, htrace, hreading, hanswering⟩

end Shell

end LineShell
