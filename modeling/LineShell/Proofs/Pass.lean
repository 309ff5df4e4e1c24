import LineShell.Proofs.Run
import LineShell.Shell

/-!
# One pass

A pass reads a line, splits it into words, and runs the command they name. All but the command always comes to an end
(`split_ends`, `Words.drop_ends`), so a pass whose line can be read ends exactly if its command does
(`Shell.step_isSome`).

- `Builtins.standard_ends`: every builtin comes to an end, where the kernel answers;
- `Shell.perform_cases`: performing a line ends without words, or completes with what their command ended with;
- `Shell.step_console`: a pass reads a line and performs it;
- `Shell.step_cases`: it meets the end of the input, or performs something else;
- `Shell.started`: the words of the command that a pass runs, and the machine on which it runs it.
-/

namespace LineShell

variable {σ : Type} {K : Kernel σ}

/-! ## Lines and words -/

theorem Line.drop_ends (line : Line) : line.drop.Ends K :=
  .free line.size

namespace Words

theorem dropEach_ends : ∀ list : List String, (dropEach list).Ends K
  | [] => .pure ()
  | _ :: rest => .seq (.free _) fun _ => dropEach_ends rest

theorem drop_ends (ws : Words) : ws.drop.Ends K :=
  .seq (dropEach_ends ws.toList) fun _ => .free _

theorem holdEach_ends : ∀ held list : List String, (holdEach held list).Ends K
  | _, [] => .pure _
  | held, word :: rest => by
    refine .seq (.allocate _) fun granted => ?_
    cases granted with
    | error e => exact .seq (dropEach_ends held) fun _ => .pure _
    | ok _ => exact holdEach_ends (word :: held) rest

theorem ofLine_ends (line : String) : (ofLine line).Ends K := by
  refine .seq (.allocate _) fun granted => ?_
  cases granted with
  | error e => exact .pure _
  | ok _ =>
    refine .seq (holdEach_ends [] (words line)) fun held => ?_
    cases held with
    | error e => exact .seq (.free _) fun _ => .pure _
    | ok _ => exact .pure _

end Words

/-! ## Builtins -/

theorem Prog.orFail_ends {α : Type} {p : Prog (Except SysError α)} {next : α → Prog Outcome} (hp : p.Ends K)
    (hnext : ∀ value, (next value).Ends K) : (p.orFail next).Ends K := by
  refine .seq hp fun result => ?_
  cases result with
  | error e => exact .pure _
  | ok value => exact hnext value

theorem Prog.report_ends (hK : K.Prints) (parts : List String) (code : ExitCode) : (Prog.report parts code).Ends K :=
  Prog.orFail_ends (.printParts hK _) fun _ => .pure _

/-- A command of a table of builtins that end, ends. -/
theorem Builtins.dispatch_ends (hK : K.Prints) {table : Builtins}
    (h : ∀ find ∈ table, ∀ name args command, find name args = some command → command.Ends K) (argv : List String) :
    (table.dispatch argv).Ends K := by
  cases argv with
  | nil => exact .pure _
  | cons name args =>
    simp only [Builtins.dispatch]
    cases hfound : table.findSome? (fun find => find name args) with
    | none => exact Prog.report_ends hK _ _
    | some command =>
      obtain ⟨find, hmem, hcommand⟩ := List.exists_of_findSome?_eq_some hfound
      exact h find hmem name args command hcommand

theorem Builtin.factory_ends {α : Type} (hK : K.Prints) {name : String} {read : List String → Except EarlyExit α}
    {body : α → Prog Outcome} (hbody : ∀ given, (body given).Ends K) {word : String} {args : List String}
    {command : Prog Outcome} (h : factory name read body word args = some command) : command.Ends K := by
  unfold factory at h
  split at h
  · cases h
    split
    · exact Prog.report_ends hK _ _
    · refine .seq (hbody _) fun outcome => ?_
      cases outcome with
      | ok code => exact .pure _
      | error failure => exact Prog.report_ends hK _ _
  · cases h

/-- The builtins of every shell end, where the kernel answers. -/
theorem Builtins.standard_ends (hK : K.Prints) (hchdir : ∀ path m, (K.serve (.chdir path) m).isSome)
    (hdir : ∀ m, (K.serve .currentDir m).isSome) (reader : ArgumentReader) (argv : List String) :
    (dispatch (standard reader) argv).Ends K := by
  refine dispatch_ends hK (fun find hmem name args command h => ?_) argv
  simp only [standard, List.mem_cons, List.not_mem_nil, or_false] at hmem
  rcases hmem with rfl | rfl
  · refine Builtin.factory_ends hK (fun given => ?_) h
    unfold Builtin.changeDir
    split
    · exact .pure _
    · refine .seq (.ask (hchdir _) _) fun result => ?_
      cases result <;> exact .pure _
  · refine Builtin.factory_ends hK (fun given => .seq (.ask hdir _) fun result => ?_) h
    cases result with
    | error e => exact .pure _
    | ok dir => exact Prog.report_ends hK _ _

namespace Shell

/-! ## Splitting -/

theorem reject_ends (hK : K.Prints) : reject.Ends K :=
  .seq (.printParts hK _) fun _ => .pure _

/-- Splitting comes to an end, whatever there is to split. -/
theorem split_ends (hK : K.Prints) (line : Except ReadError Line) : (split line).Ends K := by
  cases line with
  | error e =>
    cases e
    case endOfInput => exact .pure _
    all_goals exact .seq (reject_ends hK) fun _ => .pure _
  | ok line =>
    refine .seq (Words.ofLine_ends line.text) fun held => ?_
    cases held with
    | error e => exact .seq (reject_ends hK) fun _ => .seq line.drop_ends fun _ => .pure _
    | ok ws =>
      refine .seq line.drop_ends fun _ => ?_
      by_cases hempty : ws.toList.isEmpty
      · simp only [hempty, ↓reduceIte]
        exact .seq ws.drop_ends fun _ => .pure _
      · simp only [hempty, Bool.false_eq_true, ↓reduceIte]
        exact .pure _

theorem reject_eq {m m' : Machine σ} {pass : Pass} (h : reject.run K m = some (pass, m')) : pass = .rejected := by
  obtain ⟨_, _, -, hdone⟩ := Prog.run_seq_eq_some.1 h
  cases hdone
  rfl

/-- Without a line there is nothing to split. -/
theorem split_error {e : ReadError} (he : e ≠ .endOfInput) (m : Machine σ) :
    (split (.error e)).run K m = (reject.run K m).map fun x => (.error x.1, x.2) := by
  cases e
  case endOfInput => exact absurd rfl he
  all_goals
    rw [split, Prog.run_seq]
    · cases reject.run K m <;> rfl
    · simp

/-- What splitting comes to: the end of the input is met as such, and every other line is rejected, has no words, or has
some. -/
theorem split_cases {line : Except ReadError Line} {m m' : Machine σ} {asked : Except Pass Words}
    (h : (split line).run K m = some (asked, m')) :
    (line = .error .endOfInput ∧ asked = .error .endOfInput ∧ m' = m) ∨
    (line ≠ .error .endOfInput ∧ (asked = .error .rejected ∨ asked = .error .empty ∨ ∃ ws, asked = .ok ws)) := by
  cases line with
  | error e =>
    by_cases he : e = .endOfInput
    · subst he
      cases h
      exact .inl ⟨rfl, rfl, rfl⟩
    · rw [split_error he] at h
      obtain ⟨_, hreject, heq⟩ := Option.map_eq_some_iff.1 h
      cases heq
      exact .inr ⟨by simpa using he, .inl (by rw [reject_eq hreject])⟩
  | ok line =>
    refine .inr ⟨by simp, ?_⟩
    obtain ⟨held, m₁, -, h⟩ := Prog.run_seq_eq_some.1 h
    cases held with
    | error e =>
      obtain ⟨_, _, hreject, h⟩ := Prog.run_seq_eq_some.1 h
      obtain ⟨_, _, -, hdone⟩ := Prog.run_seq_eq_some.1 h
      cases hdone
      exact .inl (by rw [reject_eq hreject])
    | ok ws =>
      obtain ⟨_, _, -, h⟩ := Prog.run_seq_eq_some.1 h
      by_cases hempty : ws.toList.isEmpty
      · simp only [hempty, ↓reduceIte] at h
        obtain ⟨_, _, -, hdone⟩ := Prog.run_seq_eq_some.1 h
        cases hdone
        exact .inr (.inl rfl)
      · simp only [hempty, Bool.false_eq_true, ↓reduceIte] at h
        cases h
        exact .inr (.inr ⟨ws, rfl⟩)

/-! ## Performing a line -/

section Dispatch

variable {sh : Shell} {word : String} {args : List String}

/-- A word that begins like a path names an executable. -/
theorem dispatch_executable (h : sh.prefixes.admits word = true) :
    sh.dispatch (word :: args) = Executable.run (word :: args) := by
  obtain ⟨start, hstart⟩ := Option.isSome_iff_exists.1 h
  rw [dispatch, List.headD_cons, hstart]

/-- Every other word is looked up in the table. -/
theorem dispatch_builtin (h : sh.prefixes.admits word = false) :
    sh.dispatch (word :: args) = sh.builtins.dispatch (word :: args) := by
  rw [ExecPrefixes.admits, Option.isSome_eq_false_iff, Option.isNone_iff_eq_none] at h
  rw [dispatch, List.headD_cons, h]

end Dispatch

section Perform

variable (sh : Shell) (m : Machine σ)

theorem run_perform (line : Except ReadError Line) :
    (sh.perform line).run K m = ((split line).run K m).bind fun x =>
      match x.1 with
      | .error pass => some (pass, x.2)
      | .ok ws => (sh.carryOut ws).run K x.2 := by
  rw [perform, Prog.run_seq]
  congr 1
  funext x
  obtain ⟨_ | _, _⟩ := x <;> rfl

/-- What a command ended with, as an exit code. -/
def exitCode : Outcome → ExitCode
  | .ok code => code
  | .error _ => .failure

theorem run_carryOut (ws : Words) :
    (sh.carryOut ws).run K m = ((sh.dispatch ws.toList).run K m).bind fun x =>
      (ws.drop.run K x.2).map fun y => (.completed (exitCode x.1), y.2) := by
  rw [carryOut, Prog.run_seq]
  congr 1
  funext x
  rw [Prog.run_seq]
  cases ws.drop.run K x.2 <;> rfl

variable {sh m} {m' : Machine σ} {pass : Pass}

/-- Words that are carried out complete the pass with what their command ended with, and are given back. -/
theorem carryOut_cases {ws : Words} (h : (sh.carryOut ws).run K m = some (pass, m')) :
    ∃ outcome m₁, (sh.dispatch ws.toList).run K m = some (outcome, m₁) ∧ ws.drop.run K m₁ = some ((), m') ∧
      pass = .completed (exitCode outcome) := by
  obtain ⟨outcome, m₁, hdispatch, hrest⟩ := Prog.run_seq_eq_some.1 h
  obtain ⟨_, _, hdrop, hdone⟩ := Prog.run_seq_eq_some.1 hrest
  cases hdone
  exact ⟨outcome, m₁, hdispatch, hdrop, rfl⟩

/-- What performing a line comes to: there are no words, and then this is what the pass comes to; or their command is run,
the words are given back, and the pass completes. -/
theorem perform_cases {line : Except ReadError Line} (h : (sh.perform line).run K m = some (pass, m')) :
    (split line).run K m = some (.error pass, m') ∨
    ∃ ws outcome m₁ m₂, (split line).run K m = some (.ok ws, m₁) ∧
      (sh.dispatch ws.toList).run K m₁ = some (outcome, m₂) ∧ ws.drop.run K m₂ = some ((), m') ∧
      pass = .completed (exitCode outcome) := by
  obtain ⟨asked, m₁, hsplit, hrest⟩ := Prog.run_seq_eq_some.1 h
  cases asked with
  | error pass' =>
    cases hrest
    exact .inl hsplit
  | ok ws =>
    obtain ⟨outcome, m₂, hdispatch, hdrop, hpass⟩ := carryOut_cases hrest
    exact .inr ⟨ws, outcome, m₁, m₂, hsplit, hdispatch, hdrop, hpass⟩

end Perform

/-! ## A pass on a machine -/

section Step

variable {supply : Nat} {sh sh' : Shell} {m m' : Machine σ} {r : Reader} {pass : Pass}

theorem nextLine_console (hsource : sh.input = .console r) :
    sh.input.nextLine supply sh.prompt m = (do
      let (result, reader) ← r.readLine supply sh.prompt
      return (result, .console reader), m) := by
  rw [hsource]
  rfl

/-- A pass that reads the console reads a line and performs it. -/
theorem step_console (hsource : sh.input = .console r) :
    sh.step K supply m = ((r.readLine supply sh.prompt).run K m).bind fun x =>
      ((sh.perform x.1.1).run K x.2).map fun y => ((y.1, { sh with input := .console x.1.2 }), y.2) := by
  simp only [step, nextLine_console hsource, Shell.pass, Prog.run_seq]
  cases (r.readLine supply sh.prompt).run K m with
  | none => rfl
  | some x =>
    simp only [Option.bind_some, Prog.run_pure]
    cases (sh.perform x.1.1).run K x.2 <;> rfl

/-- A pass that reads the console met the end of its input, or performed something else. -/
theorem step_cases (hsource : sh.input = .console r) (h : sh.step K supply m = some ((pass, sh'), m')) :
    ∃ line r' m₁, (r.readLine supply sh.prompt).run K m = some ((line, r'), m₁) ∧
      sh' = { sh with input := .console r' } ∧ (sh.perform line).run K m₁ = some (pass, m') ∧
      (line = .error .endOfInput ↔ pass = .endOfInput) := by
  rw [step_console hsource] at h
  obtain ⟨⟨⟨line, r'⟩, m₁⟩, hread, h⟩ := Option.bind_eq_some_iff.1 h
  obtain ⟨⟨pass', m₂⟩, hperform, heq⟩ := Option.map_eq_some_iff.1 h
  cases heq
  refine ⟨line, r', m₁, hread, rfl, hperform, ?_⟩
  rcases perform_cases hperform with hsplit | ⟨ws, outcome, m₃, m₄, hsplit, -, -, rfl⟩
  · rcases split_cases hsplit with ⟨rfl, ⟨⟩, -⟩ | ⟨hline, ⟨⟨⟩⟩ | ⟨⟨⟩⟩ | ⟨_, ⟨⟩⟩⟩
    · exact iff_of_true rfl rfl
    · exact iff_of_false hline Pass.noConfusion
    · exact iff_of_false hline Pass.noConfusion
  · rcases split_cases hsplit with ⟨-, ⟨⟩, -⟩ | ⟨hline, -⟩
    exact iff_of_false hline Pass.noConfusion

/-- What every step of the kernel keeps, a pass keeps. -/
theorem step_keeps {R : Machine σ → Machine σ → Prop} (hR : K.Keeps R) (hsource : sh.input = .console r)
    (h : sh.step K supply m = some ((pass, sh'), m')) : R m m' := by
  obtain ⟨line, r', m₁, hread, -, hperform, -⟩ := step_cases hsource h
  exact hR.trans (hR.run _ hread) (hR.run _ hperform)

/-- The words of the command that a pass runs, and the machine on which it runs it; nothing if it runs none. -/
def started (K : Kernel σ) (supply : Nat) (sh : Shell) (m : Machine σ) : Option (Words × Machine σ) :=
  let (read, m) := sh.input.nextLine supply sh.prompt m
  match read.run K m with
  | none => none
  | some ((line, _), m) =>
    match (split line).run K m with
    | some (.ok ws, m) => some (ws, m)
    | _ => none

/-- A pass that reads the console runs a command if its line splits into words. -/
theorem started_console (hsource : sh.input = .console r) {line : Except ReadError Line} {r' : Reader} {m₁ : Machine σ}
    (hread : (r.readLine supply sh.prompt).run K m = some ((line, r'), m₁)) {ws : Words}
    (hsplit : (split line).run K m₁ = some (.ok ws, m')) : sh.started K supply m = some (ws, m') := by
  simp only [started, nextLine_console hsource, Prog.run_seq, hread, Option.bind_some, Prog.run_pure, hsplit]

/-- **A pass ends** if its line is read and the command that it starts ends. -/
theorem step_isSome (hK : K.Prints) (hsource : sh.input = .console r)
    (hread : ((r.readLine supply sh.prompt).run K m).isSome)
    (hcommand : ∀ ws m', sh.started K supply m = some (ws, m') → ((sh.dispatch ws.toList).run K m').isSome) :
    (sh.step K supply m).isSome := by
  obtain ⟨⟨⟨line, r'⟩, m₁⟩, hread⟩ := Option.isSome_iff_exists.1 hread
  obtain ⟨⟨asked, m₂⟩, hsplit⟩ := Option.isSome_iff_exists.1 (split_ends hK line m₁)
  rw [step_console hsource, hread, Option.bind_some, Option.isSome_map, run_perform, hsplit, Option.bind_some]
  cases asked with
  | error pass => rfl
  | ok ws =>
    have hstarted := started_console hsource hread hsplit
    obtain ⟨⟨outcome, m₃⟩, hdispatch⟩ := Option.isSome_iff_exists.1 (hcommand ws m₂ hstarted)
    simp only [run_carryOut, hdispatch, Option.bind_some, Option.isSome_map]
    exact ws.drop_ends m₃

end Step

end Shell

end LineShell
