import LineShell.Builtin.Usage
import LineShell.Proofs.Accounts
import LineShell.Proofs.Editing
import LineShell.Proofs.Pass
import LineShell.Proofs.Sim.Batches
import LineShell.Proofs.Sim.Processes
import LineShell.Proofs.Sim.Unattended

/-!
# What is typed behind an edit command

The shell fetches the console in batches, and keeps what its batch holds behind a command line for its own next pass.
So the editor, which reads the same console, gets the lines that begin behind that batch.

- `Shell.step_edit`: what a pass makes of the lines behind a command that edits a file: those the shell keeps, those
  that become the file, and those that are left for the passes after it;
- `Shell.contents_edit_typed_ahead`: lines typed ahead into the batch of the shell do not become the file.
-/

namespace LineShell

/-- The bytes that a source of lines has fetched and not looked at. -/
def LineSource.kept : LineSource → Bytes
  | .console r => r.unread
  | .editor .. => []

/-! ## Parts of a pass -/

section Parts

variable {σ : Type} {K : Kernel σ} {m : Machine σ}

/-- On a heap with room, a line that has words is split into them. -/
theorem Shell.run_split {bytes : Nat} {line : Line} (h : m.heap.Uses (bytes + line.size))
    (hroom : bytes + line.size + Words.cost (words line.text) < wordLimit) (hwords : words line.text ≠ []) :
    ∃ heap, (split (.ok line)).run K m = some (.ok ⟨words line.text⟩, { m with heap := heap }) ∧
      heap.Uses (bytes + Words.cost (words line.text)) := by
  obtain ⟨heap, hrun, hheap⟩ := Words.run_hold (K := K) h hroom
  refine ⟨heap.free line.size, ?_, Heap.Uses.free ?_⟩
  · simp [split, Words.ofLine, hrun, Line.drop, hwords]
  · rw [Nat.add_right_comm]
    exact hheap

end Parts

section Processes

variable (depth : Nat) {m m₁ : Machine Sim}

/-- On a console that takes what is written, a report is printed. -/
theorem Prog.run_report (h : m.state.room = none) (parts : List String) (code : ExitCode) :
    (Prog.report parts code).run (Sim.kernel depth) m = some (.ok code, m.shownParts parts) := by
  rw [report, orFail, run_seq, Sim.run_printParts_ok depth _ h]
  rfl

/-- A program that is run as a process ends with its exit code, or prints why there is none. -/
theorem Program.run_start {program : Program} {supply : Nat} {argv : List String} {outcome : Outcome}
    (h : (program supply argv).run (Sim.kernel depth) m = some (outcome, m₁)) (hconsole : m₁.state.room = none) :
    ∃ parts, (program.start supply argv).run (Sim.kernel depth) m =
      some (Shell.exitCode outcome, m₁.shownParts parts) := by
  cases outcome with
  | ok code => exact ⟨[], by simp [start, h, Shell.exitCode, Machine.shownParts]⟩
  | error failure =>
    refine ⟨argv.headD "?" :: ": " :: failure.chainParts ++ ["\n"], ?_⟩
    rw [start, Prog.run_seq, h, Option.bind_some]
    dsimp only
    rw [Prog.run_seq, Sim.run_printParts_ok depth _ hconsole]
    rfl

/-- **Editing as a process** rewrites the file and prints nothing, or prints what went wrong. -/
theorem Program.run_edit_process (name cwd : String) (more : List String) {heap : Heap} {script : Script}
    {data old : Bytes} {path : String} {id : Nat} {fd : Fd} (hfile : m.state.Holds path id fd old)
    (hconsole : m.state.room = none) (hdata : script.arrivals = data.map .byte) (hheap : heap.Unlimited data.length) :
    ∃ parts heap' script', Sim.runProcess (depth + 1) ⟨edit, name :: path :: more, cwd⟩ (m.facing heap script) =
        some (Shell.exitCode (editOutcome (gather (lines data)).1),
          (({ m with state := m.state.rewritten id (gather (lines data)).1 } : Machine Sim).shownParts parts).facing heap'
            script') ∧
      script'.arrivals = (gather (lines data)).2.flatten.map .byte ∧ heap'.Uses heap.inUse := by
  obtain ⟨heap', script', hrun, harr, hheap'⟩ := run_edit depth name more hfile hdata hheap
  have hsupply : Sim.supply (m.facing heap script) = data.length := by
    rw [Sim.supply_eq rfl, hdata, List.length_map]
  have hconsole' : (m.state.rewritten id (gather (lines data)).1).room = none := by
    rw [Sim.room_rewritten, hconsole]
  obtain ⟨parts, hstart⟩ := run_start depth hrun hconsole'
  refine ⟨parts, heap', script', ?_, harr, hheap'⟩
  rw [← hsupply, Machine.shownParts_facing] at hstart
  exact hstart

/-- **Running the editor** rewrites the file, and takes the lines of the console that it gathers. -/
theorem Executable.run_edit (more : List String) {heap : Heap} {script : Script} {data old : Bytes}
    {name path : String} {id : Nat} {fd : Fd} (hstarts : m.state.Starts name Program.edit)
    (hfile : m.state.Holds path id fd old) (hconsole : m.state.room = none)
    (hdata : script.arrivals = data.map .byte) (hheap : heap.Unlimited data.length) :
    ∃ script' m', (Executable.run (name :: path :: more)).run (Sim.kernel (depth + 1)) (m.facing heap script) =
        some (.ok (Shell.exitCode (Program.editOutcome (gather (lines data)).1)), m') ∧
      m'.state = { m.state.rewritten id (gather (lines data)).1 with
        nextPid := m.state.nextPid + 1
        input := .script script' } ∧
      script'.arrivals = (gather (lines data)).2.flatten.map .byte ∧ m'.heap.Uses heap.inUse := by
  have hfile' : m.launching.state.Holds path id fd old := ⟨hfile.lookup_eq, hfile.fd_eq, hfile.content_eq⟩
  obtain ⟨parts, heap', script', hprocess, harr, hheap'⟩ :=
    Program.run_edit_process depth name m.state.cwd more hfile' hconsole hdata hheap
  have hstarts' : (m.facing heap script).state.Starts name Program.edit :=
    ⟨hstarts.image_eq, hstarts.fresh, hstarts.pid_lt⟩
  have hchild := Sim.run_child (depth + 1) (path :: more) hstarts'
  have hlaunching : (m.facing heap script).launching = m.launching.facing heap script := rfl
  have hcwd : (m.facing heap script).state.cwd = m.state.cwd := rfl
  rw [hlaunching, hcwd, hprocess, Option.bind_some] at hchild
  have hrewritten : (m.launching.state.rewritten id (gather (lines data)).1).room = none :=
    (Sim.room_rewritten ..).trans hconsole
  have hshown := Machine.shownParts_state parts
    (m := { m.launching with state := m.launching.state.rewritten id (gather (lines data)).1 }) hrewritten
  have hreported : ({ (m.launching.state.rewritten id (gather (lines data)).1) with
      cwd := m.state.cwd, input := .script script' } : Sim).room = none := hrewritten
  simp only [Machine.facing, hshown] at hchild
  refine ⟨script', _, hchild.trans (Prog.run_report (depth + 1) hreported _ _), ?_, harr, ?_⟩
  · rw [Machine.shownParts_state _ hreported]
    cases (gather (lines data)).1 <;> rfl
  · rw [Machine.shownParts_heap]
    exact hheap'

end Processes

/-! ## The pass -/

namespace Shell

section Edit

variable (depth : Nat) {supply : Nat} {sh : Shell} {m : Machine Sim} {name path : String} {more : List String}
  {id : Nat} {fd : Fd} {old : Bytes}

/-- Performing a line that edits a file, with `bytes` in use besides the line. -/
theorem perform_edit {heap : Heap} {script : Script} {line : Line} {data : Bytes} {bytes : Nat}
    (hheap : heap.Uses (bytes + line.size))
    (hroom : bytes + line.size + 41 * Text.size line.text + 64 * (data.length + 1) < wordLimit)
    (hwords : words line.text = name :: path :: more) (hname : (sh.prefixes.matching name).isSome)
    (hstarts : m.state.Starts name Program.edit) (hfile : m.state.Holds path id fd old)
    (hconsole : m.state.room = none) (hdata : script.arrivals = data.map .byte) :
    ∃ script' m', (sh.perform (.ok line)).run (Sim.kernel (depth + 1)) (m.facing heap script) =
        some (.completed (exitCode (Program.editOutcome (gather (lines data)).1)), m') ∧
      m'.state = { m.state.rewritten id (gather (lines data)).1 with
        nextPid := m.state.nextPid + 1
        input := .script script' } ∧
      script'.arrivals = (gather (lines data)).2.flatten.map .byte ∧ m'.heap.Uses bytes := by
  have hcost := Words.cost_words_le line.text
  obtain ⟨heap₁, hsplit, hheap₁⟩ := run_split (K := Sim.kernel (depth + 1)) (m := m.facing heap script) hheap
    (by omega) (by simp [hwords])
  have hunlimited : heap₁.Unlimited data.length := ⟨hheap₁.limit_eq, by rw [hheap₁.inUse_eq]; omega⟩
  obtain ⟨script', m₁, hrun, hstate, harr, hheap'⟩ :=
    Executable.run_edit depth more hstarts hfile hconsole hdata hunlimited
  rw [hheap₁.inUse_eq] at hheap'
  obtain ⟨heap₂, hdrop, hheap₂⟩ := Words.run_drop (K := Sim.kernel (depth + 1)) ⟨words line.text⟩ hheap'
  refine ⟨script', { m₁ with heap := heap₂ }, ?_, hstate, harr, hheap₂⟩
  rw [run_perform, hsplit, Option.bind_some]
  dsimp only
  rw [run_carryOut, Machine.facing_with_heap, hwords, dispatch_executable hname, hrun, Option.bind_some]
  dsimp only
  rw [← hwords, hdrop]
  rfl

/-- **Typing behind an edit command.** Of the bytes behind the command line, the shell keeps what its batch holds, which
is less than a batch and stands behind the newline of that line in the one chunk that brought it; a console that hands
over one line at a time leaves it nothing to keep. Of the lines that begin behind that, the editor gathers those before
the first empty one, and the file then holds them; if one of them is no text, the editor fails and the file holds what it
held. The next pass reads the first line of what the shell kept and what the editor left. If the shell's batch did not end
inside a character, all these lines are texts. -/
theorem step_edit {r : Reader} {script : Script} {line rest : Bytes} {command : String}
    (hsource : sh.input = .console r) (hinput : m.state.input = .script script)
    (hr : r.Expects script (line ++ rest)) (hline : FirstLine line rest)
    (hcommand : lineBody line = Text.bytes command) (hwords : words command = name :: path :: more)
    (hname : (sh.prefixes.matching name).isSome) (hstarts : m.state.Starts name Program.edit)
    (hfile : m.state.Holds path id fd old) (hconsole : m.state.room = none)
    (hheap : m.heap.Unlimited (line ++ rest).length) (hsupply : Sim.supply m ≤ supply) :
    ∃ behind r' script' m', rest = r'.unread ++ behind ∧ r'.Spent ∧ r'.chunk = r.chunk ∧
      (r'.unread = [] ∨ script.Offers r.unread (newline :: r'.unread)) ∧
      (r.unread = [] → (∀ chunk, .data chunk ∈ script → newline ∉ chunk.dropLast) → r'.unread = []) ∧
      sh.step (Sim.kernel (depth + 1)) supply m =
        some ((.completed (exitCode (Program.editOutcome (gather (lines behind)).1)), { sh with input := .console r' }),
          m') ∧
      m'.state.contents path = some ((gather (lines behind)).1.getD old) ∧
      m'.state = { m.state.rewritten id (gather (lines behind)).1 with
        nextPid := m.state.nextPid + 1
        input := .script script' } ∧
      m'.heap.Uses m.heap.inUse ∧ r'.Expects script' (r'.unread ++ (gather (lines behind)).2.flatten) ∧
      (∃ result r'' m'', (r'.readLine supply sh.prompt).run (Sim.kernel (depth + 1)) m' = some ((result, r''), m'') ∧
        result.map Line.text =
          (cut ((r'.unread ++ (gather (lines behind)).2.flatten).map .byte)).1.result) ∧
      ∀ text, behind = Text.bytes text →
        gather (lines behind) = (some (((lines behind).takeWhile (· != [newline])).flatMap Program.endingLine),
          ((lines behind).dropWhile (· != [newline])).drop 1) := by
  have hscript : script.arrivals.length ≤ supply := Sim.supply_eq hinput ▸ hsupply
  have hprompted := Machine.shown_state sh.prompt hconsole
  have htaken : m.state.room ≠ some 0 := by simp [hconsole]
  have hfits : script.arrivals.length < Script.limit := by
    obtain ⟨_, _, hawaits, -⟩ := hr
    exact hawaits.fits
  obtain ⟨l, heap₁, behind, r', script₁, hread, htext, hheld, hheap₁, hbehind, hdata, hr', hspent, hchunk, hle⟩ :=
    Reader.run_readLine_text (depth + 1) (.inr htaken) hheap hr hline hcommand hscript
  rw [Machine.facing_self hinput] at hread
  have hkept : r'.unread = [] ∨ script.Offers r.unread (newline :: r'.unread) :=
    Reader.readLine_offers (depth + 1) hinput hfits hread
  have hroom : m.heap.inUse + l.size + 41 * Text.size l.text + 64 * (behind.length + 1) < wordLimit := by
    have hroom := hheap.room
    have hsize : Text.size command ≤ line.length := by
      rw [← Text.length_bytes, ← hcommand]
      exact (List.takeWhile_sublist _).length_le
    simp only [hbehind, List.length_append] at hroom hheld
    rw [htext]
    omega
  obtain ⟨script', m', hperform, hstate, harr, hheap'⟩ :=
    perform_edit depth (m := m.shown sh.prompt) hheap₁ hroom (htext ▸ hwords) hname
      (by rwa [hprompted]) (by rwa [hprompted]) (by rwa [hprompted]) hdata
  rw [hprompted] at hstate
  have hleft := length_gather_left behind
  have hlength : script'.arrivals.length ≤ script₁.arrivals.length := by
    rw [harr, hdata, List.length_map, List.length_map]
    exact hleft
  have hexpects : r'.Expects script' (r'.unread ++ (gather (lines behind)).2.flatten) := hr'.expects_left hlength harr
  refine ⟨behind, r', script', m', hbehind, hspent, hchunk, hkept, Reader.keeps_nothing hkept, ?_, ?_, hstate, hheap',
    hexpects, ?_, fun text htext => gather_text htext⟩
  · rw [step_console hsource, hread, Option.bind_some, hperform]
    rfl
  · rw [hstate]
    exact (hfile.rewritten (gather (lines behind)).1).contents_eq
  · -- the next line
    have hinput' : m'.state.input = .script script' := by rw [hstate]
    have hconsole' : m'.state.room = none := by
      rw [hstate]
      exact (Sim.room_rewritten ..).trans hconsole
    have htaken' : m'.state.room ≠ some 0 := by simp [hconsole']
    have hunlimited : m'.heap.Unlimited (r'.unread ++ (gather (lines behind)).2.flatten).length := by
      refine hheap'.unlimited hheap ?_
      simp only [hbehind, List.length_append]
      omega
    obtain ⟨result, heap', r'', script'', hrun, hresult, -⟩ :=
      Reader.run_readLine_cut (depth + 1) (.inr htaken') hunlimited hexpects
        (Nat.le_trans hlength (Nat.le_trans hle hscript))
    rw [Machine.facing_self hinput'] at hrun
    exact ⟨result, r'', _, hrun, hresult⟩

/-- Four bytes in each batch, on a booted kernel with a new file: the batch that ends the command line holds the next
line too, so the shell keeps that one, and the editor gathers the line behind it. -/
theorem step_edit_booted :
    let line := Text.bytes "/edit /f" ++ [newline]
    let rest := Text.bytes "ab\ncd\n\npwd\n"
    let script : Script := [.data (line ++ rest)]
    let m : Machine Sim := { state := ((Sim.booted (.script script)).create "/f" false).2 }
    let r := Reader.ofChunk (4 : UInt64).toNat
    let sh : Shell := { input := .console r, builtins := .standard Usage.builtins }
    m.state.input = .script script ∧ r.Expects script (line ++ rest) ∧ FirstLine line rest ∧
      lineBody line = Text.bytes "/edit /f" ∧ words "/edit /f" = ["/edit", "/f"] ∧
      (sh.prefixes.matching "/edit").isSome ∧ m.state.Starts "/edit" Program.edit ∧ m.state.Holds "/f" 11 ⟨14⟩ [] ∧
      m.state.room = none ∧ m.heap.Unlimited (line ++ rest).length ∧
      ∃ r' m', sh.step (Sim.kernel 1) (Sim.supply m) m = some ((.completed 0, { sh with input := .console r' }), m') ∧
        r'.unread = Text.bytes "ab\n" ∧ m'.state.contents "/f" = some (Text.bytes "cd\n") ∧
        ∃ result r'' m'', (r'.readLine (Sim.supply m) sh.prompt).run (Sim.kernel 1) m' = some ((result, r''), m'') ∧
          result.map Line.text = .ok "ab" := by
  intro line rest script m r sh
  obtain ⟨hinput, hconsole⟩ := Sim.booted_console (.script script)
  have hcreated := Sim.create_moves (Sim.booted (.script script)) "/f" false
  have hinput' : m.state.input = .script script := hcreated.input_eq.trans hinput
  have hconsole' : m.state.room = none := hcreated.room_eq.trans hconsole
  have hline : FirstLine line rest := .ended (by decide +kernel) rest
  have hr : r.Expects script (line ++ rest) := Reader.ofChunk_expects 4 (by simp [script]) (by decide +kernel)
  have hcommand : lineBody line = Text.bytes "/edit /f" := lineBody_ended (by decide +kernel)
  have hwords : words "/edit /f" = ["/edit", "/f"] := by decide +kernel
  have hname : (sh.prefixes.matching "/edit").isSome := by decide +kernel
  have hstarts : m.state.Starts "/edit" Program.edit := by
    -- the editor is the last program that is installed
    let before : Sim := ((Sim.empty (.script script)).create "/tmp" true).2.installAll (Program.bundled.take 8)
    have hbefore : Sim.booted (.script script) = (before.install "/edit" Program.edit).2 := rfl
    have hid : (before.store.create (Path.absolute before.cwd "/edit") false).map Prod.fst = some 10 := by
      decide +kernel
    obtain ⟨⟨_, store⟩, hcreate, rfl⟩ := Option.map_eq_some_iff.1 hid
    have himages := Sim.install_images before "/edit" Program.edit hcreate rfl
    have hlookup : m.state.lookup "/edit" = some 10 := by decide +kernel
    refine ⟨?_, fun entry hentry => ?_, by decide +kernel⟩
    · rw [hlookup, Option.bind_some, Sim.create_images, hbefore, himages]
      rfl
    · exact (((Sim.booted_sound _).moves hcreated).processes entry hentry).2
  have hfile : m.state.Holds "/f" 11 ⟨14⟩ [] := ⟨by decide +kernel, by decide, by decide +kernel⟩
  have hheap : m.heap.Unlimited (line ++ rest).length := ⟨rfl, by decide +kernel⟩
  obtain ⟨behind, r', script', m', hrest, -, -, -, -, hstep, hcontents, -, -, -, hnext, -⟩ :=
    step_edit 0 rfl hinput' hr hline hcommand hwords hname hstarts hfile hconsole' hheap
      (Nat.le_refl _)
  -- what the shell keeps
  have hread : (sh.step (Sim.kernel 1) (Sim.supply m) m).map (fun x => x.1.2.input.kept) =
      some (Text.bytes "ab\n") := by
    decide +kernel
  rw [hstep] at hread
  have hkept : r'.unread = Text.bytes "ab\n" := Option.some.inj hread
  have hbehind : behind = Text.bytes "cd\n\npwd\n" := by
    have hsplit : rest = Text.bytes "ab\n" ++ Text.bytes "cd\n\npwd\n" := by decide +kernel
    rw [hkept] at hrest
    exact (List.append_cancel_left (hsplit.symm.trans hrest)).symm
  have hgather : gather (lines behind) = (some (Text.bytes "cd\n"), [Text.bytes "pwd\n"]) := by
    rw [hbehind]
    decide +kernel
  rw [hgather] at hstep hcontents hnext
  rw [hkept] at hnext
  exact ⟨hinput', hr, hline, hcommand, hwords, hname, hstarts, hfile, hconsole', hheap, r', m',
    hstep, hkept, hcontents, hnext⟩

/-- A batch of 64 bytes holds all that is typed at once behind the command line. The editor meets the end, and the file
does not hold the line that was meant for it. -/
theorem contents_edit_typed_ahead :
    let rest := Text.bytes "hello\n\npwd\n"
    let m : Machine Sim :=
      { state := ((Sim.booted (.script [.data (Text.bytes "/edit /f\n" ++ rest)])).create "/f" false).2 }
    let sh : Shell := { input := .console (.ofChunk 64), builtins := .standard Usage.builtins }
    let after := sh.step (Sim.kernel 1) (Sim.supply m) m
    after.map (fun x => x.1.1) = some (.completed 0) ∧
      after.map (fun x => x.2.state.contents "/f") ≠
        some (some (((lines rest).takeWhile (· != [newline])).flatMap Program.endingLine)) := by
  decide +kernel

end Edit

end Shell

end LineShell
