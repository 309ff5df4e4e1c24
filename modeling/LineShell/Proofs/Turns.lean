import LineShell.Proofs.LineBlock
import LineShell.Proofs.Sim.Unattended
import LineShell.Proofs.Termination

/-!
# One pass for each line

The passes of a run are compared with passes that have the console to themselves: `Shell.turns` takes the lines of the
input one after the other, and for each makes a single pass of the shell as it was at first, on a console that holds
nothing else.
As long as no command reads standard input (`Shell.undisturbed`), the run makes just these passes and then one that
meets the end (`Shell.run_lines`): what the batches of the reader fetched ahead, and lines that were dropped halfway,
never show.
-/

namespace LineShell

/-! ## What stands on the console -/

/-- Whatever runs, what was written on the console stays. -/
theorem Sim.grows_kept : Sim.Kept fun m m' => m.terminal.output <+: m'.terminal.output where
  refl _ := List.prefix_rfl
  trans := List.IsPrefix.trans
  heap _ _ := List.prefix_rfl
  read m count := by
    unfold Sim.readConsole
    split
    · split <;> exact List.prefix_rfl
    · exact List.prefix_rfl
  write m data := by
    unfold Sim.writeConsole
    split
    · exact List.prefix_rfl
    · exact ⟨data, by simp [Machine.emit, Terminal.emit, Terminal.output]⟩
  change _ _ _ _ := List.prefix_rfl
  wait _ _ _ _ _ _ h := h

/-- The machine with its console input gone. -/
def Machine.offline (m : Machine Sim) : Machine Sim :=
  m.facing m.heap []

namespace Shell

/-! ## Passes one by one -/

section Passes

variable {σ : Type} (K : Kernel σ)

/-- The passes of `runFor`, each with the machine that it leaves. -/
def passesFor (supply : Nat) : (rounds : Nat) → Shell → Machine σ → Option (List (Pass × Machine σ))
  | 0, _, _ => none
  | rounds + 1, sh, m =>
    match sh.step K supply m with
    | none => none
    | some ((.endOfInput, _), m) => some [(.endOfInput, m)]
    | some ((pass, sh), m) => (passesFor supply rounds sh m).map ((pass, m) :: ·)

/-- The passes of `run`. -/
def passes (sh : Shell) (m : Machine σ) : Option (List (Pass × Machine σ)) :=
  passesFor K (K.supply m) (sh.rounds K m) sh m

variable {K} {supply : Nat} {sh sh' : Shell} {m m' : Machine σ} {pass : Pass}

theorem passesFor_step (rounds : Nat) (hstep : sh.step K supply m = some ((pass, sh'), m'))
    (hpass : pass ≠ .endOfInput) :
    sh.passesFor K supply (rounds + 1) m = (sh'.passesFor K supply rounds m').map ((pass, m') :: ·) := by
  rw [passesFor, hstep]
  cases pass
  case endOfInput => exact absurd rfl hpass
  all_goals rfl

end Passes

/-! ## Turns -/

/-- One pass that had the console to itself: what it did, what it printed behind its prompt, and the machine it left. -/
structure Turn where
  pass : Pass
  output : Bytes
  after : Machine Sim

section Turns

variable (depth : Nat) (sh : Shell)

/-- A single pass of the shell from `m`, with nothing but `line` on the console. -/
def turn (line : Bytes) (m : Machine Sim) : Option Turn :=
  let held := m.facing m.heap [.data line]
  (sh.step (Sim.kernel depth) (Sim.supply held) held).map fun ((pass, _), m') =>
    ⟨pass, m'.terminal.output.drop (m.terminal.output ++ Text.bytes sh.prompt).length, m'⟩

/-- Single passes, one for each line, each from the machine that the one before it left. -/
def turns : List Bytes → Machine Sim → Option (List Turn)
  | [], _ => some []
  | line :: rest, m =>
    match sh.turn depth line m with
    | none => none
    | some turn => (turns rest turn.after).map (turn :: ·)

/-- In none of these passes does the command read standard input or go on for ever, and before each of them, and at the
end, the heap has a byte to begin a line with. -/
def undisturbed : List Bytes → Machine Sim → Bool
  | [], m => m.heap.admits (m.heap.inUse + 1)
  | line :: rest, m =>
    let held := m.facing m.heap [.data line]
    m.heap.admits (m.heap.inUse + 1) &&
    (sh.started (Sim.kernel depth) (Sim.supply held) held).all (fun (ws, m) =>
      ((sh.dispatch ws.toList).run (Sim.unattended depth) m).isSome) &&
    (sh.turn depth line m).all fun turn => undisturbed rest turn.after

end Turns

/-- The machine that the last of some turns left. -/
def lastAfter (m : Machine Sim) (turns : List Turn) : Machine Sim :=
  (turns.getLast?.map Turn.after).getD m

/-! ## A pass that leaves the console alone -/

section Step

variable {depth : Nat} {batch : UInt64} {sh : Shell} {m : Machine Sim}

/-- Performing a line whose command leaves the console alone leaves it alone. -/
theorem perform_detached {line : Except ReadError Line} (hs : m.state.Sound) {script : Script}
    (hinput : m.state.input = .script script)
    (hcommand : ∀ ws m', (split line).run (Sim.kernel depth) m = some (.ok ws, m') →
      ((sh.dispatch ws.toList).run (Sim.unattended depth) m').isSome) :
    ∃ pass m', (sh.perform line).Detached depth m pass m' := by
  obtain ⟨asked, m₁, hs₁, hsplit⟩ := (split_ends (Sim.unattended_prints depth) line).detached hs
  cases asked with
  | error pass =>
    refine ⟨pass, m₁, fun script' => ?_⟩
    rw [run_perform, hsplit script']
    rfl
  | ok ws =>
    have hstarted := hcommand ws (m₁.facing m₁.heap script) (by
      rw [← hsplit script, Machine.facing_self hinput])
    obtain ⟨⟨outcome, m₂⟩, hdispatch⟩ := Option.isSome_iff_exists.1 hstarted
    obtain ⟨hs₂, hdispatch⟩ := Prog.detached_of_unattended (hs₁.facing m₁.heap script) hdispatch
    obtain ⟨_, m₃, -, hdrop⟩ := (ws.drop_ends (K := Sim.unattended depth)).detached hs₂
    refine ⟨.completed (exitCode outcome), m₃, fun script' => ?_⟩
    rw [run_perform, hsplit script', Option.bind_some]
    simp only [run_carryOut, hdispatch.run_facing script', Option.bind_some, hdrop script', Option.map_some]

/-- The pass that performs such a line, wherever it was read. -/
theorem step_detached {result : Except ReadError Line} {heap : Heap} {script₀ : Script} {pass : Pass} {m' : Machine Sim}
    (hperform : (sh.perform result).Detached depth (m.facing heap script₀) pass m') {r r' : Reader} {supply : Nat}
    {now : Machine Sim} {script : Script} (hread : (r.readLine supply sh.prompt).run (Sim.kernel depth) now =
      some ((result, r'), m.facing heap script)) :
    ({ sh with input := .console r } : Shell).step (Sim.kernel depth) supply now =
      some ((pass, { sh with input := .console r' }), m'.facing m'.heap script) := by
  have hsource : ({ sh with input := .console r } : Shell).input = .console r := rfl
  rw [step_console hsource, hread, Option.bind_some]
  exact congrArg (Option.map _) (hperform.run_facing script)

/-- **One line of many.** The pass that has the console to itself is made, and with other lines behind this one, and
however they are fetched, the pass is the same and leaves the other lines. -/
theorem step_firstLine (hsource : sh.input = .console (.ofChunk batch.toNat)) {line rest : Bytes}
    (hline : FirstLine line rest) (hfits : line.length < Script.limit) (hs : m.state.Sound)
    (hroom : m.state.room = none) (hheap : m.heap.admits (m.heap.inUse + 1))
    (hcommand : ∀ ws m', sh.started (Sim.kernel depth) (Sim.supply (m.facing m.heap [.data line]))
      (m.facing m.heap [.data line]) = some (ws, m') → ((sh.dispatch ws.toList).run (Sim.unattended depth) m').isSome) :
    ∃ turn, sh.turn depth line m = some turn ∧ turn.pass ≠ .endOfInput ∧ turn.after.state.Sound ∧
      turn.after.state.room = none ∧
      turn.after.terminal.output = m.terminal.output ++ Text.bytes sh.prompt ++ turn.output ∧
      ∀ (r : Reader) (script : Script) (supply : Nat), r.Expects script (line ++ rest) →
        script.arrivals.length ≤ supply →
        ∃ r' script',
          ({ sh with input := .console r } : Shell).step (Sim.kernel depth) supply (m.facing m.heap script) =
            some ((turn.pass, { sh with input := .console r' }), turn.after.facing turn.after.heap script') ∧
          r'.Expects script' rest ∧ script'.arrivals.length ≤ script.arrivals.length := by
  have hprompt : m.state.room ≠ some 0 := by simp [hroom]
  have hresult := Reader.answer_ne_endOfInput m.heap line
  -- alone on the console
  have hdata : Script.arrivals [.data line] = line.map .byte := by simp
  have hsupply : (Script.arrivals [.data line]).length ≤ Sim.supply (m.facing m.heap [.data line]) :=
    Nat.le_of_eq (Sim.supply_eq rfl).symm
  have hexpects : (Reader.ofChunk batch.toNat).Expects [.data line] (line ++ []) := by
    rw [List.append_nil]
    exact Reader.ofChunk_expects batch hdata hfits
  obtain ⟨r₀, script₀, hread₀, -, -⟩ :=
    Reader.run_readLine_firstLine depth (.inr hprompt) hheap hsupply hline.alone hexpects
  -- what follows the reading leaves the console alone
  obtain ⟨pass, m', hperform⟩ : ∃ pass m', (sh.perform (Reader.answer m.heap (some line)).1).Detached depth
      ((m.shown sh.prompt).facing (Reader.answer m.heap (some line)).2 script₀) pass m' := by
    refine perform_detached ?_ rfl fun ws m' hsplit => ?_
    · exact Sim.Sound.facing (Machine.shown_state sh.prompt hroom ▸ hs) _ script₀
    · exact hcommand ws m' (started_console hsource hread₀ hsplit)
  have hstep₀ : sh.step (Sim.kernel depth) (Sim.supply (m.facing m.heap [.data line]))
      (m.facing m.heap [.data line]) = some ((pass, { sh with input := .console r₀ }), m'.facing m'.heap script₀) := by
    have h := step_detached hperform hread₀
    rw [← hsource] at h
    exact h
  refine ⟨⟨pass, _, m'.facing m'.heap script₀⟩, by rw [turn, hstep₀]; rfl, ?_, ?_, ?_, ?_, ?_⟩
  · obtain ⟨_, _, _, hread', -, -, hend⟩ := step_cases hsource hstep₀
    cases hread₀.symm.trans hread'
    exact fun hpass => hresult (hend.2 hpass)
  · exact step_keeps (Sim.Sound.kept.kernel depth) hsource hstep₀ (hs.facing _ _)
  · exact (step_keeps (Sim.Drains.kept.kernel depth) hsource hstep₀).worn.none hroom
  · have hgrows := (Sim.grows_kept.kernel depth).run _ (hperform script₀)
    rw [← Machine.output_shown sh.prompt (.inr hprompt)]
    exact (List.prefix_iff_eq_append.1 hgrows).symm
  · intro r script supply hr hsupply
    obtain ⟨r', script', hread', hr', hle⟩ :=
      Reader.run_readLine_firstLine depth (.inr hprompt) hheap hsupply hline hr
    exact ⟨r', script', step_detached hperform hread', hr', hle⟩

/-- Behind the last line a pass meets the end, and only prompts. -/
theorem step_end (depth : Nat) (sh : Shell) (hroom : m.state.room = none)
    (hheap : m.heap.admits (m.heap.inUse + 1)) {r : Reader} {script : Script} {supply : Nat}
    (hr : r.Expects script []) (hsupply : script.arrivals.length ≤ supply) :
    ∃ r' script', ({ sh with input := .console r } : Shell).step (Sim.kernel depth) supply (m.facing m.heap script) =
        some ((.endOfInput, { sh with input := .console r' }), (m.shown sh.prompt).facing m.heap script') ∧
      r'.Awaits script' [] false := by
  obtain ⟨r', script', hread, hr'⟩ := Reader.run_readLine_end depth (.inr (by simp [hroom])) hheap hsupply hr
  refine ⟨r', script', ?_, hr'⟩
  have hsource : ({ sh with input := .console r } : Shell).input = .console r := rfl
  rw [step_console hsource, hread]
  rfl

end Step

/-! ## Whole runs -/

section Runs

variable {depth : Nat} {sh : Shell}

theorem turns_cons {line : Bytes} {rest : List Bytes} {m : Machine Sim} {turn : Turn}
    (h : sh.turn depth line m = some turn) :
    sh.turns depth (line :: rest) m = (sh.turns depth rest turn.after).map (turn :: ·) := by
  rw [turns, h]

theorem undisturbed_cons {line : Bytes} {rest : List Bytes} {m : Machine Sim} {turn : Turn}
    (h : sh.turn depth line m = some turn) (hcalm : sh.undisturbed depth (line :: rest) m) :
    sh.undisturbed depth rest turn.after := by
  rw [undisturbed, h] at hcalm
  exact (Bool.and_eq_true_iff.1 hcalm).2

theorem undisturbed_head {line : Bytes} {rest : List Bytes} {m : Machine Sim}
    (hcalm : sh.undisturbed depth (line :: rest) m) : m.heap.admits (m.heap.inUse + 1) ∧
      ∀ ws m', sh.started (Sim.kernel depth) (Sim.supply (m.facing m.heap [.data line]))
        (m.facing m.heap [.data line]) = some (ws, m') →
          ((sh.dispatch ws.toList).run (Sim.unattended depth) m').isSome := by
  rw [undisturbed, Bool.and_eq_true, Bool.and_eq_true, Option.all_eq_true] at hcalm
  exact ⟨hcalm.1.1, fun ws m' h => hcalm.1.2 (ws, m') h⟩

theorem lastAfter_cons (m : Machine Sim) (turn : Turn) (turns : List Turn) :
    lastAfter m (turn :: turns) = lastAfter turn.after turns := by
  cases turns with
  | nil => rfl
  | cons next turns => simp [lastAfter, List.getLast?_cons]

/-- From `now`, which is `m` with some input on its console, the shell `sh` makes these turns, and then a pass that
meets the end and leaves `sh'` and `last` with nothing more to read. -/
structure MakesTurns (depth supply rounds : Nat) (turns : List Turn) (m : Machine Sim) (sh : Shell)
    (now : Machine Sim) (sh' : Shell) (last : Machine Sim) : Prop where
  run_eq : sh.runFor (Sim.kernel depth) supply rounds now = some (sh', last)
  passes_eq : (sh.passesFor (Sim.kernel depth) supply rounds now).map (List.map fun x => (x.1, x.2.offline)) =
    some (turns.map (fun turn => (turn.pass, turn.after.offline)) ++ [(.endOfInput, last.offline)])
  offline_eq : last.offline = ((lastAfter m turns).shown sh.prompt).offline
  left_eq : sh'.left last = 0
  output_eq : last.terminal.output = m.terminal.output ++
    turns.flatMap (fun turn => Text.bytes sh.prompt ++ turn.output) ++ Text.bytes sh.prompt

variable {supply rounds : Nat} {m : Machine Sim} {r r' : Reader} {script script' : Script}

/-- Behind the last line there is no turn to make. -/
theorem makesTurns_nil (depth : Nat) (sh : Shell) (rounds : Nat) (hroom : m.state.room = none)
    (hheap : m.heap.admits (m.heap.inUse + 1)) (hr : r.Expects script [])
    (hsupply : script.arrivals.length ≤ supply) : ∃ sh' last,
    MakesTurns depth supply (rounds + 1) [] m { sh with input := .console r } (m.facing m.heap script) sh' last := by
  obtain ⟨r', script', hstep, hr'⟩ := step_end depth sh hroom hheap hr hsupply
  have hinput : ((m.shown sh.prompt).facing m.heap script').state.input = .script script' := rfl
  refine ⟨_, _, ?_, ?_, ?_, left_eq { sh with input := .console r' } rfl hinput hr', ?_⟩
  · rw [runFor, hstep]
  · rw [passesFor, hstep]
    rfl
  · simp [lastAfter, Machine.offline, Machine.shown_heap]
  · exact (Machine.output_shown sh.prompt (.inr (by simp [hroom]))).trans (by simp)

/-- A pass on a line is a turn before the turns of the lines behind it. -/
theorem MakesTurns.cons {turn : Turn} {turns : List Turn} {sh' : Shell} {last : Machine Sim}
    (hpass : turn.pass ≠ .endOfInput)
    (houtput : turn.after.terminal.output = m.terminal.output ++ Text.bytes sh.prompt ++ turn.output)
    (hstep : ({ sh with input := .console r } : Shell).step (Sim.kernel depth) supply (m.facing m.heap script) =
      some ((turn.pass, { sh with input := .console r' }), turn.after.facing turn.after.heap script'))
    (h : MakesTurns depth supply rounds turns turn.after { sh with input := .console r' }
      (turn.after.facing turn.after.heap script') sh' last) :
    MakesTurns depth supply (rounds + 1) (turn :: turns) m { sh with input := .console r } (m.facing m.heap script) sh'
      last := by
  refine ⟨?_, ?_, ?_, h.left_eq, ?_⟩
  · rw [runFor_step rounds hstep hpass, h.run_eq]
  · obtain ⟨later, hlater, heq⟩ := Option.map_eq_some_iff.1 h.passes_eq
    rw [passesFor_step rounds hstep hpass, hlater, Option.map_some, Option.map_some, List.map_cons, heq]
    rfl
  · rw [lastAfter_cons, h.offline_eq]
  · rw [h.output_eq, houtput]
    simp

/-- A run on expected lines makes the turns that these lines have on their own. -/
theorem exists_makesTurns {batch : UInt64} (hsource : sh.input = .console (.ofChunk batch.toNat))
    {pieces : List Bytes} {data : Bytes} (hlines : lines data = pieces)
    (hfits : data.length < Script.limit) (hs : m.state.Sound) (hroom : m.state.room = none)
    (hcalm : sh.undisturbed depth pieces m) (hr : r.Expects script data)
    (hsupply : script.arrivals.length ≤ supply) (hrounds : pieces.length < rounds) :
    ∃ turns sh' last, sh.turns depth pieces m = some turns ∧
      MakesTurns depth supply rounds turns m { sh with input := .console r } (m.facing m.heap script) sh' last := by
  induction pieces generalizing data m r script rounds with
  | nil =>
    obtain ⟨rfl, -⟩ : data = [] ∧ lines data = [] :=
      (lines_cases data).resolve_right fun ⟨_, _, _, _, hcons⟩ => nomatch hcons.symm.trans hlines
    obtain ⟨rounds, rfl⟩ := Nat.exists_eq_succ_of_ne_zero (Nat.ne_of_gt hrounds)
    obtain ⟨sh', last, h⟩ := makesTurns_nil depth sh rounds hroom hcalm hr hsupply
    exact ⟨[], sh', last, rfl, h⟩
  | cons line pieces ih =>
    obtain ⟨_, rest, hline, rfl, hcons⟩ :=
      (lines_cases data).resolve_left fun ⟨_, hnil⟩ => nomatch hnil.symm.trans hlines
    obtain ⟨rfl, hrest⟩ := List.cons.inj (hcons.symm.trans hlines)
    obtain ⟨rounds, rfl⟩ := Nat.exists_eq_succ_of_ne_zero (Nat.ne_of_gt (Nat.zero_lt_of_lt hrounds))
    rw [List.length_append] at hfits
    obtain ⟨hheap, hcommand⟩ := undisturbed_head hcalm
    obtain ⟨turn, hturn, hpass, hs', hroom', houtput, hreal⟩ :=
      step_firstLine hsource hline (by omega) hs hroom hheap hcommand
    obtain ⟨r₁, script₁, hstep, hr₁, hle⟩ := hreal r script supply hr hsupply
    obtain ⟨turns, sh', last, hturns, h⟩ := ih hrest (by omega) hs' hroom' (undisturbed_cons hturn hcalm) hr₁
      (Nat.le_trans hle hsupply) (Nat.lt_of_succ_lt_succ hrounds)
    refine ⟨turn :: turns, sh', last, ?_, h.cons hpass houtput hstep⟩
    rw [turns_cons hturn, hturns]
    rfl

theorem length_turns : ∀ {pieces : List Bytes} {m : Machine Sim} {turns : List Turn},
    sh.turns depth pieces m = some turns → turns.length = pieces.length
  | [], _, _, h => by
    cases h
    rfl
  | line :: rest, m, turns, h => by
    unfold Shell.turns at h
    split at h
    · cases h
    · obtain ⟨later, hlater, heq⟩ := Option.map_eq_some_iff.1 h
      rw [← heq, List.length_cons, List.length_cons, length_turns hlater]

/-- **Every line once, in order.** On a console that brings `data` in whatever chunks, to a fresh reader of whatever
batch size, and with commands that leave standard input alone, the loop makes the turn of each line, and then one pass
that meets the end. Each pass does what the turn does to all but the input, and what is printed is what the turns print,
each behind a prompt, and a last prompt. -/
theorem run_lines {batch : UInt64} {data : Bytes} (hsource : sh.input = .console (.ofChunk batch.toNat))
    (hinput : m.state.input = .script script) (hdata : script.arrivals = data.map .byte)
    (hfits : data.length < Script.limit) (hs : m.state.Sound) (hroom : m.state.room = none)
    (hcalm : sh.undisturbed depth (lines data) m) :
    ∃ turns sh' last, sh.turns depth (lines data) m = some turns ∧ turns.length = (lines data).length ∧
      sh.run (Sim.kernel depth) m = some (sh', last) ∧
      (sh.passes (Sim.kernel depth) m).map (List.map fun x => (x.1, x.2.offline)) =
        some (turns.map (fun turn => (turn.pass, turn.after.offline)) ++ [(.endOfInput, last.offline)]) ∧
      last.offline = ((lastAfter m turns).shown sh.prompt).offline ∧ sh'.left last = 0 ∧
      last.terminal.output = m.terminal.output ++
        turns.flatMap (fun turn => Text.bytes sh.prompt ++ turn.output) ++ Text.bytes sh.prompt := by
  have hr : (Reader.ofChunk batch.toNat).Expects script data := Reader.ofChunk_expects batch hdata hfits
  have hsupply : Sim.supply m = script.arrivals.length := Sim.supply_eq hinput
  have hrounds : (lines data).length < sh.rounds (Sim.kernel depth) m := by
    have hle := length_lines_le data
    have hlength : script.arrivals.length = data.length := by rw [hdata, List.length_map]
    have hbatch : Sim.supply m ≤ Sim.supply m * (Reader.ofChunk batch.toNat).chunk :=
      Nat.le_mul_of_pos_right _ (by simp only [Reader.ofChunk]; omega)
    simp only [rounds, hsource, LineSource.batchSize, LineSource.ready, Sim.kernel]
    omega
  obtain ⟨turns, sh', last, hturns, h⟩ :=
    exists_makesTurns hsource rfl hfits hs hroom hcalm hr (Nat.le_of_eq hsupply.symm) hrounds
  rw [← hsource, Machine.facing_self hinput] at h
  exact ⟨turns, sh', last, hturns, length_turns hturns, h.run_eq, h.passes_eq, h.offline_eq, h.left_eq, h.output_eq⟩

/-- Four bytes in each batch, on a booted kernel: a line cut by a chunk, bytes that are no text, a character cut by a
chunk, and a last line without a newline. -/
theorem run_lines_booted :
    let script : Script := [.data (Text.bytes "cd /t"), .data [], .data (Text.bytes "mp\n" ++ [0xff, newline]),
      .data (Text.bytes "/echo " ++ [0xc3]), .data (0xa9 :: Text.bytes "\npwd")]
    let data := Text.bytes "cd /tmp\n" ++ [0xff, newline] ++ Text.bytes "/echo é\npwd"
    let sh : Shell := { input := .console (.ofChunk (4 : UInt64).toNat), builtins := .standard Usage.builtins }
    let m : Machine Sim := { state := Sim.booted (.script script) }
    m.state.input = .script script ∧ script.arrivals = data.map .byte ∧ data.length < Script.limit ∧ m.state.Sound ∧
      m.state.room = none ∧ sh.undisturbed 1 (lines data) m ∧
      ∃ turns sh' last, sh.turns 1 (lines data) m = some turns ∧
        turns.map Turn.pass = [.completed 0, .rejected, .completed 0, .completed 0] ∧
        sh.run (Sim.kernel 1) m = some (sh', last) ∧ sh'.left last = 0 ∧
        last.terminal.output = Text.bytes
          "$ $ shell: failed to read the command\n$ é\n/echo exited with code 0\n$ /tmp\n$ " := by
  intro script data sh m
  have hinput : m.state.input = .script script := (Sim.booted_console (.script script)).1
  have hroom : m.state.room = none := (Sim.booted_console (.script script)).2
  have hdata : script.arrivals = data.map .byte := by decide +kernel
  have hfits : data.length < Script.limit := by decide +kernel
  have hs : m.state.Sound := by
    simp only [m]
    exact Sim.booted_sound (.script script)
  have hcalm : sh.undisturbed 1 (lines data) m := by decide +kernel
  have hpasses : (sh.turns 1 (lines data) m).map (List.map Turn.pass) =
      some [.completed 0, .rejected, .completed 0, .completed 0] := by decide +kernel
  have houtputs : (sh.turns 1 (lines data) m).map (List.flatMap fun turn => Text.bytes sh.prompt ++ turn.output) =
      some (Text.bytes "$ $ shell: failed to read the command\n$ é\n/echo exited with code 0\n$ /tmp\n") := by
    decide +kernel
  obtain ⟨turns, sh', last, hturns, -, hrun, -, -, hleft, hout⟩ := run_lines rfl hinput hdata hfits hs hroom hcalm
  refine ⟨hinput, hdata, hfits, hs, hroom, hcalm, turns, sh', last, hturns, ?_, hrun, hleft, ?_⟩
  · rw [hturns] at hpasses
    exact Option.some.inj hpasses
  · rw [hturns] at houtputs
    rw [hout, Option.some.inj houtputs]
    decide +kernel

end Runs

end Shell

end LineShell
