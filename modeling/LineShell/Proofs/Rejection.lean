import LineShell.Proofs.LineBlock
import LineShell.Proofs.Turns

/-!
# When a line is rejected

Its block and the blocks of its words are asked for one by one, by the reader and then by the words, while those that were
granted before are still in use. Wherever it fails, everything is given back and the same is printed. So a pass rejects its
line exactly where the line is no text or the heap does not admit all of these blocks at once.

- `Heap.split?`: the words of a line for which there is room;
- `Shell.run_split_answer`: splitting what a call of a reader answers comes to these words;
- `Shell.step_line`: a pass rejects its line, is empty, or carries out just the words, and what it printed and left where
  it is rejected.
-/

namespace LineShell

/-- The words of a line without its newline, if it is a text and the heap admits the block of the line and the blocks of
all its words at once. -/
def Heap.split? (heap : Heap) (body : Bytes) : Option (List String) :=
  (Text.decode? body).bind fun text =>
    if heap.admits (heap.inUse + blockSize body.length + Words.cost (words text)) then some (words text) else none

theorem Heap.split?_eq_none_iff {heap : Heap} {body : Bytes} : heap.split? body = none ↔
    Text.decode? body = none ∨ ∃ text, Text.decode? body = some text ∧
      heap.admits (heap.inUse + blockSize body.length + Words.cost (words text)) = false := by
  rw [split?]
  cases Text.decode? body <;> simp

/-- **Reading the next line** answers what the heap admits, also where that is not even one byte. -/
theorem Reader.run_readLine_answer (depth : Nat) {m : Machine Sim} {prompt : String} {r : Reader} {script : Script}
    {supply : Nat} {line rest : Bytes} (hprompt : prompt = "" ∨ m.state.room ≠ some 0)
    (hr : r.Expects script (line ++ rest)) (hline : FirstLine line rest) (hsupply : script.arrivals.length ≤ supply) :
    ∃ r' script', (r.readLine supply prompt).run (Sim.kernel depth) (m.facing m.heap script) =
      some (((answer m.heap (some line)).1, r'),
        (m.shown prompt).facing (answer m.heap (some line)).2 script') := by
  cases hone : m.heap.admits (m.heap.inUse + 1) with
  | true =>
    obtain ⟨r', script', hrun, -⟩ := run_readLine_firstLine depth hprompt hone hsupply hline hr
    exact ⟨r', script', hrun⟩
  | false =>
    -- a block of any size takes at least a byte
    have hrefused : m.heap.admits (m.heap.inUse + blockSize (lineBody line).length) = false := by
      refine Bool.eq_false_iff.2 fun hadmits => ?_
      have hle := one_le_blockSize (lineBody line).length
      rw [Heap.admits_mono (by omega) hadmits] at hone
      cases hone
    obtain ⟨arrivals, skipping, hr, hskipped⟩ := hr
    obtain ⟨r', script', hrun, -⟩ := run_readLine depth m m.heap hr hsupply hprompt
    rw [Taken.ofArrivals_skipped hskipped, Taken.ofArrivals_starved hone] at hrun
    rw [answer, hrefused]
    exact ⟨r', script', hrun⟩

namespace Shell

/-! ## Splitting -/

section Split

variable {σ : Type} {K : Kernel σ} {m : Machine σ} {base : Heap} {line : Line}

/-- A line whose words are granted is given back, and so are its words if there are none. -/
theorem run_split_granted (h : m.heap = base.grown line.size 1)
    (hroom : base.admits (base.inUse + line.size + Words.cost (words line.text)) = true) :
    (split (.ok line)).run K m = some (match words line.text with
      | [] => (.error .empty, { m with heap := base })
      | word :: args => (.ok ⟨word :: args⟩,
          { m with heap := base.grown (Words.cost (word :: args)) (args.length + 2) })) := by
  have hhold : (Words.ofLine line.text).run K m = _ := Words.run_hold_eq (words line.text) m
  rw [h, Heap.admits_grown, Heap.grown_inUse, if_pos hroom, Heap.grown_grown, Nat.add_comm 1] at hhold
  have hfree := @Heap.free_grown base (Words.cost (words line.text)) ((words line.text).length + 1) line.size
  simp only [split, Line.drop, Prog.run_seq, hhold, Option.bind_some, Prog.run_free, hfree]
  cases hwords : words line.text with
  | nil =>
    have hheld : ({ m with heap := base.grown (Words.cost []) 1 } : Machine σ).heap = base.grown (Words.cost []) 1 := rfl
    have hdrop := Words.run_drop_grown (K := K) ⟨[]⟩ hheld
    simp [hdrop]
  | cons word args => rfl

/-- A line whose words are refused is given back once that is said. -/
theorem run_split_refused (h : m.heap = base.grown line.size 1)
    (hroom : base.admits (base.inUse + line.size + Words.cost (words line.text)) = false) :
    (split (.ok line)).run K m =
      (reject.run K m).map fun x => (.error x.1, { x.2 with heap := x.2.heap.free line.size }) := by
  have hhold : (Words.ofLine line.text).run K m = _ := Words.run_hold_eq (words line.text) m
  rw [h, Heap.admits_grown, Heap.grown_inUse, hroom, if_neg Bool.false_ne_true] at hhold
  simp only [split, Line.drop, Prog.run_seq, hhold, Option.bind_some]
  cases reject.run K m <;> rfl

end Split

variable (depth : Nat)

/-- On a console that takes it, the diagnostic is all that becomes of a rejected line. -/
theorem run_reject_shown {m : Machine Sim} (hconsole : m.state.room = none) :
    reject.run (Sim.kernel depth) m = some (.rejected, m.shownParts [readFailed, "\n"]) := by
  rw [reject, Prog.run_seq, Sim.run_printParts_ok depth _ hconsole]
  rfl

/-- **Splitting what a reader answers** comes to the words for which there is room. -/
theorem run_split_answer {m : Machine Sim} {heap : Heap} {script : Script} {line : Bytes}
    (hconsole : m.state.room = none) :
    (split (Reader.answer heap (some line)).1).run (Sim.kernel depth)
        (m.facing (Reader.answer heap (some line)).2 script) =
      some (match heap.split? (lineBody line) with
        | none => (.error .rejected, (m.shownParts [readFailed, "\n"]).facing heap script)
        | some [] => (.error .empty, m.facing heap script)
        | some (word :: args) => (.ok ⟨word :: args⟩,
            m.facing (heap.grown (Words.cost (word :: args)) (args.length + 2)) script)) := by
  have hrejected (held : Heap) : reject.run (Sim.kernel depth) (m.facing held script) =
      some (.rejected, (m.shownParts [readFailed, "\n"]).facing held script) := by
    rw [run_reject_shown depth (m := m.facing held script) hconsole, Machine.shownParts_facing]
  rw [Heap.split?, Reader.answer]
  cases hblock : heap.admits (heap.inUse + blockSize (lineBody line).length) with
  | false =>
    -- what does not hold the line does not hold it with its words
    have hnone : (Text.decode? (lineBody line)).bind (fun text =>
        if heap.admits (heap.inUse + blockSize (lineBody line).length + Words.cost (words text)) then
          some (words text) else none) = none := by
      refine Option.bind_eq_none_iff.2 fun text _ => if_neg fun hadmits => ?_
      rw [Heap.admits_mono (Nat.le_add_right _ _) hadmits] at hblock
      cases hblock
    rw [hnone, if_neg Bool.false_ne_true, split_error (by simp), hrejected]
    rfl
  | true =>
    rw [if_pos rfl]
    cases Text.decode? (lineBody line) with
    | none =>
      dsimp only
      rw [split_error (by simp), hrejected]
      rfl
    | some text =>
      let l : Line := ⟨text, blockSize (lineBody line).length⟩
      have hheld : (m.facing (heap.grown l.size 1) script).heap = heap.grown l.size 1 := rfl
      rw [Option.bind_some]
      cases hroom : heap.admits (heap.inUse + blockSize (lineBody line).length + Words.cost (words text)) with
      | true =>
        rw [if_pos rfl]
        refine (run_split_granted hheld hroom).trans ?_
        cases words text <;> rfl
      | false =>
        have hsplit : (split (.ok l)).run (Sim.kernel depth) _ = _ := run_split_refused hheld hroom
        rw [hrejected, Option.map_some, Machine.facing_heap, Heap.free_grown_self, Machine.facing_with_heap] at hsplit
        rw [if_neg Bool.false_ne_true]
        exact hsplit

/-! ## One pass -/

/-- A pass that reads the console starts nothing if its line does not split into words. -/
theorem started_none {σ : Type} {K : Kernel σ} {supply : Nat} {sh : Shell} {m m₁ m₂ : Machine σ} {r r' : Reader}
    {line : Except ReadError Line} {pass : Pass} (hsource : sh.input = .console r)
    (hread : (r.readLine supply sh.prompt).run K m = some ((line, r'), m₁))
    (hsplit : (split line).run K m₁ = some (.error pass, m₂)) : sh.started K supply m = none := by
  simp only [started, nextLine_console hsource, Prog.run_seq, hread, Option.bind_some, Prog.run_pure, hsplit]

section Step

variable {sh : Shell} {m : Machine Sim} {r : Reader} {script : Script} {line rest : Bytes} {supply : Nat}
  (hsource : sh.input = .console r) (hinput : m.state.input = .script script) (hr : r.Expects script (line ++ rest))
  (hline : FirstLine line rest) (hconsole : m.state.room = none) (hsupply : Sim.supply m ≤ supply)

include hsource hinput hr hline hconsole hsupply

/-- What a pass makes of the next line, told from the words for which there is room. -/
theorem step_split? : ∃ r' script',
    (m.heap.split? (lineBody line) = none →
      sh.started (Sim.kernel depth) supply m = none ∧
      sh.step (Sim.kernel depth) supply m = some ((.rejected, { sh with input := .console r' }),
        ((m.shown sh.prompt).shownParts [readFailed, "\n"]).facing m.heap script')) ∧
    (m.heap.split? (lineBody line) = some [] →
      sh.started (Sim.kernel depth) supply m = none ∧
      sh.step (Sim.kernel depth) supply m =
        some ((.empty, { sh with input := .console r' }), (m.shown sh.prompt).facing m.heap script')) ∧
    ∀ word args, m.heap.split? (lineBody line) = some (word :: args) →
      let held := m.heap.grown (Words.cost (word :: args)) (args.length + 2)
      sh.started (Sim.kernel depth) supply m = some (⟨word :: args⟩, (m.shown sh.prompt).facing held script') ∧
      sh.step (Sim.kernel depth) supply m =
        ((sh.carryOut ⟨word :: args⟩).run (Sim.kernel depth) ((m.shown sh.prompt).facing held script')).map fun x =>
          ((x.1, { sh with input := .console r' }), x.2) := by
  have hprompt : sh.prompt = "" ∨ m.state.room ≠ some 0 := .inr (by simp [hconsole])
  have hstate := Machine.shown_state sh.prompt hconsole
  obtain ⟨r', script', hread⟩ := Reader.run_readLine_answer depth hprompt hr hline (Sim.supply_eq hinput ▸ hsupply)
  rw [Machine.facing_self hinput] at hread
  have hsplit : (split (Reader.answer m.heap (some line)).1).run (Sim.kernel depth)
      ((m.shown sh.prompt).facing (Reader.answer m.heap (some line)).2 script') = _ :=
    run_split_answer depth (by rw [hstate, hconsole])
  have hstep : sh.step (Sim.kernel depth) supply m = _ := step_console hsource
  rw [hread, Option.bind_some, run_perform, hsplit, Option.bind_some] at hstep
  refine ⟨r', script', fun hwords => ?_, fun hwords => ?_, fun word args hwords => ?_⟩
  all_goals rw [hwords] at hstep hsplit
  · exact ⟨started_none hsource hread hsplit, hstep⟩
  · exact ⟨started_none hsource hread hsplit, hstep⟩
  · exact ⟨started_console hsource hread hsplit, hstep⟩

/-- **A pass on a console that works.** It rejects the next line exactly where that is no text, or the heap does not admit
its block, a slot for each of its words, and the bytes of these words, all at once. Then nothing is started, and only the
prompt and the diagnostic are printed. Otherwise the pass is empty if there are no words, and carries out just the words if
there are some. -/
theorem step_line :
    ((∃ sh' m', sh.step (Sim.kernel depth) supply m = some ((.rejected, sh'), m')) ↔
      Text.decode? (lineBody line) = none ∨ ∃ text, Text.decode? (lineBody line) = some text ∧
        m.heap.admits (m.heap.inUse + blockSize (lineBody line).length +
          ((words text).length * Words.slotSize + Words.sizes (words text))) = false) ∧
    (∀ sh' m', sh.step (Sim.kernel depth) supply m = some ((.rejected, sh'), m') →
      sh.started (Sim.kernel depth) supply m = none ∧ m'.heap = m.heap ∧
      (∃ script', m'.state = { m.state with input := .script script' }) ∧
      m'.terminal.output = m.terminal.output ++ Text.bytes sh.prompt ++ Text.bytes (readFailed ++ "\n")) ∧
    ∀ text, Text.decode? (lineBody line) = some text →
      m.heap.admits (m.heap.inUse + blockSize (lineBody line).length +
        ((words text).length * Words.slotSize + Words.sizes (words text))) = true →
      ∃ sh', (words text = [] → sh.started (Sim.kernel depth) supply m = none ∧
          ∃ m', sh.step (Sim.kernel depth) supply m = some ((.empty, sh'), m')) ∧
        (words text ≠ [] → ∃ m₁, sh.started (Sim.kernel depth) supply m = some (⟨words text⟩, m₁) ∧
          sh.step (Sim.kernel depth) supply m =
            ((sh.carryOut ⟨words text⟩).run (Sim.kernel depth) m₁).map fun x => ((x.1, sh'), x.2)) := by
  have hstate := Machine.shown_state sh.prompt hconsole
  have hprompted : (m.shown sh.prompt).state.room = none := by rw [hstate, hconsole]
  obtain ⟨r', script', hrejected, hempty, hsome⟩ :=
    step_split? depth hsource hinput hr hline hconsole hsupply
  -- a pass that carries out words completes
  have honly {sh' : Shell} {m' : Machine Sim} (hstep : sh.step (Sim.kernel depth) supply m = some ((.rejected, sh'), m')) :
      m.heap.split? (lineBody line) = none := by
    match hwords : m.heap.split? (lineBody line) with
    | none => rfl
    | some [] =>
      rw [(hempty hwords).2] at hstep
      cases hstep
    | some (word :: args) =>
      rw [(hsome word args hwords).2] at hstep
      obtain ⟨⟨pass, _⟩, hcarried, heq⟩ := Option.map_eq_some_iff.1 hstep
      obtain ⟨_, _, -, -, rfl⟩ := carryOut_cases hcarried
      cases heq
  refine ⟨Iff.trans ⟨fun ⟨_, _, hstep⟩ => honly hstep, fun hwords => ⟨_, _, (hrejected hwords).2⟩⟩
    Heap.split?_eq_none_iff, ?_, ?_⟩
  · intro sh' m' hstep
    obtain ⟨hstarted, hstep'⟩ := hrejected (honly hstep)
    cases hstep.symm.trans hstep'
    refine ⟨hstarted, rfl, ⟨script', ?_⟩, ?_⟩
    · simp only [Machine.facing, Machine.shownParts_state _ hprompted, hstate]
    · rw [← Machine.output_shown sh.prompt (.inr (by simp [hconsole]))]
      exact Machine.output_shownParts _ hprompted
  · intro text htext hroom
    have hwords : m.heap.split? (lineBody line) = some (words text) := by
      rw [Heap.split?, htext, Option.bind_some, Words.cost, if_pos hroom]
    refine ⟨{ sh with input := .console r' }, fun hnil => ?_, fun hne => ?_⟩
    · obtain ⟨hstarted, hstep⟩ := hempty (hnil ▸ hwords)
      exact ⟨hstarted, _, hstep⟩
    · obtain ⟨word, args, hcons⟩ := List.exists_cons_of_ne_nil hne
      obtain ⟨hstarted, hstep⟩ := hsome word args (hcons ▸ hwords)
      rw [hcons]
      exact ⟨_, hstarted, hstep⟩

end Step

/-- With three bytes in use, a line of three bytes that is one word takes the use to 50: four bytes for the line, 40 for
the slot and three for the word. One byte less, and the line is rejected. -/
theorem step_line_at_limit :
    let line := Text.bytes "pwd" ++ [newline]
    let rest := Text.bytes "cd /tmp\n"
    let script : Script := [.data (line ++ rest)]
    let r := Reader.ofChunk (64 : UInt64).toNat
    let sh : Shell := { input := .console r, builtins := .standard Usage.builtins }
    let m (most : Nat) : Machine Sim := { heap := ⟨some most, 3, 1⟩, state := Sim.booted (.script script) }
    sh.input = .console r ∧ (Sim.booted (.script script)).input = .script script ∧ r.Expects script (line ++ rest) ∧
      FirstLine line rest ∧ (Sim.booted (.script script)).room = none ∧
      (∃ sh' m', sh.step (Sim.kernel 1) (Sim.supply (m 49)) (m 49) = some ((.rejected, sh'), m') ∧
        sh.started (Sim.kernel 1) (Sim.supply (m 49)) (m 49) = none ∧
        m'.terminal.output = Text.bytes "$ shell: failed to read the command\n") ∧
      ∃ m₁, sh.started (Sim.kernel 1) (Sim.supply (m 50)) (m 50) = some (⟨["pwd"]⟩, m₁) := by
  intro line rest script r sh m
  obtain ⟨hinput, hconsole⟩ := Sim.booted_console (.script script)
  have hr : r.Expects script (line ++ rest) := Reader.ofChunk_expects 64 (by simp [script]) (by decide +kernel)
  have hline : FirstLine line rest := .ended (by decide +kernel) rest
  have htext : Text.decode? (lineBody line) = some "pwd" := by
    rw [lineBody_ended (by decide +kernel), Text.decode?_bytes]
  have hsource : sh.input = .console r := rfl
  have hinput' (most : Nat) : (m most).state.input = .script script := hinput
  have hconsole' (most : Nat) : (m most).state.room = none := hconsole
  have hsupply (most : Nat) : Sim.supply (m most) ≤ Sim.supply (m most) := Nat.le_refl _
  obtain ⟨hrejected, hprints, -⟩ := step_line 1 hsource (hinput' 49) hr hline (hconsole' 49) (hsupply 49)
  obtain ⟨sh', m', hstep⟩ := hrejected.2 (.inr ⟨"pwd", htext, by decide +kernel⟩)
  obtain ⟨hnone, -, -, houtput⟩ := hprints sh' m' hstep
  obtain ⟨-, -, hcarried⟩ := step_line 1 hsource (hinput' 50) hr hline (hconsole' 50) (hsupply 50)
  obtain ⟨_, -, hstarted⟩ := hcarried "pwd" htext (by decide +kernel)
  have hwords : words "pwd" = ["pwd"] := by decide +kernel
  rw [hwords] at hstarted
  obtain ⟨m₁, hstarted, -⟩ := hstarted (by simp)
  exact ⟨hsource, hinput, hr, hline, hconsole, ⟨sh', m', hstep, hnone, houtput.trans (by decide +kernel)⟩, m₁, hstarted⟩

end Shell

end LineShell
