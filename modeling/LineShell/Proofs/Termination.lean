import LineShell.Builtin.Usage
import LineShell.Proofs.Pass
import LineShell.Proofs.Reading
import LineShell.Proofs.Sim.Typing

/-!
# When the command loop ends

A pass writes the prompt and asks the heap for one byte before it looks at the input. Where either is refused the shell
is `Stalled`: the pass is rejected, nothing is taken from the input, and the next pass is refused the same way, also at
the end of the input. Every other pass takes something, or meets the end.

- `Shell.step_left`: what one pass does to the input that is left;
- `Shell.run_isSome_iff`: on a finite script the loop ends exactly if it never comes to a stalled shell.
-/

namespace LineShell

/-! ## Input only gets less -/

theorem Machine.shown_worn (m : Machine Sim) (text : String) : m.state.Worn (m.shown text).state := by
  unfold shown
  split
  · exact .of_eq rfl
  · exact Sim.writeConsole_worn m _

/-- The console lost some of its input at most, and takes no more writes than it would have taken. -/
structure Sim.Drains (m m' : Machine Sim) : Prop where
  worn : m.state.Worn m'.state
  input_le : ∀ script, m.state.input = .script script →
    ∃ script', m'.state.input = .script script' ∧ script'.arrivals.length ≤ script.arrivals.length

namespace Sim.Drains

theorem of_input_eq {m m' : Machine Sim} (hworn : m.state.Worn m'.state) (hinput : m'.state.input = m.state.input) :
    Drains m m' :=
  ⟨hworn, fun script h => ⟨script, by rw [hinput, h], Nat.le_refl _⟩⟩

theorem trans {a b c : Machine Sim} (hab : Drains a b) (hbc : Drains b c) : Drains a c := by
  refine ⟨hab.worn.trans hbc.worn, fun script h => ?_⟩
  obtain ⟨script', h', hle⟩ := hab.input_le script h
  obtain ⟨script'', h'', hle'⟩ := hbc.input_le script' h'
  exact ⟨script'', h'', Nat.le_trans hle' hle⟩

theorem readConsole (m : Machine Sim) (count : Nat) : Drains m (readConsole m count).2 := by
  cases hinput : m.state.input with
  | standard =>
    unfold Sim.readConsole
    rw [hinput]
    exact .of_input_eq (.of_eq rfl) rfl
  | script script =>
    rw [← Machine.facing_self hinput, readConsole_facing]
    refine ⟨.of_eq rfl, fun script' h => ⟨(script.read count).2, rfl, ?_⟩⟩
    cases h
    exact Script.read_le count script

theorem writeConsole (m : Machine Sim) (data : Bytes) : Drains m (writeConsole m data).2 := by
  obtain ⟨terminal, heq⟩ := writeConsole_eq m data
  exact .of_input_eq (writeConsole_worn m data) (by rw [heq]; rfl)

/-- Whatever programs do, the console only loses input. -/
theorem kept : Kept Drains where
  refl _ := .of_input_eq (.of_eq rfl) rfl
  trans := trans
  heap _ _ := .of_input_eq (.of_eq rfl) rfl
  read := readConsole
  write := writeConsole
  change _ _ _ h := .of_input_eq (.of_eq h.moves.room_eq) h.moves.input_eq
  wait m m₁ _ _ _ htake h := by
    obtain ⟨id, -, rfl⟩ := take_eq htake
    exact ⟨h.worn, h.input_le⟩

end Sim.Drains

/-! ## What reading takes -/

/-- A line takes something from the arrivals, or there is none. -/
theorem Draft.take_consumes : ∀ (arrivals : List Arrival) (d : Draft) (heap : Heap),
    (d.take heap arrivals).result = .error .endOfInput ∨
      (d.take heap arrivals).left.length < d.length + arrivals.length
  | [], d, heap => by
    unfold take
    split
    · exact .inl rfl
    · rw [close_left]
      exact .inr (by simp; omega)
  | .fault :: rest, d, heap => .inr (by simp [take]; omega)
  | .byte b :: rest, d, heap => by
    have hpush (d : Draft) : (d.push b).length = d.length + 1 := rfl
    rw [List.length_cons]
    unfold take
    by_cases hb : b = newline
    · rw [if_pos hb, close_left]
      exact .inr (by omega)
    · rw [if_neg hb]
      by_cases hroom : d.length < d.size
      · rw [if_pos hroom]
        refine (take_consumes rest (d.push b) heap).imp_right fun h => ?_
        rw [hpush] at h
        omega
      · rw [if_neg hroom]
        cases d.doubled heap with
        | none => exact .inr (by dsimp only; omega)
        | some heap =>
          refine (take_consumes rest (Draft.push { d with size := d.size * 2 } b) heap).imp_right fun h => ?_
          rw [hpush] at h
          dsimp only at h ⊢
          omega

/-- Passing over the rest of a line takes the fault that breaks it off. -/
theorem dropLine_consumes : ∀ arrivals : List Arrival, (dropLine arrivals).2.length ≤ arrivals.length ∧
    ((dropLine arrivals).1 = false → (dropLine arrivals).2.length < arrivals.length)
  | [] => by simp [dropLine]
  | .fault :: rest => by simp [dropLine]
  | .byte b :: rest => by
    obtain ⟨hle, hlt⟩ := dropLine_consumes rest
    simp only [dropLine, List.length_cons]
    split
    · simp
    · exact ⟨by omega, fun h => by have := hlt h; omega⟩

theorem skipped_consumes (skipping : Bool) (arrivals : List Arrival) :
    (skipped skipping arrivals).2.length ≤ arrivals.length ∧
      ((skipped skipping arrivals).1 = false → (skipped skipping arrivals).2.length < arrivals.length) := by
  unfold skipped
  split
  · exact dropLine_consumes arrivals
  · simp

namespace Taken

variable {heap : Heap} (skipping : Bool) (arrivals : List Arrival)

/-- With a byte of heap to begin with, reading takes something or meets the end. -/
theorem ofArrivals_consumes (hheap : heap.admits (heap.inUse + 1)) :
    (ofArrivals heap skipping arrivals).result = .error .endOfInput ∨
      (ofArrivals heap skipping arrivals).left.length < arrivals.length := by
  obtain ⟨hle, hlt⟩ := skipped_consumes skipping arrivals
  unfold ofArrivals
  cases hskipped : skipped skipping arrivals with | mk done left =>
  rw [hskipped] at hle hlt
  cases done with
  | false => exact .inr (hlt rfl)
  | true =>
    simp only [Heap.malloc_one, hheap, ↓reduceIte]
    refine (Draft.take_consumes left {} _).imp_right fun h => ?_
    dsimp only at h hle
    omega

/-- Without it, reading fails and the heap stays as it is. -/
theorem ofArrivals_refused (hheap : heap.admits (heap.inUse + 1) = false) :
    (∃ e, (ofArrivals heap skipping arrivals).result = .error e ∧ e ≠ .endOfInput) ∧
      (ofArrivals heap skipping arrivals).heap = heap := by
  unfold ofArrivals
  obtain ⟨_ | _, left⟩ := skipped skipping arrivals
  · exact ⟨⟨_, rfl, by simp⟩, rfl⟩
  · rw [Heap.malloc_one, hheap]
    exact ⟨⟨_, rfl, by simp⟩, rfl⟩

end Taken

/-! ## One pass -/

namespace Shell

/-- Reading a line cannot begin: the console refuses the prompt, or the heap refuses a byte. -/
def Stalled (sh : Shell) (m : Machine Sim) : Prop :=
  (sh.prompt ≠ "" ∧ m.state.room = some 0) ∨ m.heap.admits (m.heap.inUse + 1) = false

/-- The bytes and faults of the input that are left, in the batch and on the console. -/
def left (sh : Shell) (m : Machine Sim) : Nat :=
  sh.input.ready m.terminal + Sim.supply m

/-- The shell reads the console, on which there is a script. -/
def Attends (sh : Shell) (m : Machine Sim) : Prop :=
  ∃ r script arrivals skipping, sh.input = .console r ∧ m.state.input = .script script ∧
    r.Awaits script arrivals skipping

theorem left_eq (sh : Shell) {m : Machine Sim} {r : Reader} {script : Script} {arrivals : List Arrival}
    {skipping : Bool} (hsource : sh.input = .console r) (hinput : m.state.input = .script script)
    (hr : r.Awaits script arrivals skipping) : sh.left m = arrivals.length := by
  rw [left, hsource, LineSource.ready, Sim.supply_eq hinput, ← hr.arrivals_eq, List.length_append, List.length_map]

section Step

variable (depth : Nat) {supply : Nat} {sh sh' : Shell} {m m' : Machine Sim} {pass : Pass}

/-- What reading the line of a pass leaves: no more input than before, less if a line was read, and a stalled shell as
stalled as before. -/
theorem readLine_attends (hsh : sh.Attends m) (hsupply : Sim.supply m ≤ supply) : ∃ r line r' m₁,
    sh.input = .console r ∧ (r.readLine supply sh.prompt).run (Sim.kernel depth) m = some ((line, r'), m₁) ∧
    ({ sh with input := .console r' } : Shell).Attends m₁ ∧ m.state.Worn m₁.state ∧
    Sim.supply m₁ ≤ Sim.supply m ∧
    (¬sh.Stalled m → line = .error .endOfInput ∨ ({ sh with input := .console r' } : Shell).left m₁ < sh.left m) ∧
    (sh.Stalled m → (∃ e, line = .error e ∧ e ≠ .endOfInput) ∧ m₁.heap = m.heap) := by
  obtain ⟨r, script, arrivals, skipping, hsource, hinput, hr⟩ := hsh
  have hscript := Sim.supply_eq hinput
  by_cases hprompt : sh.prompt ≠ "" ∧ m.state.room = some 0
  · exact ⟨r, _, r, m, hsource, Reader.run_readLine_refused depth m supply r hprompt.1 hprompt.2,
      ⟨r, script, arrivals, skipping, rfl, hinput, hr⟩, .of_eq rfl, Nat.le_refl _, fun h => absurd (.inl hprompt) h,
      fun _ => ⟨⟨_, rfl, by simp⟩, rfl⟩⟩
  · have hshown : sh.prompt = "" ∨ m.state.room ≠ some 0 :=
      Decidable.or_iff_not_imp_left.2 (not_and.1 hprompt)
    obtain ⟨r', script', hrun, hr', -, -, hle⟩ :=
      Reader.run_readLine depth m m.heap hr (hscript ▸ hsupply) hshown
    rw [Machine.facing_self hinput] at hrun
    refine ⟨r, _, r', _, hsource, hrun, ⟨r', script', _, _, rfl, rfl, hr'⟩, ?_, ?_, fun hstalled => ?_,
      fun hstalled => ?_⟩
    · exact m.shown_worn sh.prompt
    · rw [hscript, Sim.supply_eq rfl]
      exact hle
    · have hheap : m.heap.admits (m.heap.inUse + 1) = true := by
        simpa using fun h => hstalled (.inr h)
      rw [left_eq { sh with input := .console r' } rfl rfl hr', left_eq sh hsource hinput hr]
      exact Taken.ofArrivals_consumes skipping arrivals hheap
    · exact Taken.ofArrivals_refused skipping arrivals (hstalled.resolve_left hprompt)

/-- A rejection leaves the heap alone. -/
theorem reject_yields (m : Machine Sim) :
    reject.Yields (Sim.kernel depth) m fun pass m' => pass = .rejected ∧ m'.heap = m.heap :=
  (Sim.printParts_wrote depth [readFailed, "\n"] m).seq fun _ _ h => .of_run rfl ⟨rfl, h.heap_eq⟩

/-- **What one pass does to the input.** A stalled shell rejects, and stays stalled; any other one takes something from
the input, or meets its end. -/
theorem step_left (hsh : sh.Attends m) (hsupply : Sim.supply m ≤ supply)
    (h : sh.step (Sim.kernel depth) supply m = some ((pass, sh'), m')) :
    sh'.Attends m' ∧ Sim.supply m' ≤ Sim.supply m ∧
    (¬sh.Stalled m → pass = .endOfInput ∨ sh'.left m' < sh.left m) ∧
    (sh.Stalled m → pass = .rejected ∧ sh'.Stalled m') := by
  obtain ⟨r, line, r₁, m₁, hsource, hread, hattends, hworn, hle, hlive, hstalled⟩ :=
    readLine_attends depth hsh hsupply
  obtain ⟨_, _, _, hread', rfl, hperform, hend⟩ := step_cases hsource h
  cases hread.symm.trans hread'
  obtain ⟨_, script₁, arrivals₁, skipping₁, hsource₁, hinput₁, hr₁⟩ := hattends
  cases hsource₁
  -- what comes after reading the line only makes the input less
  obtain ⟨hworn', hinput'⟩ := (Sim.Drains.kept.kernel depth).run _ hperform
  obtain ⟨script', hinput', hle'⟩ := hinput' script₁ hinput₁
  have hr' : r₁.Awaits script' (r₁.unread.map .byte ++ script'.arrivals) skipping₁ :=
    hr₁.drained hle'
  have hsupply₁ := Sim.supply_eq hinput₁
  have hsupply' := Sim.supply_eq hinput'
  refine ⟨⟨r₁, script', _, _, rfl, hinput', hr'⟩, by omega, fun h => ?_, fun hstall => ?_⟩
  · refine (hlive h).imp hend.1 fun hlt => ?_
    simp only [left, LineSource.ready] at hlt ⊢
    omega
  · obtain ⟨⟨e, rfl, he⟩, hheap⟩ := hstalled hstall
    obtain ⟨_, m₂, hreject, rfl, hheap₂⟩ := reject_yields depth m₁
    rw [run_perform, split_error he, hreject] at hperform
    cases hperform
    refine ⟨rfl, hstall.imp (fun hprompt => ⟨hprompt.1, (hworn.trans hworn').zero hprompt.2⟩) fun hfull => ?_⟩
    rw [hheap₂, hheap, hfull]

end Step

/-! ## Runs -/

section Runs

variable {σ : Type} (K : Kernel σ) (supply : Nat)

/-- What passes come to that do not meet the end of the input. -/
inductive Reaches (sh : Shell) (m : Machine σ) : Shell → Machine σ → Prop
  | refl : Reaches sh m sh m
  | step {sh' sh'' : Shell} {m' m'' : Machine σ} {pass : Pass} : Reaches sh m sh' m' →
      sh'.step K supply m' = some ((pass, sh''), m'') → pass ≠ .endOfInput → Reaches sh m sh'' m''

variable {K supply} {sh sh' : Shell} {m m' : Machine σ} {pass : Pass}

/-- A pass that does not meet the end of the input is followed by others. -/
theorem runFor_step (rounds : Nat) (hstep : sh.step K supply m = some ((pass, sh'), m'))
    (hpass : pass ≠ .endOfInput) : sh.runFor K supply (rounds + 1) m = sh'.runFor K supply rounds m' := by
  rw [runFor, hstep]
  cases pass
  case endOfInput => exact absurd rfl hpass
  all_goals rfl

/-- A pass changes nothing about a shell but its input. -/
theorem step_shell (hstep : sh.step K supply m = some ((pass, sh'), m')) :
    ∃ input, sh' = { sh with input := input } := by
  obtain ⟨x, -, heq⟩ := Option.map_eq_some_iff.1 hstep
  cases heq
  exact ⟨_, rfl⟩

/-- Shells along a run dispatch commands alike. -/
theorem Reaches.dispatch_eq (h : Reaches K supply sh m sh' m') : sh'.dispatch = sh.dispatch := by
  induction h with
  | refl => rfl
  | step _ hstep _ ih =>
    obtain ⟨input, rfl⟩ := step_shell hstep
    exact ih

/-- A run that ends does so from every state that it comes to. -/
theorem Reaches.runFor_isSome (h : Reaches K supply sh m sh' m') {rounds : Nat}
    (hrun : (runFor K supply rounds sh m).isSome) : ∃ rounds', (runFor K supply rounds' sh' m').isSome := by
  induction h with
  | refl => exact ⟨rounds, hrun⟩
  | step _ hstep hpass ih =>
    obtain ⟨rounds', hrun'⟩ := ih
    cases rounds' with
    | zero => cases hrun'
    | succ rounds' => exact ⟨rounds', by rwa [runFor_step rounds' hstep hpass] at hrun'⟩

end Runs

section Sim

variable {depth : Nat} {sh sh' : Shell} {m m' : Machine Sim}

/-- A run keeps to its script, and its input only gets less. -/
theorem Reaches.attends {supply : Nat} (h : Reaches (Sim.kernel depth) supply sh m sh' m') (hsh : sh.Attends m)
    (hsupply : Sim.supply m ≤ supply) : sh'.Attends m' ∧ Sim.supply m' ≤ supply := by
  induction h with
  | refl => exact ⟨hsh, hsupply⟩
  | step _ hstep _ ih =>
    obtain ⟨hsh', hle, -⟩ := step_left depth ih.1 ih.2 hstep
    exact ⟨hsh', Nat.le_trans hle ih.2⟩

/-- A stalled shell goes on for ever. -/
theorem Stalled.runFor_eq_none {supply : Nat} (rounds : Nat) (h : sh.Stalled m) (hsh : sh.Attends m)
    (hsupply : Sim.supply m ≤ supply) : sh.runFor (Sim.kernel depth) supply rounds m = none := by
  induction rounds generalizing sh m with
  | zero => rfl
  | succ rounds ih =>
    cases hstep : sh.step (Sim.kernel depth) supply m with
    | none => rw [runFor, hstep]
    | some x =>
      obtain ⟨⟨pass, sh'⟩, m'⟩ := x
      obtain ⟨hsh', hle, -, hstalled⟩ := step_left depth hsh hsupply hstep
      obtain ⟨rfl, h'⟩ := hstalled h
      rw [runFor_step rounds hstep (by simp)]
      exact ih h' hsh' (Nat.le_trans hle hsupply)

/-- Passes that take something each come to the end of the input in as many rounds as there is input, and one more. -/
theorem Reaches.runFor_isSome_of_live {supply : Nat} (hsh : sh.Attends m) (hsupply : Sim.supply m ≤ supply)
    (hlive : ∀ sh' m', Reaches (Sim.kernel depth) supply sh m sh' m' → ¬sh'.Stalled m')
    (hends : ∀ sh' m', Reaches (Sim.kernel depth) supply sh m sh' m' →
      ∀ ws m₁, sh'.started (Sim.kernel depth) supply m' = some (ws, m₁) →
        ((sh'.dispatch ws.toList).run (Sim.kernel depth) m₁).isSome)
    (rounds : Nat) (h : Reaches (Sim.kernel depth) supply sh m sh' m') (hrounds : sh'.left m' < rounds) :
    (sh'.runFor (Sim.kernel depth) supply rounds m').isSome := by
  induction rounds generalizing sh' m' with
  | zero => omega
  | succ rounds ih =>
    obtain ⟨hsh', hsupply'⟩ := h.attends hsh hsupply
    obtain ⟨r, line, r₁, m₁, hsource, hread, -⟩ := readLine_attends depth hsh' hsupply'
    have hstep : (sh'.step (Sim.kernel depth) supply m').isSome :=
      step_isSome (Sim.kernel_prints depth) hsource (by rw [hread]; rfl) (hends sh' m' h)
    obtain ⟨⟨⟨pass, sh''⟩, m''⟩, hstep⟩ := Option.isSome_iff_exists.1 hstep
    obtain ⟨-, -, htakes, -⟩ := step_left depth hsh' hsupply' hstep
    by_cases hpass : pass = .endOfInput
    · subst hpass
      rw [runFor, hstep]
      rfl
    · have hlt := (htakes (hlive sh' m' h)).resolve_left hpass
      rw [runFor_step rounds hstep hpass]
      exact ih (h.step hstep hpass) (by omega)

/-- **When the loop ends.** On a finite script, with commands that end, the loop ends exactly if it never comes to a
stalled shell. Of the passes that it comes to, those of a stalled shell are rejected and leave it stalled, and every
other one takes something from the input or meets its end. -/
theorem run_isSome_iff {r : Reader} {script : Script} {arrivals : List Arrival} {skipping : Bool}
    (hsource : sh.input = .console r) (hinput : m.state.input = .script script)
    (hr : r.Awaits script arrivals skipping)
    (hends : ∀ sh' m', Reaches (Sim.kernel depth) (Sim.supply m) sh m sh' m' →
      ∀ ws m₁, sh'.started (Sim.kernel depth) (Sim.supply m) m' = some (ws, m₁) →
        ((sh'.dispatch ws.toList).run (Sim.kernel depth) m₁).isSome) :
    ((sh.run (Sim.kernel depth) m).isSome ↔
      ∀ sh' m', Reaches (Sim.kernel depth) (Sim.supply m) sh m sh' m' → ¬sh'.Stalled m') ∧
    ∀ sh' m', Reaches (Sim.kernel depth) (Sim.supply m) sh m sh' m' → ∀ pass sh'' m'',
      sh'.step (Sim.kernel depth) (Sim.supply m) m' = some ((pass, sh''), m'') →
        (¬sh'.Stalled m' → pass = .endOfInput ∨ sh''.left m'' < sh'.left m') ∧
        (sh'.Stalled m' → pass = .rejected ∧ sh''.Stalled m'') := by
  have hsh : sh.Attends m := ⟨r, script, arrivals, skipping, hsource, hinput, hr⟩
  refine ⟨⟨fun hrun sh' m' h hstalled => ?_, fun hlive => ?_⟩, fun sh' m' h pass sh'' m'' hstep => ?_⟩
  · obtain ⟨rounds, hrun'⟩ := h.runFor_isSome hrun
    obtain ⟨hsh', hsupply'⟩ := h.attends hsh (Nat.le_refl _)
    rw [hstalled.runFor_eq_none rounds hsh' hsupply'] at hrun'
    cases hrun'
  · refine Reaches.runFor_isSome_of_live hsh (Nat.le_refl _) hlive hends _ .refl ?_
    have hbatch : Sim.supply m ≤ Sim.supply m * r.chunk := Nat.le_mul_of_pos_right _ hr.chunk_pos
    simp only [rounds, hsource, LineSource.batchSize, left, LineSource.ready, Sim.kernel]
    omega
  · obtain ⟨hsh', hsupply'⟩ := h.attends hsh (Nat.le_refl _)
    exact (step_left depth hsh' hsupply' hstep).2.2

/-- A shell that runs builtins only, on a line, a fault and a line without an end: the loop ends, so it never stalls. -/
theorem run_builtins_never_stalled :
    let sh : Shell := { builtins := .standard Usage.builtins, prefixes := ⟨[]⟩ }
    let script : Script := [.data (Text.bytes "cd /\n"), .fault, .data (Text.bytes "pwd")]
    let m : Machine Sim := { state := Sim.empty (.script script) }
    sh.input = .console (.ofChunk (64 : UInt64).toNat) ∧ m.state.input = .script script ∧
      (Reader.ofChunk (64 : UInt64).toNat).Awaits script script.arrivals false ∧
      ∀ sh' m', Reaches (Sim.kernel 1) (Sim.supply m) sh m sh' m' → ¬sh'.Stalled m' := by
  intro sh script m
  have hr : (Reader.ofChunk (64 : UInt64).toNat).Awaits script script.arrivals false :=
    Reader.ofChunk_awaits 64 (by decide)
  have hends : ∀ sh' m', Reaches (Sim.kernel 1) (Sim.supply m) sh m sh' m' →
      ∀ ws m₁, sh'.started (Sim.kernel 1) (Sim.supply m) m' = some (ws, m₁) →
        ((sh'.dispatch ws.toList).run (Sim.kernel 1) m₁).isSome := by
    intro sh' m' h ws m₁ _
    rw [h.dispatch_eq]
    exact Builtins.standard_ends (Sim.kernel_prints 1) (fun _ _ => rfl) (fun _ => rfl) _ ws.toList m₁
  exact ⟨rfl, rfl, hr, (run_isSome_iff rfl rfl hr hends).1.1 (by decide +kernel)⟩

end Sim

end Shell

end LineShell
