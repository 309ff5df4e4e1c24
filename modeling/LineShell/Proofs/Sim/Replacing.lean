import LineShell.Proofs.LineBlock
import LineShell.Proofs.Sim.Bundled

/-!
# Replaced or untouched

The editor gives back the block of each line before it reads the next one, so every call finds the heap that the first one
found. It opens the file first, reads all lines, and touches the file last.

- `Typed`: the lines that are typed in front of an empty one or of the end, and what is left behind them, both determined
  by what arrives (`Typed.unique`);
- `TypingEnds`: how typing ends, on any heap and with faults on the console; `Program.run_typedLines_ends`: it ends so;
- `Sim.EditEnds`: how editing ends; `Sim.reap_edit`: a process that edits a file ends so;
- `Sim.edit_replaces`: the file is replaced by the lines that were typed, or untouched.
-/

namespace LineShell

/-! ## Lines that are typed -/

/-- A line that is not empty, without its newline. -/
def IsLine (line : Bytes) : Prop :=
  line ≠ [] ∧ newline ∉ line

/-- Lines, each ended by a newline. -/
def endedLines (typed : List Bytes) : Bytes :=
  typed.flatMap (· ++ [newline])

theorem endedLines_cons (line : Bytes) (typed : List Bytes) :
    endedLines (line :: typed) = line ++ newline :: endedLines typed := by
  simp [endedLines]

/-- All lines that are typed in front of the first empty one, or else in front of the end, and what is left behind that.
The last one before the end may lack its newline. -/
inductive Typed : List Bytes → List Arrival → List Arrival → Prop
  | emptyLine (left : List Arrival) : Typed [] (.byte newline :: left) left
  | endOfInput : Typed [] [] []
  | lastLine {line : Bytes} (h : IsLine line) : Typed [line] (line.map .byte) []
  | line {line : Bytes} {typed : List Bytes} {arrivals left : List Arrival} (h : IsLine line) :
    Typed typed arrivals left → Typed (line :: typed) (line.map .byte ++ .byte newline :: arrivals) left

/-- The first line that was typed is the first piece that arrived. -/
theorem Typed.cases_cut {typed : List Bytes} {arrivals left : List Arrival} (h : Typed typed arrivals left) :
    (typed = [] ∧ (cut arrivals).1.bytes = [] ∧ left = (cut arrivals).2) ∨
      ((cut arrivals).1.bytes ≠ [] ∧
        ∃ more, typed = (cut arrivals).1.bytes :: more ∧ Typed more (cut arrivals).2 left) := by
  cases h with
  | emptyLine left => exact .inl ⟨rfl, rfl, rfl⟩
  | endOfInput => exact .inl ⟨rfl, rfl, rfl⟩
  | @lastLine line h =>
    have hcut := cut_append h.2 []
    rw [List.append_nil] at hcut
    rw [hcut]
    exact .inr ⟨by simpa [cut] using h.1, [], by simp [cut], .endOfInput⟩
  | @line line more arrivals left h hmore =>
    rw [cut_append h.2]
    exact .inr ⟨by simpa [cut] using h.1, more, by simp [cut], by simpa [cut] using hmore⟩

/-- What arrives determines what was typed, and what is left. -/
theorem Typed.unique : ∀ {typed typed' : List Bytes} {arrivals left left' : List Arrival},
    Typed typed arrivals left → Typed typed' arrivals left' → typed = typed' ∧ left = left'
  | [], typed', _, _, _, h, h' => by
    rcases h.cases_cut with ⟨-, hnil, rfl⟩ | ⟨-, more, hmore, -⟩
    · rcases h'.cases_cut with ⟨rfl, -, rfl⟩ | ⟨hne, -⟩
      · exact ⟨rfl, rfl⟩
      · exact absurd hnil hne
    · cases hmore
  | _ :: typed, typed', _, _, _, h, h' => by
    rcases h.cases_cut with ⟨hnil, -⟩ | ⟨hne, more, hmore, hrest⟩
    · cases hnil
    · rcases h'.cases_cut with ⟨-, hnil, -⟩ | ⟨-, more', rfl, hrest'⟩
      · exact absurd hnil hne
      · obtain ⟨rfl, rfl⟩ := List.cons.inj hmore
        obtain ⟨rfl, hleft⟩ := unique hrest hrest'
        exact ⟨rfl, hleft⟩

/-- Typed lines are not much longer as they are written than as they arrived. -/
theorem Typed.length_le {typed : List Bytes} {arrivals left : List Arrival} (h : Typed typed arrivals left) :
    (endedLines typed).length ≤ arrivals.length + 1 := by
  induction h with
  | emptyLine left => exact Nat.zero_le _
  | endOfInput => exact Nat.zero_le _
  | lastLine _ => simp [endedLines]
  | line _ _ ih =>
    simp only [endedLines_cons, List.length_append, List.length_cons, List.length_map]
    omega

/-! ## One call -/

/-- Nothing is left behind the last piece. -/
theorem cut_exhausted : ∀ {arrivals : List Arrival}, (cut arrivals).1.stop = .exhausted → (cut arrivals).2 = []
  | [], _ => rfl
  | .fault :: _, h => nomatch h
  | .byte b :: rest, h => by
    by_cases hb : b = newline
    · simp [cut, hb] at h
    · simp only [cut, hb, ↓reduceIte] at h ⊢
      exact cut_exhausted h

theorem Piece.line_eq_ok_iff {bytes : Bytes} {text : String} : line bytes = .ok text ↔ bytes = Text.bytes text := by
  rw [← Text.decode?_eq_some_iff, line]
  cases Text.decode? bytes <;> simp

/-- This text was taken as a line, with its newline or, if it is not empty, to the end. -/
def TakenAsLine (text : String) (arrivals left : List Arrival) : Prop :=
  arrivals = (Text.bytes text).map .byte ++ .byte newline :: left ∨
    text ≠ "" ∧ arrivals = (Text.bytes text).map .byte ∧ left = []

namespace TakenAsLine

variable {text : String} {arrivals left : List Arrival}

/-- What was taken as an empty line is a newline. -/
theorem newline_of_empty (h : TakenAsLine "" arrivals left) : arrivals = .byte newline :: left :=
  h.resolve_right fun h => h.1 rfl

/-- No line is taken for nothing. -/
theorem length_lt (h : TakenAsLine text arrivals left) : left.length < arrivals.length := by
  rcases h with rfl | ⟨hne, rfl, rfl⟩
  · rw [List.length_append, List.length_cons]
    omega
  · rw [List.length_map]
    exact List.length_pos_iff.2 (mt Text.bytes_eq_nil_iff.1 hne)

end TakenAsLine

/-- The first piece, where it is a line, was taken as one. -/
theorem cut_of_ok {arrivals : List Arrival} {text : String} (h : (cut arrivals).1.result = .ok text) :
    (cut arrivals).1.bytes = Text.bytes text ∧ TakenAsLine text arrivals (cut arrivals).2 := by
  have harrivals := cut_arrivals arrivals
  have hexhausted := @cut_exhausted arrivals
  generalize cut arrivals = x at h harrivals hexhausted ⊢
  obtain ⟨⟨bytes, stop⟩, left⟩ := x
  cases stop with
  | fault => cases h
  | newline =>
    obtain rfl := Piece.line_eq_ok_iff.1 h
    exact ⟨rfl, .inl (by simpa [Piece.arrivals] using harrivals.symm)⟩
  | exhausted =>
    obtain rfl := hexhausted rfl
    simp only [Piece.result] at h
    split at h
    · cases h
    · next hne =>
      obtain rfl := Piece.line_eq_ok_iff.1 h
      have htext : text ≠ "" := fun htext => hne (Text.bytes_eq_nil_iff.2 htext)
      exact ⟨rfl, .inr ⟨htext, by simpa [Piece.arrivals] using harrivals.symm, rfl⟩⟩

/-- The end is met only where nothing arrives. -/
theorem cut_of_endOfInput {arrivals : List Arrival} (h : (cut arrivals).1.result = .error .endOfInput) :
    arrivals = [] := by
  have harrivals := cut_arrivals arrivals
  have hexhausted := @cut_exhausted arrivals
  have hline (bytes : Bytes) : Piece.line bytes ≠ .error .endOfInput := by
    rw [Piece.line]
    cases Text.decode? bytes <;> simp
  generalize cut arrivals = x at h harrivals hexhausted
  obtain ⟨⟨bytes, stop⟩, left⟩ := x
  cases stop with
  | fault => cases h
  | newline => exact absurd h (hline bytes)
  | exhausted =>
    obtain rfl := hexhausted rfl
    simp only [Piece.result] at h
    split at h
    · next hnil => simpa [Piece.arrivals, hnil] using harrivals.symm
    · exact absurd h (hline bytes)

namespace Taken.Within

variable {heap : Heap} {arrivals : List Arrival} {t : Taken}

/-- A call that answers a line has taken it. -/
theorem of_ok (h : t.Within heap arrivals) {l : Line} (hresult : t.result = .ok l) :
    t.heap = heap.grown l.size 1 ∧ t.skipping = false ∧ newline ∉ Text.bytes l.text ∧
      TakenAsLine l.text arrivals t.left := by
  cases h with
  | cutOff => cases hresult
  | whole hroom =>
    rw [Piece.taken] at hresult ⊢
    cases hpiece : (cut arrivals).1.result with
    | error e =>
      rw [hpiece] at hresult
      cases hresult
    | ok text =>
      rw [hpiece] at hresult
      cases hresult
      obtain ⟨hbytes, harrivals⟩ := cut_of_ok hpiece
      exact ⟨rfl, rfl, hbytes ▸ newline_not_mem_cut arrivals, harrivals⟩

/-- A call that answers an error keeps nothing, and meets the end only where nothing arrives. -/
theorem of_error (h : t.Within heap arrivals) {e : ReadError} (hresult : t.result = .error e) :
    t.heap = heap ∧ (e = .endOfInput → arrivals = [] ∧ t.left = []) := by
  cases h with
  | cutOff =>
    cases hresult
    exact ⟨rfl, nofun⟩
  | whole hroom =>
    rw [Piece.taken] at hresult ⊢
    cases hpiece : (cut arrivals).1.result with
    | ok text =>
      rw [hpiece] at hresult
      cases hresult
    | error e' =>
      rw [hpiece] at hresult
      cases hresult
      refine ⟨rfl, fun he => ?_⟩
      obtain rfl := cut_of_endOfInput (he ▸ hpiece)
      exact ⟨rfl, rfl⟩

end Taken.Within

/-! ## Typing -/

/-- How typing may end behind some content, on a heap that every call finds again: with the lines that were typed, or in
front of a line that a call could not read. -/
inductive TypingEnds (heap : Heap) (arrivals : List Arrival) (content : String) :
    Except ReadError String → List Arrival → Prop
  | typed {typed : List Bytes} {text : String} {left : List Arrival} : Typed typed arrivals left →
    Text.bytes text = Text.bytes content ++ endedLines typed → TypingEnds heap arrivals content (.ok text) left
  | brokenOff {typed : List Bytes} {behind : List Arrival} {e : ReadError} : (∀ line ∈ typed, IsLine line) →
    arrivals = (endedLines typed).map .byte ++ behind → (Taken.ofArrivals heap false behind).result = .error e →
    e ≠ .endOfInput → TypingEnds heap arrivals content (.error e) (Taken.ofArrivals heap false behind).left

namespace TypingEnds

variable {heap : Heap} {arrivals left : List Arrival} {content text : String} {result : Except ReadError String}

theorem bytes_content (content text : String) :
    Text.bytes (content ++ text ++ "\n") = Text.bytes content ++ (Text.bytes text ++ [newline]) := by
  rw [Text.bytes_append, Text.bytes_append, List.append_assoc]
  rfl

/-- The first call may fail already. -/
theorem atOnce {e : ReadError} (hresult : (Taken.ofArrivals heap false arrivals).result = .error e)
    (he : e ≠ .endOfInput) :
    TypingEnds heap arrivals content (.error e) (Taken.ofArrivals heap false arrivals).left := by
  have hnone : arrivals = (endedLines []).map .byte ++ arrivals := rfl
  exact .brokenOff (List.forall_mem_nil IsLine) hnone hresult he

/-- A line that was read goes in front. -/
theorem line (hline : IsLine (Text.bytes text)) (h : TypingEnds heap arrivals (content ++ text ++ "\n") result left) :
    TypingEnds heap ((Text.bytes text).map .byte ++ .byte newline :: arrivals) content result left := by
  cases h with
  | typed htyped hcontent =>
    refine .typed (.line hline htyped) ?_
    rw [hcontent, bytes_content, endedLines_cons]
    simp
  | brokenOff hlines harrivals hresult he =>
    refine .brokenOff (List.forall_mem_cons.2 ⟨hline, hlines⟩) ?_ hresult he
    rw [harrivals, endedLines_cons]
    simp

/-- Behind the last line there is nothing to read, and that is no failure. -/
theorem lastLine (hheap : heap.admits (heap.inUse + 1) = true) (hline : IsLine (Text.bytes text))
    (h : TypingEnds heap [] (content ++ text ++ "\n") result left) :
    TypingEnds heap ((Text.bytes text).map .byte) content result left := by
  cases h with
  | typed htyped hcontent =>
    obtain ⟨rfl, rfl⟩ := htyped.unique .endOfInput
    refine .typed (.lastLine hline) ?_
    rw [hcontent, bytes_content, endedLines_cons]
    simp [endedLines]
  | brokenOff hlines harrivals hresult he =>
    obtain ⟨-, rfl⟩ := List.append_eq_nil_iff.1 harrivals.symm
    rw [Taken.ofArrivals_nil hheap] at hresult
    cases hresult
    exact absurd rfl he

/-- What was taken as a line goes in front. -/
theorem takenAsLine {left' : List Arrival} (hheap : heap.admits (heap.inUse + 1) = true)
    (hline : IsLine (Text.bytes text)) (htaken : TakenAsLine text arrivals left')
    (h : TypingEnds heap left' (content ++ text ++ "\n") result left) : TypingEnds heap arrivals content result left := by
  rcases htaken with rfl | ⟨-, rfl, rfl⟩
  · exact h.line hline
  · exact h.lastLine hheap hline

end TypingEnds

namespace Program

/-- **Typing on any heap** that admits a byte, with anything on the console, ends in one of these ways. -/
theorem run_typedLines_ends (depth supply : Nat) (m : Machine Sim) {heap : Heap}
    (hheap : heap.admits (heap.inUse + 1) = true) : ∀ (rounds : Nat) (r : Reader) (script : Script) (content : String),
    r.Awaits script script.arrivals false → r.chunk = 1 → script.arrivals.length ≤ supply →
    script.arrivals.length < rounds →
    ∃ result script', (typedLines supply r content rounds).run (Sim.kernel depth) (m.facing heap script) =
        some (result, m.facing heap script') ∧
      TypingEnds heap script.arrivals content result script'.arrivals
  | 0, _, _, _, _, _, _, hrounds => absurd hrounds (Nat.not_lt_zero _)
  | rounds + 1, r, script, content, hr, hchunk, hsupply, hrounds => by
    obtain ⟨r₁, script₁, hrun, hr₁, hspent, hchunk₁, hle⟩ := Reader.run_readLine depth m heap hr hsupply (.inl rfl)
    have hshown : m.shown "" = m := if_pos rfl
    have hsingle : r₁.chunk = 1 := hchunk₁.trans hchunk
    have hleft := hr₁.arrivals_eq_of_single (hspent hheap) hsingle
    have hwithin := Taken.ofArrivals_within hheap script.arrivals
    rw [typedLines, Prog.run_seq, hrun, hshown, Option.bind_some]
    cases hresult : (Taken.ofArrivals heap false script.arrivals).result with
    | error e =>
      obtain ⟨hheap₁, hend⟩ := hwithin.of_error hresult
      rw [hheap₁]
      by_cases he : e = .endOfInput
      · obtain ⟨harrivals, hnil⟩ := hend he
        subst he
        refine ⟨.ok content, script₁, rfl, ?_⟩
        rw [hleft.trans hnil, harrivals]
        exact .typed .endOfInput (by simp [endedLines])
      · refine ⟨.error e, script₁, ?_, ?_⟩
        · cases e
          case endOfInput => exact absurd rfl he
          all_goals rfl
        · rw [hleft]
          exact .atOnce hresult he
    | ok l =>
      obtain ⟨hheap₁, hskipping, hnewline, htaken⟩ := hwithin.of_ok hresult
      rw [hskipping, ← hleft] at hr₁
      rw [← hleft] at htaken
      simp only [hheap₁, Line.drop, Prog.run_seq, Prog.run_free, Option.bind_some, Machine.facing_heap,
        Heap.free_grown_self, Machine.facing_with_heap]
      by_cases hempty : l.text = ""
      · rw [if_pos hempty]
        refine ⟨.ok content, script₁, rfl, ?_⟩
        rw [hempty] at htaken
        rw [htaken.newline_of_empty]
        exact .typed (.emptyLine _) (by simp [endedLines])
      · have hline : IsLine (Text.bytes l.text) := ⟨fun hnil => hempty (Text.bytes_eq_nil_iff.1 hnil), hnewline⟩
        have hshorter := htaken.length_lt
        rw [if_neg hempty]
        obtain ⟨result, script', hrun', hends⟩ := run_typedLines_ends depth supply m hheap rounds r₁ script₁
          (content ++ l.text ++ "\n") hr₁ hsingle (by omega) (by omega)
        exact ⟨result, script', hrun', hends.takenAsLine hheap hline htaken⟩

/-- Without a byte to begin with, the first call fails and nothing is taken. -/
theorem run_typedLines_starved {K : Kernel Sim} {m : Machine Sim} (hheap : m.heap.admits (m.heap.inUse + 1) = false)
    (supply rounds : Nat) (content : String) :
    (typedLines supply (.ofChunk 1) content (rounds + 1)).run K m = some (.error .alloc, m) := by
  have hskip : ((Reader.ofChunk 1).skip supply).run K m = some ((.ok (), .ofChunk 1), m) := by
    rw [Reader.skip.eq_def]
    rfl
  have hprint : (Prog.printText "").run K m = some (.ok (), m) := rfl
  have hmalloc : m.heap.serve (.malloc 1) = (false, m.heap) := by
    rw [Heap.serve_malloc_eq, hheap, if_neg Bool.false_ne_true]
  simp [typedLines, Reader.readLine, hprint, hskip, hmalloc]

/-- **Typing**, whatever the heap and whatever is on the console. -/
theorem typedLines_ends (depth : Nat) {m : Machine Sim} {script : Script} (hinput : m.state.input = .script script)
    (hfits : script.arrivals.length < Script.limit) (content : String) :
    ∃ result script', (typedLines (Sim.supply m) (.ofChunk 1) content (Sim.supply m + 1)).run (Sim.kernel depth) m =
        some (result, m.facing m.heap script') ∧
      TypingEnds m.heap script.arrivals content result script'.arrivals := by
  have hsupply : Sim.supply m = script.arrivals.length := Sim.supply_eq hinput
  cases hheap : m.heap.admits (m.heap.inUse + 1) with
  | true =>
    obtain ⟨result, script', hrun, hends⟩ := run_typedLines_ends depth (Sim.supply m) m hheap (Sim.supply m + 1)
      (.ofChunk 1) script content (Reader.ofChunk_awaits 1 hfits) rfl (by omega) (by omega)
    rw [Machine.facing_self hinput] at hrun
    exact ⟨result, script', hrun, hends⟩
  | false =>
    have hstarved := Taken.ofArrivals_starved hheap script.arrivals
    have hbroken : TypingEnds m.heap script.arrivals content (.error .alloc)
        (Taken.ofArrivals m.heap false script.arrivals).left :=
      .atOnce (by rw [hstarved]) nofun
    rw [hstarved] at hbroken
    refine ⟨.error .alloc, script, ?_, hbroken⟩
    rw [run_typedLines_starved hheap, Machine.facing_self hinput]

end Program

/-! ## Editing -/

namespace Sim

/-- How editing may end: nothing was read; or not all lines could be read; or the file was replaced. Only an editor that
fails writes on the console. -/
inductive EditEnds (s : Sim) (path? : Option String) (heap : Heap) (arrivals : List Arrival) : ExitCode → Sim → Prop
  | refused (written : Nat) : EditEnds s path? heap arrivals .failure (s.wornTo s.input written)
  | brokenOff {typed : List Bytes} {behind : List Arrival} {e : ReadError} {script : Script} (written : Nat) :
    (∀ line ∈ typed, IsLine line) → arrivals = (endedLines typed).map .byte ++ behind →
    (Taken.ofArrivals heap false behind).result = .error e → e ≠ .endOfInput →
    script.arrivals = (Taken.ofArrivals heap false behind).left →
    EditEnds s path? heap arrivals .failure (s.wornTo (.script script) written)
  | replaced {path : String} {id : Nat} {fd : Fd} {old : Bytes} {typed : List Bytes} {script : Script} :
    path? = some path → s.Holds path id fd old → Typed typed arrivals script.arrivals →
    EditEnds s path? heap arrivals .success ((s.rewritten id (some (endedLines typed))).wornTo (.script script) 0)

variable (depth : Nat) {m : Machine Sim}

theorem state_facing (m : Machine Sim) (heap : Heap) (script : Script) :
    (m.facing heap script).state = m.state.wornTo (.script script) 0 := by
  simp [Machine.facing, wornTo, facing]

/-- An editor that failed may write on. -/
theorem EditEnds.wornTo {s s' : Sim} {path? : Option String} {heap : Heap} {arrivals : List Arrival}
    (h : s.EditEnds path? heap arrivals .failure s') (written : Nat) :
    s.EditEnds path? heap arrivals .failure (s'.wornTo s'.input written) := by
  cases h with
  | refused before => exact s.wornTo_wornTo _ _ before written ▸ .refused (before + written)
  | brokenOff before hlines harrivals hresult he hleft =>
    exact s.wornTo_wornTo _ _ before written ▸ .brokenOff (before + written) hlines harrivals hresult he hleft

/-- A file whose number is too large for a descriptor cannot be opened. -/
theorem run_openFile_unfit {path : String} {id : Nat} (hlookup : m.state.lookup path = some id)
    (hfd : Fd.ofFileId? id = none) :
    (Prog.openFile path).run (kernel depth) m = some (.error Operation.openFile.failed, m) := by
  rw [Prog.openFile, Prog.run_ask, serve_openFile, hlookup, Option.elim_some, descriptorReply, hfd]
  rfl

theorem run_fstat_gone {id : Nat} {fd : Fd} (hfd : Fd.ofFileId? id = some fd) (hget : m.state.store.get? id = none) :
    (Prog.fstat fd).run (kernel depth) m = some (.error Operation.fstat.failed, m) := by
  have hhandle : m.state.handle? fd = none := by
    rw [handle?, Fd.fileId?_ofFileId? hfd, Option.bind_some, hget, Option.map_none]
  rw [Prog.fstat, Prog.run_ask, serve_fstat, hhandle]
  rfl

end Sim

namespace Program

variable (depth : Nat) {m : Machine Sim}

/-- Who refuses has failed, and only written. -/
theorem refuse_wrote (m : Machine Sim) (text : String) :
    (refuse text).Yields (Sim.kernel depth) m fun outcome m' =>
      Shell.exitCode outcome = .failure ∧ Sim.Wrote m m' := by
  refine .seq (Sim.printParts_wrote depth _ m) fun result m' hwrote => ?_
  cases result <;> exact .pure ⟨rfl, hwrote⟩

/-- As a process, a program that ends has an exit code, and one that failed may write on. -/
theorem start_yields {program : Program} {supply : Nat} {argv : List String} {D : ExitCode → Sim → Prop}
    (hD : ∀ s written, D .failure s → D .failure (s.wornTo s.input written))
    (h : (program supply argv).Yields (Sim.kernel depth) m fun outcome m' => D (Shell.exitCode outcome) m'.state) :
    (program.start supply argv).Yields (Sim.kernel depth) m fun code m' => D code m'.state := by
  refine .seq h fun outcome m₁ hended => ?_
  cases outcome with
  | ok code => exact .pure hended
  | error failure =>
    refine .seq (Sim.printParts_wrote depth _ m₁) fun _ m₂ ⟨_, written, hstate⟩ => ?_
    exact .pure (hstate ▸ hD _ written hended)

section Edit

variable {argv : List String} {path : String} {id : Nat} {fd : Fd} {script : Script}
  (hinput : m.state.input = .script script) (hfits : script.arrivals.length < Script.limit)

include hinput hfits

/-- Editing a file that is there: the lines are read first, and the file is replaced if all of them could be. -/
theorem edit_held {old : Bytes} (hpath : argv[1]? = some path) (hfile : m.state.Holds path id fd old) :
    (edit (Sim.supply m) argv).Yields (Sim.kernel depth) m fun outcome m' =>
      m.state.EditEnds argv[1]? m.heap script.arrivals (Shell.exitCode outcome) m'.state := by
  obtain ⟨result, script', hrun, hends⟩ := typedLines_ends depth hinput hfits ""
  unfold edit
  rw [hpath]
  refine .seq_run (Sim.run_openFile_found (.self m) hfile.lookup_eq hfile.fd_eq) (.seq_run (hfile.run_fstat depth) ?_)
  refine .seq_run hrun ?_
  generalize hleft : script'.arrivals = left at hends
  cases hends with
  | brokenOff hlines harrivals hresult he =>
    refine .pure ?_
    rw [Sim.state_facing]
    exact .brokenOff 0 hlines harrivals hresult he hleft
  | @typed typed text _ htyped htext =>
    have htext : Text.bytes text = endedLines typed := htext
    have hlength : (Text.bytes text).length < Content.lengthLimit := by
      have hle := htyped.length_le
      rw [htext]
      simp only [Script.limit, Content.lengthLimit] at hfits ⊢
      omega
    refine .of_run ((hfile.facing m.heap script').run_replace depth hlength) ?_
    rw [htext]
    dsimp only
    rw [Sim.state_facing]
    exact .replaced rfl hfile (hleft ▸ htyped)

/-- **Editing**, whatever the words, the files, the heap and the console are, ends in one of these ways. -/
theorem edit_ends (argv : List String) :
    (edit (Sim.supply m) argv).Yields (Sim.kernel depth) m fun outcome m' =>
      m.state.EditEnds argv[1]? m.heap script.arrivals (Shell.exitCode outcome) m'.state := by
  have hrefuse (text : String) : (refuse text).Yields (Sim.kernel depth) m fun outcome m' =>
      m.state.EditEnds argv[1]? m.heap script.arrivals (Shell.exitCode outcome) m'.state := by
    refine (refuse_wrote depth m text).mono fun outcome m' ⟨hcode, _, written, hstate⟩ => ?_
    rw [hcode, hstate]
    exact .refused written
  have hunwritten (path? : Option String) : m.state.EditEnds path? m.heap script.arrivals .failure m.state := by
    have h : m.state.EditEnds path? m.heap script.arrivals .failure (m.state.wornTo m.state.input 0) := .refused 0
    rwa [Sim.wornTo_self] at h
  have hheld := @edit_held depth m argv
  unfold edit at hheld ⊢
  cases hpath : argv[1]? with
  | none =>
    rw [hpath] at hrefuse
    exact hrefuse _
  | some path =>
    rw [hpath] at hrefuse hheld
    cases hlookup : m.state.lookup path with
    | none => exact .seq_run (Sim.run_openFile_missing (.self m) hlookup) (hrefuse _)
    | some id =>
      cases hfd : Fd.ofFileId? id with
      | none => exact .seq_run (Sim.run_openFile_unfit depth hlookup hfd) (hrefuse _)
      | some fd =>
        have hopen := @Sim.run_openFile_found m.state depth m path id fd (.self m) hlookup hfd
        rcases hget : m.state.store.get? id with _ | ⟨name, parent, old | children⟩
        · exact .seq_run hopen (.seq_run (Sim.run_fstat_gone depth hfd hget) (.pure (hunwritten _)))
        · exact hheld hinput hfits rfl ⟨hlookup, hfd, by rw [Sim.Store.content?, hget]⟩
        · have hdir : m.state.store.children? id = some children := by rw [Sim.Store.children?, hget]
          exact .seq_run hopen (.seq_run (Sim.run_fstat_dir (.self m) hdir hfd) (hrefuse _))

end Edit

end Program

/-! ## Processes -/

namespace Sim

section Edit

variable (depth : Nat) {m : Machine Sim} {pid : Pid} {process : Process} {s : Sim} {script : Script}
  (htake : m.state.take pid = some (process, s)) (hprogram : process.program = Program.edit)
  (hinput : m.state.input = .script script) (hfits : script.arrivals.length < Script.limit)

include htake hprogram hinput hfits

/-- **Waiting for a process that edits a file.** Who waited is in the working directory of before. -/
theorem reap_edit : ∃ code s' m', (kernel (depth + 1)).serve (.waitpid pid) m = some (.granted (.status code), m') ∧
    EditEnds { s with cwd := process.cwd } process.argv[1]? m.heap script.arrivals code s' ∧
    m'.state = { s' with cwd := m.state.cwd } := by
  let inside : Machine Sim := { m with state := { s with cwd := process.cwd } }
  have hinside : inside.state.input = .script script := by
    obtain ⟨id, -, rfl⟩ := take_eq htake
    exact hinput
  obtain ⟨code, m₁, hrun, hends⟩ :=
    Program.start_yields depth (D := inside.state.EditEnds process.argv[1]? inside.heap script.arrivals)
      (fun _ written h => h.wornTo written) (Program.edit_ends depth hinside hfits process.argv)
  refine ⟨code, m₁.state, { m₁ with state := { m₁.state with cwd := m.state.cwd } }, ?_, hends, rfl⟩
  have hprocess : runProcess (depth + 1) process inside = some (code, m₁) := by
    rw [runProcess, hprogram]
    exact hrun
  have hserve : (kernel (depth + 1)).serve (.waitpid pid) m = reap (runProcess (depth + 1)) pid m := rfl
  rw [hserve, reap_some htake, hprocess]
  rfl

/-- **The editor replaces a file, or leaves it as it is.** Take any files and processes, any heap, and anything on the
console that memory can hold. Waiting for a process that edits a file is answered with `0` or `1`. If it is `0`, the file
holds just the lines that were typed up to an empty one or to the end, each ended by a newline, and what is left on the
console is what is behind that. If it is `1`, the file holds what it held. -/
theorem edit_replaces {path : String} {old : Bytes} (hpath : process.argv[1]? = some path)
    (hfile : m.state.contents (Path.absolute process.cwd path) = some old) :
    ∃ code m', (kernel (depth + 1)).serve (.waitpid pid) m = some (.granted (.status code), m') ∧
      ((code = .success ∧ ∃ typed script', Typed typed script.arrivals script'.arrivals ∧
          m'.state.input = .script script' ∧
          m'.state.contents (Path.absolute process.cwd path) = some (endedLines typed)) ∨
        (code = .failure ∧ m'.state.contents (Path.absolute process.cwd path) = some old)) := by
  obtain ⟨code, s', m', hserve, hends, hstate⟩ := reap_edit depth htake hprogram hinput hfits
  refine ⟨code, m', hserve, ?_⟩
  -- the path is absolute, so it means the same in every working directory
  have hcontents (t : Sim) : t.contents (Path.absolute process.cwd path) =
      ({ t with cwd := process.cwd } : Sim).contents path := by
    rw [contents, lookup, (Path.absolute_normal process.cwd path).absolute_eq]
    rfl
  have hsame : ({ m.state with cwd := process.cwd } : Sim).contents path =
      ({ s with cwd := process.cwd } : Sim).contents path := by
    obtain ⟨id, -, rfl⟩ := take_eq htake
    rfl
  have hback {t : Sim} (hcwd : t.cwd = process.cwd) :
      ({ { t with cwd := m.state.cwd } with cwd := process.cwd } : Sim).contents path = t.contents path := by
    rw [← hcwd]
  rw [hcontents, hsame] at hfile
  rw [hstate, hcontents]
  generalize hbefore : ({ s with cwd := process.cwd } : Sim) = before at hends hfile
  have hcwd : before.cwd = process.cwd := by rw [← hbefore]
  cases hends with
  | refused written => exact .inr ⟨rfl, by rw [hback (t := before.wornTo _ written) hcwd, contents_wornTo, hfile]⟩
  | brokenOff written => exact .inr ⟨rfl, by rw [hback (t := before.wornTo _ written) hcwd, contents_wornTo, hfile]⟩
  | @replaced _ id _ _ typed script' hpath' hholds htyped =>
    obtain rfl := Option.some.inj (hpath.symm.trans hpath')
    let after := before.rewritten id (some (endedLines typed))
    refine .inl ⟨rfl, typed, script', htyped, rfl, ?_⟩
    rw [hback (t := after.wornTo _ 0) hcwd, contents_wornTo]
    exact (hholds.rewritten_some _).contents_eq

end Edit

/-- Two lines are typed for the file `/f`, the second of which is cut by a chunk, and the file holds them afterwards. When
the console fails behind the first one, the file holds what it held. -/
theorem edit_replaces_or_fails :
    let process : Process := ⟨Program.edit, ["edit", "f"], "/"⟩
    let files := (((empty (.script [])).install "/edit" Program.edit).2.create "/f" false).2
    let s := { (files.storing (files.store.writeAt 2 0 (Text.bytes "old"))).2 with nextPid := 1 }
    let m (script : Script) : Machine Sim :=
      ⟨⟨some 3, 1, 1⟩, {}, { s with input := .script script, processes := [(0, process)] }⟩
    let whole : Script := [.data (Text.bytes "hi\ny"), .data (Text.bytes "o\n\nrest")]
    let faulty : Script := [.data (Text.bytes "hi\ny"), .fault]
    (∀ script, (m script).state.take (Pid.ofNat 0) = some (process, { s with input := .script script })) ∧
      process.program = Program.edit ∧ whole.arrivals.length < Script.limit ∧ faulty.arrivals.length < Script.limit ∧
      process.argv[1]? = some "f" ∧ Path.absolute process.cwd "f" = "/f" ∧
      (∀ script, (m script).state.contents "/f" = some (Text.bytes "old")) ∧
      (∃ m', (kernel 1).serve (.waitpid (Pid.ofNat 0)) (m whole) = some (.granted (.status .success), m') ∧
        ∃ typed script', Typed typed whole.arrivals script'.arrivals ∧ m'.state.input = .script script' ∧
          m'.state.contents "/f" = some (endedLines typed) ∧ endedLines typed = Text.bytes "hi\nyo\n") ∧
      ∃ m', (kernel 1).serve (.waitpid (Pid.ofNat 0)) (m faulty) = some (.granted (.status .failure), m') ∧
        m'.state.contents "/f" = some (Text.bytes "old") := by
  intro process files s m whole faulty
  have htake (script : Script) :
      (m script).state.take (Pid.ofNat 0) = some (process, { s with input := .script script }) := rfl
  have hwhole : whole.arrivals.length < Script.limit := by decide +kernel
  have hfaulty : faulty.arrivals.length < Script.limit := by decide +kernel
  have hpath : Path.absolute process.cwd "f" = "/f" := by decide +kernel
  have hold (script : Script) : (m script).state.contents "/f" = some (Text.bytes "old") := by
    have hcontents : s.contents "/f" = some (Text.bytes "old") := by decide +kernel
    exact hcontents
  have hreplaced : ((kernel 1).serve (.waitpid (Pid.ofNat 0)) (m whole)).map (fun x => (x.1, x.2.state.contents "/f")) =
      some (.granted (.status .success), some (Text.bytes "hi\nyo\n")) := by decide +kernel
  have hfailed : ((kernel 1).serve (.waitpid (Pid.ofNat 0)) (m faulty)).map (fun x => x.1) =
      some (.granted (.status .failure)) := by decide +kernel
  obtain ⟨code, m₁, hserve, hends⟩ := edit_replaces 0 (htake whole) rfl rfl hwhole rfl (hpath ▸ hold whole)
  obtain ⟨code', m₂, hserve', hends'⟩ := edit_replaces 0 (htake faulty) rfl rfl hfaulty rfl (hpath ▸ hold faulty)
  rw [hserve, Option.map_some] at hreplaced
  rw [hserve', Option.map_some] at hfailed
  obtain ⟨hreply, hcontents⟩ := Prod.mk.inj (Option.some.inj hreplaced)
  obtain rfl : code = .success := Fill.status.inj (congrArg Reply.fill hreply)
  obtain rfl : code' = .failure := Fill.status.inj (congrArg Reply.fill (Option.some.inj hfailed))
  rw [hpath] at hends hends'
  obtain ⟨-, typed, script', htyped, hinput, htext⟩ := hends.resolve_right fun h => absurd h.1 (by decide)
  obtain ⟨-, hkept⟩ := hends'.resolve_left fun h => absurd h.1 (by decide)
  have hlines : endedLines typed = Text.bytes "hi\nyo\n" := Option.some.inj (htext.symm.trans hcontents)
  exact ⟨htake, rfl, hwhole, hfaulty, rfl, hpath, hold, ⟨m₁, hserve, typed, script', htyped, hinput, htext, hlines⟩,
    m₂, hserve', hkept⟩

end Sim

end LineShell
