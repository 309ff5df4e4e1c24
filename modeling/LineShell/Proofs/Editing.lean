import LineShell.Proofs.LineByLine
import LineShell.Proofs.Sim.Files
import LineShell.Proofs.Words

/-!
# Editing a file

The editor reads the console byte by byte, so what it makes of it can be told from the lines alone: `gather` is the text
that is typed up to an empty line, and the lines behind that.

- `Reader.run_readLine_cut`: on an unlimited heap, a reader that expects some bytes reads their first piece;
- `Program.run_typedLines`: the editor gathers the lines on the console and leaves those behind them;
- `Program.run_edit`: the file holds the gathered text, or what it held before if a line was no text.
-/

namespace LineShell

/-! ## Lines and pieces -/

/-- A line without the newline that ends it. -/
def lineBody (line : Bytes) : Bytes :=
  line.takeWhile (· != newline)

/-- Bytes without a newline belong to the first piece. -/
theorem cut_append {body : Bytes} (h : newline ∉ body) (rest : List Arrival) :
    cut (body.map .byte ++ rest) =
      ({ (cut rest).1 with bytes := body ++ (cut rest).1.bytes }, (cut rest).2) := by
  induction body with
  | nil => rfl
  | cons b body ih =>
    have hb : b ≠ newline := fun e => h (by simp [e])
    have hrest := ih fun hmem => h (List.mem_cons_of_mem _ hmem)
    simp only [List.map_cons, List.cons_append, cut, hb, ↓reduceIte, hrest]

theorem lineBody_append {body : Bytes} (h : newline ∉ body) (rest : Bytes) :
    lineBody (body ++ rest) = body ++ lineBody rest :=
  List.takeWhile_append_of_pos fun b hb => by simpa using fun e : b = newline => h (e ▸ hb)

theorem lineBody_ended {body : Bytes} (h : newline ∉ body) : lineBody (body ++ [newline]) = body := by
  rw [lineBody_append h]
  simp [lineBody]

theorem lineBody_last {body : Bytes} (h : newline ∉ body) : lineBody body = body := by
  simpa [lineBody] using lineBody_append h []

namespace FirstLine

variable {line rest : Bytes}

/-- A line is what the first piece takes. -/
theorem cut_eq (h : FirstLine line rest) :
    (cut ((line ++ rest).map .byte)).1.result = Piece.line (lineBody line) ∧
      (cut ((line ++ rest).map .byte)).2 = rest.map .byte := by
  cases h with
  | ended h rest =>
    rename_i body
    rw [lineBody_ended h, List.append_assoc, List.map_append, cut_append h]
    simp [cut, Piece.result]
  | last h hne =>
    have hcut := cut_append h []
    rw [List.append_nil] at hcut ⊢
    rw [lineBody_last h, hcut]
    simp [cut, Piece.result, hne]

/-- A line with its newline. -/
theorem endingLine_eq (h : FirstLine line rest) : Program.endingLine line = lineBody line ++ [newline] := by
  unfold Program.endingLine
  cases h with
  | ended h rest => rw [lineBody_ended h, if_pos (by simp)]
  | last h hne =>
    have hlast : line.getLast? ≠ some newline := fun e => h (List.mem_of_getLast? e)
    rw [lineBody_last h, if_neg hlast]

/-- Nothing but a newline is a line with no bytes. -/
theorem lineBody_eq_nil (h : FirstLine line rest) : lineBody line = [] ↔ line = [newline] := by
  cases h with
  | ended h rest => simp [lineBody_ended h]
  | last h hne =>
    rw [lineBody_last h]
    exact iff_of_false hne fun e => h (by simp [e])

/-- The first line of a text, and what is behind it, are texts. -/
theorem texts (h : FirstLine line rest) {text : String} (htext : line ++ rest = Text.bytes text) :
    ∃ front back, lineBody line = Text.bytes front ∧ rest = Text.bytes back := by
  cases h with
  | ended h rest =>
    rename_i body
    rw [List.append_assoc] at htext
    obtain ⟨front, back, hfront, hback⟩ := Text.bytes_cut htext.symm
    exact ⟨front, back, by rw [lineBody_ended h, hfront], hback⟩
  | last h hne =>
    rw [List.append_nil] at htext
    exact ⟨text, "", by rw [lineBody_last h, htext], rfl⟩

end FirstLine

/-! ## Reading on an unlimited heap -/

theorem Heap.Unlimited.admits {heap : Heap} {bytes : Nat} (h : heap.Unlimited bytes) :
    heap.admits (heap.inUse + 1) = true :=
  Heap.admits_of_limit h.limit_eq (by have := h.room; omega)

namespace Reader

/-- **Reading a line on an unlimited heap** takes the first piece of what is expected. -/
theorem run_readLine_cut (depth : Nat) {m : Machine Sim} {prompt : String} {heap : Heap} {r : Reader} {script : Script}
    {supply : Nat} {data : Bytes} (hprompt : prompt = "" ∨ m.state.room ≠ some 0)
    (hheap : heap.Unlimited data.length) (hr : r.Expects script data) (hsupply : script.arrivals.length ≤ supply) :
    ∃ result heap' r' script', (r.readLine supply prompt).run (Sim.kernel depth) (m.facing heap script) =
        some ((result, r'), (m.shown prompt).facing heap' script') ∧
      result.map Line.text = (cut (data.map .byte)).1.result ∧
      heldSize result + 2 * (cut (data.map .byte)).2.length ≤ 2 * data.length ∧
      heap'.Uses (heap.inUse + heldSize result) ∧ r'.Awaits script' (cut (data.map .byte)).2 false ∧ r'.Spent ∧
      r'.chunk = r.chunk ∧ script'.arrivals.length ≤ script.arrivals.length := by
  obtain ⟨arrivals, skipping, hr, hskipped⟩ := hr
  obtain ⟨r', script', hrun, hr', hspent, hchunk, hle⟩ := run_readLine depth m heap hr hsupply hprompt
  rw [Taken.ofArrivals_skipped hskipped] at hrun hr'
  have hlength : (data.map Arrival.byte).length = data.length := List.length_map _
  obtain ⟨hresult, hleft, hskipping, hlimit, hinUse, hheld⟩ := Taken.ofArrivals_unlimited (hlength.symm ▸ hheap)
  rw [hleft, hskipping] at hr'
  have hcut := length_cut (data.map .byte)
  refine ⟨_, _, r', script', hrun, ?_, ?_, ⟨hlimit, hinUse⟩, hr', hspent hheap.admits, hchunk, hle⟩
  · simpa using hresult
  · simp only [List.length_nil, Nat.zero_add] at hheld
    omega

/-- **Reading a line that ends**, or is the last one, comes to its text, if it is one, and leaves what is behind it. -/
theorem run_readLine_line (depth : Nat) {m : Machine Sim} {prompt : String} {heap : Heap} {r : Reader}
    {script : Script} {supply : Nat} {line rest : Bytes} (hprompt : prompt = "" ∨ m.state.room ≠ some 0)
    (hheap : heap.Unlimited (line ++ rest).length) (hr : r.Expects script (line ++ rest)) (hline : FirstLine line rest)
    (hsupply : script.arrivals.length ≤ supply) :
    ∃ result heap' r' script', (r.readLine supply prompt).run (Sim.kernel depth) (m.facing heap script) =
        some ((result, r'), (m.shown prompt).facing heap' script') ∧
      result.map Line.text = Piece.line (lineBody line) ∧
      heldSize result + 2 * rest.length ≤ 2 * (line ++ rest).length ∧ heap'.Uses (heap.inUse + heldSize result) ∧
      r'.Awaits script' (rest.map .byte) false ∧ r'.Spent ∧ r'.chunk = r.chunk ∧
      script'.arrivals.length ≤ script.arrivals.length := by
  obtain ⟨result, heap', r', script', hrun, hresult, hheld, hheap', hr', h⟩ :=
    run_readLine_cut depth hprompt hheap hr hsupply
  obtain ⟨hpiece, hrest⟩ := hline.cut_eq
  rw [hpiece] at hresult
  rw [hrest] at hr' hheld
  rw [List.length_map] at hheld
  exact ⟨result, heap', r', script', hrun, hresult, hheld, hheap', hr', h⟩

/-- What is still to come is what the reader keeps, and what is on the console behind it. -/
theorem Awaits.exists_behind {r : Reader} {script : Script} {data : Bytes} {skipping : Bool}
    (hr : r.Awaits script (data.map .byte) skipping) :
    ∃ behind, data = r.unread ++ behind ∧ script.arrivals = behind.map .byte := by
  obtain ⟨front, behind, hdata, hfront, hbehind⟩ := List.map_eq_append_iff.1 hr.arrivals_eq.symm
  have hkept : front = r.unread := (List.map_inj_right fun _ _ => Arrival.byte.inj).1 hfront
  exact ⟨behind, by rw [hdata, hkept], hbehind.symm⟩

/-- Once others took some of the console, the reader expects what it keeps and what they left. -/
theorem Awaits.expects_left {r : Reader} {script script' : Script} {arrivals : List Arrival} {left : Bytes}
    (hr : r.Awaits script arrivals false) (hle : script'.arrivals.length ≤ script.arrivals.length)
    (hleft : script'.arrivals = left.map .byte) : r.Expects script' (r.unread ++ left) := by
  refine ⟨_, false, hr.drained hle, ?_⟩
  rw [hleft, ← List.map_append]
  rfl

/-- **Reading a line of text** comes to the text; of the bytes behind it the reader keeps some, and the others are on
the console. -/
theorem run_readLine_text (depth : Nat) {m : Machine Sim} {prompt : String} {heap : Heap} {r : Reader}
    {script : Script} {supply : Nat} {line rest : Bytes} {text : String}
    (hprompt : prompt = "" ∨ m.state.room ≠ some 0) (hheap : heap.Unlimited (line ++ rest).length)
    (hr : r.Expects script (line ++ rest)) (hline : FirstLine line rest) (htext : lineBody line = Text.bytes text)
    (hsupply : script.arrivals.length ≤ supply) :
    ∃ l heap' behind r' script', (r.readLine supply prompt).run (Sim.kernel depth) (m.facing heap script) =
        some ((.ok l, r'), (m.shown prompt).facing heap' script') ∧
      l.text = text ∧ l.size + 2 * rest.length ≤ 2 * (line ++ rest).length ∧ heap'.Uses (heap.inUse + l.size) ∧
      rest = r'.unread ++ behind ∧ script'.arrivals = behind.map .byte ∧ r'.Awaits script' (rest.map .byte) false ∧
      r'.Spent ∧ r'.chunk = r.chunk ∧ script'.arrivals.length ≤ script.arrivals.length := by
  obtain ⟨result, heap', r', script', hrun, hresult, hheld, hheap', hr', h⟩ :=
    run_readLine_line depth hprompt hheap hr hline hsupply
  obtain ⟨behind, hbehind, hdata⟩ := hr'.exists_behind
  rw [Piece.line, htext, Text.decode?_bytes] at hresult
  cases result with
  | error e => cases hresult
  | ok l => exact ⟨l, heap', behind, r', script', hrun, Except.ok.inj hresult, hheld, hheap', hbehind, hdata, hr', h⟩

/-- A reader of single bytes leaves on the console what is still to come. -/
theorem Awaits.arrivals_eq_of_single {r : Reader} {script : Script} {arrivals : List Arrival} {skipping : Bool}
    (hr : r.Awaits script arrivals skipping) (hspent : r.Spent) (hchunk : r.chunk = 1) :
    script.arrivals = arrivals := by
  have hnil : r.unread = [] := by
    rw [Spent, hchunk] at hspent
    exact List.eq_nil_of_length_eq_zero (Nat.lt_one_iff.1 hspent)
  have harr := hr.arrivals_eq
  rwa [hnil] at harr

end Reader

/-- A heap with no more in use than before has room for what is left. -/
theorem Heap.Uses.unlimited {heap heap' : Heap} {bytes left : Nat} (h : heap'.Uses heap.inUse)
    (hheap : heap.Unlimited bytes) (hle : left ≤ bytes) : heap'.Unlimited left :=
  ⟨h.limit_eq, by have := hheap.room; rw [h.inUse_eq]; omega⟩

/-! ## What the editor gathers -/

/-- What is typed up to an empty line or the end of the input, and the lines behind that. Nothing is typed if one of the
lines is no text; then it is the last one that is taken. -/
def gather : List Bytes → Option Bytes × List Bytes
  | [] => (some [], [])
  | line :: rest =>
    if line = [newline] then (some [], rest)
    else if (Text.decode? (lineBody line)).isNone then (none, rest)
    else
      let (typed, left) := gather rest
      (typed.map (Program.endingLine line ++ ·), left)

/-- What is left is the end of what there was. -/
theorem gather_suffix : ∀ pieces : List Bytes, (gather pieces).2 <:+ pieces
  | [] => List.suffix_rfl
  | line :: rest => by
    rw [gather]
    split
    · exact List.suffix_cons line rest
    · split
      · exact List.suffix_cons line rest
      · exact (gather_suffix rest).trans (List.suffix_cons line rest)

theorem length_gather_left (data : Bytes) : (gather (lines data)).2.flatten.length ≤ data.length := by
  obtain ⟨front, hfront⟩ := gather_suffix (lines data)
  have hdata := flatten_lines data
  rw [← hfront, List.flatten_append] at hdata
  have hlength := congrArg List.length hdata
  rw [List.length_append] at hlength
  omega

/-- From a text, all lines before the first empty one are gathered. -/
theorem gather_text {data : Bytes} {text : String} (htext : data = Text.bytes text) :
    gather (lines data) = (some (((lines data).takeWhile (· != [newline])).flatMap Program.endingLine),
      ((lines data).dropWhile (· != [newline])).drop 1) := by
  rcases lines_cases data with ⟨rfl, -⟩ | ⟨line, rest, hline, hdata, hlines⟩
  · rfl
  · rw [hlines]
    by_cases hempty : line = [newline]
    · simp [gather, hempty]
    · obtain ⟨front, back, hfront, hback⟩ := hline.texts (hdata.symm.trans htext)
      have hlt : rest.length < data.length := by
        have := List.length_pos_iff.2 hline.ne_nil
        rw [hdata, List.length_append]
        omega
      simp [gather, hempty, hfront, Text.decode?_bytes, gather_text hback]
termination_by data.length

namespace Program

/-- One round of typing: a line that is no text ends it with an error, an empty one with what was typed before, and
any other goes to the end of that. The lines behind it are left on the console. -/
theorem run_typedLine (depth supply : Nat) (m : Machine Sim) (rounds : Nat) (content : String) {r : Reader}
    {heap : Heap} {script : Script} {line rest : Bytes} (hline : FirstLine line rest)
    (hr : r.Expects script (line ++ rest)) (hchunk : r.chunk = 1) (hsupply : script.arrivals.length ≤ supply)
    (hheap : heap.Unlimited (line ++ rest).length) :
    ∃ r' heap' script', (typedLines supply r content (rounds + 1)).run (Sim.kernel depth) (m.facing heap script) =
        (Text.decode? (lineBody line)).elim (some (.error .encoding, m.facing heap' script')) (fun text =>
          if text = "" then some (.ok content, m.facing heap' script')
          else (typedLines supply r' (content ++ text ++ "\n") rounds).run (Sim.kernel depth)
            (m.facing heap' script')) ∧
      r'.Expects script' rest ∧ r'.chunk = 1 ∧ script'.arrivals = rest.map .byte ∧
      script'.arrivals.length ≤ script.arrivals.length ∧ heap'.Uses heap.inUse := by
  obtain ⟨result, heap', r', script', hrun, hresult, -, hheap', hr', hspent, hchunk', hle⟩ :=
    Reader.run_readLine_line depth (m := m) (.inl rfl) hheap hr hline hsupply
  have hsingle : r'.chunk = 1 := hchunk'.trans hchunk
  have harr := hr'.arrivals_eq_of_single hspent hsingle
  have hexpects : r'.Expects script' rest := ⟨_, false, hr', rfl⟩
  rw [typedLines, Prog.run_seq, hrun, Option.bind_some]
  rw [Piece.line] at hresult
  cases hdecode : Text.decode? (lineBody line) with
  | none =>
    rw [hdecode] at hresult
    cases result with
    | ok typed => cases hresult
    | error e =>
      cases hresult
      exact ⟨r', heap', script', rfl, hexpects, hsingle, harr, hle, hheap'⟩
  | some text =>
    rw [hdecode] at hresult
    cases result with
    | error e => cases hresult
    | ok typed =>
      cases hresult
      refine ⟨r', heap'.free typed.size, script', ?_, hexpects, hsingle, harr, hle, hheap'.free⟩
      simp only [Line.drop, Prog.run_seq, Prog.run_free, Option.bind_some, Option.elim_some]
      by_cases hempty : typed.text = ""
      · rw [if_pos hempty, if_pos hempty]
        rfl
      · rw [if_neg hempty, if_neg hempty]
        rfl

/-- **Typed lines** are gathered, and the lines behind them are left on the console. -/
theorem run_typedLines (depth supply : Nat) (m : Machine Sim) : ∀ (rounds : Nat) (r : Reader) (heap : Heap)
    (script : Script) (data : Bytes) (content : String), r.Expects script data → r.chunk = 1 →
    script.arrivals.length ≤ supply → heap.Unlimited data.length → (lines data).length < rounds →
    ∃ result heap' script', (typedLines supply r content rounds).run (Sim.kernel depth) (m.facing heap script) =
        some (result, m.facing heap' script') ∧
      result.map Text.bytes = (gather (lines data)).1.elim (.error .encoding) (fun typed =>
        .ok (Text.bytes content ++ typed)) ∧
      script'.arrivals = (gather (lines data)).2.flatten.map .byte ∧ heap'.Uses heap.inUse
  | 0, _, _, _, _, _, _, _, _, _, hrounds => absurd hrounds (Nat.not_lt_zero _)
  | rounds + 1, r, heap, script, data, content, hr, hchunk, hsupply, hheap, hrounds => by
    rcases lines_cases data with ⟨rfl, -⟩ | ⟨line, rest, hline, rfl, hlines⟩
    · -- the end of the input
      obtain ⟨result, heap', r', script', hrun, hresult, -, hheap', hr', hspent, hchunk', -⟩ :=
        Reader.run_readLine_cut depth (m := m) (.inl rfl) hheap hr hsupply
      have harr := hr'.arrivals_eq_of_single hspent (hchunk'.trans hchunk)
      rw [typedLines, Prog.run_seq, hrun, Option.bind_some]
      cases result with
      | ok line => cases hresult
      | error e =>
        cases hresult
        exact ⟨_, heap', script', rfl, by simp [gather, lines, Except.map], harr, hheap'⟩
    · obtain ⟨r₁, heap₁, script₁, hrun, hr₁, hchunk₁, harr, hle, hheap₁⟩ :=
        run_typedLine depth supply m rounds content hline hr hchunk hsupply hheap
      have hrest : script₁.arrivals = (lines rest).flatten.map .byte := by rw [flatten_lines, harr]
      rw [hlines, List.length_cons] at hrounds
      rw [hrun, hlines, gather]
      cases hdecode : Text.decode? (lineBody line) with
      | none =>
        -- the line is no text, so it is not empty
        have hne : line ≠ [newline] := fun e => by
          rw [hline.lineBody_eq_nil.2 e] at hdecode
          cases hdecode
        rw [if_neg hne]
        exact ⟨_, heap₁, script₁, rfl, rfl, hrest, hheap₁⟩
      | some text =>
        have htext : lineBody line = Text.bytes text := Text.decode?_eq_some_iff.1 hdecode
        have hempty : text = "" ↔ line = [newline] := by
          rw [← hline.lineBody_eq_nil, htext, Text.bytes_eq_nil_iff]
        rw [Option.elim_some]
        by_cases hline' : line = [newline]
        · rw [if_pos (hempty.2 hline'), if_pos hline']
          exact ⟨_, heap₁, script₁, rfl, by simp [Except.map], hrest, hheap₁⟩
        · have hcontent : Text.bytes (content ++ text ++ "\n") =
              Text.bytes content ++ Program.endingLine line := by
            rw [hline.endingLine_eq, htext, Text.bytes_append, Text.bytes_append, List.append_assoc]
            rfl
          rw [if_neg fun h => hline' (hempty.1 h), if_neg hline']
          obtain ⟨result, heap', script', hrun', hresult', harr', hheap'⟩ :=
            run_typedLines depth supply m rounds r₁ heap₁ script₁ rest (content ++ text ++ "\n") hr₁ hchunk₁
              (Nat.le_trans hle hsupply) (hheap₁.unlimited hheap (by simp)) (by omega)
          refine ⟨result, heap', script', hrun', ?_, harr', hheap₁.inUse_eq ▸ hheap'⟩
          rw [hresult', hcontent]
          cases hmore : (gather (lines rest)).1 <;> simp [hmore]

/-! ## The file -/

/-- Gathered lines are not much longer than they were typed. -/
theorem length_gather {data typed : Bytes} (h : (gather (lines data)).1 = some typed) :
    typed.length ≤ 2 * data.length := by
  rcases lines_cases data with ⟨rfl, -⟩ | ⟨line, rest, hline, hdata, hlines⟩
  · cases h
    exact Nat.le_refl _
  · have hpos := List.length_pos_iff.2 hline.ne_nil
    have hlength : data.length = line.length + rest.length := by rw [hdata, List.length_append]
    rw [hlines, gather] at h
    split at h
    · cases h
      exact Nat.zero_le _
    · split at h
      · cases h
      · obtain ⟨more, hmore, rfl⟩ := Option.map_eq_some_iff.1 h
        have hle := length_gather hmore
        have hending : (endingLine line).length ≤ line.length + 1 := by
          unfold endingLine
          split <;> simp
        rw [List.length_append]
        omega
termination_by data.length

/-- What the editor ends with, given what was typed. -/
def editOutcome : Option Bytes → Outcome
  | some _ => .ok .success
  | none => .error (.other ("edit: failed to read input (" ++ ReadError.encoding.message ++ ")"))

/-- **Editing a file** gives it the lines that are gathered from the console, and leaves those behind them. -/
theorem run_edit (depth : Nat) (name : String) (more : List String) {m : Machine Sim} {heap : Heap} {script : Script}
    {data old : Bytes} {path : String} {id : Nat} {fd : Fd} (hfile : m.state.Holds path id fd old)
    (hdata : script.arrivals = data.map .byte) (hheap : heap.Unlimited data.length) :
    ∃ heap' script', (edit data.length (name :: path :: more)).run (Sim.kernel depth) (m.facing heap script) =
        some (editOutcome (gather (lines data)).1,
          ({ m with state := m.state.rewritten id (gather (lines data)).1 } : Machine Sim).facing heap' script') ∧
      script'.arrivals = (gather (lines data)).2.flatten.map .byte ∧ heap'.Uses heap.inUse := by
  have hlength : script.arrivals.length = data.length := by rw [hdata, List.length_map]
  have hroom := hheap.room
  have hr : (Reader.ofChunk 1).Expects script data :=
    Reader.ofChunk_expects 1 hdata (by simp only [wordLimit] at hroom; simp only [Script.limit]; omega)
  obtain ⟨result, heap', script', hrun, hresult, harr, hheap'⟩ :=
    run_typedLines depth data.length m (data.length + 1) (.ofChunk 1) heap script data "" hr rfl
      (Nat.le_of_eq hlength) hheap (Nat.lt_succ_of_le (length_lines_le data))
  refine ⟨heap', script', ?_, harr, hheap'⟩
  have hargument : (name :: path :: more)[1]? = some path := rfl
  simp only [edit, hargument, Prog.run_seq, (hfile.facing heap script).run_openFile depth, Option.bind_some,
    Prog.orFail, (hfile.facing heap script).run_fstat depth, Bool.false_eq_true, ↓reduceIte, hrun]
  cases hgather : (gather (lines data)).1 with
  | none =>
    rw [hgather] at hresult
    cases result with
    | ok content => cases hresult
    | error e =>
      cases hresult
      rfl
  | some typed =>
    rw [hgather] at hresult
    cases result with
    | error e => cases hresult
    | ok content =>
      have hcontent : Text.bytes content = typed := by simpa [Except.map, Text.bytes_eq_nil_iff.2] using hresult
      have hshort : typed.length < Content.lengthLimit := by
        have := length_gather hgather
        simp only [wordLimit] at hroom
        simp only [Content.lengthLimit]
        omega
      rw [← hcontent] at hshort ⊢
      exact (hfile.facing heap' script').run_replace depth hshort

end Program

end LineShell
