import LineShell.Builtin.Usage
import LineShell.Proofs.Sim.Replacing

/-!
# What a failed editor leaves on the console

A line for which there is no room is dropped through its newline by the next call of the same reader, which remembers to
pass over the rest of it. The editor has a reader of its own and gives it up when a line cannot be read, so nobody
remembers: what is left on the console begins in the middle of that line.

- `AtLineStart`: what is left begins where a line begins;
- `Sim.edit_leaves`: what an editor leaves begins there, unless it failed because there was no room for a line;
- `Sim.edit_leaves_half_a_line`: then the tail of a line may be left, which is a command.
-/

namespace LineShell

/-- What is left begins where a line begins: nothing is left, nothing was taken, or what was taken last is a newline. -/
def AtLineStart (consumed left : Bytes) : Prop :=
  left = [] ∨ consumed = [] ∨ consumed.getLast? = some newline

instance (consumed left : Bytes) : Decidable (AtLineStart consumed left) :=
  inferInstanceAs (Decidable (_ ∨ _ ∨ _))

namespace AtLineStart

variable {front consumed left : Bytes}

/-- What was taken in front of a newline makes no difference. -/
theorem append (front : Bytes) (h : left = [] ∨ consumed.getLast? = some newline) :
    AtLineStart (front ++ consumed) left := by
  rcases h with rfl | hlast
  · exact .inl rfl
  · exact .inr (.inr (by rw [List.getLast?_append, hlast, Option.some_or]))

/-- Behind lines that were ended a line begins. -/
theorem behind_endedLines : ∀ typed : List Bytes, AtLineStart (endedLines typed) left
  | [] => .inr (.inl rfl)
  | line :: typed => by
    rw [endedLines_cons]
    rcases behind_endedLines typed with hleft | hnil | hlast
    · exact .inl hleft
    · exact .append line (.inr (by rw [hnil]; rfl))
    · exact .append line (.inr (by rw [List.getLast?_cons, hlast]; rfl))

/-- Behind a first line a line begins. -/
theorem behind_firstLine (front : Bytes) (h : FirstLine consumed left) : AtLineStart (front ++ consumed) left := by
  refine .append front ?_
  cases h with
  | ended h rest => exact .inr (by simp)
  | last h hne => exact .inl rfl

/-- In front of the newline of a line no line begins. -/
theorem not_inside {line : Bytes} {n : Nat} (hn : n < (lineBody line).length) (hleft : left ≠ []) (front : Bytes) :
    ¬AtLineStart (front ++ line.take (n + 1)) left := by
  obtain ⟨tail, htail⟩ : lineBody line <+: line := List.takeWhile_prefix _
  have htake : line.take (n + 1) = (lineBody line).take (n + 1) := by
    rw [← htail, List.take_append_of_le_length hn, htail]
  have hne : (lineBody line).take (n + 1) ≠ [] := List.ne_nil_of_length_pos (by rw [List.length_take]; omega)
  rw [htake]
  rintro (hnil | hnil | hlast)
  · exact hleft hnil
  · exact hne (List.append_eq_nil_iff.1 hnil).2
  · rw [List.getLast?_append_of_ne_nil _ hne] at hlast
    have hmem := List.mem_of_mem_take (List.mem_of_getLast? hlast)
    simpa using List.all_eq_true.1 List.all_takeWhile newline hmem

end AtLineStart

/-- Of these bytes, some ended lines and a part of the next one were consumed: that line is longer than the largest block
for which the heap has room, and one byte more than this block holds was consumed of it. -/
def BrokenInside (heap : Heap) (data consumed : Bytes) : Prop :=
  ∃ typed behind k, (∀ line ∈ typed, IsLine line) ∧ data = endedLines typed ++ behind ∧
    heap.admits (heap.inUse + 2 ^ k) = true ∧ heap.admits (heap.inUse + 2 ^ (k + 1)) = false ∧
    2 ^ k < (lineBody behind).length ∧ consumed = endedLines typed ++ behind.take (2 ^ k + 1)

/-- Then what is left begins inside of that line. -/
theorem BrokenInside.not_atLineStart {heap : Heap} {data consumed left : Bytes} (h : BrokenInside heap data consumed)
    (hleft : left ≠ []) : ¬AtLineStart consumed left := by
  obtain ⟨typed, behind, k, -, -, -, -, hlonger, rfl⟩ := h
  exact AtLineStart.not_inside hlonger hleft _

/-- What is behind a line does not belong to it. -/
theorem FirstLine.lineBody_append {line rest : Bytes} (h : FirstLine line rest) :
    lineBody (line ++ rest) = lineBody line := by
  cases h with
  | ended h rest =>
    rw [lineBody_ended h, List.append_assoc, LineShell.lineBody_append h]
    simp [lineBody]
  | last h hne => rw [List.append_nil]

/-- What was typed is taken up to the beginning of a line. -/
theorem Typed.exists_consumed {typed : List Bytes} {arrivals left : List Arrival} (h : Typed typed arrivals left) :
    ∃ consumed : Bytes, arrivals = consumed.map .byte ++ left ∧ (left = [] ∨ consumed.getLast? = some newline) := by
  induction h with
  | emptyLine left => exact ⟨[newline], rfl, .inr rfl⟩
  | endOfInput => exact ⟨[], rfl, .inl rfl⟩
  | @lastLine line _ => exact ⟨line, by simp, .inl rfl⟩
  | @line line typed arrivals left _ _ ih =>
    obtain ⟨consumed, rfl, hlast⟩ := ih
    refine ⟨line ++ newline :: consumed, by simp, hlast.imp_right fun hlast => ?_⟩
    rw [List.getLast?_append, List.getLast?_cons, hlast]
    rfl

/-- A call that fails takes a whole line, or nothing, or it is cut off in the middle of a line for which there is no
room. -/
theorem Taken.left_of_error {heap : Heap} {data : Bytes} {e : ReadError}
    (hresult : (ofArrivals heap false (data.map .byte)).result = .error e) (he : e ≠ .endOfInput) :
    ∃ consumed left, data = consumed ++ left ∧ (ofArrivals heap false (data.map .byte)).left = left.map .byte ∧
      (consumed = [] ∨ FirstLine consumed left ∨
        ∃ k, heap.admits (heap.inUse + 2 ^ k) = true ∧ heap.admits (heap.inUse + 2 ^ (k + 1)) = false ∧
          2 ^ k < (lineBody data).length ∧ consumed = data.take (2 ^ k + 1)) := by
  cases hheap : heap.admits (heap.inUse + 1) with
  | false =>
    rw [ofArrivals_starved hheap]
    exact ⟨[], data, rfl, rfl, .inl rfl⟩
  | true =>
    have hwithin := ofArrivals_within hheap (data.map .byte)
    rcases lines_cases data with ⟨rfl, -⟩ | ⟨line, rest, hline, rfl, -⟩
    · rw [List.map_nil, ofArrivals_nil hheap] at hresult
      cases hresult
      exact absurd rfl he
    · obtain ⟨-, hrest⟩ := hline.cut_eq
      generalize ofArrivals heap false ((line ++ rest).map .byte) = t at hwithin hresult ⊢
      cases hwithin with
      | whole _ =>
        refine ⟨line, rest, rfl, ?_, .inr (.inl hline)⟩
        rw [← hrest, Piece.taken]
        cases (cut ((line ++ rest).map .byte)).1.result <;> rfl
      | cutOff k hroom hfull hlonger =>
        rw [hline.bytes_cut, ← hline.lineBody_append] at hlonger
        refine ⟨(line ++ rest).take (2 ^ k + 1), (line ++ rest).drop (2 ^ k + 1), (List.take_append_drop _ _).symm, ?_,
          .inr (.inr ⟨k, hroom, hfull, hlonger, rfl⟩)⟩
        rw [← List.map_drop]

namespace Sim

/-- However editing ends, some bytes were consumed. -/
theorem EditEnds.exists_consumed {s s' : Sim} {path? : Option String} {heap : Heap} {script : Script} {data : Bytes}
    {code : ExitCode} (h : s.EditEnds path? heap (data.map .byte) code s') (hinput : s.input = .script script)
    (hdata : script.arrivals = data.map .byte) :
    ∃ script' consumed left, s'.input = .script script' ∧ script'.arrivals = left.map .byte ∧ data = consumed ++ left ∧
      (AtLineStart consumed left ∨ code = .failure ∧ BrokenInside heap data consumed) := by
  have hinj {xs ys : Bytes} (h : xs.map Arrival.byte = ys.map .byte) : xs = ys :=
    (List.map_inj_right fun _ _ => Arrival.byte.inj).1 h
  cases h with
  | refused _ => exact ⟨script, [], data, hinput, hdata, rfl, .inl (.inr (.inl rfl))⟩
  | @replaced path id fd old typed script' _ _ htyped =>
    obtain ⟨consumed, hconsumed, hlast⟩ := htyped.exists_consumed
    obtain ⟨front, left, rfl, hfront, hleft⟩ := List.map_eq_append_iff.1 hconsumed
    obtain rfl := hinj hfront
    refine ⟨script', front, left, rfl, hleft.symm, rfl, .inl (.append [] (hlast.imp_left fun hnil => ?_))⟩
    rw [hnil] at hleft
    exact List.map_eq_nil_iff.1 hleft
  | @brokenOff typed arrivals e script' _ hlines harrivals hresult he hleft =>
    obtain ⟨front, behind, rfl, hfront, rfl⟩ := List.map_eq_append_iff.1 harrivals
    obtain rfl := hinj hfront
    obtain ⟨consumed, left, hbehind, hleft', hconsumed⟩ := Taken.left_of_error hresult he
    refine ⟨script', endedLines typed ++ consumed, left, rfl, hleft.trans hleft', by rw [hbehind, List.append_assoc], ?_⟩
    rcases hconsumed with rfl | hline | ⟨k, hroom, hfull, hlonger, rfl⟩
    · rw [List.append_nil]
      exact .inl (.behind_endedLines typed)
    · exact .inl (.behind_firstLine _ hline)
    · exact .inr ⟨rfl, typed, behind, k, hlines, rfl, hroom, hfull, hlonger, rfl⟩

/-- **What the editor leaves.** From a console without faults, a process that runs the editor, with whatever words, takes
some bytes and leaves the others. These begin in the middle of a line exactly if there are some and it failed inside of
that line, for which there was no room. -/
theorem edit_leaves (depth : Nat) {m : Machine Sim} {pid : Pid} {process : Process} {s : Sim} {script : Script}
    {data : Bytes} (htake : m.state.take pid = some (process, s)) (hprogram : process.program = Program.edit)
    (hinput : m.state.input = .script script) (hdata : script.arrivals = data.map .byte)
    (hfits : data.length < Script.limit) :
    ∃ code m' script' consumed left,
      (kernel (depth + 1)).serve (.waitpid pid) m = some (.granted (.status code), m') ∧
      m'.state.input = .script script' ∧ script'.arrivals = left.map .byte ∧ data = consumed ++ left ∧
      (¬AtLineStart consumed left ↔ left ≠ [] ∧ code = .failure ∧ BrokenInside m.heap data consumed) := by
  have hlength : script.arrivals.length = data.length := by rw [hdata, List.length_map]
  obtain ⟨code, s', m', hserve, hends, hstate⟩ := reap_edit depth htake hprogram hinput (hlength ▸ hfits)
  have hbefore : ({ s with cwd := process.cwd } : Sim).input = .script script := by
    obtain ⟨id, -, rfl⟩ := take_eq htake
    exact hinput
  rw [hdata] at hends
  obtain ⟨script', consumed, left, hinput', hleft, happend, hconsumed⟩ := hends.exists_consumed hbefore hdata
  refine ⟨code, m', script', consumed, left, hserve, by rw [hstate]; exact hinput', hleft, happend, fun hnot => ?_, ?_⟩
  · exact ⟨fun hnil => hnot (.inl hnil), hconsumed.resolve_left hnot⟩
  · exact fun ⟨hne, _, hbroken⟩ => hbroken.not_atLineStart hne

/-- With room for two bytes, the editor fails at the third byte of a line and leaves the others. A shell with more room
then runs them as a command. -/
theorem edit_leaves_half_a_line :
    let process : Process := ⟨Program.edit, ["/edit", "/f"], "/"⟩
    let s := (((empty (.script [])).install "/edit" Program.edit).2.create "/f" false).2
    let data := Text.bytes "abcpwd\n"
    let m : Machine Sim := ⟨⟨some 2, 0, 0⟩, {}, { s with input := .script [.data data], processes := [(0, process)] }⟩
    m.state.take (Pid.ofNat 0) = some (process, { s with input := .script [.data data] }) ∧
      process.program = Program.edit ∧ m.state.input = .script [.data data] ∧
      Script.arrivals [.data data] = data.map .byte ∧ data.length < Script.limit ∧
      (∃ m' script' consumed left,
        (kernel 1).serve (.waitpid (Pid.ofNat 0)) m = some (.granted (.status .failure), m') ∧
        m'.state.input = .script script' ∧ script'.arrivals = left.map .byte ∧ data = consumed ++ left ∧
        left = Text.bytes "pwd\n" ∧ ¬AtLineStart consumed left) ∧
      (((kernel 1).serve (.waitpid (Pid.ofNat 0)) m).bind fun x =>
          ({ builtins := .standard Usage.builtins } : Shell).step (kernel 1) (supply x.2)
            { x.2 with heap := {}, terminal := {} }).map (fun x => (x.1.1, x.2.terminal.output)) =
        some (.completed .success, Text.bytes "$ /\n") := by
  intro process s data m
  have htake : m.state.take (Pid.ofNat 0) = some (process, { s with input := .script [.data data] }) := rfl
  have hdata : Script.arrivals [.data data] = data.map .byte := by simp
  have hfits : data.length < Script.limit := by decide +kernel
  have hran : ((kernel 1).serve (.waitpid (Pid.ofNat 0)) m).map (fun x => (x.1, x.2.state.input)) =
      some (.granted (.status .failure), .script [.data (Text.bytes "pwd\n")]) := by decide +kernel
  obtain ⟨code, m', script', consumed, left, hserve, hinput, hleft, happend, -⟩ :=
    edit_leaves 0 htake rfl rfl hdata hfits
  rw [hserve, Option.map_some] at hran
  obtain ⟨hreply, hscript⟩ := Prod.mk.inj (Option.some.inj hran)
  obtain rfl : code = .failure := Fill.status.inj (congrArg Reply.fill hreply)
  obtain rfl : script' = [.data (Text.bytes "pwd\n")] := Input.script.inj (hinput.symm.trans hscript)
  have hpwd : Script.arrivals [.data (Text.bytes "pwd\n")] = (Text.bytes "pwd\n").map .byte := by simp
  obtain rfl : Text.bytes "pwd\n" = left :=
    (List.map_inj_right fun _ _ => Arrival.byte.inj).1 (hpwd.symm.trans hleft)
  have hsplit : data = Text.bytes "abc" ++ Text.bytes "pwd\n" := by decide +kernel
  obtain rfl : consumed = Text.bytes "abc" := List.append_cancel_right (happend.symm.trans hsplit)
  exact ⟨htake, rfl, rfl, hdata, hfits, ⟨m', _, _, _, hserve, hinput, hleft, happend, rfl, by decide +kernel⟩,
    by decide +kernel⟩

end Sim

end LineShell
