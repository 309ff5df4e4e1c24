import LineShell.Proofs.Blocks
import LineShell.Proofs.Pass

/-!
# The balance of a pass

Reading a line leaves its block with whoever asked for it (`Reader.readLine_carries`), splitting it leaves the blocks of
its words (`Shell.split_carries`), and carrying a command out gives these back. So a pass gives back whatever it takes,
whichever way it goes (`Shell.pass_balanced`), if its command does; the builtins of every shell and the executables do
(`Builtins.dispatch_balanced`, `Executable.run_balanced`).
-/

namespace LineShell

open Prog (carried)

/-! ## Lines -/

/-- The block of a line. -/
def Line.blocks (line : Line) : Multiset Nat :=
  {line.size}

theorem Line.drop_carries (line : Line) (held : Multiset Nat) :
    line.drop.Carries (held + line.blocks) fun _ => held := by
  rw [Multiset.add_comm]
  exact .free held line.size

theorem Line.copy_carries (text : String) : (copy text).Carries 0 (carried Line.blocks) := by
  refine .seq (.malloc 0 (Text.size text)) fun granted => ?_
  cases granted <;> exact .pure rfl

namespace Draft

theorem grow_carries (d : Draft) : d.grow.Carries {d.size} fun
    | .ok d' => {d'.size}
    | .error _ => {d.size} := by
  unfold grow
  split
  · exact ⟨0, rfl, rfl, rfl⟩
  · exact .pure rfl

/-- However far the draft gets, its block is the one it holds. -/
theorem extend_carries : ∀ (data : Bytes) (d : Draft), (d.extend data).Carries {d.size} fun x => {x.1.size}
  | [], d => .pure rfl
  | b :: rest, d => by
    rw [extend]
    split
    · exact extend_carries rest (d.push b)
    · refine .seq d.grow_carries fun grown => ?_
      cases grown with
      | error e => exact .pure rfl
      | ok d' => exact extend_carries rest (d'.push b)

theorem drop_carries (d : Draft) : d.drop.Carries {d.size} fun _ => 0 :=
  .free 0 d.size

/-- The line takes the block over, or nobody has it. -/
theorem finish_carries (d : Draft) : d.finish.Carries {d.size} (carried Line.blocks) := by
  unfold finish
  split
  · exact .pure rfl
  · exact .seq d.drop_carries fun _ => .pure rfl

end Draft

namespace Reader

/-- The block of a line under construction, or of the line that came of it. -/
def Progress.blocks : Progress → Multiset Nat
  | .ended result _ => carried Line.blocks result
  | .more d _ => {d.size}

theorem fetch_balanced (r : Reader) : r.fetch.Balanced := by
  refine .seq (.ask _ _) fun answer => ?_
  cases answer <;> exact .pure _

theorem passOver_balanced (r : Reader) : r.passOver.Balanced := by
  unfold passOver
  split
  · exact .pure _
  · refine .seq (fetch_balanced _) fun fetched => ?_
    obtain ⟨_ | _ | _, _⟩ := fetched <;> exact .pure _

theorem skip_balanced (supply : Nat) (r : Reader) : (r.skip supply).Balanced := by
  induction supply generalizing r with
  | zero =>
    rw [skip.eq_def]
    split
    · exact .pure _
    · refine .seq r.passOver_balanced fun passed => ?_
      obtain ⟨_ | _, _⟩ := passed
      · trivial
      · exact .pure _
  | succ supply ih =>
    rw [skip.eq_def]
    split
    · exact .pure _
    · refine .seq r.passOver_balanced fun passed => ?_
      obtain ⟨_ | _, _⟩ := passed
      · exact ih _
      · exact .pure _

theorem refill_carries (r : Reader) (d : Draft) : (r.refill d).Carries {d.size} Progress.blocks := by
  refine .seq_balanced r.fetch_balanced fun fetched => ?_
  obtain ⟨_ | _ | _, _⟩ := fetched
  · exact .seq d.drop_carries fun _ => .pure rfl
  · dsimp only
    split
    · exact .seq d.drop_carries fun _ => .pure rfl
    · exact .seq d.finish_carries fun result => .pure rfl
  · exact .pure rfl

theorem advance_carries (r : Reader) (d : Draft) : (r.advance d).Carries {d.size} Progress.blocks := by
  refine .seq (d.extend_carries _) fun extended => ?_
  obtain ⟨d', _ | rest⟩ := extended
  · dsimp only
    split
    · exact .seq d'.finish_carries fun result => .pure rfl
    · exact refill_carries _ d'
  · exact .seq d'.drop_carries fun _ => .pure rfl

theorem fill_carries (supply : Nat) (r : Reader) (d : Draft) :
    (r.fill supply d).Carries {d.size} fun x => carried Line.blocks x.1 := by
  induction supply generalizing r d with
  | zero =>
    rw [fill.eq_def]
    refine .seq (r.advance_carries d) fun progress => ?_
    cases progress with
    | ended result r' => exact .pure rfl
    | more d' r' => trivial
  | succ supply ih =>
    rw [fill.eq_def]
    refine .seq (r.advance_carries d) fun progress => ?_
    cases progress with
    | ended result r' => exact .pure rfl
    | more d' r' => exact ih r' d'

/-- **Reading a line** takes the block of the line, and nothing if there is no line. -/
theorem readLine_carries (supply : Nat) (r : Reader) (prompt : String) :
    (r.readLine supply prompt).Carries 0 fun x => carried Line.blocks x.1 := by
  refine .seq_balanced (.printText prompt) fun printed => ?_
  cases printed with
  | error e => exact .pure rfl
  | ok _ =>
    refine .seq_balanced (r.skip_balanced supply) fun skipped => ?_
    obtain ⟨_ | _, r'⟩ := skipped
    · exact .pure rfl
    · refine .seq (.malloc 0 1) fun granted => ?_
      cases granted with
      | error e => exact .pure rfl
      | ok _ => exact fill_carries supply r' {}

end Reader

/-! ## Words -/

namespace Words

/-- The blocks of some words, without that of their slots. -/
def wordBlocks (list : List String) : Multiset Nat :=
  list.map Text.size

/-- The blocks of words on the heap. -/
def blocks (ws : Words) : Multiset Nat :=
  wordBlocks ws.toList + {ws.toList.length * slotSize}

theorem wordBlocks_cons (word : String) (rest : List String) :
    wordBlocks (word :: rest) = Text.size word ::ₘ wordBlocks rest := rfl

theorem dropEach_carries : ∀ list : List String, (dropEach list).Carries (wordBlocks list) fun _ => 0
  | [] => .pure rfl
  | word :: rest => .seq (.free (wordBlocks rest) (Text.size word)) fun _ => dropEach_carries rest

/-- All words are held in the end, or none. -/
theorem holdEach_carries : ∀ list held : List String, (holdEach held list).Carries (wordBlocks held)
    fun granted => carried (fun _ => wordBlocks held + wordBlocks list) granted
  | [], held => .pure (Multiset.add_zero _).symm
  | word :: rest, held => by
    refine .seq (.malloc (wordBlocks held) (Text.size word)) fun granted => ?_
    cases granted with
    | error e =>
      have hdrop := dropEach_carries held
      rw [← Multiset.zero_add (wordBlocks held)] at hdrop
      exact .seq hdrop fun _ => .pure rfl
    | ok _ =>
      have hrest := holdEach_carries rest (word :: held)
      rwa [wordBlocks_cons, Multiset.cons_add, ← Multiset.add_cons, ← wordBlocks_cons] at hrest

/-- Holding words takes their blocks, and nothing if there is no room for them. -/
theorem hold_carries (list : List String) : (hold list).Carries 0 (carried blocks) := by
  refine .seq (.calloc 0 list.length slotSize) fun granted => ?_
  cases granted with
  | error e => exact .pure rfl
  | ok _ =>
    refine .seq ((holdEach_carries list []).frame {list.length * slotSize}) fun held => ?_
    cases held with
    | error e => exact .seq (.free 0 (list.length * slotSize)) fun _ => .pure rfl
    | ok _ => exact .pure (congrArg (· + _) (Multiset.zero_add _))

theorem drop_carries (ws : Words) : ws.drop.Carries ws.blocks fun _ => 0 :=
  .seq ((dropEach_carries ws.toList).frame {ws.toList.length * slotSize}) fun _ => .free 0 _

end Words

/-! ## Commands -/

namespace Builtin

theorem changeDir_balanced (operands : List String) : (changeDir operands).Balanced := by
  unfold changeDir
  split
  · exact .pure _
  · refine .seq (.ask _ _) fun answer => ?_
    cases answer <;> exact .pure _

theorem printDir_balanced : printDir.Balanced := by
  refine .seq (.ask _ _) fun answer => ?_
  cases answer with
  | error e => exact .pure _
  | ok dir => exact .report _ _

theorem factory_balanced {α : Type} {name : String} {read : List String → Except EarlyExit α} {body : α → Prog Outcome}
    (hbody : ∀ given, (body given).Balanced) {word : String} {args : List String} {command : Prog Outcome}
    (h : factory name read body word args = some command) : command.Balanced := by
  unfold factory at h
  split at h
  · cases h
    split
    · exact .report _ _
    · refine .seq (hbody _) fun outcome => ?_
      cases outcome with
      | ok code => exact .pure _
      | error failure => exact .report _ _
  · cases h

end Builtin

namespace Builtins

/-- Every command of the table gives back what it takes. -/
def Balanced (table : Builtins) : Prop :=
  ∀ find ∈ table, ∀ name args command, find name args = some command → command.Balanced

theorem standard_balanced (reader : ArgumentReader) : Balanced (standard reader) := by
  intro find hfind name args command h
  simp only [standard, List.mem_cons, List.not_mem_nil, or_false] at hfind
  rcases hfind with rfl | rfl
  · exact Builtin.factory_balanced Builtin.changeDir_balanced h
  · exact Builtin.factory_balanced (fun _ => Builtin.printDir_balanced) h

theorem Balanced.append {table table' : Builtins} (h : table.Balanced) (h' : table'.Balanced) :
    Balanced (table ++ table') :=
  fun find hfind => (List.mem_append.1 hfind).elim (h find) (h' find)

/-- Whatever a table makes of some words gives back what it takes, a name that it does not know too. -/
theorem dispatch_balanced {table : Builtins} (h : table.Balanced) (argv : List String) :
    (table.dispatch argv).Balanced := by
  cases argv with
  | nil => exact .pure _
  | cons name args =>
    simp only [dispatch]
    cases hfound : table.findSome? fun find => find name args with
    | none => exact .report _ _
    | some command =>
      obtain ⟨find, hmem, hcommand⟩ := List.exists_of_findSome?_eq_some hfound
      exact h find hmem name args command hcommand

end Builtins

theorem Executable.run_balanced (argv : List String) : (run argv).Balanced := by
  cases argv with
  | nil => exact .pure _
  | cons program args =>
    refine .seq (.ask _ _) fun started => ?_
    cases started with
    | error e => exact .report _ _
    | ok pid =>
      refine .seq (.ask _ _) fun ended => ?_
      cases ended <;> exact .report _ _

/-! ## The pass -/

namespace Shell

theorem reject_balanced : reject.Balanced :=
  .seq (.printParts _) fun _ => .pure _

/-- **Splitting** gives the line back, and takes the blocks of the words if there are some to run. -/
theorem split_carries (line : Except ReadError Line) :
    (split line).Carries (carried Line.blocks line) (carried Words.blocks) := by
  cases line with
  | error e =>
    cases e
    case endOfInput => exact .pure rfl
    all_goals exact .seq_balanced reject_balanced fun _ => .pure rfl
  | ok line =>
    refine .seq ((Words.hold_carries (words line.text)).frame line.blocks) fun held => ?_
    cases held with
    | error e =>
      refine .seq_balanced reject_balanced fun _ => ?_
      exact .seq (line.drop_carries 0) fun _ => .pure rfl
    | ok ws =>
      refine .seq (line.drop_carries ws.blocks) fun _ => ?_
      by_cases hempty : ws.toList.isEmpty
      · simp only [hempty, ↓reduceIte]
        exact .seq ws.drop_carries fun _ => .pure rfl
      · simp only [hempty, Bool.false_eq_true, ↓reduceIte]
        exact .pure rfl

theorem dispatch_balanced {sh : Shell} (h : sh.builtins.Balanced) (argv : List String) :
    (sh.dispatch argv).Balanced := by
  unfold dispatch
  split
  · exact Executable.run_balanced argv
  · exact Builtins.dispatch_balanced h argv

/-- A command runs with its words on the heap, which are given back when it ends. -/
theorem carryOut_carries {sh : Shell} (h : sh.builtins.Balanced) (ws : Words) :
    (sh.carryOut ws).Carries ws.blocks fun _ => 0 :=
  .seq_balanced (dispatch_balanced h ws.toList) fun _ => .seq ws.drop_carries fun _ => .pure rfl

theorem perform_carries {sh : Shell} (h : sh.builtins.Balanced) (line : Except ReadError Line) :
    (sh.perform line).Carries (carried Line.blocks line) fun _ => 0 := by
  refine .seq (split_carries line) fun asked => ?_
  cases asked with
  | error pass => exact .pure rfl
  | ok ws => exact carryOut_carries h ws

/-- **A pass** that reads a line gives back whatever it takes. -/
theorem pass_balanced {α : Type} {sh : Shell} (h : sh.builtins.Balanced) {read : Prog (Except ReadError Line × α)}
    (hread : read.Carries 0 fun x => carried Line.blocks x.1) : (sh.pass read).Balanced :=
  Prog.Carries.seq hread fun x => .seq (perform_carries h x.1) fun _ => .pure rfl

theorem hold_carries (typed : Except ReadError String) :
    (LineSource.hold typed).Carries 0 (carried Line.blocks) := by
  cases typed with
  | error e => exact .pure rfl
  | ok text =>
    refine .seq (Line.copy_carries text) fun copied => ?_
    cases copied <;> exact .pure rfl

/-- Every source of lines leaves the block of the line that it brings, whatever its editor answers. -/
theorem nextLine_carries {σ : Type} (supply : Nat) (source : LineSource) (prompt : String) (m : Machine σ) :
    (source.nextLine supply prompt m).1.Carries 0 fun x => carried Line.blocks x.1 := by
  cases source with
  | console reader => exact .seq (reader.readLine_carries supply prompt) fun _ => .pure rfl
  | editor editor remembered =>
    unfold LineSource.nextLine
    dsimp only
    split
    · trivial
    · next answer terminal _ => exact .seq (hold_carries _) fun _ => .pure rfl

end Shell

end LineShell
