import LineShell.Proofs.Dialogue
import LineShell.Proofs.Sim.Bundled

/-!
# Directories as they are printed

To print a directory, `ls` asks for its size, then for each entry below it and for what that is the entry of, and writes one
line for each. Whatever state a kernel has come to, none of these requests fails: the size is the number of the entries that
can be read, and whatever has an entry is there.

- `Prog.Granted`: a program comes to its end, and nothing that it asks for is refused;
- `Program.listFrom_granted`: the loop over the entries, as long as each can be read and looked at;
- `Sim.Reachable.ls_lists`: what `ls` prints.
-/

namespace LineShell

/-! ## Runs without a refusal -/

/-- The program ends with this value and leaves this machine, and every request that it makes on the way is granted. -/
structure Prog.Granted {σ α : Type} (K : Kernel σ) (p : Prog α) (m : Machine σ) (value : α) (m' : Machine σ) : Prop where
  run_eq : p.run K m = some (value, m')
  replies : ∀ e ∈ p.trace K m, e.reply.failed = false

namespace Prog.Granted

variable {σ α β : Type} {K : Kernel σ} {m m₁ m' : Machine σ}

theorem pure (value : α) : (Pure.pure value : Prog α).Granted K m value m :=
  ⟨rfl, nofun⟩

theorem seq {p : Prog α} {f : α → Prog β} {first : α} {value : β} (hp : p.Granted K m first m₁)
    (hf : (f first).Granted K m₁ value m') : (p >>= f).Granted K m value m' := by
  refine ⟨?_, fun e he => ?_⟩
  · rw [run_seq, hp.run_eq]
    exact hf.run_eq
  · rw [trace_seq hp.run_eq] at he
    rcases List.mem_append.1 he with hbefore | hafter
    · exact hp.replies e hbefore
    · exact hf.replies e hafter

theorem ask {r : Request} {reply : Reply} (hserve : K.serve r m = some (reply, m')) (hok : reply.failed = false)
    (f : Reply → Except SysError α) : (Prog.ask r f).Granted K m (f reply) m' := by
  refine ⟨?_, fun e he => ?_⟩
  · rw [run_ask, hserve, Option.map_some, understood, hok]
    rfl
  · rw [Prog.ask, trace, hserve] at he
    rw [List.mem_singleton.1 he]
    exact hok

theorem orFail {p : Prog (Except SysError α)} {next : α → Prog Outcome} {value : α} {outcome : Outcome}
    (hp : p.Granted K m (.ok value) m₁) (hnext : (next value).Granted K m₁ outcome m') :
    (p.orFail next).Granted K m outcome m' :=
  hp.seq hnext

/-- A program that ends with an exit code ends with it as a process. -/
theorem start {program : Program} {supply : Nat} {argv : List String} {code : ExitCode}
    (h : (program supply argv).Granted K m (.ok code) m') : (program.start supply argv).Granted K m code m' :=
  h.seq (pure code)

end Prog.Granted

namespace Sim

variable {m : Machine Sim} {depth : Nat}

theorem printText_granted (depth : Nat) (h : m.state.room ≠ some 0) (text : String) :
    (Prog.printText text).Granted (kernel depth) m (.ok ()) (m.shown text) := by
  refine ⟨run_printText_ok depth (.inr h), fun e he => ?_⟩
  unfold Prog.printText Prog.print at he
  split at he
  · cases he
  · have hserve : (kernel depth).serve (.write .stdout (Text.bytes text) 0) m =
        some (.granted .nothing, (writeConsole m (Text.bytes text)).2) := by
      rw [serve_writeConsole depth m rfl, writeConsole_granted h]
    exact (Prog.Granted.ask hserve (Reply.failed_granted _) _).replies e he

/-- A text is printed alike in every working directory. -/
theorem shown_moved (m : Machine Sim) (cwd : String) (text : String) :
    ({ m with state := { m.state with cwd := cwd } } : Machine Sim).shown text =
      { m.shown text with state := { (m.shown text).state with cwd := cwd } } := by
  unfold Machine.shown
  split
  · rfl
  · unfold writeConsole
    dsimp only
    split <;> rfl

/-- A request that shows something of the state and changes nothing. -/
theorem Answers.ask {r : Request} {reply : Reply} {α : Type} (h : m.state.Answers r reply) (hok : reply.failed = false)
    (f : Reply → Except SysError α) : (Prog.ask r f).Granted (kernel depth) m (f reply) m :=
  .ask (h depth m.heap m.terminal) hok f

/-! ## Lines of a listing -/

/-- The line of an entry: the name that it shows, and a slash behind that of a directory. -/
def entryLine (s : Sim) (entry : DirEntry) : String :=
  entry.name ++ (if ((s.handle? entry.id).bind s.store.children?).isSome then "/" else "") ++ "\n"

end Sim

namespace Program

variable (depth : Nat) {m : Machine Sim} {dir : Fd} {entries : List DirEntry}

/-- **The loop over the entries** prints a line for each of them, if each can be read and looked at. It has come past the
entries in front, of which the lines are listed. -/
theorem listFrom_granted (hroom : m.state.room ≠ some 0)
    (hread : ∀ i entry, entries[i]? = some entry →
      m.state.Answers (.readDir dir (UInt64.ofNat i)) (.granted (.entry entry)))
    (hlook : ∀ entry ∈ entries, ∃ stat, m.state.Answers (.fstat entry.id) (.granted (.stat stat)) ∧
      listed entry stat = m.state.entryLine entry) :
    ∀ (rest front : List DirEntry) (listing : String), entries = front ++ rest →
      (listFrom dir front.length listing rest.length).Granted (Sim.kernel depth) m (.ok .success)
        (m.shown (listing ++ String.join (rest.map m.state.entryLine)))
  | [], _, listing, _ => by
    have hprint := Sim.printText_granted depth hroom listing
    rw [List.map_nil, String.join_nil, String.append_empty]
    exact hprint.orFail (.pure _)
  | entry :: rest, front, listing, hentries => by
    have hhere : entries[front.length]? = some entry := by simp [hentries]
    obtain ⟨stat, hstat, hline⟩ := hlook entry (List.mem_of_getElem? hhere)
    have hnext := listFrom_granted hroom hread hlook rest (front ++ [entry]) (listing ++ listed entry stat)
      (by simp [hentries])
    -- the line of this entry moves from the listing to the lines that are to come
    rw [List.length_append, List.length_singleton, hline, String.append_assoc, ← String.join_cons, ← List.map_cons,
      ← hline] at hnext
    exact ((hread _ _ hhere).ask rfl _).seq ((hstat.ask rfl _).seq hnext)

end Program

/-! ## Entries that can be read and looked at -/

namespace Sim

/-- What stands in a slot has a status, which tells directories from files. -/
theorem Store.exists_stat? {s : Store} {id : Nat} {place : String × Nat} (h : s.place? id = some place) :
    ∃ stat, s.stat? id = some stat ∧ stat.directory = (s.children? id).isSome := by
  obtain ⟨⟨name, parent, content | children⟩, hget, -⟩ := Option.map_eq_some_iff.1 h
  · exact ⟨_, by rw [stat?, hget]; rfl, by rw [children?_eq, hget]; rfl⟩
  · exact ⟨_, by rw [stat?, hget]; rfl, by rw [children?_eq, hget]; rfl⟩

variable {s : Sim} {dir id : Nat} {children : List Nat}

/-- **Each child has an entry**, which can be looked at. -/
theorem Intact.entry_of_child (h : s.Intact) (hslots : s.store.slots.size + Fd.reserved < Fd.limit)
    (hdir : s.store.children? dir = some children) {i : Nat} (hchild : children[i]? = some id) :
    ∃ entry, s.store.entry? dir i = some entry ∧ entry.id.fileId? = some id ∧
      ∃ stat, s.Answers (.fstat entry.id) (.granted (.stat stat)) ∧ Program.listed entry stat = s.entryLine entry := by
  obtain ⟨-, name, hplace⟩ := h.tree.child hdir (List.mem_of_getElem? hchild)
  obtain ⟨inode, hget, -⟩ := Option.map_eq_some_iff.1 hplace
  have hlt := Store.lt_size_of_place? hplace
  have hfd : Fd.ofFileId? id = some ⟨Int32.ofNat (id + Fd.reserved)⟩ := if_pos (by omega)
  have hid := Fd.fileId?_ofFileId? hfd
  have hhandle : s.handle? ⟨Int32.ofNat (id + Fd.reserved)⟩ = some id := by
    rw [handle?, hid, Option.bind_some, hget]
    rfl
  obtain ⟨stat, hstat, hdirectory⟩ := Store.exists_stat? hplace
  refine ⟨_, Store.entry?_eq hdir hchild hplace hfd, hid, stat, ?_, ?_⟩
  · rw [answers_fstat]
    show showing .stat ((s.handle? ⟨Int32.ofNat (id + Fd.reserved)⟩).bind s.store.stat?) = _
    rw [hhandle, Option.bind_some, hstat]
    rfl
  · rw [Program.listed, hdirectory, entryLine]
    show _ = _ ++ (if ((s.handle? ⟨Int32.ofNat (id + Fd.reserved)⟩).bind s.store.children?).isSome then _ else _) ++ _
    rw [hhandle, Option.bind_some]

/-- The entries of a directory: one for each child in the order of the list, and none behind them. -/
theorem Intact.exists_entries (h : s.Intact) (hslots : s.store.slots.size + Fd.reserved < Fd.limit)
    (hdir : s.store.children? dir = some children) :
    ∃ entries : List DirEntry, (∀ i, entries[i]? = s.store.entry? dir i) ∧
      entries.map (·.id.fileId?) = children.map some := by
  have hsome (i : Fin children.length) : (s.store.entry? dir i).isSome := by
    obtain ⟨entry, hentry, -⟩ := h.entry_of_child hslots hdir (List.getElem?_eq_getElem i.isLt)
    rw [hentry]
    rfl
  have hat (i : Nat) : (List.ofFn fun i => (s.store.entry? dir i).get (hsome i))[i]? = s.store.entry? dir i := by
    rw [List.getElem?_ofFn]
    split
    · exact Option.some_get _
    · next hge => rw [Store.entry?_none hdir (Nat.le_of_not_lt hge)]
  refine ⟨_, hat, List.ext_getElem? fun i => ?_⟩
  rw [List.getElem?_map, List.getElem?_map, hat]
  cases hchild : children[i]? with
  | none => rw [Store.entry?_none hdir (List.getElem?_eq_none_iff.1 hchild)]; rfl
  | some id =>
    obtain ⟨entry, hentry, hid, -⟩ := h.entry_of_child hslots hdir hchild
    rw [hentry, Option.map_some, hid]
    rfl

/-- Reading a directory answers its entries. -/
theorem answers_readDir_entries (hdir : s.store.children? dir = some children) {fd : Fd}
    (hfd : Fd.ofFileId? dir = some fd) {entries : List DirEntry} (hentries : ∀ i, entries[i]? = s.store.entry? dir i)
    (offset : UInt64) : s.Answers (.readDir fd offset) (showing .entry entries[offset.toNat]?) := by
  rw [answers_readDir, handle?_of_children? hdir hfd, Option.bind_some, hentries]

/-- A directory has no more children than there are slots. -/
theorem Store.Tree.length_children_le {s : Store} (h : s.Tree) (hdir : s.children? dir = some children) :
    children.length ≤ s.slots.size := by
  have hnodup : children.Nodup := (h.sorted hdir).imp Nat.ne_of_lt
  have hsub : children ⊆ List.range s.slots.size := by
    intro id hmem
    obtain ⟨-, name, hplace⟩ := h.child hdir hmem
    exact List.mem_range.2 (lt_size_of_place? hplace)
  have hle := (List.subperm_of_subset hnodup hsub).length_le
  rwa [List.length_range] at hle

/-- A dot means the working directory. -/
theorem Intact.lookup_dot (h : s.Intact) : s.lookup "." = s.lookup s.cwd := by
  rw [lookup, lookup, h.cwd.absolute_dot, h.cwd.absolute_eq]

/-- Opening what is there hands out its descriptor. -/
theorem openFile_granted {m : Machine Sim} {depth : Nat} {path : String} {fd : Fd} (hlookup : m.state.lookup path = some id)
    (hfd : Fd.ofFileId? id = some fd) : (Prog.openFile path).Granted (kernel depth) m (.ok fd) m := by
  have hanswer : m.state.Answers (.openFile path) ⟨fd.raw.toInt64, .nothing⟩ := by
    rw [answers_openFile, elim_descriptorReply_eq_iff hfd, hlookup]
  have hok : (⟨fd.raw.toInt64, .nothing⟩ : Reply).failed = false := by
    have hreply := failed_descriptorReply (Fd.toInt_ofFileId? hfd).2
    rwa [descriptorReply, hfd] at hreply
  have hvalue := Fd.understood_ofFileId? hfd (.openFile path) .openFile
  rw [Prog.understood, hok] at hvalue
  have hdescriptor : Prog.descriptor .openFile ⟨fd.raw.toInt64, .nothing⟩ = .ok fd := hvalue
  exact hdescriptor ▸ hanswer.ask hok (Prog.descriptor .openFile)

end Sim

/-! ## What `ls` prints -/

namespace Program

open Sim (kernel)

variable (depth supply : Nat) {m : Machine Sim} {argv : List String} {dir : Nat} {children : List Nat} {fd : Fd}
  {entries : List DirEntry}

theorem ls_granted (hs : m.state.Intact) (hslots : m.state.store.slots.size + Fd.reserved < Fd.limit)
    (hroom : m.state.room ≠ some 0) (hopen : m.state.lookup (argv[1]?.getD m.state.cwd) = some dir)
    (hdir : m.state.store.children? dir = some children) (hfd : Fd.ofFileId? dir = some fd)
    (hentries : ∀ i, entries[i]? = m.state.store.entry? dir i) (hlength : entries.length = children.length) :
    (ls supply argv).Granted (kernel depth) m (.ok .success) (m.shown (String.join (entries.map m.state.entryLine))) := by
  have hlookup : m.state.lookup (argv[1]?.getD ".") = some dir := by
    cases hpath : argv[1]? with
    | none =>
      rw [hpath] at hopen
      exact hs.lookup_dot.trans hopen
    | some path =>
      rw [hpath] at hopen
      exact hopen
  have hread (i : Nat) (entry : DirEntry) (hentry : entries[i]? = some entry) :
      m.state.Answers (.readDir fd (UInt64.ofNat i)) (.granted (.entry entry)) := by
    obtain ⟨hi, -⟩ := List.getElem?_eq_some_iff.1 hentry
    have hle := hs.tree.length_children_le hdir
    have hsize : i < UInt64.size := by
      simp only [Fd.limit] at hslots
      simp only [UInt64.size]
      omega
    have hoffset : (UInt64.ofNat i).toNat = i := UInt64.toNat_ofNat_of_lt' hsize
    have hanswer := Sim.answers_readDir_entries hdir hfd hentries (UInt64.ofNat i)
    rwa [hoffset, hentry] at hanswer
  have hlook (entry : DirEntry) (hmem : entry ∈ entries) : ∃ stat,
      m.state.Answers (.fstat entry.id) (.granted (.stat stat)) ∧ listed entry stat = m.state.entryLine entry := by
    obtain ⟨i, hi, hentry⟩ := List.mem_iff_getElem.1 hmem
    have hchild : children[i]? = some children[i] := List.getElem?_eq_getElem (hlength ▸ hi)
    obtain ⟨entry', hentry', -, hlook⟩ := hs.entry_of_child hslots hdir hchild
    rw [← hentries, List.getElem?_eq_getElem hi, hentry] at hentry'
    cases hentry'
    exact hlook
  have hloop := listFrom_granted depth hroom hread hlook entries [] "" rfl
  rw [hlength, List.length_nil, String.empty_append] at hloop
  exact (Sim.openFile_granted hlookup hfd).seq
    (.orFail ((Sim.answers_fstat_dir hdir hfd).ask rfl _) hloop)

end Program

namespace Sim

/-- **`ls` prints the directory.** Take a kernel in any state that it comes to, with a descriptor for each of its slots and
a console that takes one more write, and a path that leads to a directory; it is the first argument, or the working
directory if there is none. The children of the directory are exactly what is in it, each once, and reading it shows one
entry for each of them in that order, and nothing behind. Then `ls` exits with success and changes nothing but the console.
There it writes the line of each entry, in that order, and that is all. Each of its requests is granted on the way. So it
is when it runs in a process that is waited for. -/
theorem Reachable.ls_lists {m : Machine Sim} (argv : List String) {dir : Nat} {children : List Nat}
    (h : m.state.Reachable) (hslots : m.state.store.slots.size + Fd.reserved < Fd.limit) (hroom : m.state.room ≠ some 0)
    (hopen : m.state.lookup (argv[1]?.getD m.state.cwd) = some dir) (hdir : m.state.store.children? dir = some children)
    (depth : Nat) :
    ∃ fd, ∃ entries : List DirEntry, Fd.ofFileId? dir = some fd ∧
      (∀ id, id ∈ children ↔ id ≠ Store.root ∧ ∃ name, m.state.store.place? id = some (name, dir)) ∧ children.Nodup ∧
      entries.map (·.id.fileId?) = children.map some ∧
      (∀ offset : UInt64, m.state.Answers (.readDir fd offset) (showing .entry entries[offset.toNat]?)) ∧
      let listing := String.join (entries.map m.state.entryLine)
      (∀ supply, (Program.start Program.ls supply argv).Granted (kernel depth) m .success (m.shown listing)) ∧
      (m.shown listing).terminal.output = m.terminal.output ++ Text.bytes listing ∧
      ∀ (starter : Machine Sim) (pid : Pid) (cwd : String) (s : Sim),
        starter.state.take pid = some (⟨Program.ls, argv, cwd⟩, s) → m = { starter with state := { s with cwd := cwd } } →
          (kernel (depth + 1)).serve (.waitpid pid) starter =
            some (.granted (.status .success), { starter with state := s }.shown listing) := by
  have hs := h.intact
  have htree := hs.tree
  obtain ⟨entries, hentries, hids⟩ := hs.exists_entries hslots hdir
  have hlength : entries.length = children.length := by simpa using congrArg List.length hids
  have hlt := Store.lt_size_of_children? hdir
  have hfd : Fd.ofFileId? dir = some ⟨Int32.ofNat (dir + Fd.reserved)⟩ := if_pos (by omega)
  have hruns (supply : Nat) :=
    (Program.ls_granted depth supply hs hslots hroom hopen hdir hfd hentries hlength).start
  refine ⟨_, entries, hfd, fun id => htree.mem_children_iff hdir, (htree.sorted hdir).imp Nat.ne_of_lt, hids,
    answers_readDir_entries hdir hfd hentries, hruns, Machine.output_shown _ (.inr hroom),
    fun starter pid cwd s htake hm => ?_⟩
  subst hm
  obtain ⟨id, -, rfl⟩ := take_eq htake
  have hserve : (kernel (depth + 1)).serve (.waitpid pid) starter = reap (runProcess (depth + 1)) pid starter := rfl
  have hprocess : runProcess (depth + 1) ⟨Program.ls, argv, cwd⟩ _ = _ := (hruns (supply _)).run_eq
  let gone : Machine Sim :=
    { starter with state := { starter.state with processes := starter.state.processes.filter (·.1 != id) } }
  have hmoved (cwd : String) := shown_moved gone cwd (String.join (entries.map gone.state.entryLine))
  let back (m' : Machine Sim) : Option (Reply × Machine Sim) :=
    some (.granted (.status .success), { m' with state := { m'.state with cwd := starter.state.cwd } })
  rw [hserve, reap_some htake, hprocess]
  exact (congrArg back (hmoved cwd)).trans (congrArg (fun m' => some (_, m')) (hmoved starter.state.cwd).symm)

/-- A file and a directory in the working directory, which is listed without an argument. -/
theorem Reachable.ls_lists_marked :
    let files := (((Sim.empty (.script [])).create "/tmp" true).2.create "/tmp/notes" false).2
    let s := ((files.create "/tmp/sub" true).2.changeDir "/tmp").2
    s.Reachable ∧ s.store.slots.size + Fd.reserved < Fd.limit ∧ s.room ≠ some 0 ∧
      s.lookup (["/ls"][1]?.getD s.cwd) = some 1 ∧ s.store.children? 1 = some [2, 3] ∧
      ∃ m', (Program.start Program.ls 0 ["/ls"]).Granted (kernel 0) ⟨{}, {}, s⟩ .success m' ∧
        m'.terminal.output = Text.bytes "notes\nsub/\n" := by
  intro files s
  have hreachable : s.Reachable := ((((Reachable.empty _).created _ _).created _ _).created _ _).changedDir _
  have hslots : s.store.slots.size + Fd.reserved < Fd.limit := by decide +kernel
  have hroom : s.room ≠ some 0 := by decide +kernel
  have hopen : s.lookup (["/ls"][1]?.getD s.cwd) = some 1 := by decide +kernel
  have hdir : s.store.children? 1 = some [2, 3] := by decide +kernel
  have hrun : ((Program.start Program.ls 0 ["/ls"]).run (kernel 0) ⟨{}, {}, s⟩).map (·.2.terminal.output) =
      some (Text.bytes "notes\nsub/\n") := by
    decide +kernel
  clear_value s
  obtain ⟨fd, entries, -, -, -, -, -, hruns, -⟩ :=
    Reachable.ls_lists (m := ⟨{}, {}, s⟩) ["/ls"] hreachable hslots hroom hopen hdir 0
  rw [(hruns 0).run_eq, Option.map_some] at hrun
  exact ⟨hreachable, hslots, hroom, hopen, hdir, _, hruns 0, Option.some.inj hrun⟩

end Sim

end LineShell
