import LineShell.Proofs.Sim.Directories
import LineShell.Proofs.Sim.Processes
import LineShell.Proofs.Sim.Standing
import LineShell.Proofs.Sim.Typing

/-!
# What the bundled programs change

A bundled program looks, asks and prints first, and changes files last, by one request that is granted or leaves all as it
was; only `edit` makes two, of which the second cannot fail. So a program that does not end with success has changed
nothing, whatever the console and the heap refuse on the way, and one that does has done its one deed (`Sim.Deed`).

- `Sim.Settles`: a program ends in one of these two ways;
- `Program.bundled_settles`: all bundled programs do;
- `Sim.bundled_confined`: so do the processes that run them, and nothing but the files and the console is touched.
-/

namespace LineShell

namespace Sim

/-! ## How a program may end -/

/-- How a program may end that began in a state: with success, and the files then satisfy `D`; or otherwise, and they are
what they were. -/
inductive Ended (s : Sim) (D : Sim → Prop) : Outcome → Sim → Prop
  | succeeded {store : Store} {images : List (Nat × Program)} {input : Input} {written : Nat} :
    D { s.wornTo input written with store := store, images := images } →
      Ended s D (.ok .success) { s.wornTo input written with store := store, images := images }
  | gaveUp (input : Input) (written : Nat) : Ended s D (.ok .failure) (s.wornTo input written)
  | failed (failure : Failure) (input : Input) (written : Nat) : Ended s D (.error failure) (s.wornTo input written)

theorem Ended.of_error {s s' : Sim} {D : Sim → Prop} {failure : Failure} (h : s.Ended D (.error failure) s') :
    ∃ input written, s' = s.wornTo input written := by
  cases h with
  | failed _ input written => exact ⟨input, written, rfl⟩

/-- The program comes to an end, in one of these ways. -/
def Settles (s : Sim) (depth : Nat) (D : Sim → Prop) (p : Prog Outcome) (m : Machine Sim) : Prop :=
  p.Yields (kernel depth) m fun outcome m' => s.Ended D outcome m'.state

/-- The same files as before. -/
def Untouched (s s' : Sim) : Prop :=
  s'.store = s.store ∧ s'.images = s.images

namespace Settles

variable {s : Sim} {depth : Nat} {D : Sim → Prop} {m : Machine Sim} {α : Type}

theorem failed (h : s.Rests m) (failure : Failure) : s.Settles depth D (pure (.error failure)) m := by
  obtain ⟨input, written, hstate⟩ := h
  exact .pure (hstate ▸ .failed failure input written)

theorem gaveUp (h : s.Rests m) : s.Settles depth D (pure (.ok .failure)) m := by
  obtain ⟨input, written, hstate⟩ := h
  exact .pure (hstate ▸ .gaveUp input written)

/-- Success with the files untouched. -/
theorem succeeded (h : s.Rests m) (hD : ∀ s', s.Untouched s' → D s') : s.Settles depth D (pure (.ok .success)) m := by
  obtain ⟨input, written, hstate⟩ := h
  exact .pure (hstate ▸ .succeeded (hD _ ⟨rfl, rfl⟩))

theorem seq {p : Prog α} {next : α → Prog Outcome} {R : α → Machine Sim → Prop} (hp : p.Yields (kernel depth) m R)
    (hnext : ∀ value m', R value m' → s.Settles depth D (next value) m') : s.Settles depth D (p >>= next) m :=
  Prog.Yields.seq hp hnext

theorem seq_run {p : Prog α} {next : α → Prog Outcome} {value : α} {m₁ : Machine Sim}
    (hrun : p.run (kernel depth) m = some (value, m₁)) (hnext : s.Settles depth D (next value) m₁) :
    s.Settles depth D (p >>= next) m :=
  Prog.Yields.seq_run hrun hnext

theorem mono {D' : Sim → Prop} {p : Prog Outcome} (h : s.Settles depth D p m) (hD : ∀ s', D s' → D' s') :
    s.Settles depth D' p m := by
  refine Prog.Yields.mono h fun outcome m' hended => ?_
  generalize m'.state = s' at hended
  cases hended with
  | succeeded hdeed => exact .succeeded (hD _ hdeed)
  | gaveUp input written => exact .gaveUp input written
  | failed failure input written => exact .failed failure input written

theorem orFail {p : Prog (Except SysError α)} {next : α → Prog Outcome}
    (hp : p.Yields (kernel depth) m fun _ m' => s.Rests m')
    (hnext : ∀ value m', s.Rests m' → s.Settles depth D (next value) m') : s.Settles depth D (p.orFail next) m := by
  refine .seq hp fun result m' h => ?_
  cases result with
  | error e => exact failed h _
  | ok value => exact hnext value m' h

theorem orFail_run {p : Prog (Except SysError α)} {next : α → Prog Outcome} {value : α} {m₁ : Machine Sim}
    (hrun : p.run (kernel depth) m = some (.ok value, m₁)) (hnext : s.Settles depth D (next value) m₁) :
    s.Settles depth D (p.orFail next) m :=
  seq_run hrun hnext

theorem refuse (h : s.Rests m) (text : String) : s.Settles depth D (Program.refuse text) m :=
  orFail (printParts_rests depth _ h) fun _ _ h => gaveUp h

theorem report (h : s.Rests m) (hD : ∀ s', s.Untouched s' → D s') (parts : List String) :
    s.Settles depth D (Prog.report parts .success) m :=
  orFail (printParts_rests depth _ h) fun _ _ h => succeeded h hD

end Settles

end Sim

/-! ## Programs that only look -/

namespace Program

variable {s : Sim} (depth supply : Nat) {m : Machine Sim} (argv : List String)

theorem printTimes_settles (text : String) : ∀ (n : Nat) {m : Machine Sim}, s.Rests m →
    s.Settles depth s.Untouched (printTimes text n) m
  | 0, _, h => .report h (fun _ h => h) _
  | n + 1, _, h => .orFail (Sim.printText_rests depth h text) fun _ _ h => printTimes_settles text n h

theorem repeatText_settles (h : s.Rests m) : s.Settles depth s.Untouched (repeatText supply argv) m := by
  unfold repeatText
  split
  · exact .refuse h _
  · exact printTimes_settles depth _ _ h

theorem echo_settles (h : s.Rests m) : s.Settles depth s.Untouched (echo supply argv) m :=
  .report h (fun _ h => h) _

theorem listFrom_settles (dir : Fd) : ∀ (count offset : Nat) (listing : String) {m : Machine Sim}, s.Rests m →
    s.Settles depth s.Untouched (listFrom dir offset listing count) m
  | 0, _, listing, _, h => .orFail (Sim.printText_rests depth h listing) fun _ _ h => .succeeded h fun _ h => h
  | count + 1, offset, listing, _, h => by
    refine .seq (Sim.ask_rests depth rfl h _) fun found m' h => ?_
    cases found with
    | error e => exact .failed h _
    | ok entry =>
      refine .seq (Sim.ask_rests depth rfl h _) fun looked m' h => ?_
      cases looked with
      | error e => exact .failed h _
      | ok stat => exact listFrom_settles dir count (offset + 1) _ h

theorem ls_settles (h : s.Rests m) : s.Settles depth s.Untouched (ls supply argv) m := by
  refine .seq (Sim.ask_rests depth rfl h _) fun opened m' h => ?_
  cases opened with
  | error e => exact .refuse h _
  | ok fd =>
    refine .orFail (Sim.ask_rests depth rfl h _) fun stat m' h => ?_
    split
    · exact listFrom_settles depth fd _ _ _ h
    · exact .refuse h _

theorem cat_settles (h : s.Rests m) : s.Settles depth s.Untouched (cat supply argv) m := by
  unfold cat
  split
  · exact .refuse h _
  · refine .seq (Sim.ask_rests depth rfl h _) fun opened m' h => ?_
    cases opened with
    | error e => exact .refuse h _
    | ok fd =>
      refine .orFail (Sim.ask_rests depth rfl h _) fun stat m' h => ?_
      split
      · exact .refuse h _
      · exact .orFail (Sim.ask_rests depth rfl h _) fun answer m' h =>
          .orFail (Sim.ask_rests depth rfl h _) fun _ m' h => .succeeded h fun _ h => h

end Program

/-! ## Requests at rest -/

namespace Sim

section Requests

variable {s : Sim} {depth : Nat} {m : Machine Sim} {path : String} {id : Nat} {fd : Fd}

theorem Rests.lookup_eq (h : s.Rests m) (path : String) : m.state.lookup path = s.lookup path := by
  obtain ⟨input, written, hstate⟩ := h
  rw [hstate]
  rfl

theorem Rests.holds (h : s.Rests m) {content : Bytes} (hlookup : s.lookup path = some id)
    (hfd : Fd.ofFileId? id = some fd) (hfile : s.store.content? id = some content) :
    m.state.Holds path id fd content := by
  obtain ⟨input, written, hstate⟩ := h
  rw [hstate]
  exact ⟨hlookup, hfd, hfile⟩

theorem run_openFile_missing (h : s.Rests m) (hlookup : s.lookup path = none) :
    (Prog.openFile path).run (kernel depth) m = some (.error Operation.openFile.failed, m) := by
  rw [Prog.openFile, Prog.run_ask, serve_openFile, h.lookup_eq, hlookup]
  rfl

theorem run_openFile_found (h : s.Rests m) (hlookup : s.lookup path = some id) (hfd : Fd.ofFileId? id = some fd) :
    (Prog.openFile path).run (kernel depth) m = some (.ok fd, m) := by
  rw [Prog.openFile, Prog.run_ask, serve_openFile, h.lookup_eq, hlookup, Option.elim_some, Option.map_some,
    descriptorReply, hfd, Fd.understood_ofFileId? hfd]

theorem run_fstat_dir (h : s.Rests m) {children : List Nat} (hdir : s.store.children? id = some children)
    (hfd : Fd.ofFileId? id = some fd) :
    (Prog.fstat fd).run (kernel depth) m = some (.ok ⟨children.length, true⟩, m) := by
  obtain ⟨input, written, hstate⟩ := h
  have hdir' : m.state.store.children? id = some children := by
    rw [hstate]
    exact hdir
  have hserve : (kernel depth).serve (.fstat fd) m = _ := answers_fstat_dir hdir' hfd depth m.heap m.terminal
  rw [Prog.fstat, Prog.run_ask, hserve]
  rfl

theorem create_refused {directory : Bool} (h : s.store.create (Path.absolute s.cwd path) directory = none) :
    s.create path directory = (.refused, s) := by
  rw [create_resolved, h]

theorem create_granted {directory : Bool} {store : Store}
    (h : s.store.create (Path.absolute s.cwd path) directory = some (id, store)) :
    s.create path directory = (descriptorReply id, { s with store := store }) := by
  rw [create_resolved, h]

theorem unlink_refused (hlookup : s.lookup path = some id) (h : s.store.remove id = none) :
    s.unlink path = (.refused, s) := by
  unfold unlink
  simp only [hlookup, h]

theorem unlink_granted {store : Store} (hlookup : s.lookup path = some id) (h : s.store.remove id = some store) :
    s.unlink path = (.granted .nothing, { s with store := store, images := s.images.filter (·.1 != id) }) := by
  unfold unlink
  simp only [hlookup, h]

/-- Asking to create something, and ending with success if that is granted. -/
theorem creat_settles {D : Sim → Prop} {directory : Bool} {next : Except SysError Fd → Prog Outcome}
    (h : s.Rests m) (hslots : s.store.slots.size + Fd.reserved < Fd.limit)
    (hmade : ∀ id s', (∃ store, s.store.create (Path.absolute s.cwd path) directory = some (id, store) ∧
      s'.store = store ∧ s'.images = s.images) → D s')
    (hok : ∀ fd, next (.ok fd) = pure (.ok .success))
    (hrefused : s.Settles depth D (next (.error Operation.creat.failed)) m) :
    s.Settles depth D (Prog.creat path directory >>= next) m := by
  have hserve := serve_creat depth m path directory
  cases hcreate : s.store.create (Path.absolute s.cwd path) directory with
  | none =>
    obtain ⟨input, written, hstate⟩ := h
    rw [wornTo] at hstate
    rw [hstate, create_facing, create_refused hcreate] at hserve
    have hrun : (Prog.creat path directory).run (kernel depth) m = some (.error Operation.creat.failed, m) := by
      rw [Prog.creat, Prog.run_ask, hserve, ← hstate]
      rfl
    exact .seq_run hrun hrefused
  | some created =>
    obtain ⟨id, store⟩ := created
    obtain ⟨input, written, hstate⟩ := h
    rw [wornTo] at hstate
    rw [hstate, create_facing, create_granted hcreate] at hserve
    obtain ⟨_, _, _, _, -, -, -, -, -, -, hid, -⟩ := Store.create_eq (Path.absolute_normal _ _) hcreate
    have hfd : Fd.ofFileId? id = some ⟨Int32.ofNat (id + Fd.reserved)⟩ := if_pos (by rw [hid]; exact hslots)
    have hrun : (Prog.creat path directory).run (kernel depth) m = some (.ok ⟨Int32.ofNat (id + Fd.reserved)⟩,
        { m with state := { s.wornTo input written with store := store } }) := by
      rw [Prog.creat, Prog.run_ask, hserve, Option.map_some, descriptorReply, hfd, Fd.understood_ofFileId? hfd]
      rfl
    refine .seq_run hrun ?_
    rw [hok]
    exact .pure (.succeeded (hmade id _ ⟨store, hcreate, rfl, rfl⟩))

/-- Asking to remove something, and ending with success if that is granted. -/
theorem removeFile_settles {D : Sim → Prop} {next : Except SysError Unit → Prog Outcome} (h : s.Rests m)
    (hlookup : s.lookup path = some id)
    (hremoved : ∀ s', (∃ store, s.store.remove id = some store ∧ s'.store = store ∧
      s'.images = s.images.filter (·.1 != id)) → D s')
    (hok : next (.ok ()) = pure (.ok .success))
    (hrefused : s.Settles depth D (next (.error Operation.removeFile.failed)) m) :
    s.Settles depth D (Prog.removeFile path >>= next) m := by
  have hserve : (kernel depth).serve (.removeFile path) m =
      some ((m.state.unlink path).1, { m with state := (m.state.unlink path).2 }) := rfl
  obtain ⟨input, written, hstate⟩ := h
  rw [wornTo] at hstate
  rw [hstate, unlink_facing] at hserve
  cases hremove : s.store.remove id with
  | none =>
    rw [unlink_refused hlookup hremove] at hserve
    have hrun : (Prog.removeFile path).run (kernel depth) m = some (.error Operation.removeFile.failed, m) := by
      rw [Prog.removeFile, Prog.act, Prog.run_ask, hserve, ← hstate]
      rfl
    exact .seq_run hrun hrefused
  | some store =>
    rw [unlink_granted hlookup hremove] at hserve
    have hrun : (Prog.removeFile path).run (kernel depth) m = some (.ok (), { m with state :=
        { s.wornTo input written with store := store, images := s.images.filter (·.1 != id) } }) := by
      rw [Prog.removeFile, Prog.act, Prog.run_ask, hserve]
      rfl
    refine .seq_run hrun ?_
    rw [hok]
    exact .pure (.succeeded (hremoved _ ⟨store, hremove, rfl, rfl⟩))

end Requests

/-! ## Deeds -/

/-- What a bundled program has done to the files when it ends with success, where its first argument means this path. -/
inductive Deed (s s' : Sim) : (name : String) → (path? : Option String) → Prop
  | looked {name : String} (path? : Option String) : name ∈ ["repeat", "ls", "cat", "echo"] → s.Untouched s' →
    Deed s s' name path?
  | found {path : String} {there : Standing} : s.standing? path = some there → s.Untouched s' →
    Deed s s' "touch" (some path)
  | touched {path : String} {id : Nat} : s.standing? path = none → s.Changed s' path (some (.file id [] none)) →
    Deed s s' "touch" (some path)
  | made {path : String} {id : Nat} : s.standing? path = none → s.Changed s' path (some (.directory id)) →
    s'.store.children? id = some [] → Deed s s' "mkdir" (some path)
  | removed {path : String} {id : Nat} {content : Bytes} {image : Option Program} :
    s.standing? path = some (.file id content image) → s.Changed s' path none → Deed s s' "rm" (some path)
  | removedDir {path : String} {id : Nat} : s.standing? path = some (.directory id) →
    s.store.children? id = some [] → s.Changed s' path none → Deed s s' "rmdir" (some path)
  | edited {path : String} {id : Nat} {old : Bytes} {image : Option Program} (typed : String) :
    s.standing? path = some (.file id old image) →
      s.Changed s' path (some (.file id (Text.bytes typed) image)) → Deed s s' "edit" (some path)

end Sim

/-! ## Programs that change something -/

namespace Program

variable {s : Sim} (depth supply : Nat) {m : Machine Sim} (argv : List String)

/-- The path that the first argument of a program means. -/
def target? (cwd : String) (argv : List String) : Option String :=
  argv[1]?.map (Path.absolute cwd)

theorem touch_settles (hs : s.Intact) (hslots : s.store.slots.size + Fd.reserved < Fd.limit) (h : s.Rests m) :
    s.Settles depth (s.Deed · "touch" (target? s.cwd argv)) (touch supply argv) m := by
  unfold touch target?
  cases argv[1]? with
  | none => exact .refuse h _
  | some path =>
    have hnormal := Path.absolute_normal s.cwd path
    cases hlookup : s.lookup path with
    | some id =>
      have hfd := hs.ofFileId?_of_lookup hslots hlookup
      refine .seq_run (Sim.run_openFile_found h hlookup hfd) (.succeeded h fun s' hsame => ?_)
      exact .found (Sim.standing?_of_lookup hlookup) hsame
    | none =>
      refine .seq_run (Sim.run_openFile_missing h hlookup) ?_
      refine Sim.creat_settles h hslots ?_ (fun _ => rfl) (.refuse h _)
      rintro id s' ⟨store, hcreate, hstore, himages⟩
      obtain ⟨hfree, hchanged, -⟩ := Sim.Changed.of_create hs hnormal hcreate hstore himages
      exact .touched hfree hchanged

theorem mkdir_settles (hs : s.Intact) (hslots : s.store.slots.size + Fd.reserved < Fd.limit) (h : s.Rests m) :
    s.Settles depth (s.Deed · "mkdir" (target? s.cwd argv)) (mkdir supply argv) m := by
  unfold mkdir target?
  cases argv[1]? with
  | none => exact .refuse h _
  | some path =>
    refine Sim.creat_settles h hslots ?_ (fun _ => rfl) (.refuse h _)
    rintro id s' ⟨store, hcreate, hstore, himages⟩
    obtain ⟨hfree, hchanged, hempty⟩ :=
      Sim.Changed.of_create hs (Path.absolute_normal s.cwd path) hcreate hstore himages
    exact .made hfree hchanged (hempty rfl)

/-- Programs that open their argument and ask whether it is a directory. -/
theorem examine_settles {D : Sim → Prop} (hs : s.Intact) (hslots : s.store.slots.size + Fd.reserved < Fd.limit)
    (h : s.Rests m) {path : String} (text : String) {onDir onFile : Fd → Prog Outcome}
    (hdir : ∀ {id fd children}, s.lookup path = some id → Fd.ofFileId? id = some fd →
      s.store.children? id = some children → s.Settles depth D (onDir fd) m)
    (hfile : ∀ {id fd content}, s.lookup path = some id → Fd.ofFileId? id = some fd →
      s.store.content? id = some content → s.Settles depth D (onFile fd) m) :
    s.Settles depth D (do
      match ← Prog.openFile path with
      | .error _ => refuse text
      | .ok fd => (Prog.fstat fd).orFail fun stat => if stat.directory then onDir fd else onFile fd) m := by
  cases hlookup : s.lookup path with
  | none => exact .seq_run (Sim.run_openFile_missing h hlookup) (.refuse h _)
  | some id =>
    have hfd := hs.ofFileId?_of_lookup hslots hlookup
    refine .seq_run (Sim.run_openFile_found h hlookup hfd) ?_
    rcases hs.file_or_dir hlookup with ⟨content, hcontent⟩ | ⟨children, hchildren⟩
    · exact .orFail_run ((h.holds hlookup hfd hcontent).run_fstat depth) (hfile hlookup hfd hcontent)
    · exact .orFail_run (Sim.run_fstat_dir h hchildren hfd) (hdir hlookup hfd hchildren)

theorem rm_settles (hs : s.Intact) (hslots : s.store.slots.size + Fd.reserved < Fd.limit) (h : s.Rests m) :
    s.Settles depth (s.Deed · "rm" (target? s.cwd argv)) (rm supply argv) m := by
  unfold rm target?
  cases argv[1]? with
  | none => exact .refuse h _
  | some path =>
    refine examine_settles depth hs hslots h _ (fun _ _ _ => .refuse h _) fun hlookup _ hfile => ?_
    refine Sim.removeFile_settles h hlookup ?_ rfl (.failed h _)
    rintro s' ⟨store, hremove, hstore, himages⟩
    exact .removed (Sim.standing?_file hlookup hfile)
      (.of_remove hs (Path.absolute_normal _ _) hlookup hremove hstore himages)

theorem rmdir_settles (hs : s.Intact) (hslots : s.store.slots.size + Fd.reserved < Fd.limit) (h : s.Rests m) :
    s.Settles depth (s.Deed · "rmdir" (target? s.cwd argv)) (rmdir supply argv) m := by
  unfold rmdir target?
  cases argv[1]? with
  | none => exact .refuse h _
  | some path =>
    refine examine_settles depth hs hslots h _ (fun hlookup _ hdir => ?_) fun _ _ _ => .refuse h _
    refine Sim.removeFile_settles h hlookup ?_ rfl (.refuse h _)
    rintro s' ⟨store, hremove, hstore, himages⟩
    -- what could be removed lists nothing
    obtain ⟨-, hempty, -⟩ := Sim.Store.remove_eq hremove
    exact .removedDir (Sim.standing?_dir hlookup hdir) (hempty _ hdir ▸ hdir)
      (.of_remove hs (Path.absolute_normal _ _) hlookup hremove hstore himages)

/-- What was typed fits into a file, so that it can be written once the file was cut. -/
theorem edit_settles (hs : s.Intact) (hslots : s.store.slots.size + Fd.reserved < Fd.limit) (h : s.Rests m)
    (hsupply : Sim.supply m < Script.limit) :
    s.Settles depth (s.Deed · "edit" (target? s.cwd argv)) (edit (Sim.supply m) argv) m := by
  unfold edit target?
  cases argv[1]? with
  | none => exact .refuse h _
  | some path =>
    refine examine_settles depth hs hslots h _ (fun _ _ _ => .refuse h _) fun {id fd old} hlookup hfd hfile => ?_
    have hdue : (Reader.ofChunk 1).due m = Sim.supply m := Nat.zero_add _
    have htyped := typedLines_yields depth (Sim.supply m) (by decide) (Sim.supply m + 1) (r := .ofChunk 1) "" h
      ⟨rfl, rfl⟩ (Nat.le_of_eq hdue) (by omega)
    refine .seq htyped fun result m₁ ⟨hrests, hsize⟩ => ?_
    cases result with
    | error e => exact .failed hrests _
    | ok typed =>
      have hlength : (Text.bytes typed).length < Content.lengthLimit := by
        have hle := hsize typed rfl
        have hnothing : Text.size "" = 0 := rfl
        simp only [Script.limit] at hsupply
        simp only [Text.length_bytes, Content.lengthLimit]
        omega
      have hrun := (hrests.holds hlookup hfd hfile).run_replace depth hlength
      obtain ⟨input, written, hstate⟩ := hrests
      rw [hstate] at hrun
      exact .of_run hrun (.succeeded (.edited typed (Sim.standing?_file hlookup hfile)
        (.of_setFile hs (Path.absolute_normal _ _) hlookup hfile _ rfl rfl)))

/-! ## All of them -/

/-- **Every bundled program** comes to an end, and does its deed or leaves the files as they were. -/
theorem bundled_settles (hs : s.Intact) (hslots : s.store.slots.size + Fd.reserved < Fd.limit) (h : s.Rests m)
    (hsupply : Sim.supply m < Script.limit) {name : String} {program : Program}
    (hbundled : (name, program) ∈ bundled) :
    s.Settles depth (s.Deed · name (target? s.cwd argv)) (program (Sim.supply m) argv) m := by
  have hlooks {name : String} (hname : name ∈ ["repeat", "ls", "cat", "echo"]) {p : Prog Outcome}
      (hp : s.Settles depth s.Untouched p m) : s.Settles depth (s.Deed · name (target? s.cwd argv)) p m :=
    hp.mono fun _ => .looked _ hname
  simp only [bundled, List.mem_cons, Prod.mk.injEq, List.not_mem_nil, or_false] at hbundled
  rcases hbundled with ⟨rfl, rfl⟩ | ⟨rfl, rfl⟩ | ⟨rfl, rfl⟩ | ⟨rfl, rfl⟩ | ⟨rfl, rfl⟩ | ⟨rfl, rfl⟩ | ⟨rfl, rfl⟩ |
    ⟨rfl, rfl⟩ | ⟨rfl, rfl⟩
  · exact hlooks (by simp) (repeatText_settles depth _ argv h)
  · exact hlooks (by simp) (ls_settles depth _ argv h)
  · exact hlooks (by simp) (cat_settles depth _ argv h)
  · exact hlooks (by simp) (echo_settles depth _ argv h)
  · exact touch_settles depth _ argv hs hslots h
  · exact mkdir_settles depth _ argv hs hslots h
  · exact rm_settles depth _ argv hs hslots h
  · exact rmdir_settles depth _ argv hs hslots h
  · exact edit_settles depth argv hs hslots h hsupply

/-- As a process, a program that fails prints why, or not, and exits with failure. -/
theorem start_ended {D : Sim → Prop} {program : Program} (h : s.Settles depth D (program supply argv) m) :
    (program.start supply argv).Yields (Sim.kernel depth) m fun code m' => s.Ended D (.ok code) m'.state := by
  refine .seq h fun outcome m' hended => ?_
  cases outcome with
  | ok code => exact .pure hended
  | error failure =>
    refine .seq (Sim.printParts_rests depth _ hended.of_error) fun _ m₁ ⟨input, written, hstate⟩ => ?_
    exact .pure (hstate ▸ .gaveUp input written)

end Program

/-! ## Processes -/

namespace Sim

/-- What has become of a state, after a bundled program ran as a process with these words in this working directory. -/
structure Confined (s : Sim) (name : String) (argv : List String) (cwd : String) (code : ExitCode) (s' : Sim) :
    Prop where
  code_eq : code = .success ∨ code = .failure
  /-- The processes, the working directory and all others but the files and the console are what they were. -/
  rest_eq : ∃ input written, s' = { s.wornTo input written with store := s'.store, images := s'.images }
  of_failed : code ≠ .success → s.Untouched s'
  of_succeeded : code = .success → s.Deed s' name (Program.target? cwd argv)

section Confined

variable {s s' t t' : Sim} {name : String} {process : Process}

/-- A deed is about files alone. -/
theorem Deed.congr {path? : Option String} (h : s.Deed s' name path?) (hbefore : s.Untouched t)
    (hafter : s'.Untouched t') : t.Deed t' name path? := by
  obtain ⟨hstore, himages⟩ := hbefore
  obtain ⟨hstore', himages'⟩ := hafter
  have hsame : s.Untouched s' → t.Untouched t' := fun hsame =>
    ⟨hstore'.trans (hsame.1.trans hstore.symm), himages'.trans (hsame.2.trans himages.symm)⟩
  have hbefore : t.standing? = s.standing? := funext fun path => standing?_congr hstore himages path
  have hafter : t'.standing? = s'.standing? := funext fun path => standing?_congr hstore' himages' path
  have hchanged {path : String} {now : Option Standing} (hchanged : s.Changed s' path now) : t.Changed t' path now := by
    obtain ⟨hhere, helsewhere⟩ := hchanged
    rw [← hbefore, ← hafter] at *
    exact ⟨hhere, helsewhere⟩
  cases h with
  | looked _ hname h => exact .looked _ hname (hsame h)
  | found hthere h => exact .found (hbefore ▸ hthere) (hsame h)
  | touched hfree h => exact .touched (hbefore ▸ hfree) (hchanged h)
  | made hfree h hempty => exact .made (hbefore ▸ hfree) (hchanged h) (hstore' ▸ hempty)
  | removed hthere h => exact .removed (hbefore ▸ hthere) (hchanged h)
  | removedDir hthere hempty h => exact .removedDir (hbefore ▸ hthere) (hstore ▸ hempty) (hchanged h)
  | edited typed hthere h => exact .edited typed (hbefore ▸ hthere) (hchanged h)

/-- Whatever the deed, at all other paths stands what stood there. -/
theorem Deed.elsewhere {path? : Option String} (h : s.Deed s' name path?) {other : String} (hother : Path.Normal other)
    (hne : path? ≠ some other) : s'.standing? other = s.standing? other := by
  have hapart {path : String} (hne : some path ≠ some other) : other ≠ path := fun heq => hne (heq ▸ rfl)
  cases h with
  | looked _ _ h => exact standing?_congr h.1 h.2 other
  | found _ h => exact standing?_congr h.1 h.2 other
  | touched _ h => exact h.elsewhere other hother (hapart hne)
  | made _ h _ => exact h.elsewhere other hother (hapart hne)
  | removed _ h => exact h.elsewhere other hother (hapart hne)
  | removedDir _ _ h => exact h.elsewhere other hother (hapart hne)
  | edited _ _ h => exact h.elsewhere other hother (hapart hne)

/-- Who waited is in the working directory of before. -/
theorem Ended.confined {argv : List String} {cwd : String} {code : ExitCode}
    (h : Ended { s with cwd := cwd } (Deed { s with cwd := cwd } · name (Program.target? cwd argv)) (.ok code) s') :
    s.Confined name argv cwd code { s' with cwd := s.cwd } := by
  cases h with
  | succeeded hdeed =>
    exact ⟨.inl rfl, ⟨_, _, rfl⟩, fun hne => absurd rfl hne, fun _ => hdeed.congr ⟨rfl, rfl⟩ ⟨rfl, rfl⟩⟩
  | gaveUp input written => exact ⟨.inr rfl, ⟨input, written, rfl⟩, fun _ => ⟨rfl, rfl⟩, fun heq => absurd heq (by decide)⟩

/-- **Waiting** for a process that runs a bundled program. -/
theorem reap_confined (depth : Nat) {m : Machine Sim} (hs : m.state.Intact)
    (hslots : m.state.store.slots.size + Fd.reserved < Fd.limit) (hsupply : supply m < Script.limit) {pid : Pid}
    (htake : m.state.take pid = some (process, s)) (hbundled : (name, process.program) ∈ Program.bundled) :
    ∃ code m', (kernel (depth + 1)).serve (.waitpid pid) m = some (.granted (.status code), m') ∧
      s.Confined name process.argv process.cwd code m'.state := by
  let inside : Machine Sim := { m with state := { s with cwd := process.cwd } }
  have hinside : inside.state.Intact := hs.enter htake
  obtain ⟨id, -, rfl⟩ := take_eq htake
  have hsettles := Program.bundled_settles depth process.argv hinside hslots (.self inside) hsupply hbundled
  obtain ⟨code, m₁, hrun, hended⟩ := Program.start_ended depth _ _ hsettles
  refine ⟨code, { m₁ with state := { m₁.state with cwd := m.state.cwd } }, ?_, hended.confined⟩
  have hprocess : runProcess (depth + 1) process inside = some (code, m₁) := hrun
  have hserve : (kernel (depth + 1)).serve (.waitpid pid) m = reap (runProcess (depth + 1)) pid m := rfl
  rw [hserve, reap_some htake, hprocess]
  rfl

/-- **Bundled programs change what they are told to, and nothing when they fail.** Take a kernel in any state that it
comes to, with a descriptor for each of its slots, whatever the heap is, whatever is on the console, as long as memory can
hold it, and whether that takes what is written. Waiting for a process that runs a bundled program is answered with `0` or
`1`. If it is not `0`, the files and the programs bound to them are what they were. If it is `0`, they differ by the one
deed of the program (`Deed`), at the path that its first argument means in the working directory in which it was started.
Other processes, the number of the next one, and the working directory of who waited are what they were. So it is for a
process that is started and then waited for. -/
theorem bundled_confined {m : Machine Sim} (hreachable : m.state.Reachable)
    (hslots : m.state.store.slots.size + Fd.reserved < Fd.limit) (hsupply : supply m < Script.limit) {program : Program}
    (hbundled : (name, program) ∈ Program.bundled) (depth : Nat) :
    (∀ id process, (id, process) ∈ m.state.processes → process.program = program →
      ∃ code m', (kernel (depth + 1)).serve (.waitpid (Pid.ofNat id)) m = some (.granted (.status code), m') ∧
        Confined { m.state with processes := m.state.processes.filter (·.1 != id) } name process.argv process.cwd code
          m'.state) ∧
    ∀ path argv, (m.state.lookup path).bind (fun id => m.state.images.lookup id) = some program →
      m.state.nextPid + 1 < Pid.limit →
      ∃ m₁ code m₂,
        (kernel (depth + 1)).serve (.exec path argv) m = some (⟨Int64.ofNat m.state.nextPid, .nothing⟩, m₁) ∧
        (kernel (depth + 1)).serve (.waitpid (Pid.ofNat m.state.nextPid)) m₁ = some (.granted (.status code), m₂) ∧
        Confined { m.state with nextPid := m.state.nextPid + 1 } name argv m.state.cwd code m₂.state := by
  refine ⟨fun id process hmem hprogram => ?_, fun path argv himage hpid => ?_⟩
  · have htake := hreachable.counted.take_eq_some hmem
    exact reap_confined depth hreachable.intact hslots hsupply htake (hprogram ▸ hbundled)
  · let process : Process := ⟨program, argv, m.state.cwd⟩
    let m₁ : Machine Sim := { m with state := { m.state with
      nextPid := m.state.nextPid + 1, processes := m.state.processes ++ [(m.state.nextPid, process)] } }
    have hexec : (kernel (depth + 1)).serve (.exec path argv) m =
        some (⟨Int64.ofNat m.state.nextPid, .nothing⟩, m₁) := by
      rw [serve_exec]
      unfold spawn
      rw [himage]
      simp only [hpid, ↓reduceIte, Option.map_some]
      rfl
    have hthere : m₁.state.Reachable := hreachable.served hexec
    have htake := take_started hreachable.counted.fresh hpid process
    obtain ⟨code, m₂, hserve, hconfined⟩ :=
      reap_confined depth (m := m₁) hthere.intact hslots hsupply htake hbundled
    exact ⟨m₁, code, m₂, hexec, hserve, hconfined⟩

/-- Two lines are typed for the file `/f`. It holds the first one afterwards, which the empty one ends, and all else is what
it was. -/
theorem edit_confined :
    let s := (((empty (.script [.data (Text.bytes "hi\n\n")])).install "/edit" Program.edit).2.create "/f" false).2
    let m : Machine Sim := ⟨{}, {}, s⟩
    s.Reachable ∧ s.store.slots.size + Fd.reserved < Fd.limit ∧ supply m < Script.limit ∧
      ("edit", Program.edit) ∈ Program.bundled ∧
      (s.lookup "/edit").bind (fun id => s.images.lookup id) = some Program.edit ∧ s.nextPid + 1 < Pid.limit ∧
      ∃ m₁ m₂, (kernel 1).serve (.exec "/edit" ["edit", "f"]) m = some (⟨0, .nothing⟩, m₁) ∧
        (kernel 1).serve (.waitpid (Pid.ofNat 0)) m₁ = some (.granted (.status .success), m₂) ∧
        m₂.state.contents "/f" = some (Text.bytes "hi\n") ∧
        ∀ other, Path.Normal other → other ≠ "/f" → m₂.state.standing? other = s.standing? other := by
  intro s m
  have hreachable : s.Reachable := ((Reachable.empty _).installed "/edit" Program.edit).created _ _
  have hslots : s.store.slots.size + Fd.reserved < Fd.limit := by decide +kernel
  have hsupply : supply m < Script.limit := by decide +kernel
  have hbundled : ("edit", Program.edit) ∈ Program.bundled := List.mem_of_getElem? (i := 8) rfl
  have himage : (s.lookup "/edit").bind (fun id => s.images.lookup id) = some Program.edit := by
    have hlookup : s.lookup "/edit" = some 1 := by decide +kernel
    have himages := install_images (empty (.script [.data (Text.bytes "hi\n\n")])) "/edit" Program.edit rfl rfl
    rw [hlookup, Option.bind_some, create_images, himages]
    rfl
  have hpid : s.nextPid + 1 < Pid.limit := by decide +kernel
  obtain ⟨-, hstarted⟩ := bundled_confined hreachable hslots hsupply hbundled 0
  obtain ⟨m₁, code, m₂, hexec, hserve, hconfined⟩ := hstarted "/edit" ["edit", "f"] himage hpid
  have hran : ((kernel 1).serve (.exec "/edit" ["edit", "f"]) m).bind (fun x =>
      ((kernel 1).serve (.waitpid (Pid.ofNat 0)) x.2).map fun y => (y.1, y.2.state.contents "/f")) =
        some (.granted (.status .success), some (Text.bytes "hi\n")) := by
    decide +kernel
  have hnext : m.state.nextPid = 0 := by decide +kernel
  rw [hnext] at hexec hserve
  rw [hexec, Option.bind_some, hserve, Option.map_some] at hran
  obtain ⟨hreply, hcontents⟩ := Prod.mk.inj (Option.some.inj hran)
  obtain rfl : code = .success := Fill.status.inj (congrArg Reply.fill hreply)
  have htarget : Program.target? m.state.cwd ["edit", "f"] = some "/f" := by decide +kernel
  have hdeed := hconfined.of_succeeded rfl
  rw [htarget] at hdeed
  refine ⟨hreachable, hslots, hsupply, hbundled, himage, hpid, m₁, m₂, hexec, hserve, hcontents,
    fun other hother hne => ?_⟩
  exact hdeed.elsewhere hother fun heq => hne (Option.some.inj heq).symm

end Confined

end Sim

end LineShell
