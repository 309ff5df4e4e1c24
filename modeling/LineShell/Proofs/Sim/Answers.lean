import LineShell.Proofs.Sim.Creation

/-!
# What the kernel in memory changes

A request that has nothing to do with the console or with waiting (`Request.isInner`) is answered from the state alone,
whatever the console holds. `Sim.Change` lists all that it may do to the state, with the reply that goes with it, and
`Sim.Moves` is what most readers need of that.

- `Sim.answer_inner` is the answer to such a request, `Sim.answer_cases` says what becomes of a machine whose request
  is answered;
- `Sim.Kept.kernel`: a relation that each kind of change keeps holds between the beginning and the end of each run, at
  every depth of waiting.
-/

namespace LineShell

/-- Whether a request has nothing to do with the console or with waiting. -/
def Request.isInner : Request → Bool
  | .read fd .. => fd ≠ .stdin
  | .write fd .. => !(fd = .stdout || fd = .stderr)
  | .waitpid _ => false
  | _ => true

namespace Sim

/-! ## Inner requests -/

/-- The same state with another console: what it holds to be read, and how many writes it takes. -/
def facing (s : Sim) (input : Input) (room : Option Nat) : Sim :=
  { s with input := input, room := room }

/-- What an inner request may do to the state, and what it is then answered. -/
inductive Change (s : Sim) : Reply → Sim → Prop
  /-- It looks something up, or is refused. -/
  | same (reply : Reply) : Change s reply s
  | data {id : Nat} {content : Bytes} (new : Bytes) : s.store.content? id = some content →
    Change s (.granted .nothing) { s with store := s.store.setData id (.file new) }
  | created {path : String} {directory : Bool} {id : Nat} {store : Store} :
    s.store.create (Path.absolute s.cwd path) directory = some (id, store) →
      Change s (descriptorReply id) { s with store := store }
  | removed {id : Nat} {store : Store} : s.store.remove id = some store →
    Change s (.granted .nothing) { s with store := store, images := s.images.filter (·.1 != id) }
  | started {image : Nat × Program} (argv : List String) : image ∈ s.images → s.nextPid + 1 < Pid.limit →
    Change s ⟨Int64.ofNat s.nextPid, .nothing⟩ { s with
      nextPid := s.nextPid + 1, processes := s.processes ++ [(s.nextPid, ⟨image.2, argv, s.cwd⟩)] }
  | entered {path : String} {id : Nat} {children : List Nat} : s.lookup path = some id →
    s.store.children? id = some children →
      Change s (.granted .nothing) { s with cwd := Path.absolute s.cwd path }

/-- What stays in each change: the console stays, an image may go with its file, and a process may be started from an
image. -/
structure Moves (s s' : Sim) : Prop where
  input_eq : s'.input = s.input
  room_eq : s'.room = s.room
  images_sub : ∀ image ∈ s'.images, image ∈ s.images
  processes_eq : (s'.processes = s.processes ∧ s'.nextPid = s.nextPid) ∨
    ∃ image ∈ s.images, ∃ argv, s'.processes = s.processes ++ [(s.nextPid, ⟨image.2, argv, s.cwd⟩)] ∧
      s'.nextPid = s.nextPid + 1

theorem Change.moves {s s' : Sim} {reply : Reply} (h : s.Change reply s') : s.Moves s' := by
  cases h with
  | started argv himage => exact ⟨rfl, rfl, fun _ h => h, .inr ⟨_, himage, argv, rfl, rfl⟩⟩
  | removed => exact ⟨rfl, rfl, fun _ h => (List.mem_filter.1 h).1, .inl ⟨rfl, rfl⟩⟩
  | _ => exact ⟨rfl, rfl, fun _ h => h, .inl ⟨rfl, rfl⟩⟩

/-- Writing a file gives it other bytes. -/
theorem Store.writeAt_eq {s s' : Store} {id offset : Nat} {data : Bytes} (h : s.writeAt id offset data = some s') :
    ∃ content, s.content? id = some content ∧
      s' = s.setData id (.file (Content.writeAt content offset data)) := by
  unfold writeAt at h
  split at h
  · cases h
  · next content hcontent =>
    split at h
    · cases h
      exact ⟨content, hcontent, rfl⟩
    · cases h

/-- Cutting or filling up a file gives it other bytes. -/
theorem Store.resize_eq {s s' : Store} {id length : Nat} (h : s.resize id length = some s') :
    ∃ content, s.content? id = some content ∧ s' = s.setData id (.file (Content.resize content length)) := by
  unfold resize at h
  split at h
  · cases h
  · next content hcontent =>
    cases h
    exact ⟨content, hcontent, rfl⟩

section

variable (s : Sim) (input : Input) (room : Option Nat)

theorem lookup_facing (path : String) : (s.facing input room).lookup path = s.lookup path := rfl

theorem write_change (id? : Option Nat) (offset : Nat) (data : Bytes) :
    s.Change (s.storing (id?.bind fun id => s.store.writeAt id offset data)).1
      (s.storing (id?.bind fun id => s.store.writeAt id offset data)).2 := by
  cases hstore : id?.bind fun id => s.store.writeAt id offset data with
  | none => exact .same _
  | some store =>
    obtain ⟨id, -, hwrite⟩ := Option.bind_eq_some_iff.1 hstore
    obtain ⟨content, hcontent, rfl⟩ := Store.writeAt_eq hwrite
    exact .data _ hcontent

theorem resize_change (id? : Option Nat) (length : Nat) :
    s.Change (s.storing (id?.bind fun id => s.store.resize id length)).1
      (s.storing (id?.bind fun id => s.store.resize id length)).2 := by
  cases hstore : id?.bind fun id => s.store.resize id length with
  | none => exact .same _
  | some store =>
    obtain ⟨id, -, hresize⟩ := Option.bind_eq_some_iff.1 hstore
    obtain ⟨content, hcontent, rfl⟩ := Store.resize_eq hresize
    exact .data _ hcontent

theorem storing_facing (store : Option Store) :
    (s.facing input room).storing store = ((s.storing store).1, (s.storing store).2.facing input room) := by
  cases store <;> rfl

theorem create_change (path : String) (directory : Bool) :
    s.Change (s.create path directory).1 (s.create path directory).2 := by
  rw [create_resolved]
  cases hcreate : s.store.create (Path.absolute s.cwd path) directory with
  | none => exact .same _
  | some created => exact .created hcreate

theorem create_moves (path : String) (directory : Bool) : s.Moves (s.create path directory).2 :=
  (s.create_change path directory).moves

theorem create_facing (path : String) (directory : Bool) :
    (s.facing input room).create path directory =
      ((s.create path directory).1, (s.create path directory).2.facing input room) := by
  rw [create_resolved, create_resolved]
  simp only [facing]
  cases s.store.create (Path.absolute s.cwd path) directory <;> rfl

theorem unlink_change (path : String) : s.Change (s.unlink path).1 (s.unlink path).2 := by
  unfold unlink
  cases s.lookup path with
  | none => exact .same _
  | some id =>
    cases hremove : s.store.remove id with
    | none =>
      simp only [hremove]
      exact .same _
    | some store =>
      simp only [hremove]
      exact .removed hremove

theorem unlink_facing (path : String) :
    (s.facing input room).unlink path = ((s.unlink path).1, (s.unlink path).2.facing input room) := by
  unfold unlink
  rw [lookup_facing]
  cases s.lookup path with
  | none => rfl
  | some id =>
    simp only [facing]
    cases s.store.remove id <;> rfl

theorem changeDir_change (path : String) : s.Change (s.changeDir path).1 (s.changeDir path).2 := by
  unfold changeDir
  cases hlookup : (s.lookup path).bind s.store.children? with
  | none => exact .same _
  | some children =>
    obtain ⟨id, hid, hchildren⟩ := Option.bind_eq_some_iff.1 hlookup
    exact .entered hid hchildren

theorem changeDir_facing (path : String) :
    (s.facing input room).changeDir path = ((s.changeDir path).1, (s.changeDir path).2.facing input room) := by
  unfold changeDir
  rw [lookup_facing]
  simp only [facing]
  cases (s.lookup path).bind s.store.children? <;> rfl

theorem spawn_change {s' : Sim} {reply : Reply} {path : String} {argv : List String}
    (h : s.spawn path argv = some (reply, s')) : s.Change reply s' := by
  unfold spawn at h
  cases hlookup : (s.lookup path).bind fun id => s.images.lookup id with
  | none =>
    rw [hlookup] at h
    cases h
    exact .same _
  | some program =>
    rw [hlookup] at h
    obtain ⟨id, -, himage⟩ := Option.bind_eq_some_iff.1 hlookup
    have hmem : (id, program) ∈ s.images := by
      obtain ⟨before, after, happ, -⟩ := List.lookup_eq_some_iff.1 himage
      simp [happ]
    dsimp only at h
    split at h
    · next hpid =>
      cases h
      exact .started argv hmem hpid
    · cases h

/-- A start touches the processes. -/
theorem spawn_eq {s' : Sim} {reply : Reply} {path : String} {argv : List String}
    (h : s.spawn path argv = some (reply, s')) :
    ∃ nextPid processes, s' = { s with nextPid := nextPid, processes := processes } := by
  unfold spawn at h
  split at h
  · cases h
    exact ⟨s.nextPid, s.processes, rfl⟩
  · split at h
    · cases h
      exact ⟨_, _, rfl⟩
    · cases h

theorem spawn_facing (path : String) (argv : List String) :
    (s.facing input room).spawn path argv = (s.spawn path argv).map fun x => (x.1, x.2.facing input room) := by
  unfold spawn
  rw [lookup_facing]
  simp only [facing]
  cases (s.lookup path).bind fun id => s.images.lookup id with
  | none => rfl
  | some program =>
    by_cases hpid : s.nextPid + 1 < Pid.limit
    · simp only [hpid, ↓reduceIte, Option.map_some]
    · simp only [hpid, ↓reduceIte, Option.map_none]

/-- **An inner request** is answered from the state alone; what the heap, the console and the started processes are does
not matter. -/
theorem answer_inner {r : Request} (h : r.isInner) :
    ∃ a : Option (Reply × Sim), (∀ x, a = some x → s.Change x.1 x.2) ∧
      ∀ runProcess heap terminal input room, answer runProcess r ⟨heap, terminal, s.facing input room⟩ =
        a.map fun x => (x.1, ⟨heap, terminal, x.2.facing input room⟩) := by
  have found (reply : Reply) : ∀ x, some (reply, s) = some x → s.Change x.1 x.2 := by
    rintro _ ⟨⟩
    exact .same reply
  have changed {result : Reply × Sim} (hresult : s.Change result.1 result.2) :
      ∀ x, some result = some x → s.Change x.1 x.2 := by
    rintro _ ⟨⟩
    exact hresult
  cases r with
  | read fd count offset =>
    have hfd : fd ≠ .stdin := by simpa [Request.isInner] using h
    refine ⟨_, found (s.readFile fd count.toNat offset.toNat), fun _ _ _ _ _ => ?_⟩
    simp only [answer, hfd, ↓reduceIte]
    rfl
  | write fd data offset =>
    have hfd : (fd = .stdout || fd = .stderr) = false := by simpa [Request.isInner] using h
    refine ⟨_, changed (write_change s (s.handle? fd) offset.toNat data), fun _ _ _ input room => ?_⟩
    simp only [answer, hfd, Bool.false_eq_true, ↓reduceIte, storing_facing]
    rfl
  | openFile path =>
    refine ⟨_, found ((s.lookup path).elim .refused descriptorReply), fun _ _ _ input room => ?_⟩
    simp only [answer, lookup_facing, Option.map_some]
  | fstat fd => exact ⟨_, found (showing .stat ((s.handle? fd).bind s.store.stat?)), fun _ _ _ _ _ => rfl⟩
  | waitpid pid => cases h
  | exec path argv =>
    refine ⟨s.spawn path argv, fun x hx => spawn_change s hx, fun _ _ _ input room => ?_⟩
    simp only [answer, spawn_facing]
    cases s.spawn path argv <;> rfl
  | exit status => exact ⟨none, by simp, fun _ _ _ _ _ => rfl⟩
  | truncate path length =>
    refine ⟨_, changed (resize_change s (s.lookup path) length.toNat), fun _ _ _ input room => ?_⟩
    simp only [answer, storing_facing]
    rfl
  | ftruncate fd length =>
    refine ⟨_, changed (resize_change s (s.handle? fd) length.toNat), fun _ _ _ input room => ?_⟩
    simp only [answer, storing_facing]
    rfl
  | currentDir => exact ⟨_, found (.granted (.text s.cwd)), fun _ _ _ _ _ => rfl⟩
  | chdir path =>
    refine ⟨_, changed (changeDir_change s path), fun _ _ _ input room => ?_⟩
    simp only [answer, changeDir_facing]
    rfl
  | creat path directory =>
    refine ⟨_, changed (create_change s path directory), fun _ _ _ input room => ?_⟩
    simp only [answer, create_facing]
    rfl
  | removeFile path =>
    refine ⟨_, changed (unlink_change s path), fun _ _ _ input room => ?_⟩
    simp only [answer, unlink_facing]
    rfl
  | readDir fd offset =>
    exact ⟨_, found (showing .entry ((s.handle? fd).bind fun id => s.store.entry? id offset.toNat)),
      fun _ _ _ _ _ => rfl⟩

end

/-! ## All requests -/

/-- Reading the console changes what is left on it. -/
theorem readConsole_eq (m : Machine Sim) (count : Nat) :
    ∃ terminal input, (readConsole m count).2 =
      { m with terminal := terminal, state := m.state.facing input m.state.room } := by
  unfold readConsole
  split
  · split <;> exact ⟨m.terminal, _, rfl⟩
  · exact ⟨_, m.state.input, rfl⟩

/-- Writing on the console changes what stands on it, and how many writes it still takes: where it takes no more, nothing
is changed. -/
theorem writeConsole_eq (m : Machine Sim) (data : Bytes) :
    ∃ terminal, (writeConsole m data).2 =
      { m with terminal := terminal, state := m.state.facing m.state.input (m.state.room.map (· - 1)) } := by
  unfold writeConsole
  split
  · next hroom =>
    refine ⟨m.terminal, ?_⟩
    rw [hroom, facing, Option.map_some, ← hroom]
  · exact ⟨_, rfl⟩

/-- Of the writes that the console takes, some were used up; a console that takes every write goes on to do so, and one that
takes none too. -/
def Worn (s s' : Sim) : Prop :=
  ∃ used, s'.room = s.room.map (· - used)

namespace Worn

variable {s s' s'' : Sim}

theorem of_eq (h : s'.room = s.room) : s.Worn s' :=
  ⟨0, by simp [h]⟩

theorem trans (h : s.Worn s') (h' : s'.Worn s'') : s.Worn s'' := by
  obtain ⟨used, h⟩ := h
  obtain ⟨used', h'⟩ := h'
  refine ⟨used + used', ?_⟩
  rw [h', h, Option.map_map]
  congr 1
  funext n
  simp only [Function.comp_apply]
  omega

theorem none (h : s.Worn s') (hroom : s.room = none) : s'.room = none := by
  obtain ⟨used, h⟩ := h
  rw [h, hroom]
  rfl

theorem zero (h : s.Worn s') (hroom : s.room = some 0) : s'.room = some 0 := by
  obtain ⟨used, h⟩ := h
  rw [h, hroom, Option.map_some, Nat.zero_sub]

end Worn

theorem writeConsole_worn (m : Machine Sim) (data : Bytes) : m.state.Worn (writeConsole m data).2.state := by
  obtain ⟨terminal, heq⟩ := writeConsole_eq m data
  rw [heq]
  exact ⟨1, rfl⟩

/-- A process that was found leaves the table. -/
theorem take_eq {s s' : Sim} {pid : Pid} {process : Process} (h : s.take pid = some (process, s')) :
    ∃ id, (id, process) ∈ s.processes ∧ s' = { s with processes := s.processes.filter (·.1 != id) } := by
  unfold take at h
  split at h
  · cases h
  · next id found hfind =>
    cases h
    exact ⟨id, List.mem_of_find?_eq_some hfind, rfl⟩

theorem take_facing (s : Sim) (input : Input) (room : Option Nat) (pid : Pid) :
    (s.facing input room).take pid = (s.take pid).map fun x => (x.1, x.2.facing input room) := by
  simp only [take, facing]
  cases s.processes.find? fun entry => (entry.1 : Int) == pid.raw.toInt <;> rfl

section

variable {runProcess : Process → Machine Sim → Option (ExitCode × Machine Sim)} {pid : Pid} {m m' : Machine Sim}

/-- There is no such process to wait for. -/
theorem reap_none (h : m.state.take pid = none) : reap runProcess pid m = some (.refused, m) := by
  rw [reap, h]

/-- Waiting for a process is running it. -/
theorem reap_some {process : Process} {s : Sim} (h : m.state.take pid = some (process, s)) :
    reap runProcess pid m = (runProcess process { m with state := { s with cwd := process.cwd } }).map fun x =>
      (.granted (.status x.1), { x.2 with state := { x.2.state with cwd := m.state.cwd } }) := by
  rw [reap, h]
  dsimp only
  cases runProcess process { m with state := { s with cwd := process.cwd } } <;> rfl

end

/-- What becomes of a machine whose request is answered: it reads or writes the console, or it waits for a process and
gets its working directory back, or its state changes with the reply. -/
theorem answer_cases {runProcess : Process → Machine Sim → Option (ExitCode × Machine Sim)} {r : Request}
    {m m' : Machine Sim} {reply : Reply} (h : answer runProcess r m = some (reply, m')) :
    (∃ count, m' = (readConsole m count).2) ∨ (∃ data, m' = (writeConsole m data).2) ∨
    (∃ pid process s code m₁, m.state.take pid = some (process, s) ∧
      runProcess process { m with state := { s with cwd := process.cwd } } = some (code, m₁) ∧
      m' = { m₁ with state := { m₁.state with cwd := m.state.cwd } }) ∨
    ∃ s, m.state.Change reply s ∧ m' = { m with state := s } := by
  by_cases hinner : r.isInner
  · obtain ⟨a, hchange, ha⟩ := answer_inner m.state hinner
    have hself := ha runProcess m.heap m.terminal m.state.input m.state.room
    obtain ⟨x, hx, heq⟩ := Option.map_eq_some_iff.1 (hself.symm.trans h)
    cases heq
    have hconsole : x.2.facing m.state.input m.state.room = x.2 := by
      rw [← (hchange x hx).moves.input_eq, ← (hchange x hx).moves.room_eq]
      rfl
    exact .inr (.inr (.inr ⟨x.2, hchange x hx, by rw [hconsole]⟩))
  · unfold answer at h
    cases r with
    | read fd count offset =>
      have hfd : fd = .stdin := by simpa [Request.isInner] using hinner
      simp only [hfd, ↓reduceIte] at h
      exact .inl ⟨count.toNat, by rw [Option.some.inj h]⟩
    | write fd data offset =>
      have hfd : (fd = .stdout || fd = .stderr) = true := by
        simpa [Request.isInner, Decidable.or_iff_not_imp_left] using hinner
      simp only [hfd, ↓reduceIte] at h
      exact .inr (.inl ⟨data, by rw [Option.some.inj h]⟩)
    | waitpid pid =>
      dsimp only at h
      cases htake : m.state.take pid with
      | none =>
        cases (reap_none htake).symm.trans h
        exact .inr (.inr (.inr ⟨m.state, .same _, rfl⟩))
      | some found =>
        obtain ⟨⟨code, m₁⟩, hrun, heq⟩ := Option.map_eq_some_iff.1 ((reap_some htake).symm.trans h)
        cases heq
        exact .inr (.inr (.inl ⟨pid, found.1, found.2, code, m₁, htake, hrun, rfl⟩))
    | _ => exact absurd rfl hinner

/-! ## Requests on the console and on files -/

section

variable (depth : Nat) (m : Machine Sim) {fd : Fd}

theorem serve_readConsole (count offset : UInt64) :
    (kernel depth).serve (.read .stdin count offset) m = some (readConsole m count.toNat) := rfl

theorem serve_readFile (h : fd ≠ .stdin) (count offset : UInt64) :
    (kernel depth).serve (.read fd count offset) m = some (m.state.readFile fd count.toNat offset.toNat, m) :=
  if_neg h

theorem serve_writeConsole (h : (fd = .stdout || fd = .stderr) = true) (data : Bytes) (offset : UInt64) :
    (kernel depth).serve (.write fd data offset) m = some (writeConsole m data) :=
  if_pos h

theorem serve_writeFile (h : ¬ (fd = .stdout || fd = .stderr) = true) (data : Bytes) (offset : UInt64) :
    (kernel depth).serve (.write fd data offset) m =
      some ((m.state.storing ((m.state.handle? fd).bind fun id => m.state.store.writeAt id offset.toNat data)).1,
        { m with state :=
          (m.state.storing ((m.state.handle? fd).bind fun id => m.state.store.writeAt id offset.toNat data)).2 }) :=
  if_neg h

theorem serve_openFile (path : String) :
    (kernel depth).serve (.openFile path) m = some ((m.state.lookup path).elim .refused descriptorReply, m) := rfl

theorem serve_fstat (fd : Fd) :
    (kernel depth).serve (.fstat fd) m = some (showing .stat ((m.state.handle? fd).bind m.state.store.stat?), m) := rfl

theorem serve_readDir (fd : Fd) (offset : UInt64) :
    (kernel depth).serve (.readDir fd offset) m =
      some (showing .entry ((m.state.handle? fd).bind fun id => m.state.store.entry? id offset.toNat), m) := rfl

theorem serve_truncate (path : String) (length : UInt64) :
    (kernel depth).serve (.truncate path length) m =
      some ((m.state.storing ((m.state.lookup path).bind fun id => m.state.store.resize id length.toNat)).1,
        { m with state :=
          (m.state.storing ((m.state.lookup path).bind fun id => m.state.store.resize id length.toNat)).2 }) := rfl

theorem serve_ftruncate (fd : Fd) (length : UInt64) :
    (kernel depth).serve (.ftruncate fd length) m =
      some ((m.state.storing ((m.state.handle? fd).bind fun id => m.state.store.resize id length.toNat)).1,
        { m with state :=
          (m.state.storing ((m.state.handle? fd).bind fun id => m.state.store.resize id length.toNat)).2 }) := rfl

theorem serve_exec (path : String) (argv : List String) :
    (kernel depth).serve (.exec path argv) m =
      (m.state.spawn path argv).map fun x => (x.1, { m with state := x.2 }) := by
  simp only [kernel, answer, Option.map_eq_bind, Function.comp_def]

theorem serve_creat (path : String) (directory : Bool) :
    (kernel depth).serve (.creat path directory) m =
      some ((m.state.create path directory).1, { m with state := (m.state.create path directory).2 }) := rfl

end

/-! ## What a run keeps -/

/-- A relation between machines that each kind of change keeps: on the heap, on the console, in the state, and by waiting
for a process that keeps it. -/
structure Kept (R : Machine Sim → Machine Sim → Prop) : Prop where
  refl : ∀ m, R m m
  trans : ∀ {a b c}, R a b → R b c → R a c
  heap : ∀ (m : Machine Sim) (r : HeapRequest), R m { m with heap := (m.heap.serve r).2 }
  read : ∀ m count, R m (readConsole m count).2
  write : ∀ m data, R m (writeConsole m data).2
  change : ∀ (m : Machine Sim) {reply : Reply} {s : Sim}, m.state.Change reply s → R m { m with state := s }
  wait : ∀ (m m₁ : Machine Sim) {pid : Pid} {process : Process} {s : Sim}, m.state.take pid = some (process, s) →
    R { m with state := { s with cwd := process.cwd } } m₁ →
      R m { m₁ with state := { m₁.state with cwd := m.state.cwd } }

namespace Kept

variable {R : Machine Sim → Machine Sim → Prop}

/-- What holds of waiting at one depth holds of a kernel that waits like that. -/
theorem keeps (hR : Kept R) {runProcess : Process → Machine Sim → Option (ExitCode × Machine Sim)}
    (hrun : ∀ {process m code m'}, runProcess process m = some (code, m') → R m m') :
    Kernel.Keeps ⟨answer runProcess, supply⟩ R where
  refl := hR.refl
  trans := hR.trans
  heap := hR.heap
  serve := by
    intro r m reply m' h
    rcases answer_cases h with ⟨count, rfl⟩ | ⟨data, rfl⟩ | ⟨pid, process, s, code, m₁, htake, hprocess, rfl⟩ |
      ⟨s, hchange, rfl⟩
    · exact hR.read m count
    · exact hR.write m data
    · exact hR.wait m m₁ htake (hrun hprocess)
    · exact hR.change m hchange

/-- **At every depth** of waiting, a process keeps what each change keeps. -/
theorem runProcess (hR : Kept R) : ∀ (depth : Nat) {process : Process} {m : Machine Sim} {code : ExitCode}
    {m' : Machine Sim}, Sim.runProcess depth process m = some (code, m') → R m m'
  | 0, _, _, _, _, h => by cases h
  | depth + 1, _, _, _, _, h => (hR.keeps (hR.runProcess depth)).run _ h

theorem kernel (hR : Kept R) (depth : Nat) : (Sim.kernel depth).Keeps R :=
  hR.keeps (hR.runProcess depth)

end Kept

/-! ## Starting up -/

theorem installAll_cons (s : Sim) (entry : String × Program) (table : List (String × Program)) :
    s.installAll (entry :: table) = (s.install ("/" ++ entry.1) entry.2).2.installAll table := by
  rw [installAll, List.foldl_cons, installAll]

/-- What each installation keeps, the installation of a table keeps. -/
theorem installAll_keeps {P : Sim → Prop} (table : List (String × Program)) {s : Sim}
    (hinstall : ∀ entry ∈ table, ∀ s : Sim, P s → P (s.install ("/" ++ entry.1) entry.2).2) (h : P s) :
    P (s.installAll table) := by
  induction table generalizing s with
  | nil => exact h
  | cons entry table ih =>
    obtain ⟨hentry, htable⟩ := List.forall_mem_cons.1 hinstall
    rw [installAll_cons]
    exact ih htable (hentry s h)

/-- Installing a program touches the files and the images. -/
theorem install_eq (s : Sim) (path : String) (program : Program) :
    ∃ store images, (s.install path program).2 = { s with store := store, images := images } := by
  rw [install_resolved]
  cases s.store.create (Path.absolute s.cwd path) false with
  | none => exact ⟨s.store, s.images, rfl⟩
  | some created =>
    dsimp only
    cases Fd.ofFileId? created.1 <;> exact ⟨_, _, rfl⟩

/-- A program that is installed is bound to the file that was created for it. -/
theorem install_images (s : Sim) (path : String) (program : Program) {id : Nat} {store : Store}
    (hcreate : s.store.create (Path.absolute s.cwd path) false = some (id, store))
    (hfd : (Fd.ofFileId? id).isSome) :
    (s.install path program).2.images = (id, program) :: s.images.filter (·.1 != id) := by
  obtain ⟨fd, hfd⟩ := Option.isSome_iff_exists.1 hfd
  rw [install_resolved, hcreate]
  simp only [hfd]
  rfl

/-- Creating a file binds no program. -/
theorem create_images (s : Sim) (path : String) (directory : Bool) :
    (s.create path directory).2.images = s.images := by
  rw [create_resolved]
  cases s.store.create (Path.absolute s.cwd path) directory <;> rfl

/-- A booted kernel differs from an empty one in its files and images. -/
theorem booted_eq (input : Input) :
    ∃ store images, booted input = { empty input with store := store, images := images } := by
  refine installAll_keeps (P := fun s => ∃ store images, s = { empty input with store := store, images := images })
    Program.bundled (fun entry _ s hs => ?_) ?_
  · obtain ⟨store, images, hs⟩ := hs
    obtain ⟨store', images', heq⟩ := s.install_eq ("/" ++ entry.1) entry.2
    exact ⟨store', images', by rw [heq, hs]⟩
  · rw [create_resolved]
    split
    · exact ⟨_, _, rfl⟩
    · exact ⟨_, _, rfl⟩

/-- A booted kernel has the console that it was given, and it takes every write. -/
theorem booted_console (input : Input) : (booted input).input = input ∧ (booted input).room = none := by
  obtain ⟨store, images, heq⟩ := booted_eq input
  rw [heq]
  exact ⟨rfl, rfl⟩

end Sim

end LineShell
