import LineShell.Proofs.Sim.Programs

/-!
# What happens while processes are waited for

A process runs when it is waited for, and its program makes requests of its own: it may start and wait for processes in
turn, so that requests are answered while others wait. A `Sim.Moment` is the kernel between two requests, with the waits
that go on then, and a `Sim.Course` leads from one moment to a later one, event by event. Programs are free to ask for
anything there and to end whenever they like.

- `Sim.serve_asked`: the answers to requests for which no process runs, by what answers them;
- `Sim.serve_effect`: what a request does to the processes and to the working directory;
- `Sim.Course.of_run`, `Sim.Course.of_serve`: the runs of programs and the answers of the kernel are courses, at every
  depth of waiting;
- `Sim.Course.deeper`: where all programs end, a request without an answer is one for which waits come to nest too deep, or
  one that breaks off where identifiers run out (`Sim.breakOff`, `Sim.Spent`).
-/

namespace LineShell

variable {α : Type}

/-- Whether a request neither starts a process nor changes the working directory. -/
def Request.isPlain : Request → Bool
  | .exec .. | .chdir .. => false
  | _ => true

/-- Whether all that a request can change without a process that runs for it is what is left on the console. -/
def Request.isLook : Request → Bool
  | .read .. | .write .. | .openFile _ | .fstat _ | .waitpid _ | .currentDir | .readDir .. => true
  | _ => false

theorem Request.isPlain_of_isLook {r : Request} (h : r.isLook = true) : r.isPlain = true := by
  cases r <;> first | rfl | cases h

namespace Sim

/-! ## One request -/

/-- A request for which no process runs, by what answers it. -/
inductive Asked (s : Sim) : Request → Reply → Sim → Prop
  | looked {r : Request} (reply : Reply) (input : Input) (room : Option Nat) : r.isLook = true →
    Asked s r reply (s.facing input room)
  | written (fd : Fd) (data : Bytes) (offset : UInt64) :
    Asked s (.write fd data offset)
      (s.storing ((s.handle? fd).bind fun id => s.store.writeAt id offset.toNat data)).1
      (s.storing ((s.handle? fd).bind fun id => s.store.writeAt id offset.toNat data)).2
  | truncated (path : String) (length : UInt64) :
    Asked s (.truncate path length)
      (s.storing ((s.lookup path).bind fun id => s.store.resize id length.toNat)).1
      (s.storing ((s.lookup path).bind fun id => s.store.resize id length.toNat)).2
  | ftruncated (fd : Fd) (length : UInt64) :
    Asked s (.ftruncate fd length)
      (s.storing ((s.handle? fd).bind fun id => s.store.resize id length.toNat)).1
      (s.storing ((s.handle? fd).bind fun id => s.store.resize id length.toNat)).2
  | started {path : String} {argv : List String} {reply : Reply} {s' : Sim} :
    s.spawn path argv = some (reply, s') → Asked s (.exec path argv) reply s'
  | moved (path : String) : Asked s (.chdir path) (s.changeDir path).1 (s.changeDir path).2
  | created (path : String) (directory : Bool) :
    Asked s (.creat path directory) (s.create path directory).1 (s.create path directory).2
  | removed (path : String) : Asked s (.removeFile path) (s.unlink path).1 (s.unlink path).2

/-- **One request** for which no process runs. -/
theorem serve_asked {r : Request} {m m' : Machine Sim} {reply : Reply}
    (h : (kernel 0).serve r m = some (reply, m')) : m.state.Asked r reply m'.state := by
  have changed {result : Reply × Sim} (hasked : m.state.Asked r result.1 result.2)
      (h : some (result.1, ({ m with state := result.2 } : Machine Sim)) = some (reply, m')) :
      m.state.Asked r reply m'.state := by
    cases h
    exact hasked
  have looked {answer : Reply} (hlook : r.isLook = true) (h : some (answer, m) = some (reply, m')) :
      m.state.Asked r reply m'.state := by
    cases h
    exact .looked reply m.state.input m.state.room hlook
  cases r with
  | read fd count offset =>
    by_cases hfd : fd = .stdin
    · rw [hfd, serve_readConsole] at h
      obtain ⟨terminal, input, heq⟩ := readConsole_eq m count.toNat
      rw [Option.some.inj h] at heq
      cases heq
      exact .looked reply input m.state.room rfl
    · rw [serve_readFile 0 m hfd] at h
      exact looked rfl h
  | write fd data offset =>
    by_cases hfd : (fd = .stdout || fd = .stderr) = true
    · rw [serve_writeConsole 0 m hfd] at h
      obtain ⟨terminal, heq⟩ := writeConsole_eq m data
      rw [Option.some.inj h] at heq
      cases heq
      exact .looked reply m.state.input (m.state.room.map (· - 1)) rfl
    · rw [serve_writeFile 0 m hfd] at h
      exact changed (.written fd data offset) h
  | waitpid pid =>
    have hreap : reap (runProcess 0) pid m = some (reply, m') := h
    cases htake : m.state.take pid with
    | none => exact looked rfl ((reap_none htake).symm.trans hreap)
    | some found =>
      rw [reap_some htake] at hreap
      cases hreap
  | exec path argv =>
    rw [serve_exec] at h
    obtain ⟨result, hspawn, heq⟩ := Option.map_eq_some_iff.1 h
    exact changed (.started hspawn) (congrArg some heq)
  | chdir path => exact changed (.moved path) h
  | exit status => cases h
  | truncate path length => exact changed (.truncated path length) h
  | ftruncate fd length => exact changed (.ftruncated fd length) h
  | creat path directory => exact changed (.created path directory) h
  | removeFile path => exact changed (.removed path) h
  | openFile path => exact looked rfl h
  | fstat fd => exact looked rfl h
  | currentDir => exact looked rfl h
  | readDir fd offset => exact looked rfl h

/-! ## Processes and the working directory -/

/-- What a request may do to the processes and to the working directory if no process runs for it. -/
inductive Effect (s : Sim) : Request → Reply → Sim → Prop
  /-- A process is started in the working directory, under the next identifier. -/
  | started {path : String} {argv : List String} {program : Program} :
    (s.lookup path).bind (fun id => s.images.lookup id) = some program → s.nextPid + 1 < Pid.limit →
      Effect s (.exec path argv) ⟨Int64.ofNat s.nextPid, .nothing⟩ { s with
        nextPid := s.nextPid + 1, processes := s.processes ++ [(s.nextPid, ⟨program, argv, s.cwd⟩)] }
  /-- A directory becomes the working directory. -/
  | moved {path : String} {id : Nat} {children : List Nat} : s.lookup path = some id →
    s.store.children? id = some children →
      Effect s (.chdir path) (.granted .nothing) { s with cwd := Path.absolute s.cwd path }
  /-- Every other request leaves both alone, and so does a refusal. -/
  | apart {r : Request} {reply : Reply} {s' : Sim} : s'.processes = s.processes → s'.nextPid = s.nextPid →
    s'.cwd = s.cwd → (r.isPlain = true ∨ reply.failed = true) → Effect s r reply s'

section Effect

variable (s : Sim) {r : Request} (reply : Reply)

theorem same_effect (h : r.isPlain = true ∨ reply.failed = true) : s.Effect r reply s :=
  .apart rfl rfl rfl h

theorem spawn_effect {reply : Reply} {s' : Sim} {path : String} {argv : List String}
    (h : s.spawn path argv = some (reply, s')) : s.Effect (.exec path argv) reply s' := by
  unfold spawn at h
  cases hprogram : (s.lookup path).bind fun id => s.images.lookup id with
  | none =>
    rw [hprogram] at h
    cases h
    exact s.same_effect _ (.inr rfl)
  | some program =>
    rw [hprogram] at h
    dsimp only at h
    split at h
    · next hpid =>
      cases h
      exact .started hprogram hpid
    · cases h

/-- An answer to a start comes with a state. -/
theorem spawn_of_fst {s : Sim} {reply : Reply} {path : String} {argv : List String}
    (h : (s.spawn path argv).map Prod.fst = some reply) :
    s.spawn path argv = some (reply, ((s.spawn path argv).map Prod.snd).getD s) := by
  obtain ⟨x, hspawn, rfl⟩ := Option.map_eq_some_iff.1 h
  rw [hspawn]
  rfl

/-- Only where identifiers run out there is no answer to a start. -/
theorem spawn_none {path : String} {argv : List String} (h : s.spawn path argv = none) :
    Pid.limit ≤ s.nextPid + 1 := by
  unfold spawn at h
  split at h
  · cases h
  · split at h
    · cases h
    · next hpid => exact Nat.le_of_not_lt hpid

theorem changeDir_effect (path : String) : s.Effect (.chdir path) (s.changeDir path).1 (s.changeDir path).2 := by
  unfold changeDir
  cases hfound : (s.lookup path).bind s.store.children? with
  | none => exact s.same_effect _ (.inr rfl)
  | some children =>
    obtain ⟨id, hlookup, hchildren⟩ := Option.bind_eq_some_iff.1 hfound
    exact .moved hlookup hchildren

variable (h : r.isPlain = true)
include h

theorem storing_effect (store : Option Store) : s.Effect r reply (s.storing store).2 := by
  cases store <;> exact .apart rfl rfl rfl (.inl h)

theorem create_effect (path : String) (directory : Bool) : s.Effect r reply (s.create path directory).2 := by
  rw [create_resolved]
  cases s.store.create (Path.absolute s.cwd path) directory <;> exact .apart rfl rfl rfl (.inl h)

theorem unlink_effect (path : String) : s.Effect r reply (s.unlink path).2 := by
  unfold unlink
  cases s.lookup path with
  | none => exact .apart rfl rfl rfl (.inl h)
  | some id =>
    dsimp only
    cases s.store.remove id <;> exact .apart rfl rfl rfl (.inl h)

end Effect

/-- What one request does to the processes and to the working directory. -/
theorem serve_effect {r : Request} {m m' : Machine Sim} {reply : Reply}
    (h : (kernel 0).serve r m = some (reply, m')) : m.state.Effect r reply m'.state := by
  have hasked := serve_asked h
  generalize m.state = s, m'.state = s' at hasked ⊢
  cases hasked with
  | looked _ input room hlook => exact .apart rfl rfl rfl (.inl (Request.isPlain_of_isLook hlook))
  | written => exact s.storing_effect _ rfl _
  | truncated => exact s.storing_effect _ rfl _
  | ftruncated => exact s.storing_effect _ rfl _
  | started hspawn => exact s.spawn_effect hspawn
  | moved path => exact s.changeDir_effect path
  | created path directory => exact s.create_effect _ rfl path directory
  | removed path => exact s.unlink_effect _ rfl path

/-! ## Where processes run -/

section Serve

variable {depth : Nat} {r : Request} {m m' : Machine Sim} {reply : Reply}

/-- A request is answered as it is where no process can run, or a process runs for it. -/
theorem serve_cases (h : (kernel depth).serve r m = some (reply, m')) :
    (kernel 0).serve r m = some (reply, m') ∨
    ∃ pid process s code m₁, r = .waitpid pid ∧ m.state.take pid = some (process, s) ∧
      runProcess depth process { m with state := { s with cwd := process.cwd } } = some (code, m₁) ∧
      reply = .granted (.status code) ∧ m' = { m₁ with state := { m₁.state with cwd := m.state.cwd } } := by
  cases r with
  | waitpid pid =>
    have hreap : reap (runProcess depth) pid m = some (reply, m') := h
    cases htake : m.state.take pid with
    | none =>
      have hzero : reap (runProcess 0) pid m = some (reply, m') :=
        (reap_none htake).trans ((reap_none htake).symm.trans hreap)
      exact .inl hzero
    | some found =>
      obtain ⟨⟨code, m₁⟩, hrun, heq⟩ := Option.map_eq_some_iff.1 ((reap_some htake).symm.trans hreap)
      cases heq
      exact .inr ⟨pid, found.1, found.2, code, m₁, rfl, htake, hrun, rfl, rfl⟩
  | _ => exact .inl h

/-- A request without an answer is one to end the process, or meets the end of the identifiers, or waits for a process
that does not end. -/
theorem serve_none (hr : ∀ code, r ≠ .exit code) (h : (kernel depth).serve r m = none) :
    (∃ path argv, r = .exec path argv ∧ Pid.limit ≤ m.state.nextPid + 1) ∨
    ∃ pid process s, r = .waitpid pid ∧ m.state.take pid = some (process, s) ∧
      runProcess depth process { m with state := { s with cwd := process.cwd } } = none := by
  cases r with
  | read fd count offset =>
    by_cases hfd : fd = .stdin
    · rw [hfd, serve_readConsole] at h
      cases h
    · rw [serve_readFile depth m hfd] at h
      cases h
  | write fd data offset =>
    by_cases hfd : (fd = .stdout || fd = .stderr) = true
    · rw [serve_writeConsole depth m hfd] at h
      cases h
    · rw [serve_writeFile depth m hfd] at h
      cases h
  | waitpid pid =>
    have hreap : reap (runProcess depth) pid m = none := h
    cases htake : m.state.take pid with
    | none => cases (reap_none htake).symm.trans hreap
    | some found =>
      exact .inr ⟨pid, found.1, found.2, rfl, htake, Option.map_eq_none_iff.1 ((reap_some htake).symm.trans hreap)⟩
  | exec path argv =>
    rw [serve_exec] at h
    exact .inl ⟨path, argv, rfl, m.state.spawn_none (Option.map_eq_none_iff.1 h)⟩
  | exit code => exact absurd rfl (hr code)
  | _ => cases h

end Serve

/-! ## Courses -/

/-- A wait that goes on: for which process, and the working directory of the one who waits. -/
structure Wait where
  pid : Pid
  cwd : String
deriving DecidableEq, Repr

/-- A kernel between two requests, with the waits that go on, the innermost first. -/
structure Moment where
  state : Sim
  waits : List Wait := []

/-- What happens between one moment and the next. -/
inductive Event
  /-- A request was answered, and no process ran for it. -/
  | asked (r : Request) (reply : Reply)
  /-- A process that is waited for begins to run. -/
  | entered (pid : Pid)
  /-- It ended with this code. -/
  | left (pid : Pid) (code : ExitCode)
  /-- A program was installed, or the console changed. -/
  | outside
deriving DecidableEq, Repr

/-- From one moment to the next. -/
inductive Step : Moment → Event → Moment → Prop
  | asked {r : Request} {m m' : Machine Sim} {reply : Reply} {waits : List Wait} :
    (kernel 0).serve r m = some (reply, m') → Step ⟨m.state, waits⟩ (.asked r reply) ⟨m'.state, waits⟩
  /-- The process goes from the table, and its program begins in the working directory of the process. -/
  | entered {s s' : Sim} {pid : Pid} {process : Process} {waits : List Wait} : s.take pid = some (process, s') →
      Step ⟨s, waits⟩ (.entered pid) ⟨{ s' with cwd := process.cwd }, ⟨pid, s.cwd⟩ :: waits⟩
  /-- The innermost wait is over, and the one who waited goes on in its own working directory. -/
  | left {s : Sim} {wait : Wait} {waits : List Wait} (code : ExitCode) :
      Step ⟨s, wait :: waits⟩ (.left wait.pid code) ⟨{ s with cwd := wait.cwd }, waits⟩
  | installed {s : Sim} {waits : List Wait} (path : String) (program : Program) :
      Step ⟨s, waits⟩ .outside ⟨(s.install path program).2, waits⟩
  | facing {s : Sim} {waits : List Wait} (input : Input) (room : Option Nat) :
      Step ⟨s, waits⟩ .outside ⟨{ s with input := input, room := room }, waits⟩

namespace Step

variable {s : Sim} {waits : List Wait} {reply : Reply}

theorem of_changed {r : Request} {result : Reply × Sim}
    (hserve : (kernel 0).serve r ⟨{}, {}, s⟩ = some (result.1, ⟨{}, {}, result.2⟩)) (hreply : result.1 = reply) :
    Step ⟨s, waits⟩ (.asked r reply) ⟨result.2, waits⟩ := by
  subst hreply
  exact .asked (m := ⟨{}, {}, s⟩) hserve

theorem of_spawn {s' : Sim} {path : String} {argv : List String} (h : s.spawn path argv = some (reply, s')) :
    Step ⟨s, waits⟩ (.asked (.exec path argv) reply) ⟨s', waits⟩ := by
  have hserve : (kernel 0).serve (.exec path argv) ⟨{}, {}, s⟩ = some (reply, ⟨{}, {}, s'⟩) := by
    rw [serve_exec, h, Option.map_some]
  exact .asked hserve

theorem of_create {path : String} {directory : Bool} (h : (s.create path directory).1 = reply) :
    Step ⟨s, waits⟩ (.asked (.creat path directory) reply) ⟨(s.create path directory).2, waits⟩ :=
  of_changed rfl h

theorem of_unlink {path : String} (h : (s.unlink path).1 = reply) :
    Step ⟨s, waits⟩ (.asked (.removeFile path) reply) ⟨(s.unlink path).2, waits⟩ :=
  of_changed rfl h

theorem of_changeDir {path : String} (h : (s.changeDir path).1 = reply) :
    Step ⟨s, waits⟩ (.asked (.chdir path) reply) ⟨(s.changeDir path).2, waits⟩ :=
  of_changed rfl h

end Step

/-- From one moment to a later one, with all that happens in between. -/
inductive Course : Moment → List Event → Moment → Prop
  | nil (now : Moment) : Course now [] now
  | cons {start next now : Moment} {event : Event} {log : List Event} : Step start event next → Course next log now →
      Course start (event :: log) now

namespace Course

variable {start now later : Moment} {log log' : List Event}

theorem single {event : Event} (h : Step start event now) : Course start [event] now :=
  .cons h (.nil now)

theorem trans (h : Course start log now) (h' : Course now log' later) : Course start (log ++ log') later := by
  induction h with
  | nil => exact h'
  | cons hstep _ ih => exact .cons hstep (ih h')

/-- **A property of moments and their history** that each step passes on holds at the end of every course. -/
theorem induct {P : List Event → Moment → Prop}
    (hstep : ∀ {log a event b}, P log a → Step a event b → P (log ++ [event]) b) (h : Course start log now)
    {before : List Event} (hstart : P before start) : P (before ++ log) now := by
  induction h generalizing before with
  | nil => simpa using hstart
  | @cons _ _ _ event log hfirst _ ih =>
    have hnext := ih (hstep hstart hfirst)
    rwa [List.append_assoc] at hnext

/-- From one machine to another, beneath any waits. -/
def Connects (m m' : Machine Sim) : Prop :=
  ∀ waits, ∃ log, Course ⟨m.state, waits⟩ log ⟨m'.state, waits⟩

theorem Connects.keeps {depth : Nat}
    (hserve : ∀ {r m reply m'}, (kernel depth).serve r m = some (reply, m') → Connects m m') :
    (kernel depth).Keeps Connects where
  refl m waits := ⟨[], .nil _⟩
  trans hab hbc waits := by
    obtain ⟨log, hlog⟩ := hab waits
    obtain ⟨log', hlog'⟩ := hbc waits
    exact ⟨log ++ log', hlog.trans hlog'⟩
  heap m r waits := ⟨[], .nil _⟩
  serve := hserve

/-- The events of one request: it is answered at once, or a process runs from the beginning of the wait to its end. -/
def Answering (r : Request) (reply : Reply) (log : List Event) : Prop :=
  log = [.asked r reply] ∨ ∃ pid code inner, r = .waitpid pid ∧ reply = .granted (.status code) ∧
    log = .entered pid :: inner ++ [.left pid code]

section Answers

variable {depth : Nat} {r : Request} {m m' : Machine Sim} {reply : Reply}

/-- A request is answered in a course if the processes that run for it run in one. -/
theorem of_serve_of
    (hrun : ∀ {process m code m'}, runProcess depth process m = some (code, m') → Connects m m')
    (h : (kernel depth).serve r m = some (reply, m')) (waits : List Wait) :
    ∃ log, Course ⟨m.state, waits⟩ log ⟨m'.state, waits⟩ ∧ Answering r reply log := by
  rcases serve_cases h with hserve | ⟨pid, process, s, code, m₁, rfl, htake, hprocess, rfl, rfl⟩
  · exact ⟨_, single (.asked hserve), .inl rfl⟩
  · obtain ⟨inner, hinner⟩ := hrun hprocess (⟨pid, m.state.cwd⟩ :: waits)
    refine ⟨_, ?_, .inr ⟨pid, code, inner, rfl, rfl, rfl⟩⟩
    exact .cons (.entered htake) (hinner.trans (single (.left code)))

theorem of_runProcess : ∀ (depth : Nat) {process : Process} {m m' : Machine Sim} {code : ExitCode},
    runProcess depth process m = some (code, m') → Connects m m'
  | 0, _, _, _, _, h => by cases h
  | depth + 1, _, _, _, _, h => by
    refine (Connects.keeps fun hserve waits => ?_).run (K := kernel depth) _ h
    obtain ⟨log, hlog, -⟩ := of_serve_of (of_runProcess depth) hserve waits
    exact ⟨log, hlog⟩

/-- **The answer to a request** is the end of a course, at every depth of waiting. -/
theorem of_serve (h : (kernel depth).serve r m = some (reply, m')) (waits : List Wait) :
    ∃ log, Course ⟨m.state, waits⟩ log ⟨m'.state, waits⟩ ∧ Answering r reply log :=
  of_serve_of (of_runProcess depth) h waits

/-- **The run of a program** is a course. -/
theorem of_run {p : Prog α} {value : α} (h : p.run (kernel depth) m = some (value, m')) : Connects m m' := by
  refine (Connects.keeps fun hserve waits => ?_).run p h
  obtain ⟨log, hlog, -⟩ := of_serve hserve waits
  exact ⟨log, hlog⟩

end Answers

end Course

end Sim

/-! ## Programs that end -/

namespace Prog

/-- The program ends, whatever is answered, and leaves it to others to end processes. -/
def Finite : Prog α → Prop
  | done _ => True
  | stuck => False
  | request r next => (∀ code, r ≠ .exit code) ∧ ∀ reply, (next reply).Finite
  | memory _ next => ∀ granted, (next granted).Finite

namespace Finite

theorem seq {β : Type} {p : Prog α} {f : α → Prog β} (hp : p.Finite) (hf : ∀ value, (f value).Finite) :
    (p >>= f).Finite := by
  induction p with
  | done value => exact hf value
  | stuck => cases hp
  | request r next ih => exact ⟨hp.1, fun reply => ih reply (hp.2 reply)⟩
  | memory r next ih => exact fun granted => ih granted (hp granted)

theorem printText (text : String) : (printText text).Finite := by
  unfold Prog.printText print
  split
  · trivial
  · exact ⟨nofun, fun _ => trivial⟩

theorem printParts : ∀ parts, (printParts parts).Finite
  | [] => trivial
  | part :: rest => by
    refine (printText part).seq fun result => ?_
    cases result with
    | error e => trivial
    | ok _ => exact printParts rest

end Finite

end Prog

/-- Every run of the program ends, whatever is answered. -/
def Program.Finite (program : Program) : Prop :=
  ∀ supply argv, (program supply argv).Finite

theorem Program.Finite.start {program : Program} (h : program.Finite) (supply : Nat) (argv : List String) :
    (program.start supply argv).Finite := by
  refine (h supply argv).seq fun outcome => ?_
  cases outcome with
  | ok code => trivial
  | error failure => exact (Prog.Finite.printParts _).seq fun _ => trivial

/-! ## Requests without an answer -/

/-- Where the run of a program stops: at its end, or where the first request without an answer breaks off. -/
def Prog.stop (K : Kernel Sim) (breakOff : Request → Machine Sim → Machine Sim) : Prog α → Machine Sim → Machine Sim
  | done _, m => m
  | stuck, m => m
  | request r next, m =>
    match K.serve r m with
    | some (reply, m) => (next reply).stop K breakOff m
    | none => breakOff r m
  | memory r next, m =>
    match m.heap.serve r with
    | (granted, heap) => (next granted).stop K breakOff { m with heap := heap }

namespace Sim

/-- Where a request without an answer breaks off: in the process that it waits for, if there is one. -/
def breakOffIn (stopProcess : Process → Machine Sim → Machine Sim) (r : Request) (m : Machine Sim) : Machine Sim :=
  match r with
  | .waitpid pid =>
    match m.state.take pid with
    | some (process, s) => stopProcess process { m with state := { s with cwd := process.cwd } }
    | none => m
  | _ => m

/-- Where a process stops that runs with waiting nested at most `depth` deep. -/
def stopProcess : (depth : Nat) → Process → Machine Sim → Machine Sim
  | 0, _, m => m
  | depth + 1, process, m =>
    (process.program.start (supply m) process.argv).stop (kernel depth) (breakOffIn (stopProcess depth)) m

/-- Where a request breaks off that the kernel does not answer: the machine between two requests of the process that runs
then. -/
def breakOff (depth : Nat) : Request → Machine Sim → Machine Sim :=
  breakOffIn (stopProcess depth)

/-- There is no identifier left for another process. -/
def Spent (s : Sim) : Prop :=
  Pid.limit ≤ s.nextPid + 1

namespace Course

/-- From a machine, beneath any waits, the waits come to be nested this much deeper. -/
def Deepens (s : Sim) (levels : Nat) : Prop :=
  ∀ waits, ∃ log later, Course ⟨s, waits⟩ log later ∧ later.waits.length = waits.length + levels

section Deeper

variable {depth : Nat} {m : Machine Sim}

/-- A request without an answer, where only waiting too deep keeps a process from its end. -/
theorem deeper_of
    (hrun : ∀ {process : Process} {m}, process.program.Finite → m.state.Every Program.Finite →
      runProcess depth process m = none → Deepens m.state depth ∨ (stopProcess depth process m).state.Spent)
    {r : Request} (hr : ∀ code, r ≠ .exit code) (hevery : m.state.Every Program.Finite)
    (h : (kernel depth).serve r m = none) : Deepens m.state (depth + 1) ∨ (breakOff depth r m).state.Spent := by
  rcases serve_none hr h with ⟨path, argv, rfl, hspent⟩ | ⟨pid, process, s, rfl, htake, hprocess⟩
  · exact .inr hspent
  obtain ⟨hprogram, hs⟩ := hevery.take htake
  refine (hrun hprogram (m := { m with state := { s with cwd := process.cwd } }) ⟨hs.images, hs.processes⟩ hprocess).imp
    (fun hdeep waits => ?_) fun hspent => ?_
  · obtain ⟨log, later, hlog, hlater⟩ := hdeep (⟨pid, m.state.cwd⟩ :: waits)
    refine ⟨_, later, .cons (.entered htake) hlog, ?_⟩
    rw [hlater, List.length_cons]
    omega
  · rw [breakOff, breakOffIn]
    simp only [htake]
    exact hspent

/-- A program that does not end, where only requests without an answer keep it from its end. -/
theorem deeper_of_run
    (hserve : ∀ {r : Request} {m}, (∀ code, r ≠ .exit code) → m.state.Every Program.Finite →
      (kernel depth).serve r m = none → Deepens m.state (depth + 1) ∨ (breakOff depth r m).state.Spent)
    {p : Prog α} (hp : p.Finite) (hevery : m.state.Every Program.Finite) (h : p.run (kernel depth) m = none) :
    Deepens m.state (depth + 1) ∨ (p.stop (kernel depth) (breakOff depth) m).state.Spent := by
  induction p generalizing m with
  | done value => cases h
  | stuck => cases hp
  | request r next ih =>
    rw [Prog.run_request] at h
    rw [Prog.stop]
    cases hanswer : (kernel depth).serve r m with
    | none => exact hserve hp.1 hevery hanswer
    | some answer =>
      rw [hanswer] at h
      refine (ih answer.1 (hp.2 answer.1) ((Every.kept.kernel depth).serve hanswer hevery) h).imp_left fun hdeep waits => ?_
      obtain ⟨log, hlog, -⟩ := of_serve hanswer waits
      obtain ⟨log', later, hlog', hlater⟩ := hdeep waits
      exact ⟨log ++ log', later, hlog.trans hlog', hlater⟩
  | memory r next ih => exact ih (m.heap.serve r).1 (m := { m with heap := (m.heap.serve r).2 }) (hp _) hevery h

theorem deeper_of_runProcess : ∀ (depth : Nat) {process : Process} {m : Machine Sim}, process.program.Finite →
    m.state.Every Program.Finite → runProcess depth process m = none →
      Deepens m.state depth ∨ (stopProcess depth process m).state.Spent
  | 0, _, _, _, _, _ => .inl fun _ => ⟨[], _, .nil _, rfl⟩
  | depth + 1, _, _, hprogram, hevery, h =>
    deeper_of_run (deeper_of (deeper_of_runProcess depth)) (hprogram.start _ _) hevery h

/-- **A request without an answer** is one for which waits come to nest deeper than they may, or one that breaks off where
identifiers run out. -/
theorem deeper {r : Request} (hr : ∀ code, r ≠ .exit code) (hevery : m.state.Every Program.Finite)
    (h : (kernel depth).serve r m = none) : Deepens m.state (depth + 1) ∨ (breakOff depth r m).state.Spent :=
  deeper_of (deeper_of_runProcess depth) hr hevery h

end Deeper

end Course

end Sim

end LineShell
