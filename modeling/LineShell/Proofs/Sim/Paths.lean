import LineShell.Proofs.Path
import LineShell.Proofs.Sim.Answers

/-!
# What a path means

Requests about a path (`PathRequest`) reach the files through its normal form alone: what is done there is
`PathRequest.act`, which reads no working directory.

- `Sim.serve_path`: another spelling of the path is another spelling of the request;
- `Sim.serve_chdir`: a directory is entered where it is, from wherever.

After a directory is entered the paths seen from it are those written behind it (`Path.absolute_slash`), so requests
about them come to the same.
-/

namespace LineShell

/-- A request about a path, apart from the path. -/
inductive PathRequest
  | openFile
  | creat (directory : Bool)
  | removeFile
  | truncate (length : UInt64)
  | chdir
deriving DecidableEq

namespace PathRequest

/-- The request about a path. -/
def on (path : String) : PathRequest → Request
  | openFile => .openFile path
  | creat directory => .creat path directory
  | removeFile => .removeFile path
  | truncate length => .truncate path length
  | chdir => .chdir path

/-- The answer to the request about a path in normal form, and the state then. -/
def act (path : String) (s : Sim) : PathRequest → Reply × Sim
  | openFile => ((s.store.lookup path).elim .refused Sim.descriptorReply, s)
  | creat directory =>
    match s.store.create path directory with
    | some (id, store) => (Sim.descriptorReply id, { s with store := store })
    | none => (.refused, s)
  | removeFile =>
    match s.store.lookup path with
    | none => (.refused, s)
    | some id =>
      match s.store.remove id with
      | none => (.refused, s)
      | some store => (.granted .nothing, { s with store := store, images := s.images.filter (·.1 != id) })
  | truncate length => s.storing ((s.store.lookup path).bind fun id => s.store.resize id length.toNat)
  | chdir =>
    match (s.store.lookup path).bind s.store.children? with
    | some _ => (.granted .nothing, { s with cwd := path })
    | none => (.refused, s)

end PathRequest

namespace Sim

/-- The same state, seen from another working directory. -/
def seenFrom (s : Sim) (cwd : String) : Sim :=
  { s with cwd := cwd }

@[simp] theorem seenFrom_cwd (s : Sim) (cwd : String) : (s.seenFrom cwd).cwd = cwd := rfl

end Sim

namespace PathRequest

/-- Only entering a directory has to do with the working directory. -/
theorem act_seenFrom (path cwd : String) (s : Sim) : ∀ kind : PathRequest, kind ≠ .chdir →
    kind.act path (s.seenFrom cwd) = ((kind.act path s).1, (kind.act path s).2.seenFrom cwd)
  | openFile, _ => rfl
  | creat directory, _ => by
    simp only [act, Sim.seenFrom]
    cases s.store.create path directory <;> rfl
  | removeFile, _ => by
    simp only [act, Sim.seenFrom]
    cases s.store.lookup path with
    | none => rfl
    | some id =>
      dsimp only
      cases s.store.remove id <;> rfl
  | truncate length, _ => by
    simp only [act, Sim.seenFrom]
    cases (s.store.lookup path).bind fun id => s.store.resize id length.toNat <;> rfl
  | chdir, h => absurd rfl h

/-- Entering a directory is granted or refused whatever the working directory. -/
theorem act_chdir (path : String) (s : Sim) :
    (∀ cwd, chdir.act path (s.seenFrom cwd) = (.granted .nothing, s.seenFrom path)) ∨
      ∀ cwd, chdir.act path (s.seenFrom cwd) = (.refused, s.seenFrom cwd) := by
  simp only [act, Sim.seenFrom]
  cases (s.store.lookup path).bind s.store.children? with
  | some children => exact .inl fun _ => rfl
  | none => exact .inr fun _ => rfl

end PathRequest

namespace Sim

/-- A request about a path is one about the normal form of the path. -/
theorem serve_path (depth : Nat) (m : Machine Sim) (path : String) (kind : PathRequest) :
    (kernel depth).serve (kind.on path) m =
      some ((kind.act (Path.absolute m.state.cwd path) m.state).1,
        { m with state := (kind.act (Path.absolute m.state.cwd path) m.state).2 }) := by
  cases kind with
  | openFile =>
    show some ((m.state.lookup path).elim _ _, m) = _
    unfold lookup
    generalize Path.absolute m.state.cwd path = place
    rfl
  | creat directory =>
    rw [PathRequest.on, serve_creat, create_resolved]
    generalize Path.absolute m.state.cwd path = place
    rfl
  | removeFile =>
    show some ((m.state.unlink path).1, { m with state := (m.state.unlink path).2 }) = _
    unfold unlink lookup
    generalize Path.absolute m.state.cwd path = place
    rfl
  | truncate length =>
    rw [PathRequest.on, serve_truncate]
    unfold lookup
    generalize Path.absolute m.state.cwd path = place
    rfl
  | chdir =>
    show some ((m.state.changeDir path).1, { m with state := (m.state.changeDir path).2 }) = _
    unfold changeDir lookup
    generalize Path.absolute m.state.cwd path = place
    rfl

/-- Entering a directory is granted, and its normal form is where everything is seen from then, or refused. Which of the
two depends on the normal form alone. -/
theorem serve_chdir (s : Sim) (place : String) :
    (∀ depth cwd path (m : Machine Sim), m.state = s.seenFrom cwd → Path.absolute cwd path = place →
      (kernel depth).serve (.chdir path) m = some (.granted .nothing, { m with state := s.seenFrom place })) ∨
    ∀ depth cwd path (m : Machine Sim), m.state = s.seenFrom cwd → Path.absolute cwd path = place →
      (kernel depth).serve (.chdir path) m = some (.refused, m) := by
  rcases PathRequest.act_chdir place s with hact | hact
  · refine .inl fun depth cwd path m hstate hplace => ?_
    rw [← PathRequest.on, serve_path, hstate, seenFrom_cwd, hplace, hact]
  · refine .inr fun depth cwd path m hstate hplace => ?_
    rw [← PathRequest.on, serve_path, hstate, seenFrom_cwd, hplace, hact, ← hstate]

/-- **Paths mean the same** however they are written and wherever they are seen from. Two paths that mean the same place
are answered alike and leave the machine alike, so a path can be replaced by its normal form. After a directory is
entered, a path that does not start at the root is answered as the one written behind the directory was before, and all
but the working directory is left alike; a further directory is entered from there where it was before, and with the same
machine in the end. -/
theorem paths_mean_the_same (depth : Nat) (m : Machine Sim) :
    (∀ (kind : PathRequest) (path path' : String),
      Path.absolute m.state.cwd path = Path.absolute m.state.cwd path' →
        (kernel depth).serve (kind.on path) m = (kernel depth).serve (kind.on path') m) ∧
    (∀ (kind : PathRequest) (path : String),
      (kernel depth).serve (kind.on (Path.absolute m.state.cwd path)) m = (kernel depth).serve (kind.on path) m) ∧
    ∀ (dir path : String) (reply : Reply) (inside : Machine Sim), dir ≠ "" → Path.isRooted path = false →
      (kernel depth).serve (.chdir dir) m = some (reply, inside) → reply.failed = false →
        (∀ kind : PathRequest, kind ≠ .chdir → ∃ answer after,
          (kernel depth).serve (kind.on (dir ++ ("/" ++ path))) m = some (answer, after) ∧
          (kernel depth).serve (kind.on path) inside =
            some (answer, { after with state := after.state.seenFrom inside.state.cwd })) ∧
        ((∃ after, (kernel depth).serve (.chdir (dir ++ ("/" ++ path))) m = some (.granted .nothing, after) ∧
            (kernel depth).serve (.chdir path) inside = some (.granted .nothing, after)) ∨
          ((kernel depth).serve (.chdir (dir ++ ("/" ++ path))) m = some (.refused, m) ∧
            (kernel depth).serve (.chdir path) inside = some (.refused, inside))) := by
  have hspelled (kind : PathRequest) (path path' : String)
      (hsame : Path.absolute m.state.cwd path = Path.absolute m.state.cwd path') :
      (kernel depth).serve (kind.on path) m = (kernel depth).serve (kind.on path') m := by
    rw [serve_path, serve_path, hsame]
  refine ⟨hspelled, fun kind path => hspelled kind _ path (Path.absolute_absolute ..), ?_⟩
  intro dir path reply inside hdir hpath henter hgranted
  have hinside : inside = { m with state := m.state.seenFrom (Path.absolute m.state.cwd dir) } := by
    rcases serve_chdir m.state (Path.absolute m.state.cwd dir) with hserve | hserve
    · rw [hserve depth m.state.cwd dir m rfl rfl] at henter
      cases henter
      rfl
    · rw [hserve depth m.state.cwd dir m rfl rfl] at henter
      cases henter
      cases hgranted
  subst hinside
  have hplace := Path.absolute_slash hdir hpath m.state.cwd
  constructor
  · intro kind hkind
    refine ⟨_, _, serve_path depth m _ kind, ?_⟩
    rw [serve_path, seenFrom_cwd, hplace, PathRequest.act_seenFrom _ _ m.state kind hkind]
  · rcases serve_chdir m.state (Path.absolute m.state.cwd (dir ++ ("/" ++ path))) with hserve | hserve
    · exact .inl ⟨_, hserve depth m.state.cwd _ m rfl rfl, hserve depth _ path _ rfl hplace⟩
    · exact .inr ⟨hserve depth m.state.cwd _ m rfl rfl, hserve depth _ path _ rfl hplace⟩

/-- From within a directory beside which there is nothing, a new file there is the one seen through the directory; and
going up ends in the root. -/
theorem creat_beside_a_directory :
    let m : Machine Sim := { state := ((empty (.script [])).create "/a" true).2 }
    (kernel 0).serve (.creat "/a//../b" false) m = (kernel 0).serve (.creat "./b" false) m ∧
      ∃ inside, ((kernel 0).serve (.chdir "a/.") m).map (·.2) = some inside ∧ inside.state.cwd = "/a" ∧
        ∃ answer after, (kernel 0).serve (.creat "a/./../b" false) m = some (answer, after) ∧
          (kernel 0).serve (.creat "../b" false) inside =
            some (answer, { after with state := after.state.seenFrom "/a" }) := by
  intro m
  obtain ⟨hspelled, -, hinside⟩ := paths_mean_the_same 0 m
  have hsame : Path.absolute m.state.cwd "/a//../b" = Path.absolute m.state.cwd "./b" := by decide +kernel
  have hanswer : ((kernel 0).serve (.chdir "a/.") m).map (fun x => (x.1.failed, x.2.state.cwd)) =
      some (false, "/a") := by
    decide +kernel
  obtain ⟨⟨reply, inside⟩, hserve, hreply⟩ := Option.map_eq_some_iff.1 hanswer
  obtain ⟨hgranted, hcwd⟩ := Prod.mk.inj hreply
  obtain ⟨hwritten, -⟩ := hinside "a/." "../b" reply inside (by decide) (by decide +kernel) hserve hgranted
  obtain ⟨answer, after, hbefore, hwithin⟩ := hwritten (.creat false) (by decide)
  refine ⟨hspelled (.creat false) _ _ hsame, inside, by rw [hserve]; rfl, hcwd, answer, after, hbefore, ?_⟩
  exact hcwd ▸ hwithin

end Sim

end LineShell
