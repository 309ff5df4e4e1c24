import LineShell.Proofs.Sim.Answers
import LineShell.Proofs.Sim.Tree

/-!
# The states of the kernel in memory

Whatever is installed, asked and run, the files of the kernel form a tree, its programs are bound to files, and its
working directories have normal form (`Sim.Intact`, `Sim.Reachable.intact`).

- `Sim.Reachable`: the states that a kernel comes to, also while it waits for a process;
- `Sim.Reachable.paths`: paths and files correspond to each other.
-/

namespace LineShell.Sim

/-! ## Files that stay -/

namespace Store

variable {s : Store} {id dir other : Nat} {name : String} {children : List Nat} {content : Bytes}

/-- A file lists nothing. -/
theorem children?_of_content? (h : s.content? id = some content) : s.children? id = none := by
  obtain ⟨name, parent, hget⟩ := get?_of_content? h
  rw [children?_eq, hget]
  rfl

theorem content?_congr {s' : Store} (h : s'.get? id = s.get? id) : s'.content? id = s.content? id := by
  rw [content?, content?, h]

/-- A file is a file after any file got other bytes. -/
theorem exists_content?_setFile (h : s.content? id = some content) (new : Bytes) {old : Bytes}
    (hold : s.content? other = some old) : ∃ now, (s.setData id (.file new)).content? other = some now := by
  by_cases hother : other = id
  · subst hother
    exact ⟨new, content?_setData h new⟩
  · obtain ⟨name, parent, hget⟩ := get?_of_content? h
    exact ⟨old, (content?_congr (by rw [get?_setData hget, if_neg hother])).trans hold⟩

/-- Other slots stay when a file is appended. -/
theorem get?_append {inode : Inode} (h : s.children? inode.parent = some children) (hother : other ≠ inode.parent) :
    (s.append inode).get? other = if other = s.slots.size then some inode else s.get? other := by
  obtain ⟨place, hplace⟩ := place?_of_children? h
  obtain ⟨parent, hget, -⟩ := Option.map_eq_some_iff.1 hplace
  have hparent : (⟨s.slots.push (some inode)⟩ : Store).get? inode.parent = some parent := by
    rw [get?_push, if_neg (Nat.ne_of_lt (lt_size_of_get? hget))]
    exact hget
  rw [append, h, get?_setData hparent, if_neg hother, get?_push]

theorem content?_append {inode : Inode} (h : s.children? inode.parent = some children)
    (hold : s.content? other = some content) : (s.append inode).content? other = some content := by
  have hother : other ≠ inode.parent := by
    rintro rfl
    rw [children?_of_content? hold] at h
    cases h
  obtain ⟨name, parent, hget⟩ := get?_of_content? hold
  refine (content?_congr ?_).trans hold
  rw [get?_append h hother, if_neg (Nat.ne_of_lt (lt_size_of_get? hget))]

/-- A new file is empty. -/
theorem content?_append_new (h : s.children? dir = some children) (name : String) :
    (s.append ⟨name, dir, .file []⟩).content? s.slots.size = some [] := by
  rw [content?, get?_append h (Nat.ne_of_gt (lt_size_of_children? h)), if_pos rfl]

theorem get?_unlist (h : other ≠ dir) : (s.unlist dir id).get? other = s.get? other := by
  unfold unlist
  split
  · next children hchildren =>
    obtain ⟨place, hplace⟩ := place?_of_children? hchildren
    obtain ⟨inode, hget, -⟩ := Option.map_eq_some_iff.1 hplace
    rw [get?_setData hget, if_neg h]
  · rfl

/-- Removing leaves the other files. -/
theorem content?_remove {s' : Store} (h : s.Tree) (hremove : s.remove id = some s') (hother : other ≠ id)
    (hold : s.content? other = some content) : s'.content? other = some content := by
  obtain ⟨hroot, -, name, dir, hplace, rfl⟩ := remove_eq hremove
  obtain ⟨-, children, hchildren, -⟩ := h.listed hplace hroot
  have hdir : other ≠ dir := by
    rintro rfl
    rw [children?_of_content? hold] at hchildren
    cases hchildren
  refine (content?_congr ?_).trans hold
  rw [get?_removed hplace, if_neg hother, get?_unlist hdir]

end Store

/-! ## The invariant -/

/-- Files form a tree, programs are bound to files, and working directories have normal form. -/
structure Intact (s : Sim) : Prop where
  tree : s.store.Tree
  images : ∀ image ∈ s.images, ∃ content, s.store.content? image.1 = some content
  cwd : Path.Normal s.cwd
  processes : ∀ entry ∈ s.processes, Path.Normal entry.2.cwd

namespace Intact

variable {s s' : Sim}

/-- **What a request may do** leaves a state intact. -/
theorem change (h : s.Intact) {reply : Reply} (hchange : s.Change reply s') : s'.Intact := by
  cases hchange with
  | same => exact h
  | data new hcontent =>
    refine ⟨h.tree.setFile hcontent new, fun image himage => ?_, h.cwd, h.processes⟩
    obtain ⟨old, hold⟩ := h.images image himage
    exact Store.exists_content?_setFile hcontent new hold
  | created hcreate =>
    refine ⟨h.tree.create (Path.absolute_normal _ _) hcreate, fun image himage => ?_, h.cwd, h.processes⟩
    obtain ⟨content, hcontent⟩ := h.images image himage
    obtain ⟨_, _, _, _, -, -, -, -, -, hdir, -, rfl⟩ := Store.create_eq (Path.absolute_normal _ _) hcreate
    exact ⟨content, Store.content?_append hdir hcontent⟩
  | removed hremove =>
    refine ⟨h.tree.remove hremove, fun image himage => ?_, h.cwd, h.processes⟩
    obtain ⟨hmem, hne⟩ := List.mem_filter.1 himage
    obtain ⟨content, hcontent⟩ := h.images image hmem
    exact ⟨content, Store.content?_remove h.tree hremove (by simpa using hne) hcontent⟩
  | started argv himage =>
    refine ⟨h.tree, h.images, h.cwd, fun entry hentry => ?_⟩
    rcases List.mem_append.1 hentry with hold | hnew
    · exact h.processes entry hold
    · rw [List.mem_singleton.1 hnew]
      exact h.cwd
  | entered => exact ⟨h.tree, h.images, Path.absolute_normal _ _, h.processes⟩

/-- A process that is waited for starts in an intact state. -/
theorem enter (h : s.Intact) {pid : Pid} {process : Process} (htake : s.take pid = some (process, s')) :
    ({ s' with cwd := process.cwd } : Sim).Intact := by
  obtain ⟨id, hmem, rfl⟩ := take_eq htake
  exact ⟨h.tree, h.images, h.processes _ hmem, fun entry hentry => h.processes entry (List.mem_filter.1 hentry).1⟩

/-- **Whatever runs**, and however deep it waits, leaves a state intact. -/
theorem kept : Kept fun m m' => m.state.Intact → m'.state.Intact where
  refl _ h := h
  trans hab hbc h := hbc (hab h)
  heap _ _ h := h
  read m count h := by
    obtain ⟨terminal, input, heq⟩ := readConsole_eq m count
    rw [heq]
    exact ⟨h.tree, h.images, h.cwd, h.processes⟩
  write m data h := by
    obtain ⟨terminal, heq⟩ := writeConsole_eq m data
    rw [heq]
    exact ⟨h.tree, h.images, h.cwd, h.processes⟩
  change _ _ _ hchange h := h.change hchange
  wait m m₁ _ _ _ htake hrun h := by
    have h₁ := hrun (h.enter htake)
    exact ⟨h₁.tree, h₁.images, h.cwd, h₁.processes⟩

theorem install (h : s.Intact) (path : String) (program : Program) : (s.install path program).2.Intact := by
  rw [install_resolved]
  split
  · exact h
  · next id store hcreate =>
    have hcreated : ({ s with store := store } : Sim).Intact := h.change (.created hcreate)
    split
    · refine ⟨hcreated.tree, fun image himage => ?_, hcreated.cwd, hcreated.processes⟩
      rcases List.mem_cons.1 himage with rfl | hold
      · obtain ⟨_, name, _, _, -, -, -, -, -, hdir, rfl, rfl⟩ := Store.create_eq (Path.absolute_normal _ _) hcreate
        exact ⟨[], Store.content?_append_new hdir name⟩
      · exact hcreated.images image (List.mem_filter.1 hold).1
    · exact hcreated

end Intact

theorem empty_intact (input : Input) : (empty input).Intact :=
  ⟨Store.empty_tree, by simp [empty], ⟨[], by simp, rfl⟩, by simp [empty]⟩

/-! ## Looking at a state -/

/-- The request is answered with this, whatever the rest of the machine is, and nothing changes. -/
def Answers (s : Sim) (r : Request) (reply : Reply) : Prop :=
  ∀ depth heap terminal, (kernel depth).serve r ⟨heap, terminal, s⟩ = some (reply, ⟨heap, terminal, s⟩)

section Answers

variable {s : Sim} {r : Request} {reply answer : Reply}

theorem answers_iff (h : s.Answers r answer) : s.Answers r reply ↔ answer = reply := by
  constructor
  · intro h'
    cases (h 0 {} {}).symm.trans (h' 0 {} {})
    rfl
  · rintro rfl
    exact h

theorem answers_openFile {path : String} :
    s.Answers (.openFile path) reply ↔ (s.lookup path).elim .refused descriptorReply = reply :=
  answers_iff fun _ _ _ => rfl

theorem answers_fstat {fd : Fd} :
    s.Answers (.fstat fd) reply ↔ showing .stat ((s.handle? fd).bind s.store.stat?) = reply :=
  answers_iff fun _ _ _ => rfl

theorem answers_readDir {fd : Fd} {offset : UInt64} :
    s.Answers (.readDir fd offset) reply ↔
      showing .entry ((s.handle? fd).bind fun id => s.store.entry? id offset.toNat) = reply :=
  answers_iff fun _ _ _ => rfl

end Answers

/-! ## Reachable states -/

/-- The states that a kernel comes to: programs are installed and requests are answered, whatever heap and terminal there
are; a process that is waited for starts in its own working directory, and its requests are answered there; and the console
may be changed from outside. -/
inductive Reachable : Sim → Prop
  | empty (input : Input) : Reachable (empty input)
  | installed {s : Sim} (path : String) (program : Program) : Reachable s → Reachable (s.install path program).2
  | served {depth : Nat} {r : Request} {m m' : Machine Sim} {reply : Reply} : Reachable m.state →
    (kernel depth).serve r m = some (reply, m') → Reachable m'.state
  | entered {s s' : Sim} {pid : Pid} {process : Process} : Reachable s → s.take pid = some (process, s') →
    Reachable { s' with cwd := process.cwd }
  | facing {s : Sim} (input : Input) (room : Option Nat) : Reachable s → Reachable { s with input := input, room := room }

namespace Reachable

variable {s : Sim}

theorem created (h : s.Reachable) (path : String) (directory : Bool) : (s.create path directory).2.Reachable := by
  have hserve : (kernel 0).serve (.creat path directory) ⟨{}, {}, s⟩ =
      some ((s.create path directory).1, ⟨{}, {}, (s.create path directory).2⟩) := rfl
  generalize s.create path directory = created at hserve ⊢
  exact .served (m := ⟨{}, {}, s⟩) h hserve

theorem changedDir (h : s.Reachable) (path : String) : (s.changeDir path).2.Reachable := by
  have hserve : (kernel 0).serve (.chdir path) ⟨{}, {}, s⟩ =
      some ((s.changeDir path).1, ⟨{}, {}, (s.changeDir path).2⟩) := rfl
  generalize s.changeDir path = changed at hserve ⊢
  exact .served (m := ⟨{}, {}, s⟩) h hserve

/-- A kernel comes to be booted. -/
theorem booted (input : Input) : Reachable (booted input) :=
  installAll_keeps Program.bundled (fun _ _ _ h => h.installed _ _) ((Reachable.empty input).created _ _)

/-- What a program comes to is reachable. -/
theorem run {α : Type} {p : Prog α} {depth : Nat} {m m' : Machine Sim} {value : α} (h : m.state.Reachable)
    (hrun : p.run (kernel depth) m = some (value, m')) : m'.state.Reachable :=
  Kernel.Keeps.run (R := fun m m' => m.state.Reachable → m'.state.Reachable)
    ⟨fun _ => id, fun hab hbc h => hbc (hab h), fun _ _ => id, fun hserve h => h.served hserve⟩ p hrun h

/-- **Every state is intact.** -/
theorem intact (h : s.Reachable) : s.Intact := by
  induction h with
  | empty input => exact empty_intact input
  | installed path program _ ih => exact ih.install path program
  | served _ hserve ih => exact (Intact.kept.kernel _).serve hserve ih
  | entered _ htake ih => exact ih.enter htake
  | facing input room _ ih => exact ⟨ih.tree, ih.images, ih.cwd, ih.processes⟩

/-- **Paths and files correspond to each other**: a state is intact, so that all that is there but the root is listed once,
by the directory that it is in, and has one path, in normal form; opening that path answers its handle, and opening any
other path in normal form is refused. -/
theorem paths (h : s.Reachable) (hslots : s.store.slots.size + Fd.reserved < Fd.limit) :
    s.Intact ∧
    (∀ id name dir, s.store.place? id = some (name, dir) → id ≠ Store.root → ∀ other children,
      s.store.children? other = some children → children.count id = if other = dir then 1 else 0) ∧
    (∀ id place, s.store.place? id = some place → ∃! path, s.store.IsPath id path) ∧
    (∀ id path, s.store.IsPath id path → Path.Normal path ∧ ∃ fd, Fd.ofFileId? id = some fd ∧
      s.Answers (.openFile path) ⟨fd.raw.toInt64, .nothing⟩) ∧
    ∀ path, Path.Normal path → (∀ id, ¬ s.store.IsPath id path) → s.Answers (.openFile path) .refused := by
  have hintact := h.intact
  have htree := hintact.tree
  have hlookup {path : String} (hpath : Path.Normal path) : s.lookup path = s.store.lookup path := by
    rw [lookup, hpath.absolute_eq]
  refine ⟨hintact, fun _ _ _ hplace hne _ _ hlist => htree.count_listed hplace hne hlist,
    fun _ _ hplace => htree.existsUnique_path hplace, fun id path hpath => ?_, fun path hnormal hnone => ?_⟩
  · have hnormal := htree.normal_of_isPath hpath
    obtain ⟨place, hplace⟩ := htree.place?_of_isPath hpath
    have hlt := Store.lt_size_of_place? hplace
    have hfd : Fd.ofFileId? id = some ⟨Int32.ofNat (id + Fd.reserved)⟩ := if_pos (by omega)
    refine ⟨hnormal, _, hfd, answers_openFile.2 ?_⟩
    rw [hlookup hnormal, (htree.lookup_iff hnormal).2 hpath, Option.elim_some, descriptorReply, hfd]
  · rw [answers_openFile, hlookup hnormal]
    cases hfound : s.store.lookup path with
    | none => rfl
    | some id => exact absurd ((htree.lookup_iff hnormal).1 hfound) (hnone id)

/-- A file in `/tmp` of a booted kernel: it has one path, which opens to it. -/
theorem paths_booted :
    let s := ((Sim.booted (.script [])).create "/tmp/a" false).2
    s.store.slots.size + Fd.reserved < Fd.limit ∧ s.store.place? 11 = some ("a", 1) ∧
      (∃! path, s.store.IsPath 11 path) ∧ s.store.IsPath 11 "/tmp/a" ∧
      s.Answers (.openFile "/tmp/a") ⟨14, .nothing⟩ := by
  intro s
  have hreachable : s.Reachable := (Reachable.booted _).created _ _
  have hslots : s.store.slots.size + Fd.reserved < Fd.limit := by decide +kernel
  have hplace : s.store.place? 11 = some ("a", 1) := by decide +kernel
  obtain ⟨hintact, -, hunique, hopen, -⟩ := hreachable.paths hslots
  have habsolute : Path.absolute "/" "/tmp/a" = "/tmp/a" := by decide +kernel
  have hnormal : Path.Normal "/tmp/a" := habsolute ▸ Path.absolute_normal "/" "/tmp/a"
  have hpath : s.store.IsPath 11 "/tmp/a" := (hintact.tree.lookup_iff hnormal).1 (by decide +kernel)
  obtain ⟨-, fd, hfd, hserve⟩ := hopen 11 "/tmp/a" hpath
  cases hfd
  exact ⟨hslots, hplace, hunique 11 _ hplace, hpath, hserve⟩

end Reachable

end LineShell.Sim
