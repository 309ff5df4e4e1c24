import LineShell.Proofs.Sim.Course
import LineShell.Proofs.Sim.FileRequests

/-!
# Handles

A handle that was handed out stands for one file or directory as long as that is there, and for nothing ever after: the
table of slots only grows, and what is created gets a slot at its end. What one step leaves of each slot, and of the
program that is bound to it, is `Sim.Retains`, with the one slot that it may empty; `Course.Removes` are the courses in
which a file or directory is removed, and `Course.Installs` those in which one is made for a program.

- `Step.retains` is one step, `Course.retained` and `Course.Removes.gone` are courses;
- `Step.bound`, `Course.bound`: a program stays with the file that was made for it;
- `Step.handsOut`: a descriptor that is handed out stands for something that is there.
-/

namespace LineShell

/-! ## Descriptors in requests and answers -/

namespace Request

/-- The descriptor that a request is about. -/
def fd? : Request → Option Fd
  | read fd .. | write fd .. | fstat fd | ftruncate fd .. | readDir fd .. => some fd
  | _ => none

/-- The descriptor that is handed out with the answer to a request. -/
def handsOut? (r : Request) (reply : Reply) : Option Fd :=
  match r with
  | openFile _ | creat .. =>
    match Prog.understood r (Prog.descriptor r.operation) reply with
    | .ok fd => some fd
    | .error _ => none
  | readDir .. =>
    match reply.fill with
    | .entry entry => some entry.id
    | _ => none
  | _ => none

end Request

namespace Sim

/-! ## The table of slots -/

namespace Store

variable {s : Store}

@[simp] theorem size_setData (s : Store) (id : Nat) (data : Data) : (s.setData id data).slots.size = s.slots.size := by
  unfold setData
  split
  · exact Array.size_setIfInBounds
  · rfl

@[simp] theorem size_append (s : Store) (inode : Inode) : (s.append inode).slots.size = s.slots.size + 1 := by
  unfold append
  dsimp only
  split
  · rw [size_setData, Array.size_push]
  · exact Array.size_push ..

@[simp] theorem size_unlist (s : Store) (dir id : Nat) : (s.unlist dir id).slots.size = s.slots.size := by
  unfold unlist
  split
  · exact size_setData _ _ _
  · rfl

/-- A slot is empty if nothing has a name there. -/
theorem get?_eq_none_iff {id : Nat} : s.get? id = none ↔ s.place? id = none :=
  Option.map_eq_none_iff.symm

/-- Nothing is where something is created. -/
theorem lookup_of_create {path : String} (hpath : Path.Normal path) {directory : Bool} {id : Nat} {s' : Store}
    (h : s.create path directory = some (id, s')) : s.lookup path = none := by
  obtain ⟨names, name, _, _, rfl, hnames, -, hfree, -⟩ := create_eq hpath h
  rwa [lookup, Path.components_ofNames hnames]

/-- An entry is that of something that the directory lists. -/
theorem entry?_eq_some {dir offset : Nat} {entry : DirEntry} (h : s.entry? dir offset = some entry) :
    ∃ children id inode, s.children? dir = some children ∧ children[offset]? = some id ∧
      s.get? id = some inode ∧ Fd.ofFileId? id = some entry.id := by
  unfold entry? at h
  split at h
  · cases h
  · next children hchildren =>
    split at h
    · cases h
    · next id hchild =>
      split at h
      · next inode fd hget hfd =>
        cases h
        exact ⟨children, id, inode, hchildren, hchild, hget, hfd⟩
      · cases h

end Store

/-! ## What one step leaves -/

/-- Every slot stays where it is; names, parents, kinds and programs stay but in the slot that is emptied, if one is. -/
structure Retains (s s' : Sim) (removed? : Option Nat) : Prop where
  size_le : s.store.slots.size ≤ s'.store.slots.size
  place : ∀ id, id < s.store.slots.size → removed? ≠ some id → s'.store.place? id = s.store.place? id
  isDir : ∀ id, id < s.store.slots.size → removed? ≠ some id →
    (s'.store.children? id).isSome = (s.store.children? id).isSome
  image : ∀ id, id < s.store.slots.size → removed? ≠ some id → s'.images.lookup id = s.images.lookup id
  gone : ∀ id, removed? = some id → s'.store.place? id = none ∧ s'.images.lookup id = none

/-- What a bound program comes to when all with another number are let go. -/
theorem lookup_filter_ne (images : List (Nat × Program)) (id other : Nat) :
    (images.filter (·.1 != id)).lookup other = if other = id then none else images.lookup other := by
  induction images with
  | nil => simp
  | cons image rest ih =>
    obtain ⟨bound, program⟩ := image
    by_cases hbound : bound = id
    · subst hbound
      rw [List.filter_cons_of_neg (by simp), ih, List.lookup_cons]
      split
      · rfl
      · next hother => rw [beq_false_of_ne hother]
    · rw [List.filter_cons_of_pos (by simpa using hbound), List.lookup_cons, List.lookup_cons, ih]
      by_cases hother : other = bound
      · subst hother
        simp [hbound]
      · rw [beq_false_of_ne hother]

namespace Retains

variable {s s' : Sim}

theorem of_eq (hstore : s'.store = s.store) (himages : s'.images = s.images) : s.Retains s' none := by
  refine ⟨Nat.le_of_eq (by rw [hstore]), fun _ _ _ => by rw [hstore], fun _ _ _ => by rw [hstore],
    fun _ _ _ => by rw [himages], ?_⟩
  rintro _ ⟨⟩

theorem setFile {id : Nat} {content : Bytes} (h : s.store.content? id = some content) (new : Bytes) :
    s.Retains { s with store := s.store.setData id (.file new) } none := by
  refine ⟨Nat.le_of_eq (s.store.size_setData id _).symm, fun other _ _ => Store.place?_setData _ _ _ other,
    fun other _ _ => ?_, fun _ _ _ => rfl, nofun⟩
  exact congrArg Option.isSome (Store.children?_setFile h new other)

theorem append {inode : Inode} {children : List Nat} (hdir : s.store.children? inode.parent = some children) :
    s.Retains { s with store := s.store.append inode } none := by
  refine ⟨by simp, fun id hlt _ => ?_, fun id hlt _ => ?_, fun _ _ _ => rfl, nofun⟩
  · exact (Store.place?_append s.store inode id).trans (if_neg (Nat.ne_of_lt hlt))
  · show ((s.store.append inode).children? id).isSome = _
    rw [Store.children?_append hdir, if_neg (Nat.ne_of_lt hlt)]
    split
    · next hid => rw [hid, hdir]; rfl
    · rfl

/-- A removed file leaves its slot empty, and its program is bound to nothing. -/
theorem removed {id : Nat} {store : Store} (hremove : s.store.remove id = some store) :
    s.Retains { s with store := store, images := s.images.filter (·.1 != id) } (some id) := by
  obtain ⟨-, -, name, dir, hplace, rfl⟩ := Store.remove_eq hremove
  refine ⟨by simp, fun other _ hne => ?_, fun other _ hne => ?_, fun other _ hne => ?_, ?_⟩
  · exact (Store.place?_removed hplace other).trans (if_neg fun heq => hne (congrArg some heq.symm))
  · show (Store.children? _ other).isSome = _
    rw [Store.children?_removed hplace, if_neg fun heq => hne (congrArg some heq.symm)]
    split
    · exact Option.isSome_map
    · rfl
  · rw [lookup_filter_ne, if_neg fun heq => hne (congrArg some heq.symm)]
  · rintro _ ⟨⟩
    exact ⟨(Store.place?_removed hplace id).trans (if_pos rfl), by rw [lookup_filter_ne, if_pos rfl]⟩

theorem storing {store? : Option Store}
    (h : ∀ store, store? = some store →
      ∃ id content new, s.store.content? id = some content ∧ store = s.store.setData id (.file new)) :
    s.Retains (s.storing store?).2 none := by
  cases store? with
  | none => exact .of_eq rfl rfl
  | some store =>
    obtain ⟨id, content, new, hcontent, rfl⟩ := h store rfl
    exact .setFile hcontent new

theorem write (s : Sim) (id? : Option Nat) (offset : Nat) (data : Bytes) :
    s.Retains (s.storing (id?.bind fun id => s.store.writeAt id offset data)).2 none := by
  refine .storing fun store hstore => ?_
  obtain ⟨id, -, hwrite⟩ := Option.bind_eq_some_iff.1 hstore
  obtain ⟨content, hcontent, rfl⟩ := Store.writeAt_eq hwrite
  exact ⟨id, content, _, hcontent, rfl⟩

theorem resize (s : Sim) (id? : Option Nat) (length : Nat) :
    s.Retains (s.storing (id?.bind fun id => s.store.resize id length)).2 none := by
  refine .storing fun store hstore => ?_
  obtain ⟨id, -, hresize⟩ := Option.bind_eq_some_iff.1 hstore
  obtain ⟨content, hcontent, rfl⟩ := Store.resize_eq hresize
  exact ⟨id, content, _, hcontent, rfl⟩

theorem created {path : String} {directory : Bool} {id : Nat} {store : Store}
    (hcreate : s.store.create (Path.absolute s.cwd path) directory = some (id, store)) :
    s.Retains { s with store := store } none ∧ id = s.store.slots.size := by
  obtain ⟨_, _, _, _, -, -, -, -, -, hdir, rfl, rfl⟩ := Store.create_eq (Path.absolute_normal _ _) hcreate
  exact ⟨.append hdir, rfl⟩

theorem create (s : Sim) (path : String) (directory : Bool) : s.Retains (s.create path directory).2 none := by
  rw [create_resolved]
  split
  · next hcreate => exact (created hcreate).1
  · exact .of_eq rfl rfl

theorem install (s : Sim) (path : String) (program : Program) : s.Retains (s.install path program).2 none := by
  rw [install_resolved]
  split
  · exact .of_eq rfl rfl
  · next id store hcreate =>
    obtain ⟨hretains, hid⟩ := created hcreate
    split
    · refine ⟨hretains.size_le, hretains.place, hretains.isDir, fun other hlt _ => ?_, nofun⟩
      have hne : other ≠ id := by omega
      simp only [bindImage, List.lookup_cons, beq_false_of_ne hne, lookup_filter_ne, if_neg hne]
    · exact hretains

end Retains

/-- The number of what an event removes. -/
def Event.removed? (s : Sim) : Event → Option Nat
  | .asked (.removeFile path) reply => if reply.failed then none else s.lookup path
  | _ => none

theorem unlink_retains (s : Sim) (path : String) :
    s.Retains (s.unlink path).2 (Event.removed? s (.asked (.removeFile path) (s.unlink path).1)) := by
  unfold unlink
  cases hlookup : s.lookup path with
  | none => exact .of_eq rfl rfl
  | some id =>
    dsimp only
    cases hremove : s.store.remove id with
    | none => exact .of_eq rfl rfl
    | some store =>
      have hgranted : (Reply.granted .nothing).failed = false := by decide
      rw [Event.removed?, hgranted, if_neg Bool.false_ne_true, hlookup]
      exact .removed hremove

/-- **One request** for which no process runs. -/
theorem Asked.retains {s s' : Sim} {r : Request} {reply : Reply} (h : s.Asked r reply s') :
    s.Retains s' (Event.removed? s (.asked r reply)) := by
  cases h with
  | @looked r reply input room hlook =>
    have hnone : Event.removed? s (.asked r reply) = none := by cases r <;> first | rfl | cases hlook
    exact hnone ▸ .of_eq rfl rfl
  | written => exact .write s _ _ _
  | truncated => exact .resize s _ _
  | ftruncated => exact .resize s _ _
  | started hspawn =>
    obtain ⟨_, _, rfl⟩ := s.spawn_eq hspawn
    exact .of_eq rfl rfl
  | moved path =>
    unfold changeDir
    split <;> exact .of_eq rfl rfl
  | created path directory => exact .create s path directory
  | removed path => exact s.unlink_retains path

/-- **One step.** -/
theorem Step.retains {a b : Moment} {event : Event} (h : Step a event b) :
    a.state.Retains b.state (event.removed? a.state) := by
  cases h with
  | asked hserve => exact (serve_asked hserve).retains
  | entered htake =>
    obtain ⟨id, -, rfl⟩ := take_eq htake
    exact .of_eq rfl rfl
  | left code => exact .of_eq rfl rfl
  | @installed s waits path program =>
    have hretains := Retains.install s path program
    generalize s.install path program = installed at hretains ⊢
    exact hretains
  | facing input room => exact .of_eq rfl rfl

/-! ## Programs -/

section Bound

variable {s s' : Sim} {id : Nat} {program : Program}

/-- No request binds a program. -/
theorem Asked.bound {r : Request} {reply : Reply} (h : s.Asked r reply s')
    (hbound : s'.images.lookup id = some program) : s.images.lookup id = some program := by
  have stored {store? : Option Store} (hbound : (s.storing store?).2.images.lookup id = some program) :
      s.images.lookup id = some program := by
    cases store? <;> exact hbound
  cases h with
  | looked => exact hbound
  | written => exact stored hbound
  | truncated => exact stored hbound
  | ftruncated => exact stored hbound
  | started hspawn =>
    obtain ⟨_, _, rfl⟩ := s.spawn_eq hspawn
    exact hbound
  | moved path =>
    unfold changeDir at hbound
    split at hbound <;> exact hbound
  | created path directory => rwa [create_images] at hbound
  | removed path =>
    unfold unlink at hbound
    split at hbound
    · exact hbound
    · split at hbound
      · exact hbound
      · rw [lookup_filter_ne] at hbound
        split at hbound
        · cases hbound
        · exact hbound

/-- Installing binds a program to the new file. -/
theorem install_bound {path : String} {new : Program}
    (hbound : (s.install path new).2.images.lookup id = some program) :
    s.images.lookup id = some program ∨ (program = new ∧ id = s.store.slots.size) := by
  rw [install_resolved] at hbound
  split at hbound
  · exact .inl hbound
  · next created store hcreate =>
    obtain ⟨-, hcreated⟩ := Retains.created hcreate
    split at hbound
    · simp only [bindImage, List.lookup_cons, lookup_filter_ne] at hbound
      split at hbound
      · next heq =>
        cases hbound
        exact .inr ⟨rfl, (beq_iff_eq.1 heq).trans hcreated⟩
      · split at hbound
        · cases hbound
        · exact .inl hbound
    · exact .inl hbound

end Bound

/-- **A program** that is bound after a step was bound before, or the step installs it. -/
theorem Step.bound {a b : Moment} {event : Event} {id : Nat} {program : Program} (h : Step a event b)
    (hbound : b.state.images.lookup id = some program) :
    a.state.images.lookup id = some program ∨ (event = .outside ∧
      ∃ path, b = ⟨(a.state.install path program).2, a.waits⟩ ∧ id = a.state.store.slots.size) := by
  cases h with
  | asked hserve => exact .inl ((serve_asked hserve).bound hbound)
  | entered htake =>
    obtain ⟨id, -, rfl⟩ := take_eq htake
    exact .inl hbound
  | left code => exact .inl hbound
  | @installed s waits path new =>
    have hinstall : (s.install path new).2.images.lookup id = some program → _ := install_bound
    generalize hinstalled : s.install path new = installed at hinstall hbound ⊢
    rcases hinstall hbound with hold | ⟨rfl, hid⟩
    · exact .inl hold
    · exact .inr ⟨rfl, path, by rw [hinstalled], hid⟩
  | facing input room => exact .inl hbound

/-! ## Courses -/

namespace Course

/-- The course removes the file or directory with this number. -/
inductive Removes (id : Nat) : Moment → List Event → Moment → Prop
  | here {start next now : Moment} {event : Event} {log : List Event} : event.removed? start.state = some id →
      Step start event next → Course next log now → Removes id start (event :: log) now
  | later {start next now : Moment} {event : Event} {log : List Event} : Step start event next →
      Removes id next log now → Removes id start (event :: log) now

/-- The course makes the file with this number for a program. -/
inductive Installs (id : Nat) (program : Program) : Moment → List Event → Moment → Prop
  | here {start next now : Moment} {log : List Event} {path : String} :
      next = ⟨(start.state.install path program).2, start.waits⟩ → id = start.state.store.slots.size →
        next.state.images.lookup id = some program → Course next log now → Installs id program start (.outside :: log) now
  | later {start next now : Moment} {event : Event} {log : List Event} : Step start event next →
      Installs id program next log now → Installs id program start (event :: log) now

variable {start now : Moment} {log : List Event} {id : Nat}

theorem size_le (h : Course start log now) : start.state.store.slots.size ≤ now.state.store.slots.size := by
  induction h with
  | nil => exact Nat.le_refl _
  | cons hstep _ ih => exact Nat.le_trans hstep.retains.size_le ih

/-- **What is not removed** is what it was, with the same program. -/
theorem retained (h : Course start log now) (hlt : id < start.state.store.slots.size)
    (hkept : ¬ Removes id start log now) :
    now.state.store.place? id = start.state.store.place? id ∧
      (now.state.store.children? id).isSome = (start.state.store.children? id).isSome ∧
      now.state.images.lookup id = start.state.images.lookup id := by
  induction h with
  | nil => exact ⟨rfl, rfl, rfl⟩
  | cons hstep hrest ih =>
    have hretains := hstep.retains
    have hne := fun heq => hkept (.here heq hstep hrest)
    obtain ⟨hplace, hdir, himage⟩ :=
      ih (Nat.lt_of_lt_of_le hlt hretains.size_le) fun hremoves => hkept (.later hstep hremoves)
    exact ⟨hplace.trans (hretains.place id hlt hne), hdir.trans (hretains.isDir id hlt hne),
      himage.trans (hretains.image id hlt hne)⟩

/-- An emptied slot stays empty. -/
theorem stays_empty (h : Course start log now) (hlt : id < start.state.store.slots.size)
    (hempty : start.state.store.place? id = none) : now.state.store.place? id = none := by
  induction h with
  | nil => exact hempty
  | @cons start _ _ event _ hstep _ ih =>
    have hretains := hstep.retains
    refine ih (Nat.lt_of_lt_of_le hlt hretains.size_le) ?_
    by_cases hremoved : event.removed? start.state = some id
    · exact (hretains.gone id hremoved).1
    · exact (hretains.place id hlt hremoved).trans hempty

/-- **What is removed** is nowhere any more. -/
theorem Removes.gone (h : Removes id start log now) (hlt : id < start.state.store.slots.size) :
    now.state.store.place? id = none := by
  induction h with
  | here hremoved hstep hrest =>
    exact hrest.stays_empty (Nat.lt_of_lt_of_le hlt hstep.retains.size_le) (hstep.retains.gone id hremoved).1
  | later hstep _ ih => exact ih (Nat.lt_of_lt_of_le hlt hstep.retains.size_le)

/-- **A program is bound** to what it was bound to, or to the file that was made for it. -/
theorem bound {program : Program} (h : Course start log now) (hbound : now.state.images.lookup id = some program) :
    start.state.images.lookup id = some program ∨ Installs id program start log now := by
  induction h with
  | nil => exact .inl hbound
  | cons hstep hrest ih =>
    rcases ih hbound with hnext | hinstalls
    · rcases hstep.bound hnext with hstart | ⟨rfl, path, hinstall, hid⟩
      · exact .inl hstart
      · exact .inr (.here hinstall hid hnext hrest)
    · exact .inr (.later hstep hinstalls)

end Course

/-! ## Handles that are handed out -/

section Handle

variable {s s' : Sim} {id : Nat} {fd : Fd}

theorem handle?_eq_some_iff (hfd : fd.fileId? = some id) :
    s.handle? fd = some id ↔ ∃ place, s.store.place? id = some place := by
  rw [handle?, hfd, Option.bind_some, Store.place?]
  cases s.store.get? id <;> simp

theorem handle?_eq_none (hfd : fd.fileId? = some id) (hgone : s.store.place? id = none) : s.handle? fd = none := by
  rw [handle?, hfd, Option.bind_some, Store.get?_eq_none_iff.2 hgone]
  rfl

/-- **A handle of nothing** is refused by every request about it. -/
theorem serve_dead {depth : Nat} {m : Machine Sim} {r : Request} (hr : r.fd? = some fd) (hfd : fd.fileId? = some id)
    (hdead : m.state.handle? fd = none) : (kernel depth).serve r m = some (.refused, m) := by
  obtain ⟨hstdin, hconsole⟩ := Fd.not_console_of_fileId? hfd
  cases r with
  | read fd' count offset =>
    cases hr
    rw [serve_readFile depth m hstdin, readFile, hdead]
    rfl
  | write fd' data offset =>
    cases hr
    rw [serve_writeFile depth m (by simp [hconsole]), hdead]
    rfl
  | ftruncate fd' length =>
    cases hr
    rw [serve_ftruncate, hdead]
    rfl
  | fstat fd' =>
    cases hr
    rw [serve_fstat, hdead]
    rfl
  | readDir fd' offset =>
    cases hr
    rw [serve_readDir, hdead]
    rfl
  | _ => cases hr

/-- A descriptor that is handed out in the word of an answer is the one of the file. -/
theorem ofFileId?_of_understood {r : Request} {operation : Operation}
    (h : Prog.understood r (Prog.descriptor operation) (descriptorReply id) = .ok fd) : Fd.ofFileId? id = some fd := by
  unfold descriptorReply at h
  split at h
  · next found hfound =>
    rw [Fd.understood_ofFileId? hfound] at h
    cases h
    exact hfound
  · cases h

/-- What the descriptor that is handed out with the answer to a request stands for: what lies at the path, now or as soon as
it is created, or what a directory lists. -/
def Means (s s' : Sim) (id : Nat) : Request → Prop
  | .openFile path => s.lookup path = some id
  | .creat path _ => s.lookup path = none ∧ s'.lookup path = some id
  | .readDir fd offset =>
    ∃ dir children, s.handle? fd = some dir ∧ s.store.children? dir = some children ∧
      children[offset.toNat]? = some id
  | _ => False

/-- What lies somewhere has a place. -/
theorem Intact.place?_of_lookup (h : s.Intact) {path : String} (hlookup : s.lookup path = some id) :
    ∃ place, s.store.place? id = some place :=
  h.tree.place?_of_isPath ((h.tree.lookup_iff (Path.absolute_normal _ _)).1 hlookup)

/-- What is handed out in the word of an answer. -/
theorem understood_of_handsOut {r : Request} {reply : Reply}
    (hr : (∃ path, r = .openFile path) ∨ ∃ path directory, r = .creat path directory)
    (h : r.handsOut? reply = some fd) : Prog.understood r (Prog.descriptor r.operation) reply = .ok fd := by
  have hok : (match Prog.understood r (Prog.descriptor r.operation) reply with
      | .ok fd => some fd
      | .error _ => none) = some fd := by
    rcases hr with ⟨path, rfl⟩ | ⟨path, directory, rfl⟩ <;> exact h
  split at hok
  · next heq =>
    cases hok
    exact heq
  · cases hok

/-- The descriptor of something new is that of the slot at the end. -/
theorem create_handsOut {path : String} {directory : Bool} {reply : Reply} (hcreate : s.create path directory = (reply, s'))
    (hfd : (Request.creat path directory).handsOut? reply = some fd) :
    ∃ store, s.store.create (Path.absolute s.cwd path) directory = some (s.store.slots.size, store) ∧
      s' = { s with store := store } ∧ fd.fileId? = some s.store.slots.size := by
  have hok := understood_of_handsOut (.inr ⟨path, directory, rfl⟩) hfd
  rw [create_resolved] at hcreate
  split at hcreate
  · next id store hstore =>
    cases hcreate
    obtain ⟨-, rfl⟩ := Retains.created hstore
    exact ⟨store, hstore, rfl, Fd.fileId?_ofFileId? (ofFileId?_of_understood hok)⟩
  · cases hcreate
    cases hok

/-- **A handle that is handed out** stands for something that is there. -/
theorem Step.handsOut {there next : Moment} {r : Request} {reply : Reply} (hthere : there.state.Intact)
    (hnext : next.state.Intact) (h : Step there (.asked r reply) next) (hfd : r.handsOut? reply = some fd) :
    ∃ id, fd.fileId? = some id ∧ there.state.Means next.state id r ∧
      ∃ place, next.state.store.place? id = some place := by
  obtain @⟨_, m, m', _, waits, hserve⟩ := h
  cases r with
  | openFile path =>
    have hok := understood_of_handsOut (.inl ⟨path, rfl⟩) hfd
    obtain ⟨hreply, hstate⟩ := Prod.mk.inj (Option.some.inj ((serve_openFile 0 m path).symm.trans hserve))
    subst hreply hstate
    cases hlookup : m.state.lookup path with
    | none =>
      rw [hlookup] at hok
      cases hok
    | some id =>
      rw [hlookup] at hok
      exact ⟨id, Fd.fileId?_ofFileId? (ofFileId?_of_understood hok), hlookup, hthere.place?_of_lookup hlookup⟩
  | creat path directory =>
    rw [serve_creat] at hserve
    generalize hstate : m.state.create path directory = created at hserve
    cases hserve
    obtain ⟨store, hcreate, hstate, hid⟩ := create_handsOut hstate hfd
    have hnormal := Path.absolute_normal m.state.cwd path
    have hlookup : created.2.lookup path = some m.state.store.slots.size := by
      rw [hstate]
      exact hthere.tree.lookup_create hnormal hcreate
    exact ⟨_, hid, ⟨Store.lookup_of_create hnormal hcreate, hlookup⟩, hnext.place?_of_lookup hlookup⟩
  | readDir dir offset =>
    obtain ⟨hreply, hstate⟩ := Prod.mk.inj (Option.some.inj ((serve_readDir 0 m dir offset).symm.trans hserve))
    subst hreply hstate
    cases hentry : (m.state.handle? dir).bind fun id => m.state.store.entry? id offset.toNat with
    | none =>
      rw [hentry] at hfd
      cases hfd
    | some entry =>
      rw [hentry] at hfd
      cases hfd
      obtain ⟨parent, hparent, hlisted⟩ := Option.bind_eq_some_iff.1 hentry
      obtain ⟨children, id, inode, hchildren, hchild, hget, hfd⟩ := Store.entry?_eq_some hlisted
      refine ⟨id, Fd.fileId?_ofFileId? hfd, ⟨parent, children, hparent, hchildren, hchild⟩,
        (inode.name, inode.parent), ?_⟩
      rw [Store.place?, hget]
      rfl
  | _ => cases hfd

/-- A process that is started runs the program that is bound to what lies at the path. -/
theorem Step.starts {now after : Moment} {path : String} {argv : List String} {reply : Reply}
    (h : Step now (.asked (.exec path argv) reply) after) (hgranted : reply.failed = false) :
    ∃ id program, now.state.lookup path = some id ∧ now.state.images.lookup id = some program ∧
      after.state.processes = now.state.processes ++ [(now.state.nextPid, ⟨program, argv, now.state.cwd⟩)] := by
  obtain @⟨_, m, m', _, waits, hserve⟩ := h
  have heffect := serve_effect hserve
  generalize m.state = s, m'.state = s' at heffect ⊢
  cases heffect with
  | started hprogram hpid =>
    obtain ⟨id, hlookup, himage⟩ := Option.bind_eq_some_iff.1 hprogram
    exact ⟨id, _, hlookup, himage, rfl⟩
  | apart _ _ _ hplain =>
    rcases hplain with hplain | hfailed
    · cases hplain
    · rw [hgranted] at hfailed
      cases hfailed

/-- **Handles are stable and never recycled.** A descriptor was handed out for a file or directory, and anything happened
since. As long as that was not removed, the descriptor stands for it, with its name, parent and kind as they were; as soon
as it was, every request about the descriptor is refused. Nothing that is created is given the descriptor, and whatever
is started runs the program that was bound to the very file it is started from: at the time when the descriptor was handed
out, or when that file was made. -/
theorem handles_never_recycled {there next now : Moment} {r : Request} {reply : Reply} {fd : Fd} {log : List Event}
    (hthere : there.state.Reachable) (hstep : Step there (.asked r reply) next) (hfd : r.handsOut? reply = some fd)
    (hcourse : Course next log now) :
    (∃ id, fd.fileId? = some id ∧ there.state.Means next.state id r ∧
      (¬ Course.Removes id next log now → now.state.handle? fd = some id ∧
        now.state.store.place? id = next.state.store.place? id ∧
        (now.state.store.children? id).isSome = (next.state.store.children? id).isSome) ∧
      (Course.Removes id next log now → ∀ depth heap terminal about, about.fd? = some fd →
        (kernel depth).serve about ⟨heap, terminal, now.state⟩ = some (.refused, ⟨heap, terminal, now.state⟩))) ∧
    (∀ path directory answer after, Step now (.asked (.creat path directory) answer) after →
      (Request.creat path directory).handsOut? answer ≠ some fd) ∧
    ∀ path argv answer after, Step now (.asked (.exec path argv) answer) after → answer.failed = false →
      ∃ id program, now.state.lookup path = some id ∧
        after.state.processes = now.state.processes ++ [(now.state.nextPid, ⟨program, argv, now.state.cwd⟩)] ∧
        (next.state.images.lookup id = some program ∨ Course.Installs id program next log now) := by
  have hnext : next.state.Reachable := by
    obtain @⟨_, m, m', _, waits, hserve⟩ := hstep
    exact .served hthere hserve
  obtain ⟨id, hid, hmeans, place, hplace⟩ := hstep.handsOut hthere.intact hnext.intact hfd
  have hlt := Store.lt_size_of_place? hplace
  refine ⟨⟨id, hid, hmeans, fun hkept => ?_, fun hremoves => ?_⟩, ?_, ?_⟩
  · obtain ⟨hsame, hdir, -⟩ := hcourse.retained hlt hkept
    exact ⟨(handle?_eq_some_iff hid).2 ⟨place, hsame.trans hplace⟩, hsame, hdir⟩
  · intro depth heap terminal about habout
    exact serve_dead habout hid (handle?_eq_none hid (hremoves.gone hlt))
  · intro path directory answer after hcreat hagain
    obtain @⟨_, m, m', _, waits, hserve⟩ := hcreat
    rw [serve_creat] at hserve
    generalize hstate : m.state.create path directory = created at hserve
    cases hserve
    obtain ⟨-, -, -, hnew⟩ := create_handsOut hstate hagain
    have hsize := hcourse.size_le
    rw [hid] at hnew
    cases hnew
    exact Nat.lt_irrefl _ (Nat.lt_of_lt_of_le hlt hsize)
  · intro path argv answer after hexec hgranted
    obtain ⟨id, program, hlookup, himage, hprocesses⟩ := hexec.starts hgranted
    exact ⟨id, program, hlookup, hprocesses, hcourse.bound himage⟩

/-- The first file that is made has the descriptor `4`. Once it is removed, its size cannot be asked for, and the next
file at its path has another descriptor. -/
theorem handle_of_a_removed_file :
    let made := ((empty (.script [])).create "/a" false).2
    let gone := (made.unlink "/a").2
    Course.Removes 1 ⟨made, []⟩ [.asked (.removeFile "/a") (.granted .nothing)] ⟨gone, []⟩ ∧
      (∀ depth heap terminal, (kernel depth).serve (.fstat ⟨4⟩) ⟨heap, terminal, gone⟩ =
        some (.refused, ⟨heap, terminal, gone⟩)) ∧
      (Request.creat "/a" false).handsOut? (gone.create "/a" false).1 ≠ some ⟨4⟩ := by
  intro made gone
  have hmade : Step ⟨empty (.script []), []⟩ (.asked (.creat "/a" false) _) ⟨made, []⟩ := .of_create rfl
  have hreply : ((empty (.script [])).create "/a" false).1 = descriptorReply 1 := by decide +kernel
  have hfd : (Request.creat "/a" false).handsOut? ((empty (.script [])).create "/a" false).1 = some ⟨4⟩ := by
    have hword : Fd.ofFileId? 1 = some ⟨4⟩ := rfl
    rw [hreply, descriptorReply, hword, Request.handsOut?, Fd.understood_ofFileId? hword]
  have hunlink : (made.unlink "/a").1 = .granted .nothing := by decide +kernel
  have hgone : Step ⟨made, []⟩ (.asked (.removeFile "/a") (.granted .nothing)) ⟨gone, []⟩ := Step.of_unlink hunlink
  have hremoved : (Event.asked (.removeFile "/a") (.granted .nothing)).removed? made = some 1 := by decide +kernel
  have hremoves := Course.Removes.here hremoved hgone (.nil _)
  obtain ⟨⟨id, hid, -, -, hdead⟩, hfresh, -⟩ :=
    handles_never_recycled (Reachable.empty _) hmade hfd (.single hgone)
  obtain rfl : id = 1 := Option.some.inj (hid.symm.trans (by decide))
  refine ⟨hremoves, fun depth heap terminal => hdead hremoves depth heap terminal (.fstat ⟨4⟩) rfl, ?_⟩
  exact hfresh "/a" false _ _ (Step.of_create rfl)

end Handle

end Sim

end LineShell
