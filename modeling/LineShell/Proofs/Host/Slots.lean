import LineShell.Proofs.Host.Agreement
import Mathlib.Data.List.Nodup

/-!
# Slots of the descriptor table

A number is the place of a path in the table. A known path keeps its place until what is there is removed through the
kernel, and a free place is given to the next path that was not known. The table grows only when every place is taken, so
it is as long as the most paths that were known at one time.

- `Descriptors.known`: the paths that a table knows;
- `Host.Tabled.keeps`, `Host.Tabled.frees`: what a request does to the place of a path, and to a free place;
- `Host.Run.slots`: the table after any number of requests.
-/

namespace LineShell

/-- The descriptor that a request is made on. -/
def Request.descriptor? : Request → Option Fd
  | .read fd .. | .write fd .. | .fstat fd | .ftruncate fd _ | .readDir fd _ => some fd
  | _ => none

namespace Host

namespace Descriptors

/-! ## The paths of a table -/

/-- The paths that have a number, in the order of their numbers. -/
def known (t : Descriptors) : List String :=
  (List.range t.files.size).filterMap t.path?

variable {t t' : Descriptors} {path : String} {id : Nat}

theorem path?_eq_some : t.path? id = some path ↔ t.files[id]? = some (some path) := by
  rw [path?, Option.join_eq_some_iff]

theorem lt_size_of_path? (h : t.path? id = some path) : id < t.files.size :=
  (Array.getElem?_eq_some_iff.1 (path?_eq_some.1 h)).1

theorem known_length_le (t : Descriptors) : t.known.length ≤ t.files.size := by
  simpa [known] using List.length_filterMap_le t.path? (List.range t.files.size)

namespace Sound

variable (h : t.Sound)
include h

theorem mem_known : path ∈ t.known ↔ (t.handles.lookup path).isSome := by
  rw [known, List.mem_filterMap, Option.isSome_iff_exists]
  constructor
  · rintro ⟨id, -, hid⟩
    exact ⟨id, h.lookup_iff.2 hid⟩
  · rintro ⟨id, hid⟩
    have hpath := h.lookup_iff.1 hid
    exact ⟨id, List.mem_range.2 (lt_size_of_path? hpath), hpath⟩

/-- No path has two numbers. -/
theorem nodup_known : t.known.Nodup := by
  refine List.Nodup.filterMap (fun id other path hid hother => ?_) List.nodup_range
  have heq := (h.lookup_iff.2 hid).symm.trans (h.lookup_iff.2 hother)
  exact Option.some.inj heq

theorem lookup_inj {other : String} (hpath : t.handles.lookup path = some id)
    (hother : t.handles.lookup other = some id) : path = other :=
  Option.some.inj ((h.lookup_iff.1 hpath).symm.trans (h.lookup_iff.1 hother))

theorem lt_size (hid : id ∈ t.free ∨ ∃ path, t.handles.lookup path = some id) : id < t.files.size := by
  rcases hid with hfree | ⟨path, hpath⟩
  · exact lt_size_of_free h hfree
  · exact lt_size_of_path? (h.lookup_iff.1 hpath)

end Sound

/-- A table without a free place knows as many paths as it is long. -/
theorem Sound.known_length_eq (h : t.Sound) (hfree : t.free = []) : t.known.length = t.files.size := by
  have hall : ∀ id ∈ List.range t.files.size, (t.path? id).isSome := by
    intro id hid
    cases hslot : t.files[id]? with
    | none =>
      have hle := Array.getElem?_eq_none_iff.1 hslot
      have hlt := List.mem_range.1 hid
      omega
    | some slot =>
      cases slot with
      | none =>
        have hmem := h.mem_free_iff.2 hslot
        rw [hfree] at hmem
        cases hmem
      | some path =>
        rw [path?_eq_some.2 hslot]
        rfl
  rw [known, List.filterMap_length_eq_length.2 hall, List.length_range]

/-! ## Giving out and forgetting -/

/-- Giving out a number leaves every known path its own. -/
theorem lookup_intern (hpath : t.handles.lookup path = some id) (other : String) :
    (t.intern other).2.handles.lookup path = some id := by
  have hcons (new : Nat) (hother : t.handles.lookup other = none) :
      ((other, new) :: t.handles).lookup path = some id := by
    rw [lookup_cons, if_neg, hpath]
    rintro rfl
    rw [hother] at hpath
    cases hpath
  unfold intern
  split
  · exact hpath
  · next hother =>
    split
    · exact hcons _ hother
    · exact hcons _ hother

theorem lookup_retire (hpath : t.handles.lookup path = some id) {other : String} (hother : path ≠ other) :
    (t.retire other).handles.lookup path = some id := by
  unfold retire
  split
  · rw [lookup_forget, if_neg hother, hpath]
  · exact hpath

/-- A forgotten path leaves its place free. -/
theorem Sound.files_retire (h : t.Sound) (hpath : t.handles.lookup path = some id) :
    (t.retire path).files[id]? = some none := by
  have hlt := h.lt_size (.inr ⟨path, hpath⟩)
  simp [Descriptors.retire, hpath, hlt]

/-- A place stays free unless it is given to a path that was not known. -/
theorem files_intern (hfree : t.files[id]? = some none) (path : String) :
    (t.intern path).2.files[id]? = some none ∨
      (t.handles.lookup path = none ∧ (t.intern path).2.handles.lookup path = some id) := by
  have hself := t.lookup_intern_self path
  unfold Descriptors.intern at hself ⊢
  split
  · exact .inl hfree
  · next hpath =>
    simp only [hpath] at hself
    split
    · next first rest hrest =>
      simp only [hrest] at hself
      by_cases hfirst : first = id
      · exact .inr ⟨hpath, hfirst ▸ hself⟩
      · exact .inl (by rw [Array.getElem?_setIfInBounds_ne hfirst, hfree])
    · have hlt := (Array.getElem?_eq_some_iff.1 hfree).1
      exact .inl (by rw [Array.getElem?_push_lt hlt, ← hfree, Array.getElem?_eq_getElem hlt])

theorem size_retire (t : Descriptors) (path : String) : (t.retire path).files.size = t.files.size := by
  unfold Descriptors.retire
  split
  · exact Array.size_setIfInBounds
  · rfl

theorem files_retire_free (hfree : t.files[id]? = some none) (path : String) :
    (t.retire path).files[id]? = some none := by
  unfold Descriptors.retire
  split
  · dsimp only
    rw [Array.getElem?_setIfInBounds]
    split
    · next heq => simp [heq, (Array.getElem?_eq_some_iff.1 hfree).1]
    · exact hfree
  · exact hfree

/-- The table grows by one place at most, and only if it is full then. -/
theorem Sound.size_intern (h : t.Sound) (path : String) :
    (t.intern path).2.files.size = t.files.size ∨
      (t.files.size ≤ (t.intern path).2.files.size ∧ (t.intern path).2.known.length = (t.intern path).2.files.size) := by
  cases hpath : t.handles.lookup path with
  | some id =>
    rw [Descriptors.intern, hpath]
    exact .inl rfl
  | none =>
    cases hfree : t.free with
    | cons id free =>
      rw [Descriptors.intern, hpath]
      simp only [hfree]
      exact .inl Array.size_setIfInBounds
    | nil =>
      have hintern : (t.intern path).2 = ⟨t.files.push (some path), (path, t.files.size) :: t.handles, []⟩ := by
        rw [Descriptors.intern, hpath]
        simp only [hfree]
      refine .inr ⟨by simp [hintern], (h.intern path).known_length_eq (by rw [hintern])⟩

end Descriptors

/-! ## What a request does to a place -/

variable {φ : Type}

namespace Tabled

variable {h : Host φ} {r : Request} {reply : Reply} {t : Descriptors} {path : String} {id : Nat}
  (htabled : h.Tabled r reply t)
include htabled

/-- **A known path** keeps its number unless what is there is removed. -/
theorem keeps (hpath : h.descriptors.handles.lookup path = some id)
    (hstays : ∀ given, r = .removeFile given → reply.failed = false → h.resolve given ≠ path) :
    t.handles.lookup path = some id := by
  cases htabled with
  | interned => exact Descriptors.lookup_intern hpath _
  | retired given => exact Descriptors.lookup_retire hpath (hstays given rfl rfl).symm
  | same => exact hpath

/-- **A free place** stays free unless its number is given to a path that was not known. -/
theorem frees (hfree : h.descriptors.files[id]? = some none)
    (hstays : ∀ path, h.descriptors.handles.lookup path = none → t.handles.lookup path ≠ some id) :
    t.files[id]? = some none := by
  cases htabled with
  | interned =>
    rcases Descriptors.files_intern hfree _ with hfree | ⟨hnew, hgiven⟩
    · exact hfree
    · exact absurd hgiven (hstays _ hnew)
  | retired => exact Descriptors.files_retire_free hfree _
  | same => exact hfree

/-- **A descriptor that is answered** is that of the number which the path has then. -/
theorem answers (htables : r.tables = true) (hok : reply.failed = false) (hkind : ∀ given, r ≠ .removeFile given) :
    ∃ path fill id fd, h.Asks r path fill ∧ t.handles.lookup path = some id ∧ Fd.ofFileId? id = some fd ∧
      reply = fill fd := by
  cases htabled with
  | @interned _ path fill hasks =>
    cases hfd : Fd.ofFileId? (h.descriptors.intern path).1 with
    | none =>
      rw [hfd] at hok
      cases hok
    | some fd => exact ⟨path, fill, _, fd, hasks, h.descriptors.lookup_intern_self path, hfd, rfl⟩
  | retired given => exact absurd rfl (hkind given)
  | same hrefused =>
    rw [hrefused htables] at hok
    cases hok

/-- A path whose file was removed leaves its place free. -/
theorem leaves (hsound : h.descriptors.Sound) {given : String} (hr : r = .removeFile given) (hok : reply.failed = false)
    (hpath : h.descriptors.handles.lookup (h.resolve given) = some id) : t.files[id]? = some none := by
  subst hr
  cases htabled with
  | interned hasks => cases hasks
  | retired => exact hsound.files_retire hpath
  | same hrefused =>
    rw [hrefused rfl] at hok
    cases hok

/-- **The table grows** by one place at most, and only if it is full then. -/
theorem size (hsound : h.descriptors.Sound) :
    t.files.size = h.descriptors.files.size ∨
      (h.descriptors.files.size ≤ t.files.size ∧ t.known.length = t.files.size) := by
  cases htabled with
  | interned => exact hsound.size_intern _
  | retired => exact .inl (Descriptors.size_retire _ _)
  | same => exact .inl rfl

end Tabled

/-! ## Runs -/

variable {S : HostSystem φ}

/-- A request that was answered, and the kernel before and after it. -/
structure Deed (φ : Type) where
  before : Host φ
  request : Request
  reply : Reply
  after : Host φ

namespace Deed

/-- What is at the path was removed. -/
def Removes (deed : Deed φ) (path : String) : Prop :=
  ∃ given, deed.request = .removeFile given ∧ deed.reply.failed = false ∧ deed.before.resolve given = path

/-- The number was given to a path that was not known. -/
def Gives (deed : Deed φ) (id : Nat) : Prop :=
  ∃ path, deed.before.descriptors.handles.lookup path = none ∧ deed.after.descriptors.handles.lookup path = some id

end Deed

/-- A kernel answers requests one after the other. In between, anything may happen to the system below it. -/
inductive Run (S : HostSystem φ) : Host φ → List (Deed φ) → Host φ → Prop
  | nil (h : Host φ) : Run S h [] h
  | served {r : Request} {m m' : Machine (Host φ)} {reply : Reply} {log : List (Deed φ)} {last : Host φ} :
    (kernel S).serve r m = some (reply, m') → Run S m'.state log last →
      Run S m.state (⟨m.state, r, reply, m'.state⟩ :: log) last
  | outside {h last : Host φ} {log : List (Deed φ)} (system : φ) : Run S { h with system := system } log last →
      Run S h log last

namespace Run

variable {first last : Host φ} {log : List (Deed φ)} {path : String} {id : Nat}

theorem sound (h : Run S first log last) (hfirst : first.descriptors.Sound) : last.descriptors.Sound := by
  induction h with
  | nil => exact hfirst
  | served hserve _ ih => exact ih ((serve_tabled S hserve).retabled.sound hfirst)
  | outside _ _ ih => exact ih hfirst

theorem tabled (h : Run S first log last) :
    ∀ deed ∈ log, deed.before.Tabled deed.request deed.reply deed.after.descriptors := by
  induction h with
  | nil => exact fun deed hdeed => absurd hdeed List.not_mem_nil
  | served hserve _ ih => exact List.forall_mem_cons.2 ⟨serve_tabled S hserve, ih⟩
  | outside _ _ ih => exact ih

theorem keeps (h : Run S first log last) (hpath : first.descriptors.handles.lookup path = some id)
    (hstays : ∀ deed ∈ log, ¬deed.Removes path) : last.descriptors.handles.lookup path = some id := by
  induction h with
  | nil => exact hpath
  | served hserve _ ih =>
    obtain ⟨hdeed, hlog⟩ := List.forall_mem_cons.1 hstays
    exact ih ((serve_tabled S hserve).keeps hpath fun given hr hok heq => hdeed ⟨given, hr, hok, heq⟩) hlog
  | outside _ _ ih => exact ih hpath hstays

theorem frees (h : Run S first log last) (hfree : first.descriptors.files[id]? = some none)
    (hstays : ∀ deed ∈ log, ¬deed.Gives id) : last.descriptors.files[id]? = some none := by
  induction h with
  | nil => exact hfree
  | served hserve _ ih =>
    obtain ⟨hdeed, hlog⟩ := List.forall_mem_cons.1 hstays
    exact ih ((serve_tabled S hserve).frees hfree fun path hnew hgiven => hdeed ⟨path, hnew, hgiven⟩) hlog
  | outside _ _ ih => exact ih hfree hstays

/-- The table never gets shorter, and if it got longer, it was full at some time with as many places as it has at the
end. -/
theorem size (h : Run S first log last) (hfirst : first.descriptors.Sound) :
    first.descriptors.files.size ≤ last.descriptors.files.size ∧
    (∀ deed ∈ log, deed.after.descriptors.files.size ≤ last.descriptors.files.size) ∧
    (last.descriptors.files.size = first.descriptors.files.size ∨
      ∃ deed ∈ log, deed.after.descriptors.known.length = last.descriptors.files.size) := by
  induction h with
  | nil => exact ⟨Nat.le_refl _, fun deed hdeed => absurd hdeed List.not_mem_nil, .inl rfl⟩
  | @served r m m' reply log last hserve _ ih =>
    obtain ⟨hle, hall, hfull⟩ := ih ((serve_tabled S hserve).retabled.sound hfirst)
    have hgrown := (serve_tabled S hserve).size hfirst
    refine ⟨?_, List.forall_mem_cons.2 ⟨hle, hall⟩, ?_⟩
    · rcases hgrown with heq | ⟨hgrows, -⟩
      · omega
      · omega
    · rcases hfull with heq | ⟨deed, hdeed, hknown⟩
      · rcases hgrown with hsame | ⟨-, hknown⟩
        · exact .inl (heq.trans hsame)
        · exact .inr ⟨_, List.mem_cons_self, hknown.trans heq.symm⟩
      · exact .inr ⟨deed, List.mem_cons_of_mem _ hdeed, hknown⟩
  | outside _ _ ih => exact ih hfirst

end Run

/-! ## Free places -/

/-- A request on a descriptor that stands for no path is refused. -/
theorem serve_free {m : Machine (Host φ)} {r : Request} {fd : Fd} {id : Nat} (hr : r.descriptor? = some fd)
    (hid : fd.fileId? = some id) (hfree : m.state.descriptors.files[id]? = some none) :
    (kernel S).serve r m = some (.refused, m) := by
  have hpath : m.state.path? fd = none := by
    rw [path?, hid, Option.bind_some, Descriptors.path?, hfree]
    rfl
  obtain ⟨hstdin, hconsole⟩ := Fd.not_console_of_fileId? hid
  cases r with
  | read fd' count offset =>
    cases hr
    rw [serve_readFile hstdin, readFile, hpath]
    rfl
  | write fd' data offset =>
    cases hr
    rw [serve_writeFile hconsole, writeFile, hpath]
    rfl
  | fstat fd' =>
    cases hr
    show serve S (.fstat fd) m = _
    simp only [serve, hpath, Option.bind_none]
  | ftruncate fd' length =>
    cases hr
    show serve S (.ftruncate fd length) m = _
    simp only [serve, hpath, Option.elim_none]
  | readDir fd' offset =>
    cases hr
    show some ((m.state.entryAt S fd offset.toNat).1, { m with state := (m.state.entryAt S fd offset.toNat).2 }) = _
    rw [entryAt, hpath]
  | _ => cases hr

/-! ## The table of a run -/

/-- **The descriptor table is a bijection, and no longer than it has to be.** Take a kernel that was started, and whatever
it was asked, with the system below answering as it likes. Paths lead to numbers and back; the numbers to be given out
again are those of the empty places, each once; every number is within the table; and no two paths share one. A descriptor
that is answered is that of its path. A known path keeps its number until what is there is removed. After that, every
request on its descriptor is refused until the number is given to a path that was not known. And the table is as long as
the most paths that were known at one time. -/
theorem Run.slots {system : φ} {dir : String} {first now : Host φ} {log : List (Deed φ)}
    (hstart : start S system dir = .ok first) (h : Run S first log now) :
    (∀ path id, now.descriptors.handles.lookup path = some id ↔ now.descriptors.files[id]? = some (some path)) ∧
    (now.descriptors.free.Nodup ∧ ∀ id, id ∈ now.descriptors.free ↔ now.descriptors.files[id]? = some none) ∧
    (∀ id, id ∈ now.descriptors.free ∨ (∃ path, now.descriptors.handles.lookup path = some id) →
      id < now.descriptors.files.size) ∧
    (∀ path other id, now.descriptors.handles.lookup path = some id → now.descriptors.handles.lookup other = some id →
      path = other) ∧
    (∀ deed ∈ log, deed.request.tables = true → deed.reply.failed = false → (∀ given, deed.request ≠ .removeFile given) →
      ∃ path fill id fd, deed.before.Asks deed.request path fill ∧
        deed.after.descriptors.handles.lookup path = some id ∧ Fd.ofFileId? id = some fd ∧ deed.reply = fill fd) ∧
    (∀ later log', Run S now log' later → ∀ path id, now.descriptors.handles.lookup path = some id →
      (∀ deed ∈ log', ¬deed.Removes path) → later.descriptors.handles.lookup path = some id) ∧
    (∀ given reply m m' id fd, m.state = now → (kernel S).serve (.removeFile given) m = some (reply, m') →
      reply.failed = false → now.descriptors.handles.lookup (now.resolve given) = some id → Fd.ofFileId? id = some fd →
      ∀ later log', Run S m'.state log' later → (∀ deed ∈ log', ¬deed.Gives id) →
        ∀ r, r.descriptor? = some fd → ∀ mlater, mlater.state = later →
          (kernel S).serve r mlater = some (.refused, mlater)) ∧
    (now.descriptors.known.Nodup ∧
      ∀ path, path ∈ now.descriptors.known ↔ (now.descriptors.handles.lookup path).isSome) ∧
    (∀ moment ∈ first :: log.map Deed.after,
      moment.descriptors.known.length ≤ now.descriptors.files.size) ∧
    ∃ moment ∈ first :: log.map Deed.after, moment.descriptors.known.length = now.descriptors.files.size := by
  have hfirst : first.descriptors.Sound := by
    rw [start_descriptors hstart]
    exact Descriptors.empty_sound
  have hnow := h.sound hfirst
  obtain ⟨hle, hall, hfull⟩ := h.size hfirst
  refine ⟨fun path id => hnow.lookup_iff.trans Descriptors.path?_eq_some, ⟨hnow.nodup_free, fun id => hnow.mem_free_iff⟩,
    fun id => hnow.lt_size, fun path other id => hnow.lookup_inj, fun deed hdeed => (h.tabled deed hdeed).answers,
    fun later log' hlater path id => hlater.keeps, fun given reply m m' id fd hm hserve hok hpath hfd later log' hlater
      hstays r hr mlater hmlater => ?_, ⟨hnow.nodup_known, fun path => hnow.mem_known⟩, fun moment hmoment => ?_, ?_⟩
  · subst hm hmlater
    have hfree := (serve_tabled S hserve).leaves hnow rfl hok hpath
    exact serve_free hr (Fd.fileId?_ofFileId? hfd) (hlater.frees hfree hstays)
  · rcases List.mem_cons.1 hmoment with rfl | hlog
    · exact Nat.le_trans (Descriptors.known_length_le _) hle
    · obtain ⟨deed, hdeed, rfl⟩ := List.mem_map.1 hlog
      exact Nat.le_trans (Descriptors.known_length_le _) (hall deed hdeed)
  · rcases hfull with heq | ⟨deed, hdeed, hknown⟩
    · refine ⟨first, List.mem_cons_self, ?_⟩
      rw [heq, start_descriptors hstart]
      rfl
    · exact ⟨deed.after, List.mem_cons_of_mem _ (List.mem_map_of_mem hdeed), hknown⟩

/-- A file is created and removed, and created once more after the disk was made blank behind the kernel. It has one
descriptor, which is refused in between, and the table is as long as the one path that was known. -/
theorem Run.slots_reused :
    let first : Host Disk := { cwd := "/", system := Disk.blank }
    ∃ log now, Run Disk.fileSystem first log now ∧
      log.map (fun deed => (deed.request, deed.reply)) =
        [(.creat "/f" false, ⟨3, .nothing⟩), (.removeFile "/f", .granted .nothing), (.creat "/f" false, ⟨3, .nothing⟩)] ∧
      (∃ moment ∈ first :: log.map Deed.after, moment.descriptors.known.length = now.descriptors.files.size) ∧
      now.descriptors.files.size = 1 ∧
      ∃ removed, Run Disk.fileSystem first (log.take 2) removed ∧
        (kernel Disk.fileSystem).serve (.fstat ⟨3⟩) { state := removed } = some (.refused, { state := removed }) := by
  intro first
  obtain ⟨d, hcreate⟩ := Disk.blank_createFile
  obtain ⟨d', hremove⟩ := Disk.blank_removeFile hcreate
  have hstatus : Disk.fileSystem.status d "/f" = some ⟨0, false⟩ :=
    Disk.system_regular.status (Disk.system_regular.createFile hcreate)
  have hresolve : Path.absolute "/" "/f" = "/f" := by decide +kernel
  have hfd : Fd.ofFileId? 0 = some ⟨3⟩ := by decide +kernel
  have hcreat (t : Descriptors) (ht : (t.intern "/f").1 = 0) :
      (kernel Disk.fileSystem).serve (.creat "/f" false)
          { state := { cwd := "/", descriptors := t, system := Disk.blank } } =
        some (⟨3, .nothing⟩, { state := { cwd := "/", descriptors := (t.intern "/f").2, system := d } }) := by
    have hname : Text.size (lastName (Path.absolute "/" "/f")) = 1 := by decide +kernel
    rw [serve_creat_granted (hname ▸ by decide) (hname ▸ by decide) (by rwa [resolve, hresolve])
      (by rwa [resolve, hresolve, ht]), resolve, hresolve]
    rfl
  have hunlink (t : Descriptors) :
      (kernel Disk.fileSystem).serve (.removeFile "/f") { state := { cwd := "/", descriptors := t, system := d } } =
        some (.granted .nothing, { state := { cwd := "/", descriptors := t.retire "/f", system := d' } }) := by
    rw [serve_removeFile_granted (by rwa [resolve, hresolve]) (by rwa [resolve, hresolve]), resolve, hresolve]
  let created : Descriptors := (Descriptors.intern {} "/f").2
  let freed : Descriptors := created.retire "/f"
  have hfirst := hcreat {} (by decide +kernel)
  have hsecond := hunlink created
  have hthird := hcreat freed (by decide +kernel)
  have hcreated : Run Disk.fileSystem first _ { cwd := "/", descriptors := created, system := d } := .served hfirst (.nil _)
  have hremoved : Run Disk.fileSystem first _ { cwd := "/", descriptors := freed, system := d' } :=
    .served hfirst (.served hsecond (.nil _))
  have hnow : Run Disk.fileSystem first _ { cwd := "/", descriptors := (freed.intern "/f").2, system := d } :=
    .served hfirst (.served hsecond (.outside Disk.blank (.served hthird (.nil _))))
  obtain ⟨-, -, -, -, -, -, hrefused, -⟩ := Run.slots Disk.blank_start hcreated
  obtain ⟨-, -, -, -, -, -, -, -, -, hpeak⟩ := Run.slots Disk.blank_start hnow
  have hsize : (freed.intern "/f").2.files.size = 1 := by decide +kernel
  have hknown : created.handles.lookup (Path.absolute "/" "/f") = some 0 := by decide +kernel
  refine ⟨_, _, hnow, rfl, hpeak, hsize, _, hremoved, ?_⟩
  exact hrefused "/f" _ _ _ 0 ⟨3⟩ rfl hsecond rfl hknown hfd _ [] (.nil _) (fun _ h => absurd h List.not_mem_nil)
    (.fstat ⟨3⟩) rfl _ rfl

end Host

end LineShell
