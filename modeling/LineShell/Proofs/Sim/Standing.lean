import LineShell.Proofs.Sim.Handles
import LineShell.Proofs.Sim.Listing

/-!
# What stands at the paths

A state is looked at from outside as what stands at each path (`Sim.standing?`), which is all there is to its files
(`Sim.Intact.files_eq`). Creating, removing and rewriting change what stands at one path and nothing else
(`Sim.Changed.of_create`, `Sim.Changed.of_remove`, `Sim.Changed.of_setFile`).
-/

namespace LineShell.Sim

/-! ## Files elsewhere -/

namespace Store

variable {s s' : Store} {id dir other : Nat} {children : List Nat} {content : Bytes} {path : String}

/-- A directory holds no bytes. -/
theorem content?_of_children? (h : s.children? id = some children) : s.content? id = none := by
  cases hcontent : s.content? id with
  | none => rfl
  | some content =>
    rw [children?_of_content? hcontent] at h
    cases h

theorem content?_append_ne {inode : Inode} (h : s.children? inode.parent = some children)
    (hother : other ≠ s.slots.size) : (s.append inode).content? other = s.content? other := by
  by_cases hparent : other = inode.parent
  · subst hparent
    have hlist := children?_append h inode.parent
    rw [if_neg hother, if_pos rfl] at hlist
    rw [content?_of_children? h, content?_of_children? hlist]
  · exact content?_congr (by rw [get?_append h hparent, if_neg hother])

theorem content?_remove_ne (h : s.Tree) (hremove : s.remove id = some s') (hother : other ≠ id) :
    s'.content? other = s.content? other := by
  obtain ⟨hroot, -, name, dir, hplace, rfl⟩ := remove_eq hremove
  obtain ⟨-, children, hchildren, -⟩ := h.listed hplace hroot
  by_cases hdir : other = dir
  · subst hdir
    have hlist := children?_removed hplace other
    rw [if_neg hother, if_pos rfl, hchildren] at hlist
    rw [content?_of_children? hchildren, content?_of_children? hlist]
  · exact content?_congr (by rw [get?_removed hplace, if_neg hother, get?_unlist hdir])

theorem content?_setData_ne (h : s.content? id = some content) (new : Bytes) (hother : other ≠ id) :
    (s.setData id (.file new)).content? other = s.content? other := by
  obtain ⟨name, parent, hget⟩ := get?_of_content? h
  exact content?_congr (by rw [get?_setData hget, if_neg hother])

/-- Two paths do not lead to the same. -/
theorem Tree.lookup_inj (h : s.Tree) (hpath : Path.Normal path) {elsewhere : String}
    (helsewhere : Path.Normal elsewhere) (hfound : s.lookup path = some id) (hfound' : s.lookup elsewhere = some id) :
    elsewhere = path := by
  obtain ⟨names, hlies, rfl⟩ := (h.lookup_iff hpath).1 hfound
  obtain ⟨names', hlies', rfl⟩ := (h.lookup_iff helsewhere).1 hfound'
  rw [Tree.liesAt_unique hlies hlies']

/-- What lies somewhere after appending lay there before, unless it is new. -/
theorem LiesAt.of_append (h : s.Tree) {inode : Inode} {names : List String} (hlies : (s.append inode).LiesAt id names)
    (hid : id ≠ s.slots.size) : s.LiesAt id names := by
  induction hlies with
  | root => exact .root
  | child hplace hne _ ih =>
    rw [place?_append, if_neg hid] at hplace
    obtain ⟨hlt, -⟩ := h.listed hplace hne
    exact .child hplace hne (ih (Nat.ne_of_lt (Nat.lt_trans hlt (lt_size_of_place? hplace))))

/-- **Creating** moves nothing: all other paths lead where they led. -/
theorem Tree.lookup_create_ne (h : s.Tree) (hpath : Path.Normal path) {directory : Bool}
    (hcreate : s.create path directory = some (id, s')) {elsewhere : String} (helsewhere : Path.Normal elsewhere)
    (hne : elsewhere ≠ path) : s'.lookup elsewhere = s.lookup elsewhere := by
  have hnew := h.lookup_create hpath hcreate
  have htree := h.create hpath hcreate
  obtain ⟨_, _, _, _, -, -, -, -, -, -, rfl, rfl⟩ := create_eq hpath hcreate
  cases hold : s.lookup elsewhere with
  | some found =>
    obtain ⟨names, hlies, rfl⟩ := (h.lookup_iff helsewhere).1 hold
    exact (htree.lookup_iff helsewhere).2 ⟨names, hlies.append _, rfl⟩
  | none =>
    refine Option.eq_none_iff_forall_ne_some.2 fun found hfound => ?_
    by_cases hid : found = s.slots.size
    · -- the new one has one path only
      subst hid
      exact hne (htree.lookup_inj hpath helsewhere hnew hfound)
    · obtain ⟨names, hlies, rfl⟩ := (htree.lookup_iff helsewhere).1 hfound
      rw [(h.lookup_iff helsewhere).2 ⟨names, hlies.of_append h hid, rfl⟩] at hold
      cases hold

theorem LiesAt.of_remove (hremove : s.remove id = some s') {names : List String} (hlies : s'.LiesAt other names) :
    s.LiesAt other names ∧ other ≠ id := by
  obtain ⟨hroot, -, name, dir, hplace, rfl⟩ := remove_eq hremove
  induction hlies with
  | root => exact ⟨.root, hroot.symm⟩
  | child hthere hne _ ih =>
    rw [place?_removed hplace] at hthere
    split at hthere
    · cases hthere
    · next hother => exact ⟨.child hthere hne ih.1, hother⟩

/-- Nothing lies below what can be removed. -/
theorem LiesAt.remove (h : s.Tree) (hremove : s.remove id = some s') {names : List String}
    (hlies : s.LiesAt other names) (hother : other ≠ id) : s'.LiesAt other names := by
  obtain ⟨hroot, hempty, name, dir, hplace, rfl⟩ := remove_eq hremove
  induction hlies with
  | root => exact .root
  | child hthere hne _ ih =>
    obtain ⟨-, list, hlist, hmem⟩ := h.listed hthere hne
    refine .child ?_ hne (ih ?_)
    · rw [place?_removed hplace, if_neg hother]
      exact hthere
    · rintro rfl
      rw [hempty list hlist] at hmem
      cases hmem

/-- **Removing** moves nothing: its path leads nowhere, and all other paths lead where they led. -/
theorem Tree.lookup_remove (h : s.Tree) (hpath : Path.Normal path) (hremove : s.remove id = some s') :
    s'.lookup path = if s.lookup path = some id then none else s.lookup path := by
  have htree := h.remove hremove
  have hsame (found : Nat) : s'.lookup path = some found ↔ s.lookup path = some found ∧ found ≠ id := by
    rw [htree.lookup_iff hpath, h.lookup_iff hpath]
    constructor
    · rintro ⟨names, hlies, rfl⟩
      obtain ⟨hlies, hne⟩ := hlies.of_remove hremove
      exact ⟨⟨names, hlies, rfl⟩, hne⟩
    · rintro ⟨⟨names, hlies, rfl⟩, hne⟩
      exact ⟨names, hlies.remove h hremove hne, rfl⟩
  refine Option.ext fun found => ?_
  rw [hsame]
  split
  · next hid => simp [hid, eq_comm]
  · next hid => exact and_iff_left_of_imp fun hfound hsameId => hid (hsameId ▸ hfound)

end Store

/-! ## What stands at a path -/

/-- A file, with what it holds and the program that is bound to it, or a directory. -/
inductive Standing
  | file (id : Nat) (content : Bytes) (image : Option Program)
  | directory (id : Nat)

/-- The number of a file or directory. -/
def Standing.id : Standing → Nat
  | .file id _ _ => id
  | .directory id => id

/-- What stands under a number, if something does. -/
def standingAt (s : Sim) (id : Nat) : Standing :=
  match s.store.content? id with
  | some content => .file id content (s.images.lookup id)
  | none => .directory id

/-- What stands at a path in normal form. -/
def standing? (s : Sim) (path : String) : Option Standing :=
  (s.store.lookup path).map s.standingAt

section

variable {s s' : Sim} {id : Nat} {path : String} {content : Bytes} {children : List Nat}

@[simp] theorem id_standingAt (s : Sim) (id : Nat) : (s.standingAt id).id = id := by
  unfold standingAt
  split <;> rfl

theorem standingAt_file (h : s.store.content? id = some content) :
    s.standingAt id = .file id content (s.images.lookup id) := by
  rw [standingAt, h]

theorem standingAt_dir (h : s.store.children? id = some children) : s.standingAt id = .directory id := by
  rw [standingAt, Store.content?_of_children? h]

theorem standingAt_congr (hcontent : s'.store.content? id = s.store.content? id)
    (himage : s'.images.lookup id = s.images.lookup id) : s'.standingAt id = s.standingAt id := by
  rw [standingAt, standingAt, hcontent, himage]

theorem standing?_congr (hstore : s'.store = s.store) (himages : s'.images = s.images) (path : String) :
    s'.standing? path = s.standing? path := by
  have hsame : s'.standingAt = s.standingAt := funext fun id => by rw [standingAt, standingAt, hstore, himages]
  rw [standing?, standing?, hstore, hsame]

theorem standing?_of_lookup (h : s.lookup path = some id) :
    s.standing? (Path.absolute s.cwd path) = some (s.standingAt id) := by
  rw [standing?, ← lookup, h, Option.map_some]

theorem standing?_file (h : s.lookup path = some id) (hfile : s.store.content? id = some content) :
    s.standing? (Path.absolute s.cwd path) = some (.file id content (s.images.lookup id)) := by
  rw [standing?_of_lookup h, standingAt_file hfile]

theorem standing?_dir (h : s.lookup path = some id) (hdir : s.store.children? id = some children) :
    s.standing? (Path.absolute s.cwd path) = some (.directory id) := by
  rw [standing?_of_lookup h, standingAt_dir hdir]

/-- The number of what stands at a path is what looking it up finds. -/
theorem map_id_standing? (s : Sim) (path : String) : (s.standing? path).map Standing.id = s.store.lookup path := by
  rw [standing?, Option.map_map]
  cases s.store.lookup path with
  | none => rfl
  | some id => simp

end

namespace Intact

variable {s s' : Sim} {id : Nat}

/-- A program is bound to a file. -/
theorem content?_of_bound (h : s.Intact) {program : Program} (hbound : s.images.lookup id = some program) :
    ∃ content, s.store.content? id = some content := by
  obtain ⟨before, after, happ, -⟩ := List.lookup_eq_some_iff.1 hbound
  exact h.images (id, program) (by simp [happ])

/-- What is there has a descriptor, if there is one for each slot. -/
theorem ofFileId?_of_lookup (h : s.Intact) (hslots : s.store.slots.size + Fd.reserved < Fd.limit) {path : String}
    (hlookup : s.lookup path = some id) : Fd.ofFileId? id = some ⟨Int32.ofNat (id + Fd.reserved)⟩ := by
  obtain ⟨place, hplace⟩ := h.place?_of_lookup hlookup
  have hlt := Store.lt_size_of_place? hplace
  exact if_pos (by omega)

/-- What is there is a file or a directory. -/
theorem file_or_dir (h : s.Intact) {path : String} (hlookup : s.lookup path = some id) :
    (∃ content, s.store.content? id = some content) ∨ ∃ children, s.store.children? id = some children := by
  obtain ⟨place, hplace⟩ := h.place?_of_lookup hlookup
  obtain ⟨⟨name, parent, content | children⟩, hget, -⟩ := Option.map_eq_some_iff.1 hplace
  · exact .inl ⟨content, by rw [Store.content?, hget]⟩
  · exact .inr ⟨children, by rw [Store.children?, hget]⟩

end Intact

/-! ## All there is -/

namespace Store

variable {s s' : Store} {id dir : Nat} {name : String} {children children' : List Nat}

/-- Paths tell where everything lies. -/
theorem Tree.liesAt_of_lookup (h : s.Tree) (h' : s'.Tree)
    (hlookup : ∀ path, Path.Normal path → s'.lookup path = s.lookup path) {names : List String}
    (hlies : s.LiesAt id names) : s'.LiesAt id names := by
  have hnames := h.isName_of_liesAt hlies
  have hnormal : Path.Normal (Path.ofNames names) := ⟨names, hnames, rfl⟩
  have hfound := (h.lookup_iff hnormal).2 ⟨names, hlies, rfl⟩
  rw [← hlookup _ hnormal] at hfound
  obtain ⟨names', hlies', heq⟩ := (h'.lookup_iff hnormal).1 hfound
  rwa [Path.ofNames_injective hnames (h'.isName_of_liesAt hlies') heq]

/-- Paths tell names and directories. -/
theorem Tree.place?_of_lookup (h : s.Tree) (h' : s'.Tree)
    (hlookup : ∀ path, Path.Normal path → s'.lookup path = s.lookup path) (hplace : s.place? id = some (name, dir))
    (hne : id ≠ root) : s'.place? id = some (name, dir) := by
  obtain ⟨all, hlies⟩ := h.exists_liesAt id hplace
  cases hlies with
  | root => exact absurd rfl hne
  | @child _ _ _ names hthere _ hdir =>
    cases hplace.symm.trans hthere
    have hlies' := h.liesAt_of_lookup h' hlookup (.child hthere hne hdir)
    have hdir' := h.liesAt_of_lookup h' hlookup hdir
    generalize hall : names ++ [name] = all at hlies'
    cases hlies' with
    | root => exact absurd rfl hne
    | child hthere' _ hdir'' =>
      obtain ⟨rfl, hname⟩ := List.append_inj' hall rfl
      cases hname
      cases (h'.descend_iff.2 hdir').symm.trans (h'.descend_iff.2 hdir'')
      exact hthere'

/-- What is in a directory makes its list, which is in the order of the numbers. -/
theorem Tree.children?_ext (h : s.Tree) (h' : s'.Tree)
    (hplace : ∀ child, child ≠ root → s'.place? child = s.place? child) (hdir : s.children? id = some children)
    (hdir' : s'.children? id = some children') : children' = children := by
  have hmem (child : Nat) : child ∈ children' ↔ child ∈ children := by
    rw [h.mem_children_iff hdir, h'.mem_children_iff hdir']
    exact and_congr_right fun hne => by rw [hplace child hne]
  have hsorted := h.sorted hdir
  have hsorted' := h'.sorted hdir'
  have hperm : children'.Perm children :=
    (List.perm_ext_iff_of_nodup (hsorted'.imp Nat.ne_of_lt) (hsorted.imp Nat.ne_of_lt)).2 hmem
  exact hperm.eq_of_pairwise (fun _ _ _ _ hlt hlt' => absurd hlt (Nat.lt_asymm hlt')) hsorted' hsorted

end Store

namespace Intact

variable {s s' : Sim} {id : Nat}

/-- Nothing stands under a number without a name: no bytes, no list, no program. -/
theorem nothing_of_place? (h : s.Intact) (hplace : s.store.place? id = none) :
    s.store.children? id = none ∧ s.store.content? id = none ∧ s.images.lookup id = none := by
  have hget := Store.get?_eq_none_iff.2 hplace
  have hcontent : s.store.content? id = none := by rw [Store.content?, hget]
  refine ⟨by rw [Store.children?, hget], hcontent, ?_⟩
  rw [Option.eq_none_iff_forall_ne_some]
  intro program hbound
  obtain ⟨content, hfile⟩ := h.content?_of_bound hbound
  rw [hcontent] at hfile
  cases hfile

/-- No program is bound to a directory. -/
theorem lookup_image_dir (h : s.Intact) {children : List Nat} (hdir : s.store.children? id = some children) :
    s.images.lookup id = none := by
  rw [Option.eq_none_iff_forall_ne_some]
  intro program hbound
  obtain ⟨content, hfile⟩ := h.content?_of_bound hbound
  rw [Store.content?_of_children? hdir] at hfile
  cases hfile

/-- **What stands at the paths is all there is**: two states in which the same stands at each path have the same files and
directories, under the same numbers and names, in the same order, with the same bytes and programs. Only the root has no
name to be told by. -/
theorem files_eq (h : s.Intact) (h' : s'.Intact)
    (hsame : ∀ path, Path.Normal path → s'.standing? path = s.standing? path) (id : Nat) :
    (id ≠ Store.root → s'.store.place? id = s.store.place? id) ∧ s'.store.children? id = s.store.children? id ∧
      s'.store.content? id = s.store.content? id ∧ s'.images.lookup id = s.images.lookup id := by
  have hlookup (path : String) (hpath : Path.Normal path) : s'.store.lookup path = s.store.lookup path := by
    rw [← map_id_standing?, ← map_id_standing?, hsame path hpath]
  have hplace (id : Nat) (hne : id ≠ Store.root) : s'.store.place? id = s.store.place? id := by
    refine Option.ext fun place => ⟨fun hplace => ?_, fun hplace => ?_⟩
    · exact h'.tree.place?_of_lookup h.tree (fun path hpath => (hlookup path hpath).symm) hplace hne
    · exact h.tree.place?_of_lookup h'.tree hlookup hplace hne
  refine ⟨hplace id, ?_⟩
  cases hthere : s.store.place? id with
  | none =>
    have hne : id ≠ Store.root := by
      rintro rfl
      obtain ⟨children, hroot⟩ := Option.isSome_iff_exists.1 h.tree.root_dir
      rw [(h.nothing_of_place? hthere).1] at hroot
      cases hroot
    obtain ⟨hchildren, hcontent, himage⟩ := h.nothing_of_place? hthere
    obtain ⟨hchildren', hcontent', himage'⟩ := h'.nothing_of_place? ((hplace id hne).trans hthere)
    exact ⟨hchildren'.trans hchildren.symm, hcontent'.trans hcontent.symm, himage'.trans himage.symm⟩
  | some place =>
    obtain ⟨path, hpath, -⟩ := h.tree.existsUnique_path hthere
    have hnormal := h.tree.normal_of_isPath hpath
    have hfound := (h.tree.lookup_iff hnormal).2 hpath
    have hfound' := (hlookup path hnormal).trans hfound
    have hstands := hsame path hnormal
    rw [standing?, standing?, hfound, hfound', Option.map_some, Option.map_some, Option.some_inj] at hstands
    have hlook (s : Sim) : s.lookup path = s.store.lookup path := by rw [lookup, hnormal.absolute_eq]
    rcases h.file_or_dir ((hlook s).trans hfound) with ⟨content, hfile⟩ | ⟨children, hdir⟩ <;>
    rcases h'.file_or_dir ((hlook s').trans hfound') with ⟨content', hfile'⟩ | ⟨children', hdir'⟩
    · rw [standingAt_file hfile, standingAt_file hfile'] at hstands
      injection hstands with _ hcontent himage
      exact ⟨by rw [Store.children?_of_content? hfile, Store.children?_of_content? hfile'],
        by rw [hfile, hfile', hcontent], himage⟩
    · rw [standingAt_file hfile, standingAt_dir hdir'] at hstands
      cases hstands
    · rw [standingAt_dir hdir, standingAt_file hfile'] at hstands
      cases hstands
    · refine ⟨?_, ?_, ?_⟩
      · rw [hdir, hdir', h.tree.children?_ext h'.tree hplace hdir hdir']
      · rw [Store.content?_of_children? hdir, Store.content?_of_children? hdir']
      · rw [h.lookup_image_dir hdir, h'.lookup_image_dir hdir']

end Intact

/-! ## Changes -/

/-- This stands at one path afterwards, and what stood there at every other path. -/
structure Changed (s s' : Sim) (path : String) (now : Option Standing) : Prop where
  here : s'.standing? path = now
  elsewhere : ∀ other, Path.Normal other → other ≠ path → s'.standing? other = s.standing? other

namespace Changed

variable {s s' : Sim} {id : Nat} {path : String} {store : Store}

/-- **Creating** adds something empty, to which no program is bound. -/
theorem of_create (h : s.Intact) (hpath : Path.Normal path) {directory : Bool}
    (hcreate : s.store.create path directory = some (id, store)) (hstore : s'.store = store)
    (himages : s'.images = s.images) :
    s.standing? path = none ∧ s.Changed s' path (some (if directory then .directory id else .file id [] none)) ∧
      (directory = true → s'.store.children? id = some []) := by
  have hfree := Store.lookup_of_create hpath hcreate
  have hhere := h.tree.lookup_create hpath hcreate
  have helsewhere {other : String} (hother : Path.Normal other) (hne : other ≠ path) :=
    h.tree.lookup_create_ne hpath hcreate hother hne
  obtain ⟨_, name, dir, children, -, -, -, -, -, hdir, rfl, rfl⟩ := Store.create_eq hpath hcreate
  have himage : s.images.lookup s.store.slots.size = none := by
    rw [Option.eq_none_iff_forall_ne_some]
    intro program hbound
    obtain ⟨content, hcontent⟩ := h.content?_of_bound hbound
    obtain ⟨_, _, hget⟩ := Store.get?_of_content? hcontent
    exact Nat.lt_irrefl _ (Store.lt_size_of_get? hget)
  let made : Inode := ⟨name, dir, if directory then .dir [] else .file []⟩
  have hchildren : (s.store.append made).children? s.store.slots.size = made.data.listing? :=
    (Store.children?_append hdir _).trans (if_pos rfl)
  refine ⟨by rw [standing?, hfree]; rfl, ⟨?_, fun other hother hne => ?_⟩, ?_⟩
  · rw [standing?, hstore, hhere, Option.map_some]
    cases directory with
    | false =>
      have hcontent : s'.store.content? s.store.slots.size = some [] := by
        rw [hstore]
        exact Store.content?_append_new hdir name
      rw [standingAt_file hcontent, himages, himage]
      rfl
    | true => rw [standingAt_dir (hstore ▸ hchildren), if_pos rfl]
  · rw [standing?, standing?, hstore, helsewhere hother hne]
    cases hfound : s.store.lookup other with
    | none => rfl
    | some found =>
      obtain ⟨place, hplace⟩ := h.tree.place?_of_isPath ((h.tree.lookup_iff hother).1 hfound)
      have hlt := Store.lt_size_of_place? hplace
      refine congrArg some (standingAt_congr ?_ (by rw [himages]))
      rw [hstore]
      exact Store.content?_append_ne hdir (Nat.ne_of_lt hlt)
  · rintro rfl
    rw [hstore]
    exact hchildren

/-- **Removing** takes away what stands at the path, with the program that is bound to it. -/
theorem of_remove (h : s.Intact) (hpath : Path.Normal path) (hlookup : s.store.lookup path = some id)
    (hremove : s.store.remove id = some store) (hstore : s'.store = store)
    (himages : s'.images = s.images.filter (·.1 != id)) : s.Changed s' path none := by
  refine ⟨?_, fun other hother hne => ?_⟩
  · rw [standing?, hstore, h.tree.lookup_remove hpath hremove, if_pos hlookup]
    rfl
  · have hapart : s.store.lookup other ≠ some id := fun hsame =>
      hne (h.tree.lookup_inj hpath hother hlookup hsame)
    rw [standing?, standing?, hstore, h.tree.lookup_remove hother hremove, if_neg hapart]
    cases hfound : s.store.lookup other with
    | none => rfl
    | some found =>
      have hid : found ≠ id := fun heq => hapart (heq ▸ hfound)
      refine congrArg some (standingAt_congr ?_ ?_)
      · rw [hstore, Store.content?_remove_ne h.tree hremove hid]
      · rw [himages, lookup_filter_ne, if_neg hid]

/-- **Rewriting** gives the file at the path other bytes. -/
theorem of_setFile {old : Bytes} (h : s.Intact) (hpath : Path.Normal path) (hlookup : s.store.lookup path = some id)
    (hold : s.store.content? id = some old) (new : Bytes) (hstore : s'.store = s.store.setData id (.file new))
    (himages : s'.images = s.images) : s.Changed s' path (some (.file id new (s.images.lookup id))) := by
  refine ⟨?_, fun other hother hne => ?_⟩
  · have hnew : s'.store.content? id = some new := by rw [hstore, Store.content?_setData hold]
    rw [standing?, hstore, Store.lookup_setFile hold, hlookup, Option.map_some, standingAt_file hnew, himages]
  · rw [standing?, standing?, hstore, Store.lookup_setFile hold]
    cases hfound : s.store.lookup other with
    | none => rfl
    | some found =>
      have hid : found ≠ id := fun heq => hne (h.tree.lookup_inj hpath hother hlookup (heq ▸ hfound))
      refine congrArg some (standingAt_congr ?_ (by rw [himages]))
      rw [hstore, Store.content?_setData_ne hold new hid]

end Changed

end LineShell.Sim
