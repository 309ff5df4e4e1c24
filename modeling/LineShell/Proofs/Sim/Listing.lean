import LineShell.Proofs.DirEntry
import LineShell.Proofs.Sim.Reachable

/-!
# Directory listings

The list of a directory holds the handles of its children in the order of their creation, each once. It shows a name up to
its first NUL, so an entry leads back to its child through the path of the directory exactly if the name has none
(`Sim.Reachable.listing`): a name with a NUL can be created, but the field of an entry, which is filled up with NUL, cannot
hold it.
-/

namespace LineShell.Sim

namespace Store

variable {s : Store} {id dir : Nat} {children : List Nat}

theorem get?_of_children? (h : s.children? dir = some children) :
    ∃ name parent, s.get? dir = some ⟨name, parent, .dir children⟩ := by
  rw [children?_eq] at h
  obtain ⟨⟨name, parent, content | children⟩, hget, hlisting⟩ := Option.bind_eq_some_iff.1 h
  · cases hlisting
  · cases hlisting
    exact ⟨name, parent, hget⟩

/-- A directory lists what is in it. -/
theorem Tree.mem_children_iff (h : s.Tree) (hdir : s.children? dir = some children) :
    id ∈ children ↔ id ≠ root ∧ ∃ name, s.place? id = some (name, dir) := by
  constructor
  · exact h.child hdir
  · rintro ⟨hne, name, hplace⟩
    obtain ⟨-, list, hlist, hmem⟩ := h.listed hplace hne
    rw [hdir] at hlist
    cases hlist
    exact hmem

theorem stat?_dir (h : s.children? dir = some children) : s.stat? dir = some ⟨children.length, true⟩ := by
  obtain ⟨name, parent, hget⟩ := get?_of_children? h
  rw [stat?, hget]
  rfl

/-- The entry of a child shows its name and has its handle. -/
theorem entry?_eq (h : s.children? dir = some children) {offset : Nat} (hchild : children[offset]? = some id)
    {name : String} {parent : Nat} (hplace : s.place? id = some (name, parent)) {fd : Fd}
    (hfd : Fd.ofFileId? id = some fd) : s.entry? dir offset = some (.ofName name fd) := by
  obtain ⟨inode, hget, heq⟩ := Option.map_eq_some_iff.1 hplace
  cases heq
  simp only [h, hchild, hget, hfd, entry?]

theorem entry?_none (h : s.children? dir = some children) {offset : Nat} (hoffset : children.length ≤ offset) :
    s.entry? dir offset = none := by
  simp only [h, List.getElem?_eq_none hoffset, entry?]

end Store

/-! ## Handles -/

/-- A handle is answered for the file that it is the handle of, and for no other. -/
theorem elim_descriptorReply_eq_iff {found : Option Nat} {id : Nat} {fd : Fd} (hfd : Fd.ofFileId? id = some fd) :
    found.elim Reply.refused descriptorReply = ⟨fd.raw.toInt64, .nothing⟩ ↔ found = some id := by
  have hword {id : Nat} {fd : Fd} (hfd : Fd.ofFileId? id = some fd) :
      fd.raw.toInt64.toInt = (id + Fd.reserved : Nat) := by
    rw [Int32.toInt_toInt64, (Fd.toInt_ofFileId? hfd).1]
  have hrefused : Reply.refused ≠ ⟨fd.raw.toInt64, .nothing⟩ := by
    intro heq
    have hminus : (-1 : Int64).toInt = fd.raw.toInt64.toInt := congrArg (fun reply => reply.word.toInt) heq
    rw [hword hfd] at hminus
    exact absurd hminus (by simp; omega)
  constructor
  · cases found with
    | none => exact fun heq => absurd heq hrefused
    | some other =>
      intro heq
      rw [Option.elim_some, descriptorReply] at heq
      split at heq
      · next fd' hfd' =>
        have hsame : fd'.raw.toInt64.toInt = fd.raw.toInt64.toInt := congrArg (fun reply => reply.word.toInt) heq
        rw [hword hfd, hword hfd'] at hsame
        congr 1
        omega
      · exact absurd heq hrefused
  · rintro rfl
    rw [Option.elim_some, descriptorReply, hfd]

variable {s : Sim} {id dir : Nat} {children : List Nat} {path name : String} {fd : Fd}

theorem handle?_of_children? (hdir : s.store.children? dir = some children) (hfd : Fd.ofFileId? dir = some fd) :
    s.handle? fd = some dir := by
  obtain ⟨_, _, hget⟩ := Store.get?_of_children? hdir
  rw [handle?, Fd.fileId?_ofFileId? hfd, Option.bind_some, hget]
  rfl

/-- **A text without a slash**, behind the path of a directory, leads to a child if it is its name. -/
theorem Intact.lookup_child_iff (h : s.Intact) (hpath : s.store.IsPath dir path)
    (hplace : s.store.place? id = some (name, dir)) (hne : id ≠ Store.root) {text : String}
    (htext : '/' ∉ text.toList) : s.lookup (path ++ ("/" ++ text)) = some id ↔ text = name := by
  obtain ⟨names, hlies, rfl⟩ := hpath
  have hchild : s.store.LiesAt id (names ++ [name]) := .child hplace hne hlies
  have hnames := h.tree.isName_of_liesAt hlies
  rw [lookup, Path.absolute, Store.lookup, Path.components_ofNames (Path.resolve_isName _ _), h.tree.descend_iff,
    ← Path.resolve_ofNames_slash_eq_iff hnames (h.tree.name hplace hne).1 htext s.cwd]
  constructor
  · exact fun hresolved => Store.Tree.liesAt_unique hresolved hchild
  · intro hresolved
    rwa [hresolved]

/-! ## Requests for a directory -/

theorem answers_fstat_dir (hdir : s.store.children? dir = some children) (hfd : Fd.ofFileId? dir = some fd) :
    s.Answers (.fstat fd) (.granted (.stat ⟨children.length, true⟩)) := by
  rw [answers_fstat, handle?_of_children? hdir hfd, Option.bind_some, Store.stat?_dir hdir]
  rfl

theorem answers_readDir_past (hdir : s.store.children? dir = some children) (hfd : Fd.ofFileId? dir = some fd)
    {offset : UInt64} (hoffset : children.length ≤ offset.toNat) : s.Answers (.readDir fd offset) .refused := by
  rw [answers_readDir, handle?_of_children? hdir hfd, Option.bind_some, Store.entry?_none hdir hoffset]
  rfl

theorem answers_readDir_child (hdir : s.store.children? dir = some children) (hfd : Fd.ofFileId? dir = some fd)
    {offset : UInt64} (hchild : children[offset.toNat]? = some id) (hplace : s.store.place? id = some (name, dir))
    {childFd : Fd} (hchildFd : Fd.ofFileId? id = some childFd) :
    s.Answers (.readDir fd offset) (.granted (.entry (.ofName name childFd))) := by
  rw [answers_readDir, handle?_of_children? hdir hfd, Option.bind_some, Store.entry?_eq hdir hchild hplace hchildFd]
  rfl

/-- The path of the directory, continued by the name that an entry shows, opens to what the entry is the handle of. -/
def Opens (s : Sim) (path : String) (entry : DirEntry) : Prop :=
  s.Answers (.openFile (path ++ "/" ++ entry.name)) ⟨entry.id.raw.toInt64, .nothing⟩

theorem opens_iff {entry : DirEntry} (hid : Fd.ofFileId? id = some entry.id) :
    s.Opens path entry ↔ s.lookup (path ++ "/" ++ entry.name) = some id := by
  rw [Opens, answers_openFile, elim_descriptorReply_eq_iff hid]

namespace Reachable

/-- Each child has an entry. -/
theorem answers_entry (h : s.Reachable) (hslots : s.store.slots.size + Fd.reserved < Fd.limit)
    (hdir : s.store.children? dir = some children) (hpath : s.store.IsPath dir path) (hfd : Fd.ofFileId? dir = some fd)
    {offset : UInt64} (hchild : children[offset.toNat]? = some id) :
    ∃ name entry, s.store.place? id = some (name, dir) ∧ s.Answers (.readDir fd offset) (.granted (.entry entry)) ∧
      Fd.ofFileId? id = some entry.id ∧ entry.name = Text.beforeNul name ∧
      (s.Opens path entry ↔ '\x00' ∉ name.toList) := by
  have htree := h.intact.tree
  obtain ⟨hne, name, hplace⟩ := htree.child hdir (List.mem_of_getElem? hchild)
  obtain ⟨hname, hsize⟩ := htree.name hplace hne
  have hlt := Store.lt_size_of_place? hplace
  have hchildFd : Fd.ofFileId? id = some ⟨Int32.ofNat (id + Fd.reserved)⟩ := if_pos (by omega)
  have hshown := DirEntry.name_ofName hsize ⟨Int32.ofNat (id + Fd.reserved)⟩
  have hslash : '/' ∉ (Text.beforeNul name).toList := fun hmem => hname.no_slash (Text.mem_of_mem_beforeNul hmem)
  refine ⟨name, _, hplace, answers_readDir_child hdir hfd hchild hplace hchildFd, hchildFd, hshown,
    (opens_iff hchildFd).trans ?_⟩
  rw [hshown, String.append_assoc, h.intact.lookup_child_iff hpath hplace hne hslash, Text.beforeNul_eq_self_iff]

/-- Each entry is that of a child. -/
theorem child_of_answers (h : s.Reachable) (hslots : s.store.slots.size + Fd.reserved < Fd.limit)
    (hdir : s.store.children? dir = some children) (hpath : s.store.IsPath dir path) (hfd : Fd.ofFileId? dir = some fd)
    {offset : UInt64} {entry : DirEntry} (hread : s.Answers (.readDir fd offset) (.granted (.entry entry))) :
    ∃ id, children[offset.toNat]? = some id ∧ Fd.ofFileId? id = some entry.id := by
  cases hchild : children[offset.toNat]? with
  | none =>
    have hpast := answers_readDir_past hdir hfd (List.getElem?_eq_none_iff.1 hchild)
    cases (answers_iff hpast).1 hread
  | some id =>
    obtain ⟨_, _, -, hanswer, hid, -⟩ := h.answers_entry hslots hdir hpath hfd hchild
    cases (answers_iff hanswer).1 hread
    exact ⟨id, rfl, hid⟩

/-- **A listing**: the size of a directory is the number of its children, which are what is in it, in the order of their
creation; exactly the offsets below the size have an entry, that of the child at that place; the entry has the handle of
the child and shows its name up to the first NUL. So the path of the directory, continued by what the entry shows, opens
to the child exactly if its name has no NUL, and two entries that open like that never show the same name. -/
theorem listing (h : s.Reachable) (hslots : s.store.slots.size + Fd.reserved < Fd.limit)
    (hdir : s.store.children? dir = some children) (hpath : s.store.IsPath dir path)
    (hfd : Fd.ofFileId? dir = some fd) :
    s.Answers (.fstat fd) (.granted (.stat ⟨children.length, true⟩)) ∧
    (∀ id, id ∈ children ↔ id ≠ Store.root ∧ ∃ name, s.store.place? id = some (name, dir)) ∧
    children.Pairwise (· < ·) ∧
    (∀ path directory new store, s.store.create (Path.absolute s.cwd path) directory = some (new, store) →
      ∀ id ∈ children, id < new) ∧
    (∀ offset, children.length ≤ offset.toNat → s.Answers (.readDir fd offset) .refused) ∧
    (∀ offset id, children[offset.toNat]? = some id → ∃ name entry, s.store.place? id = some (name, dir) ∧
      s.Answers (.readDir fd offset) (.granted (.entry entry)) ∧ Fd.ofFileId? id = some entry.id ∧
      entry.name = Text.beforeNul name ∧ (s.Opens path entry ↔ '\x00' ∉ name.toList)) ∧
    ∀ offset other entry entry', s.Answers (.readDir fd offset) (.granted (.entry entry)) →
      s.Answers (.readDir fd other) (.granted (.entry entry')) → s.Opens path entry → s.Opens path entry' →
        entry.name = entry'.name → offset = other := by
  have htree := h.intact.tree
  have hsorted := htree.sorted hdir
  refine ⟨answers_fstat_dir hdir hfd, fun id => htree.mem_children_iff hdir, hsorted,
    fun path directory new store hcreate id hmem => ?_, fun offset => answers_readDir_past hdir hfd,
    fun offset id => h.answers_entry hslots hdir hpath hfd,
    fun offset other entry entry' hread hread' hopens hopens' hsame => ?_⟩
  · obtain ⟨_, _, _, _, -, -, -, -, -, -, rfl, -⟩ := Store.create_eq (Path.absolute_normal _ _) hcreate
    obtain ⟨-, name, hplace⟩ := htree.child hdir hmem
    exact Store.lt_size_of_place? hplace
  · obtain ⟨id, hat, hid⟩ := h.child_of_answers hslots hdir hpath hfd hread
    obtain ⟨id', hat', hid'⟩ := h.child_of_answers hslots hdir hpath hfd hread'
    -- the name leads to both children, so it is one child
    have hlookup := (opens_iff hid).1 hopens
    rw [hsame, (opens_iff hid').1 hopens'] at hlookup
    cases hlookup
    obtain ⟨hlt, -⟩ := List.getElem?_eq_some_iff.1 hat
    have hnodup : children.Nodup := hsorted.imp Nat.ne_of_lt
    exact UInt64.toNat_inj.1 ((List.getElem?_inj hlt hnodup).1 (hat.trans hat'.symm))

/-- Two files whose names go on behind a NUL: both entries show the same name, which opens to neither. -/
theorem listing_nul :
    let s := (((Sim.empty (.script [])).create "/a\x00b" false).2.create "/a\x00c" false).2
    s.store.slots.size + Fd.reserved < Fd.limit ∧ s.store.children? Store.root = some [1, 2] ∧
      s.store.IsPath Store.root "/" ∧ Fd.ofFileId? Store.root = some ⟨3⟩ ∧
      ∃ entry entry', s.Answers (.readDir ⟨3⟩ 0) (.granted (.entry entry)) ∧
        s.Answers (.readDir ⟨3⟩ 1) (.granted (.entry entry')) ∧ entry.name = "a" ∧ entry'.name = "a" ∧
        entry.id ≠ entry'.id ∧ ¬ s.Opens "/" entry ∧ ¬ s.Opens "/" entry' := by
  intro s
  have hreachable : s.Reachable := ((Reachable.empty _).created _ _).created _ _
  have hslots : s.store.slots.size + Fd.reserved < Fd.limit := by decide +kernel
  have hdir : s.store.children? Store.root = some [1, 2] := by decide +kernel
  have hpath : s.store.IsPath Store.root "/" := ⟨[], .root, rfl⟩
  have hfd : Fd.ofFileId? Store.root = some ⟨3⟩ := by decide
  obtain ⟨-, -, -, -, -, hentries, -⟩ := hreachable.listing hslots hdir hpath hfd
  obtain ⟨name, entry, hplace, hread, hid, hname, hopens⟩ := hentries 0 1 rfl
  obtain ⟨name', entry', hplace', hread', hid', hname', hopens'⟩ := hentries 1 2 rfl
  have hfirst : s.store.place? 1 = some ("a\x00b", Store.root) := by decide +kernel
  have hsecond : s.store.place? 2 = some ("a\x00c", Store.root) := by decide +kernel
  cases hfirst.symm.trans hplace
  cases hsecond.symm.trans hplace'
  refine ⟨hslots, hdir, hpath, hfd, entry, entry', hread, hread', hname.trans (by decide +kernel),
    hname'.trans (by decide +kernel), fun hsame => ?_, fun hopen => ?_, fun hopen => ?_⟩
  · rw [hsame, ← hid'] at hid
    exact absurd hid (by decide)
  · exact absurd (hopens.1 hopen) (by decide +kernel)
  · exact absurd (hopens'.1 hopen) (by decide +kernel)

end Reachable

end LineShell.Sim
