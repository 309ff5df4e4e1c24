import LineShell.Proofs.Sim.Creation
import LineShell.Proofs.Sim.Files
import Mathlib.Logic.ExistsUnique

/-!
# Files form a tree

Every file and directory but the root is listed once, by the directory that it knows as its parent and that is older than
it (`Store.Tree`). Creating and removing keep that, and so does giving a file other bytes.

- `Store.place?`: name and parent of what stands in a slot, which only creating and removing it changes;
- `Store.LiesAt`: the names on the way from the root, by the parents alone;
- `Store.Tree.lookup_iff`: looking up a path goes that way, so every file has exactly one path
  (`Store.Tree.existsUnique_path`).
-/

namespace LineShell.Sim

/-- What a directory lists; a file lists nothing. -/
def Data.listing? : Data → Option (List Nat)
  | .file _ => none
  | .dir children => some children

namespace Store

variable {s s' : Store} {id dir : Nat} {name : String} {children : List Nat}

/-! ## Slots -/

/-- The name of a file or directory, and the number of the directory that it is in. -/
def place? (s : Store) (id : Nat) : Option (String × Nat) :=
  (s.get? id).map fun inode => (inode.name, inode.parent)

theorem children?_eq (s : Store) (id : Nat) : s.children? id = (s.get? id).bind fun inode => inode.data.listing? := by
  unfold children?
  split
  · next h => rw [h]; rfl
  · next h =>
    cases hget : s.get? id with
    | none => rfl
    | some inode =>
      obtain ⟨name, parent, content | children⟩ := inode
      · rfl
      · exact absurd hget (h _ _ _)

theorem lt_size_of_place? {place : String × Nat} (h : s.place? id = some place) : id < s.slots.size := by
  obtain ⟨inode, hget, -⟩ := Option.map_eq_some_iff.1 h
  exact lt_size_of_get? hget

/-- A directory stands in a slot. -/
theorem place?_of_children? (h : s.children? dir = some children) : ∃ place, s.place? dir = some place := by
  rw [children?_eq] at h
  obtain ⟨inode, hget, -⟩ := Option.bind_eq_some_iff.1 h
  exact ⟨_, by rw [place?, hget]; rfl⟩

theorem lt_size_of_children? (h : s.children? dir = some children) : dir < s.slots.size := by
  obtain ⟨place, hplace⟩ := place?_of_children? h
  exact lt_size_of_place? hplace

theorem get?_set (h : id < s.slots.size) (slot : Option Inode) (other : Nat) :
    (⟨s.slots.setIfInBounds id slot⟩ : Store).get? other = if other = id then slot else s.get? other := by
  by_cases hother : other = id
  · subst hother
    simp [get?, h]
  · simp [get?, hother, Array.getElem?_setIfInBounds_ne (Ne.symm hother)]

theorem get?_push (s : Store) (slot : Option Inode) (other : Nat) :
    (⟨s.slots.push slot⟩ : Store).get? other = if other = s.slots.size then slot else s.get? other := by
  unfold get?
  rw [Array.getElem?_push]
  split <;> rfl

/-! ## Other data -/

/-- Names and parents stay. -/
theorem place?_setData (s : Store) (id : Nat) (data : Data) (other : Nat) :
    (s.setData id data).place? other = s.place? other := by
  cases hget : s.get? id with
  | none => rw [setData, hget]
  | some inode =>
    rw [place?, place?, get?_setData hget]
    split
    · next h => rw [h, hget]; rfl
    · rfl

theorem children?_setData {place : String × Nat} (h : s.place? id = some place) (data : Data) (other : Nat) :
    (s.setData id data).children? other = if other = id then data.listing? else s.children? other := by
  obtain ⟨inode, hget, -⟩ := Option.map_eq_some_iff.1 h
  rw [children?_eq, children?_eq, get?_setData hget]
  split <;> rfl

/-- A file with other bytes lists as little as before. -/
theorem children?_setFile {content : Bytes} (h : s.content? id = some content) (new : Bytes) (other : Nat) :
    (s.setData id (.file new)).children? other = s.children? other := by
  obtain ⟨name, parent, hget⟩ := get?_of_content? h
  rw [children?_eq, children?_eq, get?_setData hget]
  split
  · next h => rw [h, hget]; rfl
  · rfl

/-! ## Appending -/

theorem place?_append (s : Store) (inode : Inode) (other : Nat) :
    (s.append inode).place? other = if other = s.slots.size then some (inode.name, inode.parent) else s.place? other := by
  have hpush (grown : Store) (hgrown : ∀ other, grown.place? other =
      (⟨s.slots.push (some inode)⟩ : Store).place? other) :
      grown.place? other = if other = s.slots.size then some (inode.name, inode.parent) else s.place? other := by
    rw [hgrown, place?, place?, get?_push]
    split <;> rfl
  unfold append
  dsimp only
  split
  · exact hpush _ (place?_setData _ _ _)
  · exact hpush _ fun _ => rfl

theorem children?_append {inode : Inode} (h : s.children? inode.parent = some children) (other : Nat) :
    (s.append inode).children? other =
      if other = s.slots.size then inode.data.listing?
      else if other = inode.parent then some (children ++ [s.slots.size]) else s.children? other := by
  have hlt := lt_size_of_children? h
  obtain ⟨place, hplace⟩ := place?_of_children? h
  have hparent : (⟨s.slots.push (some inode)⟩ : Store).place? inode.parent = some place := by
    rw [place?, get?_push, if_neg (Nat.ne_of_lt hlt)]
    exact hplace
  have hpush : (⟨s.slots.push (some inode)⟩ : Store).children? other =
      if other = s.slots.size then inode.data.listing? else s.children? other := by
    rw [children?_eq, children?_eq, get?_push]
    split <;> rfl
  rw [append, h, children?_setData hparent, hpush]
  by_cases hnew : other = s.slots.size
  · rw [if_pos hnew, if_neg (by omega), if_pos hnew]
  · rw [if_neg hnew, if_neg hnew]
    rfl

theorem place?_append_of_place? {inode : Inode} {place : String × Nat} (h : s.place? id = some place) :
    (s.append inode).place? id = some place := by
  rw [place?_append, if_neg (Nat.ne_of_lt (lt_size_of_place? h))]
  exact h

theorem place?_append_cases {inode : Inode} (h : (s.append inode).place? id = some (name, dir)) :
    (id = s.slots.size ∧ name = inode.name ∧ dir = inode.parent) ∨ s.place? id = some (name, dir) := by
  rw [place?_append] at h
  split at h
  · next hid =>
    cases h
    exact .inl ⟨hid, rfl, rfl⟩
  · exact .inr h

/-- A directory lists what it listed, and the parent of the new file lists that too. -/
theorem children?_append_of_children? {inode : Inode} {old : List Nat}
    (hparent : s.children? inode.parent = some children) (h : s.children? dir = some old) :
    ∃ list, (s.append inode).children? dir = some list ∧ old ⊆ list ∧
      (dir = inode.parent → s.slots.size ∈ list) := by
  rw [children?_append hparent, if_neg (Nat.ne_of_lt (lt_size_of_children? h))]
  split
  · next hdir =>
    rw [hdir, hparent] at h
    cases h
    exact ⟨_, rfl, fun _ => List.mem_append_left _, fun _ => by simp⟩
  · next hdir => exact ⟨old, h, fun _ hmem => hmem, fun heq => absurd heq hdir⟩

theorem children?_append_cases {inode : Inode} {list : List Nat}
    (hparent : s.children? inode.parent = some children) (hdata : inode.data.listing?.getD [] = [])
    (h : (s.append inode).children? dir = some list) :
    list = [] ∨ (dir = inode.parent ∧ list = children ++ [s.slots.size]) ∨ s.children? dir = some list := by
  rw [children?_append hparent] at h
  split at h
  · rw [h] at hdata
    exact .inl hdata
  · split at h
    · next hdir =>
      cases h
      exact .inr (.inl ⟨hdir, rfl⟩)
    · exact .inr (.inr h)

/-! ## Removing -/

/-- The store in which a directory no longer lists a child. -/
def unlist (s : Store) (dir id : Nat) : Store :=
  match s.children? dir with
  | some children => s.setData dir (.dir (children.filter (· != id)))
  | none => s

theorem place?_unlist (s : Store) (dir id other : Nat) : (s.unlist dir id).place? other = s.place? other := by
  unfold unlist
  split
  · exact place?_setData _ _ _ _
  · rfl

theorem children?_unlist (s : Store) (dir id other : Nat) :
    (s.unlist dir id).children? other =
      if other = dir then (s.children? other).map (·.filter (· != id)) else s.children? other := by
  unfold unlist
  split
  · next children hchildren =>
    obtain ⟨place, hplace⟩ := place?_of_children? hchildren
    rw [children?_setData hplace]
    split
    · next h => rw [h, hchildren]; rfl
    · rfl
  · next hnone =>
    split
    · next h => rw [h, hnone]; rfl
    · rfl

/-- What can be removed: not the root, and nothing that lists something. It is no longer listed, and its slot is empty. -/
theorem remove_eq (h : s.remove id = some s') :
    id ≠ root ∧ (∀ children, s.children? id = some children → children = []) ∧
      ∃ name dir, s.place? id = some (name, dir) ∧ s' = ⟨(s.unlist dir id).slots.setIfInBounds id none⟩ := by
  unfold remove at h
  split at h
  · cases h
  · next hallowed =>
    simp only [Bool.or_eq_true, decide_eq_true_eq, not_or] at hallowed
    obtain ⟨hroot, hempty⟩ := hallowed
    refine ⟨hroot, fun children hchildren => ?_, ?_⟩
    · simpa [hchildren] using hempty
    · split at h
      · cases h
      · next inode hget =>
        cases h
        exact ⟨inode.name, inode.parent, by rw [place?, hget]; rfl, rfl⟩

section Removed

variable (h : s.place? id = some (name, dir))
include h

theorem get?_removed (other : Nat) :
    (⟨(s.unlist dir id).slots.setIfInBounds id none⟩ : Store).get? other =
      if other = id then none else (s.unlist dir id).get? other :=
  get?_set (lt_size_of_place? ((place?_unlist s dir id id).trans h)) none other

theorem place?_removed (other : Nat) :
    (⟨(s.unlist dir id).slots.setIfInBounds id none⟩ : Store).place? other =
      if other = id then none else s.place? other := by
  rw [← place?_unlist s dir id, place?, place?, get?_removed h]
  split <;> rfl

theorem children?_removed (other : Nat) :
    (⟨(s.unlist dir id).slots.setIfInBounds id none⟩ : Store).children? other =
      if other = id then none
      else if other = dir then (s.children? other).map (·.filter (· != id)) else s.children? other := by
  rw [← children?_unlist s dir id, children?_eq, children?_eq, get?_removed h]
  split <;> rfl

/-- What is listed afterwards was listed before, and is not what was removed. -/
theorem children?_removed_sub {list : List Nat} {other : Nat}
    (hlist : (⟨(s.unlist dir id).slots.setIfInBounds id none⟩ : Store).children? other = some list) :
    ∃ old, s.children? other = some old ∧ list.Sublist old ∧ (other = dir → id ∉ list) := by
  rw [children?_removed h] at hlist
  split at hlist
  · cases hlist
  · split at hlist
    · obtain ⟨old, hold, rfl⟩ := Option.map_eq_some_iff.1 hlist
      exact ⟨old, hold, List.filter_sublist, fun _ => by simp⟩
    · next hother => exact ⟨list, hlist, .refl _, fun heq => absurd heq hother⟩

end Removed

/-! ## Trees -/

/-- The files and directories form a tree below the root. -/
structure Tree (s : Store) : Prop where
  root_dir : (s.children? root).isSome
  /-- All others are in a directory that is older and lists them. -/
  listed : ∀ {id name dir}, s.place? id = some (name, dir) → id ≠ root →
    dir < id ∧ ∃ children, s.children? dir = some children ∧ id ∈ children
  /-- What a directory lists is there, and in that directory. -/
  child : ∀ {dir children id}, s.children? dir = some children → id ∈ children →
    id ≠ root ∧ ∃ name, s.place? id = some (name, dir)
  /-- A directory lists in the order of creation. -/
  sorted : ∀ {dir children}, s.children? dir = some children → children.Pairwise (· < ·)
  name : ∀ {id name dir}, s.place? id = some (name, dir) → id ≠ root →
    Path.IsName name ∧ Text.size name ≤ fileNameWidth
  /-- No two of a directory have the same name. -/
  siblings : ∀ {id id' name dir}, s.place? id = some (name, dir) → s.place? id' = some (name, dir) →
    id ≠ root → id' ≠ root → id = id'

theorem empty_tree : Tree empty := by
  have hplace (id : Nat) : empty.place? id = if id = root then some ("", root) else none := by
    cases id <;> rfl
  have hchildren (id : Nat) : empty.children? id = if id = root then some [] else none := by
    cases id <;> rfl
  refine ⟨rfl, fun h hne => ?_, fun h hmem => ?_, fun h => ?_, fun h hne => ?_, fun h _ hne => ?_⟩
  · simp [hplace, hne] at h
  · rw [hchildren] at h
    split at h
    · cases h
      cases hmem
    · cases h
  · rw [hchildren] at h
    split at h
    · cases h
      exact .nil
    · cases h
  · simp [hplace, hne] at h
  · simp [hplace, hne] at h

namespace Tree

/-- Names and lists are all that makes a tree. -/
theorem of_eq (h : s.Tree) (hplace : ∀ id, s'.place? id = s.place? id)
    (hchildren : ∀ dir, s'.children? dir = s.children? dir) : s'.Tree := by
  refine ⟨?_, fun hp hne => ?_, fun hc hmem => ?_, fun hc => ?_, fun hp => ?_, fun hp hp' => ?_⟩ <;>
    simp only [hplace, hchildren] at *
  · exact h.root_dir
  · exact h.listed hp hne
  · exact h.child hc hmem
  · exact h.sorted hc
  · exact h.name hp
  · exact h.siblings hp hp'

/-- **Another file gives a tree**, if its directory has no other of that name. -/
theorem append (h : s.Tree) {inode : Inode} (hdir : s.children? inode.parent = some children)
    (hdata : inode.data.listing?.getD [] = []) (hname : Path.IsName inode.name)
    (hsize : Text.size inode.name ≤ fileNameWidth)
    (hfresh : ∀ id, s.place? id = some (inode.name, inode.parent) → id = root) : (s.append inode).Tree := by
  have hlt := lt_size_of_children? hdir
  obtain ⟨rootChildren, hroot⟩ := Option.isSome_iff_exists.1 h.root_dir
  refine ⟨?_, fun {id name dir} hp hne => ?_, fun {dir list id} hc hmem => ?_, fun {dir list} hc => ?_,
    fun {id name dir} hp hne => ?_, fun {id id' name dir} hp hp' hne hne' => ?_⟩
  · obtain ⟨list, hlist, -⟩ := children?_append_of_children? hdir hroot
    rw [hlist]
    rfl
  · rcases place?_append_cases hp with ⟨rfl, rfl, rfl⟩ | hp
    · obtain ⟨list, hlist, -, hnew⟩ := children?_append_of_children? hdir hdir
      exact ⟨hlt, list, hlist, hnew rfl⟩
    · obtain ⟨hdirlt, old, hold, hmem⟩ := h.listed hp hne
      obtain ⟨list, hlist, hsub, -⟩ := children?_append_of_children? hdir hold
      exact ⟨hdirlt, list, hlist, hsub hmem⟩
  · rcases children?_append_cases hdir hdata hc with rfl | ⟨rfl, rfl⟩ | hold
    · cases hmem
    · rcases List.mem_append.1 hmem with hold | hnew
      · obtain ⟨hne, name, hplace⟩ := h.child hdir hold
        exact ⟨hne, name, place?_append_of_place? hplace⟩
      · obtain rfl := List.mem_singleton.1 hnew
        exact ⟨Nat.ne_of_gt (Nat.zero_lt_of_lt hlt), inode.name, by rw [place?_append, if_pos rfl]⟩
    · obtain ⟨hne, name, hplace⟩ := h.child hold hmem
      exact ⟨hne, name, place?_append_of_place? hplace⟩
  · rcases children?_append_cases hdir hdata hc with rfl | ⟨rfl, rfl⟩ | hold
    · exact .nil
    · refine List.pairwise_append.2 ⟨h.sorted hdir, List.pairwise_singleton _ _, fun old hold new hnew => ?_⟩
      rw [List.mem_singleton.1 hnew]
      obtain ⟨-, name, hplace⟩ := h.child hdir hold
      exact lt_size_of_place? hplace
    · exact h.sorted hold
  · rcases place?_append_cases hp with ⟨-, rfl, -⟩ | hp
    · exact ⟨hname, hsize⟩
    · exact h.name hp hne
  · rcases place?_append_cases hp with ⟨rfl, rfl, rfl⟩ | hp <;>
    rcases place?_append_cases hp' with ⟨hid, hsame, hsame'⟩ | hp'
    · exact hid.symm
    · exact absurd (hfresh id' hp') hne'
    · rw [hsame, hsame'] at hp
      exact absurd (hfresh id hp) hne
    · exact h.siblings hp hp' hne hne'

/-- **One file less gives a tree.** -/
theorem remove (h : s.Tree) (hremove : s.remove id = some s') : s'.Tree := by
  obtain ⟨hroot, hempty, gone, parent, hplace, rfl⟩ := remove_eq hremove
  obtain ⟨hparentlt, -⟩ := h.listed hplace hroot
  refine ⟨?_, fun {other name dir} hp hne => ?_, fun {dir list other} hc hmem => ?_, fun {dir list} hc => ?_,
    fun {other name dir} hp hne => ?_, fun {other other' name dir} hp hp' hne hne' => ?_⟩
  · rw [children?_removed hplace, if_neg (Ne.symm hroot)]
    split
    · rw [Option.isSome_map]
      exact h.root_dir
    · exact h.root_dir
  · rw [place?_removed hplace] at hp
    split at hp
    · cases hp
    · next hother =>
      obtain ⟨hlt, list, hlist, hmem⟩ := h.listed hp hne
      refine ⟨hlt, ?_⟩
      have hdir : dir ≠ id := by
        rintro rfl
        rw [hempty list hlist] at hmem
        cases hmem
      rw [children?_removed hplace, if_neg hdir, hlist]
      split
      · exact ⟨_, rfl, List.mem_filter.2 ⟨hmem, by simpa using hother⟩⟩
      · exact ⟨list, rfl, hmem⟩
  · obtain ⟨old, hold, hsub, hgone⟩ := children?_removed_sub hplace hc
    obtain ⟨hne, name, hother⟩ := h.child hold (hsub.subset hmem)
    refine ⟨hne, name, ?_⟩
    rw [place?_removed hplace, if_neg]
    · exact hother
    · rintro rfl
      rw [hplace] at hother
      cases hother
      exact hgone rfl hmem
  · obtain ⟨old, hold, hsub, -⟩ := children?_removed_sub hplace hc
    exact (h.sorted hold).sublist hsub
  · rw [place?_removed hplace] at hp
    split at hp
    · cases hp
    · exact h.name hp hne
  · rw [place?_removed hplace] at hp hp'
    split at hp
    · cases hp
    · split at hp'
      · cases hp'
      · exact h.siblings hp hp' hne hne'

theorem setFile (h : s.Tree) {content : Bytes} (hfile : s.content? id = some content) (new : Bytes) :
    (s.setData id (.file new)).Tree :=
  h.of_eq (place?_setData s id _) (children?_setFile hfile new)

/-- A file or directory is listed once, by the directory that it is in. -/
theorem count_listed (h : s.Tree) (hplace : s.place? id = some (name, dir)) (hne : id ≠ root) {other : Nat}
    (hlist : s.children? other = some children) : children.count id = if other = dir then 1 else 0 := by
  have hmem : id ∈ children ↔ other = dir := by
    constructor
    · intro hmem
      obtain ⟨-, found, hfound⟩ := h.child hlist hmem
      rw [hplace] at hfound
      cases hfound
      rfl
    · rintro rfl
      obtain ⟨-, list, hlisted, hmem⟩ := h.listed hplace hne
      rw [hlisted] at hlist
      cases hlist
      exact hmem
  have hnodup : children.Nodup := (h.sorted hlist).imp Nat.ne_of_lt
  simp only [hnodup.count, hmem]

/-! ## Looking up -/

/-- The child of a directory with a name is what has that name and is in that directory. -/
theorem child?_iff (h : s.Tree) : s.child? dir name = some id ↔ s.place? id = some (name, dir) ∧ id ≠ root := by
  have hname {child : Nat} {place : String × Nat} (hplace : s.place? child = some place) :
      (s.get? child).any (·.name == name) = true ↔ place.1 = name := by
    obtain ⟨inode, hget, rfl⟩ := Option.map_eq_some_iff.1 hplace
    simp [hget]
  constructor
  · intro hchild
    obtain ⟨children, hchildren, hfind⟩ := Option.bind_eq_some_iff.1 hchild
    obtain ⟨hne, found, hplace⟩ := h.child hchildren (List.mem_of_find?_eq_some hfind)
    have hfits := List.find?_some hfind
    obtain rfl : found = name := (hname hplace).1 hfits
    exact ⟨hplace, hne⟩
  · rintro ⟨hplace, hne⟩
    obtain ⟨-, children, hchildren, hmem⟩ := h.listed hplace hne
    rw [child?, hchildren, Option.bind_some]
    cases hfind : children.find? fun child => (s.get? child).any (·.name == name) with
    | none => exact absurd ((hname hplace).2 rfl) (List.find?_eq_none.1 hfind id hmem)
    | some other =>
      -- what is found first has the same name in the same directory
      obtain ⟨hne', found, hplace'⟩ := h.child hchildren (List.mem_of_find?_eq_some hfind)
      have hfits := List.find?_some hfind
      obtain rfl : found = name := (hname hplace').1 hfits
      rw [h.siblings hplace' hplace hne' hne]

end Tree

/-- What creating needs, and what it makes. -/
theorem create_eq {path : String} (hpath : Path.Normal path) {directory : Bool}
    (h : s.create path directory = some (id, s')) :
    ∃ names name dir children, path = Path.ofNames (names ++ [name]) ∧
      (∀ other ∈ names ++ [name], Path.IsName other) ∧ Text.size name ≤ fileNameWidth ∧
      s.descend root (names ++ [name]) = none ∧ s.descend root names = some dir ∧ s.children? dir = some children ∧
      id = s.slots.size ∧ s' = s.append ⟨name, dir, if directory then .dir [] else .file []⟩ := by
  obtain ⟨all, hall, rfl⟩ := hpath
  unfold create at h
  rcases List.eq_nil_or_concat all with rfl | ⟨names, name, rfl⟩
  · rw [Path.splitLast_root] at h
    cases h
  · have hnames : ∀ other ∈ names, Path.IsName other := fun other hother => hall other (by simp [hother])
    rw [List.concat_eq_append] at *
    rw [Path.splitLast_ofNames names (hall name (by simp))] at h
    simp only [lookup, Path.components_ofNames hall, Path.components_ofNames hnames] at h
    split at h
    · cases h
    · next hallowed =>
      simp only [Bool.or_eq_true, decide_eq_true_eq, not_or, Nat.not_lt, Bool.not_eq_true,
        Option.isSome_eq_false_iff, Option.isNone_iff_eq_none] at hallowed
      obtain ⟨hsize, hfree⟩ := hallowed
      split at h
      · cases h
      · next dir hdir =>
        split at h
        · cases h
        · next children hchildren =>
          cases h
          exact ⟨names, name, dir, children, rfl, hall, hsize, hfree, hdir, hchildren, rfl, rfl⟩

theorem descend_append : ∀ (names rest : List String) (dir : Nat),
    s.descend dir (names ++ rest) = (s.descend dir names).bind fun found => s.descend found rest
  | [], rest, dir => rfl
  | name :: names, rest, dir => by
    rw [List.cons_append, descend, descend]
    cases s.child? dir name with
    | none => rfl
    | some child => exact descend_append names rest child

/-- The names on the way from the root to a file or directory, by the parents. -/
inductive LiesAt (s : Store) : Nat → List String → Prop
  | root : LiesAt s root []
  | child {id dir : Nat} {name : String} {names : List String} : s.place? id = some (name, dir) → id ≠ root →
    LiesAt s dir names → LiesAt s id (names ++ [name])

namespace Tree

variable {names names' : List String}

theorem isName_of_liesAt (h : s.Tree) (hlies : s.LiesAt id names) : ∀ name ∈ names, Path.IsName name := by
  induction hlies with
  | root => simp
  | child hplace hne hlies ih =>
    intro name hname
    rcases List.mem_append.1 hname with hold | hlast
    · exact ih name hold
    · rw [List.mem_singleton.1 hlast]
      exact (h.name hplace hne).1

/-- Following names leads to what lies there. -/
theorem descend_iff (h : s.Tree) : s.descend root names = some id ↔ s.LiesAt id names := by
  constructor
  · have hdown : ∀ (rest : List String) {front : List String} {dir : Nat}, s.LiesAt dir front →
        s.descend dir rest = some id → s.LiesAt id (front ++ rest) := by
      intro rest
      induction rest with
      | nil =>
        intro front dir hlies hdescend
        cases hdescend
        rwa [List.append_nil]
      | cons name rest ih =>
        intro front dir hlies hdescend
        obtain ⟨child, hchild, hrest⟩ := Option.bind_eq_some_iff.1 hdescend
        obtain ⟨hplace, hne⟩ := h.child?_iff.1 hchild
        simpa using ih (.child hplace hne hlies) hrest
    exact fun hdescend => hdown names .root hdescend
  · intro hlies
    induction hlies with
    | root => rfl
    | child hplace hne hlies ih =>
      rw [descend_append, ih, Option.bind_some, descend, h.child?_iff.2 ⟨hplace, hne⟩]
      rfl

/-- Everything lies somewhere. -/
theorem exists_liesAt (h : s.Tree) : ∀ (id : Nat) {place : String × Nat}, s.place? id = some place →
    ∃ names, s.LiesAt id names := by
  intro id
  induction id using Nat.strongRecOn with
  | _ id ih =>
    intro place hplace
    by_cases hroot : id = root
    · exact ⟨[], hroot ▸ .root⟩
    · obtain ⟨hlt, children, hchildren, -⟩ := h.listed hplace hroot
      obtain ⟨above, habove⟩ := place?_of_children? hchildren
      obtain ⟨names, hnames⟩ := ih _ hlt habove
      exact ⟨_, .child hplace hroot hnames⟩

/-- Everything lies in one place. -/
theorem liesAt_unique (hlies : s.LiesAt id names) (hlies' : s.LiesAt id names') : names = names' := by
  induction hlies generalizing names' with
  | root =>
    cases hlies' with
    | root => rfl
    | child _ hne _ => exact absurd rfl hne
  | child hplace hne _ ih =>
    cases hlies' with
    | root => exact absurd rfl hne
    | child hplace' _ hlies' =>
      rw [hplace] at hplace'
      cases hplace'
      rw [ih hlies']

end Tree

/-- The path of a file or directory. -/
def IsPath (s : Store) (id : Nat) (path : String) : Prop :=
  ∃ names, s.LiesAt id names ∧ path = Path.ofNames names

namespace Tree

variable {path : String}

theorem normal_of_isPath (h : s.Tree) (hpath : s.IsPath id path) : Path.Normal path := by
  obtain ⟨names, hlies, rfl⟩ := hpath
  exact ⟨names, h.isName_of_liesAt hlies, rfl⟩

theorem place?_of_isPath (h : s.Tree) (hpath : s.IsPath id path) : ∃ place, s.place? id = some place := by
  obtain ⟨_, hlies, -⟩ := hpath
  cases hlies with
  | root =>
    obtain ⟨children, hchildren⟩ := Option.isSome_iff_exists.1 h.root_dir
    exact place?_of_children? hchildren
  | child hplace => exact ⟨_, hplace⟩

/-- **Looking up a path** finds what has that path. -/
theorem lookup_iff (h : s.Tree) (hpath : Path.Normal path) : s.lookup path = some id ↔ s.IsPath id path := by
  obtain ⟨names, hnames, rfl⟩ := hpath
  rw [lookup, Path.components_ofNames hnames, h.descend_iff]
  constructor
  · exact fun hlies => ⟨names, hlies, rfl⟩
  · rintro ⟨names', hlies, heq⟩
    rwa [Path.ofNames_injective hnames (h.isName_of_liesAt hlies) heq]

/-- **Every file has exactly one path.** -/
theorem existsUnique_path (h : s.Tree) {place : String × Nat} (hplace : s.place? id = some place) :
    ∃! path, s.IsPath id path := by
  obtain ⟨names, hlies⟩ := h.exists_liesAt id hplace
  refine ⟨Path.ofNames names, ⟨names, hlies, rfl⟩, ?_⟩
  rintro path ⟨names', hlies', rfl⟩
  rw [liesAt_unique hlies' hlies]

/-- **Creating gives a tree.** -/
theorem create (h : s.Tree) (hpath : Path.Normal path) {directory : Bool}
    (hcreate : s.create path directory = some (id, s')) : s'.Tree := by
  obtain ⟨names, name, dir, children, rfl, hnames, hsize, hfree, hdescend, hdir, -, rfl⟩ := create_eq hpath hcreate
  refine h.append hdir (by cases directory <;> rfl) (hnames name (by simp)) hsize fun other hplace => ?_
  -- another file of that name would have been found
  refine Decidable.byContradiction fun hne => ?_
  have hlies : s.LiesAt other (names ++ [name]) := .child hplace hne (h.descend_iff.1 hdescend)
  rw [h.descend_iff.2 hlies] at hfree
  cases hfree

end Tree

end Store

end LineShell.Sim
