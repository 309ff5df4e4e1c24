import LineShell.Host.Disk
import LineShell.Proofs.Host.FileRequests
import LineShell.Proofs.Host.Sparse

/-!
# The files of a disk

The system in memory is one whose regular files are what they are on every system, whatever its programs do
(`Disk.system_regular`).

- `Disk.Extends`: a path that leads somewhere still leads there after files got other contents and directories more entries;
- `Disk.atPath?_alter`, `Disk.atPath?_add`: what is at a path whose file was changed or created.
-/

namespace LineShell.Host.Disk

variable {d d' : Disk} {here : Place} {name : Bytes} {rest : List Bytes} {links : Nat} {entries : List (Bytes × Nat)}
  {id : Nat}

/-! ## Following a path -/

/-- A name that is looked up in a directory: it is not too long, and none of the two that every directory has. -/
def IsEntryName (name : Bytes) : Prop :=
  name.length ≤ nameLimit ∧ name ≠ [46] ∧ name ≠ [46, 46]

theorem follow_nil : d.follow here [] links = .ok here := by
  rw [follow]

theorem follow_dot (h : d.entries? here.id = some entries) :
    d.follow here ([46] :: rest) links = d.follow here rest links := by
  rw [follow, h]
  rfl

theorem follow_dotdot (h : d.entries? here.id = some entries) :
    d.follow here ([46, 46] :: rest) links = d.follow here.tail rest links := by
  rw [follow, h]
  rfl

theorem follow_link (h : d.entries? here.id = some entries) (hname : IsEntryName name)
    (hlookup : entries.lookup name = some id) {target : Bytes} (hlink : d.node? id = some (.link target)) :
    d.follow here (name :: rest) (links + 1) =
      d.follow (if isRooted target then [] else here) (steps target ++ rest) links := by
  rw [follow, h]
  simp only [Nat.not_lt.2 hname.1, hname.2.1, hname.2.2, hlookup, hlink, ↓reduceIte]

theorem follow_child (h : d.entries? here.id = some entries) (hname : IsEntryName name)
    (hlookup : entries.lookup name = some id) (hnode : ∀ target, d.node? id ≠ some (.link target)) :
    d.follow here (name :: rest) links = d.follow ((name, id) :: here) rest links := by
  rw [follow, h]
  simp only [Nat.not_lt.2 hname.1, hname.2.1, hname.2.2, hlookup, ↓reduceIte]

/-- The step behind a way. -/
theorem follow_snoc {todo : List Bytes} {parent : Place} (hfollow : d.follow here todo links = .ok parent)
    (hentries : d.entries? parent.id = some entries) (hname : IsEntryName name)
    (hlookup : entries.lookup name = some id) (hnode : ∀ target, d.node? id ≠ some (.link target)) :
    d.follow here (todo ++ [name]) links = .ok ((name, id) :: parent) := by
  fun_induction d.follow here todo links with
  | case1 =>
    cases hfollow
    exact (follow_child hentries hname hlookup hnode).trans follow_nil
  | case4 here links rest entries' hhere _ ih => exact (follow_dot hhere).trans (ih hfollow)
  | case5 here links rest entries' hhere _ _ ih => exact (follow_dotdot hhere).trans (ih hfollow)
  | case8 here first rest entries' hhere hlong hdot hdots other hother target hlink links ih =>
    rw [List.cons_append, follow_link hhere ⟨Nat.le_of_not_lt hlong, hdot, hdots⟩ hother hlink, ← List.append_assoc]
    exact ih hfollow
  | case9 here links first rest entries' hhere hlong hdot hdots other hother hnolink ih =>
    rw [List.cons_append, follow_child hhere ⟨Nat.le_of_not_lt hlong, hdot, hdots⟩ hother fun target h => hnolink target h]
    exact ih hfollow
  | _ => cases hfollow

/-- A disk that has all that another one has, and links only where that has them. -/
structure Extends (d d' : Disk) : Prop where
  entries : ∀ {id entries}, d.entries? id = some entries → ∃ entries', d'.entries? id = some entries' ∧
    ∀ {name child}, entries.lookup name = some child → entries'.lookup name = some child
  links : ∀ {id target}, d'.node? id = some (.link target) ↔ d.node? id = some (.link target)

/-- A way that leads somewhere still leads there. -/
theorem Extends.follow (h : d.Extends d') {todo : List Bytes} {place : Place}
    (hfollow : d.follow here todo links = .ok place) : d'.follow here todo links = .ok place := by
  fun_induction d.follow here todo links with
  | case1 =>
    cases hfollow
    exact follow_nil
  | case4 here links rest entries hhere _ ih =>
    obtain ⟨entries', hhere', -⟩ := h.entries hhere
    exact (follow_dot hhere').trans (ih hfollow)
  | case5 here links rest entries hhere _ _ ih =>
    obtain ⟨entries', hhere', -⟩ := h.entries hhere
    exact (follow_dotdot hhere').trans (ih hfollow)
  | case8 here first rest entries hhere hlong hdot hdots other hother target hlink links ih =>
    obtain ⟨entries', hhere', hkeep⟩ := h.entries hhere
    rw [follow_link hhere' ⟨Nat.le_of_not_lt hlong, hdot, hdots⟩ (hkeep hother) (h.links.2 hlink)]
    exact ih hfollow
  | case9 here links first rest entries hhere hlong hdot hdots other hother hnolink ih =>
    obtain ⟨entries', hhere', hkeep⟩ := h.entries hhere
    rw [follow_child hhere' ⟨Nat.le_of_not_lt hlong, hdot, hdots⟩ (hkeep hother)
      fun target hlink => hnolink target (h.links.1 hlink)]
    exact ih hfollow
  | _ => cases hfollow

/-! ## Changing a file -/

theorem entries?_iff : d.entries? id = some entries ↔ ∃ mode, d.node? id = some (.dir entries mode) := by
  unfold entries?
  split
  · next found mode hnode => simp [hnode]
  · next hnone => exact ⟨nofun, fun ⟨mode, hnode⟩ => absurd hnode (hnone entries mode)⟩

/-- The place of a path from the root. -/
theorem locate?_iff {path : Bytes} {place : Place} :
    d.locate? [] path = some place ↔
      inadmissible? path = none ∧ d.follow [] (steps path) linkLimit = .ok place := by
  have horigin : origin [] path = [] := ite_self _
  unfold locate? locate
  rw [horigin]
  cases inadmissible? path with
  | some fault => exact ⟨nofun, fun h => nomatch h.1⟩
  | none =>
    cases d.follow [] (steps path) linkLimit with
    | error fault => exact ⟨nofun, fun h => nomatch h.2⟩
    | ok found => exact ⟨fun h => ⟨rfl, congrArg _ (Option.some.inj h)⟩, fun h => congrArg _ (Except.ok.inj h.2)⟩

/-- The place of a path, and the node that is there. -/
theorem atPath?_iff {path : String} {node : Node} :
    d.atPath? path = some (id, node) ↔
      ∃ place, inadmissible? (Text.bytes path) = none ∧
        d.follow [] (steps (Text.bytes path)) linkLimit = .ok place ∧ place.id = id ∧ d.node? id = some node := by
  simp only [atPath?, Option.bind_eq_some_iff, locate?_iff, Option.map_eq_some_iff, Prod.mk.injEq]
  constructor
  · rintro ⟨place, ⟨hadmissible, hfollow⟩, _, hnode, rfl, rfl⟩
    exact ⟨place, hadmissible, hfollow, rfl, hnode⟩
  · rintro ⟨place, hadmissible, hfollow, rfl, hnode⟩
    exact ⟨place, ⟨hadmissible, hfollow⟩, node, hnode, rfl, rfl⟩

theorem node?_setNode {old : Node} (h : d.node? id = some old) (node : Node) (other : Nat) :
    (d.setNode id node).node? other = if other = id then some node else d.node? other := by
  have hlt : id < d.nodes.size := (Array.getElem?_eq_some_iff.1 h).1
  show (d.nodes.setIfInBounds id node)[other]? = _
  rw [Array.getElem?_setIfInBounds]
  by_cases hother : id = other
  · rw [if_pos hother, if_pos (hother ▸ hlt), if_pos hother.symm]
  · rw [if_neg hother, if_neg (Ne.symm hother)]
    rfl

/-- Files with other contents change no path. -/
theorem alter_spec {content : Sparse} {mode : Nat} (h : d.node? id = some (.file content mode))
    (change : Sparse → Sparse) :
    ∃ d', d.alter id change = some d' ∧ d.Extends d' ∧ d'.node? id = some (.file (change content) mode) := by
  have halter : d.alter id change = some ((d.setNode id (.file (change content) mode)).mark id) := by
    rw [alter, h]
  have hnode (other : Nat) : ((d.setNode id (.file (change content) mode)).mark id).node? other =
      if other = id then some (.file (change content) mode) else d.node? other := node?_setNode h _ other
  refine ⟨_, halter, ⟨fun {other entries} hentries => ⟨entries, ?_, fun h => h⟩, fun {other target} => ?_⟩,
    (hnode id).trans (if_pos rfl)⟩
  · obtain ⟨_, hdir⟩ := entries?_iff.1 hentries
    rw [entries?_iff, hnode]
    split
    · next hother =>
      rw [hother, h] at hdir
      cases hdir
    · exact ⟨_, hdir⟩
  · rw [hnode]
    split
    · next hother => simp [hother, h]
    · rfl

/-- What is at the path of a file whose content was changed. -/
theorem atPath?_alter {path : String} {content : Sparse} {mode : Nat}
    (h : d.atPath? path = some (id, .file content mode)) (change : Sparse → Sparse) :
    ∃ d', d.alter id change = some d' ∧ d'.atPath? path = some (id, .file (change content) mode) := by
  obtain ⟨place, hadmissible, hfollow, hid, hnode⟩ := atPath?_iff.1 h
  obtain ⟨d', halter, hextends, hnode'⟩ := alter_spec hnode change
  exact ⟨d', halter, atPath?_iff.2 ⟨place, hadmissible, hextends.follow hfollow, hid, hnode'⟩⟩

/-! ## Creating a file -/

/-- What locating the last name of a path finds. -/
theorem locateLast_eq {path : Bytes} {parent : Place} (h : d.locateLast [] path = .ok (parent, name)) :
    inadmissible? path = none ∧ ∃ before entries, split path = before ++ [name] ∧
      d.follow [] before linkLimit = .ok parent ∧ d.entries? parent.id = some entries ∧ IsEntryName name := by
  have horigin : origin [] path = [] := ite_self _
  unfold locateLast at h
  rw [horigin] at h
  split at h
  · cases h
  · next hadmissible =>
    refine ⟨hadmissible, ?_⟩
    split at h
    · cases h
    · next last before hsplit =>
      split at h
      · cases h
      · next found hfollow =>
        split at h
        · cases h
        · next hentries =>
          split at h
          · cases h
          · next hdots =>
            split at h
            · cases h
            · next hlong =>
              cases h
              simp only [Bool.or_eq_true, decide_eq_true_eq, not_or] at hdots
              obtain ⟨entries, hentries⟩ := Option.ne_none_iff_exists'.1 (by simpa using hentries)
              refine ⟨before.reverse, entries, ?_, hfollow, hentries, Nat.le_of_not_lt hlong, hdots⟩
              rw [← List.reverse_reverse (split path), hsplit, List.reverse_cons]

/-- What creating a file does: the file gets the next number, and the directory lists it under its name. -/
theorem add_eq {path : Bytes} {node : Node} (hnode : node.isDir = false) (h : d.add [] path node = .ok (id, d')) :
    path.getLast? ≠ some Place.slash ∧ inadmissible? path = none ∧ id = d.nodes.size ∧
    ∃ before parent name entries mode, split path = before ++ [name] ∧ IsEntryName name ∧
      d.follow [] before linkLimit = .ok parent ∧ d.node? parent.id = some (.dir entries mode) ∧
      entries.lookup name = none ∧
      ∀ other, d'.node? other = if other = parent.id then some (.dir (entries ++ [(name, id)]) mode)
        else if other = id then some node else d.node? other := by
  unfold add at h
  split at h
  · cases h
  · next hslash =>
    have hlast : path.getLast? ≠ some Place.slash := by simpa [hnode] using hslash
    obtain ⟨⟨parent, name⟩, hlocate, h⟩ : ∃ found, d.locateLast [] path = .ok found ∧
        (((d.grown node).2.attach found.1 found.2 (d.grown node).1).map fun d' => ((d.grown node).1, d')) =
          .ok (id, d') := by
      cases hlocate : d.locateLast [] path with
      | error fault =>
        rw [hlocate] at h
        cases h
      | ok found =>
        rw [hlocate] at h
        exact ⟨found, rfl, h⟩
    obtain ⟨hadmissible, before, entries, hsplit, hfollow, hentries, hname⟩ := locateLast_eq hlocate
    obtain ⟨mode, hdir⟩ := entries?_iff.1 hentries
    have hlt : parent.id < d.nodes.size := (Array.getElem?_eq_some_iff.1 hdir).1
    have hgrown (other : Nat) : (d.grown node).2.node? other =
        if other = d.nodes.size then some node else d.node? other := Array.getElem?_push
    have hparent : (d.grown node).2.node? parent.id = some (.dir entries mode) := by
      rw [hgrown, if_neg (Nat.ne_of_lt hlt)]
      exact hdir
    simp only [attach, entries?_iff.2 ⟨mode, hparent⟩] at h
    cases hfree : entries.lookup name with
    | some other =>
      rw [hfree] at h
      cases h
    | none =>
      rw [hfree] at h
      simp only [setEntries, hparent] at h
      cases h
      refine ⟨hlast, hadmissible, rfl, before, parent, name, entries, mode, hsplit, hname, hfollow, hdir, hfree,
        fun other => ?_⟩
      have hset := node?_setNode hparent (.dir (entries ++ [(name, d.nodes.size)]) mode) other
      rw [hgrown] at hset
      exact hset

/-- **A created file** is at its path. -/
theorem atPath?_add {path : String} {content : Sparse} {mode : Nat}
    (h : d.add [] (Text.bytes path) (.file content mode) = .ok (id, d')) :
    d'.atPath? path = some (id, .file content mode) := by
  obtain ⟨hlast, hadmissible, rfl, before, parent, name, entries, dirMode, hsplit, hname, hfollow, hdir, hfree, hnode⟩ :=
    add_eq rfl h
  have hlt : parent.id < d.nodes.size := (Array.getElem?_eq_some_iff.1 hdir).1
  have hnew : d'.node? d.nodes.size = some (.file content mode) := by
    rw [hnode, if_neg (Nat.ne_of_gt hlt), if_pos rfl]
  have hextends : d.Extends d' := by
    refine ⟨fun {other old} hold => ?_, fun {other target} => ?_⟩
    · obtain ⟨oldMode, hold⟩ := entries?_iff.1 hold
      by_cases hother : other = parent.id
      · rw [hother, hdir] at hold
        cases hold
        refine ⟨_, entries?_iff.2 ⟨dirMode, by rw [hnode, if_pos hother]⟩, fun {found child} hfound => ?_⟩
        rw [List.lookup_append, hfound]
        rfl
      · have hlt' : other < d.nodes.size := (Array.getElem?_eq_some_iff.1 hold).1
        exact ⟨old, entries?_iff.2 ⟨oldMode, by rw [hnode, if_neg hother, if_neg (Nat.ne_of_lt hlt'), hold]⟩,
          fun h => h⟩
    · rw [hnode]
      split
      · next hother => simp [hother, hdir]
      · split
        · next hother => simp [hother, node?]
        · rfl
  have hsteps : steps (Text.bytes path) = before ++ [name] := by
    rw [steps, if_neg hlast, hsplit, List.append_nil]
  refine atPath?_iff.2 ⟨(name, d.nodes.size) :: parent, hadmissible, ?_, rfl, hnew⟩
  rw [hsteps]
  refine follow_snoc (hextends.follow hfollow) (entries?_iff.2 ⟨dirMode, by rw [hnode, if_pos rfl]⟩) hname ?_ ?_
  · rw [List.lookup_append, hfree]
    simp
  · rw [hnew]
    simp

/-! ## Regular files -/

/-- The file at a path holds `content`. -/
def HoldsContent (d : Disk) (path : String) (content : Bytes) : Prop :=
  ∃ id sparse mode, d.atPath? path = some (id, .file sparse mode) ∧ sparse.Bounded ∧ sparse.content = content

/-- The number of an open file is that of the file at a path, and its position is `position`. -/
def OpenAt (d : Disk) (file : Handle) (path : String) (position : Nat) : Prop :=
  (∃ node, d.atPath? path = some (file.id, node)) ∧ file.position = position

/-- What an open file is open on. -/
theorem OpenAt.holds {path : String} {content : Bytes} {file : Handle} {position : Nat} (h : HoldsContent d path content)
    (hat : OpenAt d file path position) :
    file.position = position ∧ ∃ sparse mode, d.atPath? path = some (file.id, .file sparse mode) ∧
      d.node? file.id = some (.file sparse mode) ∧ sparse.Bounded ∧ sparse.content = content := by
  obtain ⟨id, sparse, mode, hpath, hbounded, hcontent⟩ := h
  obtain ⟨⟨node, hopen⟩, hposition⟩ := hat
  obtain ⟨rfl, -⟩ := Prod.mk.inj (Option.some.inj (hpath.symm.trans hopen))
  obtain ⟨_, -, -, -, hnode⟩ := atPath?_iff.1 hpath
  exact ⟨hposition, sparse, mode, hpath, hnode, hbounded, hcontent⟩

variable {spawn : Disk → (program : String) → (args : List String) → (dir : String) → (passed : Nat) →
  (input : Bytes) → Option (Child × Disk)}

/-- **The files of a disk** are what regular files are on every system, whatever programs do on it. -/
theorem system_regular : (system spawn).Regular HoldsContent OpenAt sizeLimit where
  limit_lt := by decide
  createFile {d d' path} h := by
    have hadd : ((d.add [] (Text.bytes path) .emptyFile).map (·.2)).toOption = some d' := h
    cases hresult : d.add [] (Text.bytes path) .emptyFile with
    | error fault =>
      rw [hresult] at hadd
      cases hadd
    | ok added =>
      rw [hresult] at hadd
      cases hadd
      exact ⟨added.1, {}, Node.usualMode, atPath?_add hresult, Sparse.empty_bounded, rfl⟩
  status {d path content} h := by
    obtain ⟨id, sparse, mode, hpath, -, rfl⟩ := h
    show d.statusOf path = _
    rw [statusOf, hpath, Sparse.length_content]
    rfl
  openRead {d path content} h := by
    obtain ⟨id, sparse, mode, hpath, -⟩ := h
    refine ⟨{ id := id }, ?_, ⟨_, hpath⟩, rfl⟩
    show d.openRead path = _
    simp only [openRead, hpath]
    rfl
  openWrite {d path content} h := by
    obtain ⟨id, sparse, mode, hpath, -⟩ := h
    refine ⟨{ id := id }, ?_, ⟨_, hpath⟩, rfl⟩
    show d.openWrite path = _
    simp only [openWrite, hpath]
    rfl
  seek {d path content file position offset} h hat hoffset := by
    obtain ⟨-, sparse, mode, hpath, hnode, -⟩ := hat.holds h
    refine ⟨⟨file.id, offset⟩, ?_, ⟨_, hpath⟩, rfl⟩
    show d.seekTo file offset = _
    simp only [seekTo, hnode, if_pos hoffset]
    rfl
  read {d path content file position count} h hat hcount := by
    obtain ⟨rfl, sparse, mode, hpath, hnode, -, rfl⟩ := hat.holds h
    refine ⟨sparse.read file.position count, ⟨file.id, file.position + (sparse.read file.position count).length⟩, ?_,
      ⟨⟨_, hpath⟩, rfl⟩, ?_, fun hend => ?_, fun i hi => ?_⟩
    · show d.readFrom file count = _
      simp only [readFrom, hnode]
      rfl
    · rw [Sparse.length_read]
      exact Nat.min_le_left ..
    · have hlength := Sparse.length_read file.position count (s := sparse)
      rw [hend, List.length_nil] at hlength
      rw [Sparse.length_content]
      omega
    · rw [Sparse.length_read] at hi
      rw [Sparse.read_eq, Content.getElem?_readAt _ _ _ (by omega)]
  write {d path content file position data} h hat hdata hroom := by
    obtain ⟨rfl, sparse, mode, hpath, hnode, hbounded, rfl⟩ := hat.holds h
    obtain ⟨d', halter, hpath'⟩ := atPath?_alter hpath (·.write file.position data)
    refine ⟨data.length, ⟨file.id, file.position + data.length⟩, d', _, ?_, List.length_pos_iff.2 hdata, Nat.le_refl _,
      ⟨_, _, mode, hpath', (Sparse.write_spec hbounded hdata file.position).1, rfl⟩, ⟨⟨_, hpath'⟩, rfl⟩, ?_, fun i => ?_⟩
    · show d.writeTo file data = _
      simp only [writeTo, hnode, if_neg (Nat.not_lt.2 hroom), halter]
      rfl
    · rw [Sparse.content_write hbounded hdata, Content.length_writeAt]
    · rw [Sparse.content_write hbounded hdata, Content.getD_writeAt]
  setLength {d path content file position length} h hat hlength := by
    obtain ⟨-, sparse, mode, hpath, hnode, hbounded, rfl⟩ := hat.holds h
    obtain ⟨d', halter, hpath'⟩ := atPath?_alter hpath (·.resize length)
    refine ⟨d', _, ?_, ⟨_, _, mode, hpath', Sparse.resize_bounded sparse length, rfl⟩, Sparse.length_content _,
      fun i hi => ?_⟩
    · show d.setLength file length = _
      simp only [setLength, if_pos hlength, halter]
    · rw [Sparse.content_resize hbounded, Content.getD_resize, if_pos hi]

end LineShell.Host.Disk
