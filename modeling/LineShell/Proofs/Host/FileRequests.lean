import LineShell.Proofs.Descriptor
import LineShell.Proofs.FileRequests
import LineShell.Proofs.Host.Descriptors

/-!
# A file of the host kernel

A descriptor of the host kernel stands for a path, and a request on it is a call of the system below for that path. Where
the regular files of that system are what they are on every system (`HostSystem.Regular`), a file that was created is empty
and has the path and the descriptor under which it was (`Host.holds_creat`), and requests on it are answered from what it
holds (`Host.serves`). A write of nothing does nothing.
-/

namespace LineShell.Host

variable {φ : Type}

/-- The regular files of a system, which has them to itself, and how its operations treat them. Where `Holds` says what the
file at a path holds, it has that size. It can be opened at its start to be read and to be written, and `At` says which file
is open and at which position, which may be put anywhere up to `limit`. A read brings some of the bytes from the position
on, none only at the end. A write of some bytes takes at least one of them: those that it takes stand from the position on,
and there is nothing but NUL before them if that was past the end. A length that is set cuts the file or fills it up with
NUL. A file that was created holds nothing. -/
structure HostSystem.Regular (S : HostSystem φ) (Holds : φ → String → Bytes → Prop)
    (At : φ → S.File → String → Nat → Prop) (limit : Nat) : Prop where
  limit_lt : limit < 0x8000000000000000
  createFile : ∀ {d d' path}, S.createFile d path = some d' → Holds d' path []
  status : ∀ {d path content}, Holds d path content →
    S.status d path = some { size := content.length, directory := false }
  openRead : ∀ {d path content}, Holds d path content → ∃ file, S.openRead d path = some file ∧ At d file path 0
  openWrite : ∀ {d path content}, Holds d path content → ∃ file, S.openWrite d path = some file ∧ At d file path 0
  seek : ∀ {d path content file position offset}, Holds d path content → At d file path position → offset ≤ limit →
    ∃ file', S.seek d file offset = some file' ∧ At d file' path offset
  read : ∀ {d path content file position count}, Holds d path content → At d file path position → 0 < count →
    ∃ data file', S.read d file count = some (data, file') ∧ At d file' path (position + data.length) ∧
      data.length ≤ count ∧ (data = [] → content.length ≤ position) ∧
      ∀ i < data.length, data[i]? = content[position + i]?
  write : ∀ {d path content file position data}, Holds d path content → At d file path position → data ≠ [] →
    position + data.length ≤ limit → ∃ taken file' d' content', S.write d file data = (some (taken, file'), d') ∧
      0 < taken ∧ taken ≤ data.length ∧ Holds d' path content' ∧ At d' file' path (position + taken) ∧
      content'.length = max content.length (position + taken) ∧
      ∀ i, content'.getD i 0 =
        if position ≤ i ∧ i < position + taken then data.getD (i - position) 0 else content.getD i 0
  setLength : ∀ {d path content file position length}, Holds d path content → At d file path position →
    length ≤ limit → ∃ d' content', S.setLength d file length = some d' ∧ Holds d' path content' ∧
      content'.length = length ∧ ∀ i < length, content'.getD i 0 = content.getD i 0

/-- The path and the descriptor lead to the same path of the system, and the file there holds `content`. -/
structure HoldsFile (Holds : φ → String → Bytes → Prop) (h : Host φ) (path : String) (fd : Fd) (content : Bytes) :
    Prop where
  path_eq : h.path? fd = some (h.resolve path)
  holds : Holds h.system (h.resolve path) content

/-! ## An open file -/

section Open

variable {S : HostSystem φ} {Holds : φ → String → Bytes → Prop} {At : φ → S.File → String → Nat → Prop} {limit : Nat}
  (hS : S.Regular Holds At limit) {d : φ} {path : String} {content : Bytes} {file : S.File} {position : Nat}
include hS

/-- **Filling a buffer** brings what there is from the position on, in however many pieces it comes. -/
theorem HostSystem.Regular.fill_eq (h : Holds d path content) (hat : At d file path position) (room : Nat) :
    fill S d file room = some (Content.readAt content position room) := by
  -- the recursion is on the room that is left, each piece moves the position on
  fun_induction fill S d file room generalizing position with
  | case1 => rw [Content.readAt, List.take_zero]
  | case2 file room hroom hread =>
    obtain ⟨data, file', hdata, -⟩ := hS.read h hat (Nat.pos_of_ne_zero hroom)
    rw [hread] at hdata
    cases hdata
  | case3 file room hroom file' hread =>
    obtain ⟨data, _, hdata, -, -, hend, -⟩ := hS.read h hat (Nat.pos_of_ne_zero hroom)
    rw [hread] at hdata
    cases hdata
    rw [Content.readAt, List.drop_eq_nil_of_le (hend rfl), List.take_nil]
  | case4 file room hroom b rest file' hread data =>
    rename_i ih
    obtain ⟨piece, _, hpiece, hat', hle, -, hbytes⟩ := hS.read h hat (Nat.pos_of_ne_zero hroom)
    rw [hread] at hpiece
    cases hpiece
    have hdata : data = b :: rest := List.take_of_length_le hle
    have hroom' : data.length + (room - data.length) = room := Nat.add_sub_of_le (hdata ▸ hle)
    have hpieces : Content.readAt content position room =
        data ++ Content.readAt content (position + data.length) (room - data.length) := by
      rw [← hroom', Content.readAt_add, Nat.add_sub_cancel_left, ← Content.eq_readAt (hdata ▸ hbytes)]
    show (fill S d file' (room - data.length)).map (data ++ ·) = _
    rw [ih (hdata ▸ hat'), Option.map_some, hpieces]

/-- One write, which takes the first of the bytes. -/
theorem HostSystem.Regular.write_eq (h : Holds d path content) (hat : At d file path position) {data : Bytes}
    (hdata : data ≠ []) (hroom : position + data.length ≤ limit) :
    ∃ first rest file' d', data = first ++ rest ∧ first ≠ [] ∧ S.write d file data = (some (first.length, file'), d') ∧
      Holds d' path (Content.writeAt content position first) ∧ At d' file' path (position + first.length) := by
  obtain ⟨taken, file', d', content', hwrite, hpos, hle, hholds, hat', hlength, hbytes⟩ := hS.write h hat hdata hroom
  obtain ⟨first, rest, rfl, rfl⟩ : ∃ first rest, data = first ++ rest ∧ first.length = taken :=
    ⟨_, _, (List.take_append_drop taken data).symm, List.length_take_of_le hle⟩
  have hcontent : content' = Content.writeAt content position first := by
    refine Content.ext (by rw [hlength, Content.length_writeAt]) fun i _ => ?_
    rw [hbytes, Content.getD_writeAt]
    split
    · rw [List.getD_append _ _ _ _ (by omega)]
    · rfl
  exact ⟨first, rest, file', d', rfl, List.length_pos_iff.1 hpos, hwrite, hcontent ▸ hholds, hat'⟩

/-- **Writing all of some bytes** writes them from the position on, in however many pieces they are taken. Of no bytes
nothing is written, wherever the position is. -/
theorem HostSystem.Regular.writeAll_eq (h : Holds d path content) (hat : At d file path position) {data : Bytes}
    (hroom : position + data.length ≤ limit) :
    ∃ d', S.writeAll d file data = (true, d') ∧
      Holds d' path (if data.isEmpty then content else Content.writeAt content position data) := by
  fun_induction S.writeAll d file data generalizing position content with
  | case1 d => exact ⟨d, rfl, h⟩
  | case2 d file b rest taken file' d' hwrite ih =>
    obtain ⟨first, left, _, _, hsplit, hfirst, hwrote, hholds, hat'⟩ := hS.write_eq h hat (List.cons_ne_nil b rest) hroom
    rw [hwrite] at hwrote
    obtain ⟨hanswer, rfl⟩ := Prod.mk.inj hwrote
    obtain ⟨htaken, rfl⟩ := Prod.mk.inj (Option.some.inj hanswer)
    have hleft : rest.drop taken = left := by
      rw [← List.drop_succ_cons (a := b), hsplit, List.drop_left' htaken.symm]
    rw [hleft] at ih ⊢
    rw [hsplit, List.length_append] at hroom
    obtain ⟨last, hall, hfile⟩ := ih hholds hat' (by omega)
    refine ⟨last, hall, ?_⟩
    rw [List.isEmpty_cons, if_neg Bool.false_ne_true, hsplit]
    rw [Content.writeAt_append] at hfile
    split at hfile
    · -- everything was taken at once
      next hnil =>
      rw [List.isEmpty_iff.1 hnil, List.append_nil]
      exact hfile
    · exact hfile
  | case3 d file b rest answer d' hnone hwrite =>
    obtain ⟨first, _, file', _, -, hfirst, hwrote, -⟩ := hS.write_eq h hat (List.cons_ne_nil b rest) hroom
    obtain ⟨c, first, rfl⟩ := List.exists_cons_of_ne_nil hfirst
    obtain ⟨hanswer, -⟩ := Prod.mk.inj (hwrite.symm.trans hwrote)
    exact (hnone _ _ hanswer).elim

theorem HostSystem.Regular.setLength_eq (h : Holds d path content) (hat : At d file path position) {length : Nat}
    (hlength : length ≤ limit) :
    ∃ d', S.setLength d file length = some d' ∧ Holds d' path (Content.resize content length) := by
  obtain ⟨d', content', hset, hholds, hsize, hbytes⟩ := hS.setLength h hat hlength
  have heq : content' = Content.resize content length := by
    refine Content.ext (by rw [hsize, Content.length_resize]) fun i hi => ?_
    rw [hsize] at hi
    rw [hbytes i hi, Content.getD_resize, if_pos hi]
  exact ⟨d', hset, heq ▸ hholds⟩

end Open

section Requests

variable {S : HostSystem φ} {Holds : φ → String → Bytes → Prop} {At : φ → S.File → String → Nat → Prop} {limit : Nat}
  {m m' : Machine (Host φ)} {path : String} {fd : Fd}

theorem serve_creat (path : String) (directory : Bool) :
    (kernel S).serve (.creat path directory) m =
      some ((m.state.create S path directory).1, { m with state := (m.state.create S path directory).2 }) := rfl

theorem serve_readFile (h : fd ≠ .stdin) (count offset : UInt64) :
    (kernel S).serve (.read fd count offset) m = some (m.state.readFile S fd count.toNat offset.toNat, m) :=
  if_neg h

theorem serve_writeFile (h : (fd = .stdout || fd = .stderr) = false) (data : Bytes) (offset : UInt64) :
    (kernel S).serve (.write fd data offset) m =
      some ((m.state.writeFile S fd data offset.toNat).1,
        { m with state := (m.state.writeFile S fd data offset.toNat).2 }) :=
  if_neg (by simp [h])

theorem serve_truncate (path : String) (length : UInt64) :
    (kernel S).serve (.truncate path length) m =
      some ((m.state.resize S (m.state.resolve path) length.toNat).1,
        { m with state := (m.state.resize S (m.state.resolve path) length.toNat).2 }) := rfl

theorem serve_ftruncate {target : String} (h : m.state.path? fd = some target) (length : UInt64) :
    (kernel S).serve (.ftruncate fd length) m =
      some ((m.state.resize S target length.toNat).1, { m with state := (m.state.resize S target length.toNat).2 }) := by
  show serve S (.ftruncate fd length) m = _
  simp only [serve, h, Option.elim_some]

theorem serve_fstat (fd : Fd) {stat : Stat} (h : (m.state.path? fd).bind (m.state.stat? S) = some stat) :
    (kernel S).serve (.fstat fd) m = some (.granted (.stat stat), m) := by
  show serve S (.fstat fd) m = _
  simp only [serve, h]

/-- **A created file** is empty, and is there under its path and its descriptor. -/
theorem holds_creat (hS : S.Regular Holds At limit) (hsound : m.state.descriptors.Sound)
    (hcreat : (Prog.creat path false).run (kernel S) m = some (.ok fd, m')) : HoldsFile Holds m'.state path fd [] := by
  rw [Prog.creat, Prog.run_ask] at hcreat
  obtain ⟨⟨reply, m₁⟩, hserve, heq⟩ := Option.map_eq_some_iff.1 hcreat
  obtain ⟨hword, rfl⟩ := Prod.mk.inj heq
  rw [serve_creat] at hserve
  generalize hstate : m.state.create S path false = created at hserve
  cases hserve
  simp only [create, Bool.false_eq_true, ↓reduceIte] at hstate
  split at hstate
  · subst hstate
    cases hword
  · split at hstate
    · subst hstate
      cases hword
    · next system hcreate =>
      have hpath := hsound.path?_intern (m.state.resolve path)
      simp only [answerHandle, handOut] at hstate
      generalize m.state.descriptors.intern (m.state.resolve path) = interned at hstate hpath
      cases hfd : Fd.ofFileId? interned.1 with
      | none =>
        rw [hfd] at hstate
        subst hstate
        cases hword
      | some fd' =>
        rw [hfd] at hstate
        subst hstate
        rw [Fd.understood_ofFileId? hfd] at hword
        cases hword
        refine ⟨?_, hS.createFile hcreate⟩
        rw [path?, Fd.fileId?_ofFileId? hfd]
        exact hpath

/-- A file is created and its path has a descriptor, if the system grants it and there is a descriptor left. -/
theorem serve_creat_granted {system : φ} (hsize : 0 < Text.size (lastName (m.state.resolve path)))
    (hwidth : Text.size (lastName (m.state.resolve path)) ≤ fileNameWidth)
    (hcreate : S.createFile m.state.system (m.state.resolve path) = some system)
    (hfd : Fd.ofFileId? (m.state.descriptors.intern (m.state.resolve path)).1 = some fd) :
    (kernel S).serve (.creat path false) m = some (⟨fd.raw.toInt64, .nothing⟩, { m with state := { m.state with
      system := system, descriptors := (m.state.descriptors.intern (m.state.resolve path)).2 } }) := by
  have hname : ¬ (Text.size (lastName (m.state.resolve path)) = 0 ||
      fileNameWidth < Text.size (lastName (m.state.resolve path))) = true := by
    simp only [Bool.or_eq_true, decide_eq_true_eq]
    omega
  rw [serve_creat, create]
  simp only [if_neg hname, Bool.false_eq_true, ↓reduceIte, hcreate, answerHandle_eq, hfd, Option.elim_some]

/-- Creating a file is answered with its descriptor, if the system grants it and there is a descriptor left. -/
theorem run_creat {system : φ} (hsize : 0 < Text.size (lastName (m.state.resolve path)))
    (hwidth : Text.size (lastName (m.state.resolve path)) ≤ fileNameWidth)
    (hcreate : S.createFile m.state.system (m.state.resolve path) = some system)
    (hfd : Fd.ofFileId? (m.state.descriptors.intern (m.state.resolve path)).1 = some fd) :
    ∃ m', (Prog.creat path false).run (kernel S) m = some (.ok fd, m') := by
  rw [Prog.creat, Prog.run_ask, serve_creat_granted hsize hwidth hcreate hfd, Option.map_some, Fd.understood_ofFileId? hfd]
  exact ⟨_, rfl⟩

/-- A file that the system removes is forgotten. -/
theorem serve_removeFile_granted {size : Nat} {system : φ}
    (hstatus : S.status m.state.system (m.state.resolve path) = some ⟨size, false⟩)
    (hremove : S.removeFile m.state.system (m.state.resolve path) = some system) :
    (kernel S).serve (.removeFile path) m = some (.granted .nothing, { m with state := { m.state with
      system := system, descriptors := m.state.descriptors.retire (m.state.resolve path) } }) := by
  show some ((m.state.unlink S path).1, { m with state := (m.state.unlink S path).2 }) = _
  simp only [unlink, hstatus, Bool.false_eq_true, ↓reduceIte, hremove]

section File

variable (hS : S.Regular Holds At limit) {h : Host φ} {content : Bytes} (hfile : HoldsFile Holds h path fd content)
include hS hfile

theorem readFile_eq {offset : Nat} (hoffset : offset ≤ limit) (count : Nat) :
    h.readFile S fd count offset =
      ⟨Int64.ofNat (Content.readAt content offset count).length, .bytes (Content.readAt content offset count)⟩ := by
  obtain ⟨file, hopen, hat⟩ := hS.openRead hfile.holds
  obtain ⟨file', hseek, hat'⟩ := hS.seek hfile.holds hat hoffset
  have hcontent : h.contentAt? S (h.resolve path) count offset = some (Content.readAt content offset count) := by
    rw [contentAt?, hS.status hfile.holds, Option.any_some, if_neg Bool.false_ne_true, hopen, Option.bind_some, hseek,
      Option.bind_some]
    exact hS.fill_eq hfile.holds hat' count
  rw [readFile, hfile.path_eq, Option.bind_some, hcontent]

theorem writeFile_eq {data : Bytes} {offset : Nat} (hroom : offset + data.length ≤ limit) :
    ∃ system, h.writeFile S fd data offset = (.granted .nothing, { h with system := system }) ∧
      HoldsFile Holds { h with system := system } path fd
        (if data.isEmpty then content else Content.writeAt content offset data) := by
  obtain ⟨file, hopen, hat⟩ := hS.openWrite hfile.holds
  obtain ⟨file', hseek, hat'⟩ := hS.seek hfile.holds hat (Nat.le_of_add_right_le hroom)
  obtain ⟨system, hall, hholds⟩ := hS.writeAll_eq hfile.holds hat' hroom
  refine ⟨system, ?_, hfile.path_eq, hholds⟩
  simp only [writeFile, hfile.path_eq, Option.bind_some, hopen, hseek, hall, ↓reduceIte]

theorem resize_eq {length : Nat} (hlength : length ≤ limit) :
    ∃ system, h.resize S (h.resolve path) length = (.granted .nothing, { h with system := system }) ∧
      HoldsFile Holds { h with system := system } path fd (Content.resize content length) := by
  obtain ⟨file, hopen, hat⟩ := hS.openWrite hfile.holds
  obtain ⟨system, hset, hholds⟩ := hS.setLength_eq hfile.holds hat hlength
  refine ⟨system, ?_, hfile.path_eq, hholds⟩
  rw [resize, hopen, Option.bind_some, hset]

end File

/-- **Requests on a file** are answered from what it holds, and a write of nothing does nothing. -/
theorem serves (hS : S.Regular Holds At limit) (path : String) (fd : Fd) :
    (kernel S).Serves fd path limit false fun m content => HoldsFile Holds m.state path fd content where
  serve {m content op} h hop := by
    obtain ⟨id, hid, -⟩ := Option.bind_eq_some_iff.1 h.path_eq
    obtain ⟨hstdin, hconsole⟩ := Fd.not_console_of_fileId? hid
    cases op with
    | read count offset =>
      refine ⟨m, ?_, h⟩
      rw [FileRequest.on, serve_readFile hstdin, readFile_eq hS h hop]
      rfl
    | fstat =>
      refine ⟨m, serve_fstat fd ?_, h⟩
      rw [h.path_eq, Option.bind_some, stat?, hS.status h.holds]
      rfl
    | write data offset =>
      obtain ⟨system, hwrite, hleft⟩ := writeFile_eq hS h hop
      rw [FileRequest.on, serve_writeFile hconsole, hwrite]
      refine ⟨_, rfl, ?_⟩
      rw [FileRequest.leave, Bool.not_false, Bool.and_true]
      exact hleft
    | truncate length =>
      obtain ⟨system, hresize, hleft⟩ := resize_eq hS h (show length.toNat ≤ limit from hop)
      rw [FileRequest.on, serve_truncate, hresize]
      exact ⟨_, rfl, hleft⟩
    | ftruncate length =>
      obtain ⟨system, hresize, hleft⟩ := resize_eq hS h (show length.toNat ≤ limit from hop)
      rw [FileRequest.on, serve_ftruncate h.path_eq, hresize]
      exact ⟨_, rfl, hleft⟩

end Requests

end LineShell.Host
