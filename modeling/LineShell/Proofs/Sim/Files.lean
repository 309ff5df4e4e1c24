import LineShell.Failure
import LineShell.Proofs.Descriptor
import LineShell.Proofs.Sim.Console

/-!
# Files behind descriptors

Changing what a file holds changes no name and no directory, so every path means the same file as before
(`Sim.Store.lookup_setFile`).

- `Sim.Holds`: a path opens to a file that holds some bytes;
- `Sim.Holds.run_openFile`, `Sim.Holds.run_fstat`, `Sim.Holds.run_replace`: what the requests for such a file come to.
-/

namespace LineShell

namespace Sim

/-! ## What a file holds -/

namespace Store

variable {s : Store} {id : Nat} {content : Bytes}

theorem get?_of_content? (h : s.content? id = some content) :
    ∃ name parent, s.get? id = some ⟨name, parent, .file content⟩ := by
  unfold content? at h
  split at h
  · next name parent found hget =>
    cases h
    exact ⟨name, parent, hget⟩
  · cases h

theorem lt_size_of_get? {inode : Inode} (h : s.get? id = some inode) : id < s.slots.size := by
  unfold get? at h
  rcases Nat.lt_or_ge id s.slots.size with hlt | hge
  · exact hlt
  · rw [Array.getElem?_eq_none hge] at h
    cases h

/-- What stands in the slots after a file or directory got other data. -/
theorem get?_setData {inode : Inode} (h : s.get? id = some inode) (data : Data) (other : Nat) :
    (s.setData id data).get? other = if other = id then some { inode with data := data } else s.get? other := by
  have hlt := lt_size_of_get? h
  unfold setData
  rw [h]
  by_cases hother : other = id
  · subst hother
    simp [get?, hlt]
  · simp [get?, hother, Array.getElem?_setIfInBounds_ne (Ne.symm hother)]

/-- A file to which other bytes were given holds them. -/
theorem content?_setData (h : s.content? id = some content) (new : Bytes) :
    (s.setData id (.file new)).content? id = some new := by
  obtain ⟨name, parent, hget⟩ := get?_of_content? h
  simp [content?, get?_setData hget]

/-- Data given later take the place of data given before. -/
theorem setData_setData (h : s.content? id = some content) (data new : Data) :
    (s.setData id data).setData id new = s.setData id new := by
  obtain ⟨name, parent, hget⟩ := get?_of_content? h
  have hget' : (s.setData id data).get? id = some ⟨name, parent, data⟩ := by simp [get?_setData hget]
  rw [setData, hget', setData, hget, setData, hget]
  simp

/-- Directories list what they listed, and names stay. -/
theorem child?_setFile (h : s.content? id = some content) (new : Bytes) (dir : Nat) (name : String) :
    (s.setData id (.file new)).child? dir name = s.child? dir name := by
  obtain ⟨fileName, parent, hget⟩ := get?_of_content? h
  have hchildren : (s.setData id (.file new)).children? dir = s.children? dir := by
    unfold children?
    rw [get?_setData hget]
    by_cases hdir : dir = id
    · rw [if_pos hdir, hdir, hget]
    · rw [if_neg hdir]
  have hnames (child : Nat) : ((s.setData id (.file new)).get? child).any (fun inode => inode.name == name) =
      (s.get? child).any (fun inode => inode.name == name) := by
    rw [get?_setData hget]
    by_cases hchild : child = id
    · rw [if_pos hchild, hchild, hget]
      rfl
    · rw [if_neg hchild]
  unfold child?
  simp only [hchildren, hnames]

theorem descend_setFile (h : s.content? id = some content) (new : Bytes) : ∀ (names : List String) (dir : Nat),
    (s.setData id (.file new)).descend dir names = s.descend dir names
  | [], dir => rfl
  | name :: rest, dir => by
    rw [descend, descend, child?_setFile h]
    cases s.child? dir name with
    | none => rfl
    | some child => exact descend_setFile h new rest child

/-- **Every path means the same** after a file got other bytes. -/
theorem lookup_setFile (h : s.content? id = some content) (new : Bytes) (path : String) :
    (s.setData id (.file new)).lookup path = s.lookup path :=
  descend_setFile h new _ _

/-- Cutting a file down to nothing. -/
theorem resize_zero (h : s.content? id = some content) : s.resize id 0 = some (s.setData id (.file [])) := by
  rw [resize, h]
  simp [Content.resize]

/-- Writing a file that holds nothing. -/
theorem writeAt_empty (h : s.content? id = some []) {data : Bytes} (hlength : data.length < Content.lengthLimit) :
    s.writeAt id 0 data = some (s.setData id (.file data)) := by
  rw [writeAt, h]
  simp [hlength, Content.writeAt, Content.resize]

end Store

/-! ## Requests for a file -/

/-- The path opens to the file number `id`, with the descriptor `fd`, and it holds `content`. -/
structure Holds (s : Sim) (path : String) (id : Nat) (fd : Fd) (content : Bytes) : Prop where
  lookup_eq : s.lookup path = some id
  fd_eq : Fd.ofFileId? id = some fd
  content_eq : s.store.content? id = some content

/-- The state after a file got other bytes, if there are some for it. -/
def rewritten (s : Sim) (id : Nat) : Option Bytes → Sim
  | some content => { s with store := s.store.setData id (.file content) }
  | none => s

theorem room_rewritten (s : Sim) (id : Nat) (content : Option Bytes) :
    (s.rewritten id content).room = s.room := by
  cases content <;> rfl

namespace Holds

variable {s : Sim} {path : String} {id : Nat} {fd : Fd} {content : Bytes}

/-- Files are the same whatever is on the console. -/
theorem facing {m : Machine Sim} (h : m.state.Holds path id fd content) (heap : Heap) (script : Script) :
    (m.facing heap script).state.Holds path id fd content :=
  ⟨h.lookup_eq, h.fd_eq, h.content_eq⟩

theorem contents_eq (h : s.Holds path id fd content) : s.contents path = some content := by
  rw [contents, h.lookup_eq]
  exact h.content_eq

theorem rewritten_some (h : s.Holds path id fd content) (new : Bytes) :
    (s.rewritten id (some new)).Holds path id fd new :=
  ⟨(Store.lookup_setFile h.content_eq new _).trans h.lookup_eq, h.fd_eq, Store.content?_setData h.content_eq new⟩

/-- The path still opens to the file, which holds what was given last. -/
theorem rewritten (h : s.Holds path id fd content) (new : Option Bytes) :
    (s.rewritten id new).Holds path id fd (new.getD content) := by
  cases new with
  | none => exact h
  | some new => exact h.rewritten_some new

theorem rewritten_rewritten (h : s.Holds path id fd content) (new newer : Bytes) :
    (s.rewritten id (some new)).rewritten id (some newer) = s.rewritten id (some newer) := by
  simp only [Sim.rewritten, Store.setData_setData h.content_eq]

theorem handle?_eq (h : s.Holds path id fd content) : s.handle? fd = some id := by
  obtain ⟨name, parent, hget⟩ := Store.get?_of_content? h.content_eq
  rw [handle?, Fd.fileId?_ofFileId? h.fd_eq, Option.bind_some, hget]
  rfl

section Requests

variable (depth : Nat) {m : Machine Sim}

theorem run_openFile (h : m.state.Holds path id fd content) :
    (Prog.openFile path).run (kernel depth) m = some (.ok fd, m) := by
  have hserve : (kernel depth).serve (.openFile path) m = some (descriptorReply id, m) := by
    show some ((m.state.lookup path).elim Reply.refused descriptorReply, m) = _
    rw [h.lookup_eq]
    rfl
  rw [Prog.openFile, Prog.run_ask, hserve, Option.map_some, descriptorReply, h.fd_eq,
    Fd.understood_ofFileId? h.fd_eq]

theorem serve_fstat (h : m.state.Holds path id fd content) :
    (kernel depth).serve (.fstat fd) m = some (.granted (.stat ⟨content.length, false⟩), m) := by
  obtain ⟨name, parent, hget⟩ := Store.get?_of_content? h.content_eq
  show some (showing Fill.stat ((m.state.handle? fd).bind m.state.store.stat?), m) = _
  rw [h.handle?_eq, Option.bind_some, Store.stat?, hget]
  rfl

theorem run_fstat (h : m.state.Holds path id fd content) :
    (Prog.fstat fd).run (kernel depth) m = some (.ok ⟨content.length, false⟩, m) := by
  rw [Prog.fstat, Prog.run_ask, h.serve_fstat]
  rfl

theorem run_ftruncate (h : m.state.Holds path id fd content) :
    (Prog.ftruncate fd 0).run (kernel depth) m = some (.ok (), { m with state := m.state.rewritten id (some []) }) := by
  have hserve : (kernel depth).serve (.ftruncate fd 0) m =
      some (.granted .nothing, { m with state := m.state.rewritten id (some []) }) := by
    have hresize := Store.resize_zero h.content_eq
    show some _ = _
    rw [h.handle?_eq, Option.bind_some]
    show some ((m.state.storing (m.state.store.resize id 0)).1,
      ({ m with state := (m.state.storing (m.state.store.resize id 0)).2 } : Machine Sim)) = _
    rw [hresize]
    rfl
  rw [Prog.ftruncate, Prog.act, Prog.run_ask, hserve]
  rfl

theorem run_write (h : m.state.Holds path id fd []) {data : Bytes} (hlength : data.length < Content.lengthLimit) :
    (Prog.write fd data 0).run (kernel depth) m =
      some (.ok (), { m with state := m.state.rewritten id (some data) }) := by
  have hserve : (kernel depth).serve (.write fd data 0) m =
      some (.granted .nothing, { m with state := m.state.rewritten id (some data) }) := by
    have hwrite := Store.writeAt_empty h.content_eq hlength
    show (if fd = .stdout || fd = .stderr then some (writeConsole m data) else some _) = _
    rw [Fd.not_console h.fd_eq, if_neg Bool.false_ne_true, h.handle?_eq, Option.bind_some]
    show some ((m.state.storing (m.state.store.writeAt id 0 data)).1,
      ({ m with state := (m.state.storing (m.state.store.writeAt id 0 data)).2 } : Machine Sim)) = _
    rw [hwrite]
    rfl
  rw [Prog.write, Prog.act, Prog.run_ask, hserve]
  rfl

/-- Cutting a file down to nothing and then writing it replaces what it holds. -/
theorem run_replace (h : m.state.Holds path id fd content) {data : Bytes}
    (hlength : data.length < Content.lengthLimit) :
    ((Prog.ftruncate fd 0).orFail fun () =>
      (Prog.write fd data 0).orFail fun () => return .ok .success).run (kernel depth) m =
        some (.ok .success, { m with state := m.state.rewritten id (some data) }) := by
  let cut : Machine Sim := { m with state := m.state.rewritten id (some []) }
  have hcut : cut.state.Holds path id fd [] := h.rewritten_some []
  have htruncate : (Prog.ftruncate fd 0).run (kernel depth) m = some (.ok (), cut) := h.run_ftruncate depth
  have hwrite := hcut.run_write depth hlength
  have hstate : cut.state.rewritten id (some data) = m.state.rewritten id (some data) := h.rewritten_rewritten [] data
  rw [Prog.orFail, Prog.run_seq, htruncate, Option.bind_some]
  dsimp only
  rw [Prog.orFail, Prog.run_seq, hwrite, Option.bind_some, hstate]
  rfl

end Requests

end Holds

end Sim

end LineShell
