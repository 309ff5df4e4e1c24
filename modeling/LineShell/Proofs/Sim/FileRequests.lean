import LineShell.Proofs.Descriptor
import LineShell.Proofs.FileRequests
import LineShell.Proofs.Sim.Contents

/-!
# A file of the kernel in memory

A file that was created is empty and has the path and the descriptor under which it was (`Sim.holds_creat`), and requests
on it are answered from what it holds (`Sim.serves`). A write of nothing past the end fills the file up to there.
-/

namespace LineShell.Sim

/-! ## A new file -/

namespace Store

variable {s : Store} {id : Nat}

/-- Appending moves nothing. -/
theorem LiesAt.append {names : List String} (h : s.LiesAt id names) (inode : Inode) :
    (s.append inode).LiesAt id names := by
  induction h with
  | root => exact .root
  | child hplace hne _ ih => exact .child (place?_append_of_place? hplace) hne ih

/-- What was created lies at its path. -/
theorem Tree.lookup_create (h : s.Tree) {path : String} (hpath : Path.Normal path) {directory : Bool} {s' : Store}
    (hcreate : s.create path directory = some (id, s')) : s'.lookup path = some id := by
  have htree := h.create hpath hcreate
  rw [htree.lookup_iff hpath]
  obtain ⟨names, name, dir, children, rfl, -, -, -, hdescend, hdir, rfl, rfl⟩ := create_eq hpath hcreate
  refine ⟨_, .child ?_ ?_ ((h.descend_iff.1 hdescend).append _), rfl⟩
  · rw [place?_append, if_pos rfl]
  · exact Nat.ne_of_gt (Nat.lt_of_le_of_lt (Nat.zero_le dir) (lt_size_of_children? hdir))

end Store

variable {depth : Nat} {m m' : Machine Sim} {path : String} {fd : Fd} {id : Nat}

/-- **A created file** is empty, and is there under its path and its descriptor. -/
theorem holds_creat (h : m.state.Intact) (hcreat : (Prog.creat path false).run (kernel depth) m = some (.ok fd, m')) :
    ∃ id, m'.state.Holds path id fd [] := by
  rw [Prog.creat, Prog.run_ask] at hcreat
  obtain ⟨⟨reply, m₁⟩, hserve, heq⟩ := Option.map_eq_some_iff.1 hcreat
  obtain ⟨hword, rfl⟩ := Prod.mk.inj heq
  rw [serve_creat] at hserve
  generalize hstate : m.state.create path false = created at hserve
  cases hserve
  have hnormal := Path.absolute_normal m.state.cwd path
  rw [create_resolved] at hstate
  split at hstate
  · next id store hcreate =>
    subst hstate
    cases hfd : Fd.ofFileId? id with
    | none =>
      rw [descriptorReply, hfd] at hword
      cases hword
    | some fd' =>
      rw [descriptorReply, hfd, Fd.understood_ofFileId? hfd] at hword
      cases hword
      refine ⟨id, h.tree.lookup_create hnormal hcreate, hfd, ?_⟩
      obtain ⟨_, name, _, _, -, -, -, -, -, hdir, rfl, rfl⟩ := Store.create_eq hnormal hcreate
      exact Store.content?_append_new hdir name
  · subst hstate
    cases hword

/-! ## Requests -/

/-- A file is where it was after files were changed. -/
theorem Rewritten.holds {s s' : Sim} {edits : Nat → List Content.Edit} {content : Bytes} (h : s.Rewritten s' edits)
    (hfile : s.Holds path id fd content) : s'.Holds path id fd (Content.after content (edits id)) := by
  refine ⟨(h.lookup_eq path).trans hfile.lookup_eq, hfile.fd_eq, ?_⟩
  rw [h.content, hfile.content_eq, Option.map_some]

/-- A change that reaches a file is granted, and made. -/
theorem serve_edit {content : Bytes} (h : m.state.Holds path id fd content) {r : Request} (hr : r.OfContent)
    {edit : Content.Edit} (hedit : m.state.edit? id r = some edit) :
    ∃ m', (kernel depth).serve r m = some (.granted .nothing, m') ∧
      m'.state.Holds path id fd (edit.apply content) := by
  obtain ⟨reply, m₁, hserve, hrewritten⟩ := serve_rewritten depth m hr
  obtain ⟨m₂, hgranted⟩ := serve_granted depth h.content_eq hedit
  cases hserve.symm.trans hgranted
  refine ⟨_, hgranted, ?_⟩
  have hholds := hrewritten.holds h
  rwa [hedit] at hholds

/-- **Requests on a file** are answered from what it holds, and a write of nothing past the end fills it up to there. -/
theorem serves (depth : Nat) (path : String) (id : Nat) (fd : Fd) {limit : Nat} (hlimit : limit < Content.lengthLimit) :
    (kernel depth).Serves fd path limit true fun m content => m.state.Holds path id fd content where
  serve {m content op} h hop := by
    cases op with
    | read count offset => exact ⟨m, serve_readContent depth h.content_eq h.handle?_eq count offset, h⟩
    | fstat => exact ⟨m, h.serve_fstat depth, h⟩
    | write data offset =>
      have hroom : offset.toNat + data.length < Content.lengthLimit := Nat.lt_of_le_of_lt hop hlimit
      obtain ⟨m', hserve, hholds⟩ := serve_edit h (r := .write fd data offset) trivial
        (if_pos ⟨h.handle?_eq, hroom⟩)
      refine ⟨m', hserve, ?_⟩
      rw [FileRequest.leave, if_neg (by simp)]
      exact hholds
    | truncate length => exact serve_edit h (r := .truncate path length) trivial (if_pos h.lookup_eq)
    | ftruncate length => exact serve_edit h (r := .ftruncate fd length) trivial (if_pos h.handle?_eq)

end LineShell.Sim
