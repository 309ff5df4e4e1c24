import LineShell.Proofs.Descriptor
import LineShell.Proofs.Path
import LineShell.Sim.Kernel

/-!
# Creating files in memory

The kernel resolves the path of a new file, and what it got, and the path of the directory, once more. A path that was
resolved means itself (`Sim.lookup_again`), so creating a file is changing the store (`Store.create`) at the resolved path:

- `Sim.create_resolved`: the answer to a creation, and the state then;
- `Sim.install_resolved`: the same where a program is bound to the new file.
-/

namespace LineShell

namespace Sim

/-- Create an empty file or directory at a path in normal form. Its name may take `fileNameWidth` bytes, nothing may be
there yet, and its parent must be a directory. -/
def Store.create (s : Store) (path : String) (directory : Bool) : Option (Nat × Store) :=
  match Path.splitLast path with
  | none => none
  | some (parentPath, name) =>
    if fileNameWidth < Text.size name || (s.lookup path).isSome then none
    else
      match s.lookup parentPath with
      | none => none
      | some parent =>
        match s.children? parent with
        | none => none
        | some _ =>
          some (s.slots.size, s.append { name, parent, data := if directory then .dir [] else .file [] })

/-- Resolved again, the path of a new file and the path of its parent are what they were. -/
theorem lookup_again (s : Sim) (path : String) :
    s.lookup (Path.absolute s.cwd path) = s.store.lookup (Path.absolute s.cwd path) ∧
      ∀ parent name, Path.splitLast (Path.absolute s.cwd path) = some (parent, name) →
        s.lookup parent = s.store.lookup parent := by
  refine ⟨by rw [lookup, Path.absolute_absolute], fun parent name hsplit => ?_⟩
  obtain ⟨names, hnames, hpath⟩ := Path.absolute_normal s.cwd path
  rw [hpath] at hsplit
  rcases List.eq_nil_or_concat names with rfl | ⟨front, last, rfl⟩
  · rw [Path.splitLast_root] at hsplit
    cases hsplit
  · rw [List.concat_eq_append] at hnames hsplit
    rw [Path.splitLast_ofNames front (hnames last (by simp))] at hsplit
    cases hsplit
    rw [lookup, Path.absolute_ofNames fun other hother => hnames other (List.mem_append_left _ hother)]

/-- **A creation** changes the store at the resolved path, or is refused. -/
theorem create_resolved (s : Sim) (path : String) (directory : Bool) :
    s.create path directory =
      match s.store.create (Path.absolute s.cwd path) directory with
      | some (id, store) => (descriptorReply id, { s with store := store })
      | none => (.refused, s) := by
  obtain ⟨hplace, hparent⟩ := s.lookup_again path
  unfold create Store.create
  dsimp only
  rw [hplace]
  cases hsplit : Path.splitLast (Path.absolute s.cwd path) with
  | none => rfl
  | some split =>
    obtain ⟨parentPath, name⟩ := split
    dsimp only
    rw [hparent parentPath name hsplit]
    split
    · rfl
    · cases s.store.lookup parentPath with
      | none => rfl
      | some parent =>
        dsimp only
        cases s.store.children? parent <;> rfl

/-- **An installation** is a creation whose new file has the program bound to it, if a descriptor can hold the file. -/
theorem install_resolved (s : Sim) (path : String) (program : Program) :
    s.install path program =
      match s.store.create (Path.absolute s.cwd path) false with
      | none => (.refused, s)
      | some (id, store) =>
        match Fd.ofFileId? id with
        | some fd => (⟨fd.raw.toInt64, .nothing⟩, bindImage { s with store := store } id program)
        | none => (.refused, { s with store := store }) := by
  unfold install
  rw [create_resolved]
  cases s.store.create (Path.absolute s.cwd path) false with
  | none => rfl
  | some created =>
    obtain ⟨id, store⟩ := created
    dsimp only
    cases hfd : Fd.ofFileId? id with
    | none =>
      rw [descriptorReply, hfd]
      rfl
    | some fd =>
      have hword := Fd.understood_ofFileId? hfd (.creat path false) .creat
      rw [descriptorReply, hfd]
      unfold Prog.understood at hword
      dsimp only
      split
      · next hfailed =>
        rw [if_pos hfailed] at hword
        cases hword
      · next hgranted =>
        rw [if_neg hgranted] at hword
        rw [hword]
        dsimp only
        rw [Fd.fileId?_ofFileId? hfd, Option.elim_some]

end Sim

end LineShell
