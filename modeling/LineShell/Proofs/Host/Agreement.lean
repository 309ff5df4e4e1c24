import LineShell.Proofs.Host.Disk
import LineShell.Proofs.Sim.FileRequests

/-!
# Two kernels and one file

A file that was created on both kernels holds the same on both, whatever is written, read and cut, and both answer the same,
as long as nothing is written past the end (`Host.serveAll_agrees`). There they part: a write of nothing past the end fills
the file up to there in the memory of the one kernel, and the other one leaves it as it is.
-/

namespace LineShell.Host

open FileRequest (replies leaveAll AllGapless)

/-- **Both kernels hold the file that was created on them**, on every system whose regular files are what they are: any
requests on it that stay below what the system stores are granted by both. The answers are those that the content gives,
up to what a write of nothing past the end does. So they are the same, sizes and bytes, as long as there is none; and the
first one parts the kernels: it gives the file in memory that length, and leaves the other file as long as it was. -/
theorem serveAll_agrees {φ : Type} {S : HostSystem φ} {Holds : φ → String → Bytes → Prop}
    {At : φ → S.File → String → Nat → Prop} {limit : Nat} (hS : S.Regular Holds At limit) {depth : Nat}
    {ms ms₁ : Machine Sim} {mh mh₁ : Machine (Host φ)} {path path' : String} {fd fd' : Fd}
    (hms : ms.state.Reachable) (hmh : Reachable S mh.state)
    (hcreat : (Prog.creat path false).run (Sim.kernel depth) ms = some (.ok fd, ms₁))
    (hcreat' : (Prog.creat path' false).run (kernel S) mh = some (.ok fd', mh₁))
    {ops : List FileRequest} (hops : ∀ op ∈ ops, op.Within limit) :
    ∃ ms₂ mh₂,
      (Sim.kernel depth).serveAll (ops.map (·.on fd path)) ms₁ = some (replies true [] ops, ms₂) ∧
      (kernel S).serveAll (ops.map (·.on fd' path')) mh₁ = some (replies false [] ops, mh₂) ∧
      (∀ reply ∈ replies true [] ops ++ replies false [] ops, reply.failed = false) ∧
      (AllGapless [] ops →
        replies true [] ops = replies false [] ops ∧
        ∀ offset : UInt64, (leaveAll true [] ops).length < offset.toNat → offset.toNat ≤ limit → ∃ ms₃ mh₃,
          (Sim.kernel depth).serveAll [.write fd [] offset, .fstat fd] ms₂ =
            some ([.granted .nothing, .granted (.stat ⟨offset.toNat, false⟩)], ms₃) ∧
          (kernel S).serveAll [.write fd' [] offset, .fstat fd'] mh₂ =
            some ([.granted .nothing, .granted (.stat ⟨(leaveAll true [] ops).length, false⟩)], mh₃)) := by
  obtain ⟨id, hfile⟩ := Sim.holds_creat hms.intact hcreat
  have hfile' := holds_creat hS hmh.sound hcreat'
  have hlimit : limit < Content.lengthLimit := Nat.lt_trans hS.limit_lt (by decide)
  have hsim := Sim.serves depth path id fd hlimit
  have hhost := serves hS path' fd'
  obtain ⟨ms₂, hserve, hms₂⟩ := hsim.serveAll hops hfile
  obtain ⟨mh₂, hserve', hmh₂⟩ := hhost.serveAll hops hfile'
  have hgranted (filling : Bool) : ∀ reply ∈ replies filling [] ops, reply.failed = false :=
    FileRequest.replies_granted filling hS.limit_lt (Nat.zero_le limit) hops
  refine ⟨ms₂, mh₂, hserve, hserve', fun reply hreply => ?_, fun hgapless => ?_⟩
  · exact (List.mem_append.1 hreply).elim (hgranted true reply) (hgranted false reply)
  · obtain ⟨hreplies, hleave⟩ := FileRequest.replies_eq hgapless
    refine ⟨hreplies.symm, fun offset hpast hoffset => ?_⟩
    have hwithin : ∀ op ∈ [FileRequest.write [] offset, .fstat], op.Within limit := by
      simp [FileRequest.Within, hoffset]
    obtain ⟨ms₃, hparts, -⟩ := hsim.serveAll hwithin hms₂
    obtain ⟨mh₃, hparts', -⟩ := hhost.serveAll hwithin hmh₂
    refine ⟨ms₃, mh₃, hparts.trans ?_, hparts'.trans ?_⟩
    · rw [FileRequest.replies_nothing, FileRequest.length_leave_filling hpast]
    · rw [FileRequest.replies_nothing, hleave]
      rfl

/-- The files of a disk on which no program starts. -/
def Disk.fileSystem : HostSystem Disk :=
  Disk.system fun _ _ _ _ _ _ => none

/-- A disk with nothing on it. -/
def Disk.blank : Disk :=
  ⟨#[.emptyDir], #[Disk.epoch], 0⟩

theorem Disk.blank_start : start Disk.fileSystem Disk.blank "/" = .ok { cwd := "/", system := Disk.blank } := by
  have hsteps : Disk.steps (Text.bytes "/") = [[46]] := by decide +kernel
  have hclean : (Text.bytes "/").contains 0 = false := by decide +kernel
  have hroot : Disk.blank.entries? (Place.id []) = some [] := rfl
  have hreal : Disk.fileSystem.realPath Disk.blank "/" = .ok "/" := by
    show Disk.realPathOf Disk.blank "/" = _
    rw [Disk.realPathOf, hsteps, Disk.follow_dot hroot, Disk.follow_nil]
    simp only [hclean, Bool.false_eq_true, ↓reduceIte]
    exact congrArg Except.ok (by decide +kernel)
  rw [start, hreal]
  rfl

/-- A name in the root is looked up there. -/
theorem Disk.locateLast_root {d : Disk} (h : (d.entries? (Place.id [])).isNone = false) :
    d.locateLast [] (Text.bytes "/f") = .ok ([], [102]) := by
  have hbytes : Text.bytes "/f" = [47, 102] := by decide +kernel
  have hadmissible : Disk.inadmissible? [47, 102] = none := by decide +kernel
  have hsplit : (Disk.split [47, 102]).reverse = [[102]] := by decide +kernel
  simp only [hbytes, Disk.locateLast, hadmissible, hsplit, List.reverse_nil, Disk.follow_nil]
  show (if (d.entries? (Place.id [])).isNone then _ else _) = _
  rw [h]
  rfl

theorem Disk.blank_createFile : ∃ d, Disk.fileSystem.createFile Disk.blank "/f" = some d := by
  have hbytes : Text.bytes "/f" = [47, 102] := by decide +kernel
  show ∃ d, ((Disk.blank.add [] (Text.bytes "/f") .emptyFile).map (·.2)).toOption = some d
  rw [Disk.add, Disk.locateLast_root rfl, hbytes]
  exact ⟨_, rfl⟩

theorem Disk.blank_removeFile {d : Disk} (h : Disk.fileSystem.createFile Disk.blank "/f" = some d) :
    ∃ d', Disk.fileSystem.removeFile d "/f" = some d' := by
  have hbytes : Text.bytes "/f" = [47, 102] := by decide +kernel
  have hcreate : ((Disk.blank.add [] (Text.bytes "/f") .emptyFile).map (·.2)).toOption = some d := h
  rw [Disk.add, Disk.locateLast_root rfl, hbytes] at hcreate
  cases hcreate
  show ∃ d', (Disk.removeFile _ [] (Text.bytes "/f")).toOption = some d'
  rw [Disk.removeFile, Disk.lastOf?, Disk.locateLast?, Disk.locateLast_root rfl, hbytes]
  exact ⟨_, rfl⟩

/-- A file on a blank disk and in memory: both kernels show the same five bytes after two writes and a cut, and part when
nothing is written behind them. -/
theorem serveAll_agrees_blank :
    let ms : Machine Sim := { state := .empty (.script []) }
    let mh : Machine (Host Disk) := { state := { cwd := "/", system := Disk.blank } }
    let ops : List FileRequest := [.write [97, 98, 99] 0, .truncate 1, .write [122] 4, .read 8 0, .fstat]
    let answers : List Reply := [.granted .nothing, .granted .nothing, .granted .nothing,
      ⟨5, .bytes [97, 0, 0, 0, 122]⟩, .granted (.stat ⟨5, false⟩)]
    Reachable Disk.fileSystem mh.state ∧ ∃ fd fd' ms₁ mh₁ ms₂ mh₂ ms₃ mh₃,
      (Prog.creat "/f" false).run (Sim.kernel 0) ms = some (.ok fd, ms₁) ∧
      (Prog.creat "/f" false).run (kernel Disk.fileSystem) mh = some (.ok fd', mh₁) ∧
      (Sim.kernel 0).serveAll (ops.map (·.on fd "/f")) ms₁ = some (answers, ms₂) ∧
      (kernel Disk.fileSystem).serveAll (ops.map (·.on fd' "/f")) mh₁ = some (answers, mh₂) ∧
      (Sim.kernel 0).serveAll [.write fd [] 9, .fstat fd] ms₂ =
        some ([.granted .nothing, .granted (.stat ⟨9, false⟩)], ms₃) ∧
      (kernel Disk.fileSystem).serveAll [.write fd' [] 9, .fstat fd'] mh₂ =
        some ([.granted .nothing, .granted (.stat ⟨5, false⟩)], mh₃) := by
  intro ms mh ops answers
  have hreachable : Reachable Disk.fileSystem mh.state := .start Disk.blank_start
  have hcreated : ((Prog.creat "/f" false).run (Sim.kernel 0) ms).map (fun x => x.1.toOption) = some (some ⟨4⟩) := by
    decide +kernel
  obtain ⟨⟨_ | fd, ms₁⟩, hcreat, hfd⟩ := Option.map_eq_some_iff.1 hcreated
  · cases hfd
  obtain ⟨d, hcreate⟩ := Disk.blank_createFile
  obtain ⟨mh₁, hcreat'⟩ : ∃ mh₁, (Prog.creat "/f" false).run (kernel Disk.fileSystem) mh = some (.ok ⟨3⟩, mh₁) :=
    run_creat (by decide +kernel) (by decide +kernel) hcreate (by decide +kernel)
  have hwithin : ∀ op ∈ ops, op.Within Disk.sizeLimit := by decide +kernel
  obtain ⟨ms₂, mh₂, hserve, hserve', -, hagree⟩ :=
    serveAll_agrees Disk.system_regular (.empty _) hreachable hcreat hcreat' hwithin
  obtain ⟨heq, hpart⟩ := hagree (by decide +kernel)
  obtain ⟨ms₃, mh₃, hparts, hparts'⟩ := hpart 9 (by decide +kernel) (by decide +kernel)
  have hanswers : replies true [] ops = answers := by decide +kernel
  rw [hanswers] at hserve
  rw [← heq, hanswers] at hserve'
  exact ⟨hreachable, fd, ⟨3⟩, ms₁, mh₁, ms₂, mh₂, ms₃, mh₃, hcreat, hcreat', hserve, hserve', hparts, hparts'⟩

end LineShell.Host
