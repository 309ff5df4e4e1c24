import LineShell.Proofs.Run

/-!
# Descriptors of files

A descriptor that was handed out for a file leads back to it (`Fd.fileId?_ofFileId?`), stands for no console stream, and
travels unchanged in the word of a reply (`Fd.understood_ofFileId?`).
-/

namespace LineShell

namespace Fd

variable {id : Nat} {fd : Fd}

theorem toInt_ofFileId? (h : ofFileId? id = some fd) :
    fd.raw.toInt = (id + reserved : Nat) ∧ id + reserved < limit := by
  unfold ofFileId? at h
  split at h
  · next hlimit =>
    cases h
    exact ⟨Int32.toInt_ofNat_of_lt (by simpa [limit] using hlimit), hlimit⟩
  · cases h

/-- A descriptor leads back to its file. -/
theorem fileId?_ofFileId? (h : ofFileId? id = some fd) : fd.fileId? = some id := by
  obtain ⟨hraw, -⟩ := toInt_ofFileId? h
  have hreserved : (reserved : Int) ≤ (id + reserved : Nat) := by omega
  rw [fileId?, hraw, if_pos hreserved, Int.toNat_natCast, Nat.add_sub_cancel]

/-- No file is behind a console stream. -/
theorem not_console_of_fileId? (h : fd.fileId? = some id) : fd ≠ .stdin ∧ (fd = .stdout || fd = .stderr) = false := by
  have hconsole (stream : Fd) (hnone : stream.fileId? = none) : fd ≠ stream := by
    rintro rfl
    rw [hnone] at h
    cases h
  exact ⟨hconsole .stdin (by decide), by simp [hconsole .stdout (by decide), hconsole .stderr (by decide)]⟩

theorem not_console (h : ofFileId? id = some fd) : (fd = .stdout || fd = .stderr) = false :=
  (not_console_of_fileId? (fileId?_ofFileId? h)).2

/-- The descriptor of a file arrives as it was sent. -/
theorem understood_ofFileId? (h : ofFileId? id = some fd) (r : Request) (operation : Operation) :
    Prog.understood r (Prog.descriptor operation) ⟨fd.raw.toInt64, .nothing⟩ = .ok fd := by
  obtain ⟨hraw, hlimit⟩ := toInt_ofFileId? h
  have hword : fd.raw.toInt64.toInt = (id + reserved : Nat) := by rw [Int32.toInt_toInt64, hraw]
  have hfailed : (⟨fd.raw.toInt64, .nothing⟩ : Reply).failed = false := Reply.failed_of_natCast hword
  have hlt : fd.raw.toInt64.toInt < (limit : Int) := by
    rw [hword]
    exact_mod_cast hlimit
  simp only [Prog.understood, hfailed, Bool.false_eq_true, ↓reduceIte, Prog.descriptor, hlt, Int32.toInt32_toInt64]

end Fd

end LineShell
