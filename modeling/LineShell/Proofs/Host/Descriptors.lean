import LineShell.Host.Kernel
import LineShell.Proofs.Run

/-!
# The descriptor table is sound

A path has a number exactly if the number leads back to it, and the numbers to be given out again are those that lead
nowhere, each once (`Descriptors.Sound`). Giving out a number and forgetting a path keep that, and a request does nothing
else to the table (`Host.serve_tabled`), so every state that the kernel comes to has a sound table
(`Host.Reachable.sound`), whatever the system below answers.
-/

namespace LineShell

/-- Whether a request may change the descriptor table of a kernel. -/
def Request.tables : Request → Bool
  | .openFile _ | .creat .. | .readDir .. | .removeFile _ => true
  | _ => false

namespace Host

namespace Descriptors

/-! ## The table -/

/-- Paths and numbers lead to each other, and the free numbers are those that lead nowhere, each once. -/
structure Sound (t : Descriptors) : Prop where
  lookup_iff : ∀ {path id}, t.handles.lookup path = some id ↔ t.path? id = some path
  mem_free_iff : ∀ {id}, id ∈ t.free ↔ t.files[id]? = some none
  nodup_free : t.free.Nodup

variable {t t' : Descriptors} {path : String} {id : Nat}

theorem lookup_cons (name : String) (id : Nat) (rest : List (String × Nat)) (other : String) :
    ((name, id) :: rest).lookup other = if other = name then some id else rest.lookup other := by
  rw [List.lookup_cons]
  by_cases h : other = name
  · simp [h]
  · rw [beq_eq_false_iff_ne.2 h, if_neg h]

theorem lookup_forget (handles : List (String × Nat)) (path other : String) :
    (handles.filter (·.1 != path)).lookup other = if other = path then none else handles.lookup other := by
  induction handles with
  | nil => simp
  | cons entry rest ih =>
    obtain ⟨name, id⟩ := entry
    by_cases hname : name = path
    · subst hname
      rw [List.filter_cons_of_neg (by simp), ih, lookup_cons]
      split <;> rfl
    · rw [List.filter_cons_of_pos (by simpa using hname), lookup_cons, lookup_cons, ih]
      by_cases hother : other = name
      · rw [if_pos hother, if_neg (hother ▸ hname), if_pos hother]
      · rw [if_neg hother, if_neg hother]

/-- A path whose number led nowhere before leads to it and back. -/
theorem Sound.lookup_iff_assigned (h : t.Sound) (hpath : t.handles.lookup path = none) (hid : t.path? id = none)
    (hhandles : t'.handles = (path, id) :: t.handles)
    (hpath?' : ∀ other, t'.path? other = if other = id then some path else t.path? other) {name : String} {other : Nat} :
    t'.handles.lookup name = some other ↔ t'.path? other = some name := by
  rw [hhandles, hpath?', lookup_cons]
  by_cases hname : name = path
  · subst hname
    by_cases hother : other = id
    · simp [hother]
    · simp [hother, Ne.symm hother, ← h.lookup_iff, hpath]
  · by_cases hother : other = id
    · simp [hname, hother, Ne.symm hname, h.lookup_iff, hid]
    · simp [hname, hother, h.lookup_iff]

theorem path?_setIfInBounds (files : Array (Option String)) (handles : List (String × Nat)) (free : List Nat)
    {slot : Option String} (hid : id < files.size) (other : Nat) :
    path? ⟨files.setIfInBounds id slot, handles, free⟩ other =
      if other = id then slot else (files[other]?).join := by
  rw [path?, Array.getElem?_setIfInBounds]
  by_cases hother : other = id
  · simp [hother, hid]
  · simp [hother, Ne.symm hother]

theorem lt_size_of_free (h : t.Sound) (hfree : id ∈ t.free) : id < t.files.size :=
  (Array.getElem?_eq_some_iff.1 (h.mem_free_iff.1 hfree)).1

/-- **Giving out a number** keeps the table sound. -/
theorem Sound.intern (h : t.Sound) (path : String) : (t.intern path).2.Sound := by
  unfold Descriptors.intern
  split
  · exact h
  · next hnone =>
    split
    · next id free hfree =>
      have hmem : id ∈ t.free := hfree ▸ List.mem_cons_self
      have hslot := h.mem_free_iff.1 hmem
      have hlt := lt_size_of_free h hmem
      have hnodup := h.nodup_free
      rw [hfree, List.nodup_cons] at hnodup
      refine ⟨h.lookup_iff_assigned hnone (by rw [path?, hslot]; rfl) rfl (path?_setIfInBounds _ _ _ hlt), ?_,
        hnodup.2⟩
      intro other
      dsimp only
      rw [Array.getElem?_setIfInBounds]
      by_cases hother : id = other
      · subst hother
        simp [hlt, hnodup.1]
      · rw [if_neg hother, ← h.mem_free_iff, hfree, List.mem_cons]
        simp [Ne.symm hother]
    · next hfree =>
      refine ⟨h.lookup_iff_assigned hnone (by simp [path?]) rfl fun other => ?_, ?_, .nil⟩
      · rw [path?, path?, Array.getElem?_push]
        split <;> rfl
      · intro other
        dsimp only
        rw [Array.getElem?_push]
        split
        · simp
        · rw [← h.mem_free_iff, hfree]

theorem lookup_intern_self (t : Descriptors) (path : String) :
    (t.intern path).2.handles.lookup path = some (t.intern path).1 := by
  unfold intern
  split
  · next hid => exact hid
  · split <;> exact List.lookup_cons_self

/-- The number that is given out leads to the path. -/
theorem Sound.path?_intern (h : t.Sound) (path : String) :
    (t.intern path).2.path? (t.intern path).1 = some path :=
  (h.intern path).lookup_iff.1 (t.lookup_intern_self path)

/-- **Forgetting a path** keeps the table sound. -/
theorem Sound.retire (h : t.Sound) (path : String) : (t.retire path).Sound := by
  unfold Descriptors.retire
  split
  · next id hid =>
    have hpath := h.lookup_iff.1 hid
    have hlt : id < t.files.size := by
      rw [path?, Option.join_eq_some_iff] at hpath
      exact (Array.getElem?_eq_some_iff.1 hpath).1
    refine ⟨fun {name other} => ?_, fun {other} => ?_, ?_⟩
    · rw [path?_setIfInBounds _ _ _ hlt]
      dsimp only
      rw [lookup_forget]
      by_cases hname : name = path
      · -- the path had this number and no other
        subst hname
        by_cases hother : other = id
        · simp [hother]
        · have hunique : t.path? other ≠ some name := fun hback => by
            rw [← h.lookup_iff, hid] at hback
            exact hother (Option.some.inj hback).symm
          simpa [hother, path?] using hunique
      · by_cases hother : other = id
        · simp [hname, hother, h.lookup_iff, hpath, Ne.symm hname]
        · simpa [hname, hother, path?] using h.lookup_iff
    · dsimp only
      rw [Array.getElem?_setIfInBounds, List.mem_cons]
      by_cases hother : id = other
      · simp [hother, hother ▸ hlt]
      · simp [hother, Ne.symm hother, h.mem_free_iff]
    · refine List.nodup_cons.2 ⟨fun hfree => ?_, h.nodup_free⟩
      rw [path?, h.mem_free_iff.1 hfree] at hpath
      cases hpath
  · exact h

theorem empty_sound : Sound {} :=
  ⟨by simp [path?], by simp, .nil⟩

end Descriptors

/-! ## What a request does to the table -/

section Kernel

variable {φ : Type} (S : HostSystem φ)

theorem answerHandle_eq (h : Host φ) (path : String) :
    h.answerHandle path = ((Fd.ofFileId? (h.descriptors.intern path).1).elim .refused fun fd => ⟨fd.raw.toInt64, .nothing⟩,
      { h with descriptors := (h.descriptors.intern path).2 }) := by
  unfold answerHandle handOut
  obtain ⟨id, descriptors⟩ := h.descriptors.intern path
  dsimp only
  cases Fd.ofFileId? id <;> rfl

theorem writeFile_descriptors (h : Host φ) (fd : Fd) (data : Bytes) (offset : Nat) :
    (h.writeFile S fd data offset).2.descriptors = h.descriptors := by
  unfold writeFile
  dsimp only
  split <;> rfl

theorem resize_descriptors (h : Host φ) (path : String) (length : Nat) :
    (h.resize S path length).2.descriptors = h.descriptors := by
  unfold resize
  split <;> rfl

/-- The table after a request: it is as before, a number was given out, or a path was forgotten. -/
inductive Retabled (t : Descriptors) : Descriptors → Prop
  | same : Retabled t t
  | interned (path : String) : Retabled t (t.intern path).2
  | retired (path : String) : Retabled t (t.retire path)

/-- The requests that ask for the descriptor of a path, and the reply that brings it. -/
inductive Asks (h : Host φ) : Request → String → (Fd → Reply) → Prop
  | opened (path : String) : Asks h (.openFile path) (h.resolve path) fun fd => ⟨fd.raw.toInt64, .nothing⟩
  | created (path : String) (directory : Bool) :
    Asks h (.creat path directory) (h.resolve path) fun fd => ⟨fd.raw.toInt64, .nothing⟩
  /-- The entries of a directory come with their descriptors. -/
  | listed {fd : Fd} {dir : String} (offset : UInt64) (name : String) : h.path? fd = some dir →
      Asks h (.readDir fd offset) (join dir name) fun entry => .granted (.entry (DirEntry.ofName name entry))

/-- The table after a request, with the reply to it. -/
inductive Tabled (h : Host φ) : Request → Reply → Descriptors → Prop
  /-- A path was given a number, which may be too large for a descriptor. -/
  | interned {r : Request} {path : String} {fill : Fd → Reply} : h.Asks r path fill →
    Tabled h r ((Fd.ofFileId? (h.descriptors.intern path).1).elim .refused fill) (h.descriptors.intern path).2
  /-- A path was forgotten after what was there was removed. -/
  | retired (path : String) : Tabled h (.removeFile path) (.granted .nothing) (h.descriptors.retire (h.resolve path))
  | same {r : Request} {reply : Reply} : (r.tables = true → reply.failed = true) → Tabled h r reply h.descriptors

theorem Tabled.retabled {h : Host φ} {r : Request} {reply : Reply} {t : Descriptors} (htabled : h.Tabled r reply t) :
    Retabled h.descriptors t := by
  cases htabled with
  | interned => exact .interned _
  | retired path => exact .retired _
  | same => exact .same

theorem lookup_tabled (h : Host φ) (path : String) :
    h.Tabled (.openFile path) (h.lookup S path).1 (h.lookup S path).2.descriptors := by
  unfold lookup
  split
  · exact .same fun _ => rfl
  · rw [answerHandle_eq]
    exact .interned (.opened path)

theorem create_tabled (h : Host φ) (path : String) (directory : Bool) :
    h.Tabled (.creat path directory) (h.create S path directory).1 (h.create S path directory).2.descriptors := by
  unfold create
  dsimp only
  split
  · exact .same fun _ => rfl
  · split
    · exact .same fun _ => rfl
    · rw [answerHandle_eq]
      exact .interned (.created path directory)

theorem unlink_tabled (h : Host φ) (path : String) :
    h.Tabled (.removeFile path) (h.unlink S path).1 (h.unlink S path).2.descriptors := by
  unfold unlink
  dsimp only
  split
  · exact .same fun _ => rfl
  · split
    · exact .same fun _ => rfl
    · exact .retired path

theorem entryAt_tabled (h : Host φ) (fd : Fd) (offset : UInt64) :
    h.Tabled (.readDir fd offset) (h.entryAt S fd offset.toNat).1 (h.entryAt S fd offset.toNat).2.descriptors := by
  unfold entryAt handOut
  split
  · exact .same fun _ => rfl
  · next dir hdir =>
    split
    · exact .same fun _ => rfl
    · next name _ =>
      have hinterned := Tabled.interned (.listed offset name hdir)
      generalize h.descriptors.intern (join dir name) = interned at hinterned ⊢
      obtain ⟨id, table⟩ := interned
      dsimp only at hinterned ⊢
      cases hfd : Fd.ofFileId? id <;>
      · rw [hfd] at hinterned
        exact hinterned

theorem changeDir_descriptors (h : Host φ) (path : String) : (h.changeDir S path).2.descriptors = h.descriptors := by
  unfold changeDir
  split <;> rfl

/-- **The table after a request**, whatever the system answers. -/
theorem serve_tabled {r : Request} {m m' : Machine (Host φ)} {reply : Reply}
    (h : (kernel S).serve r m = some (reply, m')) : m.state.Tabled r reply m'.state.descriptors := by
  have hserve : serve S r m = some (reply, m') := h
  have stays {m' : Machine (Host φ)} (hr : r.tables = false)
      (hsame : m'.state.descriptors = m.state.descriptors) : m.state.Tabled r reply m'.state.descriptors :=
    hsame ▸ .same fun htables => absurd (htables.symm.trans hr) (by decide)
  cases r with
  | read fd count offset =>
    simp only [serve] at hserve
    split at hserve <;>
    · cases hserve
      exact stays rfl rfl
  | write fd data offset =>
    simp only [serve] at hserve
    split at hserve
    · cases hserve
      exact stays rfl rfl
    · have hwrite := writeFile_descriptors S m.state fd data offset.toNat
      generalize m.state.writeFile S fd data offset.toNat = written at hserve hwrite
      cases hserve
      exact stays rfl hwrite
  | openFile path =>
    have hlookup := lookup_tabled S m.state path
    simp only [serve] at hserve
    generalize m.state.lookup S path = answered at hserve hlookup
    cases hserve
    exact hlookup
  | fstat fd =>
    simp only [serve] at hserve
    split at hserve <;>
    · cases hserve
      exact stays rfl rfl
  | waitpid pid =>
    simp only [serve, reap] at hserve
    split at hserve <;>
    · cases hserve
      exact stays rfl rfl
  | exec path argv =>
    simp only [serve, spawn] at hserve
    split at hserve <;>
    · cases hserve
      exact stays rfl rfl
  | exit status => cases hserve
  | truncate path length =>
    have hresize := resize_descriptors S m.state (m.state.resolve path) length.toNat
    simp only [serve] at hserve
    generalize m.state.resize S (m.state.resolve path) length.toNat = answered at hserve hresize
    cases hserve
    exact stays rfl hresize
  | ftruncate fd length =>
    simp only [serve] at hserve
    cases hpath : m.state.path? fd with
    | none =>
      rw [hpath] at hserve
      cases hserve
      exact stays rfl rfl
    | some path =>
      have hresize := resize_descriptors S m.state path length.toNat
      rw [hpath, Option.elim_some] at hserve
      generalize m.state.resize S path length.toNat = answered at hserve hresize
      cases hserve
      exact stays rfl hresize
  | currentDir =>
    cases hserve
    exact stays rfl rfl
  | chdir path =>
    have hchange := changeDir_descriptors S m.state path
    simp only [serve] at hserve
    generalize m.state.changeDir S path = answered at hserve hchange
    cases hserve
    exact stays rfl hchange
  | creat path directory =>
    have hcreate := create_tabled S m.state path directory
    simp only [serve] at hserve
    generalize m.state.create S path directory = answered at hserve hcreate
    cases hserve
    exact hcreate
  | removeFile path =>
    have hunlink := unlink_tabled S m.state path
    simp only [serve] at hserve
    generalize m.state.unlink S path = answered at hserve hunlink
    cases hserve
    exact hunlink
  | readDir fd offset =>
    have hentry := entryAt_tabled S m.state fd offset
    simp only [serve] at hserve
    generalize m.state.entryAt S fd offset.toNat = answered at hserve hentry
    cases hserve
    exact hentry

end Kernel

/-! ## Reachable states -/

section Reachable

variable {φ : Type} {S : HostSystem φ} {state : Host φ}

/-- The states that a kernel comes to: it starts in a directory, answers requests, and anything may happen to the system
below meanwhile. -/
inductive Reachable (S : HostSystem φ) : Host φ → Prop
  | start {system : φ} {dir : String} {h : Host φ} : start S system dir = .ok h → Reachable S h
  | served {r : Request} {m m' : Machine (Host φ)} {reply : Reply} : Reachable S m.state →
    (kernel S).serve r m = some (reply, m') → Reachable S m'.state
  | outside {h : Host φ} (system : φ) : Reachable S h → Reachable S { h with system := system }

theorem Retabled.sound {t t' : Descriptors} (ht : t.Sound) (h : Retabled t t') : t'.Sound := by
  cases h with
  | same => exact ht
  | interned path => exact ht.intern path
  | retired path => exact ht.retire path

/-- A kernel starts with an empty table. -/
theorem start_descriptors {system : φ} {dir : String} (h : start S system dir = .ok state) : state.descriptors = {} := by
  unfold Host.start at h
  cases hreal : S.realPath system dir with
  | error fault =>
    rw [hreal] at h
    cases h
  | ok cwd =>
    rw [hreal] at h
    cases h
    rfl

/-- **Every table is sound**, whatever the system answers. -/
theorem Reachable.sound (h : Reachable S state) : state.descriptors.Sound := by
  induction h with
  | start hstart =>
    rw [start_descriptors hstart]
    exact Descriptors.empty_sound
  | served _ hserve ih => exact (serve_tabled S hserve).retabled.sound ih
  | outside _ _ ih => exact ih

end Reachable

end Host

end LineShell
