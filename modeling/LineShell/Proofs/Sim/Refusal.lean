import LineShell.Proofs.Arrival
import LineShell.Proofs.Sim.Answers
import LineShell.Proofs.Sim.Tree

/-!
# Refused requests

A request that the kernel in memory does not grant leaves no trace. Every operation looks first at all that could be
wrong and changes the state last, so a failure is answered with nothing written into the caller's memory and with the
state as it was (`Spares`, one lemma for each operation). `Sim.serve_failed` puts them together; the console is the only
thing that a refusal can use up, since a fault on it is gone once it has failed a read.
-/

namespace LineShell

theorem Reply.failed_granted (fill : Fill) : (granted fill).failed = false := rfl

/-- A result that is a failure is the refusal, with all as it was before. -/
def Spares {τ : Type} (before : τ) (result : Reply × τ) : Prop :=
  result.1.failed = true → result = (.refused, before)

namespace Script

/-- What a read that fails met, and what it leaves. -/
theorem arrivals_of_read_none {count : Nat} {rest : Script} : ∀ {script : Script},
    script.read count = (none, rest) → script.arrivals = .fault :: rest.arrivals
  | [], h => by cases h
  | .fault :: _, h => by
    cases h
    rfl
  | .data [] :: more, h => by
    rw [arrivals_data, List.map_nil, List.nil_append]
    exact @arrivals_of_read_none _ _ more h
  | .data (_ :: _) :: _, h => by cases h

theorem length_read_le {count : Nat} {data : Bytes} {rest : Script} : ∀ {script : Script},
    script.read count = (some data, rest) → data.length ≤ count
  | [], h => by
    cases h
    exact Nat.zero_le _
  | .fault :: _, h => by cases h
  | .data [] :: more, h => @length_read_le _ _ _ more h
  | .data (_ :: _) :: _, h => by
    cases h
    exact List.length_take_le _ _

end Script

theorem StdStream.length_read_le (stream : StdStream) (count : Nat) : (stream.read count).1.length ≤ count := by
  unfold read
  split <;> exact List.length_take_le _ _

namespace Spares

variable {τ : Type} {before after : τ} {reply : Reply}

theorem refused : Spares before (.refused, before) :=
  fun _ => rfl

/-- There is nothing to say of a request that is granted. -/
theorem of_not_failed (h : reply.failed = false) : Spares before (reply, after) := by
  intro hfailed
  rw [h] at hfailed
  cases hfailed

theorem granted (fill : Fill) : Spares before (.granted fill, after) :=
  of_not_failed (Reply.failed_granted fill)

/-- Looking something up changes nothing, so only the reply matters. -/
theorem same (h : reply.failed = true → reply = .refused) : Spares before (reply, before) :=
  fun hfailed => congrArg (·, before) (h hfailed)

end Spares

/-- The buffer that is to be read into is one that memory can hold: it takes less than 2^63 bytes. -/
def Request.Fits : Request → Prop
  | .read _ count _ => count.toNat < 0x8000000000000000
  | _ => True

namespace Sim

/-! ## The replies that show something -/

theorem showing_spared {α : Type} (fill : α → Fill) (found : Option α) (h : (showing fill found).failed = true) :
    showing fill found = .refused := by
  cases found with
  | none => rfl
  | some found => cases h

/-- A descriptor that can be handed out is no failure. -/
theorem failed_descriptorReply {id : Nat} (h : id + Fd.reserved < Fd.limit) : (descriptorReply id).failed = false := by
  have hfd : Fd.ofFileId? id = some ⟨Int32.ofNat (id + Fd.reserved)⟩ := if_pos h
  rw [descriptorReply, hfd]
  refine Reply.failed_of_natCast (n := id + Fd.reserved) ?_
  rw [Int32.toInt_toInt64]
  exact (Fd.toInt_ofFileId? hfd).1

theorem descriptorReply_spared {id : Nat} (h : (descriptorReply id).failed = true) : descriptorReply id = .refused := by
  by_cases hlimit : id + Fd.reserved < Fd.limit
  · rw [failed_descriptorReply hlimit] at h
    cases h
  · rw [descriptorReply, show Fd.ofFileId? id = none from if_neg hlimit]

variable {s : Sim}

theorem readFile_spared {fd : Fd} {count : Nat} (hcount : count < 0x8000000000000000) (offset : Nat)
    (h : (s.readFile fd count offset).failed = true) : s.readFile fd count offset = .refused := by
  unfold readFile at h ⊢
  split at h
  · rfl
  · next content hcontent =>
    have hlength : (Content.readAt content offset count).length < 0x8000000000000000 :=
      Nat.lt_of_le_of_lt (List.length_take_le _ _) hcount
    rw [Reply.failed_ofNat hlength] at h
    cases h

/-! ## The operations that change something -/

theorem storing_spares (store : Option Store) : Spares s (s.storing store) := by
  cases store with
  | none => exact .refused
  | some store => exact .granted _

/-- The table of files has room for another one, so a file that was created is answered with its descriptor. -/
theorem create_spares (hslots : s.store.slots.size + Fd.reserved < Fd.limit) (path : String) (directory : Bool) :
    Spares s (s.create path directory) := by
  rw [create_resolved]
  cases hcreate : s.store.create (Path.absolute s.cwd path) directory with
  | none => exact .refused
  | some created =>
    obtain ⟨id, store⟩ := created
    obtain ⟨_, _, _, _, -, -, -, -, -, -, rfl, -⟩ := Store.create_eq (Path.absolute_normal _ _) hcreate
    exact .of_not_failed (failed_descriptorReply hslots)

theorem unlink_spares (path : String) : Spares s (s.unlink path) := by
  unfold unlink
  cases s.lookup path with
  | none => exact .refused
  | some id =>
    dsimp only
    cases s.store.remove id with
    | none => exact .refused
    | some store => exact .granted _

theorem spawn_spares {path : String} {argv : List String} {result : Reply × Sim}
    (h : s.spawn path argv = some result) : Spares s result := by
  unfold spawn at h
  cases hlookup : (s.lookup path).bind fun id => s.images.lookup id with
  | none =>
    rw [hlookup] at h
    cases h
    exact .refused
  | some program =>
    rw [hlookup] at h
    dsimp only at h
    split at h
    · next hpid =>
      cases h
      exact .of_not_failed (Reply.failed_ofNat (Nat.lt_of_succ_lt hpid) _)
    · cases h

theorem changeDir_spares (path : String) : Spares s (s.changeDir path) := by
  unfold changeDir
  split
  · exact .granted _
  · exact .refused

/-! ## The console and processes -/

section Machines

variable {m m' : Machine Sim} {reply : Reply}

/-- A read of the console that fails met a fault, and used up that and nothing else. -/
theorem readConsole_failed {count : Nat} (hcount : count < 0x8000000000000000)
    (h : (readConsole m count).1.failed = true) :
    ∃ script rest, m.state.input = .script script ∧ script.arrivals = .fault :: rest.arrivals ∧
      readConsole m count = (.refused, { m with state := { m.state with input := .script rest } }) := by
  unfold readConsole at h ⊢
  split at h
  · next script hinput =>
    rw [hinput]
    split at h
    · next data rest hread =>
      have hlength := Script.length_read_le hread
      rw [Reply.failed_ofNat (Nat.lt_of_le_of_lt hlength hcount)] at h
      cases h
    · next rest hread =>
      refine ⟨script, rest, rfl, Script.arrivals_of_read_none hread, ?_⟩
      rfl
  · next hinput =>
    have hlength := StdStream.length_read_le m.terminal.stdin count
    rw [Reply.failed_ofNat (Nat.lt_of_le_of_lt hlength hcount)] at h
    cases h

theorem writeConsole_spares (data : Bytes) : Spares m (writeConsole m data) := by
  unfold writeConsole
  split
  · exact .refused
  · exact .granted _

/-- Only a process that is not there cannot be waited for. -/
theorem reap_failed {runProcess : Process → Machine Sim → Option (ExitCode × Machine Sim)} {pid : Pid}
    (h : reap runProcess pid m = some (reply, m')) (hfailed : reply.failed = true) : reply = .refused ∧ m' = m := by
  cases htake : m.state.take pid with
  | none =>
    cases (reap_none htake).symm.trans h
    exact ⟨rfl, rfl⟩
  | some found =>
    obtain ⟨_, -, heq⟩ := Option.map_eq_some_iff.1 ((reap_some htake).symm.trans h)
    cases heq
    cases hfailed

end Machines

/-! ## All requests -/

/-- **A request that fails changes nothing.** It is answered with the refusal, which writes nothing into the caller's
memory, and of the whole machine, with its files, its images, its processes and its working directory, only a fault that
failed a read of the console is gone. -/
theorem serve_failed {depth : Nat} {r : Request} {m m' : Machine Sim} {reply : Reply}
    (hslots : m.state.store.slots.size + Fd.reserved < Fd.limit) (hfits : r.Fits)
    (hserve : (kernel depth).serve r m = some (reply, m')) (hfailed : reply.failed = true) :
    reply = .refused ∧ (m' = m ∨ ∃ count offset script rest, r = .read .stdin count offset ∧
      m.state.input = .script script ∧ script.arrivals = .fault :: rest.arrivals ∧
      m' = { m with state := { m.state with input := .script rest } }) := by
  -- an answer from the state alone, and one that changes the state
  have looked {answer : Reply} (hspared : answer.failed = true → answer = .refused)
      (h : some (answer, m) = some (reply, m')) : reply = .refused ∧ m' = m := by
    cases h
    exact ⟨hspared hfailed, rfl⟩
  have changed {result : Reply × Sim} (hspares : Spares m.state result)
      (h : some (result.1, { m with state := result.2 }) = some (reply, m')) : reply = .refused ∧ m' = m := by
    cases h
    rw [hspares hfailed]
    exact ⟨rfl, rfl⟩
  cases r with
  | read fd count offset =>
    by_cases hfd : fd = .stdin
    · subst hfd
      rw [serve_readConsole] at hserve
      have hread : (readConsole m count.toNat).1 = reply := congrArg Prod.fst (Option.some.inj hserve)
      obtain ⟨script, rest, hinput, harrivals, heq⟩ := readConsole_failed hfits (hread ▸ hfailed)
      cases hserve.symm.trans (congrArg some heq)
      exact ⟨rfl, .inr ⟨count, offset, script, rest, rfl, hinput, harrivals, rfl⟩⟩
    · rw [serve_readFile _ _ hfd] at hserve
      exact (looked (readFile_spared hfits _) hserve).imp_right .inl
  | write fd data offset =>
    by_cases hfd : (fd = .stdout || fd = .stderr) = true
    · rw [serve_writeConsole _ _ hfd] at hserve
      have hrefused := writeConsole_spares (m := m) data
      rw [Option.some.inj hserve] at hrefused
      cases hrefused hfailed
      exact ⟨rfl, .inl rfl⟩
    · rw [serve_writeFile _ _ hfd] at hserve
      exact (changed (storing_spares _) hserve).imp_right .inl
  | openFile path =>
    refine (looked (fun h => ?_) hserve).imp_right .inl
    cases hlookup : m.state.lookup path with
    | none => rfl
    | some id =>
      rw [hlookup] at h
      exact descriptorReply_spared h
  | fstat fd => exact (looked (showing_spared _ _) hserve).imp_right .inl
  | waitpid pid => exact (reap_failed hserve hfailed).imp_right .inl
  | exec path argv =>
    rw [serve_exec] at hserve
    obtain ⟨result, hspawn, hserve⟩ := Option.map_eq_some_iff.1 hserve
    exact (changed (spawn_spares hspawn) (congrArg some hserve)).imp_right .inl
  | exit status => cases hserve
  | truncate path length => exact (changed (storing_spares _) hserve).imp_right .inl
  | ftruncate fd length => exact (changed (storing_spares _) hserve).imp_right .inl
  | currentDir => exact (looked (fun h => by cases h) hserve).imp_right .inl
  | chdir path => exact (changed (changeDir_spares path) hserve).imp_right .inl
  | creat path directory => exact (changed (create_spares hslots path directory) hserve).imp_right .inl
  | removeFile path => exact (changed (unlink_spares path) hserve).imp_right .inl
  | readDir fd offset => exact (looked (showing_spared _ _) hserve).imp_right .inl

/-- A directory with a file in it is not removed, and the fault on the console is still to come. -/
theorem serve_failed_unlink :
    let m : Machine Sim := { state := ((Sim.booted (.script [.fault])).create "/tmp/a" false).2 }
    m.state.store.slots.size + Fd.reserved < Fd.limit ∧ (Request.removeFile "/tmp").Fits ∧
      ∃ reply m', (kernel 0).serve (.removeFile "/tmp") m = some (reply, m') ∧ reply.failed = true ∧
        reply = .refused ∧ m' = m := by
  intro m
  have hslots : m.state.store.slots.size + Fd.reserved < Fd.limit := by decide +kernel
  have hfits : (Request.removeFile "/tmp").Fits := trivial
  have hfailed : (m.state.unlink "/tmp").1.failed = true := by decide +kernel
  have hserve : (kernel 0).serve (.removeFile "/tmp") m =
      some ((m.state.unlink "/tmp").1, { m with state := (m.state.unlink "/tmp").2 }) := rfl
  refine ⟨hslots, hfits, _, _, hserve, hfailed, ?_⟩
  obtain ⟨hreply, hsame | ⟨_, _, _, _, hread, -⟩⟩ := serve_failed hslots hfits hserve hfailed
  · exact ⟨hreply, hsame⟩
  · cases hread

end Sim

end LineShell
