import LineShell.Proofs.Sim.Course
import Mathlib.Data.List.Nodup
import Mathlib.Data.List.Perm.Subperm

/-!
# Identifiers of processes

Each start takes the next number, and a wait takes the process with its number out of the table before it runs. So the
table is at all times made of the numbers that were issued and not taken, also while processes run that start and wait
for others, and whatever becomes of the files that they were started from.

- `Sim.Step.tabled`: what may happen to the table of processes;
- `Sim.Numbered`: the table in terms of what happened; every step keeps it (`Sim.Numbered.step`);
- `Sim.Course.identifiers`: each identifier is issued once and taken once.
-/

namespace LineShell

/-! ## Numbers and identifiers -/

/-- The identifier with a number. -/
def Pid.ofNat (id : Nat) : Pid :=
  ⟨Int64.ofNat id⟩

theorem Pid.toInt_ofNat {id : Nat} (h : id < Pid.limit) : (Pid.ofNat id).raw.toInt = id :=
  Int64.toInt_ofNat_of_lt h

theorem Pid.ofNat_inj {id other : Nat} (h : id < Pid.limit) (h' : other < Pid.limit)
    (heq : Pid.ofNat id = Pid.ofNat other) : id = other := by
  have hint : (Pid.ofNat id).raw.toInt = (Pid.ofNat other).raw.toInt := by rw [heq]
  rw [toInt_ofNat h, toInt_ofNat h'] at hint
  exact Int.ofNat_inj.1 hint

theorem Pid.eq_ofNat {pid : Pid} {id : Nat} (h : (id : Int) = pid.raw.toInt) : pid = Pid.ofNat id := by
  obtain ⟨raw⟩ := pid
  have hraw : Int64.ofInt raw.toInt = raw := Int64.ofInt_toInt raw
  rw [← hraw, ← h]
  rfl

namespace Sim

/-- What is found is a process with that identifier, and it leaves the table. -/
theorem take_number {s s' : Sim} {pid : Pid} {process : Process} (h : s.take pid = some (process, s')) :
    ∃ id, (id, process) ∈ s.processes ∧ pid = Pid.ofNat id ∧
      s' = { s with processes := s.processes.filter (·.1 != id) } := by
  unfold take at h
  split at h
  · cases h
  · next id found hfind =>
    cases h
    have hid := List.find?_some hfind
    exact ⟨id, List.mem_of_find?_eq_some hfind, Pid.eq_ofNat (by simpa using hid), rfl⟩

/-! ## The table of processes -/

namespace Event

/-- The identifier that is issued: a start answers it. -/
def issued? : Event → Option Pid
  | .asked (.exec _ _) reply => if reply.failed then none else some ⟨reply.word⟩
  | _ => none

/-- The identifier that is taken: somebody waits for it. -/
def taken? : Event → Option Pid
  | .entered pid => some pid
  | _ => none

theorem issued?_started {id : Nat} (hid : id < Pid.limit) (path : String) (argv : List String) :
    issued? (.asked (.exec path argv) ⟨Int64.ofNat id, .nothing⟩) = some (Pid.ofNat id) :=
  if_neg (by rw [Reply.failed_of_natCast (Pid.toInt_ofNat hid)]; nofun)

end Event

/-- What may happen to the table of processes. -/
inductive Tabled (s : Sim) : Event → Sim → Prop
  /-- A process gets the next number. -/
  | issued {s' : Sim} {path : String} {argv : List String} {process : Process} : s.nextPid + 1 < Pid.limit →
    s'.nextPid = s.nextPid + 1 → s'.processes = s.processes ++ [(s.nextPid, process)] →
      Tabled s (.asked (.exec path argv) ⟨Int64.ofNat s.nextPid, .nothing⟩) s'
  /-- A process leaves the table. -/
  | taken {s' : Sim} {id : Nat} {process : Process} : (id, process) ∈ s.processes → s'.nextPid = s.nextPid →
      s'.processes = s.processes.filter (·.1 != id) → Tabled s (.entered (Pid.ofNat id)) s'
  | same {s' : Sim} {event : Event} : event.issued? = none → event.taken? = none → s'.nextPid = s.nextPid →
      s'.processes = s.processes → Tabled s event s'

theorem Effect.tabled {s s' : Sim} {r : Request} {reply : Reply} (h : s.Effect r reply s') :
    s.Tabled (.asked r reply) s' := by
  cases h with
  | started _ hpid => exact .issued hpid rfl rfl
  | moved => exact .same rfl rfl rfl rfl
  | apart hprocesses hpid _ hkind =>
    refine .same ?_ rfl hpid hprocesses
    cases r with
    | exec path argv => exact if_pos (hkind.resolve_left nofun)
    | _ => rfl

/-- **The table of processes** changes by starts and by waits. -/
theorem Step.tabled {before after : Moment} {event : Event} (h : Step before event after) :
    before.state.Tabled event after.state := by
  cases h with
  | asked hserve => exact (serve_effect hserve).tabled
  | entered htake =>
    obtain ⟨id, hmem, rfl, rfl⟩ := take_number htake
    exact .taken hmem rfl rfl
  | left code => exact .same rfl rfl rfl rfl
  | @installed s _ path program =>
    obtain ⟨store, images, heq⟩ := s.install_eq path program
    refine .same rfl rfl ?_ ?_ <;> rw [heq]
  | facing input room => exact .same rfl rfl rfl rfl

/-- Every process has a number of its own, below the next one. -/
structure Counted (s : Sim) : Prop where
  pid_lt : s.nextPid < Pid.limit
  fresh : ∀ entry ∈ s.processes, entry.1 < s.nextPid
  nodup : (s.processes.map (·.1)).Nodup

namespace Counted

variable {s s' : Sim} {event : Event} {entry : Nat × Process}

theorem tabled (h : s.Counted) (htabled : s.Tabled event s') : s'.Counted := by
  cases htabled with
  | issued hpid hnext hprocesses =>
    refine ⟨hnext ▸ hpid, ?_, ?_⟩
    · rw [hnext, hprocesses]
      intro entry hentry
      rcases List.mem_append.1 hentry with hold | hnew
      · exact Nat.lt_succ_of_lt (h.fresh entry hold)
      · rw [List.mem_singleton.1 hnew]
        exact Nat.lt_succ_self _
    · rw [hprocesses, List.map_append, List.nodup_append]
      refine ⟨h.nodup, by simp, ?_⟩
      rintro id hid other hother rfl
      obtain ⟨entry, hentry, rfl⟩ := List.mem_map.1 hid
      have hlt := h.fresh entry hentry
      simp only [List.map_cons, List.map_nil, List.mem_singleton] at hother
      omega
  | taken _ hnext hprocesses =>
    refine ⟨hnext ▸ h.pid_lt, ?_, ?_⟩
    · rw [hnext, hprocesses]
      exact fun entry hentry => h.fresh entry (List.mem_filter.1 hentry).1
    · rw [hprocesses]
      exact h.nodup.sublist (List.filter_sublist.map _)
  | same _ _ hnext hprocesses => exact ⟨hnext ▸ h.pid_lt, hnext ▸ hprocesses ▸ h.fresh, hprocesses ▸ h.nodup⟩

/-- A process stays in the table, and does not come back to it, unless somebody begins to wait for it. -/
theorem mem_iff (h : s.Counted) (htabled : s.Tabled event s') (hentry : entry.1 < s.nextPid) :
    entry ∈ s'.processes ↔ entry ∈ s.processes ∧ event ≠ .entered (Pid.ofNat entry.1) := by
  cases htabled with
  | issued _ _ hprocesses =>
    have hne (process : Process) : entry ≠ (s.nextPid, process) := by
      rintro rfl
      exact Nat.lt_irrefl _ hentry
    simp [hprocesses, hne]
  | @taken _ id process hmem _ hprocesses =>
    have hid := Nat.lt_trans (h.fresh _ hmem) h.pid_lt
    have hnumber : Event.entered (Pid.ofNat id) ≠ .entered (Pid.ofNat entry.1) ↔ entry.1 ≠ id := by
      refine not_congr ⟨fun heq => ?_, fun heq => by rw [heq]⟩
      exact (Pid.ofNat_inj hid (Nat.lt_trans hentry h.pid_lt) (Event.entered.inj heq)).symm
    rw [hprocesses, List.mem_filter, hnumber, bne_iff_ne]
  | same _ htaken _ hprocesses =>
    rw [hprocesses]
    refine (and_iff_left ?_).symm
    rintro rfl
    cases htaken

theorem nextPid_le (htabled : s.Tabled event s') : s.nextPid ≤ s'.nextPid := by
  cases htabled with
  | issued _ hnext _ => exact hnext ▸ Nat.le_succ _
  | taken _ hnext _ => exact hnext ▸ Nat.le_refl _
  | same _ _ hnext _ => exact hnext ▸ Nat.le_refl _

/-- The same of a whole course. -/
theorem mem_iff_of_course {now later : Moment} {log : List Event} (h : now.state.Counted) (hcourse : Course now log later)
    (hentry : entry.1 < now.state.nextPid) :
    entry ∈ later.state.processes ↔ entry ∈ now.state.processes ∧ .entered (Pid.ofNat entry.1) ∉ log := by
  induction hcourse with
  | nil => simp
  | cons hstep _ ih =>
    have hlt := Nat.lt_of_lt_of_le hentry (nextPid_le hstep.tabled)
    rw [ih (h.tabled hstep.tabled) hlt, h.mem_iff hstep.tabled hentry, List.mem_cons, not_or, and_assoc, ne_comm]

/-- **What is in the table** is there until somebody begins to wait for it. -/
theorem stays_iff {now later : Moment} {log : List Event} (h : now.state.Counted) (hcourse : Course now log later)
    (hentry : entry ∈ now.state.processes) :
    entry ∈ later.state.processes ↔ .entered (Pid.ofNat entry.1) ∉ log :=
  (h.mem_iff_of_course hcourse (h.fresh entry hentry)).trans (and_iff_right hentry)

/-- Without the process of a number, the table is without its identifier. -/
theorem filter_numbers (h : s.Counted) {id : Nat} (hid : id < s.nextPid) :
    (s.processes.filter (·.1 != id)).map (fun entry => Pid.ofNat entry.1) =
      (s.processes.map fun entry => Pid.ofNat entry.1).filter (· != Pid.ofNat id) := by
  rw [List.filter_map]
  refine congrArg _ (List.filter_congr fun entry hentry => ?_)
  have hlt := Nat.lt_trans (h.fresh entry hentry) h.pid_lt
  rw [Bool.eq_iff_iff, bne_iff_ne, Function.comp_apply, bne_iff_ne]
  exact not_congr ⟨fun heq => by rw [heq], Pid.ofNat_inj hlt (Nat.lt_trans hid h.pid_lt)⟩

/-- **The process that is found** is the one with this number. -/
theorem take_eq_some (h : s.Counted) {id : Nat} {process : Process} (hmem : (id, process) ∈ s.processes) :
    s.take (Pid.ofNat id) = some (process, { s with processes := s.processes.filter (·.1 != id) }) := by
  have hid := Nat.lt_trans (h.fresh _ hmem) h.pid_lt
  cases htake : s.take (Pid.ofNat id) with
  | none =>
    unfold take at htake
    split at htake
    · next hfind =>
      have hne := List.find?_eq_none.1 hfind _ hmem
      simp [Pid.toInt_ofNat hid] at hne
    · cases htake
  | some found =>
    obtain ⟨other, hother, hpid, heq⟩ := take_number htake
    obtain rfl := Pid.ofNat_inj hid (Nat.lt_trans (h.fresh _ hother) h.pid_lt) hpid
    have hsame := List.inj_on_of_nodup_map h.nodup hmem hother rfl
    cases hsame
    rw [← heq]

end Counted

/-! ## What was issued and taken -/

/-- The identifiers that were issued, the oldest first. -/
def issued (log : List Event) : List Pid :=
  log.filterMap Event.issued?

/-- The identifiers that were taken, also by waits that still go on. -/
def taken (log : List Event) : List Pid :=
  log.filterMap Event.taken?

/-- The identifiers that were issued and not taken yet. -/
def outstanding (log : List Event) : List Pid :=
  (issued log).filter (· ∉ taken log)

section Log

variable {log : List Event} {event : Event} {pid : Pid}

theorem issued_snoc : issued (log ++ [event]) = issued log ++ event.issued?.toList := by
  rw [issued, List.filterMap_append, issued, List.filterMap_cons]
  cases event.issued? <;> rfl

theorem taken_snoc : taken (log ++ [event]) = taken log ++ event.taken?.toList := by
  rw [taken, List.filterMap_append, taken, List.filterMap_cons]
  cases event.taken? <;> rfl

theorem mem_outstanding : pid ∈ outstanding log ↔ pid ∈ issued log ∧ pid ∉ taken log := by
  rw [outstanding, List.mem_filter, decide_eq_true_eq]

theorem outstanding_of_issued (hissued : event.issued? = some pid) (htaken : event.taken? = none)
    (hpid : pid ∉ taken log) : outstanding (log ++ [event]) = outstanding log ++ [pid] := by
  rw [outstanding, issued_snoc, taken_snoc, hissued, htaken]
  simp [outstanding, hpid]

theorem outstanding_of_taken (hissued : event.issued? = none) (htaken : event.taken? = some pid) :
    outstanding (log ++ [event]) = (outstanding log).filter (· != pid) := by
  rw [outstanding, issued_snoc, taken_snoc, hissued, htaken]
  simp only [Option.toList_none, Option.toList_some, List.append_nil, outstanding, List.filter_filter]
  refine List.filter_congr fun other _ => ?_
  rw [Bool.eq_iff_iff]
  simp only [List.mem_append, List.mem_singleton, not_or, decide_eq_true_eq, Bool.and_eq_true, bne_iff_ne]
  exact And.comm

theorem outstanding_of_same (hissued : event.issued? = none) (htaken : event.taken? = none) :
    outstanding (log ++ [event]) = outstanding log := by
  rw [outstanding, issued_snoc, taken_snoc, hissued, htaken]
  simp only [Option.toList_none, List.append_nil, outstanding]

end Log

/-- The table holds what was issued and not taken, and a wait goes on for something that was taken. -/
structure Numbered (log : List Event) (now : Moment) : Prop where
  counted : now.state.Counted
  issued_eq : issued log = (List.range now.state.nextPid).map Pid.ofNat
  table_eq : now.state.processes.map (fun entry => Pid.ofNat entry.1) = outstanding log
  taken_nodup : (taken log).Nodup
  taken_issued : taken log ⊆ issued log
  waits_taken : (now.waits.map (·.pid)).Sublist (taken log).reverse

/-- A wait that goes on has just begun, or went on before. -/
theorem Step.waits {before after : Moment} {event : Event} (h : Step before event after) :
    (after.waits.map (·.pid)).Sublist (event.taken?.toList ++ before.waits.map (·.pid)) := by
  cases h with
  | left code => exact List.sublist_cons_self _ _
  | asked | entered | installed | facing => exact List.Sublist.refl _

namespace Numbered

variable {log : List Event} {before now : Moment} {event : Event} {pid : Pid}

/-- The next number was not taken before. -/
theorem next_not_taken (h : Numbered log now) : Pid.ofNat now.state.nextPid ∉ taken log := by
  intro hmem
  have hissued := h.taken_issued hmem
  rw [h.issued_eq] at hissued
  obtain ⟨id, hid, heq⟩ := List.mem_map.1 hissued
  have hlt := List.mem_range.1 hid
  have hsame := Pid.ofNat_inj (Nat.lt_trans hlt h.counted.pid_lt) h.counted.pid_lt heq
  omega

theorem waits_step (h : Numbered log before) (hstep : Step before event now) :
    (now.waits.map (·.pid)).Sublist (taken (log ++ [event])).reverse := by
  have hreverse : (taken (log ++ [event])).reverse = event.taken?.toList ++ (taken log).reverse := by
    rw [taken_snoc, List.reverse_append]
    cases event.taken? <;> rfl
  rw [hreverse]
  exact hstep.waits.trans ((List.append_sublist_append_left _).2 h.waits_taken)

/-- **Every step** keeps the table in agreement with what happened. -/
theorem step (h : Numbered log before) (hstep : Step before event now) : Numbered (log ++ [event]) now := by
  have hcounted := h.counted.tabled hstep.tabled
  have hwaits := h.waits_step hstep
  cases hstep.tabled with
  | @issued _ path argv _ hpid hnext hprocesses =>
    have hissued := Event.issued?_started h.counted.pid_lt path argv
    refine ⟨hcounted, ?_, ?_, ?_, ?_, hwaits⟩
    · rw [issued_snoc, hissued, h.issued_eq, hnext, List.range_succ, List.map_append]
      rfl
    · rw [outstanding_of_issued hissued rfl h.next_not_taken, hprocesses, List.map_append, h.table_eq]
      rfl
    · rw [taken_snoc]
      simpa [Event.taken?] using h.taken_nodup
    · rw [taken_snoc, issued_snoc]
      simpa [Event.taken?] using List.subset_append_of_subset_left _ h.taken_issued
  | @taken _ id process hmem hnext hprocesses =>
    have hpid : Pid.ofNat id ∈ outstanding log := by
      rw [← h.table_eq]
      exact List.mem_map_of_mem hmem
    obtain ⟨hissued, htaken⟩ := mem_outstanding.1 hpid
    refine ⟨hcounted, ?_, ?_, ?_, ?_, hwaits⟩
    · rw [issued_snoc, h.issued_eq, hnext]
      exact List.append_nil _
    · rw [outstanding_of_taken rfl rfl, ← h.table_eq, hprocesses, h.counted.filter_numbers (h.counted.fresh _ hmem)]
    · rw [taken_snoc]
      exact List.nodup_append.2 ⟨h.taken_nodup, List.nodup_singleton _, by
        rintro other hother _ hsingle rfl
        exact htaken (List.mem_singleton.1 hsingle ▸ hother)⟩
    · rw [taken_snoc, issued_snoc]
      exact fun other hother => List.mem_append_left _ <|
        (List.mem_append.1 hother).elim (fun hold => h.taken_issued hold) fun hnew => List.mem_singleton.1 hnew ▸ hissued
  | same hissued htaken hnext hprocesses =>
    refine ⟨hcounted, ?_, ?_, ?_, ?_, hwaits⟩
    · rw [issued_snoc, hissued, hnext, h.issued_eq]
      exact List.append_nil _
    · rw [outstanding_of_same hissued htaken, hprocesses, h.table_eq]
    · rw [taken_snoc, htaken]
      simpa using h.taken_nodup
    · rw [taken_snoc, htaken, issued_snoc, hissued]
      simpa using h.taken_issued

/-- A course keeps it. -/
theorem course {later : Moment} {log' : List Event} (h : Numbered log now) (hcourse : Course now log' later) :
    Numbered (log ++ log') later :=
  hcourse.induct step h

theorem pairwise (h : Numbered log now) : (issued log).Pairwise fun pid later => pid.raw < later.raw := by
  rw [h.issued_eq, List.pairwise_map]
  refine List.Pairwise.imp_of_mem (fun {id other} hid hother hlt => ?_) List.pairwise_lt_range
  have hid := Nat.lt_trans (List.mem_range.1 hid) h.counted.pid_lt
  have hother := Nat.lt_trans (List.mem_range.1 hother) h.counted.pid_lt
  rw [Int64.lt_iff_toInt_lt, Pid.toInt_ofNat hid, Pid.toInt_ofNat hother]
  exact Int.ofNat_lt.2 hlt

theorem running_eq (h : Numbered log now) : now.state.running = (outstanding log).length := by
  rw [← h.table_eq, List.length_map, running]

/-- **What is there to be waited for** is what was issued and not taken. -/
theorem take_isSome_iff (h : Numbered log now) : (now.state.take pid).isSome ↔ pid ∈ outstanding log := by
  rw [← h.table_eq]
  constructor
  · intro hsome
    obtain ⟨⟨process, s⟩, htake⟩ := Option.isSome_iff_exists.1 hsome
    obtain ⟨id, hmem, rfl, -⟩ := take_number htake
    exact List.mem_map_of_mem hmem
  · intro hmem
    obtain ⟨⟨id, process⟩, hentry, rfl⟩ := List.mem_map.1 hmem
    rw [h.counted.take_eq_some hentry]
    rfl

/-- Waits nest no deeper than there are identifiers. -/
theorem waits_length_lt (h : Numbered log now) : now.waits.length < Pid.limit := by
  have hwaits := h.waits_taken.length_le
  have htaken := (h.taken_nodup.subperm h.taken_issued).length_le
  rw [h.issued_eq] at htaken
  simp only [List.length_map, List.length_reverse, List.length_range] at hwaits htaken
  exact Nat.lt_of_le_of_lt (Nat.le_trans hwaits htaken) h.counted.pid_lt

end Numbered

/-! ## Once issued, once taken -/

/-- Nothing was started yet. -/
structure Unused (s : Sim) : Prop where
  processes_eq : s.processes = []
  nextPid_eq : s.nextPid = 0

theorem empty_unused (input : Input) : (empty input).Unused :=
  ⟨rfl, rfl⟩

theorem Unused.install {s : Sim} (h : s.Unused) (path : String) (program : Program) :
    (s.install path program).2.Unused := by
  obtain ⟨store, images, heq⟩ := s.install_eq path program
  exact ⟨by rw [heq, ← h.processes_eq], by rw [heq, ← h.nextPid_eq]⟩

theorem booted_unused (input : Input) : (booted input).Unused := by
  obtain ⟨store, images, heq⟩ := booted_eq input
  exact ⟨by rw [heq, empty], by rw [heq, empty]⟩

theorem Unused.numbered {start : Moment} (h : start.state.Unused) (hwaits : start.waits = []) : Numbered [] start := by
  refine ⟨⟨?_, ?_, ?_⟩, ?_, ?_, .nil, nofun, ?_⟩
  · rw [h.nextPid_eq]
    decide
  · simp [h.processes_eq]
  · simp [h.processes_eq]
  · simp [h.nextPid_eq, issued]
  · simp [h.processes_eq, outstanding, issued]
  · simp [hwaits, taken]

/-- **Each identifier is issued once and taken once.** Take a kernel on which nothing was started, and any moment that it
comes to, inside of any waits. The identifiers that were issued until then increase, and none was taken twice. Those of
the waits that go on were taken. As many processes run as identifiers were issued and not taken, and these are the ones
that a wait succeeds for: it fails at once for all others, and where programs end it is answered, with room for as many
waits as there are identifiers, unless it breaks off where the last of them is issued. A process stays in the table until
somebody begins to wait for it, whatever else happens. All that the kernel answers leads to such moments. -/
theorem Course.identifiers {start now : Moment} {log : List Event} (hstart : start.state.Unused)
    (hwaits : start.waits = []) (h : Course start log now) :
    (issued log).Pairwise (fun pid later => pid.raw < later.raw) ∧
    (taken log).Nodup ∧ taken log ⊆ issued log ∧
    (∀ wait ∈ now.waits, wait.pid ∈ taken log) ∧
    now.state.running = (outstanding log).length ∧
    (∀ depth pid m, m.state = now.state →
      (pid ∉ outstanding log → (kernel depth).serve (.waitpid pid) m = some (.refused, m)) ∧
      (pid ∈ outstanding log →
        (∀ reply m', (kernel depth).serve (.waitpid pid) m = some (reply, m') → reply.failed = false) ∧
        (now.state.Every Program.Finite → Pid.limit ≤ depth →
          ((kernel depth).serve (.waitpid pid) m).isSome ∨ (breakOff depth (.waitpid pid) m).state.Spent))) ∧
    (∀ later log', Course now log' later → ∀ entry ∈ now.state.processes,
      (entry ∈ later.state.processes ↔ .entered (Pid.ofNat entry.1) ∉ log')) ∧
    ∀ depth r m reply m', m.state = now.state → (kernel depth).serve r m = some (reply, m') →
      ∃ log', Course now log' ⟨m'.state, now.waits⟩ ∧ Answering r reply log' := by
  have hnow : Numbered log now := (hstart.numbered hwaits).course h
  refine ⟨hnow.pairwise, hnow.taken_nodup, hnow.taken_issued, fun wait hwait => ?_, hnow.running_eq,
    fun depth pid m hm => ⟨fun hpid => ?_, fun hpid => ⟨fun reply m' hserve => ?_, fun hevery hdepth => ?_⟩⟩,
    fun later log' hlater entry hentry => ?_, fun depth r m reply m' hm hserve => ?_⟩
  · exact List.mem_reverse.1 (hnow.waits_taken.subset (List.mem_map_of_mem hwait))
  · have hnone : m.state.take pid = none := by
      rw [← Option.not_isSome_iff_eq_none, hm]
      exact mt hnow.take_isSome_iff.1 hpid
    exact reap_none hnone
  · obtain ⟨⟨process, s⟩, htake⟩ := Option.isSome_iff_exists.1 (hnow.take_isSome_iff.2 hpid)
    rw [← hm] at htake
    obtain ⟨⟨code, m₁⟩, -, heq⟩ := Option.map_eq_some_iff.1 ((reap_some htake).symm.trans hserve)
    cases heq
    rfl
  · rw [← Option.ne_none_iff_isSome, or_iff_not_imp_left, not_not]
    intro hnone
    refine (deeper (fun _ => Request.noConfusion) (hm ▸ hevery) hnone).resolve_left fun hdeep => ?_
    obtain ⟨log', later, hlater, hdeep⟩ := hdeep now.waits
    rw [hm] at hlater
    have hlt := (hnow.course hlater).waits_length_lt
    omega
  · exact hnow.counted.stays_iff hlater hentry
  · obtain ⟨log', hlog, hanswering⟩ := of_serve hserve now.waits
    rw [hm] at hlog
    exact ⟨log', hlog, hanswering⟩

/-- Two processes of a program that waits for identifier `0`, which is its own one in the first of them. The file they were
started from is removed, and the first is waited for. It does not find itself, and it could wait for the other one. -/
theorem Course.identifiers_of_itself :
    let program : Program := fun _ _ => Prog.waitpid (Pid.ofNat 0) >>= fun _ => pure (.ok 0)
    let s := ((empty (.script [])).install "/a" program).2
    ∃ now, Course ⟨s, []⟩ [.asked (.exec "/a" ["/a"]) ⟨0, .nothing⟩, .asked (.exec "/a" ["/a"]) ⟨1, .nothing⟩,
        .asked (.removeFile "/a") (.granted .nothing), .entered (Pid.ofNat 0)] now ∧
      now.waits = [⟨Pid.ofNat 0, "/"⟩] ∧ now.state.lookup "/a" = none ∧ now.state.running = 1 ∧
      ∀ depth m, Pid.limit ≤ depth → m.state = now.state →
        (kernel depth).serve (.waitpid (Pid.ofNat 0)) m = some (.refused, m) ∧
        ∃ reply m', (kernel depth).serve (.waitpid (Pid.ofNat 1)) m = some (reply, m') ∧ reply.failed = false := by
  intro program s
  have hfinite : program.Finite := fun _ _ => ⟨fun _ => Request.noConfusion, fun _ => trivial⟩
  have hunused : s.Unused := (empty_unused _).install "/a" program
  let s₁ := ((s.spawn "/a" ["/a"]).map Prod.snd).getD s
  let s₂ := ((s₁.spawn "/a" ["/a"]).map Prod.snd).getD s₁
  let s₃ := (s₂.unlink "/a").2
  have hfirst : s.spawn "/a" ["/a"] = some (⟨0, .nothing⟩, s₁) := spawn_of_fst (by decide +kernel)
  have hsecond : s₁.spawn "/a" ["/a"] = some (⟨1, .nothing⟩, s₂) := spawn_of_fst (by decide +kernel)
  have hevery {P : Program → Prop} (hprogram : P program) : s₃.Every P := by
    have hempty : (empty (.script [])).Every P := ⟨by simp [empty], by simp [empty]⟩
    exact (((hempty.install hprogram "/a").moves (spawn_change _ hfirst).moves).moves
      (spawn_change _ hsecond).moves).moves (unlink_change _ _).moves
  have hfound : (s₃.take (Pid.ofNat 0)).any fun x => ({ x.2 with cwd := x.1.cwd } : Sim).lookup "/a" == none := by
    decide +kernel
  obtain ⟨⟨process, rest⟩, htake, hlookup⟩ := (Option.any_eq_true _ _).1 hfound
  let now : Moment := ⟨{ rest with cwd := process.cwd }, [⟨Pid.ofNat 0, s₃.cwd⟩]⟩
  have hcourse : Course ⟨s, []⟩ [.asked (.exec "/a" ["/a"]) ⟨0, .nothing⟩, .asked (.exec "/a" ["/a"]) ⟨1, .nothing⟩,
      .asked (.removeFile "/a") (.granted .nothing), .entered (Pid.ofNat 0)] now :=
    .cons (.of_spawn hfirst) <| .cons (.of_spawn hsecond) <| .cons (.of_unlink (by decide +kernel)) <|
      .single (.entered htake)
  obtain ⟨-, -, -, -, hrunning, hwait, -⟩ := hcourse.identifiers hunused rfl
  have hnow {P : Program → Prop} (hprogram : P program) : now.state.Every P :=
    ⟨((hevery hprogram).take htake).2.images, ((hevery hprogram).take htake).2.processes⟩
  -- the other process is entered, asks for the first identifier in vain, and starts nothing
  have hkept : (now.state.take (Pid.ofNat 1)).isSome :=
    ((hunused.numbered rfl).course hcourse).take_isSome_iff.2 (by decide +kernel)
  obtain ⟨⟨other, left⟩, hother⟩ := Option.isSome_iff_exists.1 hkept
  obtain ⟨-, -, -, -, -, hinner, -⟩ := (hcourse.trans (.single (.entered hother))).identifiers hunused rfl
  have hprogram : other.program = program := ((hnow (P := (· = program)) rfl).take hother).1
  have hcount : left.nextPid = 2 := by
    obtain ⟨_, -, hrest⟩ := take_eq htake
    obtain ⟨_, -, hleft⟩ := take_eq hother
    have hbefore : rest.nextPid = s₃.nextPid := by rw [hrest]
    have hafter : left.nextPid = rest.nextPid := by rw [hleft]
    rw [hafter, hbefore]
    decide +kernel
  refine ⟨now, hcourse, ?_, by simpa using hlookup, hrunning.trans (by decide +kernel),
    fun depth m hdepth hm => ⟨?_, ?_⟩⟩
  · have hcwd : s₃.cwd = "/" := by decide +kernel
    rw [← hcwd]
  · exact (hwait _ _ m hm).1 (by decide +kernel)
  · obtain ⟨hsucceeds, hanswered⟩ := (hwait depth (Pid.ofNat 1) m hm).2 (by decide +kernel)
    have hunspent : ¬ (breakOff depth (.waitpid (Pid.ofNat 1)) m).state.Spent := by
      obtain ⟨levels, rfl⟩ : ∃ levels, depth = levels + 1 := Nat.exists_eq_add_one.2 (Nat.lt_of_lt_of_le (by decide) hdepth)
      let entered : Machine Sim := { m with state := { left with cwd := other.cwd } }
      have hself := (hinner levels (Pid.ofNat 0) entered rfl).1 (by decide +kernel)
      have hstop : breakOff (levels + 1) (.waitpid (Pid.ofNat 1)) m = entered := by
        rw [← hm] at hother
        simp only [breakOff, breakOffIn, hother, stopProcess, hprogram]
        show Prog.stop _ _ (.request (.waitpid (Pid.ofNat 0)) _) entered = _
        rw [Prog.stop, hself]
        rfl
      rw [hstop, Spent, show entered.state.nextPid = 2 from hcount]
      decide
    obtain ⟨⟨reply, m'⟩, hserve⟩ := Option.isSome_iff_exists.1 ((hanswered (hnow hfinite) hdepth).resolve_right hunspent)
    exact ⟨reply, m', hserve, hsucceeds reply m' hserve⟩

end Sim

end LineShell
