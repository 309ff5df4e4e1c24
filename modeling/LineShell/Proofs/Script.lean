import LineShell.Proofs.Arrival
import Mathlib.Logic.ExistsUnique

/-!
# Reads of a script, one after the other

Whatever room the buffers have, the reads of a script bring what it holds in order, each thing once.

- `Script.Queued`: where the reads of a script have got to. Whole chunks are behind them, and perhaps the front of one more;
- `Script.Queued.read`: a read takes from one chunk, behind what was taken of it, or meets one fault, or the end;
- `Script.reads_bring`: so does each one of a run of reads, and each fault that is behind them has failed one of them.
-/

namespace LineShell.Script

/-- What the answer of a read stands for: its bytes, or the fault that it met. -/
def heard : Option Bytes → List Arrival
  | some data => data.map .byte
  | none => [.fault]

/-- Reads one after the other, into buffers with room for so many bytes: their answers, and what is queued then. -/
def reads (script : Script) : List Nat → List (Option Bytes) × Script
  | [] => ([], script)
  | count :: counts =>
    let (answer, script) := script.read count
    let (answers, script) := reads script counts
    (answer :: answers, script)

theorem arrivals_append (front back : Script) : arrivals (front ++ back) = arrivals front ++ arrivals back :=
  List.flatMap_append

/-- `taken` was read of the script and `left` is queued: whole chunks were taken, and perhaps the front of the next one. -/
inductive Queued (script : Script) : List Arrival → Script → Prop
  | whole {front left : Script} (h : script = front ++ left) : Queued script front.arrivals left
  | within {front back : Script} {past rest : Bytes} (h : script = front ++ .data (past ++ rest) :: back)
    (hrest : rest ≠ []) : Queued script (front.arrivals ++ past.map .byte) (.data rest :: back)

/-- What a read with room for `count` bytes brings once `taken` was read of the script. -/
inductive Brings (script : Script) (taken : List Arrival) (count : Nat) : Option Bytes → Prop
  /-- There is neither a byte nor a fault behind what was taken. -/
  | exhausted (h : taken = script.arrivals) : Brings script taken count (some [])
  /-- A fault is next. -/
  | fault {front back : Script} (h : script = front ++ .fault :: back) (htaken : taken = front.arrivals) :
    Brings script taken count none
  /-- What is next of one chunk, as far as there is room. -/
  | data {front back : Script} {past data rest : Bytes} (h : script = front ++ .data (past ++ (data ++ rest)) :: back)
    (htaken : taken = front.arrivals ++ past.map .byte) (hleft : data ++ rest ≠ [])
    (hlength : data.length = min count (data ++ rest).length) : Brings script taken count (some data)

variable {script left : Script} {taken : List Arrival}

/-- **What was read** and what is queued are all that the script holds. -/
theorem Queued.arrivals_eq (h : script.Queued taken left) : taken ++ left.arrivals = script.arrivals := by
  cases h with
  | whole h => rw [h, arrivals_append]
  | within h => simp [h, arrivals_append]

/-! ## One read -/

/-- A read of a chunk with bytes in it, some of which may be taken already. -/
theorem read_within {front back : Script} {past rest : Bytes} (h : script = front ++ .data (past ++ rest) :: back)
    (hrest : rest ≠ []) (count : Nat) :
    script.Brings (front.arrivals ++ past.map .byte) count (read (.data rest :: back) count).1 ∧
      script.Queued (front.arrivals ++ past.map .byte ++ heard (read (.data rest :: back) count).1)
        (read (.data rest :: back) count).2 := by
  have hsplit : rest.take count ++ rest.drop count = rest := List.take_append_drop count rest
  have hread : read (.data rest :: back) count =
      (some (rest.take count), if (rest.drop count).isEmpty then back else .data (rest.drop count) :: back) := by
    simp [read, hrest]
  rw [hread]
  constructor
  · refine .data (by rw [hsplit, h]) rfl (by rwa [hsplit]) ?_
    rw [hsplit, List.length_take]
  · have hheard : front.arrivals ++ past.map .byte ++ heard (some (rest.take count)) =
        front.arrivals ++ (past ++ rest.take count).map .byte := by simp [heard]
    rw [hheard]
    by_cases hempty : rest.drop count = []
    · -- the chunk was read to its end and is no longer queued
      rw [hempty, List.append_nil] at hsplit
      have hall : front.arrivals ++ (past ++ rest.take count).map .byte =
          arrivals (front ++ [.data (past ++ rest)]) := by
        simp [arrivals_append, hsplit]
      rw [hall]
      simp only [hempty, List.isEmpty_nil, ↓reduceIte]
      exact .whole (by simp [h])
    · simp only [List.isEmpty_iff, hempty, ↓reduceIte]
      exact .within (by rw [List.append_assoc, hsplit, h]) hempty

/-- A read that begins with a chunk. Empty chunks are passed over. -/
theorem read_whole (count : Nat) : ∀ left front : Script,
    (front ++ left).Brings front.arrivals count (left.read count).1 ∧
      (front ++ left).Queued (front.arrivals ++ heard (left.read count).1) (left.read count).2
  | [], front => by
    have hqueued : Queued (front ++ []) front.arrivals [] := .whole rfl
    exact ⟨.exhausted (by simp), by simpa [heard, read] using hqueued⟩
  | .fault :: rest, front => by
    refine ⟨.fault rfl rfl, ?_⟩
    have hqueued : (front ++ .fault :: rest).Queued (arrivals (front ++ [.fault])) rest := .whole (by simp)
    simpa [arrivals_append, heard, read] using hqueued
  | .data [] :: rest, front => by
    have hrest := read_whole count rest (front ++ [.data []])
    simpa [arrivals_append, read] using hrest
  | .data (b :: bytes) :: rest, front => by
    have hnothing : front ++ .data (b :: bytes) :: rest = front ++ .data ([] ++ b :: bytes) :: rest := rfl
    simpa using read_within hnothing (by simp) count

/-- **One read** of what is queued. -/
theorem Queued.read (h : script.Queued taken left) (count : Nat) :
    script.Brings taken count (left.read count).1 ∧
      script.Queued (taken ++ heard (left.read count).1) (left.read count).2 := by
  cases h with
  | whole h =>
    rw [h]
    exact read_whole count _ _
  | within h hrest => exact read_within h hrest count

/-! ## Runs of reads -/

/-- **Reads of what is queued**, one after the other. -/
theorem Queued.reads : ∀ (counts : List Nat) {taken : List Arrival} {left : Script}, script.Queued taken left →
    (left.reads counts).1.length = counts.length ∧
    script.Queued (taken ++ (left.reads counts).1.flatMap heard) (left.reads counts).2 ∧
    ∀ i count, counts[i]? = some count → ∃ answer, (left.reads counts).1[i]? = some answer ∧
      script.Brings (taken ++ ((left.reads counts).1.take i).flatMap heard) count answer
  | [], taken, left, h => ⟨rfl, by simpa [Script.reads] using h, by simp⟩
  | count :: counts, taken, left, h => by
    obtain ⟨hbrings, hqueued⟩ := h.read count
    obtain ⟨hlength, hlast, hanswers⟩ := Queued.reads counts hqueued
    refine ⟨by simp [Script.reads, hlength], by simpa [Script.reads] using hlast, fun i other hother => ?_⟩
    cases i with
    | zero =>
      obtain rfl : count = other := by simpa using hother
      exact ⟨_, rfl, by simpa using hbrings⟩
    | succ i =>
      obtain ⟨answer, hanswer, hrest⟩ := hanswers i other (by simpa using hother)
      exact ⟨answer, by simpa [Script.reads] using hanswer, by simpa [Script.reads] using hrest⟩

/-- The answer in front is not the failure that comes behind it. -/
theorem existsUnique_failed_cons {answers : List (Option Bytes)} {front : List Arrival} (answer : Option Bytes)
    (h : ∃! i, answers[i]? = some none ∧ (answers.take i).flatMap heard = front) :
    ∃! i, (answer :: answers)[i]? = some none ∧ ((answer :: answers).take i).flatMap heard = heard answer ++ front := by
  obtain ⟨i, hi, honly⟩ := h
  refine ⟨i + 1, by simpa using hi, fun j hj => ?_⟩
  cases j with
  | zero =>
    obtain ⟨rfl, hnothing⟩ : answer = none ∧ [] = heard answer ++ front := by simpa using hj
    cases hnothing
  | succ j => rw [honly j (by simpa using hj)]

/-- Among what answers stand for, a fault is one of the answers. -/
theorem existsUnique_failed : ∀ {answers : List (Option Bytes)} {front more : List Arrival},
    answers.flatMap heard = front ++ .fault :: more →
    ∃! i, answers[i]? = some none ∧ (answers.take i).flatMap heard = front
  | [], front, more, h => by simp at h
  | none :: answers, [], more, h => by
    refine ⟨0, by simp, fun i hi => ?_⟩
    cases i with
    | zero => rfl
    | succ i => simp [heard] at hi
  | none :: answers, a :: front, more, h => by
    obtain ⟨rfl, hrest⟩ : Arrival.fault = a ∧ answers.flatMap heard = front ++ .fault :: more := by
      simpa [heard] using h
    exact existsUnique_failed_cons none (existsUnique_failed hrest)
  | some data :: answers, front, more, h => by
    -- a fault is none of the bytes, so it is behind them
    obtain ⟨front', rfl, hrest⟩ : ∃ front', front = data.map .byte ++ front' ∧
        answers.flatMap heard = front' ++ .fault :: more := by
      rw [List.flatMap_cons, heard] at h
      rcases List.append_eq_append_iff.1 h with ⟨front', hfront, hrest⟩ | ⟨cut, hdata, hfault⟩
      · exact ⟨front', hfront, hrest⟩
      · cases cut with
        | nil => exact ⟨[], by simpa using hdata.symm, by simpa using hfault.symm⟩
        | cons a cut =>
          obtain ⟨rfl, -⟩ := List.cons.inj hfault
          have hmem : Arrival.fault ∈ data.map Arrival.byte := hdata ▸ by simp
          simp at hmem
    exact existsUnique_failed_cons (some data) (existsUnique_failed hrest)

/-- **Reads of a script**, into whatever buffers. What they bring, in order, is the beginning of what the script holds, and
what is queued then is the rest of it, of the chunk too that was taken in part. Each read brings bytes of one chunk or meets
one fault, and one with room for a byte brings nothing only if neither a byte nor a fault is left. A fault of the script has
failed one of the reads, or it is still queued. -/
theorem reads_bring (script : Script) (counts : List Nat) :
    let answers := (script.reads counts).1
    let left := (script.reads counts).2
    answers.length = counts.length ∧
    answers.flatMap heard ++ left.arrivals = script.arrivals ∧
    script.Queued (answers.flatMap heard) left ∧
    (∀ i count, counts[i]? = some count → ∃ answer, answers[i]? = some answer ∧
      script.Brings ((answers.take i).flatMap heard) count answer ∧
      (0 < count → answer = some [] → (answers.take i).flatMap heard = script.arrivals)) ∧
    ∀ front back : Script, script = front ++ .fault :: back →
      (∃! i, answers[i]? = some none ∧ (answers.take i).flatMap heard = front.arrivals) ∨
      ∃ between, front.arrivals = answers.flatMap heard ++ between ∧
        left.arrivals = between ++ .fault :: back.arrivals := by
  intro answers left
  have hstart : script.Queued (arrivals []) script := .whole rfl
  obtain ⟨hlength, hqueued, hanswers⟩ := hstart.reads counts
  simp only [arrivals_nil, List.nil_append] at hqueued hanswers
  have hall : answers.flatMap heard ++ left.arrivals = script.arrivals := hqueued.arrivals_eq
  refine ⟨hlength, hall, hqueued, fun i count hcount => ?_, fun front back hscript => ?_⟩
  · obtain ⟨answer, hanswer, hbrings⟩ := hanswers i count hcount
    refine ⟨answer, hanswer, hbrings, fun hroom hnothing => ?_⟩
    subst hnothing
    cases hbrings with
    | exhausted h => exact h
    | data h htaken hleft hlength =>
      -- with room for a byte, something of the chunk is brought
      simp only [List.length_nil, List.nil_append] at hlength hleft
      have hpos := List.length_pos_iff.2 hleft
      omega
  · rw [hscript, arrivals_append, arrivals_fault] at hall
    rcases List.append_eq_append_iff.1 hall with ⟨between, hfront, hleft⟩ | ⟨more, hheard, hleft⟩
    · exact .inr ⟨between, hfront, hleft⟩
    · cases more with
      | nil => exact .inr ⟨[], by simpa using hheard.symm, by simpa using hleft.symm⟩
      | cons a more =>
        obtain ⟨rfl, -⟩ := List.cons.inj hleft
        exact .inl (existsUnique_failed hheard)

/-- Buffers without room before and behind the first bytes, an empty chunk, a chunk that is read in two parts, a fault that
fails a read without room, and one that is not reached. -/
theorem reads_bring_faulty :
    let front : Script := [.data [], .data [97, 98, 99]]
    let script : Script := front ++ [.fault, .data [100], .fault]
    let answers : List (Option Bytes) := [some [], some [97, 98], some [], some [99], none, some [100]]
    script.reads [0, 2, 0, 4, 0, 3] = (answers, [.fault]) ∧
      (∃ answer, answers[1]? = some answer ∧ script.Brings ((answers.take 1).flatMap heard) 2 answer) ∧
      ∃! i, answers[i]? = some none ∧ (answers.take i).flatMap heard = front.arrivals := by
  intro front script answers
  have hreads : script.reads [0, 2, 0, 4, 0, 3] = (answers, [.fault]) := by decide +kernel
  obtain ⟨-, -, -, hanswers, hfaults⟩ := reads_bring script [0, 2, 0, 4, 0, 3]
  rw [hreads] at hanswers hfaults
  obtain ⟨answer, hanswer, hbrings, -⟩ := hanswers 1 2 rfl
  refine ⟨hreads, ⟨answer, hanswer, hbrings⟩, ?_⟩
  rcases hfaults front [.data [100], .fault] rfl with hfailed | ⟨between, hfront, -⟩
  · exact hfailed
  · have hlength := congrArg List.length hfront
    simp [front, answers, heard] at hlength

end LineShell.Script
