import LineShell.Proofs.Accounts
import LineShell.Proofs.Spacing

/-!
# Splitting a line

The words of a line are its runs between spaces, so a line is its words with spaces around them in one way, and nothing but
a space parts or changes anything. On the heap, words are held all together or not at all.

- `Words.ofLine_spacing`: the words of a line, where no limit is set;
- `Words.ofLine_all_or_nothing`: what the words of a line need on any heap, what they leave when they are dropped, and what
  is left where any of their blocks is refused.
-/

namespace LineShell

open Text

/-! ## The words of a line -/

theorem words_eq_runs (line : String) : words line = runs ' ' line := rfl

theorem countWords_eq (line : String) : countWords line = (words line).length := by
  rw [countWords, words, List.length_map, List.countP_eq_length_filter]

theorem singleton_space : String.singleton ' ' = " " := rfl

/-- Words that are joined are words again. -/
theorem words_intercalate (line : String) : words (" ".intercalate (words line)) = words line := by
  rw [words_eq_runs, ← singleton_space]
  exact runs_intercalate fun _ => isRun_of_mem_runs

namespace Words

section Run

variable {σ : Type} {K : Kernel σ}

/-- **The words of a line**, where no limit is set. The line is its words with spaces around them, at least one between two
words, in one way only. It has as many words as are counted, and they are the words of the line in which they are joined by
single spaces, which is the line itself if it has no space to spare. They are held if the bytes in use are still a 64-bit
word then, and otherwise nothing is. -/
theorem ofLine_spacing (line : String) {m : Machine σ} (hlimit : m.heap.limit = none) :
    (∃! s : Spacing, s.At ' ' ∧ s.text = line) ∧
    (∀ s : Spacing, s.At ' ' → s.text = line → s.parts.map Prod.fst = words line) ∧
    countWords line = (words line).length ∧
    words (" ".intercalate (words line)) = words line ∧
    (Tight ' ' line → " ".intercalate (words line) = line) ∧
    (ofLine line).run K m =
      if m.heap.inUse + (countWords line * slotSize + sizes (words line)) < wordLimit then
        some (.ok ⟨words line⟩, { m with
          heap := m.heap.grown (countWords line * slotSize + sizes (words line)) (countWords line + 1) })
      else some (.error .outOfMemory, m) := by
  refine ⟨?_, ?_, countWords_eq line, words_intercalate line, ?_, ?_⟩
  · obtain ⟨s, hs, htext⟩ := Spacing.exists_of_text ' ' line
    exact ⟨s, ⟨hs, htext⟩, fun s' ⟨hs', htext'⟩ => Spacing.eq_of_text_eq hs' hs (htext'.trans htext.symm)⟩
  · rintro s hs rfl
    exact (Spacing.runs_text hs).symm
  · intro htight
    rw [words_eq_runs, ← singleton_space]
    exact htight.intercalate_runs
  · have hadmits : m.heap.admits (m.heap.inUse + cost (words line)) =
        decide (m.heap.inUse + cost (words line) < wordLimit) := by
      simp [Heap.admits, hlimit]
    rw [ofLine, run_hold_eq, hadmits, countWords_eq, ← cost]
    simp only [decide_eq_true_eq]

/-- A tab and quotes part nothing, and the first line has spaces to spare. -/
theorem ofLine_spacing_tab :
    let line := "  a\tb   \"c d\" "
    let m : Machine Unit := { heap := { inUse := 7, blocks := 2 }, state := () }
    let held := Words.mk ["a\tb", "\"c", "d\""]
    m.heap.limit = none ∧
      (∃ s : Spacing, s.At ' ' ∧ s.text = line ∧ s.parts.map Prod.fst = held.toList) ∧
      (ofLine line).run (Kernel.refusing Unit) m = some (.ok held, { m with heap := ⟨none, 134, 6⟩ }) ∧
      words "a\tb \"c d\"" = held.toList ∧ Tight ' ' "a\tb \"c d\"" ∧ " ".intercalate held.toList = "a\tb \"c d\"" := by
  intro line m held
  have hlimit : m.heap.limit = none := rfl
  have htight : Tight ' ' "a\tb \"c d\"" := by decide +kernel
  have hwords : words line = held.toList := by decide +kernel
  have hcount : countWords line = 3 := by decide +kernel
  obtain ⟨⟨s, ⟨hs, htext⟩, -⟩, hparts, -, -, -, hrun⟩ := ofLine_spacing (K := Kernel.refusing Unit) line hlimit
  obtain ⟨-, -, -, -, hjoined, -⟩ := ofLine_spacing (K := Kernel.refusing Unit) "a\tb \"c d\"" hlimit
  have hwords' : words "a\tb \"c d\"" = held.toList := by decide +kernel
  rw [hwords'] at hjoined
  rw [hwords, hcount] at hrun
  exact ⟨hlimit, ⟨s, hs, htext, (hparts s hs htext).trans hwords⟩, hrun, hwords', htight, hjoined htight⟩

/-- With no limit set, but all but 41 bytes of a 64-bit word in use, there is no room for one word of one byte. -/
theorem ofLine_full :
    let full : Machine Unit := { heap := { limit := none, inUse := wordLimit - 41, blocks := 1 }, state := () }
    (Prog.allocate (.malloc (wordLimit - 41))).run (Kernel.refusing Unit) { state := () } = some (.ok (), full) ∧
      full.heap.limit = none ∧
      (ofLine "a").run (Kernel.refusing Unit) full = some (.error .outOfMemory, full) :=
  ⟨rfl, rfl, rfl⟩

/-! ## All of the words or none -/

/-- A word takes its part of what all of them take. -/
theorem sizes_take_add_le : ∀ {list : List String} {n : Nat} {word : String}, list[n]? = some word →
    sizes (list.take n) + Text.size word ≤ sizes list
  | [], _, _, h => by simp at h
  | first :: rest, 0, word, h => by
    cases h
    simp [sizes]
  | first :: rest, n + 1, word, h => by
    have hrest : sizes (rest.take n) + Text.size word ≤ sizes rest := sizes_take_add_le h
    simp only [List.take_succ_cons, sizes]
    omega

/-- The words of a line are held where the heap admits all that they take. -/
theorem ofLine_granted_iff {line : String} {m : Machine σ} : (∃ ws m', (ofLine line).run K m = some (.ok ws, m')) ↔
    m.heap.admits (m.heap.inUse + cost (words line)) = true := by
  rw [ofLine, run_hold_eq]
  by_cases hadmits : m.heap.admits (m.heap.inUse + cost (words line)) = true
  · rw [if_pos hadmits]
    exact iff_of_true ⟨_, _, rfl⟩ hadmits
  · rw [if_neg hadmits]
    refine iff_of_false ?_ hadmits
    rintro ⟨_, _, hok⟩
    cases hok

/-- **All words or none.** The words of a line are held if and only if what is in use, a slot for each word and the bytes of
the words are a 64-bit word together and not above the limit; for no words that is what is in use alone. Then they are in
use, in a block for each word and one for the slots, until they are dropped, which leaves the machine as it was. So does a
refusal, be it of the slots or of the block of any word. -/
theorem ofLine_all_or_nothing (line : String) (m : Machine σ) :
    let list := words line
    let bytes := list.length * slotSize + sizes list
    let granted := ∃ ws m', (ofLine line).run K m = some (.ok ws, m')
    (granted ↔ m.heap.inUse + bytes < wordLimit ∧ ∀ most ∈ m.heap.limit, m.heap.inUse + bytes ≤ most) ∧
    (list = [] → m.heap.inUse < wordLimit → (granted ↔ ∀ most ∈ m.heap.limit, m.heap.inUse ≤ most)) ∧
    (∀ ws m', (ofLine line).run K m = some (.ok ws, m') → ws.toList = list ∧
      m' = { m with heap := m.heap.grown bytes (list.length + 1) } ∧ ws.drop.run K m' = some ((), m)) ∧
    (¬granted → (ofLine line).run K m = some (.error .outOfMemory, m)) ∧
    (m.heap.calloc list.length slotSize = none → ¬granted) ∧
    (∀ n word, list[n]? = some word →
      (m.heap.grown (list.length * slotSize + sizes (list.take n)) (n + 1)).malloc (Text.size word) = none → ¬granted) := by
  intro list bytes granted
  have hrun : (ofLine line).run K m = _ := run_hold_eq list m
  have hgranted : granted ↔ m.heap.admits (m.heap.inUse + bytes) = true := ofLine_granted_iff
  have hroom := hgranted.trans Heap.admits_iff
  refine ⟨hroom, fun hnil hword => ?_, fun ws m' hok => ?_, fun hrefused => ?_, fun hslots => ?_, fun n word hn hword => ?_⟩
  · have hbytes : bytes = 0 := by simp [bytes, hnil, sizes]
    rw [hbytes, Nat.add_zero] at hroom
    exact hroom.trans (and_iff_right hword)
  · rw [cost, if_pos (hgranted.1 ⟨ws, m', hok⟩)] at hrun
    cases hrun.symm.trans hok
    refine ⟨rfl, rfl, run_drop_grown _ ?_⟩
    rw [sum_blocks, card_blocks, cost]
  · rw [cost, if_neg fun hadmits => hrefused (hgranted.2 hadmits)] at hrun
    exact hrun
  · intro hok
    have hadmits := Heap.admits_mono (Nat.add_le_add_left (Nat.le_add_right _ _) _) (hgranted.1 hok)
    rw [Heap.calloc_eq_none_iff, hadmits] at hslots
    cases hslots
  · intro hok
    have hpart := sizes_take_add_le hn
    have hadmits : m.heap.admits (m.heap.inUse + (list.length * slotSize + sizes (list.take n)) + Text.size word) = true :=
      Heap.admits_mono (by omega) (hgranted.1 hok)
    rw [Heap.malloc_eq_none_iff, Heap.admits_grown, Heap.grown_inUse, hadmits] at hword
    cases hword

/-- With seven bytes in use in two blocks, three words of 14 bytes take the use to 141 in six blocks. One byte less, and the
third word is refused; below 127, the slots. A line without words asks for a block too, which a limit below the use
refuses. -/
theorem ofLine_all_or_nothing_at_limit :
    let line := "alpha beta gamma"
    let m (most : Nat) : Machine Unit := { heap := ⟨some most, 7, 2⟩, state := () }
    let K := Kernel.refusing Unit
    let after : Machine Unit := { heap := ⟨some 141, 141, 6⟩, state := () }
    (∃ ws, (ofLine line).run K (m 141) = some (.ok ws, after) ∧ ws.toList = ["alpha", "beta", "gamma"] ∧
        ws.drop.run K after = some ((), m 141)) ∧
      (words line)[2]? = some "gamma" ∧
      ((m 140).heap.grown (3 * slotSize + sizes ["alpha", "beta"]) 3).malloc (Text.size "gamma") = none ∧
      (ofLine line).run K (m 140) = some (.error .outOfMemory, m 140) ∧
      (m 126).heap.calloc 3 slotSize = none ∧ (ofLine line).run K (m 126) = some (.error .outOfMemory, m 126) ∧
      words "  " = [] ∧ (m 6).heap.inUse < wordLimit ∧
      (ofLine "  ").run K (m 6) = some (.error .outOfMemory, m 6) := by
  intro line m K after
  have hwords : words line = ["alpha", "beta", "gamma"] := by decide +kernel
  have hbytes : (words line).length * slotSize + sizes (words line) = 134 := by decide +kernel
  have hgamma : (words line)[2]? = some "gamma" := by decide +kernel
  have hnil : words "  " = [] := by decide +kernel
  obtain ⟨hiff, -, hheld, -⟩ := ofLine_all_or_nothing (K := K) line (m 141)
  obtain ⟨-, -, -, hrefused, -, hword⟩ := ofLine_all_or_nothing (K := K) line (m 140)
  obtain ⟨-, -, -, hrefused', hslots, -⟩ := ofLine_all_or_nothing (K := K) line (m 126)
  obtain ⟨-, hnone, -, hrefused'', -⟩ := ofLine_all_or_nothing (K := K) "  " (m 6)
  rw [hbytes] at hiff hheld
  obtain ⟨ws, m', hrun⟩ := hiff.2 ⟨by decide +kernel, by simp [m]⟩
  obtain ⟨hlist, hafter, hdrop⟩ := hheld ws m' hrun
  rw [hwords] at hlist hafter hslots
  have hthird : ((m 140).heap.grown (3 * slotSize + sizes ["alpha", "beta"]) 3).malloc (Text.size "gamma") = none := by
    decide +kernel
  have hfirst : (m 126).heap.calloc 3 slotSize = none := by decide +kernel
  have hword' : (m 6).heap.inUse < wordLimit := by decide +kernel
  rw [hwords] at hword
  subst hafter
  refine ⟨⟨ws, hrun, hlist, hdrop⟩, hgamma, hthird, hrefused (hword 2 "gamma" rfl hthird), hfirst,
    hrefused' (hslots hfirst), hnil, hword', hrefused'' ?_⟩
  rw [hnone hnil hword']
  simp [m]

end Run

end Words

end LineShell
