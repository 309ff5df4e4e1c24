import LineShell.Text
import Mathlib.Data.List.Infix

/-!
# Runs of characters between separators

Cut at each separator, a text leaves runs of other characters (`Text.runs`): the names of a path between its slashes, the
words of a line between its spaces. With the gaps that part them the runs are the whole text, and a text is taken apart
into runs and gaps in one way only.

- `Text.runs_append_sep`: a separator parts the runs on its two sides;
- `Spacing.exists_of_text`, `Spacing.eq_of_text_eq`: every text is runs with gaps around them, in one way;
- `Spacing.runs_text`: these are the runs that are left when the text is cut;
- `Text.runs_intercalate`, `Text.Tight.intercalate_runs`: runs joined by single separators are those runs again, and join
  to the text they come from if no separator stands at an end of it or beside another one.
-/

namespace LineShell

namespace Text

variable {sep : Char}

/-- What is left of a text that is cut at each separator; an empty piece is nothing. -/
def runs (sep : Char) (text : String) : List String :=
  ((text.toList.splitOn sep).filter (fun piece => !piece.isEmpty)).map String.ofList

/-- Some characters, and no separator among them. -/
structure IsRun (sep : Char) (run : String) : Prop where
  ne_empty : run ≠ ""
  no_sep : sep ∉ run.toList

/-- Nothing but separators, perhaps nothing at all. -/
def IsGap (sep : Char) (gap : String) : Prop :=
  ∀ c ∈ gap.toList, c = sep

/-! ## Cutting at separators -/

/-- A piece has no separator. -/
theorem not_mem_of_mem_splitOn {piece : List Char} : ∀ {chars : List Char}, piece ∈ chars.splitOn sep → sep ∉ piece
  | [], h => by simp_all
  | c :: chars, h => by
    rw [List.splitOn_cons_eq_if_modifyHead] at h
    obtain ⟨first, rest, hsplit⟩ := List.exists_cons_of_ne_nil (List.splitOn_ne_nil sep chars)
    have hpieces (p) (hp : p ∈ chars.splitOn sep) : sep ∉ p := not_mem_of_mem_splitOn hp
    rw [hsplit] at h hpieces
    by_cases hc : c = sep
    · rw [if_pos (by simpa using hc)] at h
      rcases List.mem_cons.1 h with rfl | h
      · exact List.not_mem_nil
      · exact hpieces piece h
    · rw [if_neg (by simpa using hc), List.modifyHead_cons] at h
      rcases List.mem_cons.1 h with rfl | h
      · simpa using ⟨Ne.symm hc, hpieces first List.mem_cons_self⟩
      · exact hpieces piece (List.mem_cons_of_mem _ h)

/-- What is left of a text are runs. -/
theorem isRun_of_mem_runs {text run : String} (h : run ∈ runs sep text) : IsRun sep run := by
  simp only [runs, List.mem_map, List.mem_filter] at h
  obtain ⟨piece, ⟨hpiece, hne⟩, rfl⟩ := h
  refine ⟨fun hempty => ?_, ?_⟩
  · rw [← String.toList_inj, String.toList_ofList] at hempty
    simp [hempty] at hne
  · rw [String.toList_ofList]
    exact not_mem_of_mem_splitOn hpiece

@[simp] theorem runs_empty : runs sep "" = [] := by
  simp [runs]

/-- **A separator parts the runs**: none of them stands on both sides. -/
theorem runs_append_sep (sep : Char) (front back : String) :
    runs sep (front ++ (String.singleton sep ++ back)) = runs sep front ++ runs sep back := by
  have h : (front ++ (String.singleton sep ++ back)).toList = front.toList ++ sep :: back.toList := by simp
  simp [runs, h, List.splitOn_append_cons_self]

theorem IsRun.runs_eq {run : String} (h : IsRun sep run) : runs sep run = [run] := by
  simp [runs, List.splitOn_eq_singleton h.no_sep, h.ne_empty]

/-- The first character of a run. -/
theorem IsRun.head {run : String} (h : IsRun sep run) : ∃ c rest, run = String.ofList (c :: rest) ∧ c ≠ sep := by
  obtain ⟨c, rest, hrun⟩ := List.exists_cons_of_ne_nil (l := run.toList) (by simpa using h.ne_empty)
  refine ⟨c, rest, by rw [← hrun, String.ofList_toList], fun hc => h.no_sep ?_⟩
  rw [hrun, hc]
  exact List.mem_cons_self

theorem IsRun.all {run : String} (h : IsRun sep run) : ∀ c ∈ run.toList, (c != sep) = true := by
  intro c hc
  rw [bne_iff_ne]
  rintro rfl
  exact h.no_sep hc

/-- One more character in front of a run. -/
theorem IsRun.cons {run : String} (h : IsRun sep run) {c : Char} (hc : c ≠ sep) :
    IsRun sep (String.singleton c ++ run) :=
  ⟨by simp, by simpa using ⟨Ne.symm hc, h.no_sep⟩⟩

theorem isRun_singleton {c : Char} (hc : c ≠ sep) : IsRun sep (String.singleton c) :=
  ⟨by simp, by simpa using Ne.symm hc⟩

theorem isGap_empty : IsGap sep "" := by
  simp [IsGap]

theorem IsGap.all {gap : String} (h : IsGap sep gap) : ∀ c ∈ gap.toList, (c == sep) = true :=
  fun c hc => beq_iff_eq.2 (h c hc)

/-- One more separator in front of a gap. -/
theorem IsGap.cons {gap : String} (h : IsGap sep gap) : IsGap sep (String.singleton sep ++ gap) := by
  simpa [IsGap] using h

/-- A gap is empty, or a separator with a gap behind it. -/
theorem IsGap.cases {gap : String} (h : IsGap sep gap) :
    gap = "" ∨ ∃ more, gap = String.singleton sep ++ more ∧ IsGap sep more := by
  cases hgap : gap.toList with
  | nil => exact .inl (by simpa using hgap)
  | cons c rest =>
    refine .inr ⟨String.ofList rest, ?_, fun d hd => h d ?_⟩
    · rw [← h c (by simp [hgap]), ← String.ofList_cons, ← hgap, String.ofList_toList]
    · rw [hgap]
      exact List.mem_cons_of_mem _ (by simpa using hd)

/-- A gap in front of a text leaves nothing. -/
theorem IsGap.runs_append {gap : String} (h : IsGap sep gap) (text : String) :
    runs sep (gap ++ text) = runs sep text := by
  obtain ⟨chars, rfl⟩ : ∃ chars, gap = String.ofList chars := ⟨gap.toList, String.ofList_toList.symm⟩
  induction chars with
  | nil => rw [String.ofList_nil, String.empty_append]
  | cons c chars ih =>
    obtain ⟨rfl, hrest⟩ : c = sep ∧ IsGap sep (String.ofList chars) := by simpa [IsGap] using h
    have hsep := runs_append_sep c "" (String.ofList chars ++ text)
    rw [String.empty_append, runs_empty, List.nil_append] at hsep
    rw [String.ofList_cons, String.append_assoc, hsep, ih hrest]

/-- **Runs that are joined** by single separators are those runs again. -/
theorem runs_intercalate : ∀ {list : List String}, (∀ run ∈ list, IsRun sep run) →
    runs sep ((String.singleton sep).intercalate list) = list
  | [], _ => by simp
  | [run], h => by
    rw [String.intercalate_singleton]
    exact (h run List.mem_cons_self).runs_eq
  | run :: next :: rest, h => by
    have hrest := runs_intercalate fun other hother => h other (List.mem_cons_of_mem _ hother)
    rw [String.intercalate_cons_cons, String.append_assoc, runs_append_sep, (h run List.mem_cons_self).runs_eq, hrest]
    rfl

/-- The characters that have a property are cut off where the rest begins with one that has it not. -/
theorem cut_append {p : Char → Bool} {front back : List Char} (hfront : ∀ c ∈ front, p c = true)
    (hback : ∀ c ∈ back.head?, p c = false) :
    (front ++ back).takeWhile p = front ∧ (front ++ back).dropWhile p = back := by
  rw [List.takeWhile_append_of_pos hfront, List.dropWhile_append_of_pos hfront]
  cases back with
  | nil => simp
  | cons c back =>
    have hc : p c = false := hback c rfl
    simp [hc]

/-- A text has two such parts in one way. -/
theorem parts_eq_of_append_eq {p : Char → Bool} {front front' back back' : String}
    (hfront : ∀ c ∈ front.toList, p c = true) (hfront' : ∀ c ∈ front'.toList, p c = true)
    (hback : ∀ c ∈ back.toList.head?, p c = false) (hback' : ∀ c ∈ back'.toList.head?, p c = false)
    (h : front ++ back = front' ++ back') : front = front' ∧ back = back' := by
  obtain ⟨htaken, hleft⟩ := cut_append hfront hback
  obtain ⟨htaken', hleft'⟩ := cut_append hfront' hback'
  rw [← String.toList_append, h, String.toList_append] at htaken hleft
  exact ⟨String.toList_inj.1 (htaken.symm.trans htaken'), String.toList_inj.1 (hleft.symm.trans hleft')⟩

end Text

/-! ## Runs and the gaps around them -/

/-- A text taken apart: what stands in front of its first run, then each run with what stands behind it. -/
structure Spacing where
  lead : String
  parts : List (String × String)
deriving DecidableEq, Repr

namespace Spacing

open Text

variable {sep : Char}

/-- Runs and what is behind them, one after the other. -/
def body : List (String × String) → String
  | [] => ""
  | (run, gap) :: rest => run ++ (gap ++ body rest)

/-- The text that was taken apart. -/
def text (s : Spacing) : String :=
  s.lead ++ body s.parts

/-- Runs with gaps behind them, of which only the last may be empty. -/
inductive Parted (sep : Char) : List (String × String) → Prop
  | nil : Parted sep []
  | last {run gap : String} : IsRun sep run → IsGap sep gap → Parted sep [(run, gap)]
  | more {run gap : String} {next : String × String} {rest : List (String × String)} : IsRun sep run → IsGap sep gap →
      gap ≠ "" → Parted sep (next :: rest) → Parted sep ((run, gap) :: next :: rest)

/-- The text is taken apart at the separators. -/
structure At (sep : Char) (s : Spacing) : Prop where
  lead : IsGap sep s.lead
  parts : Parted sep s.parts

namespace Parted

variable {run gap : String} {parts rest : List (String × String)}

theorem isRun (h : Parted sep ((run, gap) :: rest)) : IsRun sep run := by
  cases h <;> assumption

theorem isGap (h : Parted sep ((run, gap) :: rest)) : IsGap sep gap := by
  cases h <;> assumption

theorem tail (h : Parted sep ((run, gap) :: rest)) : Parted sep rest := by
  cases h with
  | last => exact .nil
  | more _ _ _ h => exact h

/-- Another run in the place of the first. -/
theorem withRun (h : Parted sep ((run, gap) :: rest)) {other : String} (hother : IsRun sep other) :
    Parted sep ((other, gap) :: rest) := by
  cases h with
  | last _ hgap => exact .last hother hgap
  | more _ hgap hne h => exact .more hother hgap hne h

/-- What has parts begins with a run. -/
theorem head (h : Parted sep parts) : ∀ c ∈ (body parts).toList.head?, c ≠ sep := by
  cases h with
  | nil => simp [body]
  | last hrun =>
    obtain ⟨c, rest, rfl, hc⟩ := hrun.head
    simpa [body] using hc
  | more hrun =>
    obtain ⟨c, rest, rfl, hc⟩ := hrun.head
    simpa [body] using hc

/-- Behind a run is a separator, or the end. -/
theorem behind (h : Parted sep ((run, gap) :: rest)) : ∀ c ∈ (gap ++ body rest).toList.head?, c = sep := by
  rcases h.isGap.cases with rfl | ⟨more, rfl, -⟩
  · cases h with
    | last => simp [body]
    | more _ _ hne => exact absurd rfl hne
  · simp

/-- The runs are what is left when the text is cut. -/
theorem runs_body : ∀ {parts : List (String × String)}, Parted sep parts → runs sep (body parts) = parts.map Prod.fst
  | [], _ => by simp [body]
  | (run, gap) :: rest, h => by
    have hrest := h.tail.runs_body
    rw [body, List.map_cons, ← hrest]
    rcases h.isGap.cases with rfl | ⟨more, rfl, hmore⟩
    · cases h with
      | last hrun => simp [body, hrun.runs_eq]
      | more _ _ hne => exact absurd rfl hne
    · rw [String.append_assoc, runs_append_sep, hmore.runs_append, h.isRun.runs_eq]
      rfl

/-- **Parts are told from their text.** -/
theorem eq_of_body_eq : ∀ {parts parts' : List (String × String)}, Parted sep parts → Parted sep parts' →
    body parts = body parts' → parts = parts'
  | [], [], _, _, _ => rfl
  | [], (run, gap) :: rest, _, h', heq => by
    obtain ⟨c, more, rfl, -⟩ := h'.isRun.head
    simp [body] at heq
  | (run, gap) :: rest, [], h, _, heq => by
    obtain ⟨c, more, rfl, -⟩ := h.isRun.head
    simp [body] at heq
  | (run, gap) :: rest, (run', gap') :: rest', h, h', heq => by
    -- a run ends at the first separator, and a gap at the first other character
    obtain ⟨rfl, hbehind⟩ := parts_eq_of_append_eq (p := (· != sep)) h.isRun.all h'.isRun.all
      (by simpa using h.behind) (by simpa using h'.behind) heq
    obtain ⟨rfl, hrest⟩ := parts_eq_of_append_eq (p := (· == sep)) h.isGap.all h'.isGap.all
      (by simpa using h.tail.head) (by simpa using h'.tail.head) hbehind
    rw [eq_of_body_eq h.tail h'.tail hrest]

end Parted

/-- What is left of the text when it is cut. -/
theorem runs_text {s : Spacing} (h : s.At sep) : runs sep s.text = s.parts.map Prod.fst := by
  rw [text, h.lead.runs_append, h.parts.runs_body]

/-- **A text is taken apart in one way only.** -/
theorem eq_of_text_eq {s s' : Spacing} (h : s.At sep) (h' : s'.At sep) (heq : s.text = s'.text) : s = s' := by
  obtain ⟨hlead, hbody⟩ := parts_eq_of_append_eq (p := (· == sep)) h.lead.all h'.lead.all
    (by simpa using h.parts.head) (by simpa using h'.parts.head) heq
  have hparts := h.parts.eq_of_body_eq h'.parts hbody
  cases s
  cases s'
  rw [Spacing.mk.injEq]
  exact ⟨hlead, hparts⟩

/-- **Every text is taken apart**, one character after the other from its end: a separator goes to the gap in front, any
other character to the run in front, or is a run of its own where a gap is in front. -/
theorem exists_of_chars (sep : Char) : ∀ chars : List Char, ∃ s : Spacing, s.At sep ∧ s.text = String.ofList chars
  | [] => ⟨⟨"", []⟩, ⟨isGap_empty, .nil⟩, rfl⟩
  | c :: chars => by
    obtain ⟨⟨lead, parts⟩, ⟨hlead, hparts⟩, htext⟩ := exists_of_chars sep chars
    rw [String.ofList_cons, ← htext]
    dsimp only [text] at hlead hparts ⊢
    by_cases hc : c = sep
    · subst hc
      exact ⟨⟨String.singleton c ++ lead, parts⟩, ⟨hlead.cons, hparts⟩, String.append_assoc ..⟩
    · match parts with
      | [] => exact ⟨⟨"", [(String.singleton c, lead)]⟩, ⟨isGap_empty, .last (isRun_singleton hc) hlead⟩, by simp [body]⟩
      | (run, gap) :: rest =>
        by_cases hempty : lead = ""
        · subst hempty
          refine ⟨⟨"", (String.singleton c ++ run, gap) :: rest⟩, ⟨isGap_empty, hparts.withRun (hparts.isRun.cons hc)⟩, ?_⟩
          simp [body, String.append_assoc]
        · refine ⟨⟨"", (String.singleton c, lead) :: (run, gap) :: rest⟩,
            ⟨isGap_empty, .more (isRun_singleton hc) hlead hempty hparts⟩, ?_⟩
          simp [body]

theorem exists_of_text (sep : Char) (line : String) : ∃ s : Spacing, s.At sep ∧ s.text = line := by
  obtain ⟨s, hs, htext⟩ := exists_of_chars sep line.toList
  exact ⟨s, hs, by rw [htext, String.ofList_toList]⟩

end Spacing

/-! ## Texts without a separator to spare -/

namespace Text

open Spacing

variable {sep : Char}

/-- No separator stands at the end of the text or beside another one. -/
structure TightBehind (sep : Char) (text : String) : Prop where
  last : text.toList.getLast? ≠ some sep
  single : ¬[sep, sep] <:+: text.toList

/-- No separator stands at an end of the text or beside another one. -/
structure Tight (sep : Char) (text : String) : Prop extends TightBehind sep text where
  head : text.toList.head? ≠ some sep

instance (sep : Char) (text : String) : Decidable (Tight sep text) :=
  decidable_of_iff (text.toList.getLast? ≠ some sep ∧ ¬[sep, sep] <:+: text.toList ∧ text.toList.head? ≠ some sep)
    ⟨fun ⟨last, single, head⟩ => ⟨⟨last, single⟩, head⟩, fun ⟨⟨last, single⟩, head⟩ => ⟨last, single, head⟩⟩

/-- What a text ends in has no separator to spare that the text has not. -/
theorem TightBehind.of_append {front back : String} (h : TightBehind sep (front ++ back)) : TightBehind sep back := by
  refine ⟨fun hlast => h.last ?_, fun hdouble => h.single ?_⟩
  · simp [List.getLast?_append, hlast]
  · rw [String.toList_append]
    exact hdouble.trans (List.suffix_append _ _).isInfix

/-- A gap at the end of such a text is empty. -/
theorem IsGap.eq_empty {front gap : String} (hgap : IsGap sep gap) (h : TightBehind sep (front ++ gap)) : gap = "" := by
  rcases hgap.cases with rfl | ⟨more, rfl, -⟩
  · rfl
  · -- the last character of a gap is a separator
    have hne : (String.singleton sep ++ more).toList ≠ [] := by simp
    refine absurd ?_ h.of_append.last
    rw [List.getLast?_eq_some_getLast hne, hgap _ (List.getLast_mem hne)]

/-- A gap in such a text is empty or a single separator. -/
theorem IsGap.eq_singleton {gap back : String} (hgap : IsGap sep gap) (hne : gap ≠ "")
    (h : TightBehind sep (gap ++ back)) : gap = String.singleton sep := by
  obtain ⟨more, rfl, hmore⟩ := hgap.cases.resolve_left hne
  rcases hmore.cases with rfl | ⟨more, rfl, -⟩
  · exact String.append_empty
  · exact absurd ⟨[], (more ++ back).toList, by simp⟩ h.single

/-- **Parts without a separator to spare** are their runs, joined by single separators. -/
theorem TightBehind.intercalate_body : ∀ {parts : List (String × String)}, Parted sep parts →
    TightBehind sep (body parts) → (String.singleton sep).intercalate (parts.map Prod.fst) = body parts
  | [], _, _ => by simp [body]
  | [(run, gap)], hparts, h => by
    rw [body, body, String.append_empty] at h
    rw [body, body, hparts.isGap.eq_empty h]
    simp
  | (run, gap) :: next :: rest, hparts, h => by
    have hbehind : TightBehind sep (gap ++ body (next :: rest)) := of_append h
    have hrest := intercalate_body hparts.tail hbehind.of_append
    have hgap : gap = String.singleton sep := by
      cases hparts with
      | more _ hgap hne _ => exact hgap.eq_singleton hne hbehind
    rw [List.map_cons, List.map_cons, String.intercalate_cons_cons, ← List.map_cons, hrest, hgap, String.append_assoc]
    rfl

/-- **A text without a separator to spare** is its runs, joined by single separators. -/
theorem Tight.intercalate_runs {text : String} (h : Tight sep text) :
    (String.singleton sep).intercalate (runs sep text) = text := by
  obtain ⟨⟨lead, parts⟩, ⟨hlead, hparts⟩, rfl⟩ := exists_of_text sep text
  have hempty : lead = "" := by
    rcases IsGap.cases hlead with hempty | ⟨more, hempty, -⟩
    · exact hempty
    · refine absurd ?_ h.head
      dsimp only at hempty
      simp [Spacing.text, hempty]
  subst hempty
  have hbehind := h.toTightBehind
  simp only [Spacing.text, String.empty_append] at hbehind ⊢
  rw [hparts.runs_body]
  exact hbehind.intercalate_body hparts

end Text

end LineShell
