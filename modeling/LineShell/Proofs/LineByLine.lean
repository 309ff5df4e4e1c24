import LineShell.Proofs.Reading

/-!
# One line after the other

The `lines` of some bytes are the pieces up to and with each newline, and an unterminated last piece. A reader `Expects`
some bytes if they are what is to come behind the rest of a dropped line, and reading is then reading from there
(`Taken.ofArrivals_skipped`).
-/

namespace LineShell

/-! ## Lines -/

/-- The lines of some bytes, each with the newline that ends it; the last one may have none. -/
def lines : Bytes → List Bytes
  | [] => []
  | b :: rest =>
    if b = newline then [b] :: lines rest
    else
      match lines rest with
      | [] => [[b]]
      | line :: more => (b :: line) :: more

/-- `line` is the first line of bytes that go on with `rest`. -/
inductive FirstLine : Bytes → Bytes → Prop
  | ended {body : Bytes} (h : newline ∉ body) (rest : Bytes) : FirstLine (body ++ [newline]) rest
  | last {body : Bytes} (h : newline ∉ body) (hne : body ≠ []) : FirstLine body []

theorem not_mem_cons {b : UInt8} {body : Bytes} (hb : b ≠ newline) (h : newline ∉ body) : newline ∉ b :: body :=
  fun hmem => (List.mem_cons.1 hmem).elim (fun e => hb e.symm) h

/-- Bytes begin with a line, unless there are none. -/
theorem exists_firstLine : ∀ {data : Bytes}, data ≠ [] → ∃ line rest, FirstLine line rest ∧ data = line ++ rest
  | [], h => absurd rfl h
  | b :: data, _ => by
    by_cases hb : b = newline
    · subst hb
      have hnil : newline ∉ ([] : Bytes) := by simp
      exact ⟨[newline], data, .ended hnil data, rfl⟩
    by_cases hdata : data = []
    · subst hdata
      exact ⟨[b], [], .last (not_mem_cons hb (by simp)) (by simp), rfl⟩
    · obtain ⟨line, rest, hline, rfl⟩ := exists_firstLine hdata
      cases hline with
      | ended h rest => exact ⟨_, rest, .ended (not_mem_cons hb h) rest, rfl⟩
      | last h _ => exact ⟨_, [], .last (not_mem_cons hb h) (by simp), rfl⟩

namespace FirstLine

variable {line rest : Bytes}

theorem ne_nil (h : FirstLine line rest) : line ≠ [] := by
  cases h with
  | ended => simp
  | last _ hne => exact hne

/-- A first line is one too with nothing behind it. -/
theorem alone (h : FirstLine line rest) : FirstLine line [] := by
  cases h with
  | ended h => exact .ended h []
  | last h hne => exact .last h hne

/-- The first of the lines. -/
theorem lines_append (h : FirstLine line rest) : lines (line ++ rest) = line :: lines rest := by
  cases h with
  | ended h rest =>
    rename_i body
    induction body with
    | nil => simp [lines]
    | cons b body ih =>
      have hb : b ≠ newline := fun e => h (by simp [e])
      have hrest := ih fun hmem => h (List.mem_cons_of_mem _ hmem)
      simp only [List.cons_append, lines, hb, ↓reduceIte, hrest]
  | last h hne =>
    rw [List.append_nil]
    induction line with
    | nil => exact absurd rfl hne
    | cons b body ih =>
      have hb : b ≠ newline := fun e => h (by simp [e])
      by_cases hbody : body = []
      · simp [hbody, lines, hb]
      · have hrest := ih (fun hmem => h (List.mem_cons_of_mem _ hmem)) hbody
        simp only [lines, hb, ↓reduceIte, hrest]

end FirstLine

/-- Lines one after the other: none, or a first one and the lines behind it. -/
theorem lines_cases (data : Bytes) : (data = [] ∧ lines data = []) ∨
    ∃ line rest, FirstLine line rest ∧ data = line ++ rest ∧ lines data = line :: lines rest := by
  by_cases hdata : data = []
  · exact .inl ⟨hdata, by rw [hdata, lines]⟩
  · obtain ⟨line, rest, hline, rfl⟩ := exists_firstLine hdata
    exact .inr ⟨line, rest, hline, rfl, hline.lines_append⟩

/-- Lines are all there is. -/
theorem flatten_lines (data : Bytes) : (lines data).flatten = data := by
  rcases lines_cases data with ⟨rfl, -⟩ | ⟨line, rest, hline, hdata, hlines⟩
  · rfl
  · have hlt : rest.length < data.length := by
      have := List.length_pos_iff.2 hline.ne_nil
      simp only [hdata, List.length_append]
      omega
    rw [hlines, List.flatten_cons, flatten_lines rest, ← hdata]
termination_by data.length

/-- There are no more lines than bytes. -/
theorem length_lines_le (data : Bytes) : (lines data).length ≤ data.length := by
  rcases lines_cases data with ⟨rfl, -⟩ | ⟨line, rest, hline, hdata, hlines⟩
  · exact Nat.le_refl _
  · have hpos := List.length_pos_iff.2 hline.ne_nil
    have hlength : data.length = line.length + rest.length := by rw [hdata, List.length_append]
    have hle := length_lines_le rest
    rw [hlines, List.length_cons]
    omega
termination_by data.length

example : lines [97, 10, 10, 98] = [[97, 10], [10], [98]] := by decide

/-! ## Behind a dropped line -/

/-- Reading comes to `result` and `heap`, and `rest` is what is left behind the line. -/
structure Taken.Leaves (t : Taken) (result : Except ReadError Line) (heap : Heap) (rest : List Arrival) : Prop where
  result_eq : t.result = result
  heap_eq : t.heap = heap
  skipped_eq : skipped t.skipping t.left = (true, rest)

namespace Taken

/-- With the rest of a dropped line passed over, reading is reading from what is behind it. -/
theorem ofArrivals_skipped {heap : Heap} {skipping : Bool} {arrivals left : List Arrival}
    (h : skipped skipping arrivals = (true, left)) :
    ofArrivals heap skipping arrivals = ofArrivals heap false left := by
  unfold ofArrivals
  rw [h]
  rfl

end Taken

/-! ## Readers that expect lines -/

namespace Reader

/-- Behind the rest of a dropped line, if there is one, `data` is still to come. -/
def Expects (r : Reader) (script : Script) (data : Bytes) : Prop :=
  ∃ arrivals skipping, r.Awaits script arrivals skipping ∧ skipped skipping arrivals = (true, data.map .byte)

/-- A fresh reader expects what is on the console. -/
theorem ofChunk_expects (batch : UInt64) {script : Script} {data : Bytes} (hdata : script.arrivals = data.map .byte)
    (hfits : data.length < Script.limit) : (ofChunk batch.toNat).Expects script data := by
  have hlength : script.arrivals.length = data.length := by rw [hdata, List.length_map]
  exact ⟨script.arrivals, false, ofChunk_awaits batch (by omega), by rw [hdata]; rfl⟩

end Reader

end LineShell
