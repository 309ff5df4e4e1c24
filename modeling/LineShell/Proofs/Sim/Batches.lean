import LineShell.Proofs.Editing
import LineShell.Proofs.Sim.Typing

/-!
# Where a batch comes from

One read of the console takes from one chunk only. So what a reader holds of its batch stands together in one chunk of the
script, or it was in the reader before; and what it keeps behind a line stands there behind the newline of that line.

- `Reader.Draws`: all that a reader and the console have to offer has a property that goes down to pieces;
- `Reader.readLine_keeps`: what a reader keeps behind a line;
- `Reader.keeps_nothing`: a console that hands over one line at a time leaves it nothing to keep.
-/

namespace LineShell

/-- The bytes stand together in a chunk of the script, or in those that are held already. -/
def Script.Offers (script : Script) (held piece : Bytes) : Prop :=
  ∃ chunk, piece <:+: chunk ∧ (chunk = held ∨ .data chunk ∈ script)

theorem Script.Offers.infix {script : Script} {held piece whole : Bytes} (h : script.Offers held whole)
    (hpiece : piece <:+: whole) : script.Offers held piece := by
  obtain ⟨chunk, hwhole, hchunk⟩ := h
  exact ⟨chunk, hpiece.trans hwhole, hchunk⟩

section Draws

/- What is true of some bytes is true of the pieces of them. -/
variable {P : Bytes → Prop} (hP : ∀ {piece whole}, piece <:+: whole → P whole → P piece)

include hP in
/-- A read brings a piece of a chunk, if it brings anything, and leaves pieces of chunks. -/
theorem Script.read_pieces (count : Nat) : ∀ {script : Script}, (∀ data, .data data ∈ script → P data) →
    (∀ data, (script.read count).1 = some data → data = [] ∨ P data) ∧
      ∀ data, .data data ∈ (script.read count).2 → P data
  | [], _ => ⟨fun _ h => .inl (Option.some.inj h).symm, fun _ h => absurd h List.not_mem_nil⟩
  | .fault :: rest, h => ⟨nofun, fun data hdata => h data (List.mem_cons_of_mem _ hdata)⟩
  | .data [] :: rest, h => by
    rw [read, if_pos List.isEmpty_nil]
    exact read_pieces count fun data hdata => h data (List.mem_cons_of_mem _ hdata)
  | .data (b :: bytes) :: rest, h => by
    have hchunk := h (b :: bytes) List.mem_cons_self
    simp only [read, List.isEmpty_cons, Bool.false_eq_true, ↓reduceIte, Option.some.injEq]
    refine ⟨fun data hdata => .inr (hP (hdata ▸ (List.take_prefix _ _).isInfix) hchunk), fun data hdata => ?_⟩
    split at hdata
    · exact h data (List.mem_cons_of_mem _ hdata)
    · rcases List.mem_cons.1 hdata with heq | hrest
      · cases heq
        exact hP (List.drop_suffix _ _).isInfix hchunk
      · exact h data (List.mem_cons_of_mem _ hrest)

/-- All chunks on the console have the property. -/
def Sim.Brings (P : Bytes → Prop) (m : Machine Sim) : Prop :=
  ∃ script, m.state.input = .script script ∧ script.arrivals.length < Script.limit ∧ ∀ data, .data data ∈ script → P data

include hP in
theorem Sim.read_brings (depth : Nat) {m : Machine Sim} (h : Sim.Brings P m) (count : UInt64) :
    (Prog.read .stdin count 0).Ensures (kernel depth) m fun result m' => Brings P m' ∧
      ∀ answer, result = .ok answer → answer.1 = answer.2.length ∧ answer.2.length ≤ count.toNat ∧
        (answer.2 = [] ∨ P answer.2) := by
  obtain ⟨script, hinput, hfits, hscript⟩ := h
  obtain ⟨hdata, hrest⟩ := Script.read_pieces hP count.toNat hscript
  have hlength := Script.length_read_add_le count.toNat script
  have hserve := serve_read depth m m.heap script count
  rw [Machine.facing_self hinput] at hserve
  rw [Script.unread_eq, Script.unread_eq] at hlength
  have hbrings : Brings P (m.facing m.heap (script.read count.toNat).2) := ⟨_, rfl, by omega, hrest⟩
  refine Prog.Yields.ensures ?_
  cases hread : (script.read count.toNat).1 with
  | none =>
    have hrun : (Prog.read .stdin count 0).run (kernel depth) m =
        some (.error Operation.read.failed, m.facing m.heap (script.read count.toNat).2) := by
      rw [Prog.read, Prog.run_ask, hserve, hread]
      rfl
    refine .of_run hrun ⟨hbrings, ?_⟩
    rintro _ ⟨⟩
  | some data =>
    rw [hread, Option.getD_some] at hlength
    have hlength : data.length < Script.limit := by omega
    obtain ⟨hok, hword⟩ := delivered_ok hlength
    have hrun : (Prog.read .stdin count 0).run (kernel depth) m =
        some (.ok (data.length, data), m.facing m.heap (script.read count.toNat).2) := by
      rw [Prog.read, Prog.run_ask, hserve, Option.map_some, hread, Prog.understood, hok, hword]
      rfl
    refine .of_run hrun ⟨hbrings, ?_⟩
    rintro _ ⟨⟩
    exact ⟨rfl, Script.length_read_le (Prod.ext hread rfl), hdata data hread⟩

namespace Reader

/-- What the reader has not looked at has the property, and so has every chunk on the console. -/
structure Draws (P : Bytes → Prop) (r : Reader) (m : Machine Sim) : Prop where
  unread : P r.unread
  console : Sim.Brings P m

/-- Behind a line that is read the reader keeps nothing, or what stood behind a newline. -/
def Keeps (P : Bytes → Prop) (result : Except ReadError Line) (r : Reader) : Prop :=
  ∀ line, result = .ok line → r.unread = [] ∨ P (newline :: r.unread)

theorem Keeps.failed (e : ReadError) (r : Reader) : Keeps P (.error e) r := by
  rintro _ ⟨⟩

theorem Keeps.nothing {result : Except ReadError Line} {r : Reader} (h : r.unread = []) : Keeps P result r :=
  fun _ _ => .inl h

/-- What a step of a line leaves. -/
def Progress.Keeps (P : Bytes → Prop) (m' : Machine Sim) : Progress → Prop
  | .ended result r => Reader.Keeps P result r
  | .more _ r => r.Draws P m'

variable (depth : Nat) {r : Reader} {m : Machine Sim}

include hP

/-- **A batch** is a piece of a chunk. -/
theorem fetch_draws (h : r.Draws P m) :
    r.fetch.Ensures (Sim.kernel depth) m fun x m' =>
      x.2.Draws P m' ∧ ∀ count, x.1 = .ok count → x.2.unread.length = count := by
  have hnil : P [] := hP List.nil_infix h.unread
  refine .seq (Sim.read_brings hP depth h.console _) ?_
  rintro result m' ⟨hbrings, hanswer⟩
  cases result with
  | error e =>
    refine .pure ⟨⟨hnil, hbrings⟩, ?_⟩
    rintro _ ⟨⟩
  | ok answer =>
    obtain ⟨hcount, hle, hpiece⟩ := hanswer answer rfl
    have hbatch : overwritten r.chunk r.batch answer.2 answer.1 = answer.2 := by
      rw [hcount, overwritten_eq r.batch (Nat.le_trans hle (Nat.mod_le _ _))]
    refine .pure ⟨⟨?_, hbrings⟩, ?_⟩
    · show P (overwritten r.chunk r.batch answer.2 answer.1)
      rw [hbatch]
      exact hpiece.elim (fun h => h ▸ hnil) id
    · rintro _ ⟨⟩
      show (overwritten r.chunk r.batch answer.2 answer.1).length = answer.1
      rw [hbatch, hcount]

/-- Passing over the rest of a dropped line. -/
theorem passOver_draws (h : r.Draws P m) :
    r.passOver.Ensures (Sim.kernel depth) m fun x m' => x.2.Draws P m' := by
  unfold passOver
  split
  · next rest hafter =>
    have hrest : rest <:+: r.unread :=
      ((List.suffix_cons _ rest).trans (hafter ▸ List.dropWhile_suffix _)).isInfix
    exact .pure ⟨hP hrest h.unread, h.console⟩
  · refine .seq (fetch_draws hP depth (r := { r with unread := [] }) ⟨hP List.nil_infix h.unread, h.console⟩) ?_
    rintro ⟨e | _ | count, r'⟩ m' ⟨hdraws, -⟩
    · exact .pure hdraws
    · exact .pure ⟨hdraws.unread, hdraws.console⟩
    · exact .pure hdraws

theorem skip_draws : ∀ (supply : Nat) {r : Reader} {m : Machine Sim}, r.Draws P m →
    (r.skip supply).Ensures (Sim.kernel depth) m fun x m' => x.2.Draws P m' := by
  intro supply
  induction supply with
  | zero =>
    intro r m h
    rw [skip.eq_def]
    split
    · exact .pure h
    · refine .seq (passOver_draws hP depth h) ?_
      rintro ⟨_ | answer, r'⟩ m' hdraws
      · exact .stuck
      · exact .pure hdraws
  | succ supply ih =>
    intro r m h
    rw [skip.eq_def]
    split
    · exact .pure h
    · refine .seq (passOver_draws hP depth h) ?_
      rintro ⟨_ | answer, r'⟩ m' hdraws
      · exact ih hdraws
      · exact .pure hdraws

theorem refill_keeps (h : r.Draws P m) (d : Draft) :
    (r.refill d).Ensures (Sim.kernel depth) m fun progress m' => progress.Keeps P m' := by
  refine .seq (fetch_draws hP depth h) ?_
  rintro ⟨e | _ | count, r'⟩ m₁ ⟨hdraws, hcount⟩
  · exact .seq_any fun _ _ => .pure (Keeps.failed _ _)
  · -- the end of the input, where a last line may be without a newline
    have hnothing : r'.unread = [] := List.length_eq_zero_iff.1 (hcount 0 rfl)
    dsimp only
    split
    · exact .seq_any fun _ _ => .pure (Keeps.failed _ _)
    · exact .seq_any fun _ _ => .pure (Keeps.nothing hnothing)
  · exact .pure hdraws

theorem advance_keeps (h : r.Draws P m) (d : Draft) :
    (r.advance d).Ensures (Sim.kernel depth) m fun progress m' => progress.Keeps P m' := by
  unfold advance
  dsimp only
  refine .seq (d.extend_yields _ m).ensures ?_
  rintro ⟨d', _ | left⟩ m₁ ⟨⟨heap, hheap⟩, -⟩
  · subst hheap
    obtain ⟨-, hcut⟩ := cut_unread r.unread
    dsimp only
    split
    · next b rest hafter =>
      have hpiece : b :: rest <:+: r.unread := (hafter ▸ List.dropWhile_suffix _).isInfix
      have hb : b = newline := by
        rcases hcut with ⟨hnone, -⟩ | ⟨_, hnewline, -⟩
        · cases hafter.symm.trans hnone
        · exact (List.cons.inj (hafter.symm.trans hnewline)).1
      exact .seq_any fun _ _ => .pure fun _ _ => .inr (hP (hb ▸ hpiece) h.unread)
    · have hdraws : Draws P { r with unread := [] } { m with heap := heap } :=
        ⟨hP List.nil_infix h.unread, h.console⟩
      exact refill_keeps hP depth hdraws d'
  · exact .seq_any fun _ _ => .pure (Keeps.failed _ _)

theorem fill_keeps : ∀ (supply : Nat) {r : Reader} {m : Machine Sim} (d : Draft), r.Draws P m →
    (r.fill supply d).Ensures (Sim.kernel depth) m fun x _ => Keeps P x.1 x.2 := by
  intro supply
  induction supply with
  | zero =>
    intro r m d h
    rw [fill.eq_def]
    refine .seq (advance_keeps hP depth h d) fun progress m₁ hkeeps => ?_
    cases progress with
    | ended result r' => exact .pure hkeeps
    | more d' r' => exact .stuck
  | succ supply ih =>
    intro r m d h
    rw [fill.eq_def]
    refine .seq (advance_keeps hP depth h d) fun progress m₁ hkeeps => ?_
    cases progress with
    | ended result r' => exact .pure hkeeps
    | more d' r' => exact ih d' hkeeps

/-- **Behind a line** that is read, the reader keeps nothing, or what stood behind a newline. -/
theorem readLine_keeps (h : r.Draws P m) (supply : Nat) (prompt : String) :
    (r.readLine supply prompt).Ensures (Sim.kernel depth) m fun x _ => Keeps P x.1 x.2 := by
  unfold readLine
  refine .seq (Sim.printText_wrote depth m prompt).ensures ?_
  rintro (e | _) m₁ ⟨-, written, hstate⟩
  · exact .pure (Keeps.failed _ r)
  · obtain ⟨script, hinput, hfits, hscript⟩ := h.console
    have hdraws : r.Draws P m₁ := ⟨h.unread, script, by rw [hstate, Sim.wornTo, Sim.facing, hinput], hfits, hscript⟩
    refine .seq (skip_draws hP depth supply hdraws) ?_
    rintro ⟨e | _, r'⟩ m₂ hdraws
    · exact .pure (Keeps.failed _ r')
    · refine .seq (Prog.Yields.allocate _ m₂).ensures ?_
      rintro (e | _) m₃ ⟨heap, hheap⟩
      · exact .pure (Keeps.failed _ r')
      · subst hheap
        exact fill_keeps hP depth supply {} ⟨hdraws.unread, hdraws.console⟩

end Reader

end Draws

namespace Reader

/-- **What a reader keeps behind a line** stands behind the newline of it, in one chunk or in what the reader held. -/
theorem readLine_offers (depth : Nat) {r r' : Reader} {m m' : Machine Sim} {script : Script} {supply : Nat}
    {prompt : String} {line : Line} (hinput : m.state.input = .script script)
    (hfits : script.arrivals.length < Script.limit)
    (hrun : (r.readLine supply prompt).run (Sim.kernel depth) m = some ((.ok line, r'), m')) :
    r'.unread = [] ∨ script.Offers r.unread (newline :: r'.unread) := by
  have hdraws : r.Draws (script.Offers r.unread) m :=
    ⟨⟨_, List.infix_rfl, .inl rfl⟩, script, hinput, hfits, fun data hdata => ⟨data, List.infix_rfl, .inr hdata⟩⟩
  have hP {piece whole : Bytes} (hpiece : piece <:+: whole) (hwhole : script.Offers r.unread whole) :
      script.Offers r.unread piece := hwhole.infix hpiece
  exact readLine_keeps hP depth hdraws supply prompt _ _ hrun line rfl

/-- A console that hands over one line at a time leaves nothing behind a line. -/
theorem keeps_nothing {script : Script} {held kept : Bytes} (h : kept = [] ∨ script.Offers held (newline :: kept))
    (hheld : held = []) (hlines : ∀ chunk, .data chunk ∈ script → newline ∉ chunk.dropLast) : kept = [] := by
  rcases h with hnothing | ⟨chunk, ⟨front, back, heq⟩, hchunk⟩
  · exact hnothing
  · subst heq
    have hmem : .data (front ++ newline :: kept ++ back) ∈ script := by
      refine hchunk.resolve_left fun hempty => ?_
      rw [hheld] at hempty
      simp at hempty
    by_contra hkept
    refine hlines _ hmem ?_
    rw [List.append_assoc, List.cons_append, List.dropLast_append_cons,
      List.dropLast_cons_of_ne_nil (by simp [hkept])]
    exact List.mem_append_right _ List.mem_cons_self

end Reader

end LineShell
