import LineShell.Proofs.Protocol
import LineShell.Proofs.Text

/-!
# What a reader makes of what it is brought

The replies to its reads bring a reader batches of bytes, faults and ends of the input, whatever a kernel makes of them: a
count may be larger than the buffer or than what was written to it. What they bring, in order, is one stream of deliveries
(`Reader.stream`), and each call takes a piece off its front.

- `Reader.skip_nil`, `Reader.skip_cons`, `Reader.fill_nil`, `Reader.fill_cons`: a reader goes from byte to byte;
- `Reader.Skips`, `Reader.Concludes`, `Reader.Answers`: the piece that a call takes, and what it answers;
- `Reader.readLine_answers`: in every dialogue, a call takes its piece and leaves the rest of the stream.
-/

namespace LineShell

variable {α β γ : Type}

/-! ## Programs in parts -/

namespace Prog

theorem pure_seq (value : α) (f : α → Prog β) : (pure value : Prog α) >>= f = f value := rfl

/-- Three parts one after the other. -/
theorem seq_assoc (p : Prog α) (f : α → Prog β) (g : β → Prog γ) :
    p >>= f >>= g = p >>= fun value => f value >>= g := by
  show (p.bind f).bind g = p.bind fun value => (f value).bind g
  induction p with
  | done value => rfl
  | stuck => rfl
  | request r next ih => simp only [bind, ih]
  | memory r next ih => simp only [bind, ih]

/-- What comes behind a part matters only for what that part can end with. -/
theorem seq_congr {p : Prog α} {f g : α → Prog β} (h : ∀ log value, p.Dialogue log value → f value = g value) :
    p >>= f = p >>= g := by
  show p.bind f = p.bind g
  induction p with
  | done value => exact h [] value (.done value)
  | stuck => rfl
  | request r next ih =>
    exact congrArg (request r) (funext fun reply => ih reply fun log value hlog => h _ value (.request hlog))
  | memory r next ih =>
    exact congrArg (memory r) (funext fun granted => ih granted fun log value hlog => h log value (.memory hlog))

end Prog

/-! ## Byte by byte

What a reader does is told by the first of the bytes that it was brought; at the end of a batch it fetches. -/

namespace Reader

variable (supply : Nat) {r : Reader} {b : UInt8} {rest : Bytes}

theorem skip_idle (h : r.skipping = false) : r.skip supply = pure (.ok (), r) := by
  rw [skip.eq_def]
  simp [h]

theorem passOver_cons (h : r.unread = b :: rest) (hb : b ≠ newline) :
    r.passOver = { r with unread := rest }.passOver := by
  simp [passOver, h, hb]

/-- Passing over one byte of a dropped line. -/
theorem skip_cons (hskip : r.skipping = true) (h : r.unread = b :: rest) :
    r.skip supply = { r with unread := rest, skipping := b != newline }.skip supply := by
  by_cases hb : b = newline
  · have hidle : skip supply { r with unread := rest, skipping := b != newline } =
        pure (.ok (), { r with unread := rest, skipping := b != newline }) := skip_idle supply (by simp [hb])
    rw [hidle, skip.eq_def]
    simp [hskip, passOver, h, hb, Prog.pure_seq]
  · have hsame : { r with unread := rest, skipping := b != newline } = { r with unread := rest } := by
      simp [hb, hskip]
    rw [hsame, skip.eq_def, skip.eq_def supply { r with unread := rest }, passOver_cons h hb]
    simp only [hskip, Bool.not_true, Bool.false_eq_true, ↓reduceIte]

/-- Passing over a dropped line at the end of a batch. -/
theorem skip_nil (hskip : r.skipping = true) (h : r.unread = []) :
    r.skip supply = r.fetch >>= fun
      | (.error e, r) => pure (.error e, r)
      | (.ok 0, r) => pure (.ok (), { r with skipping := false })
      | (.ok (_ + 1), r) =>
        match supply with
        | 0 => .stuck
        | supply + 1 => r.skip supply := by
  obtain ⟨chunk, batch, unread, skipping⟩ := r
  obtain rfl : unread = [] := h
  obtain rfl : skipping = true := hskip
  rw [skip.eq_def, passOver]
  simp only [Bool.not_true, Bool.false_eq_true, ↓reduceIte, List.dropWhile_nil, Prog.seq_assoc]
  refine congrArg (fetch _ >>= ·) (funext fun fetched => ?_)
  obtain ⟨_ | _ | _, r'⟩ := fetched <;> rfl

theorem advance_cons (h : r.unread = b :: rest) (hb : b ≠ newline) (d : Draft) :
    r.advance d = if d.length < d.size then { r with unread := rest }.advance (d.push b)
      else d.grow >>= fun
        | .error _ => d.drop >>= fun _ => pure (.ended (.error .alloc) { r with unread := rest, skipping := true })
        | .ok d => { r with unread := rest }.advance (d.push b) := by
  have happ : rest.takeWhile (· != newline) ++ rest.dropWhile (· != newline) = rest := List.takeWhile_append_dropWhile
  by_cases hroom : d.length < d.size
  · simp [advance, h, hb, Draft.extend, hroom]
  · rw [if_neg hroom, advance]
    simp only [h, List.takeWhile_cons, List.dropWhile_cons, bne_iff_ne, ne_eq, hb, not_false_eq_true, ↓reduceIte,
      Draft.extend, hroom, Prog.seq_assoc]
    refine congrArg (d.grow >>= ·) (funext fun grown => ?_)
    cases grown with
    | error e => simp only [Prog.pure_seq, happ]
    | ok d => rfl

/-- Taking one byte for a line. -/
theorem fill_cons (h : r.unread = b :: rest) (d : Draft) :
    r.fill supply d =
      if b = newline then d.finish >>= fun result => pure (result, { r with unread := rest })
      else if d.length < d.size then { r with unread := rest }.fill supply (d.push b)
      else d.grow >>= fun
        | .error _ => d.drop >>= fun _ => pure (.error .alloc, { r with unread := rest, skipping := true })
        | .ok d => { r with unread := rest }.fill supply (d.push b) := by
  rw [fill.eq_def]
  by_cases hb : b = newline
  · simp only [advance, h, hb, List.takeWhile_cons, List.dropWhile_cons, bne_self_eq_false, Bool.false_eq_true,
      ↓reduceIte, Draft.extend, Prog.pure_seq, Prog.seq_assoc]
  · rw [if_neg hb, advance_cons h hb]
    by_cases hroom : d.length < d.size
    · rw [if_pos hroom, if_pos hroom, fill.eq_def]
    · rw [if_neg hroom, if_neg hroom, Prog.seq_assoc]
      refine congrArg (d.grow >>= ·) (funext fun grown => ?_)
      cases grown with
      | error e => rfl
      | ok d =>
        dsimp only
        rw [fill.eq_def supply]

/-- Going on with a line at the end of a batch. -/
theorem fill_nil (h : r.unread = []) (d : Draft) :
    r.fill supply d = r.fetch >>= fun
      | (.error e, r) => d.drop >>= fun _ => pure (.error (.io e), r)
      | (.ok 0, r) =>
        if d.length = 0 then d.drop >>= fun _ => pure (.error .endOfInput, r)
        else d.finish >>= fun result => pure (result, r)
      | (.ok (_ + 1), r) =>
        match supply with
        | 0 => .stuck
        | supply + 1 => r.fill supply d := by
  have hself : { r with unread := [] } = r := by rw [← h]
  rw [fill.eq_def, advance]
  simp only [h, hself, List.takeWhile_nil, List.dropWhile_nil, Draft.extend, Prog.pure_seq, refill, Prog.seq_assoc]
  refine congrArg (r.fetch >>= ·) (funext fun fetched => ?_)
  obtain ⟨_ | _ | _, r'⟩ := fetched
  · rfl
  · dsimp only
    split
    · rfl
    · rw [Prog.seq_assoc]
      rfl
  · rfl

/-! ## Deliveries -/

/-- A batch is the front of a buffer of `chunk` bytes, and what is still to be looked at is the end of the batch. -/
structure Placed (r : Reader) : Prop where
  unread_suffix : r.unread <:+ r.batch
  batch_le : r.batch.length ≤ r.chunk
  chunk_pos : 0 < r.chunk

end Reader

/-- One thing that the reply to a read brings. -/
inductive Delivery
  | byte (b : UInt8)
  | fault
  /-- No bytes, which says that there are no more. -/
  | ending
deriving DecidableEq, Repr

/-- The reply to a read: how many bytes it says were read, and what was written to the buffer. -/
def Reply.read (reply : Reply) : Except SysError (Nat × Bytes) :=
  if reply.failed then .error Operation.read.failed
  else .ok (reply.word.toInt.toNat, match reply.fill with | .bytes data => data | _ => [])

theorem Prog.dialogue_read {fd : Fd} {count offset : UInt64} {log : List Exchange}
    {value : Except SysError (Nat × Bytes)} :
    (Prog.read fd count offset).Dialogue log value ↔ ∃ reply, log = [⟨.read fd count offset, reply⟩] ∧ value = reply.read :=
  Prog.dialogue_ask

namespace Reader

/-- What replies bring a reader whose batches have `chunk` bytes and whose last one was `batch`. A batch is what is in the
buffer after the reply, as far as its count goes. -/
def deliveries (chunk : Nat) : Bytes → List Exchange → List Delivery
  | _, [] => []
  | batch, ⟨.read .., reply⟩ :: log =>
    match reply.read with
    | .error _ => .fault :: deliveries chunk [] log
    | .ok (0, _) => .ending :: deliveries chunk [] log
    | .ok (count + 1, data) =>
      let batch := overwritten chunk batch data (count + 1)
      batch.map .byte ++ deliveries chunk batch log
  | batch, _ :: log => deliveries chunk batch log

/-- All that a reader is brought: what it has and did not look at yet, and what replies bring. -/
def stream (r : Reader) (log : List Exchange) : List Delivery :=
  r.unread.map .byte ++ deliveries r.chunk r.batch log

/-- In the dialogue `log`, a reader took `taken` off its stream, and `r'` is what became of it. -/
structure Takes (r : Reader) (log : List Exchange) (taken : List Delivery) (r' : Reader) : Prop where
  placed : r.Placed → r'.Placed
  chunk_eq : r'.chunk = r.chunk
  stream_eq : ∀ more, r.stream (log ++ more) = taken ++ r'.stream more

variable {r r' r'' : Reader} {log log' : List Exchange} {taken taken' : List Delivery}

theorem Takes.nothing (r : Reader) (skipping : Bool) : r.Takes [] [] { r with skipping := skipping } :=
  ⟨fun h => ⟨h.unread_suffix, h.batch_le, h.chunk_pos⟩, rfl, fun _ => rfl⟩

theorem Takes.trans (h : r.Takes log taken r') (h' : r'.Takes log' taken' r'') :
    r.Takes (log ++ log') (taken ++ taken') r'' := by
  refine ⟨fun hr => h'.placed (h.placed hr), h'.chunk_eq.trans h.chunk_eq, fun more => ?_⟩
  rw [List.append_assoc, h.stream_eq, h'.stream_eq, List.append_assoc]

/-- The first byte is taken off the batch. -/
theorem Takes.byte {b : UInt8} {rest : Bytes} {skipping : Bool} (hunread : r.unread = b :: rest)
    (h : Takes { r with unread := rest, skipping := skipping } log taken r') : r.Takes log (.byte b :: taken) r' := by
  refine ⟨fun hr => h.placed ⟨?_, hr.batch_le, hr.chunk_pos⟩, h.chunk_eq, fun more => ?_⟩
  · exact (List.suffix_cons b rest).trans (hunread ▸ hr.unread_suffix)
  · have hstream := h.stream_eq more
    simp only [stream] at hstream ⊢
    rw [hunread, List.map_cons, List.cons_append, hstream, List.cons_append]

theorem length_overwritten (room : Nat) (old new : Bytes) (count : Nat) :
    (overwritten room old new count).length = min count room := by
  simp only [overwritten, List.length_take, List.length_append, List.length_replicate, List.length_drop]
  omega

/-- **One fetch** brings a fault, an end, or a batch with something in it. -/
theorem fetch_dialogue (hr : r.Placed) (hunread : r.unread = []) {fetched : Except SysError Nat}
    (h : r.fetch.Dialogue log (fetched, r')) :
    r'.skipping = r.skipping ∧
    ((fetched = .error Operation.read.failed ∧ r.Takes log [.fault] r') ∨
    (fetched = .ok 0 ∧ r.Takes log [.ending] r') ∨
    ∃ n, fetched = .ok (n + 1) ∧ r'.unread ≠ [] ∧ r.Takes log [] r') := by
  obtain ⟨answer, _, _, rfl, hread, hrest⟩ := Prog.dialogue_seq.1 h
  obtain ⟨reply, rfl, rfl⟩ := Prog.dialogue_read.1 hread
  have hempty : Placed { r with batch := [], unread := [] } := ⟨List.nil_suffix, Nat.zero_le _, hr.chunk_pos⟩
  cases hreply : reply.read with
  | error e =>
    rw [hreply] at hrest
    obtain ⟨rfl, heq⟩ := Prog.dialogue_pure.1 hrest
    cases heq
    obtain rfl : e = Operation.read.failed := by
      unfold Reply.read at hreply
      split at hreply <;> cases hreply
      rfl
    refine ⟨rfl, .inl ⟨rfl, fun _ => hempty, rfl, fun more => ?_⟩⟩
    simp [stream, hunread, deliveries, hreply]
  | ok read =>
    obtain ⟨count, data⟩ := read
    rw [hreply] at hrest
    obtain ⟨rfl, heq⟩ := Prog.dialogue_pure.1 hrest
    cases heq
    cases count with
    | zero =>
      refine ⟨rfl, .inr (.inl ⟨rfl, fun _ => ?_, rfl, fun more => ?_⟩)⟩
      · simpa [overwritten] using hempty
      · simp [stream, hunread, deliveries, hreply, overwritten]
    | succ count =>
      have hlength := length_overwritten r.chunk r.batch data (count + 1)
      refine ⟨rfl, .inr (.inr ⟨count, rfl, ?_, fun _ => ⟨List.suffix_rfl, ?_, hr.chunk_pos⟩, rfl, fun more => ?_⟩)⟩
      · have hpos := hr.chunk_pos
        rw [← List.length_pos_iff, hlength]
        omega
      · simp only [hlength]
        omega
      · simp [stream, hunread, deliveries, hreply]

/-- A fetch that counts bytes leaves some to be looked at. -/
theorem fetch_more (hr : r.Placed) (hunread : r.unread = []) {n : Nat} (h : r.fetch.Dialogue log (.ok (n + 1), r')) :
    r'.Placed ∧ r'.unread ≠ [] := by
  obtain ⟨-, ⟨hfault, -⟩ | ⟨hnone, -⟩ | ⟨-, -, hsome, htakes⟩⟩ := fetch_dialogue hr hunread h
  · cases hfault
  · cases hnone
  · exact ⟨htakes.placed hr, hsome⟩

/-! ## Passing over a dropped line -/

/-- What is taken to pass over the rest of a dropped line, if there is one: it ends at a newline or where the input does,
and a fault leaves it to the next call. -/
inductive Skips : Bool → List Delivery → Except SysError Unit → Bool → Prop
  | idle : Skips false [] (.ok ()) false
  | through (data : Bytes) {stop : Delivery} (h : newline ∉ data) (hstop : stop = .byte newline ∨ stop = .ending) :
    Skips true (data.map .byte ++ [stop]) (.ok ()) false
  | fault (data : Bytes) (h : newline ∉ data) :
    Skips true (data.map .byte ++ [.fault]) (.error Operation.read.failed) true

theorem Skips.of_idle {result : Except SysError Unit} {after : Bool} (h : Skips false taken result after) :
    taken = [] ∧ result = .ok () ∧ after = false := by
  cases h
  exact ⟨rfl, rfl, rfl⟩

theorem Skips.cons {b : UInt8} (hb : b ≠ newline) {result : Except SysError Unit} {after : Bool}
    (h : Skips true taken result after) : Skips true (.byte b :: taken) result after := by
  have hcons {data : Bytes} (hdata : newline ∉ data) : newline ∉ b :: data := by simp [hdata, hb.symm]
  cases h with
  | through data h hstop => exact .through (b :: data) (hcons h) hstop
  | fault data h => exact .fault (b :: data) (hcons h)

theorem skip_dialogue (supply : Nat) (r : Reader) (hr : r.Placed) {log : List Exchange} {result : Except SysError Unit}
    (h : (r.skip supply).Dialogue log (result, r')) :
    ∃ taken, r.Takes log taken r' ∧ Skips r.skipping taken result r'.skipping := by
  cases hskip : r.skipping with
  | false =>
    rw [skip_idle supply hskip] at h
    obtain ⟨rfl, heq⟩ := Prog.dialogue_pure.1 h
    cases heq
    exact ⟨[], .nothing _ _, hskip ▸ .idle⟩
  | true =>
    cases hunread : r.unread with
    | nil =>
      rw [skip_nil supply hskip hunread] at h
      obtain ⟨⟨fetched, r₁⟩, before, after, rfl, hfetch, hrest⟩ := Prog.dialogue_seq.1 h
      obtain ⟨hskipping, ⟨rfl, htakes⟩ | ⟨rfl, htakes⟩ | ⟨n, rfl, -, htakes⟩⟩ := fetch_dialogue hr hunread hfetch
      · obtain ⟨rfl, heq⟩ := Prog.dialogue_pure.1 hrest
        cases heq
        rw [List.append_nil, hskipping, hskip]
        exact ⟨_, htakes, .fault [] List.not_mem_nil⟩
      · obtain ⟨rfl, heq⟩ := Prog.dialogue_pure.1 hrest
        cases heq
        exact ⟨_, htakes.trans (.nothing r₁ false), .through [] List.not_mem_nil (.inr rfl)⟩
      · cases supply with
        | zero => cases hrest
        | succ supply =>
          obtain ⟨taken, htaken, hskips⟩ := skip_dialogue supply r₁ (htakes.placed hr) hrest
          rw [hskipping, hskip] at hskips
          exact ⟨taken, htakes.trans htaken, hskips⟩
    | cons b rest =>
      rw [skip_cons supply hskip hunread] at h
      have hrest : Placed { r with unread := rest, skipping := b != newline } :=
        (Takes.byte hunread (.nothing { r with unread := rest } _)).placed hr
      obtain ⟨taken, htaken, hskips⟩ := skip_dialogue supply _ hrest h
      refine ⟨_, htaken.byte hunread, ?_⟩
      by_cases hb : b = newline
      · simp only [hb, bne_self_eq_false] at hskips
        obtain ⟨rfl, rfl, hafter⟩ := hskips.of_idle
        rw [hafter, hb]
        exact .through [] List.not_mem_nil (.inl rfl)
      · rw [show (b != newline) = true by simpa using hb] at hskips
        exact hskips.cons hb
termination_by (supply, r.unread.length)
decreasing_by
  · exact Prod.Lex.left _ _ (by omega)
  · exact Prod.Lex.right _ (by simp [hunread])

end Reader

/-! ## The line under construction -/

/-- A draft counts its bytes, and its block has room for them. -/
structure Draft.Fits (d : Draft) : Prop where
  length_eq : d.length = d.reversed.length
  length_le : d.length ≤ d.size
  size_pos : 0 < d.size

/-- What bytes come to: a line if they are a text, in a block with room for them, else an error. -/
def Line.Made (data : Bytes) : Except ReadError Line → Prop
  | .ok line => data = Text.bytes line.text ∧ data.length ≤ line.size
  | .error e => e = .encoding ∧ Text.decode? data = none

namespace Draft

variable {d : Draft} {log : List Exchange}

theorem Fits.length_eq_zero_iff (h : d.Fits) : d.length = 0 ↔ d.reversed.reverse = [] := by
  rw [h.length_eq, List.length_eq_zero_iff, List.reverse_eq_nil_iff]

theorem Fits.push (h : d.Fits) (hroom : d.length < d.size) (b : UInt8) : (d.push b).Fits :=
  ⟨by simp [Draft.push, h.length_eq], hroom, h.size_pos⟩

theorem Fits.push_doubled (h : d.Fits) (b : UInt8) : (Draft.push { d with size := d.size * 2 } b).Fits := by
  obtain ⟨hlength, hle, hpos⟩ := h
  refine ⟨by simp [Draft.push, hlength], ?_, ?_⟩
  all_goals
    simp only [Draft.push]
    omega

theorem grow_dialogue {grown : Except AllocError Draft} (h : d.grow.Dialogue log grown) :
    log = [] ∧ ∀ d', grown = .ok d' → d' = { d with size := d.size * 2 } := by
  refine ⟨Prog.Silent.nil d.grow_only h, fun d' hgrown => ?_⟩
  subst hgrown
  unfold grow at h
  split at h
  · obtain ⟨_ | _, _, _, -, -, hend⟩ := Prog.dialogue_seq.1 h
    · cases hend
    · cases hend
      rfl
  · cases h

/-- Giving up a line. -/
theorem drop_dialogue {value ended : α} (h : (d.drop >>= fun _ => pure value : Prog α).Dialogue log ended) :
    log = [] ∧ ended = value := by
  obtain ⟨_, _, _, rfl, hdrop, hend⟩ := Prog.dialogue_seq.1 h
  obtain rfl := Prog.Silent.nil d.drop_only hdrop
  exact Prog.dialogue_pure.1 hend

/-- Making a line of the bytes. -/
theorem finish_dialogue (hd : d.Fits) {f : Except ReadError Line → α} {ended : α}
    (h : (d.finish >>= fun result => pure (f result) : Prog α).Dialogue log ended) :
    log = [] ∧ ∃ result, ended = f result ∧ Line.Made d.reversed.reverse result := by
  obtain ⟨result, _, _, rfl, hfinish, hend⟩ := Prog.dialogue_seq.1 h
  obtain rfl := Prog.Silent.nil d.finish_only hfinish
  obtain ⟨rfl, rfl⟩ := Prog.dialogue_pure.1 hend
  refine ⟨rfl, result, rfl, ?_⟩
  unfold finish at hfinish
  split at hfinish
  · next text htext =>
    obtain ⟨-, rfl⟩ := Prog.dialogue_pure.1 hfinish
    refine ⟨Text.decode?_eq_some_iff.1 htext, ?_⟩
    rw [List.length_reverse, ← hd.length_eq]
    exact hd.length_le
  · next htext =>
    obtain ⟨-, rfl⟩ := drop_dialogue hfinish
    exact ⟨rfl, htext⟩

end Draft

namespace Reader

variable {r r' : Reader} {taken : List Delivery}

/-- How a line of which there are the bytes `before` already comes to its end: what is taken for it, what it comes to, and
whether the rest of it is still to be passed over. -/
inductive Concludes (before : Bytes) : List Delivery → Except ReadError Line → Bool → Prop
  | complete (data : Bytes) {result : Except ReadError Line} (h : newline ∉ data)
    (hmade : Line.Made (before ++ data) result) : Concludes before (data.map .byte ++ [.byte newline]) result false
  /-- The input ends in the line. -/
  | ending (data : Bytes) {result : Except ReadError Line} (h : newline ∉ data) (hne : before ++ data ≠ [])
    (hmade : Line.Made (before ++ data) result) : Concludes before (data.map .byte ++ [.ending]) result false
  /-- The input ends before the line. -/
  | endOfInput (h : before = []) : Concludes before [.ending] (.error .endOfInput) false
  | fault (data : Bytes) (h : newline ∉ data) :
    Concludes before (data.map .byte ++ [.fault]) (.error (.io Operation.read.failed)) false
  /-- There is no room for one more byte. -/
  | abandoned (data : Bytes) (b : UInt8) (h : newline ∉ data ++ [b]) :
    Concludes before ((data ++ [b]).map .byte) (.error .alloc) true

theorem Concludes.cons {before : Bytes} {b : UInt8} (hb : b ≠ newline) {result : Except ReadError Line} {after : Bool}
    (h : Concludes (before ++ [b]) taken result after) : Concludes before (.byte b :: taken) result after := by
  have hcons {data : Bytes} (hdata : newline ∉ data) : newline ∉ b :: data := by simp [hdata, hb.symm]
  have happ (data : Bytes) : before ++ [b] ++ data = before ++ b :: data := by simp
  cases h with
  | complete data h hmade => exact .complete (b :: data) (hcons h) (happ _ ▸ hmade)
  | ending data h hne hmade => exact .ending (b :: data) (hcons h) (happ _ ▸ hne) (happ _ ▸ hmade)
  | endOfInput h => simp at h
  | fault data h => exact .fault (b :: data) (hcons h)
  | abandoned data b' h => exact .abandoned (b :: data) b' (hcons h)

theorem fill_dialogue (supply : Nat) (r : Reader) (d : Draft) (hr : r.Placed) (hskip : r.skipping = false) (hd : d.Fits)
    {log : List Exchange} {result : Except ReadError Line} (h : (r.fill supply d).Dialogue log (result, r')) :
    ∃ taken, r.Takes log taken r' ∧ Concludes d.reversed.reverse taken result r'.skipping := by
  cases hunread : r.unread with
  | nil =>
    rw [fill_nil supply hunread] at h
    obtain ⟨⟨fetched, r₁⟩, before, after, rfl, hfetch, hrest⟩ := Prog.dialogue_seq.1 h
    obtain ⟨hskipping, ⟨rfl, htakes⟩ | ⟨rfl, htakes⟩ | ⟨n, rfl, -, htakes⟩⟩ := fetch_dialogue hr hunread hfetch
    · obtain ⟨rfl, heq⟩ := Draft.drop_dialogue hrest
      cases heq
      rw [hskipping, hskip]
      exact ⟨_, by simpa using htakes, .fault [] List.not_mem_nil⟩
    · dsimp only at hrest
      split at hrest
      · next hlength =>
        obtain ⟨rfl, heq⟩ := Draft.drop_dialogue hrest
        cases heq
        rw [hskipping, hskip]
        exact ⟨_, by simpa using htakes, .endOfInput (hd.length_eq_zero_iff.1 hlength)⟩
      · next hlength =>
        obtain ⟨rfl, made, heq, hmade⟩ := Draft.finish_dialogue hd hrest
        cases heq
        have hsome : d.reversed.reverse ++ [] ≠ [] := by
          rwa [List.append_nil, ne_eq, ← hd.length_eq_zero_iff]
        rw [hskipping, hskip]
        exact ⟨_, by simpa using htakes, .ending [] List.not_mem_nil hsome (by simpa using hmade)⟩
    · cases supply with
      | zero => cases hrest
      | succ supply =>
        obtain ⟨taken, htaken, hconcludes⟩ :=
          fill_dialogue supply r₁ d (htakes.placed hr) (hskipping.trans hskip) hd hrest
        exact ⟨taken, htakes.trans htaken, hconcludes⟩
  | cons b rest =>
    have htail := Takes.byte hunread (.nothing { r with unread := rest } r.skipping)
    rw [fill_cons supply hunread] at h
    split at h
    · next hb =>
      obtain ⟨rfl, made, heq, hmade⟩ := Draft.finish_dialogue hd h
      cases heq
      rw [hb] at htail
      refine ⟨_, htail, ?_⟩
      rw [hskip]
      exact .complete [] List.not_mem_nil (by simpa using hmade)
    · next hb =>
      split at h
      · next hroom =>
        obtain ⟨taken, htaken, hconcludes⟩ :=
          fill_dialogue supply _ _ (htail.placed hr) hskip (hd.push hroom b) h
        rw [Draft.push, List.reverse_cons] at hconcludes
        exact ⟨_, htaken.byte hunread, hconcludes.cons hb⟩
      · obtain ⟨grown, _, _, rfl, hgrow, hrest⟩ := Prog.dialogue_seq.1 h
        obtain ⟨rfl, hgrown⟩ := Draft.grow_dialogue hgrow
        cases grown with
        | error e =>
          obtain ⟨rfl, heq⟩ := Draft.drop_dialogue hrest
          cases heq
          have hgone := Takes.byte hunread (.nothing { r with unread := rest } true)
          exact ⟨_, hgone, .abandoned [] _ (by simpa using Ne.symm hb)⟩
        | ok d' =>
          obtain rfl := hgrown d' rfl
          obtain ⟨taken, htaken, hconcludes⟩ :=
            fill_dialogue supply _ _ (htail.placed hr) hskip (hd.push_doubled b) hrest
          rw [Draft.push, List.reverse_cons] at hconcludes
          exact ⟨_, htaken.byte hunread, hconcludes.cons hb⟩
termination_by (supply, r.unread.length)
decreasing_by
  · exact Prod.Lex.left _ _ (by omega)
  · exact Prod.Lex.right _ (by simp [hunread])
  · exact Prod.Lex.right _ (by simp [hunread])

/-! ## Calls -/

/-- What one call takes, answers and leaves, with this prompt: whether it begins and ends in the middle of a dropped line is
told before and behind. -/
inductive Answers (prompt : String) (skipping : Bool) : List Delivery → Except ReadError Line → Bool → Prop
  /-- The prompt could not be written. -/
  | refused (h : prompt ≠ "") : Answers prompt skipping [] (.error (.io Operation.write.failed)) skipping
  /-- There was a fault in the rest of a dropped line. -/
  | unskipped {taken : List Delivery} {e : SysError} (h : Skips skipping taken (.error e) true) :
    Answers prompt skipping taken (.error (.io e)) true
  /-- There was no room for a line. -/
  | starved {taken : List Delivery} (h : Skips skipping taken (.ok ()) false) :
    Answers prompt skipping taken (.error .alloc) false
  | line {passed taken : List Delivery} {result : Except ReadError Line} {after : Bool}
    (h : Skips skipping passed (.ok ()) false) (hline : Concludes [] taken result after) :
    Answers prompt skipping (passed ++ taken) result after

/-- A line that was read sits in a block with room for it. -/
theorem Answers.held_le {prompt : String} {skipping after : Bool} {line : Line}
    (h : Answers prompt skipping taken (.ok line) after) : (Text.bytes line.text).length ≤ line.size := by
  obtain _ | _ | _ | ⟨-, hline⟩ := h
  obtain ⟨_, -, hdata, hle⟩ | ⟨_, -, -, hdata, hle⟩ | _ | _ | _ := hline
  · rwa [← hdata]
  · rwa [← hdata]

theorem Skips.after_ok {skipping after : Bool} (h : Skips skipping taken (.ok ()) after) : after = false := by
  cases h <;> rfl

theorem Skips.after_error {skipping after : Bool} {e : SysError} (h : Skips skipping taken (.error e) after) :
    after = true := by
  cases h
  rfl

/-- **A call**, whatever is replied and granted to it, takes its piece off the stream and answers what this comes to. -/
theorem readLine_answers {supply : Nat} {prompt : String} (hr : r.Placed) {log : List Exchange}
    {result : Except ReadError Line} (h : (r.readLine supply prompt).Dialogue log (result, r')) :
    ∃ taken, r.Takes log taken r' ∧ Answers prompt r.skipping taken result r'.skipping := by
  obtain ⟨printed, before, after, rfl, hprint, hrest⟩ := Prog.dialogue_seq.1 h
  -- writing the prompt brings nothing
  have hprinted : r.Takes before [] r ∧ ∀ e, printed = .error e → e = Operation.write.failed ∧ prompt ≠ "" := by
    unfold Prog.printText Prog.print at hprint
    split at hprint
    · obtain ⟨rfl, rfl⟩ := Prog.dialogue_done.1 hprint
      exact ⟨.nothing r r.skipping, nofun⟩
    · next hprompt =>
      obtain ⟨reply, rfl, rfl⟩ := Prog.dialogue_ask.1 hprint
      refine ⟨⟨id, rfl, fun more => by simp [stream, deliveries]⟩, fun e he => ⟨?_, ?_⟩⟩
      · unfold Prog.understood at he
        split at he <;> cases he
        rfl
      · rintro rfl
        exact hprompt rfl
  obtain ⟨hwrite, hfailed⟩ := hprinted
  cases printed with
  | error e =>
    obtain ⟨rfl, hprompt⟩ := hfailed e rfl
    obtain ⟨rfl, heq⟩ := Prog.dialogue_pure.1 hrest
    cases heq
    exact ⟨[], by simpa using hwrite, .refused hprompt⟩
  | ok _ =>
    obtain ⟨⟨skipped, r₁⟩, during, _, rfl, hskip, hline⟩ := Prog.dialogue_seq.1 hrest
    obtain ⟨passed, hpassed, hskips⟩ := skip_dialogue supply r hr hskip
    have htakes := hwrite.trans hpassed
    cases skipped with
    | error e =>
      have hafter := hskips.after_error
      obtain ⟨rfl, heq⟩ := Prog.dialogue_pure.1 hline
      cases heq
      rw [hafter] at hskips ⊢
      exact ⟨passed, by simpa using htakes, .unskipped hskips⟩
    | ok _ =>
      have hafter := hskips.after_ok
      rw [hafter] at hskips
      obtain ⟨granted, _, filling, rfl, hmalloc, hfill⟩ := Prog.dialogue_seq.1 hline
      obtain rfl := Prog.Silent.nil (.allocate _) hmalloc
      cases granted with
      | error e =>
        obtain ⟨rfl, heq⟩ := Prog.dialogue_pure.1 hfill
        cases heq
        rw [hafter]
        exact ⟨passed, by simpa using htakes, .starved hskips⟩
      | ok _ =>
        have hd : Draft.Fits {} := ⟨rfl, Nat.zero_le _, Nat.one_pos⟩
        obtain ⟨taken, htaken, hconcludes⟩ := fill_dialogue supply r₁ {} (hpassed.placed hr) hafter hd hfill
        exact ⟨passed ++ taken, by simpa using htakes.trans htaken, .line hskips hconcludes⟩

end Reader

end LineShell
