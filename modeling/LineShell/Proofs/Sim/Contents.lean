import LineShell.Proofs.Content
import LineShell.Proofs.Requests
import LineShell.Proofs.Sim.Reachable

/-!
# Files keep what is written into them

Reading, writing and cutting files, by descriptor or by path and in any order, changes what files hold and nothing else:
names, directories, images, processes and the working directory stay, so a path or a descriptor means the same file all the
time. Which changes reach a file can therefore be told from the requests and the first state alone (`Sim.edit?`,
`Sim.history`), and what the file holds in the end is what they make of what it held at first (`Sim.serveAll_contents`).
-/

namespace LineShell

/-- The request reads, writes or cuts a file, or reads or writes the console. -/
def Request.OfContent : Request → Prop
  | .read .. | .write .. | .truncate .. | .ftruncate .. => True
  | _ => False

namespace Sim

open Content (Edit)

/-! ## Paths and descriptors -/

namespace Store

variable {s s' : Store}

theorem isSome_get?_congr {id : Nat} (h : s'.place? id = s.place? id) : (s'.get? id).isSome = (s.get? id).isSome := by
  have hsome := congrArg Option.isSome h
  rwa [place?, place?, Option.isSome_map, Option.isSome_map] at hsome

/-- Names and lists are all that looking up depends on. -/
theorem child?_congr (hplace : ∀ id, s'.place? id = s.place? id) (hchildren : ∀ id, s'.children? id = s.children? id)
    (dir : Nat) (name : String) : s'.child? dir name = s.child? dir name := by
  have hnames (child : Nat) : (s'.get? child).any (·.name == name) = (s.get? child).any (·.name == name) := by
    have hname := congrArg (fun place => place.any fun place => place.1 == name) (hplace child)
    simpa only [place?, Option.any_map] using hname
  unfold child?
  simp only [hchildren, hnames]

theorem lookup_congr (hplace : ∀ id, s'.place? id = s.place? id) (hchildren : ∀ id, s'.children? id = s.children? id)
    (path : String) : s'.lookup path = s.lookup path := by
  have hdescend : ∀ (names : List String) (dir : Nat), s'.descend dir names = s.descend dir names := by
    intro names
    induction names with
    | nil => exact fun _ => rfl
    | cons name rest ih =>
      intro dir
      simp only [descend, child?_congr hplace hchildren, ih]
  exact hdescend _ _

end Store

/-! ## Changes -/

/-- Files hold what changes, the latest first, have made of what they held, and nothing else is different but what is left
on the console and how many writes it still takes. -/
structure Rewritten (s s' : Sim) (edits : Nat → List Edit) : Prop where
  rest : s' = { s with store := s'.store, input := s'.input, room := s'.room }
  worn : s.Worn s'
  place : ∀ id, s'.store.place? id = s.store.place? id
  children : ∀ id, s'.store.children? id = s.store.children? id
  content : ∀ id, s'.store.content? id = (s.store.content? id).map fun start => Content.after start (edits id)

namespace Rewritten

variable {s s' s'' : Sim} {edits edits' : Nat → List Edit}

theorem of_console {s : Sim} {input : Input} {room : Option Nat} (hworn : s.Worn (s.facing input room))
    (h : ∀ id, edits id = []) : s.Rewritten (s.facing input room) edits := by
  refine ⟨rfl, hworn, fun _ => rfl, fun _ => rfl, fun id => ?_⟩
  rw [h]
  exact Option.map_id'.symm

theorem refl (s : Sim) (h : ∀ id, edits id = []) : s.Rewritten s edits :=
  (of_console (.of_eq rfl) h : s.Rewritten (s.facing s.input s.room) edits)

theorem congr (h : s.Rewritten s' edits) (heq : ∀ id, edits' id = edits id) : s.Rewritten s' edits' :=
  funext heq ▸ h

theorem trans (h : s.Rewritten s' edits) (h' : s'.Rewritten s'' edits') :
    s.Rewritten s'' fun id => edits' id ++ edits id := by
  refine ⟨?_, h.worn.trans h'.worn, fun id => (h'.place id).trans (h.place id),
    fun id => (h'.children id).trans (h.children id), fun id => ?_⟩
  · rw [h'.rest, h.rest]
  · rw [h'.content, h.content, Option.map_map]
    congr 1
    funext start
    exact (List.foldr_append ..).symm

theorem lookup_eq (h : s.Rewritten s' edits) (path : String) : s'.lookup path = s.lookup path := by
  have hcwd : s'.cwd = s.cwd := by rw [h.rest]
  rw [lookup, lookup, hcwd, Store.lookup_congr h.place h.children]

theorem handle?_eq (h : s.Rewritten s' edits) (fd : Fd) : s'.handle? fd = s.handle? fd := by
  unfold handle?
  congr 1
  funext id
  have hsome := Store.isSome_get?_congr (h.place id)
  cases hget : s'.store.get? id <;> cases hget' : s.store.get? id <;> simp_all

end Rewritten

/-! ## Which change reaches which file -/

/-- The change that a request makes of the file with a number. -/
def edit? (s : Sim) (id : Nat) : Request → Option Edit
  | .write fd data offset =>
    if s.handle? fd = some id ∧ offset.toNat + data.length < Content.lengthLimit then some (.write offset.toNat data)
    else none
  | .truncate path length => if s.lookup path = some id then some (.cut length.toNat) else none
  | .ftruncate fd length => if s.handle? fd = some id then some (.cut length.toNat) else none
  | _ => none

/-- The changes that requests make of the file with a number, the latest first. -/
def history (s : Sim) (id : Nat) (rs : List Request) : List Edit :=
  (rs.filterMap (s.edit? id)).reverse

variable {s s' : Sim} {edits : Nat → List Edit}

/-- A request reaches the same file after such changes as before. -/
theorem Rewritten.edit?_eq (h : s.Rewritten s' edits) (id : Nat) (r : Request) : s'.edit? id r = s.edit? id r := by
  cases r <;> simp only [edit?, h.lookup_eq, h.handle?_eq]

theorem history_cons (s : Sim) (id : Nat) (r : Request) (rs : List Request) :
    s.history id (r :: rs) = s.history id rs ++ (s.edit? id r).toList := by
  rw [history, history, List.filterMap_cons]
  cases s.edit? id r <;> simp

/-! ## One request -/

/-- The store in which the file with a number, if there is one, was changed. -/
def Store.edited (s : Store) (id? : Option Nat) (edit : Edit) : Option Store :=
  id?.bind fun id => (s.content? id).map fun content => s.setData id (.file (edit.apply content))

/-- Changing a file leaves all others. -/
theorem storing_edited (s : Sim) (id? : Option Nat) (edit : Edit) :
    s.Rewritten (s.storing (s.store.edited id? edit)).2 fun id => if id? = some id then [edit] else [] := by
  cases id? with
  | none => exact .refl s fun _ => if_neg (by simp)
  | some id =>
    rw [Store.edited, Option.bind_some]
    cases hcontent : s.store.content? id with
    | none =>
      refine ⟨rfl, .of_eq rfl, fun _ => rfl, fun _ => rfl, fun other => ?_⟩
      by_cases hother : other = id
      · rw [hother]
        show s.store.content? id = _
        rw [hcontent]
        rfl
      · rw [if_neg (by simpa using Ne.symm hother)]
        exact Option.map_id'.symm
    | some content =>
      refine ⟨rfl, .of_eq rfl, Store.place?_setData _ _ _, Store.children?_setFile hcontent _, fun other => ?_⟩
      show (s.store.setData id (.file (edit.apply content))).content? other = _
      by_cases hother : other = id
      · rw [hother, Store.content?_setData hcontent, hcontent, if_pos rfl]
        rfl
      · obtain ⟨name, parent, hget⟩ := Store.get?_of_content? hcontent
        have hsame : (s.store.setData id (.file (edit.apply content))).content? other = s.store.content? other :=
          Store.content?_congr (by rw [Store.get?_setData hget, if_neg hother])
        rw [hsame, if_neg (by simpa using Ne.symm hother)]
        exact Option.map_id'.symm

theorem Store.resize_edited (s : Store) (id? : Option Nat) (length : Nat) :
    (id?.bind fun id => s.resize id length) = s.edited id? (.cut length) := by
  unfold edited
  congr 1
  funext id
  unfold resize
  cases s.content? id <;> rfl

theorem Store.writeAt_edited (s : Store) (id? : Option Nat) {offset : Nat} {data : Bytes}
    (h : offset + data.length < Content.lengthLimit) :
    (id?.bind fun id => s.writeAt id offset data) = s.edited id? (.write offset data) := by
  unfold edited
  congr 1
  funext id
  unfold writeAt
  cases s.content? id with
  | none => rfl
  | some content => exact if_pos h

theorem Store.writeAt_far (s : Store) (id? : Option Nat) {offset : Nat} {data : Bytes}
    (h : ¬ offset + data.length < Content.lengthLimit) : (id?.bind fun id => s.writeAt id offset data) = none := by
  cases id? with
  | none => rfl
  | some id =>
    rw [Option.bind_some, writeAt]
    cases s.content? id with
    | none => rfl
    | some content => exact if_neg h

section Storing

variable (s) {id? : Option Nat}

theorem resize_rewritten (id? : Option Nat) (length : Nat) :
    s.Rewritten (s.storing (id?.bind fun id => s.store.resize id length)).2 fun id =>
      (if id? = some id then some (Edit.cut length) else none).toList := by
  rw [Store.resize_edited]
  exact (storing_edited s id? (.cut length)).congr fun id => by split <;> rfl

theorem writeAt_rewritten (id? : Option Nat) (offset : Nat) (data : Bytes) :
    s.Rewritten (s.storing (id?.bind fun id => s.store.writeAt id offset data)).2 fun id =>
      (if id? = some id ∧ offset + data.length < Content.lengthLimit then some (Edit.write offset data)
        else none).toList := by
  by_cases hroom : offset + data.length < Content.lengthLimit
  · rw [Store.writeAt_edited s.store _ hroom]
    refine (storing_edited s id? (.write offset data)).congr fun id => ?_
    by_cases hid : id? = some id <;> simp [hid, hroom]
  · rw [Store.writeAt_far s.store _ hroom]
    exact .refl s fun id => by simp [hroom]

variable {s} {id : Nat} {content : Bytes}

theorem resize_granted (hid : id? = some id) (h : s.store.content? id = some content) (length : Nat) :
    (s.storing (id?.bind fun id => s.store.resize id length)).1 = .granted .nothing := by
  rw [hid, Store.resize_edited, Store.edited, Option.bind_some, h]
  rfl

theorem writeAt_granted (hid : id? = some id) (h : s.store.content? id = some content) {offset : Nat} {data : Bytes}
    (hroom : offset + data.length < Content.lengthLimit) :
    (s.storing (id?.bind fun id => s.store.writeAt id offset data)).1 = .granted .nothing := by
  rw [hid, Store.writeAt_edited s.store _ hroom, Store.edited, Option.bind_some, h]
  rfl

end Storing

/-- There is no file behind the console. -/
theorem edit?_writeConsole (s : Sim) {fd : Fd} (h : (fd = .stdout || fd = .stderr) = true) (data : Bytes)
    (offset : UInt64) (id : Nat) : s.edit? id (.write fd data offset) = none := by
  have hhandle : s.handle? fd = none := by
    simp only [Bool.or_eq_true, decide_eq_true_eq] at h
    rcases h with rfl | rfl <;> rfl
  simp [edit?, hhandle]

section Serve

variable (depth : Nat) {m : Machine Sim} {id : Nat}

/-- **One request** is answered, and changes files as it says. -/
theorem serve_rewritten (m : Machine Sim) {r : Request} (hr : r.OfContent) :
    ∃ reply m', (kernel depth).serve r m = some (reply, m') ∧
      m.state.Rewritten m'.state fun id => (m.state.edit? id r).toList := by
  cases r with
  | read fd count offset =>
    by_cases hfd : fd = .stdin
    · subst hfd
      obtain ⟨terminal, input, heq⟩ := readConsole_eq m count.toNat
      refine ⟨(readConsole m count.toNat).1, (readConsole m count.toNat).2, serve_readConsole depth m count offset, ?_⟩
      rw [heq]
      exact .of_console (.of_eq rfl) fun _ => rfl
    · exact ⟨_, _, serve_readFile depth m hfd count offset, .refl _ fun _ => rfl⟩
  | write fd data offset =>
    by_cases hfd : (fd = .stdout || fd = .stderr) = true
    · obtain ⟨terminal, heq⟩ := writeConsole_eq m data
      refine ⟨(writeConsole m data).1, (writeConsole m data).2, serve_writeConsole depth m hfd data offset, ?_⟩
      rw [heq]
      exact .of_console ⟨1, rfl⟩ fun id => by rw [edit?_writeConsole _ hfd]; rfl
    · have hserve := serve_writeFile depth m hfd data offset
      have hwrite := writeAt_rewritten m.state (m.state.handle? fd) offset.toNat data
      generalize m.state.storing _ = stored at hserve hwrite
      exact ⟨_, _, hserve, hwrite⟩
  | truncate path length =>
    have hserve := serve_truncate depth m path length
    have hresize := resize_rewritten m.state (m.state.lookup path) length.toNat
    generalize m.state.storing _ = stored at hserve hresize
    exact ⟨_, _, hserve, hresize⟩
  | ftruncate fd length =>
    have hserve := serve_ftruncate depth m fd length
    have hresize := resize_rewritten m.state (m.state.handle? fd) length.toNat
    generalize m.state.storing _ = stored at hserve hresize
    exact ⟨_, _, hserve, hresize⟩
  | _ => cases hr

/-- **A sequence of requests** is answered, and changes files as each of them says. -/
theorem serveAll_rewritten {rs : List Request} (hrs : ∀ r ∈ rs, r.OfContent) (m : Machine Sim) :
    ∃ replies m', (kernel depth).serveAll rs m = some (replies, m') ∧
      m.state.Rewritten m'.state fun id => m.state.history id rs := by
  induction rs generalizing m with
  | nil => exact ⟨[], m, rfl, .refl _ fun _ => rfl⟩
  | cons r rs ih =>
    obtain ⟨hr, hrs⟩ := List.forall_mem_cons.1 hrs
    obtain ⟨reply, m₁, hserve, hfirst⟩ := serve_rewritten depth m hr
    obtain ⟨replies, m₂, hserveAll, hrest⟩ := ih hrs m₁
    refine ⟨reply :: replies, m₂, Kernel.serveAll_cons hserve hserveAll, (hfirst.trans hrest).congr fun id => ?_⟩
    have hedits : m₁.state.edit? id = m.state.edit? id := funext fun r => hfirst.edit?_eq id r
    rw [history_cons, history, history, hedits]

/-- A change that reaches a file is granted. -/
theorem serve_granted {content : Bytes} (hcontent : m.state.store.content? id = some content) {r : Request}
    {edit : Edit} (hedit : m.state.edit? id r = some edit) :
    ∃ m', (kernel depth).serve r m = some (.granted .nothing, m') := by
  unfold edit? at hedit
  split at hedit
  · next fd data offset =>
    split at hedit
    · next hreached =>
      obtain ⟨hid, hroom⟩ := hreached
      have hfile : ¬ (fd = .stdout || fd = .stderr) = true := by
        intro hconsole
        have hnone := edit?_writeConsole m.state hconsole data offset id
        simp [edit?, hid, hroom] at hnone
      rw [serve_writeFile depth m hfile, writeAt_granted hid hcontent hroom]
      exact ⟨_, rfl⟩
    · cases hedit
  · next path length =>
    split at hedit
    · next hid =>
      rw [serve_truncate, resize_granted hid hcontent]
      exact ⟨_, rfl⟩
    · cases hedit
  · next fd length =>
    split at hedit
    · next hid =>
      rw [serve_ftruncate, resize_granted hid hcontent]
      exact ⟨_, rfl⟩
    · cases hedit
  · cases hedit

/-- A read of a file shows what it holds. -/
theorem serve_readContent {content : Bytes} (hcontent : m.state.store.content? id = some content) {fd : Fd}
    (hid : m.state.handle? fd = some id) (count offset : UInt64) :
    (kernel depth).serve (.read fd count offset) m =
      some (⟨Int64.ofNat (Content.readAt content offset.toNat count.toNat).length,
        .bytes (Content.readAt content offset.toNat count.toNat)⟩, m) := by
  have hfd : fd ≠ .stdin := by
    rintro rfl
    cases hid
  rw [serve_readFile depth m hfd, readFile, hid, Option.bind_some, hcontent]

/-- **Files are sparse arrays.** Any sequence of reads, writes and cuts is answered, by descriptor or by path, and changes
nothing but what files hold, what is left on the console and how many writes it takes, of which some are used up: names,
directories, images, processes and the working directory stay. Each file has the length and, at each index, the byte that
the changes which reached it make of what it held at first: the byte that was written there last, or NUL. From then on a
change that reaches the file is granted, and a read of it fills as much of the buffer as there is, with the bytes that are
there, and leaves the rest of the buffer. -/
theorem serveAll_contents {rs : List Request} (hrs : ∀ r ∈ rs, r.OfContent) (m : Machine Sim) :
    ∃ replies m', (kernel depth).serveAll rs m = some (replies, m') ∧
      m'.state = { m.state with store := m'.state.store, input := m'.state.input, room := m'.state.room } ∧
      m.state.Worn m'.state ∧
      (∀ id, m'.state.store.place? id = m.state.store.place? id ∧
        m'.state.store.children? id = m.state.store.children? id) ∧
      ∀ id start, m.state.store.content? id = some start →
        let length := Content.lengthAfter start (m.state.history id rs)
        let byte := Content.byteAfter start (m.state.history id rs)
        (∃ content, m'.state.store.content? id = some content ∧ content.length = length ∧
          ∀ i < length, content[i]? = some (byte i)) ∧
        (∀ r edit, m.state.edit? id r = some edit →
          ∃ m'', (kernel depth).serve r m' = some (.granted .nothing, m'')) ∧
        ∀ fd count offset, m.state.handle? fd = some id →
          ∃ reply, (kernel depth).serve (.read fd count offset) m' = some (reply, m') ∧
            reply.word = Int64.ofNat (min count.toNat (length - offset.toNat)) ∧
            ∀ (buffer : Bytes) (i : Nat), (reply.filled buffer)[i]? =
              if i < min count.toNat (length - offset.toNat) then some (byte (offset.toNat + i)) else buffer[i]? := by
  obtain ⟨replies, m', hserve, hrewritten⟩ := serveAll_rewritten depth hrs m
  refine ⟨replies, m', hserve, hrewritten.rest, hrewritten.worn, fun id => ⟨hrewritten.place id, hrewritten.children id⟩,
    fun id start hstart => ?_⟩
  have hcontent : m'.state.store.content? id = some (Content.after start (m.state.history id rs)) := by
    rw [hrewritten.content, hstart, Option.map_some]
  have hlength := Content.length_after start (m.state.history id rs)
  refine ⟨⟨_, hcontent, hlength, fun i => Content.getElem?_after start _⟩, fun r edit hedit => ?_,
    fun fd count offset hid => ?_⟩
  · rw [← hrewritten.edit?_eq] at hedit
    exact serve_granted depth hcontent hedit
  · rw [← hrewritten.handle?_eq] at hid
    have hread := Content.length_readAt (Content.after start (m.state.history id rs)) offset.toNat count.toNat
    rw [hlength] at hread
    refine ⟨_, serve_readContent depth hcontent hid count offset, congrArg Int64.ofNat hread, fun buffer i => ?_⟩
    rw [Reply.getElem?_filled, hread]
    split
    · next hi =>
      rw [Content.getElem?_readAt _ _ _ (by omega), Content.getElem?_after _ _ (by omega)]
    · rfl

/-- Two files, written and cut in turn: what is behind a cut is NUL when the file grows again, a write of nothing makes it
grow too, and a read past the other writes shows them. -/
theorem serveAll_contents_interleaved :
    let m : Machine Sim := { state := (((Sim.empty (.script [])).create "/f" false).2.create "/g" false).2 }
    let rs : List Request := [.write ⟨4⟩ [97, 98, 99] 0, .write ⟨5⟩ [120] 2, .truncate "/f" 1, .write ⟨4⟩ [122] 4,
      .ftruncate ⟨5⟩ 1, .write ⟨4⟩ [] 7]
    (∀ r ∈ rs, r.OfContent) ∧ m.state.store.content? 1 = some [] ∧ m.state.handle? ⟨4⟩ = some 1 ∧
      ∃ replies m', (kernel 0).serveAll rs m = some (replies, m') ∧
        (∃ content, m'.state.store.content? 1 = some content ∧ content.length = 7 ∧ content[0]? = some 97 ∧
          content[1]? = some 0 ∧ content[4]? = some 122) ∧
        ∃ reply, (kernel 0).serve (.read ⟨4⟩ 8 3) m' = some (reply, m') ∧ reply.word = 4 ∧
          (reply.filled (List.replicate 8 1))[1]? = some 122 ∧ (reply.filled (List.replicate 8 1))[4]? = some 1 := by
  intro m rs
  have hrs : ∀ r ∈ rs, r.OfContent := by simp [rs, Request.OfContent]
  have hstart : m.state.store.content? 1 = some [] := by decide +kernel
  have hid : m.state.handle? ⟨4⟩ = some 1 := by decide +kernel
  have hhistory : m.state.history 1 rs = [.write 7 [], .write 4 [122], .cut 1, .write 0 [97, 98, 99]] := by
    decide +kernel
  obtain ⟨replies, m', hserve, -, -, -, hfiles⟩ := serveAll_contents 0 hrs m
  obtain ⟨⟨content, hcontent, hlength, hbytes⟩, -, hread⟩ := hfiles 1 [] hstart
  obtain ⟨reply, hreply, hword, hfilled⟩ := hread ⟨4⟩ 8 3 hid
  rw [hhistory] at hlength hbytes hword hfilled
  exact ⟨hrs, hstart, hid, replies, m', hserve,
    ⟨content, hcontent, hlength, hbytes 0 (by decide), hbytes 1 (by decide), hbytes 4 (by decide)⟩,
    reply, hreply, hword, hfilled _ 1, hfilled _ 4⟩

end Serve

end Sim

end LineShell
