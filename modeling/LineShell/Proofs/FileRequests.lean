import LineShell.Proofs.Content
import LineShell.Proofs.Requests

/-!
# One file on any kernel

`FileRequest` is a request on one file, apart from the descriptor and the path under which a kernel has it. What it is
answered, and what the file holds afterwards, can be told from what the file holds; there are two kinds of kernels, which
differ in what a write of nothing past the end does (`FileRequest.leave`).

- `Kernel.Serves`: a kernel answers requests on a file like that, `Kernel.Serves.serveAll`: and so it answers sequences;
- `FileRequest.replies_eq`: both kinds of kernels answer alike as long as no write of nothing starts past the end.
-/

namespace LineShell

/-- A request on one file. -/
inductive FileRequest
  | read (count offset : UInt64)
  | write (data : Bytes) (offset : UInt64)
  | truncate (length : UInt64)
  | ftruncate (length : UInt64)
  | fstat
deriving DecidableEq, Repr

namespace FileRequest

/-- The request to a kernel that has the file under a descriptor and a path. -/
def on (fd : Fd) (path : String) : FileRequest → Request
  | read count offset => .read fd count offset
  | write data offset => .write fd data offset
  | truncate length => .truncate path length
  | ftruncate length => .ftruncate fd length
  | fstat => .fstat fd

/-- Nothing is written, looked at or cut past `limit`. -/
def Within (limit : Nat) : FileRequest → Prop
  | read _ offset => offset.toNat ≤ limit
  | write data offset => offset.toNat + data.length ≤ limit
  | truncate length | ftruncate length => length.toNat ≤ limit
  | fstat => True

/-- What a request is answered by a file that holds `content`. -/
def reply (content : Bytes) : FileRequest → Reply
  | read count offset =>
    let data := Content.readAt content offset.toNat count.toNat
    ⟨Int64.ofNat data.length, .bytes data⟩
  | fstat => .granted (.stat { size := content.length, directory := false })
  | _ => .granted .nothing

/-- What a file that held `content` holds after a request. A write of nothing past the end either fills the file up to
there or does nothing. -/
def leave (filling : Bool) (content : Bytes) : FileRequest → Bytes
  | write data offset =>
    if data.isEmpty && !filling then content else Content.writeAt content offset.toNat data
  | truncate length | ftruncate length => Content.resize content length.toNat
  | read .. | fstat => content

/-- The request does not write nothing past the end. -/
def Gapless (content : Bytes) : FileRequest → Prop
  | write data offset => data = [] → offset.toNat ≤ content.length
  | _ => True

instance (limit : Nat) : (op : FileRequest) → Decidable (op.Within limit)
  | read _ offset => inferInstanceAs (Decidable (offset.toNat ≤ limit))
  | write data offset => inferInstanceAs (Decidable (offset.toNat + data.length ≤ limit))
  | truncate length | ftruncate length => inferInstanceAs (Decidable (length.toNat ≤ limit))
  | fstat => inferInstanceAs (Decidable True)

instance (content : Bytes) : (op : FileRequest) → Decidable (op.Gapless content)
  | write data offset => inferInstanceAs (Decidable (data = [] → offset.toNat ≤ content.length))
  | read .. | truncate _ | ftruncate _ | fstat => inferInstanceAs (Decidable True)

/-! ## Sequences -/

/-- What a file holds after requests. -/
def leaveAll (filling : Bool) (content : Bytes) (ops : List FileRequest) : Bytes :=
  ops.foldl (leave filling) content

/-- What requests are answered, one after the other. -/
def replies (filling : Bool) (content : Bytes) : List FileRequest → List Reply
  | [] => []
  | op :: rest => op.reply content :: replies filling (op.leave filling content) rest

/-- None of the requests writes nothing past the end that the file has by then. -/
def AllGapless (content : Bytes) : List FileRequest → Prop
  | [] => True
  | op :: rest => op.Gapless content ∧ AllGapless (op.leave true content) rest

instance (content : Bytes) (ops : List FileRequest) : Decidable (AllGapless content ops) :=
  match ops with
  | [] => inferInstanceAs (Decidable True)
  | op :: rest =>
    have := instDecidableAllGapless (op.leave true content) rest
    inferInstanceAs (Decidable (op.Gapless content ∧ AllGapless (op.leave true content) rest))

variable {limit : Nat} {content : Bytes} {op : FileRequest} {ops : List FileRequest}

theorem length_leave (filling : Bool) (hcontent : content.length ≤ limit) (hop : op.Within limit) :
    (op.leave filling content).length ≤ limit := by
  cases op with
  | read => exact hcontent
  | fstat => exact hcontent
  | write data offset =>
    simp only [leave]
    split
    · exact hcontent
    · rw [Content.length_writeAt]
      exact Nat.max_le.2 ⟨hcontent, hop⟩
  | truncate length => exact Nat.le_trans (Nat.le_of_eq (Content.length_resize _ _)) hop
  | ftruncate length => exact Nat.le_trans (Nat.le_of_eq (Content.length_resize _ _)) hop

/-- No answer is a failure, as long as an answer word can count what there is. -/
theorem reply_granted (hcontent : content.length < 0x8000000000000000) : (op.reply content).failed = false := by
  cases op with
  | read count offset =>
    have hlength : (Content.readAt content offset.toNat count.toNat).length < 0x8000000000000000 := by
      rw [Content.length_readAt]
      omega
    exact Reply.failed_ofNat hlength _
  | _ => rfl

theorem replies_granted (filling : Bool) (hlimit : limit < 0x8000000000000000) (hcontent : content.length ≤ limit)
    (hops : ∀ op ∈ ops, op.Within limit) : ∀ reply ∈ replies filling content ops, reply.failed = false := by
  induction ops generalizing content with
  | nil => simp [replies]
  | cons op rest ih =>
    obtain ⟨hop, hrest⟩ := List.forall_mem_cons.1 hops
    intro reply hreply
    rcases List.mem_cons.1 hreply with rfl | hlater
    · exact reply_granted (by omega)
    · exact ih (length_leave filling hcontent hop) hrest reply hlater

theorem leave_eq (h : op.Gapless content) : op.leave false content = op.leave true content := by
  cases op with
  | write data offset =>
    by_cases hdata : data = []
    · subst hdata
      have hin : offset.toNat ≤ content.length := h rfl
      simp [leave, Content.writeAt, Content.resize, hin]
    · simp [leave, hdata]
  | _ => rfl

/-- **Kernels of both kinds answer alike** as long as no write of nothing starts past the end. -/
theorem replies_eq (h : AllGapless content ops) :
    replies false content ops = replies true content ops ∧ leaveAll false content ops = leaveAll true content ops := by
  induction ops generalizing content with
  | nil => exact ⟨rfl, rfl⟩
  | cons op rest ih =>
    obtain ⟨hop, hrest⟩ := h
    obtain ⟨hreplies, hleave⟩ := ih hrest
    rw [replies, replies, leaveAll, leaveAll, List.foldl_cons, List.foldl_cons, leave_eq hop]
    exact ⟨congrArg _ hreplies, hleave⟩

/-- How long a file is after a write of nothing. -/
theorem replies_nothing (filling : Bool) (content : Bytes) (offset : UInt64) :
    replies filling content [write [] offset, fstat] =
      [.granted .nothing, .granted (.stat ⟨((write [] offset).leave filling content).length, false⟩)] := rfl

/-- Filling up to an offset past the end gives the file that length. -/
theorem length_leave_filling {offset : UInt64} (h : content.length < offset.toNat) :
    ((write [] offset).leave true content).length = offset.toNat := by
  rw [leave, if_neg (by simp), Content.length_writeAt, List.length_nil]
  omega

end FileRequest

/-! ## Kernels -/

variable {σ : Type}

/-- The kernel answers requests on the file that it has under a descriptor and a path from what the file holds, as long as
nothing goes past `limit`. -/
structure Kernel.Serves (K : Kernel σ) (fd : Fd) (path : String) (limit : Nat) (filling : Bool)
    (Holds : Machine σ → Bytes → Prop) : Prop where
  serve : ∀ {m content op}, Holds m content → FileRequest.Within limit op →
    ∃ m', K.serve (op.on fd path) m = some (op.reply content, m') ∧ Holds m' (op.leave filling content)

/-- **A sequence of requests** is answered one by one. -/
theorem Kernel.Serves.serveAll {K : Kernel σ} {fd : Fd} {path : String} {limit : Nat} {filling : Bool}
    {Holds : Machine σ → Bytes → Prop} (hK : K.Serves fd path limit filling Holds) {ops : List FileRequest}
    (hops : ∀ op ∈ ops, op.Within limit) {m : Machine σ} {content : Bytes} (hm : Holds m content) :
    ∃ m', K.serveAll (ops.map (·.on fd path)) m = some (FileRequest.replies filling content ops, m') ∧
      Holds m' (FileRequest.leaveAll filling content ops) := by
  induction ops generalizing m content with
  | nil => exact ⟨m, rfl, hm⟩
  | cons op rest ih =>
    obtain ⟨hop, hrest⟩ := List.forall_mem_cons.1 hops
    obtain ⟨m₁, hserve, hm₁⟩ := hK.serve hm hop
    obtain ⟨m₂, hserveAll, hm₂⟩ := ih hrest hm₁
    exact ⟨m₂, serveAll_cons hserve hserveAll, hm₂⟩

end LineShell
