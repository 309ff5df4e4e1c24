import LineShell.Heap
import LineShell.Request

/-!
# What the words of a request tell

The addresses among the words of a request say nothing about it by themselves. The other words say all that is left: the
number of the operation together with them can be decoded (`Outline.decode?`) to everything in the request but what its
addresses lead to, so requests that agree in them differ in nothing else (`Request.words_lose_no_scalar`).
-/

namespace LineShell

/-! ## Words -/

namespace Word

/-- The number that a word is; an address is none. -/
def value? : Word → Option UInt64
  | address => none
  | value word => some word

/-- The 32-bit number that a register holds with its sign. -/
def int32 (word : UInt64) : Int32 :=
  word.toInt64.toInt32

@[simp] theorem int32_toUInt64 (n : Int32) : int32 n.toInt64.toUInt64 = n := by
  rw [int32, Int64.toInt64_toUInt64, Int32.toInt32_toInt64]

@[simp] theorem flag_ne_zero (flag : Bool) : ((if flag then 1 else 0 : UInt64) != 0) = flag := by
  cases flag <;> rfl

end Word

/-- **No two operations** have one number. -/
@[simp] theorem Operation.ofNumber?_number (operation : Operation) : ofNumber? operation.number = some operation := by
  cases operation <;> rfl

theorem Operation.number_injective {a b : Operation} (h : a.number = b.number) : a = b := by
  have hsame := congrArg ofNumber? h
  rwa [ofNumber?_number, ofNumber?_number, Option.some.injEq] at hsame

/-! ## Outlines -/

/-- A request without what its addresses lead to: texts, buffers and lists of words are there with their lengths alone. -/
inductive Outline
  | read (fd : Fd) (count offset : UInt64)
  | write (fd : Fd) (count : Nat) (offset : UInt64)
  | openFile (pathLength : Nat)
  | fstat (fd : Fd)
  | waitpid (pid : Pid)
  | exec (pathLength argvLength : Nat)
  | exit (status : ExitCode)
  | truncate (pathLength : Nat) (length : UInt64)
  | ftruncate (fd : Fd) (length : UInt64)
  | currentDir
  | chdir (pathLength : Nat)
  | creat (pathLength : Nat) (directory : Bool)
  | removeFile (pathLength : Nat)
  | readDir (fd : Fd) (offset : UInt64)
deriving DecidableEq, Repr

namespace Request

def outline : Request → Outline
  | read fd count offset => .read fd count offset
  | write fd data offset => .write fd data.length offset
  | openFile path => .openFile (Text.size path)
  | fstat fd => .fstat fd
  | waitpid pid => .waitpid pid
  | exec path argv => .exec (Text.size path) argv.length
  | exit status => .exit status
  | truncate path length => .truncate (Text.size path) length
  | ftruncate fd length => .ftruncate fd length
  | currentDir => .currentDir
  | chdir path => .chdir (Text.size path)
  | creat path directory => .creat (Text.size path) directory
  | removeFile path => .removeFile (Text.size path)
  | readDir fd offset => .readDir fd offset

/-- The words of a request that are no addresses, in register order. -/
def values (r : Request) : List UInt64 :=
  r.words.filterMap Word.value?

/-- The lengths of the texts, buffers and lists of words that a request has addresses of. -/
def lengths : Request → List Nat
  | read .. | fstat .. | waitpid .. | exit .. | ftruncate .. | currentDir | readDir .. => []
  | write _ data _ => [data.length]
  | openFile path | chdir path | removeFile path | truncate path _ | creat path _ => [Text.size path]
  | exec path argv => [Text.size path, argv.length]

/-- Nothing that a request has the address of is longer than memory: lengths are 64-bit words. -/
def Addressable (r : Request) : Prop :=
  ∀ n ∈ r.lengths, n < wordLimit

instance (r : Request) : Decidable r.Addressable :=
  inferInstanceAs (Decidable (∀ n ∈ r.lengths, n < wordLimit))

end Request

/-! ## Decoding -/

/-- The outline of a request, from its number and its words without the addresses. -/
def Outline.decode? (number : Nat) (values : List UInt64) : Option Outline :=
  match Operation.ofNumber? number, values with
  | some .read, fd :: count :: offset :: _ => some (.read ⟨Word.int32 fd⟩ count offset)
  | some .write, fd :: count :: offset :: _ => some (.write ⟨Word.int32 fd⟩ count.toNat offset)
  | some .openFile, pathLength :: _ => some (.openFile pathLength.toNat)
  | some .fstat, fd :: _ => some (.fstat ⟨Word.int32 fd⟩)
  | some .waitpid, pid :: _ => some (.waitpid ⟨pid.toInt64⟩)
  | some .exec, pathLength :: argvLength :: _ => some (.exec pathLength.toNat argvLength.toNat)
  | some .exit, status :: _ => some (.exit (Word.int32 status))
  | some .truncate, pathLength :: length :: _ => some (.truncate pathLength.toNat length)
  | some .ftruncate, fd :: length :: _ => some (.ftruncate ⟨Word.int32 fd⟩ length)
  | some .currentDir, _ => some .currentDir
  | some .chdir, pathLength :: _ => some (.chdir pathLength.toNat)
  | some .creat, pathLength :: directory :: _ => some (.creat pathLength.toNat (directory != 0))
  | some .removeFile, pathLength :: _ => some (.removeFile pathLength.toNat)
  | some .readDir, fd :: offset :: _ => some (.readDir ⟨Word.int32 fd⟩ offset)
  | _, _ => none

namespace Request

variable {r r' : Request}

/-- **Decoding** gives back what the request was laid out from. -/
theorem decode?_values (h : r.Addressable) : Outline.decode? r.number r.values = some r.outline := by
  -- every layout is read off in its own order; what is left to show is that the lengths fit
  cases r <;>
    simp_all [Addressable, lengths, wordLimit, Outline.decode?, number, operation, values, words, arguments, outline,
      List.filterMap_cons, Word.value?, Word.ofInt32, Word.ofNat]

/-- **No scalar is lost** when a request is laid out in words. There is one way to decode the number of a request and its
words without the addresses, which gives back its operation, its descriptor, identifier, status or flag with their signs,
its offsets and counts, and the lengths of all that it has the address of. So requests that agree in number and words are
of one operation and agree in all of these. -/
theorem words_lose_no_scalar (h : r.Addressable) (h' : r'.Addressable) :
    Outline.decode? r.number r.values = some r.outline ∧
    (r.number = r'.number → r.values = r'.values → r.operation = r'.operation ∧ r.outline = r'.outline) := by
  refine ⟨decode?_values h, fun hnumber hvalues => ⟨Operation.number_injective hnumber, ?_⟩⟩
  have hsame : some r.outline = some r'.outline := by
    rw [← decode?_values h, ← decode?_values h', hnumber, hvalues]
  exact Option.some.inj hsame

/-- Two writes of other bytes to one negative descriptor, past the largest signed offset. -/
theorem words_lose_no_scalar_negative :
    let r : Request := .write ⟨-7⟩ [104, 105] 0x8000000000000000
    let r' : Request := .write ⟨-7⟩ [0, 0] 0x8000000000000000
    r.Addressable ∧ r'.Addressable ∧ r.values = [0xfffffffffffffff9, 2, 0x8000000000000000, 0, 0] ∧ r.number = r'.number ∧
      r.values = r'.values ∧ Outline.decode? r.number r.values = some (.write ⟨-7⟩ 2 0x8000000000000000) ∧
      r.operation = r'.operation ∧ r.outline = r'.outline := by
  intro r r'
  have hfits : r.Addressable := by decide
  have hfits' : r'.Addressable := by decide
  have hvalues : r.values = r'.values := by decide
  obtain ⟨hdecode, hsame⟩ := words_lose_no_scalar hfits hfits'
  exact ⟨hfits, hfits', by decide, rfl, hvalues, hdecode, hsame rfl hvalues⟩

end Request

end LineShell
