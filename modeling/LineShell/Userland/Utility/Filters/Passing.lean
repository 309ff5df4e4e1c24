import LineShell.Userland.Quantity
import LineShell.Userland.Regex.Fitting
import LineShell.Userland.Regex.Reading
import LineShell.Userland.Utility.Choice
import LineShell.Userland.Utility.Inputs
import LineShell.Userland.Utility.Size

/-!
# Passing on

`cat`, `tac`, `tee`, `head`, `tail` and `dd` print what they read, all of it or some. What a filter leaves of standard
input stays there for the next one, where one can go back.
-/

namespace LineShell.Host

namespace Filters

/-! ## cat, tac, tee -/

/-- What a byte is shown as when all bytes are to be seen, but for tabs and newlines. -/
def visible (b : UInt8) : Bytes :=
  let low (b : UInt8) : Bytes :=
    if b < 32 then [byte '^', b + 64] else if b = 127 then [byte '^', byte '?'] else [b]
  if 128 ≤ b then Text.bytes "M-" ++ low (b - 128) else if b = 9 || b = newline then [b] else low b

/-- A line as `cat` shows it. -/
def shownLine (g : Given) (line : Bytes) : Bytes :=
  let text := Lines.bare newline line
  let all := g.has 'A' || g.has 'v' || g.has 'e' || g.has 't'
  let tabs := g.has 'A' || g.has 'T' || g.has 't'
  let ends := g.has 'A' || g.has 'E' || g.has 'e'
  let ended := Lines.isEnded newline line
  let shown := text.flatMap fun b => if b = 9 && tabs then Text.bytes "^I" else if all then visible b else [b]
  let returned := ends && ended && !all && text.getLast? = some 13
  let shown := if returned then shown.dropLast ++ Text.bytes "^M" else shown
  shown ++ (if ended && ends then [byte '$'] else []) ++ if ended then [newline] else []

/-- The lines as `cat` shows them: numbered from `n` on, several empty ones as one. `within` tells whether the first of
them goes on with a line. -/
def shownLines (g : Given) (n : Nat) (empty within : Bool) : List Bytes → List Bytes
  | [] => []
  | line :: rest =>
    let blank := line = [newline] && !within
    let within' := !Lines.isEnded newline line
    if g.has 's' && blank && empty then shownLines g n empty within' rest
    else
      let numbered := !within && ((g.has 'n' && !g.has 'b') || (g.has 'b' && !blank))
      let tag := if numbered then padLeft 6 (byte ' ') (decimal n) ++ [9] else []
      (tag ++ shownLine g line) :: shownLines g (if numbered then n + 1 else n) blank within' rest

/-- Whether standard output goes to the end of a file. -/
def isOwnOutput (s : Scene) (stream : Nat) : Bool :=
  match s.commons.streams[stream]?, s.stream? 1 with
  | some (.file id offset ..), some (_, .file out ..) =>
    id = out && match s.disk.node? id with
      | some (.file content _) => offset < content.size
      | _ => false
  | _, _ => false

def cat : Utility := withOptions
  { letters := "nbEsATetuv",
    words := [("number", 'n'), ("number-nonblank", 'b'), ("show-all", 'A'), ("show-ends", 'E'), ("show-tabs", 'T'),
      ("show-nonprinting", 'v'), ("squeeze-blank", 's')] } 1
  fun g => do
  let plain := g.options.all (·.1 == 'u')
  let mut status := 0
  let mut number := 1
  let mut empty := false
  let mut within := false
  for path in Inputs.paths g.operands do
    match ← Inputs.stream path with
    | .error fault =>
      complainOf path fault
      status := 1
    | .ok stream =>
      if isOwnOutput (← get) stream then
        complain (Quoted.whereNeeded path ++ Text.bytes ": input file is output file")
        status := 1
      else
        match ← Inputs.drain stream none with
        | .error fault =>
          complainOf path fault
          status := 1
        | .ok data =>
          if plain then put data
          else
            let all := Lines.split newline data
            put (shownLines g number empty within all).flatten
            let isEmpty (line : Bytes) : Bool := line = [newline]
            let begun := if within then all.drop 1 else all
            number := number + (if g.has 'b' then begun.countP fun line => !isEmpty line
              else
                let kept := if g.has 's' then
                    (begun.foldl (fun (n, before) line =>
                      (if isEmpty line && before then n else n + 1, isEmpty line)) (0, empty)).1
                  else begun.length
                kept)
            empty := match all.getLast? with
              | some line => isEmpty line
              | none => empty
            within := match all.getLast? with
              | some line => !Lines.isEnded newline line
              | none => within
  return status

/-- Where separators stand in a text: from where to where, last one first. -/
abbrev Places := List (Nat × Nat)

/-- The pieces of a text that end behind separators, last one first. -/
def piecesEnding {α : Type} (data : Array α) (stop : Nat) : Places → List (Array α)
  | [] => [data.extract 0 stop]
  | (_, next) :: rest => data.extract next stop :: piecesEnding data next rest

/-- The pieces of a text that start with separators, last one first. -/
def piecesStarting {α : Type} (data : Array α) (stop : Nat) : Places → List (Array α)
  | [] => [data.extract 0 stop]
  | (place, _) :: rest => data.extract place stop :: piecesStarting data place rest

/-- The pieces of a text, last one first, each with the separator behind it or, with `before`, in front of it. -/
def pieces {α : Type} (before : Bool) (data : Array α) (places : Places) : List (Array α) :=
  if before then piecesStarting data data.size places else piecesEnding data data.size places

/-- Whether a text stands at a place of another. -/
def standsAt (data : Array UInt8) (text : Bytes) (place : Nat) : Bool :=
  (text.zipIdx place).all fun (b, n) => data[n]? == some b

/-- The places where a fixed separator stands, of those before a place. They are looked for from the end, and none of
them reaches into the one behind it, which starts at `stop`. -/
def textPlaces (separator : Bytes) (data : Array UInt8) (stop : Nat) : (place : Nat) → Places
  | 0 => []
  | place + 1 =>
    if place + separator.length ≤ stop && standsAt data separator place then
      (place, place + separator.length) :: textPlaces separator data place place
    else textPlaces separator data stop place

/-- As `textPlaces`, for separators that fit an expression. A text ends where the separator behind it starts. -/
def fittingPlaces (m : Matcher) (text : Array Symbol) : (place : Nat) → Places
  | 0 => []
  | place + 1 =>
    match m.fitAt text place with
    | some found => (place, found.stop) :: fittingPlaces m (text.extract 0 place) place
    | none => fittingPlaces m text place

/-- The pieces of a text that texts or expressions separate, last one first. -/
def backwards (before : Bool) (separator : Bytes) (matcher? : Option Matcher) (data : Bytes) : Bytes :=
  match matcher? with
  | none =>
    let text := data.toArray
    let separator := if separator.isEmpty then [0] else separator
    ((pieces before text (textPlaces separator text text.size text.size)).map Array.toList).flatten
  | some m =>
    let text := (Symbols.ofBytes data).toArray
    ((pieces before text (fittingPlaces m text text.size)).map fun part => Symbols.bytes part.toList).flatten

/-- Prints the pieces of its inputs in reverse. -/
def tac : Utility := withOptions
  { letters := "br", valued := "s", words := [("before", 'b'), ("regex", 'r'), ("separator", 's')] } 1 fun g => do
  let separator := (g.value? 's').getD [newline]
  let matcher? : Except String (Option Matcher) :=
    if !g.has 'r' then .ok none
    else if separator.isEmpty then .error "separator cannot be empty"
    else
      match Regex.read { mixed := true } separator with
      | .ok r => .ok (some { regex := r })
      | .error fault => .error fault.text
  match matcher? with
  | .error text =>
    complainText text
    return 1
  | .ok matcher? =>
    let mut status := 0
    let mut shown : List Bytes := []
    for path in Inputs.paths g.operands do
      match ← Inputs.load path with
      | .ok data => shown := backwards (g.has 'b') separator matcher? data :: shown
      | .error fault =>
        if fault = .isDirectory then complain (Quoted.whereNeeded path ++ Text.bytes ": read error: Invalid argument")
        else
          complain (Text.bytes "failed to open " ++ Quoted.always path ++ Text.bytes (" for reading: " ++ fault.text))
        status := 1
    put shown.reverse.flatten
    return status

def teeChoices : ChoiceTable :=
  [('ω', "output-error", [["warn"], ["warn-nopipe"], ["exit"], ["exit-nopipe"]])]

/-- Prints its input and writes it into files. -/
def tee : Utility := withCheckedOptions
  { letters := "aip", optional := "ω", words := [("append", 'a'), ("ignore-interrupts", 'i'), ("output-error", 'ω')] } 1
  teeChoices.checkGiven fun g => do
  let leaves : Bool := match g.last? ['p', 'ω'] with
    | some 'ω' => (g.value? 'ω').any fun word => word.head? = some (byte 'e')
    | _ => false
  let mut status := 0
  let mut opened : List (Bytes × Nat) := []
  for path in g.operands do
    let s ← get
    match s.openFile path (if g.has 'a' then .append else .write) with
    | .ok (stream, s) =>
      set s
      opened := opened ++ [(path, stream)]
    | .error fault =>
      complainOf path fault
      status := 1
      if leaves then return 1
  match (← get).readAll 0 with
  | .error fault =>
    complain (Text.bytes ("read error: " ++ fault.text))
    return 1
  | .ok (data, s) =>
    set s
    match s.write 1 data with
    | .ok s => set s
    | .error fault =>
      complain (Text.bytes ("'standard output': " ++ fault.text))
      status := 1
      if leaves then return 1
    for (path, stream) in opened do
      match (← get).writeStream stream data with
      | .ok s => set s
      | .error fault =>
        complainOf path fault
        status := 1
        if leaves then return 1
    return status

/-! ## head, tail -/

/-- How much of a text is asked for: a count, of lines or of bytes. A flipped one is of what is left out: at the end of
the text for its start, in front of it for its end. -/
structure Share where
  count : Nat := 10
  byLines : Bool := true
  flipped : Bool := false
deriving DecidableEq, Repr

/-- The start of a text. -/
def Share.first (a : Share) (ending : UInt8) (data : Bytes) : Bytes :=
  if a.byLines then
    let all := Lines.split ending data
    (if a.flipped then all.take (all.length - a.count) else all.take a.count).flatten
  else if a.flipped then data.take (data.length - a.count)
  else data.take a.count

/-- The end of a text. -/
def Share.last (a : Share) (ending : UInt8) (data : Bytes) : Bytes :=
  if a.byLines then
    let all := Lines.split ending data
    (if a.flipped then all.drop a.count else all.drop (all.length - a.count)).flatten
  else if a.flipped then data.drop a.count
  else data.drop (data.length - a.count)

/-- Whether titles are shown: as the last of the options says, or else where there are several operands. -/
def isTitled (g : Given) : Bool :=
  match g.last? ['q', 'v'] with
  | some letter => letter = 'v'
  | none => 1 < g.operands.length

/-- What a count is of, as it is said of one that cannot be read. -/
def wrongCount (letter : Char) : String :=
  if letter = 'n' then "invalid number of lines" else "invalid number of bytes"

/-- The line that names an input, where there are several. -/
def putTitle (first : Bool) (path : Bytes) : StateM Scene Unit := do
  if !first then putLine []
  putLine (Text.bytes "==> " ++ (if Inputs.isStandard path then Text.bytes "standard input" else path) ++
    Text.bytes " <==")

/-- A program reads so many bytes at once. -/
def blockSize : Nat := 8192

/-- Print a share of each operand, with titles if asked for. With `fatal`, the first that cannot be read ends it. -/
def printShares (titled fatal : Bool) (g : Given) (share : Nat → StateM Scene (Except Fault Unit)) :
    StateM Scene Nat := do
  let mut first := true
  let mut status := 0
  for path in Inputs.paths g.operands do
    match ← Inputs.stream path with
    | .error fault =>
      complain (Text.bytes "cannot open " ++ Quoted.always path ++ Text.bytes (" for reading: " ++ fault.text))
      status := 1
    | .ok stream =>
      if titled then putTitle first path
      first := false
      match ← share stream with
      | .ok () => pure ()
      | .error fault =>
        let name := if Inputs.isStandard path then Quoted.always (Text.bytes "standard input") else Quoted.always path
        complain (Text.bytes "error reading " ++ name ++ Text.bytes (": " ++ fault.text))
        status := 1
        if fatal then return 1
  return status

/-! ### head -/

/-- A first argument such as `-5c` in the old way of writing, as the options it stands for; or the letter in it that
stands for none. -/
def modernHead (args : List Bytes) : Except UInt8 (List Bytes) :=
  match args with
  | (45 :: b :: more) :: rest =>
    if isDigit b then
      let digits := b :: more.takeWhile isDigit
      let marks := more.dropWhile isDigit
      match marks.find? fun b => !("cbklmqvz".toList.map byte).contains b with
      | some b => .error b
      | none =>
        let marks := letters marks
        let byBytes := (marks.foldl (fun found c =>
          if "cbkm".toList.contains c then some (c != 'l') else if c = 'l' then some false else found) none).getD false
        let unit := (marks.filter "cbkm".toList.contains).getLast?.filter (· != 'c')
        let others := marks.filter "qvz".toList.contains
        .ok ([Text.bytes (if byBytes then "-c" else "-n"), digits ++ unit.toList.map byte] ++
          (others.map fun c => [byte '-', byte c]) ++ rest)
    else .ok args
  | _ => .ok args

/-- The count that an option of `head` asks for. -/
def headCount (word : Bytes) : Except SizeFault Nat :=
  Size.read Size.usual (if word.head? = some (byte '-') then word.tail else word)

/-- The share that options of `head` ask for. -/
def headShare (g : Given) : Share :=
  match g.last? ['n', 'c'] with
  | none => {}
  | some letter =>
    let word := (g.value? letter).getD []
    { count := ((headCount word).toOption).getD 0, byLines := letter = 'n', flipped := word.head? = some (byte '-') }

def headTable : OptionTable :=
  { letters := "qvz0123456789", valued := "nc",
    words := [("lines", 'n'), ("bytes", 'c'), ("quiet", 'q'), ("silent", 'q'), ("verbose", 'v'),
      ("zero-terminated", 'z')] }

def checkHead : OptionCheck := fun letter word =>
  if letter.isDigit then some (complainOfUse (Text.bytes "invalid trailing option -- " ++ [byte letter]))
  else if letter = 'n' || letter = 'c' then
    match headCount word with
    | .ok _ => none
    | .error fault =>
      let shown := if word.head? = some (byte '-') then word.tail else word
      some (complain (Text.bytes (wrongCount letter ++ ": ") ++ Quoted.curly shown ++ Text.bytes fault.tail))
  else none

/-- Print the start of a stream, and leave the rest of it. -/
def printStart (a : Share) (ending : UInt8) (number : Nat) : StateM Scene (Except Fault Unit) := do
  if a.count = 0 && !a.flipped then return .ok ()
  let s ← get
  match s.commons.streams[number]? with
  | none => return .error .badDescriptor
  | some stream =>
    match s.ahead stream (if a.byLines || a.flipped then none else some a.count) with
    | .error fault => return .error fault
    | .ok data =>
      let part := a.first ending data
      let used := if s.canReturn stream || !a.byLines then part.length
        else (part.length + blockSize - 1) / blockSize * blockSize
      let used := if a.flipped && !s.canReturn stream then data.length else used
      set ((s.advance number used).print part)
      return .ok ()

/-- Prints the start of each operand. -/
def head : Utility := fun args => do
  match modernHead args with
  | .error b =>
    complainOfUse (Text.bytes "invalid trailing option -- " ++ [b])
    return 1
  | .ok args =>
    withCheckedOptions headTable 1 checkHead (fun g =>
      printShares (isTitled g) false g (printStart (headShare g) (Lines.ending g))) args

/-! ### tail -/

/-- A first argument such as `+5` or `-3c` in the old way of writing, as the options it stands for. It is taken for one
only where one operand at most is behind it. -/
def modernTail (args : List Bytes) : List Bytes :=
  match args with
  | (sign :: word) :: rest =>
    let isOption (word : Bytes) : Bool := word.head? = some (byte '-') && 1 < word.length
    let few := match rest with
      | [] => true
      | [only] => !isOption only || only = Text.bytes "--"
      | [first, _] => first = Text.bytes "--"
      | _ => false
    let bare := if word.head? = some (byte 'c') then word.tail else word
    if few && (sign = byte '+' || (sign = byte '-' && !bare.isEmpty)) then
      let digits := word.takeWhile isDigit
      let count := (if sign = byte '+' then [sign] else []) ++ if digits.isEmpty then Text.bytes "10" else digits
      let blocks := count ++ [byte 'b']
      match letters (word.drop digits.length) with
      | [] | ['l'] => [Text.bytes "-n", count] ++ rest
      | ['f'] | ['l', 'f'] => [Text.bytes "-f", Text.bytes "-n", count] ++ rest
      | ['c'] => [Text.bytes "-c", count] ++ rest
      | ['c', 'f'] => [Text.bytes "-f", Text.bytes "-c", count] ++ rest
      | ['b'] => [Text.bytes "-c", blocks] ++ rest
      | ['b', 'f'] => [Text.bytes "-f", Text.bytes "-c", blocks] ++ rest
      | _ => args
    else args
  | _ => args

/-- The count that an option of `tail` asks for. -/
def tailCount (word : Bytes) : Except SizeFault Nat :=
  Size.read Size.usual (if word.head? = some (byte '-') then word.tail else word)

/-- The share that options of `tail` ask for. Once a count has a plus sign, all are from the start. -/
def tailShare (g : Given) : Share :=
  let isCount (option : Char × Bytes) : Bool := option.1 = 'n' || option.1 = 'c'
  let counts := g.options.filter isCount
  let flipped := counts.any fun (_, word) => word.head? = some (byte '+')
  match counts.getLast? with
  | none => {}
  | some (letter, word) =>
    let n := ((tailCount word).toOption).getD 0
    { count := if flipped then n - 1 else n, byLines := letter = 'n', flipped }

def tailTable : OptionTable :=
  { letters := "qvzFρδι0123456789", valued := "ncsπμ", optional := "fφ",
    words := [("lines", 'n'), ("bytes", 'c'), ("quiet", 'q'), ("silent", 'q'), ("verbose", 'v'),
      ("zero-terminated", 'z'), ("follow", 'φ'), ("sleep-interval", 's'), ("retry", 'ρ'), ("pid", 'π'),
      ("max-unchanged-stats", 'μ')] }

def followWays : ChoiceTable :=
  [('φ', "follow", [["descriptor"], ["name"]])]

def checkTail : OptionCheck := fun letter word =>
  if letter.isDigit then some (complain (Text.bytes "option used in invalid context -- " ++ [byte letter]))
  else
    match letter with
    | 'n' | 'c' =>
      match tailCount word with
      | .ok _ => none
      | .error fault =>
        let shown := if word.head? = some (byte '-') then word.tail else word
        some (complain (Text.bytes (wrongCount letter ++ ": ") ++ Quoted.curly shown ++ Text.bytes fault.tail))
    | 's' =>
      match Quantity.read (word.dropWhile isBlank) with
      | some (q, []) => if q.negative then some (complain (Text.bytes "invalid number of seconds: " ++ Quoted.curly word))
        else none
      | _ => some (complain (Text.bytes "invalid number of seconds: " ++ Quoted.curly word))
    | 'π' => Size.check "invalid PID" (Size.readBetween false "" 0 0x7fffffff) word
    | 'μ' => Size.check "invalid maximum number of unchanged stats between opens" (Size.read "") word
    | _ => followWays.checkGiven letter word

/-- Print the end of a stream. -/
def printEnd (a : Share) (ending : UInt8) (number : Nat) : StateM Scene (Except Fault Unit) := do
  match ← Inputs.drain number none with
  | .error fault => return .error fault
  | .ok data =>
    put (a.last ending data)
    return .ok ()

/-- Prints the end of each operand. -/
def tail : Utility := fun args =>
  let args := modernTail args
  withChecks (tailTable.readFrom false {} args) 1 checkTail fun g => do
    let follows := g.has 'f' || g.has 'φ' || g.has 'F'
    let byName := match g.last? ['f', 'φ', 'F'] with
      | some 'F' => true
      | some 'φ' => (g.value? 'φ').any fun word => !word.isEmpty && (Text.bytes "name").head? = word.head?
      | _ => false
    if g.has 'ρ' && !follows then
      complainText "warning: --retry ignored; --retry is useful only when following"
    if g.has 'π' && !follows then
      complainText "warning: PID ignored; --pid=PID is useful only when following"
    let a := tailShare g
    if byName && (Inputs.paths g.operands).any Inputs.isStandard then
      complain (Text.bytes "cannot follow " ++ Quoted.always [byte '-'] ++ Text.bytes " by name")
      return 1
    else if a.count = 0 && !a.flipped && !follows then return 0
    else
      let fatal := !a.byLines || (a.flipped && a.count = 0)
      printShares (isTitled g) fatal g (printEnd a (Lines.ending g))

/-! ## dd -/

/-- What `dd` is asked for. -/
structure Blocks where
  input : Option Bytes := none
  output : Option Bytes := none
  inSize : Nat := 512
  outSize : Nat := 512
  count : Option Nat := none
  skip : Nat := 0
  seek : Nat := 0
  conversions : List String := []
  inFlags : List String := []
  outFlags : List String := []
  quiet : Bool := false
  /-- Whether the line with the time is left out. -/
  brief : Bool := false

/-- What is wrong with an operand of `dd`. -/
inductive BlocksFault
  | operand (word : Bytes)
  | count (word : Bytes)
  | name (kind : String) (word : Bytes)
deriving DecidableEq, Repr

/-- A product of sizes such as `2x1k`. -/
def productOf (word : Bytes) : Option Nat :=
  (word.splitOn (byte 'x')).foldlM (fun n part => ((Size.read "bcEGkKMPTwYZ0" part).toOption).map (n * ·)) 1

namespace Blocks

/-- One more operand. -/
def add (b : Blocks) (word : Bytes) : Except BlocksFault Blocks :=
  let name := word.takeWhile (· != byte '=')
  let value := word.drop (name.length + 1)
  let size : Except BlocksFault Nat := match productOf value with
    | some n => .ok n
    | none => .error (.count value)
  let positive : Except BlocksFault Nat := match productOf value with
    | some 0 | none => .error (.count value)
    | some n => .ok n
  /- A count may end with `B` for bytes. -/
  let countOf : Except BlocksFault (Nat × Bool) :=
    if value.getLast? = some (byte 'B') && (number? value.dropLast).isSome then .ok (number value.dropLast, true)
    else size.map fun n => (n, false)
  let listOf (known : List String) (kind : String) : Except BlocksFault (List String) :=
    (value.splitOn (byte ',')).mapM fun item =>
      match known.find? fun name => Text.bytes name = item with
      | some name => .ok name
      | none => .error (.name kind item)
  if word.length = name.length then .error (.operand word)
  else
    let flags : List String :=
      ["append", "count_bytes", "skip_bytes", "seek_bytes", "fullblock", "sync", "direct", "nofollow", "nonblock",
        "noatime", "nocache", "dsync", "binary", "text", "directory"]
    match String.ofList (letters name) with
    | "if" => .ok { b with input := some value }
    | "of" => .ok { b with output := some value }
    | "bs" => positive.map fun n => { b with inSize := n, outSize := n }
    | "ibs" => positive.map fun n => { b with inSize := n }
    | "obs" => positive.map fun n => { b with outSize := n }
    | "cbs" => positive.map fun _ => b
    | "count" => countOf.map fun (n, bytes) =>
        { b with count := some n, inFlags := if bytes then "count_bytes" :: b.inFlags else b.inFlags }
    | "skip" | "iseek" => countOf.map fun (n, bytes) =>
        { b with skip := n, inFlags := if bytes then "skip_bytes" :: b.inFlags else b.inFlags }
    | "seek" | "oseek" => countOf.map fun (n, bytes) =>
        { b with seek := n, outFlags := if bytes then "seek_bytes" :: b.outFlags else b.outFlags }
    | "conv" =>
      (listOf ["ascii", "ebcdic", "ibm", "block", "unblock", "lcase", "ucase", "sparse", "swab", "sync", "excl",
        "nocreat", "notrunc", "noerror", "fdatasync", "fsync"] "conversion").map fun names =>
          { b with conversions := b.conversions ++ names }
    | "iflag" => (listOf flags "input flag").map fun names => { b with inFlags := b.inFlags ++ names }
    | "oflag" => (listOf flags "output flag").map fun names => { b with outFlags := b.outFlags ++ names }
    | "status" =>
      (listOf ["none", "noxfer", "progress"] "status level").map fun names =>
        { b with quiet := names.contains "none", brief := names.contains "noxfer" }
    | _ => .error (.operand word)

/-- What is made of one block. -/
def converted (b : Blocks) (block : Bytes) : Bytes :=
  let has (name : String) : Bool := b.conversions.contains name
  let rec swap : Bytes → Bytes
    | x :: y :: rest => y :: x :: swap rest
    | rest => rest
  let block := if has "sync" then padRight b.inSize 0 block else block
  let block := if has "swab" then swap block else block
  if has "ucase" then block.map fun c => if byte 'a' ≤ c && c ≤ byte 'z' then c - 32 else c
  else if has "lcase" then block.map fun c => if byte 'A' ≤ c && c ≤ byte 'Z' then c + 32 else c
  else block

end Blocks

/-- A count of blocks: those that are full and those that are not. -/
def blockCounts (size length : Nat) : Bytes :=
  decimal (length / size) ++ byte '+' :: decimal (if length % size = 0 then 0 else 1)

/-- Cut into pieces of one length. `fuel` is more than the number of pieces. -/
def chunks (size : Nat) : (fuel : Nat) → Bytes → List Bytes
  | 0, _ | _, [] => []
  | fuel + 1, data => data.take (max 1 size) :: chunks size fuel (data.drop (max 1 size))

/-- Copies blocks. Only as many bytes as are asked for are taken from standard input. -/
def dd : Utility := fun args => do
  match args.foldlM Blocks.add ({} : Blocks) with
  | .error fault =>
    match fault with
    | .operand word => complainOfUse (Text.bytes "unrecognized operand " ++ Quoted.always word)
    | .count word => complain (Text.bytes "invalid number: " ++ Quoted.always word)
    | .name kind word => complainOfUse (Text.bytes ("invalid " ++ kind ++ ": ") ++ Quoted.always word)
    return 1
  | .ok b =>
    let s ← get
    let source : Except Fault (Nat × Scene) := match b.input with
      | some path => s.openFile path .read
      | none => match s.descriptors.lookup 0 with
        | some number => .ok (number, s)
        | none => .error .badDescriptor
    match source with
    | .error fault =>
      complainAbout "failed to open" (b.input.getD (Text.bytes "standard input")) fault
      return 1
    | .ok (number, s) =>
      set s
      let skipped := if b.inFlags.contains "skip_bytes" then b.skip else b.skip * b.inSize
      let target : Except Fault (Nat × Scene) := match b.output with
        | none => match s.descriptors.lookup 1 with
          | some number => .ok (number, s)
          | none => .error .badDescriptor
        | some path =>
          let there := (s.find? path).isSome
          if b.conversions.contains "nocreat" && !there then .error .missing
          else if b.conversions.contains "excl" && there then .error .present
          else if b.outFlags.contains "append" then s.openFile path .append
          else if b.conversions.contains "notrunc" || 0 < b.seek then s.openFile path .readWrite
          else s.openFile path .write
      match target with
      | .error fault =>
        complainAbout "failed to open" (b.output.getD (Text.bytes "standard output")) fault
        return 1
      | .ok (out, s) =>
        let start := if b.outFlags.contains "seek_bytes" then b.seek else b.seek * b.outSize
        let s := match s.commons.streams[out]? with
          | some (.file id offset reads writes append) =>
            if 0 < b.seek && b.output.isSome && !b.conversions.contains "notrunc" then
              (s.withDisk ((s.disk.alter id (·.resize start)).getD s.disk)).setStream out
                (.file id (offset + start) reads writes append)
            else s.setStream out (.file id (offset + start) reads writes append)
          | _ => s
        set (s.advance number skipped)
        let limit := b.count.map fun n => if b.inFlags.contains "count_bytes" then n else n * b.inSize
        let mut status := 0
        let mut data : Bytes := []
        match ← Inputs.drain number limit with
        | .ok found => data := found
        | .error fault =>
          complain (Text.bytes "error reading " ++ Quoted.always (b.input.getD (Text.bytes "standard input")) ++
            Text.bytes (": " ++ fault.text))
          status := 1
        let made := ((chunks b.inSize (data.length + 1) data).map b.converted).flatten
        let mut written := made.length
        match (← get).writeStream out made with
        | .ok s => set s
        | .error fault =>
          complain (Text.bytes "error writing " ++ Quoted.always (b.output.getD (Text.bytes "standard output")) ++
            Text.bytes (": " ++ fault.text))
          written := 0
          status := 1
        if !b.quiet then
          modify fun s => s.complain (blockCounts b.inSize data.length ++ Text.bytes " records in\n" ++
            blockCounts b.outSize written ++ Text.bytes " records out\n" ++
            (if b.brief then [] else decimal written ++ Text.bytes " bytes copied, 0.0001 s, 1.0 MB/s\n"))
        return status

end Filters

end LineShell.Host
