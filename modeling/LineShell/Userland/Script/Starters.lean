import LineShell.Userland.Script.Builtin
import LineShell.Userland.Utility.Child

/-!
# Programs that change how others run

`env`, `printenv`, `nice`, `nohup`, `timeout`, `stdbuf` and `setsid`. All but `printenv` become the program they are
given, or wait for it.
-/

namespace LineShell.Host.Script

namespace Starters

/-! ## The environment -/

/-- Variables as lines, or with NUL behind each. -/
def listed (environment : Environment) (ending : Bytes) : Bytes :=
  environment.flatMap fun (name, value) => name ++ byte '=' :: value ++ ending

/-- What is wrong with a text to be split into arguments. -/
inductive SplitFault
  | openQuote
  | sequence (c : UInt8)
  | backslashAtEnd
  | reference (rest : Bytes)
deriving DecidableEq, Repr

def SplitFault.text : SplitFault → Bytes
  | openQuote => Text.bytes "no terminating quote in -S string"
  | sequence c => Text.bytes "invalid sequence '\\" ++ c :: Text.bytes "' in -S"
  | backslashAtEnd => Text.bytes "invalid backslash at end of string in -S"
  | reference rest => Text.bytes "only $\x7bVARNAME\x7d expansion is supported, error at: " ++ rest

/-- Split a text into arguments: blanks separate them, quotes keep them together, and there are escapes and variables.
`fuel` is more than the length. -/
def splitText (environment : Environment) (quote : Option UInt8) (present : Option Bytes) :
    (fuel : Nat) → Bytes → Except SplitFault (List Bytes)
  | 0, _ | _, [] => if quote.isSome then .error .openQuote else .ok present.toList
  | fuel + 1, b :: rest =>
    let blank (b : UInt8) : Bool := b = byte ' ' || (9 ≤ b && b ≤ 13)
    let add (text : Bytes) (rest : Bytes) : Except SplitFault (List Bytes) :=
      splitText environment quote (some (present.getD [] ++ text)) fuel rest
    let single := quote = some (byte '\'')
    if quote = some b then splitText environment none (some (present.getD [])) fuel rest
    else if quote.isNone && (b = byte '\'' || b = byte '"') then
      splitText environment (some b) (some (present.getD [])) fuel rest
    else if quote.isNone && blank b then
      (splitText environment none none fuel (rest.dropWhile blank)).map (present.toList ++ ·)
    else if quote.isNone && present.isNone && b = byte '#' then .ok []
    else if b = byte '\\' then
      match rest with
      | [] => .error .backslashAtEnd
      | c :: rest =>
        if single && c != byte '\\' && c != byte '\'' then add [b, c] rest
        else
          match Char.ofNat c.toNat with
          | '"' | '#' | '$' | '\'' | '\\' => add [c] rest
          | '_' =>
            if quote.isSome then add [byte ' '] rest
            else (splitText environment none none fuel (rest.dropWhile blank)).map (present.toList ++ ·)
          | 'c' => if quote.isSome then .error (.sequence c) else .ok present.toList
          | 'f' => add [12] rest
          | 'n' => add [10] rest
          | 'r' => add [13] rest
          | 't' => add [9] rest
          | 'v' => add [11] rest
          | _ => .error (.sequence c)
    else if b = byte '$' && !single then
      match rest with
      | 123 :: more =>
        let name := more.takeWhile (· != byte '\x7d')
        if isName name && name.length < more.length then
          add ((environment.lookup name).getD []) (more.drop (name.length + 1))
        else .error (.reference (b :: rest))
      | _ => .error (.reference (b :: rest))
    else add [b] rest

/-- The options of `env` in front of a command, and what else there is. -/
def envTable : OptionTable :=
  { letters := "i0v", valued := "uCS",
    words := [("ignore-environment", 'i'), ("null", '0'), ("unset", 'u'), ("chdir", 'C'), ("split-string", 'S'),
      ("debug", 'v')] }

/-- The arguments of `env` with those in the place of a text that is to be split. -/
def withSplit (environment : Environment) : List Bytes → Except SplitFault (List Bytes)
  | [] => .ok []
  | word :: rest =>
    let split (text : Bytes) (rest : List Bytes) : Except SplitFault (List Bytes) :=
      (splitText environment none none (text.length + 1) text).map (· ++ rest)
    let long := Text.bytes "--split-string="
    if long.isPrefixOf word then split (word.drop long.length) rest
    else
      match letters word with
      | ['-', 'S'] =>
        match rest with
        | text :: rest => split text rest
        | [] => .ok [word]
      | '-' :: 'S' :: _ => split (word.drop 2) rest
      | '-' :: 'v' :: 'S' :: _ => split (word.drop 3) rest
      | '-' :: 'i' :: 'S' :: _ => (split (word.drop 3) rest).map (Text.bytes "-i" :: ·)
      | ['-', '-'] => .ok (word :: rest)
      | '-' :: _ :: _ => (withSplit environment rest).map (word :: ·)
      | _ => .ok (word :: rest)

/-- Runs a program with a changed environment, or prints the environment. -/
def env : Launcher := fun starter args => do
  match withSplit starter.environment args with
  | .error fault =>
    complain fault.text
    return ended 125
  | .ok args =>
    match envTable.readEarly args with
    | .error fault =>
      complainOfUse fault.text
      return ended 125
    | .ok g =>
      let bare := g.operands.head? = some [byte '-']
      let operands := if bare then g.operands.tail else g.operands
      let start := if bare || g.has 'i' then [] else starter.environment
      match (g.values 'u').find? fun name => name.isEmpty || name.contains (byte '=') with
      | some name =>
        complain (Text.bytes "cannot unset " ++ Quoted.curly name ++ Text.bytes ": Invalid argument")
        return ended 125
      | none =>
        let start := start.filter fun (name, _) => !(g.values 'u').contains name
        let settings := operands.takeWhile fun word => word.contains (byte '=')
        let environment := settings.foldl (fun (environment : Environment) word =>
          let (name, value) := Builtin.setting word
          let value := value.getD []
          if environment.any (·.1 == name) then
            environment.map fun entry => if entry.1 == name then (name, value) else entry
          else environment ++ [(name, value)]) start
        let words := operands.drop settings.length
        match g.value? 'C' with
        | some dir =>
          if words.isEmpty then
            complainOfUse (Text.bytes "must specify command with --chdir (-C)")
            return ended 125
          let s ← get
          match s.disk.locate s.dir dir with
          | .error fault =>
            complainAbout "cannot change directory to" dir fault
            return ended 125
          | .ok place =>
            if (s.disk.entries? place.id).isNone then
              complainAbout "cannot change directory to" dir .notDirectory
              return ended 125
            set { s with dir := place }
        | none => pure ()
        if words.isEmpty then
          put (listed environment (if g.has '0' then [0] else [newline]))
          return ended 0
        else if g.has '0' then
          complainOfUse (Text.bytes "cannot specify --null (-0) with command")
          return ended 125
        else starter.replace environment starter.ignored "" Quoted.curly words

/-- Prints the values of variables of the environment. -/
def printenv (starter : Starter) : Utility :=
  withEarlyOptions { letters := "0", words := [("null", '0')] } 2 fun g => do
    let ending : Bytes := if g.has '0' then [0] else [newline]
    if g.operands.isEmpty then
      put (listed starter.environment ending)
      return 0
    else
      let found := g.operands.filterMap fun name =>
        if name.contains (byte '=') then none else starter.environment.lookup name
      put (found.flatMap (· ++ ending))
      return if found.length = g.operands.length then 0 else 1

/-! ## Other ways of running -/

/-- The arguments of `nice`, where a number may stand for the option with that value. -/
def niceArgs : List Bytes → List Bytes
  | [] => []
  | word :: rest =>
    match word with
    | 45 :: b :: more =>
      if isDigit b || ((b = byte '-' || b = byte '+') && more.head?.any isDigit) then
        Text.bytes "-n" :: (b :: more) :: niceArgs rest
      else word :: rest
    | _ => word :: rest

/-- Runs a program with less urgency, which cannot be noticed here, or tells that there is none. -/
def nice : Launcher := fun starter args => do
  match OptionTable.readEarly { valued := "n", words := [("adjustment", 'n')] } (niceArgs args) with
  | .error fault =>
    complainOfUse fault.text
    return ended 125
  | .ok g =>
    let text := (g.value? 'n').getD (Text.bytes "10")
    match Print.integer? text with
    | none =>
      complain (Text.bytes "invalid adjustment " ++ Quoted.curly text)
      return ended 125
    | some _ =>
      if g.operands.isEmpty then
        if g.has 'n' then
          complainOfUse (Text.bytes "a command must be given with an adjustment")
          return ended 125
        else
          putLine [byte '0']
          return ended 0
      else if g.operands = [Text.bytes "nice"] then
        putLine (decimal (min 19 ((Print.integer? text).getD 0).toNat))
        return ended 0
      else starter.replace starter.environment starter.ignored "" Quoted.curly g.operands

/-- Runs a program that is not to end with the terminal. -/
def nohup : Launcher := fun starter args => do
  match OptionTable.readEarly {} args with
  | .error fault =>
    complainOfUse fault.text
    return ended 125
  | .ok g =>
    if g.operands.isEmpty then
      let _ ← missingOperand 125
      return ended 125
    else
      starter.replace starter.environment (1 :: starter.ignored) "failed to run command " Quoted.always g.operands

/-- A time with a unit, in billionths of a second. -/
def time? (word : Bytes) : Option Nat :=
  match Quantity.read word with
  | some (q, rest) =>
    let unit : Option Nat := match letters rest with
      | [] | ['s'] => some 1
      | ['m'] => some 60
      | ['h'] => some 3600
      | ['d'] => some 86400
      | _ => none
    match unit, q.negative, q.size with
    | some unit, false, .finite num den => some (num * unit * 1000000000 / den)
    | some _, false, .infinite => some (Nat.pow 10 30)
    | _, _, _ => none
  | none => none

/-- Runs a program, and kills it if it takes too long. -/
def timeout : Launcher := fun starter args => do
  let table : OptionTable :=
    { letters := "vφπ", valued := "ks",
      words := [("kill-after", 'k'), ("signal", 's'), ("verbose", 'v'), ("foreground", 'φ'),
        ("preserve-status", 'π')] }
  match table.readEarly args with
  | .error fault =>
    complainOfUse fault.text
    return ended 125
  | .ok g =>
    let name := (g.value? 's').getD (Text.bytes "TERM")
    let bareName := if (Text.bytes "SIG").isPrefixOf name then name.drop 3 else name
    match signal? bareName, g.operands with
    | none, _ =>
      complainOfUse (Quoted.curly name ++ Text.bytes ": invalid signal")
      return ended 125
    | _, [] | _, [_] =>
      referToHelp
      return ended 125
    | some signal, limit :: words =>
      match time? limit, (g.value? 'k').map time? with
      | none, _ =>
        complainOfUse (Text.bytes "invalid time interval " ++ Quoted.curly limit)
        return ended 125
      | _, some none =>
        complainOfUse (Text.bytes "invalid time interval " ++ Quoted.curly ((g.value? 'k').getD []))
        return ended 125
      | some time, _ =>
        let s ← get
        let before := s.commons.deadline
        let mine := s.commons.clock + time
        let first := time != 0 && before.all fun (other, _) => mine < other
        set { s with commons := { s.commons with deadline := if first then some (mine, signal) else before } }
        let ending ← starter.replace starter.environment starter.ignored "failed to run command " Quoted.curly words
        let s ← get
        set { s with commons := { s.commons with deadline := before } }
        if first && mine ≤ s.commons.clock then
          if g.has 'v' then
            complain (Text.bytes "sending signal " ++ Builtin.signalName signal ++ Text.bytes " to command " ++
              Quoted.curly (words.headD []))
          if g.has 'π' then return ended (128 + signal)
          else if signal = 9 then return .killed 9
          else return ended 124
        else return ending

/-- Runs a program with other buffers, which cannot be noticed here. -/
def stdbuf : Launcher := fun starter args => do
  match OptionTable.readEarly { valued := "ioe", words := [("input", 'i'), ("output", 'o'), ("error", 'e')] } args with
  | .error fault =>
    complainOfUse fault.text
    return ended 125
  | .ok g =>
    let isMode (text : Bytes) : Bool := text = [byte 'L'] || text.head?.any isDigit
    match g.options.find? fun option => !isMode option.2 with
    | some (_, text) =>
      complain (Text.bytes "invalid mode " ++ Quoted.curly text)
      return ended 125
    | none =>
      if g.operands.isEmpty then
        let _ ← missingOperand 125
        return ended 125
      else if g.options.isEmpty then
        complainOfUse (Text.bytes "you must specify a buffering mode option")
        return ended 125
      else starter.replace starter.environment starter.ignored "failed to run command " Quoted.curly g.operands

/-- Runs a program in a session of its own. -/
def setsid : Launcher := fun starter args => do
  match OptionTable.readEarly { letters := "cfw", words := [("wait", 'w'), ("fork", 'f'), ("ctty", 'c')] } args with
  | .error fault =>
    complainOfUse fault.text
    return ended 1
  | .ok g =>
    if g.operands.isEmpty then
      complainOfUse (Text.bytes "no command specified")
      return ended 1
    else starter.replace starter.environment starter.ignored "failed to execute " id g.operands

end Starters

end LineShell.Host.Script
