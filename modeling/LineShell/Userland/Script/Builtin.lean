import LineShell.Userland.Script.Expansion
import LineShell.Userland.Script.Parser
import LineShell.Userland.Utility.Condition
import LineShell.Userland.Utility.Files.Mode

/-!
# The commands of the interpreter itself

Commands that change the interpreter or are carried out without a program. A mistake in one of the special ones ends
the script (`Builtin.special`), one in the others is status 2 (`Builtin.regular`).
-/

namespace LineShell.Host.Script

/-- A command of the interpreter: it runs on arguments and answers with a status. -/
abbrev Builtin := Engine → List Bytes → Act Nat

namespace Builtin

def say (text : Bytes) : Act Unit :=
  Act.onScene (put text)

def sayLine (text : Bytes) : Act Unit :=
  Act.onScene (putLine text)

/-- Write a complaint as it is. -/
def grumble (text : Bytes) : Act Unit :=
  modify fun i => { i with scene := i.scene.complain (text ++ [newline]) }

/-- A utility that is carried out without a program. -/
def ofUtility (utility : Utility) : Builtin := fun _ args => do
  let i ← get
  let title := i.name ++ Text.bytes ": " ++ decimal i.line ++ Text.bytes ": " ++ i.command.getD []
  let (status, scene) := (utility args).run { i.scene with title := title }
  modify fun i => { i with scene := scene }
  return status

/-- The number that an argument has to be. -/
def natural (word : Bytes) : Act Nat :=
  match number? word with
  | some n => if n ≤ 0x7fffffff then return n else Act.fail (Text.bytes "Illegal number: " ++ word)
  | none => Act.fail (Text.bytes "Illegal number: " ++ word)

/-- Split a word at its first equals sign. -/
def setting (word : Bytes) : Bytes × Option Bytes :=
  let name := word.takeWhile (· != byte '=')
  (name, if name.length < word.length then some (word.drop (name.length + 1)) else none)

/-- Refuse a word that is no name of a variable. -/
def demandName (word : Bytes) : Act Unit := do
  if !isName word then Act.failOf word "bad variable name"

/-- The letters of the options in front of the arguments, and the arguments. -/
def optionsOf (known : String) : List Bytes → Act (List Char × List Bytes)
  | [] => return ([], [])
  | word :: rest =>
    match word with
    | [45, 45] => return ([], rest)
    | 45 :: b :: more => do
      match (letters (b :: more)).find? fun c => !known.toList.contains c with
      | some c => Act.failText ("Illegal option -" ++ c.toString)
      | none =>
        let (options, args) ← optionsOf known rest
        return (letters (b :: more) ++ options, args)
    | _ => return ([], word :: rest)

/-- A text in quotes, as the interpreter would read it. -/
def inQuotes (text : Bytes) : Bytes :=
  let quote := byte '\''
  let runs := text.splitBy fun a b => (a == quote) == (b == quote)
  let shown := runs.map fun run =>
    if run.head? = some quote then byte '"' :: run ++ [byte '"'] else quote :: run ++ [quote]
  let lead : Bytes := if text.isEmpty || text.head? = some quote then [quote, quote] else []
  let last : Bytes := if text.getLast? = some quote then [quote, quote] else []
  lead ++ shown.flatten ++ last

/-! ## Leaving the course -/

/-- Run the words as a script. -/
def eval : Builtin := fun e args => do
  Act.setStatus 0
  e.script false (Print.joined args)
  return (← get).status

/-- Run the script in a file, which is looked for as programs are. -/
def source : Builtin := fun e args => do
  match args with
  | [] => return 0
  | name :: _ =>
    let i ← get
    let paths := candidates i.programDirs name
    let isFile (path : Bytes) : Bool := (i.scene.find? path).any fun node => !node.isDir
    let path := if name.contains Place.slash then some name else if name.isEmpty then none else paths.find? isFile
    match path with
    | none => Act.failOf name "not found"
    | some path =>
      match i.scene.openFile path .read with
      | .error fault =>
        let text := if fault = .missing || fault = .notDirectory then "No such file" else fault.text
        Act.fail (Text.bytes "cannot open " ++ path ++ Text.bytes (": " ++ text))
      | .ok _ =>
        let text := (i.scene.contentOf? path).getD []
        Act.setStatus 0
        modify fun i => { i with command := some path }
        match ← Act.caught (e.script false text) with
        | .ok () => return (← get).status
        | .error (.back status) => return status
        | .error turn => throw turn

def exit : Builtin := fun _ args => do
  match args with
  | [] => throw (.finish (← get).status)
  | word :: _ => throw (.finish (← natural word))

def back : Builtin := fun _ args => do
  match args with
  | [] => throw (.back (← get).status)
  | word :: _ => throw (.back (← natural word))

/-- Leave loops, or go on with the next round. -/
def leave (again : Bool) : Builtin := fun _ args => do
  let n ← match args with
    | [] => pure 1
    | word :: _ => natural word
  if n = 0 then Act.fail (Text.bytes "Illegal number: " ++ args.headD [])
  let loops := (← get).loops
  if loops = 0 then return 0 else throw (.leave (min n loops) again)

/-- Become another program. Without arguments, nothing happens but the redirections. -/
def exec : Builtin := fun e args => do
  match args with
  | [] => return 0
  | name :: args =>
    let i ← get
    match startFound e true i.programDirs (i.launch i.parents name args) i.scene with
    | .error fault =>
      Act.complain (name ++ Text.bytes (": " ++ fault.text))
      throw (.finish fault.status)
    | .ok (ending, scene) =>
      set { i with scene := i.scene.after scene, traps := [] }
      match ending with
      | .killed signal => throw (.killed signal)
      | ending => throw (.finish (statusOf ending))

/-! ## Variables and arguments -/

def shift : Builtin := fun _ args => do
  let n ← match args with
    | [] => pure 1
    | word :: _ => natural word
  let i ← get
  if i.args.length < n then Act.failText "can't shift that many"
  set { i with args := i.args.drop n }
  return 0

/-- The options of the interpreter by name. Some have no letter. -/
def optionNames : List (String × Option Char) :=
  [("errexit", some 'e'), ("noglob", some 'f'), ("ignoreeof", some 'I'), ("interactive", some 'i'),
    ("monitor", some 'm'), ("noexec", some 'n'), ("stdin", some 's'), ("xtrace", some 'x'), ("verbose", some 'v'),
    ("vi", some 'V'), ("emacs", some 'E'), ("noclobber", some 'C'), ("allexport", some 'a'), ("notify", some 'b'),
    ("nounset", some 'u'), ("privileged", some 'p'), ("nolog", none), ("debug", none)]

/-- Switch options on or off. -/
def switched (on : Bool) (letters flags : List Char) : List Char :=
  let others := flags.filter fun c => !letters.contains c
  if on then others ++ letters else others

/-- The letters of an option by its name; `none` if there is no such option. -/
def lettersOf? (name : Bytes) : Option (List Char) :=
  (optionNames.find? fun (long, _) => Text.bytes long = name).map (·.2.toList)

/-- All options and whether they are on, as a list or as commands. -/
def listedOptions (flags : List Char) (asCommands : Bool) : Bytes :=
  let isOn (letter : Option Char) : Bool := letter.any flags.contains
  if asCommands then
    Text.bytes ("".intercalate (optionNames.map fun (name, letter) =>
      "set " ++ (if isOn letter then "-o " else "+o ") ++ name ++ "\n"))
  else
    Text.bytes "Current option settings\n" ++ optionNames.flatMap fun (name, letter) =>
      padRight 16 (byte ' ') (Text.bytes name) ++ Text.bytes (if isOn letter then "on\n" else "off\n")

/-- What words set: the flags, the arguments if any are given, and the lists of options that are asked for. -/
structure Settings where
  flags : List Char
  args : Option (List Bytes) := none
  listings : List Bool := []
  /-- A word that is no option. -/
  wrong : Option Bytes := none

/-- Read the words behind `set`. -/
def settings (s : Settings) : List Bytes → Settings
  | [] => s
  | word :: rest =>
    match word with
    | [45] =>
      { s with flags := switched false ['x', 'v'] s.flags, args := if rest.isEmpty then s.args else some rest }
    | [45, 45] => { s with args := some rest }
    | sign :: names =>
      if sign = byte '-' || sign = byte '+' then
        let on := sign = byte '-'
        let names := letters names
        let plain := names.filter (· != 'o')
        match plain.find? fun c => !optionNames.any (·.2 == some c) with
        | some c => { s with wrong := some (Text.bytes ("-" ++ c.toString)) }
        | none =>
          let s := { s with flags := switched on plain s.flags }
          if names.contains 'o' then
            match rest with
            | [] => { s with listings := s.listings ++ [!on] }
            | name :: rest =>
              match lettersOf? name with
              | some letters => settings { s with flags := switched on letters s.flags } rest
              | none => { s with wrong := some (Text.bytes "-o " ++ name) }
          else settings s rest
      else { s with args := some (word :: rest) }
    | [] => { s with args := some (word :: rest) }

/-- The variables in order, each as it could be set again. -/
def listed (lead : String) (bindings : List (Bytes × Variable)) : Bytes :=
  let sorted := bindings.mergeSort fun a b => !decide (b.1 < a.1)
  sorted.flatMap fun (name, v) =>
    match v.value with
    | some value => Text.bytes lead ++ name ++ byte '=' :: inQuotes value ++ [newline]
    | none => if lead.isEmpty then [] else Text.bytes lead ++ name ++ [newline]

def setOptions : Builtin := fun _ args => do
  let i ← get
  if args.isEmpty then say (listed "" i.bindings)
  else
    let s := settings { flags := i.flags } args
    set { i with flags := s.flags }
    for asCommands in s.listings do
      say (listedOptions s.flags asCommands)
    match s.wrong with
    | some word => Act.fail (Text.bytes "Illegal option " ++ word)
    | none =>
      match s.args with
      | none => pure ()
      | some args =>
        modify fun i => { i.setVariable (Text.bytes "OPTIND") { value := some [byte '1'] } with
          args := args, optionLetters := 0 }
  return 0

/-- Mark variables, and set them where a value is given. -/
def mark (lead : String) (change : Variable → Variable) (marked : Variable → Bool) : Builtin := fun _ args => do
  let (_, names) ← optionsOf "p" args
  if names.isEmpty then say (listed lead ((← get).bindings.filter fun (_, v) => marked v))
  else
    for word in names do
      let (name, value) := setting word
      demandName name
      match value with
      | some value => Act.assign name value false
      | none => pure ()
      modify fun i => i.setVariable name (change ((i.bindings.lookup name).getD {}))
  return 0

def unset : Builtin := fun _ args => do
  let (options, names) ← optionsOf "vf" args
  for name in names do
    let i ← get
    if options.getLast? = some 'f' then set { i with functions := i.functions.filter (·.1 != name) }
    else
      demandName name
      if (i.bindings.lookup name).any (·.readOnly) then Act.failOf name "is read only"
      set (i.dropVariable name)
  return 0

/-- Give variables to the function at work for itself; a dash stands for the options. -/
def ownVariables : Builtin := fun _ args => do
  if (← get).hidden.isEmpty then Act.failText "not in a function"
  for word in args do
    let (name, value) := setting word
    let i ← get
    match i.hidden with
    | [] => pure ()
    | frame :: frames =>
      let before := if word = [byte '-'] then some { value := some (i.flags.map byte) } else i.bindings.lookup name
      if word != [byte '-'] then demandName name
      let frame := if frame.any (·.1 == name) then frame else (name, before) :: frame
      set { i with hidden := frame :: frames }
      match value with
      | some value => Act.assign name value false
      | none => pure ()
  return 0

/-- The escapes in a word that is read: the bytes, and whether each was escaped; `true` if the line goes on. -/
def readEscapes : Bytes → List Atom × Bool
  | [] => ([], false)
  | [92] => ([], true)
  | 92 :: 10 :: _ => ([], true)
  | 92 :: b :: rest => let (atoms, more) := readEscapes rest; (.byte b true false :: atoms, more)
  | 10 :: _ => ([], false)
  | b :: rest => let (atoms, more) := readEscapes rest; (.byte b false true :: atoms, more)

/-- Read a line, and those that it goes on with; the flag tells whether it was complete. -/
def readAtoms (raw : Bool) : (fuel : Nat) → Act (List Atom × Bool)
  | 0 => return ([], false)
  | fuel + 1 => do
    let i ← get
    match i.scene.readLine 0 with
    | .error _ => return ([], false)
    | .ok (line, scene) =>
      set { i with scene := scene }
      let complete := line.getLast? = some newline
      let line := line.filter (· != 0)
      if raw then return ((line.filter (· != newline)).map fun b => .byte b false true, complete)
      else
        let (atoms, more) := readEscapes line
        if more && complete then
          let (rest, complete) ← readAtoms raw fuel
          return (atoms ++ rest, complete)
        else return (atoms, complete)

/-- Whether an atom is a separator, and whether it is a blank one. -/
def isSeparator (separators : Bytes) (atom : Atom) : Bool :=
  match atom with
  | .byte b false _ => separators.contains b
  | _ => false

def isBlankSeparator (separators : Bytes) (atom : Atom) : Bool :=
  isSeparator separators atom && match atom with
    | .byte b .. => b = byte ' ' || b = byte '\t' || b = newline
    | _ => false

/-- The values of so many variables in what was read; the last one takes all that is left. -/
def shares (separators : Bytes) : (count : Nat) → List Atom → List Bytes
  | 0, _ => []
  | 1, atoms =>
    let rest := atoms.dropWhile (isBlankSeparator separators)
    let trimmed := (rest.reverse.dropWhile (isBlankSeparator separators)).reverse
    /- One field with the separator behind it is that field. -/
    let field := trimmed.takeWhile fun atom => !isSeparator separators atom
    let behind := trimmed.drop field.length
    let alone := behind.length = 1 || (behind.filter (isBlankSeparator separators)).length + 1 = behind.length &&
      behind.all (isSeparator separators)
    [joined [] (if alone then field else trimmed)]
  | count + 1, atoms =>
    let rest := atoms.dropWhile (isBlankSeparator separators)
    let field := rest.takeWhile fun atom => !isSeparator separators atom
    let behind := (rest.drop field.length).dropWhile (isBlankSeparator separators)
    let behind := match behind with
      | atom :: more => if isSeparator separators atom then more.dropWhile (isBlankSeparator separators) else behind
      | [] => []
    joined [] field :: shares separators count behind

/-- The options of `read` and its operands: whether backslashes mean nothing, and the names. -/
def readOptions : List Bytes → Act (Bool × List Bytes)
  | [] => return (false, [])
  | word :: rest =>
    match word with
    | [45, 45] => return (false, rest)
    | 45 :: b :: more => do
      let plain := (letters (b :: more)).takeWhile (· != 'p')
      match plain.find? (· != 'r') with
      | some c => Act.failText ("Illegal option -" ++ c.toString)
      | none =>
        let behind := (b :: more).drop plain.length
        let waiting := behind = [byte 'p']
        if waiting && rest.isEmpty then Act.failText "No arg for -p option"
        let (raw, names) ← readOptions (rest.drop (if waiting then 1 else 0))
        return (raw || !plain.isEmpty, names)
    | _ => return (false, word :: rest)
termination_by words => words.length
decreasing_by
  simp only [List.length_drop, List.length_cons]
  omega

def read : Builtin := fun _ args => do
  let (raw, names) ← readOptions args
  if names.isEmpty then Act.failText "arg count"
  let (atoms, complete) ← readAtoms raw 100000
  let values := shares (← get).separators names.length atoms
  for (name, value) in names.zip values do
    demandName name
    Act.assign name value false
  return if complete then 0 else 1

/-- Take the next option off the arguments. -/
def getOptions : Builtin := fun _ args => do
  match args with
  | letters :: name :: given =>
    let i ← get
    let words := if given.isEmpty then i.args else given
    let index := ((i.valueOf? (Text.bytes "OPTIND")).bind number?).getD 1
    let quiet := letters.head? = some (byte ':')
    let answerWith (answer : Bytes) (value : Option Bytes) (index letter : Nat) : Act Unit := do
      let plain (value : Bytes) : Variable := { value := some value }
      modify fun i =>
        let i := i.setVariable (Text.bytes "OPTIND") (plain (decimal index))
        let i := match value with
          | some value => i.setVariable (Text.bytes "OPTARG") (plain value)
          | none => i.dropVariable (Text.bytes "OPTARG")
        { i with optionLetters := letter }
      demandName name
      Act.assign name answer false
    let word := (words[index - 1]?).getD []
    if word = Text.bytes "--" && i.optionLetters = 0 then
      answerWith [byte '?'] none (index + 1) 0
      return 1
    else if words.length < index || word.head? != some (byte '-') || word.length < 2 then
      answerWith [byte '?'] none index 0
      return 1
    else
      let place := max 1 i.optionLetters
      match word[place]? with
      | none => return 1
      | some letter =>
        let (nextIndex, nextLetter) := if place + 1 < word.length then (index, place + 1) else (index + 1, 0)
        let known := letter != byte ':' && letters.contains letter
        let valued := ((letters.dropWhile (· != letter)).tail).head? = some (byte ':')
        if !known then
          if !quiet then grumble (Text.bytes "Illegal option -" ++ [letter])
          answerWith [byte '?'] (if quiet then some [letter] else none) nextIndex nextLetter
        else if !valued then answerWith [letter] none nextIndex nextLetter
        else if place + 1 < word.length then answerWith [letter] (some (word.drop (place + 1))) (index + 1) 0
        else
          match words[index]? with
          | some value => answerWith [letter] (some value) (index + 2) 0
          | none =>
            if quiet then answerWith [byte ':'] (some [letter]) (index + 1) 0
            else
              grumble (Text.bytes "No arg for -" ++ letter :: Text.bytes " option")
              answerWith [byte '?'] none (index + 1) 0
        return 0
  | _ => Act.failText "Usage: getopts optstring var [arg...]"

/-! ## Aliases -/

/-- A name and what it stands for, as it could be set again. -/
def aliasText (name text : Bytes) : Bytes :=
  name ++ byte '=' :: inQuotes text

def aliases : Builtin := fun _ args => do
  let i ← get
  if args.isEmpty then
    let sorted := i.aliases.mergeSort fun a b => Interpreter.shelf a.1 ≤ Interpreter.shelf b.1
    say (sorted.flatMap fun (name, text) => aliasText name text ++ [newline])
    return 0
  else
    let mut status := 0
    for word in args do
      let lead := word.take 1
      let (name, text) := setting (word.drop 1)
      let name := lead ++ name
      match text with
      | some text =>
        modify fun i =>
          if i.aliases.any (·.1 == name) then
            { i with aliases := i.aliases.map fun entry => if entry.1 == name then (name, text) else entry }
          else { i with aliases := i.aliases ++ [(name, text)] }
      | none =>
        match (← get).aliases.lookup name with
        | some text => sayLine (aliasText name text)
        | none =>
          grumble (Text.bytes "alias: " ++ name ++ Text.bytes " not found")
          status := 1
    return status

def dropAliases : Builtin := fun _ args => do
  let (options, names) ← optionsOf "a" args
  if options.contains 'a' then
    modify fun i => { i with aliases := [] }
    return 0
  else
    let mut status := 0
    for name in names do
      if (← get).aliases.any (·.1 == name) then
        modify fun i => { i with aliases := i.aliases.filter (·.1 != name) }
      else
        grumble (Text.bytes "unalias: " ++ name ++ Text.bytes " not found")
        status := 1
    return status

/-! ## Directories -/

/-- Go up and down a path as it is written. -/
def normal (path : Bytes) : Bytes :=
  let names := (Disk.split path).foldl (fun (names : List Bytes) name =>
    if name = [byte '.'] then names else if name = [byte '.', byte '.'] then names.tail else name :: names) []
  if names.isEmpty then [Place.slash] else names.reverse.flatMap fun name => Place.slash :: name

/-- The paths that a directory may be found at, and whether each is to be told. -/
def dirCandidates (i : Interpreter) (target : Bytes) : List (Bytes × Bool) :=
  let lead := target.takeWhile (· != Place.slash)
  if Disk.isRooted target || lead = [byte '.'] || lead = Text.bytes ".." then [(target, false)]
  else
    match i.valueOf? (Text.bytes "CDPATH") with
    | none => [(target, false)]
    | some dirs =>
      ((dirs.splitOn (byte ':')).map fun dir =>
        if dir.isEmpty then (target, false) else (Files.under dir target, true)) ++ [(target, false)]

def changeDir : Builtin := fun _ args => do
  let (options, args) ← optionsOf "LP" args
  let physical := options.getLast? = some 'P'
  let i ← get
  let isBack := args.head? = some [byte '-']
  let target := match args with
    | [] => (i.valueOf? (Text.bytes "HOME")).getD []
    | word :: _ => if isBack then (i.valueOf? (Text.bytes "OLDPWD")).getD [] else word
  let target := if target.isEmpty then [byte '.'] else target
  let resolved (path : Bytes) : Option (Bytes × Place) :=
    let whole := if Disk.isRooted path then path else i.dirPath ++ Place.slash :: path
    let path := if physical then path else normal whole
    match i.scene.disk.locate? i.scene.dir path with
    | some place =>
      if (i.scene.disk.entries? place.id).isNone then none else some (if physical then place.path else path, place)
    | none => none
  match (dirCandidates i target).findSome? fun (path, told) => (resolved path).map fun found => (found, told) with
  | none => Act.fail (Text.bytes "can't cd to " ++ target)
  | some ((path, place), told) =>
    set { i with scene := { i.scene with dir := place }, dirPath := path }
    Act.assign (Text.bytes "OLDPWD") i.dirPath true
    Act.assign (Text.bytes "PWD") path true
    if isBack || told then sayLine path
    return 0

def workingDir : Builtin := fun _ args => do
  let (options, _) ← optionsOf "LP" args
  let i ← get
  sayLine (if options.getLast? = some 'P' then i.scene.dir.path else i.dirPath)
  return 0

/-! ## Signals and processes -/

/-- The name of a signal. -/
def signalName (signal : Nat) : Bytes :=
  if signal = 0 then Text.bytes "EXIT"
  else
    match signalNames[signal - 1]? with
    | some name => Text.bytes name
    | none => decimal signal

/-- Set what is done on some signals, or with no action let them do what they always do. A word that is no signal ends
the work. -/
def trapAll (action : Option Bytes) : List Bytes → Act Nat
  | [] => return 0
  | word :: rest =>
    match signal? word with
    | none => do
      grumble (Text.bytes "trap: " ++ word ++ Text.bytes ": bad trap")
      return 1
    | some signal => do
      modify fun i =>
        { i with traps := (action.map fun action => (signal, action)).toList ++ i.traps.filter (·.1 != signal) }
      trapAll action rest

def trap : Builtin := fun _ args => do
  let (_, args) ← optionsOf "" args
  let i ← get
  match args with
  | [] =>
    let sorted := i.traps.mergeSort fun a b => a.1 ≤ b.1
    say (sorted.flatMap fun (signal, action) =>
      Text.bytes "trap -- " ++ inQuotes action ++ byte ' ' :: signalName signal ++ [newline])
    return 0
  | action :: more =>
    let bare := more.isEmpty || (number? action).isSome
    trapAll (if bare || action = [byte '-'] then none else some action) (if bare then args else more)

/-- The job that a word such as `%1` names. -/
def job? (i : Interpreter) (word : Bytes) : Option Job :=
  match word with
  | [37] | [37, 37] | [37, 43] => i.jobs.head?
  | [37, 45] => i.jobs[1]?
  | 37 :: rest => (number? rest).bind fun n => i.jobs.find? fun job => job.number = n
  | _ => none

/-- Send a signal to one process. -/
def sendOne (signal : Nat) (word : Bytes) : Act Nat := do
  let i ← get
  let pid ← match word with
    | 37 :: rest =>
      match job? i word with
      | some job => pure job.pid
      | none =>
        if rest.isEmpty then Act.failText "No current job" else Act.fail (Text.bytes "No such job: " ++ word)
    | 45 :: rest => natural rest
    | _ => natural word
  let pid := if pid = 0 then i.pid else pid
  let running := pid = i.pid || i.parents.contains pid
  if running && signal != 0 then
    let commons := { i.scene.commons with signals := i.scene.commons.signals ++ [(pid, signal)] }
    set { i with scene := { i.scene with commons := commons } }
  let isTarget (job : Job) : Bool := job.pid = pid && job.isWaiting
  let struck (job : Job) : Job :=
    if isTarget job && isFatal signal then { job with state := .ended (.killed signal) false } else job
  modify fun i => { i with jobs := i.jobs.map struck }
  if running || pid = 1 || i.jobs.any isTarget then return 0
  else
    Act.complain (Text.bytes "No such process\n")
    return 1

def kill : Builtin := fun _ args => do
  let usage {α : Type} : Act α :=
    Act.failText "Usage: kill [-s sigspec | -signum | -sigspec] [pid | job]... or\nkill -l [exitstatus]"
  let send (signal : Nat) (words : List Bytes) : Act Nat := do
    if words.isEmpty then usage
    else
      let mut status := 0
      for word in words do
        let code ← sendOne signal word
        if code != 0 then status := code
      return status
  let wrong (name : Bytes) : Act Nat := Act.fail (Text.bytes "invalid signal number or name: " ++ name)
  match args with
  | [] => usage
  | option :: rest =>
    match option with
    | [45, 45] => send 15 rest
    | 45 :: name =>
      match signal? name with
      | some signal => if name.isEmpty then usage else send signal rest
      | none =>
        match letters name with
        | ['s'] =>
          match rest with
          | [] => Act.failText "No arg for -s option"
          | name :: words =>
            match signal? name with
            | some signal => send signal words
            | none => wrong name
        | 's' :: _ =>
          match signal? name.tail with
          | some signal => send signal rest
          | none => wrong name.tail
        | ['l'] =>
          match rest with
          | [] => say ((Text.bytes "0" :: signalNames.map Text.bytes).flatMap (· ++ [newline]))
          | word :: _ =>
            let n ← natural word
            let signal := if 128 < n then n - 128 else n
            if signal = 0 || 64 < signal then
              Act.fail (Text.bytes "invalid signal number or exit status: " ++ word)
            sayLine (signalName signal)
          return 0
        | c :: _ => Act.failText ("Illegal option -" ++ c.toString)
        | [] => usage
    | _ => send 15 args

/-- Let a job come to its end, and tell what killed it. -/
def awaited (job : Job) : Act Nat := do
  let finished : Act Unit := ExceptT.lift (finishJobs fun known => known.pid = job.pid)
  finished
  let i ← get
  match (i.jobs.find? fun known => known.pid = job.pid).map Job.state with
  | some (.ended ending told) =>
    let marked (known : Job) : Job :=
      if known.pid = job.pid then { known with state := .ended ending true } else known
    set { i with jobs := i.jobs.map marked }
    if told then return statusOf ending else settled ending
  | _ => return 127

def wait : Builtin := fun _ args => do
  let (_, args) ← optionsOf "" args
  if args.isEmpty then
    let finished : Act Unit := ExceptT.lift (finishJobs fun _ => true)
    finished
    return 0
  else
    let mut status := 0
    for word in args do
      let i ← get
      if word.head? = some (byte '%') then
        match job? i word with
        | some job => status ← awaited job
        | none => Act.fail (Text.bytes "No such job: " ++ word)
      else
        let pid ← natural word
        match i.jobs.find? fun job => job.pid = pid with
        | some job => status ← awaited job
        | none => status := 127
    return status

/-- Tell of the jobs. Those that are over are forgotten. -/
def jobs : Builtin := fun _ args => do
  let (_, args) ← optionsOf "lp" args
  let i ← get
  match args.find? fun word => (job? i word).isNone with
  | some word => Act.fail (Text.bytes "No such job: " ++ word)
  | none =>
    for (job, n) in i.jobs.zipIdx do
      let mark := if n = 0 then '+' else if n = 1 then '-' else ' '
      let state : Bytes := match job.state with
        | .waiting _ => Text.bytes "Running"
        | .ended (.exited 0) _ => Text.bytes "Done"
        | .ended (.exited code) _ => Text.bytes "Done(" ++ decimal code.toInt.toNat ++ [byte ')']
        | .ended (.killed signal) _ => Text.bytes ((signalText signal).getD "Terminated")
      sayLine (byte '[' :: decimal job.number ++ [byte ']', byte ' ', byte mark, byte ' '] ++
        padRight 27 (byte ' ') state)
    modify fun i => { i with jobs := i.jobs.filter Job.isWaiting }
    return 0

/-- Bring a job back; there are no jobs to be brought back in a script. -/
def resume : Builtin := fun _ args => do
  match args with
  | [] => Act.failText "No current job"
  | word :: _ => Act.fail (Text.bytes "No such job: " ++ word)

/-! ## The lists -/

/-- Show or set the mask of the modes of new files. -/
def mask : Builtin := fun _ args => do
  let (options, args) ← optionsOf "S" args
  let i ← get
  let given := 0x1ff - i.scene.mask
  let letters (bits : Nat) : Bytes := (Files.modeLetters bits).filter (· != byte '-')
  match args with
  | [] =>
    if options.contains 'S' then
      sayLine (Text.bytes "u=" ++ (letters (given / 64 % 8 * 64)) ++ Text.bytes ",g=" ++
        letters (given / 8 % 8 * 8) ++ Text.bytes ",o=" ++ letters (given % 8))
    else sayLine (Files.modeDigits 4 i.scene.mask)
  | word :: _ =>
    let mask : Option Nat :=
      if word.isEmpty then some i.scene.mask
      else if (word.head?).any isDigit then
        if word.all Print.isOctal then some (Print.octal word % 0x200) else none
      else (Files.modeAfter 0 false word given).map fun given => 0x1ff - given % 0x200
    match mask with
    | some mask => set { i with scene := { i.scene with mask := mask } }
    | none =>
      Act.fail (Text.bytes (if (word.head?).any isDigit then "Illegal number: " else "Illegal mode: ") ++ word)
  return 0

/-- Take names among the programs that were looked for. -/
def track (name : Bytes) : Act Unit :=
  modify fun i => if i.tracked.contains name then i else { i with tracked := i.tracked ++ [name] }

/-- Look for programs, or tell which were found before. -/
def look : Builtin := fun _ args => do
  let (options, args) ← optionsOf "r" args
  if options.contains 'r' then
    modify fun i => { i with tracked := [] }
    return 0
  else if args.isEmpty then
    let i ← get
    let shelf (name : Bytes) : Nat := (name.foldl (fun n b => n + b.toNat) ((name.headD 0).toNat * 16)) % 31
    for name in i.tracked.mergeSort fun a b => shelf a ≤ shelf b do
      match search i.scene i.programDirs name with
      | .ok path => sayLine path
      | .error _ => pure ()
    return 0
  else
    let mut status := 0
    for name in args do
      let i ← get
      if (i.functions.lookup name).isSome || name.contains Place.slash then pure ()
      else if (search i.scene i.programDirs name).isOk then track name
      else
        Act.complain (name ++ Text.bytes ": not found")
        status := 1
    return status

/-- Tell the limits of the system. Setting them changes nothing. -/
def limits : Builtin := fun _ args => do
  let known : List (Char × String × Nat) :=
    [('t', "time(seconds)", 0), ('f', "file(blocks)", 0), ('d', "data(kbytes)", 0), ('s', "stack(kbytes)", 8192),
      ('c', "coredump(blocks)", 0), ('m', "memory(kbytes)", 0), ('l', "locked memory(kbytes)", 8192),
      ('p', "process", 0),
      ('n', "nofiles", 1048576), ('v', "vmemory(kbytes)", 0), ('w', "locks", 0), ('r', "rtprio", 0)]
  let shown (n : Nat) : Bytes := if n = 0 then Text.bytes "unlimited" else decimal n
  let (options, args) ← optionsOf "HSatfdscmlpnvwr" args
  if 1 < args.length then Act.failText "too many arguments"
  match args with
  | [word] =>
    if (number? word).isSome || word = Text.bytes "unlimited" then return 0 else Act.failText "bad number"
  | _ =>
    if options.contains 'a' then
      for (_, name, n) in known do
        sayLine (padRight 20 (byte ' ') (Text.bytes name) ++ byte ' ' :: shown n)
    else
      let letter := ((options.filter fun c => c != 'H' && c != 'S').getLast?).getD 'f'
      sayLine (shown (((known.find? (·.1 == letter)).map (·.2.2)).getD 0))
    return 0

/-- How `printf` is done by the interpreter. -/
def formatRules : Print.FormatRules :=
  { escapes := { stops := false }, precision := .double, builtin := true, bad := 2 }

def special : List (String × Builtin) :=
  [(":", fun _ _ => return 0), (".", source), ("break", leave false), ("continue", leave true), ("eval", eval),
    ("exec", exec), ("exit", exit),
    ("export", mark "export " (fun v => { v with exported := true }) (·.exported)),
    ("readonly", mark "readonly " (fun v => { v with readOnly := true }) (·.readOnly)),
    ("return", back), ("set", setOptions), ("shift", shift), ("local", ownVariables),
    ("times", fun _ _ => do
      for _ in [0, 1] do
        sayLine (Text.bytes "0m0.000000s 0m0.000000s")
      return 0),
    ("trap", trap), ("unset", unset)]

def regular : List (String × Builtin) :=
  [("true", fun _ _ => return 0), ("false", fun _ _ => return 1), ("alias", aliases), ("unalias", dropAliases),
    ("hash", look), ("jobs", jobs), ("fg", resume), ("bg", resume), ("cd", changeDir), ("chdir", changeDir),
    ("pwd", workingDir), ("echo", ofUtility Print.echo), ("printf", ofUtility (Print.formatted formatRules)),
    ("test", ofUtility (Condition.test .builtin)), ("[", ofUtility (Condition.bracket .builtin)), ("read", read),
    ("getopts", getOptions), ("kill", kill), ("wait", wait), ("umask", mask), ("ulimit", limits)]

/-- The command with a name in a list. -/
def find? (list : List (String × Builtin)) (name : Bytes) : Option Builtin :=
  (list.find? fun (known, _) => Text.bytes known = name).map (·.2)

end Builtin

end LineShell.Host.Script
