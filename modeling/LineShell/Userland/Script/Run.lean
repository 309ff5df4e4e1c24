import LineShell.Userland.Script.Builtin

/-!
# Running scripts

What each command does. A nested command, a function, a trap or another program is left to the `Engine` one level down:
`runCommand` runs a command, `runText` a script line by line.
-/

namespace LineShell.Host.Script

/-! ## Redirections -/

/-- Open the file of a redirection. -/
def openTarget (i : Interpreter) (symbol : String) (path : Bytes) : Except Fault (Nat × Scene) :=
  let s := i.scene
  match symbol with
  | "<" => s.openFile path .read
  | "<>" => s.openFile path .readWrite
  | ">>" => s.openFile path .append
  | ">" =>
    let inTheWay : Bool := match s.find? path with
      | some (.file ..) => true
      | _ => false
    if i.has 'C' && inTheWay then .error .present else s.openFile path .write
  | _ => s.openFile path .write

/-- What is said of a file that could not be opened. -/
def openingFailed (symbol : String) (path : Bytes) (fault : Fault) : Bytes :=
  let creates := symbol != "<"
  let reason := if fault = .missing || fault = .notDirectory then
      (if creates then "Directory nonexistent" else "No such file")
    else fault.text
  Text.bytes (if creates then "cannot create " else "cannot open ") ++ path ++ Text.bytes (": " ++ reason)

/-- Turn a descriptor to something else; `false` if that is not possible, which is told. -/
def redirect (e : Engine) : Redirection → Act Bool
  | .file fd symbol target => do
    let path ← textOf e target
    let i ← get
    match openTarget i symbol path with
    | .error fault =>
      Act.complain (openingFailed symbol path fault)
      return false
    | .ok (stream, scene) =>
      set { i with scene := scene.assign fd (some stream) }
      return true
  | .stream fd target => do
    let word ← textOf e target
    let i ← get
    if word = [byte '-'] then
      set { i with scene := i.scene.assign fd none }
      return true
    else
      match word.map isDigit, number? word with
      | [true], some source =>
        match i.scene.descriptors.lookup source with
        | none =>
          Act.complain (word ++ Text.bytes (": " ++ Fault.badDescriptor.text))
          return false
        | some stream =>
          set { i with scene := i.scene.assign fd (some stream) }
          return true
      | _, _ => Act.failText "Syntax error: Bad fd number"
  | .document fd content => do
    let text ← textOf e content
    let i ← get
    let (stream, scene) := i.scene.addStream (.pipe text [])
    set { i with scene := scene.assign fd (some stream) }
    return true

/-- Turn descriptors to other things, until one cannot be. -/
def redirectAll (e : Engine) : List Redirection → Act Bool
  | [] => return true
  | r :: rest => do
    if ← redirect e r then redirectAll e rest else return false

/-! ## What a command is -/

/-- What a name stands for, as `type` says it, or with `brief` as it would be called. -/
def described (i : Interpreter) (brief : Bool) (dirs name : Bytes) : Option Bytes :=
  let said (text : String) : Option Bytes := some (if brief then name else name ++ Text.bytes text)
  if keywords.any fun word => Text.bytes word = name then said " is a shell keyword"
  else
    match i.aliases.lookup name with
    | some text =>
      some (if brief then Text.bytes "alias " ++ Builtin.aliasText name text
        else name ++ Text.bytes " is an alias for " ++ text)
    | none =>
      if (Builtin.find? Builtin.special name).isSome then said " is a special shell builtin"
      else if (i.functions.lookup name).isSome then said " is a shell function"
      else if (Builtin.find? Builtin.regular name).isSome || name = Text.bytes "command" ||
          name = Text.bytes "type" then
        said " is a shell builtin"
      else
        match search i.scene dirs name with
        | .ok path =>
          let tracked := i.tracked.contains name && dirs = i.programDirs
          some (if brief then path
            else name ++ Text.bytes (if tracked then " is a tracked alias for " else " is ") ++ path)
        | .error _ => none

/-- Tell of a name what it stands for. -/
def describe (brief : Bool) (dirs name : Bytes) : Act Nat := do
  match described (← get) brief dirs name with
  | some text =>
    Builtin.sayLine text
    return 0
  | none =>
    if !brief then Builtin.sayLine (name ++ Text.bytes ": not found")
    return 127

/-- Tell of each name what it stands for. -/
def describeAll (names : List Bytes) : Act Nat := do
  let mut status := 0
  for name in names do
    let code ← describe false (← get).programDirs name
    if code != 0 then status := code
  return status

/-! ## Simple commands -/

/-- Whether a word names something from which nothing can be read before another process writes into it. -/
def isStarved (s : Scene) (word : Bytes) : Bool :=
  match s.find? word with
  | some (.fifo [] _) => true
  | _ => false

/-- Let the jobs go on if a command gives them the time for that: one that waits for a while or for what they write. -/
def letJobsRun (words : List Bytes) : Act Unit := do
  let i ← get
  let finished : Act Unit := ExceptT.lift (finishJobs fun _ => true)
  let waits := words.head? = some (Text.bytes "sleep") || words.any (isStarved i.scene)
  if i.jobs.any Job.isWaiting && waits then finished

/-- Start a program and wait for it. -/
def runProgram (e : Engine) (dirs name : Bytes) (args : List Bytes) : Act Nat := do
  let i ← get
  match startFound e true dirs (i.launch (i.pid :: i.parents) name args) i.scene with
  | .error fault =>
    Act.complain (name ++ Text.bytes (": " ++ fault.text))
    return fault.status
  | .ok (ending, scene) =>
    set { i with scene := i.scene.after scene }
    if !name.contains Place.slash then Builtin.track name
    settled ending

/-- Run a function: it has arguments and loops of its own, and may give itself variables. -/
def runFunction (e : Engine) (tested : Bool) (body : Command) (args : List Bytes) : Act Nat := do
  let before ← get
  set { before with args := args, loops := 0, hidden := [] :: before.hidden }
  let result ← Act.caught (e.command tested body)
  let i ← get
  let restored := (i.hidden.headD []).foldl (fun i (name, old) =>
    match old with
    | some v => if name = [byte '-'] then { i with flags := letters (v.value.getD []) } else i.setVariable name v
    | none => i.dropVariable name) i
  set { restored with args := before.args, loops := before.loops, hidden := before.hidden }
  match result with
  | .ok () => return (← get).status
  | .error (.back status) => return status
  | .error turn => throw turn

/-- Put variables back to what they were. -/
def restore (old : List (Bytes × Option Variable)) : Act Unit :=
  modify fun i => old.foldl (fun i (name, v) =>
    match v with
    | some v => i.setVariable name v
    | none => i.dropVariable name) i

/-- Set variables, one after the other; the answer is what they were set to. -/
def assignAll (e : Engine) (exported : Bool) : List (Bytes × Word) → Act (List (Bytes × Bytes))
  | [] => return []
  | (name, word) :: rest => do
    let value ← textOf e word
    Act.assign name value exported
    let more ← assignAll e exported rest
    return (name, value) :: more

/-- Set variables for the time of something, which is told what they are set to. -/
def withVariables {α : Type} (e : Engine) (assignments : List (Bytes × Word)) (act : List (Bytes × Bytes) → Act α) :
    Act α := do
  let i ← get
  let old := (assignments.map fun (name, _) => (name, i.bindings.lookup name)).reverse
  let result ← Act.caught do
    act (← assignAll e true assignments)
  restore old
  match result with
  | .ok value => return value
  | .error turn => throw turn

/-- Run a command of the interpreter that is nothing special: a mistake in it is status 2. -/
def runRegular (act : Act Nat) : Act Nat := do
  match ← Act.caught act with
  | .ok status => return status
  | .error .failed => return 2
  | .error turn => throw turn

/-- Run a command of the interpreter under its name; output that could not be written makes it fail. -/
def asCommand (name : Bytes) (act : Act Nat) : Act Nat := do
  let before := (← get).command
  modify fun i => { i with command := some name, scene := { i.scene with spoiled := none } }
  let result ← Act.caught act
  let spoiled := (← get).scene.spoiled.isSome
  modify fun i => { i with command := some name, scene := { i.scene with spoiled := none } }
  if spoiled then Act.complain (name ++ Text.bytes ": I/O error")
  modify fun i => { i with command := before }
  match result with
  | .ok status => return if spoiled then status ||| 1 else status
  | .error turn => throw turn

/-- Run words that are a command, functions among them if `functions`. `depth` bounds the commands that only name
another one. -/
def runWords (e : Engine) (tested functions : Bool) (depth : Nat) (dirs name : Bytes) (args : List Bytes) : Act Nat :=
  match depth with
  | 0 => return 2
  | depth + 1 => do
    let i ← get
    if name = Text.bytes "eval" then
      asCommand name do
        Act.setStatus 0
        e.script tested (Print.joined args)
        return (← get).status
    else
      match Builtin.find? Builtin.special name with
      | some builtin => asCommand name (builtin e args)
      | none =>
        match (if functions then i.functions.lookup name else none) with
        | some body => runFunction e tested body args
        | none =>
          if name = Text.bytes "command" then
            let options := args.takeWhile fun word => word.head? = some (byte '-') && 1 < word.length &&
              word != Text.bytes "--"
            let chars := options.flatMap fun word => letters word.tail
            let words := args.drop options.length
            let words := if words.head? = some (Text.bytes "--") then words.tail else words
            let dirs := if chars.contains 'p' then Text.bytes "/usr/sbin:/usr/bin:/sbin:/bin" else dirs
            match chars.find? fun c => !"pvV".contains c, words with
            | some c, _ => runRegular (asCommand name (Act.failText ("Illegal option -" ++ c.toString)))
            | none, [] => return 0
            | none, word :: args =>
              if chars.contains 'v' || chars.contains 'V' then asCommand name (describe (!chars.contains 'V') dirs word)
              else runRegular (runWords e tested false depth dirs word args)
          else if name = Text.bytes "type" then asCommand name (describeAll args)
          else
            match Builtin.find? Builtin.regular name with
            | some builtin => runRegular (asCommand name (builtin e args))
            | none => runProgram e dirs name args

/-- The fields of the words of a command. Where variables are marked, what they are set to is not split. -/
def fieldsOfWords (e : Engine) : (marking : Bool) → List Word → Act (List Bytes)
  | _, [] => return []
  | marking, word :: rest => do
    let fields ← if marking && (assignment? word).isSome then do pure [← textOf e word] else fieldsOf e word
    let names := ["export", "readonly", "local"]
    let more ← fieldsOfWords e (marking || names.any fun name => fields = [Text.bytes name]) rest
    return fields ++ more

/-- Show a command on a stream before it runs, if that is switched on. -/
def trace (e : Engine) (stream : Option Nat) (settings : List (Bytes × Bytes)) (fields : List Bytes) : Act Unit := do
  let i ← get
  if i.has 'x' then
    set { i with flags := i.flags.filter (· != 'x') }
    let lead ← textOf e (readQuoted ((i.valueOf? (Text.bytes "PS4")).getD []))
    let words := settings.map (fun (name, value) => name ++ byte '=' :: value) ++ fields
    modify fun j => { j with
      flags := i.flags
      scene := match stream with
        | some number => ((j.scene.writeStream number (lead ++ Print.joined words ++ [newline])).toOption).getD j.scene
        | none => j.scene }

/-- A simple command. -/
def runSimple (e : Engine) (tested : Bool) (assignments : List (Bytes × Word)) (words : List Word)
    (redirections : List Redirection) : Act Unit := do
  modify fun i => { i with outputStatus := 0 }
  let fields ← fieldsOfWords e false words
  let errors := (← get).scene.descriptors.lookup 2
  match fields with
  | [] =>
    let granted ← Act.keepingDescriptors (redirectAll e redirections)
    if granted then
      let settings ← assignAll e false assignments
      trace e errors settings []
      Act.setStatus (← get).outputStatus
    else Act.setStatus 2
  | name :: args =>
    let isSpecial := (Builtin.find? Builtin.special name).isSome
    let act : Act Nat := do
      letJobsRun fields
      runWords e tested true 64 (← get).programDirs name args
    let perform : Act Nat := do
      if isSpecial then
        trace e errors (← assignAll e false assignments) fields
        act
      else
        withVariables e assignments fun settings => do
          trace e errors settings fields
          act
    let lasting := name = Text.bytes "exec" && args.isEmpty
    let whole : Act Nat := do
      if ← redirectAll e redirections then perform
      else if isSpecial then throw .failed
      else return 2
    Act.setStatus (← if lasting then whole else Act.keepingDescriptors whole)

/-! ## Compound commands -/

/-- Run the stages of a pipeline in order, each with what the one before it printed. -/
def runStages (e : Engine) (tested : Bool) (input : Option Nat) : List Command → Act Nat
  | [] => return 0
  | stage :: rest => do
    let before := (← get).scene.descriptors
    let i ← get
    let scene := match input with
      | some stream => i.scene.assign 0 (some stream)
      | none => i.scene
    let (output, scene) : Option Nat × Scene :=
      if rest.isEmpty then (none, scene)
      else
        let (stream, scene) := scene.addStream (.pipe [] [])
        (some stream, scene.assign 1 (some stream))
    set { i with scene := scene }
    let ending ← apart e (e.command tested stage)
    modify fun i => { i with scene := { i.scene with descriptors := before } }
    let status ← settled ending
    if rest.isEmpty then return status else runStages e tested output rest

/-- How a round of a loop ended. -/
inductive Round
  | goOn
  | stop
deriving DecidableEq, Repr

/-- Do one round of a loop: turns that leave this loop end here. -/
def round (act : Act Unit) : Act Round := do
  match ← Act.caught act with
  | .ok () => return .goOn
  | .error (.leave n again) =>
    if 1 < n then throw (.leave (n - 1) again)
    Act.setStatus 0
    return if again then .goOn else .stop
  | .error turn => throw turn

/-- Do something inside one more loop. -/
def inLoop (act : Act Unit) : Act Unit := do
  modify fun i => { i with loops := i.loops + 1 }
  let result ← Act.caught act
  modify fun i => { i with loops := i.loops - 1 }
  match result with
  | .ok () => return ()
  | .error turn => throw turn

/-- The most rounds of a loop. -/
def roundLimit : Nat := 1000000

/-- After so many rounds, nobody reads any more what a loop writes for another program. -/
def patience : Nat := 100000

/-- Run a body as long as a condition holds; `status` is that of the last round. -/
def runRounds (e : Engine) (tested failing : Bool) (condition body : Command) (status : Nat) :
    (rounds : Nat) → Act Unit
  | 0 => modify fun i => { i with scene := i.scene.exhaust, status := status }
  | rounds + 1 => do
    if rounds + patience < roundLimit && (← get).scene.feedsPipe then throw (.killed 13)
    let goesOn ← round (e.command true condition)
    if goesOn = .stop then return ()
    let holds := ((← get).status = 0) != failing
    if !holds then Act.setStatus status
    else if (← round (e.command tested body)) = .goOn then
      runRounds e tested failing condition body (← get).status rounds

/-- Run a body for each of some values of a variable. -/
def runEach (e : Engine) (tested : Bool) (name : Bytes) (body : Command) : List Bytes → Act Unit
  | [] => return ()
  | value :: rest => do
    Act.assign name value false
    if (← round (e.command tested body)) = .goOn then runEach e tested name body rest

/-- The command of the first arm that has a pattern for a text. -/
def chosenArm (e : Engine) (subject : Bytes) : List (List Word × Command) → Act (Option Command)
  | [] => return none
  | (patterns, body) :: rest => do
    let mut found := false
    for word in patterns do
      if !found then
        let atoms ← expanded e word
        found := (Pattern.ofMarked (markedOf (← get).separators atoms)).fits subject
    if found then return some body else chosenArm e subject rest

/-- Remember the line of the command at work. -/
def atLine (line : Nat) : Act Unit :=
  modify fun i => { i with line := line }

/-- What one command does. -/
def runNode (e : Engine) (tested : Bool) : Command → Act Unit
  | .nothing => return ()
  | .simple line assignments words redirections => do
    atLine line
    runSimple e tested assignments words redirections
  | .pipeline stages => do
    let status ← runStages e tested none stages
    Act.setStatus status
  | .negated body => do
    e.command true body
    modify fun i => { i with status := if i.status = 0 then 1 else 0 }
  | .both first second => do
    e.command true first
    if (← get).status = 0 then e.command tested second
  | .either first second => do
    e.command true first
    if (← get).status != 0 then e.command tested second
  | .sequence steps => steps.forM (e.command tested)
  | .background body => do
    let (pid, work) ← detached e do
      if ← redirect e (.file 0 "<" [.text (Text.bytes "/dev/null") true]) then e.command false body
    modify fun i =>
      let number := (i.jobs.foldl (fun n job => max n job.number) 0) + 1
      { i with jobs := ⟨number, pid, .waiting work⟩ :: i.jobs, lastJob := some pid, status := 0 }
  | .redirected line (.subshell _ body) redirections => do
    atLine line
    let ending ← apart e do
      if ← redirectAll e redirections then e.command tested body else throw .failed
    Act.setStatus (← settled ending)
  | .redirected line body redirections => do
    atLine line
    Act.keepingDescriptors do
      if ← redirectAll e redirections then e.command tested body else Act.setStatus 2
  | .subshell line body => do
    atLine line
    let ending ← apart e (e.command tested body)
    Act.setStatus (← settled ending)
  | .branch condition success failure => do
    e.command true condition
    if (← get).status = 0 then e.command tested success
    else
      Act.setStatus 0
      e.command tested failure
  | .loop failing condition body => inLoop (runRounds e tested failing condition body 0 roundLimit)
  | .each line name words body => do
    atLine line
    let values ← match words with
      | some words => do
        let fields ← words.mapM (fieldsOf e)
        pure fields.flatten
      | none => do pure (← get).args
    Act.setStatus 0
    inLoop (runEach e tested name body values)
  | .choice line subject arms => do
    atLine line
    let text ← textOf e subject
    match ← chosenArm e text arms with
    | none => Act.setStatus 0
    | some body =>
      Act.setStatus 0
      e.command tested body
  | .define name body =>
    modify fun i => { i with functions := (name, body) :: i.functions.filter (·.1 != name), status := 0 }

/-- Whether a failure of a command may end the script, by the kind of the command. -/
def isWatched : Command → Bool
  | .simple .. | .pipeline _ | .subshell .. | .background _ | .redirected _ (.subshell ..) _ => true
  | _ => false

/-- Run a command, and meet what it leads to: the end of a script that goes on only as long as all goes well, and
signals. -/
def runCommand (e : Engine) (tested : Bool) (c : Command) : Act Unit := do
  if !(← get).has 'n' then runNode e tested c
  let i ← get
  if isWatched c && !tested && i.has 'e' && i.status != 0 then throw (.finish i.status)
  deliver e

/-- Run a script line by line, and with `shown` show the lines as they are read if that is switched on. `fuel` is more
than its length. -/
def runLines (e : Engine) (tested shown : Bool) : (fuel : Nat) → (line : Nat) → Source → Act Unit
  | 0, _, _ => return ()
  | fuel + 1, line, text => do
    if text.isEmpty then return ()
    let i ← get
    let tell (read : Source) : Act Unit :=
      modify fun i => if shown && i.has 'v' then { i with scene := i.scene.complain read.bytes } else i
    match parseLine i.aliases text line with
    | .error mistake =>
      tell text
      modify fun i => { i with line := mistake.line }
      Act.failText ("Syntax error: " ++ mistake.fault.text)
    | .ok (c, rest, line) =>
      tell (text.take (text.length - rest.length))
      e.command tested c
      runLines e tested shown fuel line rest

/-- Run a text as a script, and with `shown` show it line by line if that is switched on. -/
def runShown (e : Engine) (tested shown : Bool) (text : Bytes) : Act Unit :=
  let source := Source.ofBytes (text.filter (· != 0))
  runLines e tested shown (source.length + 1) 1 source

/-- Run a text as a script. -/
def runText (e : Engine) (tested : Bool) (text : Bytes) : Act Unit :=
  runShown e tested false text

end LineShell.Host.Script
