import LineShell.Userland.Awk.Run

/-!
# Programs on records, from the command line

`awk` runs the program that its first operand is, or that files hold, on the inputs that its other operands name.
-/

namespace LineShell.Host

namespace Awk

/-- What the options ask for. -/
structure Invocation where
  separator : Option Bytes := none
  settings : List (Bytes × Bytes) := []
  /-- The files that the program is read from. -/
  files : List Bytes := []
  operands : List Bytes := []
  /-- The longer options that mean nothing. -/
  vacuous : List Bytes := []

/-- Why nothing is run. -/
inductive InvocationFault
  | unknown (word : Bytes)
  | valueMissing (letter : Char)
  | setting (word : Bytes)
  /-- Nothing is wrong, but something is to be told. -/
  | version
  | help
deriving DecidableEq, Repr

def InvocationFault.text : InvocationFault → Bytes
  | unknown word => Text.bytes "not an option: " ++ word
  | valueMissing letter => Text.bytes "option -" ++ byte letter :: Text.bytes " lacks argument"
  | setting word => Text.bytes "improper assignment: -v " ++ word
  | version | help => []

/-- The words that a longer option may be, and whether they take a value. -/
def longOptions : List String :=
  ["version", "dump", "help", "interactive", "exec", "random", "sprintf", "posix_space", "usage"]

/-- The longer option that a word begins. -/
def longOption? (word : Bytes) : Option String :=
  let name := word.takeWhile (· != byte '=')
  if name.isEmpty then none
  else longOptions.find? fun option => (name.map Acting.lowerByte).isPrefixOf (Text.bytes option)

/-- Read the words behind the name of the program. -/
def readInvocation (v : Invocation) : List Bytes → Except InvocationFault Invocation
  | [] => .ok v
  | word :: rest =>
    let long (name : Bytes) (isWhole : Bool) (rest : List Bytes)
        (next : Invocation → Except InvocationFault Invocation) : Except InvocationFault Invocation :=
      match longOption? name with
      | some "version" => .error .version
      | some "help" | some "usage" => .error .help
      | some "exec" =>
        match rest with
        | file :: operands => .ok { v with files := v.files ++ [file], operands := operands }
        | [] => .error (.valueMissing 'W')
      | some _ => next v
      | none => if isWhole then .error (.unknown word) else next { v with vacuous := v.vacuous ++ [name] }
    let add (letter : Char) (value : Bytes) : Except InvocationFault Invocation :=
      match letter with
      | 'F' => .ok { v with separator := some (Lexer.withoutEscapes (value.length + 1) value) }
      | 'f' => .ok { v with files := v.files ++ [value] }
      | _ =>
        match Acting.setting? value with
        | some pair => .ok { v with settings := v.settings ++ [pair] }
        | none => .error (.setting value)
    match word with
    | 45 :: 45 :: name =>
      if name.isEmpty then .ok { v with operands := rest } else long name true rest fun v => readInvocation v rest
    | 45 :: b :: more =>
      let letter := Char.ofNat b.toNat
      if letter = 'W' then
        if !more.isEmpty then long more false rest fun v => readInvocation v rest
        else
          match rest with
          | name :: rest => long name false rest fun v => readInvocation v rest
          | [] => .error (.valueMissing 'W')
      else if !(['F', 'f', 'v'].contains letter) then .error (.unknown word)
      else if !more.isEmpty then
        match add letter more with
        | .ok v => readInvocation v rest
        | .error fault => .error fault
      else
        match rest with
        | value :: rest =>
          match add letter value with
          | .ok v => readInvocation v rest
          | .error fault => .error fault
        | [] => .error (.valueMissing letter)
    | _ => .ok { v with operands := word :: rest }

def versionText : String :=
  "mawk 1.3.4 20200120\n\nrandom-funcs:       srandom/random\nregex-funcs:        internal\n" ++
    "compiled limits:\nsprintf buffer      8192\nmaximum-integer     2147483647\n"

def helpText : String :=
  "Usage: mawk [Options] [Program] [file ...]\n\nProgram:\n" ++
    "    The -f option value is the name of a file containing program text.\n" ++
    "    If no -f option is given, a \"--\" ends option processing; the following\n" ++
    "    parameters are the program text.\n\nOptions:\n" ++
    "    -f program-file  Program  text is read from file instead of from the\n" ++
    "                     command-line.  Multiple -f options are accepted.\n" ++
    "    -F value         sets the field separator, FS, to value.\n" ++
    "    -v var=value     assigns value to program variable var.\n" ++
    "    --               unambiguous end of options.\n\n" ++
    "    Implementation-specific options are prefixed with \"-W\".  They can be\n    abbreviated:\n\n" ++
    "    -W version       show version information and exit.\n" ++
    "    -W dump          show assembler-like listing of program and exit.\n" ++
    "    -W help          show this message and exit.\n" ++
    "    -W interactive   set unbuffered output, line-buffered input.\n" ++
    "    -W exec file     use file as program as well as last option.\n" ++
    "    -W random=number set initial random seed.\n" ++
    "    -W sprintf=number adjust size of sprintf buffer.\n" ++
    "    -W posix_space   do not consider \"\\n\" a space.\n" ++
    "    -W usage         show this message and exit.\n"

/-- The program: its text, the file it is in if there is one, and the operands that are left. -/
def sourceOf (v : Invocation) : StateM Scene (Except Unit (Bytes × List Bytes)) := do
  match v.files, v.operands with
  | [], [] => return .error ()
  | [], text :: operands => return .ok (text ++ [newline], operands)
  | files, operands =>
    let mut texts : List Bytes := []
    for path in files do
      match ← Inputs.load path with
      | .ok text => texts := (text ++ [newline]) :: texts
      | .error fault =>
        complain (Text.bytes "cannot open " ++ path ++ Text.bytes (" (" ++ fault.text ++ ")"))
        return .error ()
    return .ok (texts.reverse.flatten, operands)

/-- Runs a program on records. -/
def awk (starter : Starter) : Utility := fun args => do
  modify fun s => { s with title := Print.baseName s.title }
  match readInvocation {} args with
  | .error .version =>
    put (Text.bytes versionText)
    return 0
  | .error .help =>
    put (Text.bytes helpText)
    return 0
  | .error fault =>
    complain fault.text
    return 2
  | .ok v =>
    for name in v.vacuous do
      complain (Text.bytes "vacuous option: -W " ++ name)
    if v.files.isEmpty && v.operands.isEmpty then
      if args.isEmpty then modify fun s => s.complain (Text.bytes helpText)
      return 0
    else
      match ← sourceOf v with
      | .error _ => return 2
      | .ok (text, operands) =>
        let separator := v.separator.map fun text => (Text.bytes "FS", text)
        let settings := v.settings ++ separator.toList
        match Program.read (settings.map (·.1)) text with
        | .ok program => program.run starter settings (← get).title operands
        | .error faults =>
          let lead : Bytes := match v.files with
            | [] => []
            | path :: _ => path ++ Text.bytes ": "
          for fault in faults do
            complain (lead ++ fault)
          return 2

end Awk

end LineShell.Host
