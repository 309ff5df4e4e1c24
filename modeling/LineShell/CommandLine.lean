import LineShell.Builtin.Usage
import LineShell.Editor
import LineShell.Host.Kernel
import LineShell.Shell
import LineShell.Sim.Kernel
import LineShell.Text.Integer

/-!
# The command line of the shell

`Options.ofArguments` reads the options, and `CommandLine.run` is a whole session: standard input is run through a shell
on the kernel in memory (`--sim`) or on a host, and the answer is what was printed and the exit code.
-/

namespace LineShell

/-- How a session is set up. -/
structure Options where
  prompt : String := "$ "
  prefixes : ExecPrefixes := .standard
  /-- Bytes asked for by each read of the console. -/
  readChunk : Nat := 64
  /-- Whether lines come from the line editor. -/
  edit : Bool := false
  /-- Whether the kernel is the one in memory. -/
  sim : Bool := false
deriving DecidableEq, Repr

namespace Options

/-- What is wrong with a batch size. -/
def checkChunk (value : String) : Except String Unit :=
  match Text.Integer.read 0 (wordLimit - 1) value with
  | .ok _ => .ok ()
  | .error e => .error e.message

/-- The names of the log levels; they also go by their numbers, counted from 1. -/
def levels : List String :=
  ["error", "warn", "info", "debug", "trace"]

/-- What is wrong with a log level. -/
def checkLevel (value : String) : Except String Unit :=
  let byNumber :=
    match Text.Integer.read 0 (wordLimit - 1) value with
    | .ok n => decide (1 ≤ n ∧ n ≤ levels.length)
    | .error _ => false
  if byNumber || levels.contains (String.ofList (value.toList.map Char.toLower)) then .ok ()
  else
    .error
      "error parsing level: expected one of \"error\", \"warn\", \"info\", \"debug\", \"trace\", or a number 1-5"

def usage : Usage where
  options := [
    ("--prompt", .value false fun _ => .ok ()),
    ("--exec-prefix", .value true fun _ => .ok ()),
    ("--read-chunk", .value false checkChunk),
    ("--edit", .nothing),
    ("--sim", .nothing),
    ("--log", .value false checkLevel)]
  operands := false
  help := "Usage: ysh [--prompt <prompt>] [--exec-prefix <exec-prefix...>] [--read-chunk <read-chunk>] [--edit] " ++
    "[--sim] [--log <log>]\n\nInteractive shell for the yos syscall surface.\n\nOptions:\n" ++
    "  --prompt          prompt printed before every command\n" ++
    "  --exec-prefix     prefix marking a command as an executable path; repeat to\n" ++
    "                    replace the defaults\n" ++
    "  --read-chunk      bytes requested from the console per read\n" ++
    "  --edit            read commands through a line editor with history\n" ++
    "  --sim             run against the in-memory kernel with the bundled programs\n" ++
    "                    installed\n" ++
    "  --log             log level written to stderr\n" ++
    "  --help, help      display usage information\n"

/-- The set-up that arguments ask for. Prefixes that are given take the place of the standard ones. -/
def ofArguments (given : Arguments) : Options where
  prompt := ((given.valuesOf "--prompt").head?).getD "$ "
  prefixes := if given.has "--exec-prefix" then ⟨given.valuesOf "--exec-prefix"⟩ else .standard
  readChunk :=
    match (given.valuesOf "--read-chunk").head?.map (Text.Integer.read 0 (wordLimit - 1)) with
    | some (.ok n) => n.toNat
    | _ => 64
  edit := given.has "--edit"
  sim := given.has "--sim"

/-- The shell that the options describe. -/
def shell (o : Options) : Shell where
  input := if o.edit then .editor Editor.plain [] else .console (.ofChunk o.readChunk)
  builtins := .standard Usage.builtins
  prefixes := o.prefixes
  prompt := o.prompt

end Options

/-- What a session printed, and its exit code. -/
structure SessionEnd where
  code : ExitCode
  stdout : Bytes
  stderr : Bytes := []
deriving DecidableEq, Repr

namespace CommandLine

/-- No machine has this many bytes for one buffer. -/
def memoryLimit : Nat := 0x10000000000

/-- The exit code of a process that broke off. -/
def brokenOff : ExitCode := 101

/-- The exit code of a process that gave up because there is no memory: that of its signal, 6, and 128. -/
def outOfMemory : ExitCode := 134

/-- Run a shell up to the end of its input, and end the process with success. A process whose batch is no buffer breaks
off at its first read, after the prompt, and one that asks for more than there is gives up; one whose line editor breaks
off does so there. -/
def session {σ : Type} (K : Kernel σ) (o : Options) (state : σ) (input : Bytes) : Option SessionEnd :=
  if !o.edit && memoryLimit ≤ o.readChunk then
    some { code := if Reader.bufferLimit ≤ o.readChunk then brokenOff else outOfMemory
           stdout := Text.bytes o.prompt }
  else
    let start : Machine σ := { terminal := .ofInput input, state := state }
    match o.shell.run K start with
    | some (_, m) => some { code := .success, stdout := m.terminal.output }
    | none =>
      (o.shell.brokenIn K (K.supply start) (o.shell.rounds K start) start).map fun m =>
        { code := brokenOff, stdout := m.terminal.output }

/-- Run the shell with these arguments and this input on a host. There is no result if the session does not end. -/
def run {φ : Type} (S : Host.HostSystem φ) (host : Host φ) (words : List String) (input : Bytes) :
    Option SessionEnd :=
  match Options.usage.read words with
  | .error (.helpRequested text) => some { code := .success, stdout := Text.bytes (text ++ "\n") }
  | .error (.invalid e) =>
    some { code := .failure, stdout := [],
           stderr := Text.bytes (e.message ++ "\nRun ysh --help for more information.\n") }
  | .ok given =>
    let o := Options.ofArguments given
    if o.sim then session (Sim.kernel Sim.deep) o (Sim.booted .standard) input
    else session (Host.kernel S) o host input

end CommandLine

end LineShell
