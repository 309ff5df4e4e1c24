import LineShell.Userland.Script.Starters
import LineShell.Userland.Utility.Awk
import LineShell.Userland.Utility.Condition
import LineShell.Userland.Utility.Date
import LineShell.Userland.Utility.Files.Look
import LineShell.Userland.Utility.Files.Transfer
import LineShell.Userland.Utility.Filters.Columns
import LineShell.Userland.Utility.Filters.Counting
import LineShell.Userland.Utility.Filters.Dumping
import LineShell.Userland.Utility.Filters.Encoding
import LineShell.Userland.Utility.Filters.Filling
import LineShell.Userland.Utility.Filters.Replacing
import LineShell.Userland.Utility.Filters.Sections
import LineShell.Userland.Utility.Filters.Sorted
import LineShell.Userland.Utility.Filters.Sorting
import LineShell.Userland.Utility.Filters.Splitting
import LineShell.Userland.Utility.Formula
import LineShell.Userland.Utility.Gathering
import LineShell.Userland.Utility.Identity
import LineShell.Userland.Utility.Scaling
import LineShell.Userland.Utility.Search.Differences
import LineShell.Userland.Utility.Search.Find
import LineShell.Userland.Utility.Search.Grep
import LineShell.Userland.Utility.Search.Sed

/-!
# The utilities of the system

`Utility.all` lists the programs that need nothing but the files, their input and their arguments, `Utility.starting`
those that may start others.
-/

namespace LineShell.Host

namespace Utility

/-- A utility that does nothing that could be noticed, and ends with a status. -/
def idle (status : Nat) : Utility := fun _ => return status

/-- A utility that complains under the name of another one. -/
def named (title : String) (utility : Utility) : Utility := fun args => do
  modify fun s => { s with title := Text.bytes title }
  utility args

/-- How `printf` is done by a program. -/
def formatRules : Print.FormatRules :=
  { escapes := { hexadecimal := true, characters := true }, precision := .extended, builtin := false, bad := 1 }

/-- Waits for some time. -/
def sleep : Utility := withOptions {} 1 fun g => do
  if g.operands.isEmpty then missingOperand 1
  else
    let wrong := g.operands.filter fun word => (Script.Starters.time? word).isNone
    for word in wrong do
      complain (Text.bytes "invalid time interval " ++ Quoted.curly word)
    if !wrong.isEmpty then
      referToHelp
      return 1
    else
      let time := (g.operands.filterMap Script.Starters.time?).foldl (· + ·) 0
      let s ← get
      set (s.wait time)
      return match (s.wait time).expired? with
        | some signal => killedBy signal
        | none => 0

def all : List (String × Utility) :=
  [("true", idle 0), ("false", idle 1), ("sleep", sleep), ("sync", idle 0), ("chown", idle 0), ("chgrp", idle 0),
    ("echo", Print.plainEcho), ("printf", Print.formatted formatRules), ("seq", Print.seq), ("yes", Print.yes),
    ("factor", Print.factor), ("basename", Print.basename), ("dirname", Print.dirname),
    ("test", Condition.test .program), ("[", Condition.bracket .program), ("mkdir", Files.mkdir),
    ("rmdir", Files.rmdir), ("touch", Files.touch), ("truncate", Files.truncate), ("mkfifo", Files.mkfifo),
    ("mktemp", Files.mktemp), ("rm", Files.rm), ("unlink", Files.unlink), ("ln", Files.ln), ("link", Files.link),
    ("mv", Files.mv), ("cp", Files.cp), ("install", Files.install), ("chmod", Files.chmod),
    ("stat", Files.stat), ("readlink", Files.readlink), ("realpath", Files.realpath), ("du", Files.du),
    ("cat", Filters.cat), ("tac", Filters.tac), ("tee", Filters.tee), ("head", Filters.head), ("tail", Filters.tail),
    ("dd", Filters.dd), ("csplit", Sections.csplit), ("grep", Search.grep none),
    ("egrep", named "grep" (Search.grep (some 'E'))), ("fgrep", named "grep" (Search.grep (some 'F'))),
    ("sed", Edits.sed),
    ("wc", Filters.wc), ("nl", Filters.nl), ("sort", Sorting.sort), ("uniq", Sorted.uniq), ("comm", Sorted.comm),
    ("join", Sorted.join), ("tsort", Sorted.tsort), ("shuf", Sorted.shuf), ("cut", Columns.cut),
    ("paste", Columns.paste),
    ("fold", Columns.fold), ("fmt", Filling.fmt), ("numfmt", Scaling.numfmt),
    ("expand", Columns.expand), ("unexpand", Columns.unexpand),
    ("rev", named "rev" Columns.rev),
    ("tr", Replacing.tr), ("od", Dump.od), ("base64", Encoding.encoder .base64),
    ("base32", Encoding.encoder .base32), ("basenc", Encoding.basenc), ("cksum", Encoding.cksum),
    ("cmp", Comparing.cmp), ("diff", Comparing.diff), ("sum", Encoding.sum), ("expr", Formula.expr),
    ("date", Dates.date),
    ("id", Identity.id), ("whoami", Identity.whoami), ("logname", Identity.logname), ("groups", Identity.groups),
    ("uname", Identity.uname), ("arch", Identity.arch), ("tty", Identity.tty)] ++ Encoding.digesters

def starting : List (String × (Starter → Utility)) :=
  [("ls", Files.ls), ("dir", Files.dir), ("vdir", Files.vdir), ("split", Filters.split),
    ("pwd", fun starter => Files.pwd starter.environment), ("find", Finding.find),
    ("xargs", Gathering.xargs), ("which", Identity.which), ("awk", Awk.awk), ("mawk", Awk.awk), ("nawk", Awk.awk)]

end Utility

end LineShell.Host
