import LineShell.Program
import LineShell.Text.Integer

/-!
# Programs that probe a kernel

Small programs that show what a process is given and what it may leave behind: its working directory (`pcwd`), its
words (`args`), a chosen exit code (`status`), a failure (`boom`), and processes started by processes, waited for
(`nest`) or not (`leave`).
-/

namespace LineShell.Program

/-- Print the working directory after leaving it for the root. -/
def pcwd : Program := fun _ _ =>
  Prog.currentDir.orFail fun dir =>
    (Prog.chdir "/").orFail fun () =>
      (Prog.write .stdout (Text.bytes dir) 0).orFail fun () => return .ok 7

/-- Fail. -/
def boom : Program := fun _ _ =>
  return .error (.context "outer" (.context "middle" (.other "inner")))

/-- End with the exit code that the first argument tells. -/
def status : Program := fun _ argv =>
  match argv[1]? with
  | none => return .ok 0
  | some text =>
    match Text.Integer.read (-0x80000000) 0x7fffffff text with
    | .error e => return .error (.other e.message)
    | .ok code => return .ok (Int32.ofInt code)

/-- Write every word on the error stream, and end with their number. -/
def args : Program := fun _ argv =>
  (Prog.write .stderr (Text.bytes (String.join (argv.map fun word => "[" ++ word ++ "]\n"))) 0).orFail fun () =>
    return .ok (Int32.ofNat argv.length)

/-- Start the program that the first argument names, with the arguments from there on. -/
def child (argv : List String) : Prog (Except SysError Pid) :=
  Prog.exec ((argv[1]?).getD "") argv.tail

/-- Run a child and end as it ended. -/
def nest : Program := fun _ argv =>
  (child argv).orFail fun pid =>
    (Prog.waitpid pid).orFail fun code => return .ok code

/-- Start a child, do not wait for it, and end with its identifier. -/
def leave : Program := fun _ argv =>
  (child argv).orFail fun pid => return .ok pid.raw.toInt32

/-- Every probe, by name. -/
def probes : List (String × Program) :=
  [("pcwd", pcwd), ("boom", boom), ("status", status), ("args", args), ("nest", nest), ("leave", leave)]

end LineShell.Program
