import LineShell.Userland.Script.Launch

/-!
# A system with programs on it

`Disk.inhabited` makes the files of a disk a `HostSystem` on which the utilities run; `Disk.fresh` is a disk with the
utilities installed and an empty directory to work in.
-/

namespace LineShell.Host

namespace Disk

/-- How deeply scripts may be nested. -/
def levelLimit : Nat := 2000

/-- What programs are told when the kernel starts them. -/
def environment : List (Bytes × Bytes) :=
  [(Text.bytes "HOME", Text.bytes "/root"), (Text.bytes "PATH", Script.Interpreter.usualDirs)]

/-- Start a program in a directory. Neither may be missing, no text may hold a NUL, and a file has to be executable and
to name its interpreter. -/
def spawn (d : Disk) (program : String) (args : List String) (dir : String) (passed : Nat) (input : Bytes) :
    Option (Child × Disk) :=
  match d.locate? [] (Text.bytes dir) with
  | none => none
  | some place =>
    if (d.entries? place.id).isNone || args.any fun arg => (Text.bytes arg).contains 0 then none
    else
      let scene : Scene := { commons := { disk := d, input := input, passed := passed }, dir := place }
      let launch : Script.Launch :=
        { path := Text.bytes program, name := Text.bytes program, args := args.map Text.bytes, environment }
      match (Script.engine levelLimit).start launch scene with
      | .error _ => none
      | .ok (ending, scene) =>
        some ({ ending := ending, printed := scene.shown, unread := scene.commons.input }, scene.disk)

/-- The files of a disk as a system on which its programs start. -/
def inhabited : HostSystem Disk :=
  system spawn

/-! ## A fresh system -/

/-- The path of the directory that sessions work in. -/
def workDir : String :=
  "/tmp/root"

/-- The users of a fresh system. -/
def users : String :=
  "root:x:0:0:root:/root:/bin/bash\ndaemon:x:1:1:daemon:/usr/sbin:/usr/sbin/nologin\n" ++
  "bin:x:2:2:bin:/bin:/usr/sbin/nologin\nsys:x:3:3:sys:/dev:/usr/sbin/nologin\n" ++
  "sync:x:4:65534:sync:/bin:/bin/sync\ngames:x:5:60:games:/usr/games:/usr/sbin/nologin\n" ++
  "man:x:6:12:man:/var/cache/man:/usr/sbin/nologin\nlp:x:7:7:lp:/var/spool/lpd:/usr/sbin/nologin\n" ++
  "mail:x:8:8:mail:/var/mail:/usr/sbin/nologin\nnews:x:9:9:news:/var/spool/news:/usr/sbin/nologin\n" ++
  "uucp:x:10:10:uucp:/var/spool/uucp:/usr/sbin/nologin\nproxy:x:13:13:proxy:/bin:/usr/sbin/nologin\n" ++
  "www-data:x:33:33:www-data:/var/www:/usr/sbin/nologin\nbackup:x:34:34:backup:/var/backups:/usr/sbin/nologin\n" ++
  "list:x:38:38:Mailing List Manager:/var/list:/usr/sbin/nologin\nirc:x:39:39:ircd:/run/ircd:/usr/sbin/nologin\n" ++
  "_apt:x:42:65534::/nonexistent:/usr/sbin/nologin\n" ++
  "nobody:x:65534:65534:nobody:/nonexistent:/usr/sbin/nologin\n"

/-- The groups of a fresh system. -/
def groups : String :=
  "root:x:0:\ndaemon:x:1:\nbin:x:2:\nsys:x:3:\nadm:x:4:\ntty:x:5:\ndisk:x:6:\nlp:x:7:\nmail:x:8:\nnews:x:9:\n" ++
  "uucp:x:10:\nman:x:12:\nproxy:x:13:\nkmem:x:15:\ndialout:x:20:\nfax:x:21:\nvoice:x:22:\ncdrom:x:24:\n" ++
  "floppy:x:25:\ntape:x:26:\nsudo:x:27:\naudio:x:29:\ndip:x:30:\nwww-data:x:33:\nbackup:x:34:\noperator:x:37:\n" ++
  "list:x:38:\nirc:x:39:\nsrc:x:40:\nshadow:x:42:\nutmp:x:43:\nvideo:x:44:\nsasl:x:45:\nplugdev:x:46:\nstaff:x:50:\n" ++
  "games:x:60:\nusers:x:100:\nnogroup:x:65534:\n"

/-- The directories of a fresh system with their modes, each after the one it is in. -/
def freshDirs : List (String × Nat) :=
  let usual (paths : List String) : List (String × Nat) := paths.map fun path => (path, Node.usualDirMode)
  usual ["/boot", "/dev", "/dev/shm", "/etc", "/home", "/media", "/mnt", "/opt"] ++
  [("/proc", 0x16d), ("/proc/self", 0x16d), ("/proc/self/fd", 0x140), ("/proc/sys", 0x16d),
    ("/proc/sys/kernel", 0x16d), ("/root", 0x1c0)] ++
  usual ["/run", "/srv", "/sys"] ++ [("/tmp", 0x3ff)] ++
  usual ["/usr", "/usr/bin", "/usr/games", "/usr/include", "/usr/lib", "/usr/lib64", "/usr/libexec", "/usr/local",
    "/usr/local/bin", "/usr/local/etc", "/usr/local/games", "/usr/local/include", "/usr/local/lib", "/usr/local/sbin",
    "/usr/local/share", "/usr/local/src", "/usr/sbin", "/usr/share", "/usr/src", "/var", "/var/backups", "/var/cache",
    "/var/lib", "/var/local", "/var/log", "/var/mail", "/var/opt", "/var/spool"] ++
  [("/var/tmp", 0x3ff), (workDir, Node.usualDirMode)]

/-- The other files of a fresh system. -/
def freshFiles : List (String × Node) :=
  let text (content : String) : Node := .file (.ofBytes (Text.bytes content)) Node.usualMode
  let report (content : String) : Node := .report (Text.bytes content)
  let link (target : String) : Node := .link (Text.bytes target)
  [("/bin", link "usr/bin"), ("/lib", link "usr/lib"), ("/lib64", link "usr/lib64"), ("/sbin", link "usr/sbin"),
    ("/var/run", link "/run"), ("/var/lock", link "/run/lock"),
    ("/dev/null", .device .null), ("/dev/zero", .device .zero), ("/dev/full", .device .full),
    ("/dev/random", .device .random), ("/dev/urandom", .device .random), ("/dev/tty", .device .absent),
    ("/dev/stdin", link "/proc/self/fd/0"), ("/dev/stdout", link "/proc/self/fd/1"),
    ("/dev/stderr", link "/proc/self/fd/2"), ("/dev/fd", link "/proc/self/fd"),
    ("/etc/group", text groups), ("/etc/hostname", text "host\n"), ("/etc/hosts", text "127.0.0.1\tlocalhost\n"),
    ("/etc/passwd", text users), ("/etc/debian_version", text "12.11\n"),
    ("/proc/version", report ""), ("/proc/sys/kernel/ostype", report "Linux\n"),
    ("/usr/bin/dash", .tool "sh"), ("/usr/bin/sh", link "dash")] ++
  ((Script.launchers.map (·.1) ++ Utility.all.map (·.1)).map fun name => ("/usr/bin/" ++ name, Node.tool name))

/-- A system with its utilities and an empty directory to work in. -/
def fresh : Disk :=
  let nodes := freshDirs.map (fun (path, mode) => (path, Node.dir [] mode)) ++ freshFiles
  let bare : Disk := { nodes := #[.emptyDir], stamps := #[epoch] }
  let full := nodes.foldl (fun (d : Disk) (entry : String × Node) =>
    match d.add [] (Text.bytes entry.1) entry.2 with
    | .ok (_, d) => d
    | .error _ => d) bare
  { full with moments := 0 }

end Disk

end LineShell.Host
