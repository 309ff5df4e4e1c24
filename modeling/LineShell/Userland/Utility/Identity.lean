import LineShell.Userland.Accounts
import LineShell.Userland.Utility.Child
import LineShell.Userland.Utility.Print

/-!
# Who and where

The utilities that tell who runs them (`id`, `whoami`, `groups`, `logname`), on what (`uname`, `arch`, `tty`), and where
programs are (`which`). All programs are run by the first user.
-/

namespace LineShell.Host

namespace Identity

/-! ## Users -/

/-- The user with a name or a number. -/
def user? (s : Scene) (word : Bytes) : Option Account :=
  let users := Accounts.users s
  let numbered (digits : Bytes) : Option Account :=
    (number? digits).bind fun n => users.find? fun account => account.number = n
  match word with
  | 43 :: digits => numbered digits
  | _ => (Accounts.named? users word).orElse fun _ => numbered word

/-- The user that runs all programs. -/
def owner (s : Scene) : Account :=
  ((Accounts.users s).find? fun account => account.number = 0).getD { name := Text.bytes "root", number := 0 }

/-- What is asked for about a user. -/
inductive Asked
  | all
  | user
  | group
  | groups
deriving DecidableEq, Repr

/-- What is wrong with the options. -/
inductive IdentityFault
  | several
  | namesAlone
  | zeroAlone
  | context
deriving DecidableEq, Repr

def IdentityFault.text : IdentityFault → String
  | several => "cannot print \"only\" of more than one choice"
  | namesAlone => "cannot print only names or real IDs in default format"
  | zeroAlone => "option --zero not permitted in default format"
  | context => "--context (-Z) works only on an SELinux-enabled kernel"

/-- What options ask for. -/
def asked (g : Given) : Except IdentityFault Asked :=
  if g.has 'Z' then .error .context
  else
    match ['u', 'g', 'G'].filter g.has with
    | [] =>
      if g.has 'n' || g.has 'r' then .error .namesAlone
      else if g.has 'z' then .error .zeroAlone
      else .ok .all
    | ['u'] => .ok .user
    | ['g'] => .ok .group
    | ['G'] => .ok .groups
    | _ => .error .several

/-- A number with the name that belongs to it. -/
def numberAndName (all : List Account) (n : Nat) : Bytes :=
  decimal n ++ match all.find? fun account => account.number = n with
    | some account => byte '(' :: account.name ++ [byte ')']
    | none => []

/-- What is told of a user. -/
def told (s : Scene) (g : Given) (asked : Asked) (user : Account) : Bytes :=
  let users := Accounts.users s
  let groups := Accounts.groups s
  let shown (all : List Account) (n : Nat) : Bytes := if g.has 'n' then Accounts.nameOf all n else decimal n
  let between : Bytes := if g.has 'z' then [0] else [byte ' ']
  match asked with
  | .user => shown users user.number
  | .group => shown groups user.group
  | .groups => (((Accounts.groupsOf s user).map (shown groups)).intersperse between).flatten
  | .all =>
    Text.bytes "uid=" ++ numberAndName users user.number ++ Text.bytes " gid=" ++ numberAndName groups user.group ++
      Text.bytes " groups=" ++
      (((Accounts.groupsOf s user).map (numberAndName groups)).intersperse [byte ',']).flatten

def idTable : OptionTable :=
  { letters := "agnruzGZ",
    words := [("context", 'Z'), ("group", 'g'), ("groups", 'G'), ("name", 'n'), ("real", 'r'), ("user", 'u'),
      ("zero", 'z')] }

/-- Prints numbers and names of users and groups. -/
def id : Utility := withOptions idTable 1 fun g => do
  match asked g with
  | .error fault =>
    complainText fault.text
    return 1
  | .ok asked =>
    let s ← get
    let ending : Bytes := if g.has 'z' then [0] else [newline]
    if g.operands.isEmpty then
      put (told s g asked (owner s) ++ ending)
      return 0
    else
      forOperands g.operands fun word => do
        match user? s word with
        | some user =>
          put (told s g asked user ++ ending)
          return 0
        | none =>
          complain (Quoted.curly word ++ Text.bytes ": no such user")
          return 1

/-- Do something without operands. -/
def alone (status : Nat) (act : Given → StateM Scene Nat) (table : OptionTable) : Utility :=
  withOptions table status fun g => do
    match g.operands with
    | [] => act g
    | word :: _ => extraOperand word status

/-- Prints the name of the user. -/
def whoami : Utility := alone 1 (fun _ => do
  putLine (owner (← get)).name
  return 0) {}

/-- Prints the name that the user logged in by; there is none. -/
def logname : Utility := alone 1 (fun _ => do
  complainText "no login name"
  return 1) {}

/-- Prints the groups of users. -/
def groups : Utility := withOptions {} 1 fun g => do
  let s ← get
  let names (user : Account) : Bytes :=
    Print.joined ((Accounts.groupsOf s user).map (Accounts.nameOf (Accounts.groups s)))
  if g.operands.isEmpty then
    putLine (names (owner s))
    return 0
  else
    forOperands g.operands fun word => do
      match Accounts.named? (Accounts.users s) word with
      | some user =>
        putLine (word ++ Text.bytes " : " ++ names user)
        return 0
      | none =>
        complain (Quoted.curly word ++ Text.bytes ": no such user")
        return 1

/-! ## The system -/

/-- What the system is called, by the letters that ask for it. What it runs on has no other names. -/
def systemNames : List (Char × String) :=
  [('s', "Linux"), ('n', "host"), ('r', "6.1.0"), ('v', "#1 SMP"), ('m', "x86_64"), ('p', "unknown"),
    ('i', "unknown"), ('o', "GNU/Linux")]

def unameTable : OptionTable :=
  { letters := "asnrvmpio",
    words := [("all", 'a'), ("kernel-name", 's'), ("nodename", 'n'), ("kernel-release", 'r'), ("kernel-version", 'v'),
      ("machine", 'm'), ("processor", 'p'), ("hardware-platform", 'i'), ("operating-system", 'o'), ("sysname", 's'),
      ("release", 'r')] }

/-- Prints what the system is called. -/
def uname : Utility := alone 1 (fun g => do
  let asked := systemNames.filter fun (letter, name) =>
    if g.has 'a' then name != "unknown" else if g.options.isEmpty then letter = 's' else g.has letter
  putLine (Print.joined (asked.map fun (_, name) => Text.bytes name))
  return 0) unameTable

/-- Prints what the system runs on. -/
def arch : Utility := alone 1 (fun _ => do
  putLine (Text.bytes "x86_64")
  return 0) {}

/-- Prints the name of the terminal; there is none. -/
def tty : Utility := alone 2 (fun g => do
  if !g.has 's' then putLine (Text.bytes "not a tty")
  return 1) { letters := "s", words := [("silent", 's'), ("quiet", 's')] }

/-! ## Programs -/

/-- Whether a path leads to a program. -/
def isProgram (s : Scene) (path : Bytes) : Bool :=
  (s.find? path).any fun node => !node.isDir && node.isExecutable

/-- The paths of a program: itself if it is a path, else those in the directories that are searched. -/
def paths (s : Scene) (dirs : List Bytes) (word : Bytes) : List Bytes :=
  if word.contains Place.slash then [word].filter (isProgram s)
  else
    (dirs.map fun dir => (if dir.isEmpty then [byte '.'] else dir) ++ Place.slash :: word).filter (isProgram s)

/-- Prints where programs are. -/
def which (starter : Starter) : Utility := fun args => do
  let s ← get
  match OptionTable.readEarly { letters := "as" } args with
  | .error fault =>
    let letter := match fault with
      | .unknownLetter letter => letter
      | _ => byte '-'
    modify fun s => s.complain (Text.bytes "Illegal option -" ++ [letter, newline])
    putLine (Text.bytes "Usage: " ++ s.title ++ Text.bytes " [-as] args")
    return 2
  | .ok g =>
    let dirs := ((starter.environment.lookup (Text.bytes "PATH")).getD []).splitOn (byte ':')
    let status ← forOperands g.operands fun word => do
      let found := paths s dirs word
      for path in if g.has 'a' then found else found.take 1 do
        if !g.has 's' then putLine path
      return if found.isEmpty then 1 else 0
    return if g.operands.isEmpty then 1 else status

end Identity

end LineShell.Host
