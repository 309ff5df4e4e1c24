import LineShell.Userland.Scene
import LineShell.Userland.Utility.Options

/-!
# Users and groups

The users of a system are the lines of one file and its groups those of another one: a name, a sign, a number, and
what else there is to say, with colons between. `Accounts.users` and `Accounts.groups` read them.
-/

namespace LineShell.Host

/-- A user or a group. -/
structure Account where
  name : Bytes
  number : Nat
  /-- The group of a user. -/
  group : Nat := 0
  /-- The users that belong to a group in addition to those whose group it is. -/
  members : List Bytes := []
deriving DecidableEq, Repr

namespace Accounts

/-- The lines of a file, each cut at its colons. -/
def entries (s : Scene) (path : String) : List (List Bytes) :=
  (((s.disk.find? [] (Text.bytes path)).bind Node.content?).getD []).splitOn newline |>.filterMap fun line =>
    if line.isEmpty then none else some (line.splitOn (byte ':'))

def users (s : Scene) : List Account :=
  (entries s "/etc/passwd").filterMap fun
    | name :: _ :: id :: group :: _ =>
      match number? id, number? group with
      | some id, some group => some { name := name, number := id, group := group }
      | _, _ => none
    | _ => none

def groups (s : Scene) : List Account :=
  (entries s "/etc/group").filterMap fun
    | name :: _ :: id :: rest =>
      (number? id).map fun id =>
        { name := name, number := id,
          members := ((rest.headD []).splitOn (byte ',')).filter fun member => !member.isEmpty }
    | _ => none

/-- The account with a name. -/
def named? (all : List Account) (name : Bytes) : Option Account :=
  all.find? fun account => account.name = name

/-- The name that belongs to a number, or the number where none does. -/
def nameOf (all : List Account) (id : Nat) : Bytes :=
  match all.find? fun account => account.number = id with
  | some account => account.name
  | none => decimal id

/-- The groups that a user belongs to: first the one of its own. -/
def groupsOf (s : Scene) (user : Account) : List Nat :=
  let more := ((groups s).filter fun group => group.members.contains user.name).map (·.number)
  user.group :: more.filter (· != user.group)

end Accounts

end LineShell.Host
