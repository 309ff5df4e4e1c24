import LineShell.Userland.Utility.Complaint

/-!
# Programs that start programs

`Starter` is what such a program may call on: its environment, and a way to run another program to its end.
-/

namespace LineShell.Host

/-- The variables that a program is told of, in order. -/
abbrev Environment := List (Bytes × Bytes)

/-- What starts programs for another one. -/
structure Starter where
  environment : Environment
  /-- The signals that are ignored. -/
  ignored : List Nat := []
  /-- Run the program that the first word names on the other words, with some signals ignored. -/
  start : Environment → List Nat → List Bytes → Scene → Except Fault (Ending × Scene)

/-- A program that starts others: it may end as they do. -/
abbrev Launcher := Starter → List Bytes → StateM Scene Ending

namespace Starter

/-- The status for a program that does not run. -/
def failure (fault : Fault) : Nat :=
  if fault = .missing then 127 else 126

/-- Run a program in place of this one, or complain that it does not run. -/
def replace (starter : Starter) (environment : Environment) (ignored : List Nat) (lead : String) (quote : Bytes → Bytes)
    (words : List Bytes) : StateM Scene Ending := do
  match starter.start environment ignored words (← get) with
  | .ok (ending, s) =>
    set s
    return ending
  | .error fault =>
    complain (Text.bytes lead ++ quote (words.headD []) ++ Text.bytes (": " ++ fault.text))
    return .exited (Int32.ofNat (failure fault))

end Starter

/-- A number as the way a process ended. -/
def ended (status : Nat) : Ending :=
  .exited (Int32.ofNat status)

/-- The status that stands for an ending. -/
def statusOfEnding : Ending → Nat
  | .exited code => code.toInt.toNat
  | .killed signal => 128 + signal

/-- A launcher that ends with a status of its own. -/
def Launcher.ofStatus (act : Starter → Utility) : Launcher := fun starter args => do
  return ended (← act starter args)

end LineShell.Host
