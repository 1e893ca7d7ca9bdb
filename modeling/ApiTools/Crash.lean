import ApiTools.Action.Basic
import ApiTools.Value.Date

set_option autoImplicit false

/-!
# Crash logs

What was not reckoned with is written to a file in the user's directory for data, and the user is
told where it is.
-/

namespace ApiTools.Crash

/-- The name of the program, under which it keeps its data. -/
def programName : String := "specmcp"

def withoutEndSlashes (s : String) : String :=
  String.ofList (s.toList.reverse.dropWhile (· = '/')).reverse

/-- The home directory that the environment names. -/
def homeOf (setting : Option String) : Path :=
  let s := withoutEndSlashes (setting.getD "/root")
  Path.ofText (if s.isEmpty then "/" else s)

/-- The directory for the data of all programs. -/
def dataHome : Action Path := do
  match ← Action.askFilled "XDG_DATA_HOME" with
  | some s => return Path.ofText s
  | none => return (homeOf (← Action.ask "HOME")).join (Path.ofText ".local/share")

/-- The directory for the data of this program, which is made if it is missing. -/
def dataDirectory : Action (Attempt Path) := do
  let path := (← dataHome).join (Path.ofText programName)
  return (← Action.makeDirectories path .done).map fun _ => path

/-- A point in time, given in seconds since the beginning of 1970, as it stands in the name of a
crash log. -/
def stamp (seconds : Nat) : String :=
  let d := Date.ofDays (seconds / 86400)
  let s := seconds % 86400
  Date.digits 4 d.year ++ Date.digits 2 d.month ++ Date.digits 2 d.day ++ "-"
    ++ Date.digits 2 (s / 3600) ++ Date.digits 2 (s / 60 % 60) ++ Date.digits 2 (s % 60)

def logPath (directory : Path) (time : String) : Path :=
  directory.join { names := ["logs", "crash-" ++ time ++ ".log"] }

/-- Writes a report into a crash log, and gives its path. -/
def record (report : String) : Action (Attempt Path) := do
  match ← dataDirectory with
  | .error reason => return .error reason
  | .ok directory =>
    let path := logPath directory (← Action.time .done)
    match ← Action.makeDirectories path.parent .done with
    | .error reason => return .error reason
    | .ok _ => return (← Action.save path report .done).map fun _ => path

end ApiTools.Crash
