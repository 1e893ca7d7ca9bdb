import ApiTools.Command.Run

set_option autoImplicit false

/-!
# The program

Carries out an action in earnest. There is no connection to the web, so that every request for a
document there fails.
-/

namespace ApiTools

/-- A temporary file: its handle while it is open, and its path. -/
structure OpenTemporary where
  handle : Option IO.FS.Handle
  path : String

/-- Tries something, and gives the reason if it fails. -/
def tryOut {α : Type} (x : IO α) : IO (Attempt α) := do
  match ← x.toBaseIO with
  | .ok a => return .ok a
  | .error e => return .error (toString e)

def takeInput : IO Intake := do
  match ← tryOut (← IO.getStdin).readBinToEnd with
  | .error reason => return .failed reason
  | .ok bytes =>
    match String.fromUTF8? bytes with
    | some s => return .text s
    | none => return .notText

def lookAt (p : Path) : IO (Attempt Sight) := do
  match ← (IO.FS.realPath p.text).toBaseIO with
  | .error (.noFileOrDirectory ..) | .error (.inappropriateType ..) => return .ok .nothing
  | .error e => return .error (toString e)
  | .ok real => return .ok (if ← real.isDir then .directory else .file)

/-- The time, as it stands in the name of a file. -/
def timeNow : IO String := do
  let (_, path) ← IO.FS.createTempFile
  let data ← path.metadata
  IO.FS.removeFile path
  return Crash.stamp data.modified.sec.toNat

def takeStep (target : Path) (t : Option OpenTemporary) (s : WriteStep) :
    IO (Option OpenTemporary) := do
  match s, t with
  | .create, _ =>
    let name := "." ++ target.name ++ "." ++ toString (← IO.monoNanosNow) ++ ".tmp"
    let path := (target.parent.join { names := [name] }).text
    return some ⟨some (← IO.FS.Handle.mk path .writeNew), path⟩
  | .write text, some ⟨some h, path⟩ =>
    h.putStr text
    return some ⟨some h, path⟩
  | .flush, some ⟨some h, path⟩ =>
    h.flush
    return some ⟨some h, path⟩
  | .close, some ⟨_, path⟩ | .closeAgain, some ⟨_, path⟩ => return some ⟨none, path⟩
  | .rename, some ⟨_, path⟩ =>
    IO.FS.rename path target.text
    return none
  | .remove, some ⟨_, path⟩ =>
    IO.FS.removeFile path
    return none
  | _, t => return t

/-- Carries out an action, given the temporary file that is being written. -/
def Action.performWith {α : Type} (t : Option OpenTemporary) : Action α → IO α
  | .done a => return a
  | .print .out s next => do
    (← IO.getStdout).putStr s
    next.performWith t
  | .print .err s next => do
    (← IO.getStderr).putStr s
    next.performWith t
  | .setting n next => do (next (← IO.getEnv n)).performWith t
  | .workingDirectory next => do
    (next (Path.ofText (toString (← IO.currentDir)))).performWith t
  | .time next => do (next (← timeNow)).performWith t
  | .terminal next => do (next (← (← IO.getStdout).isTty)).performWith t
  | .input next => do (next (← takeInput)).performWith t
  | .fetch _ next => (next (.failed "no connection")).performWith t
  | .overflows _ next => (next false).performWith t
  | .look p next => do (next (← lookAt p)).performWith t
  | .read p next => do (next (← tryOut (IO.FS.readBinFile p.text))).performWith t
  | .makeDirectories p next => do
    (next (← tryOut (IO.FS.createDirAll p.text))).performWith t
  | .step target s next => do
    match ← tryOut (takeStep target t s) with
    | .ok t => (next (.ok ())).performWith t
    | .error reason => (next (.error reason)).performWith t
  | .save p s next => do (next (← tryOut (IO.FS.writeFile p.text s))).performWith t

end ApiTools

def main (line : List String) : IO UInt32 := do
  let code ← (ApiTools.Command.run .plain line).performWith none
  return UInt32.ofNat code
