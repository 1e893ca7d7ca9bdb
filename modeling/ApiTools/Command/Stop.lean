import ApiTools.Command.Help
import ApiTools.Configuration.BatchFile
import ApiTools.Configuration.Layers
import ApiTools.Rendering.Output
import ApiTools.Rendering.Template

set_option autoImplicit false

/-!
# How commands end

A command goes on until it is done or something stops it. What stops it was reckoned with, and
the user is told why, or it was not, and a crash log is written.
-/

namespace ApiTools.Command

inductive Stop where
  /-- The user is told why, and the program ends with a code. -/
  | failed (message : String) (code : Nat)
  /-- All was said, and the program ends with a code. -/
  | ended (code : Nat)
  /-- Something that was not reckoned with happened. -/
  | crashed (cause : String)
  deriving Repr, DecidableEq

/-- A command, or a part of one. -/
abbrev Run (α : Type) := ExceptT Stop Action α

/-- What the program is given from elsewhere. -/
structure Equipment where
  engine : Rendering.Engine
  drawing : Drawing

/-- The engine for plain templates, and the drawing that leaves data as it is. -/
def Equipment.plain : Equipment := ⟨Rendering.Template.engine, Drawing.plain⟩

namespace Stop

def ofSource (f : Source.Failure) : Stop :=
  if f.isExpected then failed f.message documentCode else crashed f.message

def ofGeneration (f : Generation.Failure) : Stop :=
  failed f.message <| match f with
    | .invalid _ _ => invalidCode
    | .noPaths => documentCode
    | .unexpected _ => failureCode

def ofObstacle : Generation.Obstacle → Stop
  | .load f => ofSource f
  | .generate f => ofGeneration f

def ofApi : Api.Failure → Stop
  | .noPaths => ofGeneration .noPaths
  | f => crashed f.message

def ofHindrance (h : Validation.Hindrance) : Stop := crashed (Generation.causeText h)

def ofConfiguration (f : Configuration.Failure) : Stop := failed f.message failureCode

def ofBatchFile (f : BatchFile.Failure) : Stop :=
  if f.isExpected then failed f.message failureCode else crashed f.message

def ofRendering (f : Rendering.Failure) : Stop :=
  if f.isExpected then failed f.message failureCode else crashed f.message

def ofFlaw (f : Value.Flaw) : Stop := crashed f.message

end Stop

namespace Run

/-- A part of a command that cannot fail. -/
def act {α : Type} (x : Action α) : Run α := ExceptT.lift x

def tell (c : Console) (m : Message) : Run Unit := act (c.tell m)

def stop {α : Type} (s : Stop) : Run α := throw s

/-- A part of a command that may fail. -/
def orStop {α ε : Type} (x : Action (Except ε α)) (why : ε → Stop) : Run α :=
  ExceptT.mk (x.bind fun r => .done (r.mapError why))

/-- A result with notes, which are passed on to the user before it counts. -/
def noted {α ε : Type} (c : Console) (r : Except ε α × List Log.Note) (why : ε → Stop) :
    Run α :=
  orStop ((c.log r.2).bind fun _ => .done r.1) why

/-- A part of a command that may fail and leaves notes, which are passed on to the user. -/
def orStopNoted {α ε : Type} (c : Console) (x : Action (Except ε α × List Log.Note))
    (why : ε → Stop) : Run α :=
  ExceptT.mk (x.bind fun r => noted c r why)

end Run

/-- Prints a serialised value, unless there is none. -/
def Run.print (e : Equipment) (c : Console) (x : Except Value.Flaw Value) : Run Unit :=
  match x with
  | .error f => Run.stop (.ofFlaw f)
  | .ok v => Run.act (c.json e.drawing v)

/-- Prints a table, unless it cannot be drawn. -/
def Run.table (e : Equipment) (c : Console) (title : String) (headers : List String)
    (rows : List (List String)) : Run Unit :=
  Run.orStop (c.table e.drawing (some title) headers rows) .crashed

def crashMessage (log : Path) : String := "Unexpected error. Debug log: " ++ log.text

/-- Ends a command that was stopped, and gives the exit code. -/
def Stop.finish (c : Console) : Stop → Action Nat
  | .failed message code => do
    c.tell (.error message)
    return code
  | .ended code => return code
  | .crashed cause => do
    match ← Crash.record (cause ++ "\n") with
    | .ok log => c.tell (.error (crashMessage log))
    | .error reason => c.tell (.error ("Unexpected error, and no debug log: " ++ reason))
    return failureCode

/-- Ends a command, and gives the exit code. -/
def finish (c : Console) (x : Run Unit) : Action Nat :=
  x.run.bind fun
    | .ok _ => .done successCode
    | .error s => s.finish c

end ApiTools.Command
