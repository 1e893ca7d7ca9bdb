import ApiTools.Action.Basic
import ApiTools.Disk.Basic
import ApiTools.Number.Layout

set_option autoImplicit false

/-!
# Worlds

A model of the surroundings of an action: a disk, environment variables, input, answers to
requests, and what goes wrong. Running an action in a world gives its result and the world
afterwards.
-/

namespace ApiTools

/-- What is left of the input after it was read. Where reading failed it fails again. -/
def Intake.rest : Intake → Intake
  | .failed reason => .failed reason
  | _ => .text ""

/-- A temporary file that is being written. -/
structure Temporary where
  /-- The place of the temporary file. -/
  place : Place
  /-- What was written and has not reached the disk. -/
  buffer : String := ""
  /-- Whether the file is open. -/
  isOpen : Bool := true

/-- The kinds of steps that may go wrong in writing a file. -/
inductive Trouble where
  | create
  | write
  | flush
  | sync
  | close
  /-- Closing the file after something else went wrong. -/
  | closeAgain
  | rename
  deriving Repr, DecidableEq

/-- The surroundings of an action. -/
structure World where
  disk : Disk := {}
  here : Place := []
  environment : List (String × String) := []
  /-- What is left of the input. -/
  input : Intake := .text ""
  reply : String → Reply := fun _ => .failed "no connection"
  /-- Whether decoding a text takes more of the stack than there is. -/
  overflows : String → Bool := fun _ => false
  time : String := ""
  terminal : Bool := false
  /-- The steps of writing that go wrong. -/
  troubles : List Trouble := []
  temporary : Option Temporary := none
  /-- What was written to the channels, in order. -/
  printed : List (Channel × String) := []

namespace World

/-- The reason for every failure of a disk. -/
def diskFailure : String := "the disk refuses"

def written (w : World) (c : Channel) : String :=
  String.join ((w.printed.filter (·.1 = c)).map (·.2))

def workingDirectory (w : World) : Path := { root := "/", names := w.here }

def locate? (w : World) (p : Path) : Option Place := w.disk.locate? w.here p

def look (w : World) (p : Path) : Attempt Sight :=
  match w.disk.target w.here p with
  | .refused => .error diskFailure
  | .nowhere => .ok .nothing
  | .place place =>
    match w.disk.at? place with
    | none => .ok .nothing
    | some .directory => .ok .directory
    | some (.file _) => .ok .file

def read (w : World) (p : Path) : Attempt ByteArray :=
  match (w.locate? p).bind w.disk.content? with
  | some c => .ok c
  | none => .error diskFailure

def makeDirectories (w : World) (p : Path) : Attempt Unit × World :=
  match w.disk.makeDirectories? w.here p with
  | some d => (.ok (), { w with disk := d })
  | none => (.error diskFailure, w)

/-- Writes a file in place. -/
def save (w : World) (p : Path) (text : String) : Attempt Unit × World :=
  match w.locate? p with
  | none => (.error diskFailure, w)
  | some place =>
    if w.disk.isDirectory place || !w.disk.isDirectory place.dropLast then (.error diskFailure, w)
    else (.ok (), { w with disk := w.disk.put place (.file text.toUTF8) })

def hasTrouble (w : World) (t : Trouble) : Bool := w.troubles.contains t

/-- A number with eight digits or more. -/
def mark (n : Nat) : String := String.ofList (Number.padded 8 n)

/-- A name in a directory that no entry has, made from a beginning, a number and an ending. -/
def freshName (d : Disk) (directory : Place) (start : String) : String :=
  let names := (List.range (d.entries.length + 1)).map fun n => start ++ mark n ++ ".tmp"
  (names.find? fun n => (d.at? (directory ++ [n])).isNone).getD (start ++ mark 0 ++ ".tmp")

def createTemporary (w : World) (target : Path) : Attempt Unit × World :=
  match w.locate? target.parent with
  | none => (.error diskFailure, w)
  | some directory =>
    let name := freshName w.disk directory ("." ++ target.name ++ ".")
    if w.hasTrouble .create || !w.disk.isDirectory directory || Path.isLongName name then
      (.error diskFailure, w)
    else
      (.ok (),
        { w with
          disk := w.disk.put (directory ++ [name]) (.file ByteArray.empty)
          temporary := some { place := directory ++ [name] } })

/-- Moves what is buffered to the disk. -/
def flushBuffer (w : World) (t : Temporary) : World :=
  let before := (w.disk.content? t.place).getD ByteArray.empty
  { w with
    disk := w.disk.put t.place (.file (before ++ t.buffer.toUTF8))
    temporary := some { t with buffer := "" } }

/-- Closes the temporary file, which moves what is buffered to the disk. It is closed even if
that fails; closing it once more does nothing. -/
def closeTemporary (w : World) (t : Temporary) (fails : Bool) : Attempt Unit × World :=
  if !t.isOpen then (.ok (), w)
  else if fails then (.error diskFailure, { w with temporary := some { t with isOpen := false } })
  else
    let w := w.flushBuffer t
    (.ok (), { w with temporary := some { t with buffer := "", isOpen := false } })

/-- Gives the temporary file the name of the target, unless that is a directory. -/
def renameTemporary (w : World) (t : Temporary) (target : Path) : Attempt Unit × World :=
  match w.locate? target, w.disk.content? t.place with
  | some place, some content =>
    if w.hasTrouble .rename || w.disk.isDirectory place then (.error diskFailure, w)
    else
      (.ok (),
        { w with
          disk := (w.disk.remove t.place).put place (.file content)
          temporary := none })
  | _, _ => (.error diskFailure, w)

/-- Takes a step of writing a file. -/
def step (w : World) (target : Path) (s : WriteStep) : Attempt Unit × World :=
  match s, w.temporary with
  | .create, _ => w.createTemporary target
  | _, none => (.error diskFailure, w)
  | .write text, some t =>
    if w.hasTrouble .write then (.error diskFailure, w)
    else (.ok (), { w with temporary := some { t with buffer := t.buffer ++ text } })
  | .flush, some t =>
    if w.hasTrouble .flush then (.error diskFailure, w) else (.ok (), w.flushBuffer t)
  | .sync, some _ => if w.hasTrouble .sync then (.error diskFailure, w) else (.ok (), w)
  | .close, some t => w.closeTemporary t (w.hasTrouble .close)
  | .closeAgain, some t => w.closeTemporary t (w.hasTrouble .closeAgain)
  | .rename, some t => w.renameTemporary t target
  | .remove, some t =>
    (.ok (), { w with disk := w.disk.remove t.place, temporary := none })

end World

def Action.run {α : Type} (x : Action α) (w : World) : α × World :=
  match x with
  | .done a => (a, w)
  | .print c s next => next.run { w with printed := w.printed ++ [(c, s)] }
  | .setting n next => (next ((w.environment.find? (·.1 == n)).map (·.2))).run w
  | .workingDirectory next => (next w.workingDirectory).run w
  | .time next => (next w.time).run w
  | .terminal next => (next w.terminal).run w
  | .input next => (next w.input).run { w with input := w.input.rest }
  | .fetch u next => (next (w.reply u)).run w
  | .overflows s next => (next (w.overflows s)).run w
  | .look p next => (next (w.look p)).run w
  | .read p next => (next (w.read p)).run w
  | .makeDirectories p next => let (r, w) := w.makeDirectories p; (next r).run w
  | .step t s next => let (r, w) := w.step t s; (next r).run w
  | .save p s next => let (r, w) := w.save p s; (next r).run w

end ApiTools
