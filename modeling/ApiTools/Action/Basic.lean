import ApiTools.Disk.Path

set_option autoImplicit false

/-!
# Actions

A program that looks at its surroundings and changes them is a value: a tree of steps, each with
what to do next for every answer. The same action can be carried out in earnest or in a model of
the surroundings.
-/

namespace ApiTools

/-- The two channels of output. -/
inductive Channel where
  | out
  | err
  deriving Repr, DecidableEq

/-- What a path leads to. -/
inductive Sight where
  | nothing
  | directory
  | file
  deriving Repr, DecidableEq

/-- What came of reading the input. -/
inductive Intake where
  | text (s : String)
  | failed (reason : String)
  /-- The bytes are no text in the encoding of the input. -/
  | notText
  deriving Repr, DecidableEq

/-- What came back for a request over HTTP. -/
inductive Reply where
  /-- No answer came, for a reason that requests are known to fail for. -/
  | failed (reason : String)
  /-- The request went wrong in another way: its address is none, for example. -/
  | broken (cause : String)
  /-- An answer. If its type names a set of characters that is in no table, `foreign` is the text
  of the body by that set, or nothing where the body is no text. -/
  | answered (status : Nat) (contentType : String) (body : ByteArray)
      (foreign : Option (Option String))

/-- The steps of writing a file by way of a temporary one beside it. -/
inductive WriteStep where
  /-- Creates the temporary file and opens it. -/
  | create
  | write (text : String)
  | flush
  | sync
  | close
  /-- Closes the temporary file after something went wrong. -/
  | closeAgain
  /-- Gives the temporary file the name of the target. -/
  | rename
  /-- Removes the temporary file. -/
  | remove
  deriving Repr, DecidableEq

/-- What an attempt gives: a result, or the reason why it failed. -/
abbrev Attempt (α : Type) := Except String α

/-- An action with a result. -/
inductive Action (α : Type) : Type where
  | done (a : α)
  /-- Writes to a channel. -/
  | print (channel : Channel) (text : String) (next : Action α)
  /-- Asks for an environment variable. -/
  | setting (name : String) (next : Option String → Action α)
  /-- Asks for the working directory. -/
  | workingDirectory (next : Path → Action α)
  /-- Asks for the time, as it stands in the name of a file. -/
  | time (next : String → Action α)
  /-- Asks whether the output goes to a terminal. -/
  | terminal (next : Bool → Action α)
  /-- Reads all that is left of the input. -/
  | input (next : Intake → Action α)
  /-- Sends a request for a document. -/
  | fetch (url : String) (next : Reply → Action α)
  /-- Asks whether decoding a text takes more of the stack than there is. -/
  | overflows (text : String) (next : Bool → Action α)
  /-- Asks what a path leads to. -/
  | look (path : Path) (next : Attempt Sight → Action α)
  /-- Reads a file. -/
  | read (path : Path) (next : Attempt ByteArray → Action α)
  /-- Makes a directory and those around it. -/
  | makeDirectories (path : Path) (next : Attempt Unit → Action α)
  /-- Takes a step of writing a file. -/
  | step (target : Path) (s : WriteStep) (next : Attempt Unit → Action α)
  /-- Writes a file in place. -/
  | save (path : Path) (text : String) (next : Attempt Unit → Action α)

namespace Action

variable {α β : Type}

/-- An action after another. -/
def bind (x : Action α) (f : α → Action β) : Action β :=
  match x with
  | done a => f a
  | print c s next => print c s (next.bind f)
  | setting n next => setting n fun a => (next a).bind f
  | workingDirectory next => workingDirectory fun a => (next a).bind f
  | time next => time fun a => (next a).bind f
  | terminal next => terminal fun a => (next a).bind f
  | input next => input fun a => (next a).bind f
  | fetch u next => fetch u fun a => (next a).bind f
  | overflows s next => overflows s fun a => (next a).bind f
  | look p next => look p fun a => (next a).bind f
  | read p next => read p fun a => (next a).bind f
  | makeDirectories p next => makeDirectories p fun a => (next a).bind f
  | step t s next => step t s fun a => (next a).bind f
  | save p s next => save p s fun a => (next a).bind f

instance : Monad Action where
  pure := done
  bind := bind

@[simp] theorem pure_bind (a : α) (f : α → Action β) : (done a).bind f = f a := rfl

/-! ## Single steps -/

def say (c : Channel) (s : String) : Action Unit := print c s (done ())

def ask (name : String) : Action (Option String) := setting name done

/-- The value of an environment variable that is not empty. -/
def askFilled (name : String) : Action (Option String) :=
  setting name fun v => done (v.filter (!·.isEmpty))

def here : Action Path := workingDirectory done

def sight (p : Path) : Action (Attempt Sight) := look p done

def content (p : Path) : Action (Attempt ByteArray) := read p done

def take (target : Path) (s : WriteStep) : Action (Attempt Unit) := step target s done

end Action

end ApiTools
