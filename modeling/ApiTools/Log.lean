set_option autoImplicit false

/-!
# Notes for the log

What a computation has to report besides its result: notes with a level, in the order in which
they arise.
-/

namespace ApiTools.Log

/-- How important a note is. -/
inductive Level where
  | debug
  | info
  | warning
  | error
  deriving Repr, DecidableEq

def Level.rank : Level → Nat
  | debug => 10
  | info => 20
  | warning => 30
  | error => 40

def Level.name : Level → String
  | debug => "DEBUG"
  | info => "INFO"
  | warning => "WARNING"
  | error => "ERROR"

structure Note where
  level : Level
  text : String
  deriving Repr, DecidableEq

def atLeast (level : Level) (notes : List Note) : List Note :=
  notes.filter fun n => level.rank ≤ n.level.rank

def debug (text : String) : Note := ⟨.debug, text⟩

def info (text : String) : Note := ⟨.info, text⟩

def warning (text : String) : Note := ⟨.warning, text⟩

def error (text : String) : Note := ⟨.error, text⟩

/-- A computation that leaves notes. -/
abbrev Noted (α : Type) := α × List Note

end ApiTools.Log
