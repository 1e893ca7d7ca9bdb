import ApiTools.Named

set_option autoImplicit false

/-!
# Reports

A check never stops at the first fault: it lists its findings, and a report sorts their texts by
severity. Only errors make a report invalid.
-/

namespace ApiTools

/-- How much a finding matters. -/
inductive Severity where
  /-- The thing that is checked is broken. -/
  | error
  /-- A likely mistake. -/
  | warning
  /-- Advice. -/
  | suggestion
  deriving Repr, DecidableEq

/-- The texts of the findings of a check, by severity and in order. -/
structure Report where
  errors : List String := []
  warnings : List String := []
  suggestions : List String := []
  deriving Repr, DecidableEq

namespace Report

def isValid (r : Report) : Bool := r.errors.isEmpty

def select (severity : Severity) (found : List (Severity × String)) : List String :=
  (found.filter (·.1 == severity)).map (·.2)

def ofFound (found : List (Severity × String)) : Report :=
  ⟨select .error found, select .warning found, select .suggestion found⟩

/-- Two reports about one thing, where what both of them say is said once. -/
def merge (a b : Report) : Report :=
  ⟨Named.distinct (a.errors ++ b.errors), Named.distinct (a.warnings ++ b.warnings),
    Named.distinct (a.suggestions ++ b.suggestions)⟩

/-- The wording of the refusal of an invalid thing. -/
def refusal (r : Report) (subject : String) : String :=
  subject ++ " failed validation with " ++ toString r.errors.length ++ " error(s)"

end Report

end ApiTools
