import ApiTools.Value.Basic

set_option autoImplicit false

/-!
# Records in documents

A record is a mapping with fixed keys. Each key has two spellings, in camel case and with
underscores, of which the first one wins. Other members are of no account.
-/

namespace ApiTools.Record

/-- The value of a key in one of its spellings, and that spelling. -/
def find? (ms : Members) (camel snake : String) : Option (String × Value) :=
  match Value.member? ms camel with
  | some v => some (camel, v)
  | none => (Value.member? ms snake).map fun v => (snake, v)

/-- The members of a mapping as they are read by a function; none if it fails for one of them. -/
def readMembers {κ α : Type} (readKey : Value → Option κ) (readItem : Value → Option α)
    (ms : Members) : Option (List (κ × α)) :=
  ms.mapM fun (k, v) => do return (← readKey k, ← readItem v)

/-! ## Fields of records whose faults are not told apart -/

def needed? {α : Type} (ms : Members) (camel snake : String) (read : Value → Option α) :
    Option α :=
  (find? ms camel snake).bind fun (_, v) => read v

def orElse? {α : Type} (ms : Members) (camel snake : String) (substitute : α)
    (read : Value → Option α) : Option α :=
  match find? ms camel snake with
  | none => some substitute
  | some (_, v) => read v

/-- A member that may be missing or null. -/
def optional? {α : Type} (ms : Members) (camel snake : String) (read : Value → Option α) :
    Option (Option α) :=
  match find? ms camel snake with
  | none | some (_, .null) => some none
  | some (_, v) => (read v).map some

/-! ## Keys of faulty members -/

/-- The key of a member that is missing or faulty. -/
def faultOfNeeded {α : Type} (ms : Members) (camel snake : String) (read : Value → Option α) :
    List String :=
  match find? ms camel snake with
  | none => [camel]
  | some (key, v) => if (read v).isSome then [] else [key]

/-- The key of a member that is there and faulty. -/
def faultOf {α : Type} (ms : Members) (camel snake : String) (read : Value → Option α) :
    List String :=
  match find? ms camel snake with
  | none => []
  | some (key, v) => if (read v).isSome then [] else [key]

/-- A reader that takes null for nothing. -/
def orNull {α : Type} (read : Value → Option α) (v : Value) : Option (Option α) :=
  match v with
  | .null => some none
  | v => (read v).map some

end ApiTools.Record
