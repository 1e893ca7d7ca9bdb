import ApiTools.Value.Date

set_option autoImplicit false

/-!
# Document values

What a document in JSON or YAML says once it is decoded. A mapping keeps the order of its
members, and its keys may be any value: a YAML mapping may have numbers and dates as keys. Two
keys are the same when they are equal as values, so that `1`, `1.0` and `true` are one key, and
so are two keys that are not a number, and two times of one instant.

A YAML collection may hold itself. Such a collection is marked as a knot, which has a name of its
own, and it is laid out to some depth: below that it appears to be empty.
-/

namespace ApiTools

inductive Value where
  | null
  | bool (b : Bool)
  | int (n : Int)
  | float (x : Float)
  | str (s : String)
  | bytes (b : List UInt8)
  | date (d : Date)
  | dateTime (t : DateTime)
  | list (xs : List Value)
  | pair (key value : Value)
  | set (xs : List Value)
  | map (members : List (Value × Value))
  | knot (name : Nat) (content : Value)
  deriving Inhabited

/-- The members of a mapping, in order. -/
abbrev Members := List (Value × Value)

namespace Value

/-- The number that a value is when it is compared; truth values count as 0 and 1. -/
def asInteger? : Value → Option Int
  | .bool b => some (if b then 1 else 0)
  | .int n => some n
  | .float x => Number.integer? x
  | _ => none

/-- Whether two values are the same key of a mapping. -/
def sameKey : Value → Value → Bool
  | .null, .null => true
  | .str a, .str b => a == b
  | .bytes a, .bytes b => a == b
  | .date a, .date b => a == b
  | .dateTime a, .dateTime b => a.sameInstant b
  | .pair a b, .pair c d => sameKey a c && sameKey b d
  | a, b =>
    match a.asInteger?, b.asInteger? with
    | some m, some n => m == n
    | none, none =>
      match a, b with
      | .float x, .float y => x == y || (x.isNaN && y.isNaN)
      | _, _ => false
    | _, _ => false

/-- Whether a value can be a key: collections other than pairs cannot. -/
def isKey : Value → Bool
  | .list _ | .set _ | .map _ | .knot _ _ => false
  | .pair a b => a.isKey && b.isKey
  | _ => true

/-! ## Members -/

/-- Adds a member; a key that is there already keeps its place and gets the new value. -/
def insertMember (ms : Members) (key value : Value) : Members :=
  match ms with
  | [] => [(key, value)]
  | (k, v) :: rest =>
    if k.sameKey key then (k, value) :: rest else (k, v) :: insertMember rest key value

/-- The members in the order of their first occurrence, each with its last value. -/
def ofMembers (ms : Members) : Members :=
  ms.foldl (fun acc (k, v) => insertMember acc k v) []

/-- The value of a key, in a list of members. -/
def lookup (ms : Members) (key : Value) : Option Value :=
  (ms.find? fun (k, _) => k.sameKey key).map (·.2)

/-- The collection that a knot marks; any other value is itself. -/
def content : Value → Value
  | .knot _ v => v
  | v => v

def get? (v : Value) (key : String) : Option Value :=
  match v.content with
  | .map ms => lookup ms (.str key)
  | _ => none

/-- The value of a text key, null if there is none. -/
def getD (v : Value) (key : String) : Value := (v.get? key).getD .null

def member? (ms : Members) (key : String) : Option Value := lookup ms (.str key)

/-- A mapping from text keys. -/
def object (ms : List (String × Value)) : Value := .map (ms.map fun (k, v) => (.str k, v))

/-! ## Shapes -/

def isNull : Value → Bool
  | .null => true
  | _ => false

def isMap (v : Value) : Bool :=
  match v.content with
  | .map _ => true
  | _ => false

def isList (v : Value) : Bool :=
  match v.content with
  | .list _ => true
  | _ => false

def asText? : Value → Option String
  | .str s => some s
  | _ => none

def asMap? (v : Value) : Option Members :=
  match v.content with
  | .map ms => some ms
  | _ => none

def asList? (v : Value) : Option (List Value) :=
  match v.content with
  | .list xs => some xs
  | _ => none

/-- Whether a value counts as present: null, false, zero and everything empty do not. -/
def isTruthy : Value → Bool
  | .null => false
  | .bool b => b
  | .int n => n != 0
  | .float x => !(x == 0.0)
  | .str s => !s.isEmpty
  | .bytes b => !b.isEmpty
  | .date _ | .dateTime _ | .pair _ _ | .knot _ _ => true
  | .list xs | .set xs => !xs.isEmpty
  | .map ms => !ms.isEmpty

/-- The name of a value's kind in messages to the user. -/
def kindName : Value → String
  | .null => "empty document"
  | .bool _ => "bool"
  | .int _ => "int"
  | .float _ => "float"
  | .str _ => "str"
  | .bytes _ => "bytes"
  | .date _ => "date"
  | .dateTime _ => "datetime"
  | .list _ => "list"
  | .pair _ _ => "tuple"
  | .set _ => "set"
  | .map _ => "dict"
  | .knot _ v => v.kindName

end Value

end ApiTools
