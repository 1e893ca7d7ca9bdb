import ApiTools.Value.Lenient
import ApiTools.Value.Text

set_option autoImplicit false

/-!
# Serialised values

A value as it is written into a manifest: dates and bytes are texts, keys are texts, and numbers
that are not finite are null. Three things cannot be written: bytes that encode no text, a collection
inside itself, and a key of too many digits. They stay what they are, and are the flaws of a
serialised value. Nor can anything be serialised that takes up more levels than there may be.
-/

namespace ApiTools.Value

def serialBytes (b : List UInt8) : Value :=
  match String.fromUTF8? (ByteArray.mk b.toArray) with
  | some s => .str s
  | none => .bytes b

def serialKey : Value → Value
  | .str s => .str s
  | .null => .str "None"
  | .bool b => .str (if b then "true" else "false")
  | .int n => if isLong n then .int n else .str (toString n)
  | .float x => .str (if Number.isFinite x then Number.plainLayout.render x else "None")
  | .bytes b => serialBytes b
  | .date d => .str d.text
  | .dateTime t => .str t.serialText
  | .list _ | .set _ | .pair _ _ | .map _ | .knot _ _ => .str ""

mutual

def serial : Value → Value
  | .float x => if Number.isFinite x then .float x else .null
  | .bytes b => serialBytes b
  | .date d => .str d.text
  | .dateTime t => .str t.serialText
  | .list xs => .list (serialList xs)
  | .set xs => .list (serialList xs)
  | .pair a b => .list [serial a, serial b]
  | .map ms => .map (ofMembers (serialMembers ms))
  | .knot name v => .knot name (serial v)
  | .null => .null
  | .bool b => .bool b
  | .int n => .int n
  | .str s => .str s

def serialList : List Value → List Value
  | [] => []
  | x :: xs => serial x :: serialList xs

def serialMembers : Members → Members
  | [] => []
  | (k, v) :: ms => (serialKey k, serial v) :: serialMembers ms

end

/-! ## Flaws -/

/-- Why something cannot be serialised or written. -/
inductive Flaw where
  /-- A collection holds itself. -/
  | endless
  /-- Bytes are no text. -/
  | notText
  /-- There are more levels than there may be. -/
  | tooDeep
  /-- An integer has too many digits. -/
  | tooLong
  deriving Repr, DecidableEq

def Flaw.message : Flaw → String
  | endless => "A collection holds itself"
  | notText => "Bytes are not in UTF-8"
  | tooDeep => "Too many levels"
  | tooLong => "Too many digits"

def flawOfKey : Value → Option Flaw
  | .bytes _ => some .notText
  | .int _ => some .tooLong
  | _ => none

mutual

/-- The first flaw of a value that lies in the knots with the given names. -/
def flawWithin (around : List Nat) : Value → Option Flaw
  | .bytes _ => some .notText
  | .knot name v =>
    if around.contains name then some .endless else flawWithin (name :: around) v
  | .list xs | .set xs => flawOfList around xs
  | .pair a b => (flawWithin around a).or (flawWithin around b)
  | .map ms => flawOfMembers around ms
  | _ => none

def flawOfList (around : List Nat) : List Value → Option Flaw
  | [] => none
  | x :: xs => (flawWithin around x).or (flawOfList around xs)

def flawOfMembers (around : List Nat) : Members → Option Flaw
  | [] => none
  | (k, v) :: ms =>
    ((flawOfKey k).or (flawWithin around v)).or (flawOfMembers around ms)

end

def flaw? (v : Value) : Option Flaw := v.flawWithin []

/-! ## Levels -/

mutual

/-- How many levels a value takes up: one more than what it holds. -/
def levels : Value → Nat
  | .list xs | .set xs => 1 + levelsOfList xs
  | .pair a b => 1 + max (levels a) (levels b)
  | .map ms => 1 + levelsOfMembers ms
  | .knot _ v => levels v
  | _ => 1

def levelsOfList : List Value → Nat
  | [] => 0
  | x :: xs => max (levels x) (levelsOfList xs)

def levelsOfMembers : Members → Nat
  | [] => 0
  | (_, v) :: ms => max (levels v) (levelsOfMembers ms)

end

/-- How many levels there may be. -/
def mostLevels : Nat := 254

/-- Serialises something that takes up some levels and is written as a value, if there may be as many
levels and nothing has a flaw. -/
def serialised (limit levels : Nat) (v : Value) : Except Flaw Value :=
  if limit < levels then .error .tooDeep
  else match v.flaw? with
    | some f => .error f
    | none => .ok v

/-- A serialised value of which a text can be made. -/
def writable (v : Value) : Except Flaw Value :=
  if v.holdsLong then .error .tooLong else .ok v

end ApiTools.Value
