import ApiTools.Number.Numeral
import ApiTools.Value.Basic

set_option autoImplicit false

/-!
# Lenient readings

Documents spell numbers and truth values in many ways: `"3"` for `3`, `1` or `"yes"` for true.
A lenient reading accepts what has one meaning and refuses the rest. Where several kinds are
admitted, a value that has one of them already keeps it.
-/

namespace ApiTools

/-- A number that remembers whether it was written as an integer. -/
inductive Numeric where
  | int (n : Int)
  | float (x : Float)

/-- The bound of a range: a number, or a flag that makes another bound exclusive. -/
inductive Bound where
  | flag (b : Bool)
  | number (n : Numeric)

def Numeric.toValue : Numeric → Value
  | .int n => .int n
  | .float x => .float x

def Bound.toValue : Bound → Value
  | .flag b => .bool b
  | .number n => n.toValue

namespace Value

/-- The text of a value: its own, or bytes that encode one. -/
def readText? : Value → Option String
  | .str s => some s
  | .bytes b => String.fromUTF8? (ByteArray.mk b.toArray)
  | _ => none

def falseWords : List String := ["0", "off", "f", "false", "n", "no"]

def trueWords : List String := ["1", "on", "t", "true", "y", "yes"]

/-- The integer that a finite double without a fraction equals, within 64 bits. -/
def wholeNumber? (x : Float) : Option Int :=
  (Number.integer? x).bind fun n => if n.natAbs < Nat.pow 2 63 then some n else none

/-- A truth value: a flag, zero or one, or one of the usual words in either case. -/
def readBool? (v : Value) : Option Bool :=
  let ofInt (n : Int) : Option Bool :=
    if n = 0 then some false else if n = 1 then some true else none
  match v with
  | .bool b => some b
  | .int n => ofInt n
  | .float x => (wholeNumber? x).bind ofInt
  | v =>
    match v.readText? with
    | none => none
    | some s =>
      let word := s.map Char.toLower
      if trueWords.contains word then some true
      else if falseWords.contains word then some false
      else none

/-- An integer: a number without a fraction, a flag, or a numeral. -/
def readInt? (v : Value) : Option Int :=
  match v with
  | .int n => some n
  | .bool b => some (if b then 1 else 0)
  | .float x => wholeNumber? x
  | v => v.readText?.bind Number.integerOfText?

/-- A number: integers stay integers and doubles stay doubles; a numeral is an integer if it can
be one. -/
def readNumeric? (v : Value) : Option Numeric :=
  match v with
  | .int n => some (.int n)
  | .float x => some (.float x)
  | v =>
    match v.readInt? with
    | some n => some (.int n)
    | none => (v.readText?.bind Number.floatOfText?).map .float

/-- A bound: numbers and flags stay what they are; a text is a flag before it is a number. -/
def readBound? (v : Value) : Option Bound :=
  match v with
  | .bool b => some (.flag b)
  | .int _ | .float _ => v.readNumeric?.map .number
  | v =>
    match v.readBool? with
    | some b => some (.flag b)
    | none => v.readNumeric?.map .number

/-- The elements of a list, a pair or a set. -/
def readList? (v : Value) : Option (List Value) :=
  match v.content with
  | .list xs | .set xs => some xs
  | .pair a b => some [a, b]
  | _ => none

def readTexts? (v : Value) : Option (List String) := v.readList?.bind (·.mapM readText?)

end Value

end ApiTools
