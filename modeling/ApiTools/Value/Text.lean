import ApiTools.Text.Decimal
import ApiTools.Text.Printable
import ApiTools.Value.Basic

set_option autoImplicit false

/-!
# Values in messages

The text that stands for a value in a message: texts are quoted inside collections and when a
message asks for it, numbers and truth values are written out. An integer with too many digits has
a text here, but none that the program could make.
-/

namespace ApiTools.Value

/-- The digits of a number in base sixteen, in small letters, up to a width. -/
def hex (width n : Nat) : List Char :=
  let ds := Nat.toDigits 16 n
  List.replicate (width - ds.length) '0' ++ ds

def escapeChar (quote : Char) (c : Char) : List Char :=
  if c = quote || c = '\\' then ['\\', c]
  else if c = '\n' then ['\\', 'n']
  else if c = '\r' then ['\\', 'r']
  else if c = '\t' then ['\\', 't']
  else if Text.isPrintable c then [c]
  else
    let n := c.toNat
    if n < 0x100 then '\\' :: 'x' :: hex 2 n
    else if n < 0x10000 then '\\' :: 'u' :: hex 4 n
    else '\\' :: 'U' :: hex 8 n

/-- Single quotes, unless the text holds one and no double quote. -/
def quoteFor (cs : List Char) : Char :=
  if cs.contains '\'' && !cs.contains '"' then '"' else '\''

def quoted (s : String) : String :=
  let cs := s.toList
  let q := quoteFor cs
  String.ofList (q :: (cs.flatMap (escapeChar q) ++ [q]))

def escapeByte (quote : Char) (b : UInt8) : List Char :=
  let c := Char.ofNat b.toNat
  if b.toNat < 0x80 then escapeChar quote c else '\\' :: 'x' :: hex 2 b.toNat

def quotedBytes (b : List UInt8) : String :=
  let q := quoteFor (b.map fun x => Char.ofNat x.toNat)
  String.ofList ('b' :: q :: (b.flatMap (escapeByte q) ++ [q]))

/-- Numbers between parentheses after a name. -/
def call (name : String) (args : List String) : String :=
  name ++ "(" ++ ", ".intercalate args ++ ")"

def describeDate (d : Date) : String :=
  call "datetime.date" ([d.year, d.month, d.day].map toString)

/-- An offset from universal time as a message shows it; days carry the sign. -/
def describeOffset (s : Int) : String :=
  if s = 0 then "datetime.timezone.utc"
  else
    let days := Int.fdiv s 86400
    let rest := Int.fmod s 86400
    let parts := (if days = 0 then [] else ["days=" ++ toString days])
      ++ (if rest = 0 then [] else ["seconds=" ++ toString rest])
    call "datetime.timezone" [call "datetime.timedelta" parts]

/-- A point in time as a message shows it; seconds are left out when nothing after the minutes
is set. -/
def describeDateTime (t : DateTime) : String :=
  let small := if t.microsecond != 0 then [t.second, t.microsecond]
    else if t.second != 0 then [t.second] else []
  let fields := [t.date.year, t.date.month, t.date.day, t.hour, t.minute] ++ small
  let zone := match t.offset with
    | none => []
    | some s => ["tzinfo=" ++ describeOffset s]
  call "datetime.datetime" (fields.map toString ++ zone)

/-- A knot inside itself. -/
def describeAgain (v : Value) : String :=
  match v with
  | .map _ => "\x7b...\x7d"
  | _ => "[...]"

mutual

/-- A value as a message shows it, texts in quotes; `around` are the names of the knots in which
it lies. -/
def describeIn (around : List Nat) : Value → String
  | .null => "None"
  | .bool true => "True"
  | .bool false => "False"
  | .int n => toString n
  | .float x => Number.plainLayout.render x
  | .str s => quoted s
  | .bytes b => quotedBytes b
  | .date d => describeDate d
  | .dateTime t => describeDateTime t
  | .list xs => "[" ++ ", ".intercalate (describeList around xs) ++ "]"
  | .pair a b => "(" ++ describeIn around a ++ ", " ++ describeIn around b ++ ")"
  | .set [] => "set()"
  | .set (x :: xs) =>
    "\x7b" ++ ", ".intercalate (describeIn around x :: describeList around xs) ++ "\x7d"
  | .map ms => "\x7b" ++ ", ".intercalate (describeMembers around ms) ++ "\x7d"
  | .knot name v =>
    if around.contains name then describeAgain v else describeIn (name :: around) v

def describeList (around : List Nat) : List Value → List String
  | [] => []
  | x :: xs => describeIn around x :: describeList around xs

/-- The members of a mapping as a message shows them. -/
def describeMembers (around : List Nat) : Members → List String
  | [] => []
  | (k, v) :: ms =>
    (describeIn around k ++ ": " ++ describeIn around v) :: describeMembers around ms

end

/-- A value as a message shows it, texts in quotes. -/
def describe (v : Value) : String := v.describeIn []

/-- A value as plain text: a text stands for itself, and dates are written in their standard
form. -/
def plainText : Value → String
  | .str s => s
  | .date d => d.text
  | .dateTime t => t.plainText
  | v => v.describe

/-! ## Integers without a text -/

/-- Whether an integer has so many digits that no text is made of it. -/
def isLong (n : Int) : Bool := Nat.pow 10 Text.mostDigits ≤ n.natAbs

mutual

/-- Whether a value is or holds an integer of which no text is made. -/
def holdsLong : Value → Bool
  | .int n => isLong n
  | .list xs | .set xs => holdsLongList xs
  | .pair a b => holdsLong a || holdsLong b
  | .map ms => holdsLongMembers ms
  | .knot _ v => holdsLong v
  | _ => false

def holdsLongList : List Value → Bool
  | [] => false
  | x :: xs => holdsLong x || holdsLongList xs

def holdsLongMembers : Members → Bool
  | [] => false
  | (k, v) :: ms => (holdsLong k || holdsLong v) || holdsLongMembers ms

end

end ApiTools.Value
