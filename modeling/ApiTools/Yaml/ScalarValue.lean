import ApiTools.Text.Decimal
import ApiTools.Value.Basic
import ApiTools.Yaml.Tag

set_option autoImplicit false

/-!
# From the text of a scalar to its value

What a text stands for when it is tagged as a number, a truth value, bytes or a point in time.
Numbers may be written in several bases; in base sixty a colon stands between the places.
-/

namespace ApiTools.Yaml.Scalar

/-! ## Numbers -/

/-- The text of a number without underscores, without its sign, and whether that was a minus;
nothing if there is no text. -/
def signed? (text : String) : Option (List Char × Bool) :=
  match text.toList.filter (· != '_') with
  | [] => none
  | '-' :: cs => some (cs, true)
  | '+' :: cs => some (cs, false)
  | cs => some (cs, false)

/-- The number with the given places in base sixty, the first one being the highest. -/
def sixtyOf (ds : List Int) : Int := ds.foldl (fun n d => n * 60 + d) 0

/-- An integer without a sign: a zero and a letter announce base two or sixteen, a zero alone
base eight, and colons base sixty. -/
def magnitude? (cs : List Char) : Option Int :=
  match cs with
  | ['0'] => some 0
  | '0' :: 'b' :: ds => Text.typedIn? 2 ds
  | '0' :: 'x' :: ds => Text.typedIn? 16 ds
  | '0' :: _ => Text.typedIn? 8 cs
  | cs =>
    if cs.contains ':' then ((Tag.colonParts cs).mapM (Text.typedIn? 10)).map sixtyOf
    else Text.typedIn? 10 cs

def integerOf (text : String) : Except Fault Int :=
  match signed? text with
  | none | some ([], _) => .error .emptyNumber
  | some (cs, negative) =>
    match magnitude? cs with
    | some n => .ok (if negative then -n else n)
    | none => .error .impossible

/-- The sum of places in base sixty, the lowest one first, each of which counts `place` times as
much as a unit. A place has to be worth a finite number. -/
def sixtySum (place : Nat) (sum : Float) : List Float → Except Fault Float
  | [] => .ok sum
  | d :: ds =>
    let worth := Number.ofInteger place
    if Number.isFinite worth then sixtySum (place * 60) (sum + d * worth) ds
    else .error .tooLarge

/-- Whether a text is the name of the one NaN that all texts with this name share. -/
def isNaNName (text : String) : Bool :=
  (signed? text).any fun (cs, _) => cs.map Char.toLower == ".nan".toList

def floatOf (text : String) : Except Fault Float :=
  match signed? text with
  | none => .error .emptyNumber
  | some (cs, negative) => do
    let cs := cs.map Char.toLower
    let x ←
      if cs == ".inf".toList then pure Number.infinity
      else if cs == ".nan".toList then pure Number.notANumber
      else match (Tag.colonParts cs).mapM Text.typedFloat? with
        | some [x] => pure x
        | some ds => sixtySum 1 0.0 ds.reverse
        | none => .error .impossible
    return if negative then -x else x

/-! ## Bytes -/

/-- The six bits that a letter stands for. -/
def sextet? (c : Char) : Option Nat :=
  if 'A' ≤ c && c ≤ 'Z' then some (c.toNat - 65)
  else if 'a' ≤ c && c ≤ 'z' then some (c.toNat - 71)
  else if '0' ≤ c && c ≤ '9' then some (c.toNat + 4)
  else if c == '+' then some 62
  else if c == '/' then some 63
  else none

/-- Bytes from letters of six bits each; other characters are passed over. `place` counts the
letters of the group of four, `left` holds the bits not yet used, `pads` the equals signs. -/
def bytesOf? (place left pads : Nat) : List Char → Option (List UInt8)
  | [] => if place = 0 then some [] else none
  | c :: cs =>
    if c == '=' then
      if 2 ≤ place && 4 ≤ place + pads + 1 then some []
      else bytesOf? place left (if 2 ≤ place then pads + 1 else pads) cs
    else
      match sextet? c with
      | none => bytesOf? place left pads cs
      | some d =>
        match place with
        | 0 => bytesOf? 1 d 0 cs
        | 1 => (bytesOf? 2 (d % 16) 0 cs).map (UInt8.ofNat (left * 4 + d / 16) :: ·)
        | 2 => (bytesOf? 3 (d % 4) 0 cs).map (UInt8.ofNat (left * 16 + d / 4) :: ·)
        | _ => (bytesOf? 0 0 0 cs).map (UInt8.ofNat (left * 64 + d) :: ·)

/-! ## Points in time -/

/-- A date or a point in time; it has to exist. -/
def timeOf (t : Tag.TimeText) : Except Fault Value :=
  let n (cs : List Char) : Nat := Number.digitsValue cs
  let date : Date := ⟨n t.year, n t.month, n t.day⟩
  match t.clock with
  | none => if date.isValid then .ok (.date date) else .error .impossible
  | some (hour, minute, second, fraction) =>
    let places := (fraction.take 6)
    let micro := n (places ++ List.replicate (6 - places.length) '0')
    let offset : Option Int := t.zone.map fun z =>
      match z with
      | none => 0
      | some (negative, hours, minutes) =>
        let s : Int := (n hours * 3600 + n minutes * 60 : Nat)
        if negative then -s else s
    let time : DateTime := ⟨date, n hour, n minute, n second, micro, offset⟩
    if time.isValid then .ok (.dateTime time) else .error .impossible

/-! ## All kinds -/

def truth? (text : String) : Option Bool :=
  let word := text.map Char.toLower
  if ["yes", "true", "on"].contains word then some true
  else if ["no", "false", "off"].contains word then some false
  else none

/-- The point in time that a text stands for; one line feed at its end does not count. -/
def pointInTime (text : String) : Except Fault Value :=
  match Tag.time? (Tag.withoutLastBreak text.toList) with
  | some t => timeOf t
  | none => .error .notATime

def valueOf (tag : Tag) (text : String) : Except Fault Value :=
  match tag with
  | .null => .ok .null
  | .bool => match truth? text with
    | some b => .ok (.bool b)
    | none => .error .unknownTruthValue
  | .int => (integerOf text).map .int
  | .float => (floatOf text).map .float
  | .binary =>
    if text.toList.any fun c => 0x7F < c.toNat then .error .malformed
    else match bytesOf? 0 0 0 text.toList with
      | some b => .ok (.bytes b)
      | none => .error .malformed
  | .timestamp => pointInTime text
  | .str => .ok (.str text)
  | _ => .error .malformed

end ApiTools.Yaml.Scalar
