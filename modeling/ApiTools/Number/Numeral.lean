import ApiTools.Number.Layout

set_option autoImplicit false

/-!
# Numerals

Which texts count as a number when a number is expected and a text was found: spaces around the
numeral, a sign, leading zeros and single underscores between digits are allowed.
-/

namespace ApiTools.Number

def isSpace (c : Char) : Bool :=
  let n := c.toNat
  (9 ≤ n && n ≤ 13) || n == 0x20 || n == 0x85 || n == 0xA0 || n == 0x1680
    || (0x2000 ≤ n && n ≤ 0x200A) || n == 0x2028 || n == 0x2029 || n == 0x202F
    || n == 0x205F || n == 0x3000

def trimSpaces (cs : List Char) : List Char :=
  ((cs.dropWhile isSpace).reverse.dropWhile isSpace).reverse

def isDigit (c : Char) : Bool := '0' ≤ c && c ≤ '9'

def digitsValue (ds : List Char) : Nat := ds.foldl (fun n d => n * 10 + (d.toNat - 48)) 0

/-- The text without underscores, if each of them is single and stands inside the text. -/
def withoutUnderscores? (cs : List Char) : Option (List Char) :=
  let doubled := (cs.zip (cs.drop 1)).any fun (a, b) => a == '_' && b == '_'
  if cs.head? == some '_' || cs.getLast? == some '_' || doubled then none
  else some (cs.filter (· != '_'))

def splitSign : List Char → Bool × List Char
  | '-' :: cs => (true, cs)
  | '+' :: cs => (false, cs)
  | cs => (false, cs)

/-- A numeral without the zeros at its beginning and the underscores among them. The last zero
stays when a point or nothing at all follows. It has to begin with a digit. -/
def withoutZeros? : List Char → Option (List Char)
  | [] => none
  | c :: rest =>
    if c != '0' then if isDigit c then some (c :: rest) else none
    else
      let later := rest.dropWhile fun d => d == '0' || d == '_'
      let passed := (c :: rest).take (rest.length - later.length + 1)
      match later with
      | [] => some (passed.drop (passed.length - 1))
      | d :: _ =>
        if d == '.' then some (passed.drop (passed.length - 1) ++ later)
        else if d == '-' || isDigit d then some later
        else none

/-- A numeral without a fraction that consists of zeros alone. -/
def withoutFraction (cs : List Char) : List Char :=
  let whole := cs.takeWhile (· != '.')
  match cs.drop whole.length with
  | '.' :: places => if !places.isEmpty && places.all (· == '0') then whole else cs
  | _ => cs

/-- The most characters that an integer may have, its sign included. -/
def mostCharacters : Nat := 4300

/-- An integer in its only spelling: no plus sign and no zeros in front. -/
def plainInteger? (cs : List Char) : Option Int :=
  let (negative, ds) := match cs with
    | '-' :: ds => (true, ds)
    | ds => (false, ds)
  if ds.isEmpty || !ds.all isDigit || (ds.head? == some '0' && ds.length != 1)
    || cs.length > mostCharacters then none
  else
    let n : Int := digitsValue ds
    some (if negative then -n else n)

/-- An integer; a fraction of zeros alone does no harm. A minus sign may stand behind zeros that
say nothing. -/
def integerOfText? (s : String) : Option Int := do
  let (negative, body) := splitSign (trimSpaces s.toList)
  let body ← withoutUnderscores? (withoutFraction (← withoutZeros? body))
  plainInteger? (if negative then '-' :: body else body)

/-- The exponent at the end of a numeral, zero if there is none. -/
def exponentOfText? : List Char → Option Int
  | [] => some 0
  | e :: cs =>
    if e == 'e' || e == 'E' then
      let (negative, ds) := splitSign cs
      if ds.isEmpty || !ds.all isDigit then none
      else
        let n : Int := digitsValue ds
        some (if negative then -n else n)
    else none

/-- A decimal numeral without a sign: digits before or after the point, and an exponent. -/
def decimalOfText? (cs : List Char) : Option Float :=
  let whole := cs.takeWhile isDigit
  let (places, rest) := match cs.dropWhile isDigit with
    | '.' :: rest => (rest.takeWhile isDigit, rest.dropWhile isDigit)
    | rest => ([], rest)
  if whole.isEmpty && places.isEmpty then none
  else (exponentOfText? rest).map fun e =>
    ofDecimal (digitsValue (whole ++ places)) (e - places.length)

/-- A numeral with a sign, or the name of an infinity or of a NaN. -/
def floatOfChars? (cs : List Char) : Option Float :=
  let (negative, body) := splitSign cs
  let word := String.ofList (body.map Char.toLower)
  let magnitude :=
    if word == "inf" || word == "infinity" then some infinity
    else if word == "nan" then some notANumber
    else decimalOfText? body
  magnitude.map fun x => if negative then -x else x

def floatOfText? (s : String) : Option Float :=
  match floatOfChars? (trimSpaces s.toList) with
  | some x => some x
  | none => (withoutUnderscores? s.toList).bind floatOfChars?

end ApiTools.Number
