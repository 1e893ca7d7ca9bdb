import ApiTools.Number.Numeral

set_option autoImplicit false

/-!
# Decimal digits

The digits of all scripts stand in runs of ten, from zero to nine. An integer that a user types
may be written with any of them.
-/

namespace ApiTools.Text

/-- The zeros of all scripts. -/
def zeros : List Nat :=
  [48, 1632, 1776, 1984, 2406, 2534, 2662, 2790, 2918, 3046, 3174, 3302, 3430, 3558, 3664, 3792,
   3872, 4160, 4240, 6112, 6160, 6470, 6608, 6784, 6800, 6992, 7088, 7232, 7248, 42528, 43216,
   43264, 43472, 43504, 43600, 44016, 65296, 66720, 68912, 69734, 69872, 69942, 70096, 70384,
   70736, 70864, 71248, 71360, 71472, 71904, 72016, 72784, 73040, 73120, 92768, 92864, 93008,
   120782, 120792, 120802, 120812, 120822, 123200, 123632, 125264, 130032]

/-- What a digit is worth. -/
def digitValue? (c : Char) : Option Nat :=
  (zeros.find? fun z => z ≤ c.toNat && c.toNat < z + 10).map fun z => c.toNat - z

/-- What a digit is worth in a base up to sixteen; small and capital letters follow the nine. -/
def digitIn? (base : Nat) (c : Char) : Option Nat :=
  let value : Option Nat := match digitValue? c with
    | some d => some d
    | none =>
      if 'a' ≤ c && c ≤ 'f' then some (c.toNat - 87)
      else if 'A' ≤ c && c ≤ 'F' then some (c.toNat - 55)
      else none
  value.filter (· < base)

/-- The number that digits of a base stand for, after those that were read already. Single
underscores may stand between digits. -/
def typedDigits? (base before : Nat) : List Char → Option Nat
  | [] => some before
  | '_' :: c :: rest => (digitIn? base c).bind fun d => typedDigits? base (before * base + d) rest
  | c :: rest => (digitIn? base c).bind fun d => typedDigits? base (before * base + d) rest

/-- The most digits that a typed integer may have in base ten; in the bases that are powers of
two there is no limit. -/
def mostDigits : Nat := 4300

/-- The letter that announces a base behind a zero. -/
def baseLetter? (base : Nat) : Option Char :=
  match base with
  | 2 => some 'b'
  | 8 => some 'o'
  | 16 => some 'x'
  | _ => none

/-- The digits behind the announcement of their base, if there is one. -/
def withoutBase (base : Nat) (cs : List Char) : List Char :=
  match cs with
  | z :: l :: rest =>
    if digitValue? z == some 0 && (baseLetter? base).any fun b => l == b || l == b.toUpper then
      match rest with
      | '_' :: rest => rest
      | rest => rest
    else cs
  | cs => cs

/-- A number without a sign in a base, as a user types it. -/
def typedNatural? (base : Nat) (cs : List Char) : Option Nat :=
  match withoutBase base cs with
  | [] => none
  | c :: rest =>
    if base = 10 && (cs.filter (· != '_')).length > mostDigits then none
    else (digitIn? base c).bind fun d => typedDigits? base d rest

/-- An integer in a base as a user types it: spaces around it and a sign are allowed. -/
def typedIn? (base : Nat) (cs : List Char) : Option Int :=
  match Number.trimSpaces cs with
  | '-' :: cs => (typedNatural? base cs).map fun n => -(n : Int)
  | '+' :: cs => (typedNatural? base cs).map fun n => (n : Int)
  | cs => (typedNatural? base cs).map fun n => (n : Int)

def typedInteger? (s : String) : Option Int := typedIn? 10 s.toList

/-- A character, or the digit of the usual ten that is worth the same. -/
def usualDigit (c : Char) : Char :=
  match digitValue? c with
  | some d => Char.ofNat (48 + d)
  | none => c

/-- A floating-point number as a user types it: spaces around it and a sign are allowed. -/
def typedFloat? (cs : List Char) : Option Float :=
  Number.floatOfChars? ((Number.trimSpaces cs).map usualDigit)

end ApiTools.Text
