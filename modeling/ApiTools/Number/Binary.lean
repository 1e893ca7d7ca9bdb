set_option autoImplicit false

/-!
# The value of a floating-point number

A finite double is `± significand · 2 ^ exponent`. This module takes a double apart into that
form, compares it with integers exactly, and reads a decimal numeral into the nearest double.
-/

namespace ApiTools.Number

/-- What a double stands for; a finite one is `± significand · 2 ^ exponent`. -/
inductive Binary where
  | nan
  | infinite (negative : Bool)
  | finite (negative : Bool) (significand : Nat) (exponent : Int)
  deriving Repr, DecidableEq

/-- Takes the sign, the exponent field and the fraction field of the 64 bits apart. -/
def Binary.ofFloat (x : Float) : Binary :=
  let bits := x.toBits.toNat
  let negative := bits / Nat.pow 2 63 == 1
  let field : Nat := bits / Nat.pow 2 52 % Nat.pow 2 11
  let fraction : Nat := bits % Nat.pow 2 52
  if field = 2047 then
    if fraction = 0 then .infinite negative else .nan
  else if field = 0 then .finite negative fraction (-1074)
  else .finite negative (Nat.pow 2 52 + fraction) ((field : Int) - 1075)

/-- The integer that a double equals, if there is one. -/
def integer? (x : Float) : Option Int :=
  match Binary.ofFloat x with
  | .finite negative m e =>
    let sign (n : Nat) : Int := if negative then -(n : Int) else n
    match e with
    | .ofNat k => some (sign (m * Nat.pow 2 k))
    | .negSucc k =>
      if m % Nat.pow 2 (k + 1) = 0 then some (sign (m / Nat.pow 2 (k + 1))) else none
  | _ => none

/-- Whether the double is neither infinite nor a NaN. -/
def isFinite (x : Float) : Bool :=
  match Binary.ofFloat x with
  | .finite .. => true
  | _ => false

def infinity : Float := Float.ofBits 0x7FF0000000000000

/-- A quiet NaN. -/
def notANumber : Float := Float.ofBits 0x7FF8000000000000

/-- The double nearest to `digits · 10 ^ exponent`. Numerals whose leading digit stands far
beyond either end of the range are settled first, so that no huge power is computed. -/
def ofDecimal (digits : Nat) (exponent : Int) : Float :=
  if digits = 0 then 0.0
  else
    let lead : Int := exponent + (Nat.toDigits 10 digits).length
    if lead > 400 then infinity
    else if lead < -400 then 0.0
    else match exponent with
      | .ofNat k => Float.ofScientific digits false k
      | .negSucc k => Float.ofScientific digits true (k + 1)

/-- The double nearest to an integer. -/
def ofInteger (n : Int) : Float :=
  if n < 0 then -(ofDecimal n.natAbs 0) else ofDecimal n.natAbs 0

end ApiTools.Number
