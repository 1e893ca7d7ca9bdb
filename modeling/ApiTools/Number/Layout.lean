import ApiTools.Number.Shortest

set_option autoImplicit false

/-!
# The layout of a decimal

Which digits a number has is settled by `shortest`; this module lays them out, either with a
point among the digits or with an exponent, as a record of decisions says.
-/

namespace ApiTools.Number

/-- How a floating-point number is written. -/
structure Layout where
  /-- The least exponent of the leading digit that is written without an exponent mark. -/
  positionalFrom : Int
  /-- The first exponent of the leading digit that is too large to be written positionally. -/
  positionalTo : Int
  /-- The least number of digits of a written exponent. -/
  exponentWidth : Nat
  infinity : String
  nan : String

/-- Zeros in front of a numeral, up to a width. -/
def padded (width : Nat) (n : Nat) : List Char :=
  let ds := Nat.toDigits 10 n
  List.replicate (width - ds.length) '0' ++ ds

/-- Digits with a point after the leading digit and an exponent. -/
def Layout.scientific (f : Layout) (ds : List Char) (lead : Int) : List Char :=
  let mantissa := match ds with
    | [] => []
    | [d] => [d]
    | d :: rest => d :: '.' :: rest
  let sign := if lead < 0 then '-' else '+'
  mantissa ++ 'e' :: sign :: padded f.exponentWidth lead.natAbs

/-- Digits with a point where the value has it, and at least one digit on either side. -/
def positional (ds : List Char) (lead : Int) : List Char :=
  match lead with
  | .ofNat k =>
    if ds.length ≤ k + 1 then ds ++ List.replicate (k + 1 - ds.length) '0' ++ ['.', '0']
    else ds.take (k + 1) ++ '.' :: ds.drop (k + 1)
  | .negSucc k => '0' :: '.' :: (List.replicate k '0' ++ ds)

/-- The text of a double: the shortest digits that read back, laid out as the record says. -/
def Layout.render (f : Layout) (x : Float) : String :=
  match Binary.ofFloat x with
  | .nan => f.nan
  | .infinite negative => (if negative then "-" else "") ++ f.infinity
  | .finite negative m e =>
    let body :=
      if m = 0 then ['0', '.', '0']
      else
        let x := shortest m e
        let ds := Nat.toDigits 10 x.digits
        let lead := x.exponent + ds.length - 1
        if f.positionalFrom ≤ lead && lead < f.positionalTo then positional ds lead
        else f.scientific ds lead
    String.ofList (if negative then '-' :: body else body)

/-- Values in running text: positional from `0.0001` up to sixteen digits before the point,
otherwise an exponent of at least two digits. -/
def plainLayout : Layout := ⟨-4, 16, 2, "inf", "nan"⟩

/-- Values in a document: the layout of running text, with the names that documents use. -/
def documentLayout : Layout := { plainLayout with infinity := "Infinity", nan := "NaN" }

end ApiTools.Number
