import ApiTools.Number.Binary

set_option autoImplicit false

/-!
# The shortest decimal of a double

Among the decimals that read back as a given double, the one with the fewest digits is chosen,
and of those the nearest. The search runs over digit counts from one up; on each decimal grid
only the two neighbours of the value need a test, because if any point of the grid lies in the
rounding interval, so does one of the neighbours.
-/

namespace ApiTools.Number

/-- The decimal `digits · 10 ^ exponent`. -/
structure Decimal where
  digits : Nat
  exponent : Int
  deriving Repr, DecidableEq

/-- The rounding interval of `significand · 2 ^ exponent` over a common denominator: the value
is `value / denominator`, the interval runs from `low` to `high`, and its ends belong to it
when `closed`. -/
structure Interval where
  low : Nat
  value : Nat
  high : Nat
  denominator : Nat
  closed : Bool
  deriving Repr

/-- The reals that round to `m · 2 ^ e`, in quarters of the last place: the gap below a power
of two is half as wide, unless the exponent is already the least one. -/
def Interval.of (m : Nat) (e : Int) : Interval :=
  let below := if m = Nat.pow 2 52 && e != -1074 then 1 else 2
  let scale (n : Nat) : Nat := match e with
    | .ofNat k => n * Nat.pow 2 k
    | .negSucc _ => n
  let denominator : Nat := match e with
    | .ofNat _ => 4
    | .negSucc k => 4 * Nat.pow 2 (k + 1)
  ⟨scale (4 * m - below), scale (4 * m), scale (4 * m + 2), denominator, m % 2 = 0⟩

/-- Whether `n / d` lies in the interval. -/
def Interval.holds (i : Interval) (n d : Nat) : Bool :=
  let a := n * i.denominator
  if i.closed then i.low * d ≤ a && a ≤ i.high * d else i.low * d < a && a < i.high * d

/-- `digits · 10 ^ exponent` as a fraction. -/
def Decimal.fraction (x : Decimal) : Nat × Nat :=
  match x.exponent with
  | .ofNat k => (x.digits * Nat.pow 10 k, 1)
  | .negSucc k => (x.digits, Nat.pow 10 (k + 1))

/-- The greatest multiple of `10 ^ exponent` that is not above the value, in units of
`10 ^ exponent`. -/
def Interval.floorAt (i : Interval) (exponent : Int) : Nat :=
  match exponent with
  | .ofNat k => i.value / (i.denominator * Nat.pow 10 k)
  | .negSucc k => i.value * Nat.pow 10 (k + 1) / i.denominator

/-- Twice the distance test: whether the value is nearer to `d · 10 ^ exponent` than to the
next point of that grid, and whether it is as near. -/
def Interval.compareNeighbours (i : Interval) (d : Nat) (exponent : Int) : Ordering :=
  let (n, q) := Decimal.fraction ⟨2 * d + 1, exponent⟩
  compare (2 * i.value * q) (n * i.denominator)

/-- The neighbour of the value on one decimal grid that reads back, the nearer one if both do;
an exact tie goes to the even digit. -/
def Interval.onGrid? (i : Interval) (exponent : Int) : Option Decimal :=
  let d := i.floorAt exponent
  let reads (k : Nat) : Bool :=
    let (n, q) := Decimal.fraction ⟨k, exponent⟩
    k != 0 && i.holds n q
  match reads d, reads (d + 1) with
  | true, false => some ⟨d, exponent⟩
  | false, true => some ⟨d + 1, exponent⟩
  | false, false => none
  | true, true =>
    match i.compareNeighbours d exponent with
    | .lt => some ⟨d, exponent⟩
    | .gt => some ⟨d + 1, exponent⟩
    | .eq => if d % 2 = 0 then some ⟨d, exponent⟩ else some ⟨d + 1, exponent⟩

/-- Drops the zeros at the end of the digits. -/
def Decimal.trim (x : Decimal) : Decimal :=
  let kept := (Nat.toDigits 10 x.digits).reverse.dropWhile (· == '0')
  let zeros := (Nat.toDigits 10 x.digits).length - kept.length
  ⟨x.digits / Nat.pow 10 zeros, x.exponent + zeros⟩

/-- The exponent of the leading digit of `n / d`: the greatest `k` with `10 ^ k ≤ n / d`. -/
def leadingExponent (n d : Nat) : Int :=
  if d ≤ n then ((Nat.toDigits 10 (n / d)).length : Int) - 1
  else
    let places := (Nat.toDigits 10 ((d + n - 1) / n - 1)).length
    (- places : Int)

/-- The fewest digits that read back as `m · 2 ^ e`, for a positive `m`. -/
def shortest (m : Nat) (e : Int) : Decimal :=
  let i := Interval.of m e
  let lead := leadingExponent i.value i.denominator
  match (List.range 17).findSome? (fun n : Nat => i.onGrid? (lead - n)) with
  | some x => x.trim
  | none => ⟨i.floorAt (lead - 16), lead - 16⟩

end ApiTools.Number
