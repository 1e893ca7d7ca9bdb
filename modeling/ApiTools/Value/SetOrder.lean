import ApiTools.Number.Binary
import ApiTools.Value.Basic

set_option autoImplicit false

/-!
# The order of a set

The elements of a set have an order of their own, whatever the order in which they were written.
A set of numbers is kept in a table: the place of a number is the remainder of its hash, and when
the place is taken the next few places are tried before the search goes on elsewhere. The order
of the set is the order of the places. Numbers that are equal have equal hashes, whether they are
integers or doubles.
-/

namespace ApiTools.Value

/-- The prime that hashes are taken by. -/
def hashModulus : Nat := Nat.pow 2 61 - 1

/-- A hash with its sign, as a number of 64 bits. The hash that would be -1 is -2. -/
def signedHash (negative : Bool) (h : Nat) : Nat :=
  if !negative || h = 0 then h else Nat.pow 2 64 - (if h = 1 then 2 else h)

/-- The hash of a number. Dividing by two is multiplying by a power of two here, since the
modulus is one below a power of two. -/
def hash? : Value → Option Nat
  | .bool b => some b.toNat
  | .int n => some (signedHash (n < 0) (n.natAbs % hashModulus))
  | .float x =>
    match Number.Binary.ofFloat x with
    | .nan => none
    | .infinite negative => some (signedHash negative 314159)
    | .finite negative m e =>
      some (signedHash negative (m * Nat.pow 2 (e % 61).toNat % hashModulus))
  | _ => none

def tableSize (count : Nat) : Nat :=
  if count < 5 then 8 else Nat.pow 2 ((2 * count).log2 + 1)

/-- The number of places that are tried behind a place, unless the table ends before. -/
def neighbours : Nat := 9

/-- Looks for a free place from a given one on. What is left of the hash keeps numbers apart that
have met. The fuel bounds the number of leaps. -/
def freePlace (size : Nat) (taken : List Nat) : Nat → Nat → Nat → Nat
  | 0, place, _ => place
  | fuel + 1, place, left =>
    let run := if place + neighbours < size then neighbours else 0
    match (List.range (run + 1)).find? fun k => !taken.contains (place + k) with
    | some k => place + k
    | none => freePlace size taken fuel ((place * 5 + 1 + left / 32) % size) (left / 32)

/-- Puts numbers into a table one after the other. -/
def fillTable (size : Nat) (table : List (Nat × Value)) : List (Nat × Value) → List (Nat × Value)
  | [] => table
  | (h, v) :: rest =>
    let place := freePlace size (table.map (·.1)) (size + 64) (h % size) h
    fillTable size ((place, v) :: table) rest

/-- The elements of a set in the order of the set. Only sets of numbers have a known one; others
stay as they were written. -/
def inSetOrder (xs : List Value) : List Value :=
  match xs.mapM fun x => x.hash?.map fun h => (h, x) with
  | none => xs
  | some hashed =>
    ((fillTable (tableSize xs.length) [] hashed).mergeSort fun a b => a.1 ≤ b.1).map (·.2)

end ApiTools.Value
