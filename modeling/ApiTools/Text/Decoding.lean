import ApiTools.Value.Text

set_option autoImplicit false

/-!
# Faults of encodings

Where and why bytes are no UTF-8. A character is a first byte and up to three more; the fault is
at the first byte of the first sequence that is no character.
-/

namespace ApiTools.Text

/-- A fault in a sequence of bytes, with the number of bytes that it covers. -/
inductive EncodingFault where
  | badStart
  | badContinuation (covered : Nat)
  | cutShort (covered : Nat)
  deriving Repr, DecidableEq

/-- The number of bytes that a fault covers. -/
def EncodingFault.covered : EncodingFault → Nat
  | badStart => 1
  | badContinuation covered | cutShort covered => covered

/-- The range of second bytes after a first byte. -/
def secondBytes (b : Nat) : Nat × Nat :=
  if b = 0xE0 then (0xA0, 0xBF) else if b = 0xED then (0x80, 0x9F)
  else if b = 0xF0 then (0x90, 0xBF) else if b = 0xF4 then (0x80, 0x8F)
  else (0x80, 0xBF)

/-- The number of bytes that follow a first byte. -/
def following? (b : Nat) : Option Nat :=
  if b < 0x80 then some 0
  else if 0xC2 ≤ b && b ≤ 0xDF then some 1
  else if 0xE0 ≤ b && b ≤ 0xEF then some 2
  else if 0xF0 ≤ b && b ≤ 0xF4 then some 3
  else none

/-- The fault among the bytes that follow the first byte of a character: the range of the next
one, how many are still to come, and how many there were. -/
def faultAfter (range : Nat × Nat) (missing covered : Nat) : List UInt8 → Option EncodingFault
  | [] => if missing = 0 then none else some (.cutShort covered)
  | b :: rest =>
    if missing = 0 then none
    else if range.1 ≤ b.toNat && b.toNat ≤ range.2 then
      faultAfter (0x80, 0xBF) (missing - 1) (covered + 1) rest
    else some (.badContinuation covered)

/-- The fault of the character at the beginning of bytes, or its length. -/
def firstCharacter (b : UInt8) (rest : List UInt8) : EncodingFault ⊕ Nat :=
  match following? b.toNat with
  | none => .inl .badStart
  | some n =>
    match faultAfter (secondBytes b.toNat) n 1 rest with
    | some f => .inl f
    | none => .inr n

/-- The first fault, with its position and the byte there; `skip` bytes belong to a character
that was found to be in order. -/
def encodingFault? (position skip : Nat) : List UInt8 → Option (Nat × UInt8 × EncodingFault)
  | [] => none
  | b :: rest =>
    match skip with
    | n + 1 => encodingFault? (position + 1) n rest
    | 0 =>
      match firstCharacter b rest with
      | .inl f => some (position, b, f)
      | .inr n => encodingFault? (position + 1) n rest

def describeFault (position : Nat) (b : UInt8) (f : EncodingFault) : String :=
  let about (covered : Nat) : String :=
    "'utf-8' codec can't decode "
      ++ (if covered = 1 then
          "byte 0x" ++ String.ofList (Value.hex 2 b.toNat) ++ " in position " ++ toString position
        else "bytes in position " ++ toString position ++ "-"
          ++ toString (position + covered - 1))
      ++ ": "
  match f with
  | .badStart => about 1 ++ "invalid start byte"
  | .badContinuation covered => about covered ++ "invalid continuation byte"
  | .cutShort covered => about covered ++ "unexpected end of data"

def encodingProblem (bytes : List UInt8) : String :=
  match encodingFault? 0 0 bytes with
  | some (position, b, f) => describeFault position b f
  | none => ""

end ApiTools.Text
