set_option autoImplicit false

/-!
# Blanks and runs

A text is cut into the maximal runs of the characters of a class. The words of a text are its
runs of characters that are not blank; names and slugs are made of other runs.
-/

namespace ApiTools.Text

/-- White space of all scripts, and the four information separators of ASCII. -/
def isBlank (c : Char) : Bool :=
  let n := c.toNat
  (9 ≤ n && n ≤ 13) || (28 ≤ n && n ≤ 32) || n == 0x85 || n == 0xA0 || n == 0x1680
    || (0x2000 ≤ n && n ≤ 0x200A) || n == 0x2028 || n == 0x2029 || n == 0x202F
    || n == 0x205F || n == 0x3000

/-- The pieces between the characters that are not kept, empty ones included. -/
def pieces (keep : Char → Bool) : List Char → List (List Char)
  | [] => [[]]
  | c :: cs =>
    if keep c then
      match pieces keep cs with
      | [] => [[c]]
      | p :: ps => (c :: p) :: ps
    else [] :: pieces keep cs

/-- The maximal runs of kept characters, in order. -/
def runs (keep : Char → Bool) (cs : List Char) : List (List Char) :=
  (pieces keep cs).filter (!·.isEmpty)

/-- The words of a text: its runs of characters that are not blank. -/
def words (cs : List Char) : List (List Char) := runs (!isBlank ·) cs

def joinWith (sep : List Char) : List (List Char) → List Char
  | [] => []
  | [w] => w
  | w :: ws => w ++ sep ++ joinWith sep ws

/-- Drops the characters of a class at both ends. -/
def trimWhere (p : Char → Bool) (cs : List Char) : List Char :=
  ((cs.dropWhile p).reverse.dropWhile p).reverse

def trim (cs : List Char) : List Char := trimWhere isBlank cs

def isAllBlank (s : String) : Bool := s.toList.all isBlank

/-! ## Digits and letters of ASCII -/

def isAsciiDigit (c : Char) : Bool := '0' ≤ c && c ≤ '9'

def isSmallLetter (c : Char) : Bool := 'a' ≤ c && c ≤ 'z'

def isCapitalLetter (c : Char) : Bool := 'A' ≤ c && c ≤ 'Z'

def isAsciiAlnum (c : Char) : Bool := isAsciiDigit c || isSmallLetter c || isCapitalLetter c

/-! ## Parts of a text -/

/-- The rest of a text after a given beginning. -/
def after? : List Char → List Char → Option (List Char)
  | [], cs => some cs
  | _ :: _, [] => none
  | h :: hs, c :: cs => if h = c then after? hs cs else none

def beginsWith (head cs : List Char) : Bool := (after? head cs).isSome

def occursIn (part : List Char) : List Char → Bool
  | [] => part.isEmpty
  | c :: cs => beginsWith part (c :: cs) || occursIn part cs

/-- The text before and after the first occurrence of a part. -/
def cut? (part : List Char) : List Char → Option (List Char × List Char)
  | [] => if part.isEmpty then some ([], []) else none
  | c :: cs =>
    match after? part (c :: cs) with
    | some rest => some ([], rest)
    | none => (cut? part cs).map fun (front, rest) => (c :: front, rest)

def contains (s part : String) : Bool := occursIn part.toList s.toList

end ApiTools.Text
