set_option autoImplicit false

/-!
# Positions in a YAML text

A cursor is what is left of a text together with the place where it starts: its offset, line
and column. Lines end at a line feed, a carriage return, both together, or one of the three
other breaks of the format.
-/

namespace ApiTools.Yaml

/-- Why a text has no value. -/
inductive Fault where
  /-- The text does not follow the grammar, or a tag has no meaning here. -/
  | malformed
  /-- A number, a date or a character code that does not exist. -/
  | impossible
  /-- A text tagged as a truth value that is none. -/
  | unknownTruthValue
  /-- An empty text tagged as a number. -/
  | emptyNumber
  /-- A text tagged as a point in time that is none. -/
  | notATime
  /-- A mapping tagged as a point in time. -/
  | timeOfMapping
  /-- A character code or a place in base sixty beyond the range of its kind of number. -/
  | tooLarge
  /-- A scalar whose text is found in itself. -/
  | endless
  deriving Repr, DecidableEq

/-- What is left of a text and where it starts. -/
structure Cursor where
  rest : List Char
  index : Nat
  line : Nat
  column : Nat

/-! ## Classes of characters; `none` is the end of the text -/

def isBreak (c : Char) : Bool :=
  c == '\n' || c == '\r' || c == '\x85' || c == '\u2028' || c == '\u2029'

def isBreakOrEnd (c : Option Char) : Bool := c.all isBreak

/-- A space, a line break or the end of the text. -/
def isSpaceOrEnd (c : Option Char) : Bool := c.all fun c => c == ' ' || isBreak c

/-- A space, a tab, a line break or the end of the text. -/
def isBlankOrEnd (c : Option Char) : Bool := c.all fun c => c == ' ' || c == '\t' || isBreak c

/-- A character of an anchor, a directive or the name of a tag handle. -/
def isNameChar (c : Char) : Bool :=
  ('0' ≤ c && c ≤ '9') || ('A' ≤ c && c ≤ 'Z') || ('a' ≤ c && c ≤ 'z') || c == '-' || c == '_'

def isDigit (c : Char) : Bool := '0' ≤ c && c ≤ '9'

def hexDigit? (c : Char) : Option Nat :=
  if '0' ≤ c && c ≤ '9' then some (c.toNat - 48)
  else if 'a' ≤ c && c ≤ 'f' then some (c.toNat - 87)
  else if 'A' ≤ c && c ≤ 'F' then some (c.toNat - 55)
  else none

/-- A character that a text may hold at all. -/
def isAllowed (c : Char) : Bool :=
  let n := c.toNat
  n == 0x09 || n == 0x0A || n == 0x0D || (0x20 ≤ n && n ≤ 0x7E) || n == 0x85
    || (0xA0 ≤ n && n ≤ 0xD7FF) || (0xE000 ≤ n && n ≤ 0xFFFD) || 0x10000 ≤ n

namespace Cursor

def start (s : List Char) : Cursor := ⟨s, 0, 0, 0⟩

def peek (c : Cursor) : Option Char := c.rest.head?

/-- The character `n` places further on. -/
def peekAt (c : Cursor) (n : Nat) : Option Char := (c.rest.drop n).head?

def startsWith (c : Cursor) (word : String) : Bool := word.toList.isPrefixOf c.rest

/-- One character further; a byte order mark takes no column, and the two characters of one
line break count as one line. -/
def next (c : Cursor) : Cursor :=
  match c.rest with
  | [] => c
  | x :: rest =>
    if (isBreak x && x != '\r') || (x == '\r' && rest.head? != some '\n') then
      ⟨rest, c.index + 1, c.line + 1, 0⟩
    else if x == '\uFEFF' then ⟨rest, c.index + 1, c.line, c.column⟩
    else ⟨rest, c.index + 1, c.line, c.column + 1⟩

/-- `n` characters further. -/
def skip (c : Cursor) : Nat → Cursor
  | 0 => c
  | n + 1 => c.next.skip n

/-- Past the characters of a class. -/
def skipWhile (c : Cursor) (p : Char → Bool) : Cursor := c.skip (c.rest.takeWhile p).length

/-- The characters of a class at the cursor, and the place behind them. -/
def span (c : Cursor) (p : Char → Bool) : List Char × Cursor :=
  let cs := c.rest.takeWhile p
  (cs, c.skip cs.length)

/-- The line break at the cursor as one character, and the place behind it. -/
def lineBreak? (c : Cursor) : Option (Char × Cursor) :=
  match c.rest with
  | '\r' :: '\n' :: _ => some ('\n', c.skip 2)
  | x :: _ =>
    if x == '\u2028' || x == '\u2029' then some (x, c.next)
    else if isBreak x then some ('\n', c.next)
    else none
  | [] => none

/-- Past a line break, if there is one. -/
def skipBreak (c : Cursor) : Cursor :=
  match c.lineBreak? with
  | some (_, c) => c
  | none => c

/-- Whether a line that begins here is a document marker. -/
def atMarker (c : Cursor) : Bool :=
  (c.startsWith "---" || c.startsWith "...") && isBlankOrEnd (c.peekAt 3)

/-- Past spaces and a comment; the line has to end there. -/
def endLine (c : Cursor) : Except Fault Cursor :=
  let c := c.skipWhile (· == ' ')
  let c := if c.peek == some '#' then c.skipWhile (!isBreak ·) else c
  if isBreakOrEnd c.peek then .ok c.skipBreak else .error .malformed

end Cursor

end ApiTools.Yaml
