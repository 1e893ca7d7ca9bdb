import ApiTools.Text.Decimal
import ApiTools.Yaml.Scalar
import ApiTools.Yaml.Token

set_option autoImplicit false

/-!
# From a YAML text to its tokens

The lexer keeps the indentation of the open block collections and, for each level of brackets,
the place of a token that will turn out to be a key if a colon follows it on the same line.
-/

namespace ApiTools.Yaml

/-- The place of a token that may be a key: its number among the tokens and where it starts. -/
structure KeyMark where
  number : Nat
  index : Nat
  line : Nat
  column : Nat
  /-- The token stands where only a key can stand. -/
  required : Bool

/-- The state of the lexer between two tokens. -/
structure Lexer where
  cursor : Cursor
  /-- The tokens so far, the last one first. -/
  emitted : List Token := []
  /-- The number of tokens so far. -/
  count : Nat := 0
  /-- The number of open brackets. -/
  depth : Nat := 0
  /-- The column of the innermost open block collection, or -1. -/
  indent : Int := -1
  /-- The columns of the collections around it. -/
  outer : List Int := []
  /-- Whether a key may begin at the cursor. -/
  keyAllowed : Bool := true
  /-- The possible keys, by level of brackets. -/
  marks : List (Nat × KeyMark) := []

namespace Lexer

def emit (l : Lexer) (t : Token) (c : Cursor) : Lexer :=
  { l with emitted := t :: l.emitted, count := l.count + 1, cursor := c }

def insertAt (l : Lexer) (number : Nat) (t : Token) : Lexer :=
  let later := l.count - number
  { l with
    emitted := l.emitted.take later ++ t :: l.emitted.drop later
    count := l.count + 1 }

/-! ## Possible keys -/

/-- Forgets a possible key at the current level; a required one must not be forgotten. -/
def dropMark (l : Lexer) : Except Fault Lexer :=
  if l.marks.any fun (d, m) => d == l.depth && m.required then .error .malformed
  else .ok { l with marks := l.marks.filter (·.1 != l.depth) }

/-- Remembers the next token as a possible key. -/
def mark (l : Lexer) : Except Fault Lexer :=
  if l.keyAllowed then do
    let c := l.cursor
    let required := l.depth = 0 && l.indent = (c.column : Int)
    let l ← l.dropMark
    return { l with marks := (l.depth, ⟨l.count, c.index, c.line, c.column, required⟩) :: l.marks }
  else .ok l

/-- Whether a possible key stands on an earlier line or too far back. -/
def isStale (l : Lexer) (m : KeyMark) : Bool :=
  m.line != l.cursor.line || 1024 < l.cursor.index - m.index

/-- Forgets the possible keys that cannot become keys any more. -/
def dropStale (l : Lexer) : Except Fault Lexer :=
  if l.marks.any fun (_, m) => l.isStale m && m.required then .error .malformed
  else .ok { l with marks := l.marks.filter fun (_, m) => !l.isStale m }

/-! ## Indentation -/

/-- Closes the block collections that are deeper than a column; brackets suspend indentation. -/
def closeBlocks (column : Int) : List Int → Lexer → Lexer
  | [], l => l
  | i :: outer, l =>
    if l.indent > column then
      closeBlocks column outer { l.emit .blockEnd l.cursor with indent := i, outer := outer }
    else l

def unwind (l : Lexer) (column : Int) : Lexer :=
  if l.depth = 0 then closeBlocks column l.outer l else l

/-- Opens a block collection at a column that is deeper than the current one. -/
def deepen (l : Lexer) (column : Nat) : Option Lexer :=
  if l.indent < (column : Int) then
    some { l with indent := column, outer := l.indent :: l.outer }
  else none

/-! ## Directives, tags and names -/

def number (c : Cursor) : Except Fault (Nat × Cursor) :=
  let (ds, c) := c.span isDigit
  if ds.isEmpty then .error .malformed
  else match Text.typedNatural? 10 ds with
    | some n => .ok (n, c)
    | none => .error .impossible

/-- The handle of a tag: text between exclamation marks, or one mark alone. -/
def tagHandle (c : Cursor) : Except Fault (String × Cursor) :=
  if c.peek != some '!' then .error .malformed
  else if c.peekAt 1 == some ' ' then .ok ("!", c.next)
  else
    let (name, d) := c.next.span isNameChar
    if d.peek == some '!' then .ok (String.ofList ('!' :: name ++ ['!']), d.next)
    else .error .malformed

/-- A character that stands for itself in the rest of a tag. -/
def isTagChar (c : Char) : Bool :=
  isNameChar c || ";/?:@&=+$,_.!~*'()[]".toList.contains c

def percentBytes : List Char → Except Fault (List UInt8)
  | '%' :: a :: b :: rest =>
    match hexDigit? a, hexDigit? b with
    | some a, some b => do return (UInt8.ofNat (a * 16 + b)) :: (← percentBytes rest)
    | _, _ => .error .malformed
  | '%' :: _ => .error .malformed
  | _ => .ok []

/-- The rest of a tag with its percent escapes decoded. -/
def tagText : Nat → Cursor → Except Fault (List Char × Cursor)
  | 0, _ => .error .malformed
  | fuel + 1, c =>
    let (plain, d) := c.span isTagChar
    if d.peek == some '%' then do
      let bytes ← percentBytes d.rest
      match String.fromUTF8? (ByteArray.mk bytes.toArray) with
      | none => .error .malformed
      | some s =>
        let (more, e) ← tagText fuel (d.skip (3 * bytes.length))
        return (plain ++ s.toList ++ more, e)
    else .ok (plain, d)

/-- The rest of a tag, which is not empty. -/
def tagRest (c : Cursor) : Except Fault (String × Cursor) := do
  let (cs, d) ← tagText (c.rest.length + 1) c
  if d.index = c.index then .error .malformed else return (String.ofList cs, d)

/-- A directive, whose line ends behind it. -/
def directive (c : Cursor) : Except Fault (Token × Cursor) := do
  let (name, d) := c.next.span isNameChar
  if name.isEmpty || !isSpaceOrEnd d.peek then .error .malformed
  else if String.ofList name == "YAML" then
    let (major, d) ← number (d.skipWhile (· == ' '))
    if d.peek != some '.' then .error .malformed
    else
      let (_, d) ← number d.next
      if isSpaceOrEnd d.peek then return (.version major, ← d.endLine) else .error .malformed
  else if String.ofList name == "TAG" then
    let (handle, d) ← tagHandle (d.skipWhile (· == ' '))
    if d.peek != some ' ' then .error .malformed
    else
      let (stem, d) ← tagRest (d.skipWhile (· == ' '))
      if isSpaceOrEnd d.peek then return (.tagHandle handle stem, ← d.endLine)
      else .error .malformed
  else return (.otherDirective, ← (d.skipWhile (!isBreak ·)).endLine)

/-- The name behind the character that announces an anchor or an alias. -/
def anchorName (c : Cursor) : Except Fault (String × Cursor) :=
  let (name, d) := c.next.span isNameChar
  let ends := isBlankOrEnd d.peek || d.peek.any fun x => "?:,]\x7d%@`".toList.contains x
  if name.isEmpty || !ends then .error .malformed else .ok (String.ofList name, d)

/-- A tag, written out, as a lone mark, or with a handle. -/
def tag (c : Cursor) : Except Fault (Token × Cursor) := do
  let (token, d) ←
    if c.peekAt 1 == some '<' then do
      let (rest, d) ← tagRest (c.skip 2)
      if d.peek == some '>' then pure (Token.tag none rest, d.next) else .error .malformed
    else if isBlankOrEnd (c.peekAt 1) then pure (Token.tag none "!", c.next)
    else if (c.next.rest.takeWhile fun x => x != ' ' && !isBreak x).contains '!' then do
      let (handle, d) ← tagHandle c
      let (rest, d) ← tagRest d
      pure (Token.tag (some handle) rest, d)
    else do
      let (rest, d) ← tagRest c.next
      pure (Token.tag (some "!") rest, d)
  if isSpaceOrEnd d.peek then return (token, d) else .error .malformed

/-! ## One token -/

/-- Past spaces, comments and line breaks; outside brackets a key may begin a new line. -/
def toNext : Nat → Lexer → Lexer
  | 0, l => l
  | fuel + 1, l =>
    let c := l.cursor.skipWhile (· == ' ')
    let c := if c.peek == some '#' then c.skipWhile (!isBreak ·) else c
    match c.lineBreak? with
    | some (_, d) =>
      toNext fuel { l with cursor := d, keyAllowed := l.keyAllowed || l.depth = 0 }
    | none => { l with cursor := c }

/-- A marker between documents ends every block. -/
def marker (l : Lexer) (t : Token) (c : Cursor) : Except Fault Lexer := do
  let l ← (l.unwind (-1)).dropMark
  return { l.emit t c with keyAllowed := false }

/-- A bracket that opens a collection can begin a key. -/
def openBracket (l : Lexer) (t : Token) : Except Fault Lexer := do
  let l ← l.mark
  return { l.emit t l.cursor.next with depth := l.depth + 1, keyAllowed := true }

/-- A bracket that closes a collection has to have a partner. -/
def closeBracket (l : Lexer) (t : Token) : Except Fault Lexer := do
  let l ← l.dropMark
  if l.depth = 0 then .error .malformed
  else return { l.emit t l.cursor.next with depth := l.depth - 1, keyAllowed := false }

/-- An entry of a block sequence or an announced key, which opens a block if it is deeper than
the current one. -/
def blockItem (l : Lexer) (t opening : Token) (keyAfter : Bool) : Except Fault Lexer := do
  let l ←
    if l.depth != 0 then pure l
    else if !l.keyAllowed then .error .malformed
    else match l.deepen l.cursor.column with
      | some l => pure (l.emit opening l.cursor)
      | none => pure l
  let l ← { l with keyAllowed := keyAfter }.dropMark
  return l.emit t l.cursor.next

/-- A colon makes a key of the token that was marked at this level. -/
def colon (l : Lexer) : Except Fault Lexer := do
  match l.marks.find? (·.1 == l.depth) with
  | some (_, m) =>
    let l := { l with marks := l.marks.filter (·.1 != l.depth), keyAllowed := false }
    let l := l.insertAt m.number .key
    let l := if l.depth != 0 then l else match l.deepen m.column with
      | some l => l.insertAt m.number .blockMappingStart
      | none => l
    return l.emit .value l.cursor.next
  | none => l.blockItem .value .blockMappingStart (l.depth = 0)

/-- A token that can begin a key and is no bracket. -/
def simple (l : Lexer) (scan : Cursor → Except Fault (Token × Cursor)) : Except Fault Lexer := do
  let l ← l.mark
  let (t, c) ← scan l.cursor
  return { l.emit t c with keyAllowed := false }

/-- A block scalar; a key may follow it. -/
def blockScalar (l : Lexer) (fold : Bool) : Except Fault Lexer := do
  let l ← { l with keyAllowed := true }.dropMark
  let (s, c) ← Scalar.block fold l.indent l.cursor
  return l.emit (.scalar s false) c

/-- A plain scalar; a key may follow it if it ended behind a line break. -/
def plainScalar (l : Lexer) : Except Fault Lexer := do
  let l ← l.mark
  let (s, c, broken) := Scalar.plain (l.depth != 0) (l.indent + 1) l.cursor
  return { l.emit (.scalar s true) c with keyAllowed := broken }

/-- The characters that cannot begin a plain scalar. -/
def indicators : List Char := "-?:,[]\x7b\x7d#&*!|>'\"%@`".toList

def plainBegins (l : Lexer) : Bool :=
  match l.cursor.peek with
  | none => false
  | some c =>
    (!isBlankOrEnd (some c) && !indicators.contains c)
      || (!isBlankOrEnd (l.cursor.peekAt 1)
        && (c == '-' || (l.depth = 0 && (c == '?' || c == ':'))))

/-- The next token, whose first character is given. -/
def fetch (l : Lexer) (ch : Char) : Except Fault Lexer :=
  let c := l.cursor
  let flow := l.depth != 0
  let gap := isBlankOrEnd (c.peekAt 1)
  let quotedToken (double : Bool) (c : Cursor) : Except Fault (Token × Cursor) := do
    let (s, d) ← Scalar.quoted double c
    return (.scalar s false, d)
  let named (make : String → Token) (c : Cursor) : Except Fault (Token × Cursor) := do
    let (s, d) ← anchorName c
    return (make s, d)
  if ch == '%' && c.column = 0 then do
    let l ← (l.unwind (-1)).dropMark
    let (t, d) ← directive l.cursor
    return { l.emit t d with keyAllowed := false }
  else if c.column = 0 && c.atMarker && ch == '-' then l.marker .documentStart (c.skip 3)
  else if c.column = 0 && c.atMarker && ch == '.' then l.marker .documentEnd (c.skip 3)
  else if ch == '[' then l.openBracket .flowSequenceStart
  else if ch == '\x7b' then l.openBracket .flowMappingStart
  else if ch == ']' then l.closeBracket .flowSequenceEnd
  else if ch == '\x7d' then l.closeBracket .flowMappingEnd
  else if ch == ',' then do
    let l ← { l with keyAllowed := true }.dropMark
    return l.emit .flowEntry l.cursor.next
  else if ch == '-' && gap then l.blockItem .blockEntry .blockSequenceStart true
  else if ch == '?' && (flow || gap) then l.blockItem .key .blockMappingStart (!flow)
  else if ch == ':' && (flow || gap) then l.colon
  else if ch == '*' then l.simple (named .alias)
  else if ch == '&' then l.simple (named .anchor)
  else if ch == '!' then l.simple tag
  else if ch == '|' && !flow then l.blockScalar false
  else if ch == '>' && !flow then l.blockScalar true
  else if ch == '\'' then l.simple (quotedToken false)
  else if ch == '"' then l.simple (quotedToken true)
  else if l.plainBegins then l.plainScalar
  else .error .malformed

/-- The next token, and whether the text has ended instead. -/
def advance (l : Lexer) : Except Fault (Lexer × Bool) := do
  let l ← (l.toNext (l.cursor.rest.length + 1)).dropStale
  let l := l.unwind l.cursor.column
  match l.cursor.peek with
  | none => return (← (l.unwind (-1)).dropMark, true)
  | some ch => return (← l.fetch ch, false)

/-- The tokens that are known for certain: before a possible key another token may still
come. -/
def certain (l : Lexer) : List Token :=
  let pending := l.marks.filterMap fun (_, m) => if l.isStale m then none else some m.number
  l.emitted.reverse.take (pending.foldl min l.count)

/-- All tokens from here to the end of the text or to a fault; every token takes a character, so
the length of the text is fuel enough. -/
def run : Nat → Lexer → List Token × Option Fault
  | 0, l => (l.certain, some .malformed)
  | fuel + 1, l =>
    match l.advance with
    | .error f => (l.certain, some f)
    | .ok (l, true) => (l.emitted.reverse, none)
    | .ok (l, false) => run fuel l

end Lexer

/-- The tokens of a text, and the fault that ends them if there is one. A byte order mark at the
beginning of the text is no part of it. -/
def tokens (s : List Char) : List Token × Option Fault :=
  if !s.all isAllowed then ([], some .malformed)
  else
    let c := Cursor.start s
    let c := if c.peek == some '\uFEFF' then c.next else c
    Lexer.run (s.length + 2) { cursor := c }

end ApiTools.Yaml
