import ApiTools.Yaml.Cursor

set_option autoImplicit false

/-!
# The text of scalars

A scalar is written plainly, in quotes, or as a block of indented lines. In each form a line
break in the source can be part of the text, become a space, or vanish; this module says which.
-/

namespace ApiTools.Yaml.Scalar

/-! ## Quoted scalars -/

/-- The character after a backslash that stands for another one. -/
def escape? : Char → Option Char
  | '0' => some '\x00'
  | 'a' => some '\x07'
  | 'b' => some '\x08'
  | 't' | '\t' => some '\t'
  | 'n' => some '\n'
  | 'v' => some '\x0b'
  | 'f' => some '\x0c'
  | 'r' => some '\r'
  | 'e' => some '\x1b'
  | ' ' => some ' '
  | '"' => some '"'
  | '\\' => some '\\'
  | '/' => some '/'
  | 'N' => some '\x85'
  | '_' => some '\xA0'
  | 'L' => some '\u2028'
  | 'P' => some '\u2029'
  | _ => none

/-- The number of digits of a numeric escape. -/
def escapeWidth? : Char → Option Nat
  | 'x' => some 2
  | 'u' => some 4
  | 'U' => some 8
  | _ => none

/-- The character of a code, which has at most 31 bits; half of a surrogate pair has none and is
replaced. -/
def codeChar (n : Nat) : Except Fault Char :=
  if 0x7FFFFFFF < n then .error .tooLarge
  else if 0x10FFFF < n then .error .impossible
  else if 0xD800 ≤ n && n < 0xE000 then .ok '\uFFFD'
  else .ok (Char.ofNat n)

/-- The number that digits in base sixteen stand for. -/
def hexValue? (ds : List Char) : Option Nat :=
  ds.foldlM (fun n d => (hexDigit? d).map (n * 16 + ·)) 0

/-- Empty lines inside quotes, as the breaks they leave; a document marker must not begin a
line there. The fuel bounds the number of lines. -/
def quotedBreaks : Nat → Cursor → Except Fault (List Char × Cursor)
  | 0, _ => .error .malformed
  | fuel + 1, c =>
    if c.atMarker then .error .malformed
    else
      let d := c.skipWhile fun x => x == ' ' || x == '\t'
      match d.lineBreak? with
      | none => .ok ([], d)
      | some (b, e) => do
        let (bs, f) ← quotedBreaks fuel e
        return (b :: bs, f)

/-- What a line break in flowing text and the empty lines after it become: a single break is a
space. -/
def folded (b : Char) (breaks : List Char) : List Char :=
  if b != '\n' then b :: breaks
  else if breaks.isEmpty then [' ']
  else breaks

/-- One part of a quoted scalar: a character, an escape, or blanks with the line breaks among
them. There is none where the closing quote stands. -/
def quotedPart (fuel : Nat) (double : Bool) (c : Cursor) :
    Except Fault (Option (List Char × Cursor)) :=
  match c.peek with
  | none => .error .malformed
  | some x =>
    if !double && x == '\'' then
      if c.peekAt 1 == some '\'' then .ok (some (['\''], c.skip 2)) else .ok none
    else if double && x == '"' then .ok none
    else if double && x == '\\' then
      match c.peekAt 1 with
      | none => .error .malformed
      | some y =>
        match escape? y, escapeWidth? y with
        | some z, _ => .ok (some ([z], c.skip 2))
        | none, some width =>
          let digits := (c.rest.drop 2).take width
          match hexValue? digits with
          | some n =>
            if digits.length = width then do
              let z ← codeChar n
              return some ([z], c.skip (2 + width))
            else .error .malformed
          | none => .error .malformed
        | none, none =>
          match c.next.lineBreak? with
          | none => .error .malformed
          | some (_, d) => do return some (← quotedBreaks fuel d)
    else if x == ' ' || x == '\t' || isBreak x then
      let (blanks, d) := c.span fun x => x == ' ' || x == '\t'
      match d.lineBreak? with
      | some (b, e) => do
        let (bs, f) ← quotedBreaks fuel e
        return some (folded b bs, f)
      | none => if d.peek.isNone then .error .malformed else .ok (some (blanks, d))
    else .ok (some ([x], c.next))

/-- The text up to the closing quote, and the place behind the quote. The fuel bounds the number
of parts. -/
def quotedParts : Nat → Bool → Cursor → Except Fault (List Char × Cursor)
  | 0, _, _ => .error .malformed
  | fuel + 1, double, c => do
    match ← quotedPart fuel double c with
    | none => return ([], c.next)
    | some (cs, d) =>
      let (more, e) ← quotedParts fuel double d
      return (cs ++ more, e)

/-- A quoted scalar from its opening quote on: no text has more parts than characters. -/
def quoted (double : Bool) (c : Cursor) : Except Fault (String × Cursor) := do
  let (cs, d) ← quotedParts (c.rest.length + 1) double c.next
  return (String.ofList cs, d)

/-! ## Plain scalars -/

/-- The characters that may follow a colon inside brackets when it ends a plain scalar. -/
def isFlowIndicator (c : Char) : Bool :=
  c == ',' || c == '[' || c == ']' || c == '\x7b' || c == '\x7d'

/-- Whether a plain scalar ends before the first character of the text. -/
def plainEnds (flow : Bool) : List Char → Bool
  | [] => true
  | c :: rest =>
    isBlankOrEnd (some c)
      || (c == ':' && (isBlankOrEnd rest.head? || (flow && rest.head?.any isFlowIndicator)))
      || (flow && (c == '?' || isFlowIndicator c))

/-- The number of characters up to the end of a run of a plain scalar. -/
def plainRun (flow : Bool) : List Char → Nat
  | [] => 0
  | c :: rest => if plainEnds flow (c :: rest) then 0 else plainRun flow rest + 1

/-- Spaces and empty lines after a line break inside a plain scalar, as the breaks they leave;
nothing when a document marker follows. -/
def plainBreaks : Nat → Cursor → Option (List Char) × Cursor
  | 0, c => (none, c)
  | fuel + 1, c =>
    if c.atMarker && c.column = 0 then (none, c)
    else
      let d := c.skipWhile (· == ' ')
      match d.lineBreak? with
      | none => (some [], d)
      | some (b, e) =>
        let (bs, f) := plainBreaks fuel e
        (bs.map (b :: ·), f)

/-- What stands between two runs of a plain scalar, the place behind it, and whether a line
break was among it; no text means that the scalar ends. -/
def plainGap (fuel : Nat) (c : Cursor) : List Char × Cursor × Bool :=
  let (spaces, d) := c.span (· == ' ')
  match d.lineBreak? with
  | none => (spaces, d, false)
  | some (b, e) =>
    match plainBreaks fuel e with
    | (none, f) => ([], f, true)
    | (some bs, f) => (folded b bs, f, true)

/-- The runs of a plain scalar from the cursor on, the place behind the scalar, and whether the
scalar ended behind a line break. -/
def plainRuns (flow : Bool) (indent : Int) : Nat → List Char → Bool → Cursor →
    List Char × Cursor × Bool
  | 0, _, broken, c => ([], c, broken)
  | fuel + 1, gap, broken, c =>
    if c.peek == some '#' then ([], c, broken)
    else
      let n := plainRun flow c.rest
      if n = 0 then ([], c, broken)
      else
        let run := gap ++ c.rest.take n
        let (gap', d, broken') := plainGap fuel (c.skip n)
        if gap'.isEmpty || d.peek == some '#' || (!flow && d.column < indent) then
          (run, d, broken')
        else
          let (more, e, broken'') := plainRuns flow indent fuel gap' broken' d
          (run ++ more, e, broken'')

/-- A plain scalar, the place behind it, and whether it ended behind a line break. -/
def plain (flow : Bool) (indent : Int) (c : Cursor) : String × Cursor × Bool :=
  let (cs, d, broken) := plainRuns flow indent (c.rest.length + 1) [] false c
  (String.ofList cs, d, broken)

/-! ## Block scalars -/

/-- What happens to the line breaks at the end of a block. -/
inductive Chomping where
  | clip
  | strip
  | keep
  deriving Repr, DecidableEq

/-- The sign and the digit behind the character that opens a block, in either order. -/
def blockHeader (c : Cursor) : Except Fault (Chomping × Option Nat × Cursor) := do
  let sign (c : Cursor) : Chomping × Cursor :=
    if c.peek == some '+' then (.keep, c.next)
    else if c.peek == some '-' then (.strip, c.next)
    else (.clip, c)
  let digit (c : Cursor) : Except Fault (Option Nat × Cursor) :=
    match c.peek with
    | some d =>
      if d == '0' then .error .malformed
      else if isDigit d then .ok (some (d.toNat - 48), c.next)
      else .ok (none, c)
    | none => .ok (none, c)
  let (chomping, c') := sign c
  let (increment, c') ← digit c'
  let (chomping, c') := if chomping == .clip then sign c' else (chomping, c')
  if isSpaceOrEnd c'.peek then return (chomping, increment, c') else .error .malformed

def skipIndent (indent : Nat) (c : Cursor) : Cursor :=
  c.skip (min (indent - c.column) (c.rest.takeWhile (· == ' ')).length)

/-- Empty lines of a block with a known indentation, as the breaks they leave. -/
def blockBreaks (indent : Nat) : Nat → Cursor → List Char × Cursor
  | 0, c => ([], c)
  | fuel + 1, c =>
    let d := skipIndent indent c
    match d.lineBreak? with
    | none => ([], d)
    | some (b, e) =>
      let (bs, f) := blockBreaks indent fuel e
      (b :: bs, f)

/-- Empty lines at the beginning of a block, and the largest indentation among them and the
first line with text. -/
def blockIndentation : Nat → Cursor → List Char × Nat × Cursor
  | 0, c => ([], 0, c)
  | fuel + 1, c =>
    let d := c.skipWhile (· == ' ')
    match d.lineBreak? with
    | none => ([], d.column, d)
    | some (b, e) =>
      let (bs, deepest, f) := blockIndentation fuel e
      (b :: bs, max d.column deepest, f)

/-- The lines of a block: its text with the breaks between the lines, then the break and the
empty lines after the last one. -/
def blockLines (fold : Bool) (indent : Nat) : Nat → List Char → Cursor →
    List Char × List Char × List Char × Cursor
  | 0, breaks, c => ([], [], breaks, c)
  | fuel + 1, breaks, c =>
    if c.column = indent && c.peek.isSome then
      let dark (c : Cursor) : Bool := c.peek != some ' ' && c.peek != some '\t'
      let (text, d) := c.span (!isBreak ·)
      let (lineEnd, e) := match d.lineBreak? with
        | some (b, e) => ([b], e)
        | none => ([], d)
      let (breaks', f) := blockBreaks indent fuel e
      if f.column = indent && f.peek.isSome then
        let joint :=
          if fold && lineEnd == ['\n'] && dark c && dark f then
            if breaks'.isEmpty then [' '] else []
          else lineEnd
        let (more, lastEnd, tail, g) := blockLines fold indent fuel breaks' f
        (breaks ++ text ++ joint ++ more, lastEnd, tail, g)
      else (breaks ++ text, lineEnd, breaks', f)
    else ([], [], breaks, c)

/-- A block scalar from the character on that opens it, inside a block of the given
indentation. -/
def block (fold : Bool) (outer : Int) (c : Cursor) : Except Fault (String × Cursor) := do
  let (chomping, increment, c) ← blockHeader c.next
  let c ← c.endLine
  let least := max 1 (outer + 1).toNat
  let fuel := c.rest.length + 1
  let (breaks, indent, c) := match increment with
    | none =>
      let (breaks, deepest, c) := blockIndentation fuel c
      (breaks, max least deepest, c)
    | some n =>
      let indent := least + n - 1
      let (breaks, c) := blockBreaks indent fuel c
      (breaks, indent, c)
  let (text, lastEnd, tail, c) := blockLines fold indent fuel breaks c
  let ending := match chomping with
    | .strip => []
    | .clip => lastEnd
    | .keep => lastEnd ++ tail
  return (String.ofList (text ++ ending), c)

end ApiTools.Yaml.Scalar
