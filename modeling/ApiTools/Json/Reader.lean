import ApiTools.Value.Basic

set_option autoImplicit false

/-!
# Reading JSON

A reader for JSON texts that says exactly where and why a text is not one. The names `NaN`,
`Infinity` and `-Infinity` are read as numbers. Every step gives the rest of the text together
with the fact that it is shorter, and that is what makes the reader end.
-/

namespace ApiTools.Json

/-- Why a text is not JSON. -/
inductive Fault where
  | byteOrderMark
  | value
  | propertyName
  | colon
  | comma
  | extraData
  | controlCharacter
  | escape
  | unicodeEscape
  | unterminated
  /-- An integer with more digits than are read. -/
  | tooManyDigits (count : Nat)
  deriving Repr, DecidableEq

/-- The most digits that an integer may have. -/
def mostDigits : Nat := 4300

def Fault.message : Fault → String
  | .byteOrderMark => "Unexpected UTF-8 BOM (decode using utf-8-sig)"
  | .value => "Expecting value"
  | .propertyName => "Expecting property name enclosed in double quotes"
  | .colon => "Expecting ':' delimiter"
  | .comma => "Expecting ',' delimiter"
  | .extraData => "Extra data"
  | .controlCharacter => "Invalid control character at"
  | .escape => "Invalid \\escape"
  | .unicodeEscape => "Invalid \\uXXXX escape"
  | .unterminated => "Unterminated string starting at"
  | .tooManyDigits count =>
    "Exceeds the limit (" ++ toString mostDigits
      ++ " digits) for integer string conversion: value has " ++ toString count
      ++ " digits; use sys.set_int_max_str_digits() to increase the limit"

/-- A fault and the number of characters from its place to the end of the text. -/
structure Failure where
  fault : Fault
  left : Nat
  deriving Repr, DecidableEq

/-- The rest of a text after something was read from it: shorter than before. -/
abbrev Rest (s : List Char) := { r : List Char // r.length < s.length }

/-- What a reading step gives: a result and the shorter rest. -/
abbrev Step (α : Type) (s : List Char) := Except Failure (α × Rest s)

def isSpace (c : Char) : Bool := c == ' ' || c == '\t' || c == '\n' || c == '\r'

/-- The text from the first character on that is no space. -/
def skipSpace (s : List Char) : List Char := s.dropWhile isSpace

theorem length_skipSpace_le (s : List Char) : (skipSpace s).length ≤ s.length :=
  (List.dropWhile_sublist _).length_le

/-! ## Texts -/

def hexDigit? (c : Char) : Option Nat :=
  if '0' ≤ c && c ≤ '9' then some (c.toNat - 48)
  else if 'a' ≤ c && c ≤ 'f' then some (c.toNat - 87)
  else if 'A' ≤ c && c ≤ 'F' then some (c.toNat - 55)
  else none

/-- The number that four digits in base sixteen stand for. -/
def hex4? (a b c d : Char) : Option Nat := do
  let a ← hexDigit? a
  let b ← hexDigit? b
  let c ← hexDigit? c
  let d ← hexDigit? d
  return ((a * 16 + b) * 16 + c) * 16 + d

/-- The character after a backslash that is not a `u`. -/
def simpleEscape? : Char → Option Char
  | '"' => some '"'
  | '\\' => some '\\'
  | '/' => some '/'
  | 'b' => some '\x08'
  | 'f' => some '\x0c'
  | 'n' => some '\n'
  | 'r' => some '\r'
  | 't' => some '\t'
  | _ => none

/-- The character of a code unit; half of a pair that stands alone has none and is replaced. -/
def unitChar (n : Nat) : Char :=
  if 0xD800 ≤ n && n < 0xE000 then '\uFFFD' else Char.ofNat n

/-- The character of a `u` escape, read from the text behind the `u`. A first half of a pair takes
the second half along when one follows; the closing quote has to come later in any case. -/
def readUnit (s : List Char) : Step Char s :=
  match s with
  | a :: b :: c :: d :: rest =>
    match hex4? a b c d with
    | none => .error ⟨.unicodeEscape, s.length + 1⟩
    | some n =>
      if rest.isEmpty then .error ⟨.unicodeEscape, s.length + 1⟩
      else if 0xD800 ≤ n && n < 0xDC00 then
        match rest with
        | '\\' :: 'u' :: a' :: b' :: c' :: d' :: e :: more =>
          match hex4? a' b' c' d' with
          | none => .error ⟨.unicodeEscape, more.length + 6⟩
          | some n' =>
            if 0xDC00 ≤ n' && n' < 0xE000 then
              .ok (Char.ofNat (0x10000 + (n - 0xD800) * 1024 + (n' - 0xDC00)),
                ⟨e :: more, by simp only [List.length_cons]; omega⟩)
            else
              .ok (unitChar n, ⟨'\\' :: 'u' :: a' :: b' :: c' :: d' :: e :: more,
                by simp only [List.length_cons]; omega⟩)
        | rest => .ok (unitChar n, ⟨rest, by simp only [List.length_cons]; omega⟩)
      else .ok (unitChar n, ⟨rest, by simp only [List.length_cons]; omega⟩)
  | _ => .error ⟨.unicodeEscape, s.length + 1⟩

/-- The text up to the closing quote. `start` is the length of the text from the opening quote
on. -/
def readText (start : Nat) (s : List Char) : Step (List Char) s :=
  match s with
  | [] => .error ⟨.unterminated, start⟩
  | '"' :: rest => .ok ([], ⟨rest, by simp⟩)
  | '\\' :: [] => .error ⟨.unterminated, start⟩
  | '\\' :: 'u' :: rest => do
    let (c, ⟨r, h⟩) ← readUnit rest
    let (cs, ⟨r', h'⟩) ← readText start r
    return (c :: cs, ⟨r', by grind⟩)
  | '\\' :: c :: rest =>
    match simpleEscape? c with
    | none => .error ⟨.escape, rest.length + 2⟩
    | some e => do
      let (cs, ⟨r, h⟩) ← readText start rest
      return (e :: cs, ⟨r, by grind⟩)
  | c :: rest =>
    if c.toNat ≤ 0x1F then .error ⟨.controlCharacter, rest.length + 1⟩
    else do
      let (cs, ⟨r, h⟩) ← readText start rest
      return (c :: cs, ⟨r, by grind⟩)
termination_by s.length
decreasing_by all_goals grind

/-! ## Numbers -/

def digitsValue (ds : List Char) : Nat := ds.foldl (fun n d => n * 10 + (d.toNat - 48)) 0

def isDigit (c : Char) : Bool := '0' ≤ c && c ≤ '9'

/-- The digits at the beginning, and the rest. -/
def spanDigits (s : List Char) : List Char × List Char := (s.takeWhile isDigit, s.dropWhile isDigit)

/-- The digits of a fraction; a point with no digit behind it does not belong to the number. -/
def fraction (s : List Char) : Option (List Char × List Char) :=
  match s with
  | '.' :: rest =>
    let (ds, rest) := spanDigits rest
    if ds.isEmpty then none else some (ds, rest)
  | _ => none

/-- The value of an exponent; a mark with no digit behind it does not belong to the number. -/
def exponent (s : List Char) : Option (Int × List Char) :=
  match s with
  | e :: rest =>
    if e = 'e' || e = 'E' then
      let (negative, rest) := match rest with
        | '-' :: r => (true, r)
        | '+' :: r => (false, r)
        | r => (false, r)
      let (ds, rest) := spanDigits rest
      if ds.isEmpty then none
      else
        let n : Int := digitsValue ds
        some (if negative then -n else n, rest)
    else none
  | [] => none

/-- The number with the given sign at the beginning of a text, or what is wrong with it, and what
is left of the text. -/
def readUnsigned (negative : Bool) (s : List Char) : Option (Except Fault Value × List Char) :=
  let (whole, rest) := match s with
    | '0' :: rest => (['0'], rest)
    | s => spanDigits s
  if whole.isEmpty then none
  else
    let frac := fraction rest
    let rest := (frac.map (·.2)).getD rest
    let exp := exponent rest
    let rest := (exp.map (·.2)).getD rest
    if frac.isNone && exp.isNone then
      let n : Int := digitsValue whole
      if whole.length > mostDigits then some (.error (.tooManyDigits whole.length), rest)
      else some (.ok (.int (if negative then -n else n)), rest)
    else
      let places := (frac.map (·.1)).getD []
      let x := Number.ofDecimal (digitsValue (whole ++ places))
        ((exp.map (·.1)).getD 0 - places.length)
      some (.ok (.float (if negative then -x else x)), rest)

/-! ## Values -/

/-- The words that stand for a value. -/
def names : List (String × Value) :=
  [("null", .null), ("true", .bool true), ("false", .bool false),
   ("NaN", .float Number.notANumber), ("Infinity", .float Number.infinity),
   ("-Infinity", .float (-Number.infinity))]

/-- The word at the beginning of a text, and what is left. -/
def readName (s : List Char) : Option (Value × List Char) :=
  names.findSome? fun (w, v) =>
    if w.toList.isPrefixOf s then some (v, s.drop w.length) else none

/-- A value that is neither a text nor a collection. -/
def readPlain (s : List Char) : Step Value s :=
  let found : Option (Except Fault Value × List Char) := match readName s with
    | some (v, rest) => some (.ok v, rest)
    | none => match s with
      | '-' :: rest => readUnsigned true rest
      | s => readUnsigned false s
  match found with
  | some (.error f, rest) => .error ⟨f, rest.length⟩
  | some (.ok v, rest) =>
    if h : rest.length < s.length then .ok (v, ⟨rest, h⟩) else .error ⟨.value, s.length⟩
  | none => .error ⟨.value, s.length⟩

/-- The text behind one given character and the spaces around it. -/
def after? (c : Char) (s : List Char) : Option (Rest s) :=
  match h : skipSpace s with
  | [] => none
  | d :: rest =>
    if d = c then
      some ⟨skipSpace rest, by
        have h₁ := length_skipSpace_le s
        have h₂ := length_skipSpace_le rest
        simp [h] at h₁
        omega⟩
    else none

mutual

def readValue (s : List Char) : Step Value s :=
  match s with
  | '"' :: rest => do
    let (cs, ⟨r, h⟩) ← readText (rest.length + 1) rest
    return (.str (String.ofList cs), ⟨r, by simp; omega⟩)
  | '\x7b' :: rest =>
    match after? '\x7d' rest with
    | some ⟨r, h⟩ => .ok (.map [], ⟨r, by simp; omega⟩)
    | none => do
      have h := length_skipSpace_le rest
      let (ms, ⟨r, h'⟩) ← readMembers (skipSpace rest)
      return (.map (Value.ofMembers ms), ⟨r, by simp; omega⟩)
  | '[' :: rest =>
    match after? ']' rest with
    | some ⟨r, h⟩ => .ok (.list [], ⟨r, by simp; omega⟩)
    | none => do
      have h := length_skipSpace_le rest
      let (xs, ⟨r, h'⟩) ← readElements (skipSpace rest)
      return (.list xs, ⟨r, by simp; omega⟩)
  | s => readPlain s
termination_by (s.length, 0)
decreasing_by all_goals (simp; omega)

/-- The members of a mapping up to its closing brace; the text begins with the first key. -/
def readMembers (s : List Char) : Step Members s :=
  match s with
  | '"' :: rest => do
    let (key, ⟨r₁, h₁⟩) ← readText (rest.length + 1) rest
    match after? ':' r₁ with
    | none => .error ⟨.colon, (skipSpace r₁).length⟩
    | some ⟨r₂, h₂⟩ =>
      let (value, ⟨r₃, h₃⟩) ← readValue r₂
      let entry := (Value.str (String.ofList key), value)
      match after? '\x7d' r₃ with
      | some ⟨r₄, h₄⟩ => return ([entry], ⟨r₄, by simp; omega⟩)
      | none =>
        match after? ',' r₃ with
        | none => .error ⟨.comma, (skipSpace r₃).length⟩
        | some ⟨r₄, h₄⟩ =>
          let (ms, ⟨r₅, h₅⟩) ← readMembers r₄
          return (entry :: ms, ⟨r₅, by simp; omega⟩)
  | s => .error ⟨.propertyName, s.length⟩
termination_by (s.length, 1)
decreasing_by all_goals (simp; omega)

/-- The elements of a list up to its closing bracket; the text begins with the first element. -/
def readElements (s : List Char) : Step (List Value) s := do
  let (value, ⟨r₁, h₁⟩) ← readValue s
  match after? ']' r₁ with
  | some ⟨r₂, h₂⟩ => return ([value], ⟨r₂, by omega⟩)
  | none =>
    match after? ',' r₁ with
    | none => .error ⟨.comma, (skipSpace r₁).length⟩
    | some ⟨r₂, h₂⟩ =>
      let (xs, ⟨r₃, h₃⟩) ← readElements r₂
      return (value :: xs, ⟨r₃, by omega⟩)
termination_by (s.length, 1)
decreasing_by all_goals omega

end

/-! ## Whole texts -/

/-- Reads a whole text; nothing but spaces may stand around the value. -/
def parse (s : List Char) : Except Failure Value :=
  match s with
  | '\uFEFF' :: _ => .error ⟨.byteOrderMark, s.length⟩
  | _ => do
    let (v, ⟨rest, _⟩) ← readValue (skipSpace s)
    match skipSpace rest with
    | [] => return v
    | extra => .error ⟨.extraData, extra.length⟩

/-- The wording of a failure: what was expected, and where as line, column and offset. -/
def Failure.message (text : List Char) (f : Failure) : String :=
  let offset := text.length - f.left
  let front := text.take offset
  let line := front.count '\n' + 1
  let column := (front.reverse.takeWhile (· != '\n')).length + 1
  f.fault.message ++ ": line " ++ toString line ++ " column " ++ toString column
    ++ " (char " ++ toString offset ++ ")"

/-- Why a text is refused. -/
inductive Refusal where
  /-- The text is not JSON. -/
  | notJson (message : String)
  /-- An integer in the text has too many digits. -/
  | tooLong (message : String)
  deriving Repr, DecidableEq

def Refusal.message : Refusal → String
  | notJson m | tooLong m => m

/-- Reads a whole text, or says why it is refused. -/
def read (s : String) : Except Refusal Value :=
  match parse s.toList with
  | .ok v => .ok v
  | .error f =>
    match f.fault with
    | .tooManyDigits _ => .error (.tooLong f.fault.message)
    | _ => .error (.notJson (f.message s.toList))

end ApiTools.Json
