import ApiTools.Yaml.Cursor

set_option autoImplicit false

/-!
# What kind of value a node has

A tag names the kind of a node. A plain scalar without a tag gets one from its spelling: the
words for null and truth values, integers in four bases and in base sixty, decimal numbers,
dates and times, and the two signs for merging and for a default value.
-/

namespace ApiTools.Yaml

/-- The kind of a node. -/
inductive Tag where
  | null
  | bool
  | int
  | float
  | binary
  | timestamp
  | omap
  | pairs
  | set
  | str
  | seq
  | map
  | merge
  | value
  | unknown
  deriving Repr, DecidableEq

namespace Tag

/-- The beginning that the names of the known tags share. -/
def stem : String := "tag:yaml.org,2002:"

def names : List (String × Tag) :=
  [("null", null), ("bool", bool), ("int", int), ("float", float), ("binary", binary),
   ("timestamp", timestamp), ("omap", omap), ("pairs", pairs), ("set", set), ("str", str),
   ("seq", seq), ("map", map), ("merge", merge), ("value", value)]

def ofName (name : String) : Tag :=
  ((names.find? fun (n, _) => stem ++ n == name).map (·.2)).getD unknown

/-! ## Spellings -/

def nullWords : List String := ["", "~", "null", "Null", "NULL"]

def boolWords : List String :=
  ["yes", "Yes", "YES", "no", "No", "NO", "true", "True", "TRUE", "false", "False", "FALSE",
   "on", "On", "ON", "off", "Off", "OFF"]

/-- A digit or an underscore between digits. -/
def isSpacedDigit (c : Char) : Bool := isDigit c || c == '_'

/-- The text behind a sign, if it has one. -/
def unsigned : List Char → List Char
  | '+' :: cs | '-' :: cs => cs
  | cs => cs

/-- Whether the rest of a text is a signed exponent, or nothing at all. -/
def isExponent : List Char → Bool
  | [] => true
  | e :: s :: ds =>
    (e == 'e' || e == 'E') && (s == '+' || s == '-') && !ds.isEmpty && ds.all isDigit
  | _ => false

/-- One to two digits below sixty. -/
def isSixty : List Char → Bool
  | [a] => isDigit a
  | [a, b] => '0' ≤ a && a ≤ '5' && isDigit b
  | _ => false

def colonParts (cs : List Char) : List (List Char) := cs.splitOn ':'

/-- Digits with underscores that begin with a digit. -/
def isDigits : List Char → Bool
  | c :: cs => isDigit c && cs.all isSpacedDigit
  | [] => false

/-- Digits, a point, digits that may be missing, and an exponent that may be missing; or the
same with nothing before the point but then no sign. -/
def isDecimal (cs : List Char) : Bool :=
  let body := unsigned cs
  let whole := body.takeWhile isSpacedDigit
  match body.dropWhile isSpacedDigit with
  | '.' :: rest =>
    isExponent (rest.dropWhile isSpacedDigit)
      && (isDigits whole
        || (whole.isEmpty && body.length = cs.length && rest.head?.any isDigit))
  | _ => false

/-- Digits in base sixty with a point at the end and digits after it that may be missing. -/
def isSixtyDecimal (cs : List Char) : Bool :=
  match colonParts (unsigned cs) with
  | whole :: part :: parts =>
    let parts := part :: parts
    isDigits whole && parts.dropLast.all isSixty &&
      match parts.getLast? with
      | some last =>
        isSixty (last.takeWhile isDigit) &&
          match last.dropWhile isDigit with
          | '.' :: rest => rest.all isSpacedDigit
          | _ => false
      | none => false
  | _ => false

def isFloat (cs : List Char) : Bool :=
  isDecimal cs || isSixtyDecimal cs
    || [".inf", ".Inf", ".INF"].contains (String.ofList (unsigned cs))
    || [".nan", ".NaN", ".NAN"].contains (String.ofList cs)

/-- A digit in base eight or an underscore. -/
def isSpacedOctal (c : Char) : Bool := ('0' ≤ c && c ≤ '7') || c == '_'

/-- Digits in base two, eight, ten, sixteen or sixty. -/
def isInteger (cs : List Char) : Bool :=
  let body := unsigned cs
  match body with
  | ['0'] => true
  | '0' :: 'b' :: ds => !ds.isEmpty && ds.all fun c => c == '0' || c == '1' || c == '_'
  | '0' :: 'x' :: ds => !ds.isEmpty && ds.all fun c => (hexDigit? c).isSome || c == '_'
  | '0' :: ds => ds.all isSpacedOctal
  | c :: _ =>
    isDigit c &&
      match colonParts body with
      | [ds] => ds.all isSpacedDigit
      | ds :: parts => ds.all isSpacedDigit && parts.all isSixty
      | [] => false
  | [] => false

/-! ## Points in time -/

/-- The fields of a date, and of a time of day if there is one. -/
structure TimeText where
  year : List Char
  month : List Char
  day : List Char
  /-- Hour, minute, second and the digits of the fraction. -/
  clock : Option (List Char × List Char × List Char × List Char)
  /-- The sign, hours and minutes of an offset, or a plain `Z`. -/
  zone : Option (Option (Bool × List Char × List Char))

/-- Between `least` and `most` digits at the beginning of a text, as many as there are. -/
def digits? (least most : Nat) (cs : List Char) : Option (List Char × List Char) :=
  let ds := (cs.take most).takeWhile isDigit
  if least ≤ ds.length then some (ds, cs.drop ds.length) else none

def behind? (c : Char) : List Char → Option (List Char)
  | d :: cs => if c = d then some cs else none
  | [] => none

/-- The offset from universal time at the end of a text. -/
def zone? (cs : List Char) : Option (Option (Option (Bool × List Char × List Char))) :=
  match cs.dropWhile fun c => c == ' ' || c == '\t' with
  | [] => if cs.isEmpty then some none else none
  | ['Z'] => some (some none)
  | s :: rest =>
    if s == '+' || s == '-' then do
      let (hours, rest) ← digits? 1 2 rest
      match rest with
      | [] => some (some (some (s == '-', hours, [])))
      | _ =>
        let (minutes, rest) ← digits? 2 2 (← behind? ':' rest)
        if rest.isEmpty then some (some (some (s == '-', hours, minutes))) else none
    else none

/-- Reads a date, or a date and a time of day. Month, day and hour may have one digit. -/
def time? (cs : List Char) : Option TimeText := do
  let (year, rest) ← digits? 4 4 cs
  let (month, rest) ← digits? 1 2 (← behind? '-' rest)
  let (day, rest) ← digits? 1 2 (← behind? '-' rest)
  match rest with
  | [] => some ⟨year, month, day, none, none⟩
  | t :: more =>
    let rest ←
      if t == 'T' || t == 't' then some more
      else if t == ' ' || t == '\t' then some (more.dropWhile fun c => c == ' ' || c == '\t')
      else none
    let (hour, rest) ← digits? 1 2 rest
    let (minute, rest) ← digits? 2 2 (← behind? ':' rest)
    let (second, rest) ← digits? 2 2 (← behind? ':' rest)
    let (fraction, rest) := match rest with
      | '.' :: rest => (rest.takeWhile isDigit, rest.dropWhile isDigit)
      | rest => ([], rest)
    let zone ← zone? rest
    some ⟨year, month, day, some (hour, minute, second, fraction), zone⟩

/-- Whether a text is a point in time by its spelling: in a date alone, month and day have two
digits. -/
def isTime (cs : List Char) : Bool :=
  match time? cs with
  | some t => t.clock.isSome || (t.month.length = 2 && t.day.length = 2)
  | none => false

/-! ## The tag of a plain scalar -/

/-- The text without one line feed at its end. -/
def withoutLastBreak (cs : List Char) : List Char :=
  if cs.getLast? == some '\n' then cs.dropLast else cs

/-- The characters that begin a node of another form; one of them alone has no kind. -/
def marks : List String := ["!", "&", "*"]

/-- The kind of a plain scalar, from its spelling. One line feed at the end does not count,
unless there is nothing else. -/
def ofPlain (text : String) : Tag :=
  let cs := withoutLastBreak text.toList
  let word := String.ofList cs
  if text == "\n" then str
  else if nullWords.contains word then null
  else if boolWords.contains word then bool
  else if isFloat cs then float
  else if isInteger cs then int
  else if isTime cs then timestamp
  else if word == "<<" then merge
  else if word == "=" then value
  else if marks.contains word then unknown
  else str

end Tag

end ApiTools.Yaml
