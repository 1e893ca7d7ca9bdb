import ApiTools.Value.Text

set_option autoImplicit false

/-!
# Writing JSON

Values as JSON text, either on indented lines or on one line. What is escaped and whether
members are sorted is decided by a style.
-/

namespace ApiTools.Json

/-- The decisions of a written form. -/
structure Style where
  /-- The number of spaces per level, or one line for everything. -/
  indent : Option Nat
  /-- Whether characters outside the printable part of ASCII are escaped. -/
  ascii : Bool
  /-- Further characters that are escaped. -/
  guarded : List Char
  /-- Whether the members of a mapping are sorted by key. -/
  sorted : Bool

/-- Files and terminal output: two spaces per level, members in their own order. -/
def indented : Style := ⟨some 2, false, [], false⟩

/-- A value inside generated program text: one line of ASCII with sorted members, without the
characters that mean something to a page or close a quoted text. -/
def embedded : Style := ⟨none, true, ['<', '>', '&', '\''], true⟩

def unitEscape (n : Nat) : List Char := '\\' :: 'u' :: Value.hex 4 n

/-- A character as one escape, or as two for a character beyond the first 65536. -/
def numericEscape (c : Char) : List Char :=
  let n := c.toNat
  if n < 0x10000 then unitEscape n
  else unitEscape (0xD800 + (n - 0x10000) / 0x400) ++ unitEscape (0xDC00 + (n - 0x10000) % 0x400)

def Style.escape (style : Style) (c : Char) : List Char :=
  if c = '"' then ['\\', '"']
  else if c = '\\' then ['\\', '\\']
  else if c = '\n' then ['\\', 'n']
  else if c = '\r' then ['\\', 'r']
  else if c = '\t' then ['\\', 't']
  else if c = '\x0c' then ['\\', 'f']
  else if c = '\x08' then ['\\', 'b']
  else if c.toNat < 0x20 || style.guarded.contains c || (style.ascii && 0x7F ≤ c.toNat) then
    numericEscape c
  else [c]

def Style.quote (style : Style) (cs : List Char) : List Char :=
  '"' :: (cs.flatMap style.escape ++ ['"'])

/-- A text in quotes, as a string. -/
def Style.quoted (style : Style) (s : String) : String := String.ofList (style.quote s.toList)

/-- A key as text: numbers and truth values are written as they are as values. -/
def keyText : Value → String
  | .str s => s
  | .null => "null"
  | .bool true => "true"
  | .bool false => "false"
  | .float x => Number.documentLayout.render x
  | v => v.plainText

def Style.lineBreak (style : Style) (depth : Nat) : String :=
  match style.indent with
  | none => ""
  | some n => String.ofList ('\n' :: List.replicate (n * depth) ' ')

/-- Items between brackets; nothing stands between the brackets when there is no item. -/
def Style.enclose (style : Style) (depth : Nat) (left right : String) (items : List String) :
    String :=
  match items with
  | [] => left ++ right
  | items =>
    let separator := match style.indent with
      | none => ", "
      | some _ => "," ++ style.lineBreak (depth + 1)
    left ++ style.lineBreak (depth + 1) ++ separator.intercalate items ++ style.lineBreak depth
      ++ right

/-- Written members in the order of the style. -/
def Style.arrange (style : Style) (items : List (String × String)) : List (String × String) :=
  if style.sorted then items.mergeSort fun a b => a.1 ≤ b.1 else items

mutual

def Style.value (style : Style) (depth : Nat) : Value → String
  | .null => "null"
  | .bool true => "true"
  | .bool false => "false"
  | .int n => toString n
  | .float x => Number.documentLayout.render x
  | .str s => style.quoted s
  | .list xs => style.enclose depth "[" "]" (style.elements (depth + 1) xs)
  | .set xs => style.enclose depth "[" "]" (style.elements (depth + 1) xs)
  | .pair a b =>
    style.enclose depth "[" "]" [style.value (depth + 1) a, style.value (depth + 1) b]
  | .map ms =>
    style.enclose depth "\x7b" "\x7d"
      ((style.arrange (style.members (depth + 1) ms)).map fun (k, v) =>
        style.quoted k ++ ": " ++ v)
  | v => style.quoted v.plainText

def Style.elements (style : Style) (depth : Nat) : List Value → List String
  | [] => []
  | x :: xs => style.value depth x :: style.elements depth xs

def Style.members (style : Style) (depth : Nat) : Members → List (String × String)
  | [] => []
  | (k, v) :: ms => (keyText k, style.value depth v) :: style.members depth ms

end

def write (style : Style) (v : Value) : String := style.value 0 v

end ApiTools.Json
