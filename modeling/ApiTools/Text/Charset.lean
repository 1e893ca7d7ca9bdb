import ApiTools.Text.Blank
import ApiTools.Text.Case
import ApiTools.Text.CharacterTable
import ApiTools.Text.Decoding

set_option autoImplicit false

/-!
# Sets of characters

A server may tell by what set of characters its text was turned into bytes. The bytes that are no
character there are read as replacement characters, U+FFFD, so that only one thing can go wrong:
the order of bytes may be left to a mark at the beginning that is missing.
-/

namespace ApiTools.Text

/-- The order of the bytes of a number. -/
inductive ByteOrder where
  | little
  | big
  deriving Repr, DecidableEq

/-- A way of turning characters into bytes. -/
inductive Charset where
  | ascii
  | utf8
  /-- UTF-8 with a mark at the beginning that is no part of the text. -/
  | markedUtf8
  /-- UTF-16; if no order is given, a mark at the beginning tells it. -/
  | utf16 (order : Option ByteOrder)
  /-- UTF-32, with the same rule. -/
  | utf32 (order : Option ByteOrder)
  | table (t : CharacterTable)
  deriving Repr, DecidableEq

def ByteOrder.number (o : ByteOrder) (bytes : List UInt8) : Nat :=
  let add (n : Nat) (b : UInt8) : Nat := n * 256 + b.toNat
  match o with
  | .little => bytes.reverse.foldl add 0
  | .big => bytes.foldl add 0

/-! ## Decoding -/

/-- Half of a pair of units that stands for a character beyond the first 65536. -/
def isFirstHalf (n : Nat) : Bool := 0xD800 ≤ n && n < 0xDC00

/-- The other half. -/
def isSecondHalf (n : Nat) : Bool := 0xDC00 ≤ n && n < 0xE000

/-- The characters of bytes in UTF-8; `skip` bytes belong to what was found before. -/
def ofUtf8 (skip : Nat) : List UInt8 → List Char
  | [] => []
  | b :: rest =>
    match skip with
    | n + 1 => ofUtf8 n rest
    | 0 =>
      match firstCharacter b rest with
      | .inl f => '\uFFFD' :: ofUtf8 (f.covered - 1) rest
      | .inr n =>
        let head := if n = 0 then b.toNat else b.toNat % 2 ^ (6 - n)
        Char.ofNat ((rest.take n).foldl (fun a c => a * 64 + c.toNat % 64) head) :: ofUtf8 n rest

def ofUtf16 (o : ByteOrder) : List UInt8 → List Char
  | [] => []
  | [_] => ['\uFFFD']
  | a :: b :: rest =>
    let n := o.number [a, b]
    if isFirstHalf n then
      match rest with
      | c :: d :: rest' =>
        let m := o.number [c, d]
        if isSecondHalf m then
          Char.ofNat (0x10000 + (n - 0xD800) * 1024 + (m - 0xDC00)) :: ofUtf16 o rest'
        else '\uFFFD' :: ofUtf16 o (c :: d :: rest')
      | _ => ['\uFFFD']
    else if isSecondHalf n then '\uFFFD' :: ofUtf16 o rest
    else Char.ofNat n :: ofUtf16 o rest

def ofUtf32 (o : ByteOrder) : List UInt8 → List Char
  | [] => []
  | a :: b :: c :: d :: rest =>
    let n := o.number [a, b, c, d]
    (if n.isValidChar then Char.ofNat n else '\uFFFD') :: ofUtf32 o rest
  | _ => ['\uFFFD']

/-- The order of bytes that a mark at the beginning tells, and the bytes after it; none if there
are bytes enough for a mark and they are none. -/
def marked? (width : Nat) (bytes : List UInt8) : Option (ByteOrder × List UInt8) :=
  let mark := bytes.take width
  if ByteOrder.little.number mark = 0xFEFF then some (.little, bytes.drop width)
  else if ByteOrder.big.number mark = 0xFEFF then some (.big, bytes.drop width)
  else if bytes.length < width then some (.little, bytes)
  else none

/-- The text of bytes; none if the mark is missing that would tell their order. -/
def Charset.decode? (c : Charset) (bytes : List UInt8) : Option String :=
  String.ofList <$> match c with
  | .ascii => some (bytes.map fun b => if b < 0x80 then Char.ofNat b.toNat else '\uFFFD')
  | .utf8 => some (ofUtf8 0 bytes)
  | .markedUtf8 =>
    match ofUtf8 0 bytes with
    | '\uFEFF' :: cs => some cs
    | cs => some cs
  | .utf16 (some o) => some (ofUtf16 o bytes)
  | .utf16 none => (marked? 2 bytes).map fun (o, rest) => ofUtf16 o rest
  | .utf32 (some o) => some (ofUtf32 o bytes)
  | .utf32 none => (marked? 4 bytes).map fun (o, rest) => ofUtf32 o rest
  | .table t => some (t.decode bytes)

/-! ## Names -/

/-- A name in its plain form: small letters, digits and points, and a low line for every run of
other characters between them. -/
def plainName (name : String) : String :=
  let keep (c : Char) : Bool := isAsciiAlnum c || c == '.'
  String.ofList (joinWith ['_'] (runs keep (lower name.toList)))

/-- The sets of characters that are no tables, with their names and the aliases of these. -/
def unicodeCharsets : List (String × List String × Charset) := [
  ("ascii", ["646", "ansi_x3.4_1968", "ansi_x3_4_1968", "ansi_x3.4_1986", "cp367", "csascii",
    "ibm367", "iso646_us", "iso_646.irv_1991", "iso_ir_6", "us", "us_ascii"], .ascii),
  ("utf_8", ["u8", "utf", "utf8", "utf8_ucs2", "utf8_ucs4", "cp65001"], .utf8),
  ("utf_8_sig", [], .markedUtf8),
  ("utf_16", ["u16", "utf16"], .utf16 none),
  ("utf_16_le", ["unicodelittleunmarked", "utf_16le"], .utf16 (some .little)),
  ("utf_16_be", ["unicodebigunmarked", "utf_16be"], .utf16 (some .big)),
  ("utf_32", ["u32", "utf32"], .utf32 none),
  ("utf_32_le", ["utf_32le"], .utf32 (some .little)),
  ("utf_32_be", ["utf_32be"], .utf32 (some .big))]

def charsets : List (String × List String × Charset) :=
  unicodeCharsets ++ characterTables.map fun t => (t.name, t.aliases, .table t)

/-- The set of characters of a name. In an alias a point may stand for a low line. -/
def charsetOf? (name : String) : Option Charset :=
  let plain := plainName name
  let pointless := String.ofList (plain.toList.map fun c => if c == '.' then '_' else c)
  charsets.findSome? fun (name, aliases, c) =>
    if name == plain || aliases.contains plain || aliases.contains pointless then some c else none

/-! ## The type of a document -/

/-- The parameters of the type of a document, cut at the semicolons outside quotes. -/
def parameters (isQuoted : Bool) (before : List Char) : List Char → List (List Char)
  | [] => [before.reverse]
  | ';' :: cs =>
    if isQuoted then parameters isQuoted (';' :: before) cs
    else before.reverse :: parameters false [] cs
  | '\\' :: '"' :: cs => parameters isQuoted ('"' :: '\\' :: before) cs
  | '"' :: cs => parameters (!isQuoted) ('"' :: before) cs
  | c :: cs => parameters isQuoted (c :: before) cs

/-- The set of characters that the type of a document tells, if it is known. -/
def charsetOfType? (contentType : String) : Option Charset :=
  ((parameters false [] contentType.toList).findSome? fun p =>
    let (name, value) := (cut? ['='] p).getD (p, [])
    if lower (trim name) == "charset".toList then some (String.ofList value) else none).bind
    charsetOf?

end ApiTools.Text
