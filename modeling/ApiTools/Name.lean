import ApiTools.Text.Blank
import ApiTools.Text.Case

set_option autoImplicit false

/-!
# Names

Tool names, namespaces, slugs, identifiers and environment variables are all derived from free
text. Each is a sequence of runs of letters and digits of ASCII, joined by one separator.
-/

namespace ApiTools.Name

open ApiTools.Text

/-! ## Words with an underscore between them -/

/-- Puts an underscore between a small letter or digit and a capital letter after it. -/
def breakBeforeCapital : List Char → List Char
  | a :: b :: rest =>
    if (isSmallLetter a || isAsciiDigit a) && isCapitalLetter b then
      a :: '_' :: breakBeforeCapital (b :: rest)
    else a :: breakBeforeCapital (b :: rest)
  | cs => cs

/-- Puts an underscore before the last capital letter of a run that a small letter follows. -/
def breakInsideCapitals : List Char → List Char
  | a :: b :: c :: rest =>
    if isCapitalLetter a && isCapitalLetter b && isSmallLetter c then
      a :: '_' :: breakInsideCapitals (b :: c :: rest)
    else a :: breakInsideCapitals (b :: c :: rest)
  | cs => cs

/-- The words of a name in small letters, joined by single underscores: a word ends where the
letter case says so and at every character that is neither a letter nor a digit of ASCII. -/
def snakeChars (cs : List Char) : List Char :=
  joinWith ['_'] (runs isAsciiAlnum (lower (breakInsideCapitals (breakBeforeCapital cs))))

/-- A name in small letters with underscores: `getPetById` becomes `get_pet_by_id`. -/
def snake (name : String) : String := String.ofList (snakeChars name.toList)

/-- The namespace for the tools of one document; `api` when the label has no letter or digit. -/
def namespaceOf (label : String) : String :=
  let s := snake label
  if s.isEmpty then "api" else s

/-! ## Identifiers of a generated program -/

/-- The reserved words of the generated program's language that have small letters only. -/
def reservedWords : List String :=
  ["and", "as", "assert", "async", "await", "break", "class", "continue", "def", "del", "elif",
   "else", "except", "finally", "for", "from", "global", "if", "import", "in", "is", "lambda",
   "nonlocal", "not", "or", "pass", "raise", "return", "try", "while", "with", "yield"]

/-- A name as an identifier: a leading digit gets an underscore before it, a reserved word gets
one after it, and a name without letters and digits is called `param`. -/
def identifier (name : String) : String :=
  let base := match snakeChars name.toList with
    | [] => "param".toList
    | c :: cs => if isAsciiDigit c then '_' :: c :: cs else c :: cs
  let word := String.ofList base
  if reservedWords.contains word then word ++ "_" else word

/-! ## Environment variables and slugs -/

/-- The environment variable that holds a credential of a security scheme: the scheme's name in
capital letters, every other character than a letter or digit of ASCII as an underscore, and
the kind of credential. -/
def envVariable (scheme kind : String) : String :=
  String.ofList ((upper scheme.toList).map fun c => if isAsciiAlnum c then c else '_')
    ++ "_" ++ kind

/-- The runs of small letters and digits of a text in small letters, joined by hyphens; `api`
when there is none. -/
def slug (text : String) : String :=
  match runs (fun c => isAsciiDigit c || isSmallLetter c) (lower text.toList) with
  | [] => "api"
  | ws => String.ofList (joinWith ['-'] ws)

/-! ## Path segments -/

/-- The parts of a path that are neither empty nor a template such as `{id}`. -/
def literalParts (path : String) : List (List Char) :=
  (runs (· != '/') path.toList).filter (·.head? != some '\x7b')

/-- The literal parts of a path without their punctuation; a part of punctuation alone is
dropped. -/
def literalSegments (path : String) : List String :=
  ((literalParts path).map (·.filter isAsciiAlnum)).filter (!·.isEmpty) |>.map String.ofList

end ApiTools.Name
