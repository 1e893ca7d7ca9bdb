import ApiTools.Text.Blank

set_option autoImplicit false

/-!
# Markup of messages

Where colour is allowed, a message is written with tags for its style, such as `[dim]` and
`[/dim]`. A tag that stands in the message itself is guarded by a backslash. In what is shown, a
backslash before a bracket that begins no tag is dropped, and of several backslashes before a tag
every second one is kept.
-/

namespace ApiTools.Markup

/-- Whether a character may come after the bracket that begins a tag. -/
def beginsTag (c : Char) : Bool := Text.isSmallLetter c || c = '#' || c = '/' || c = '@'

/-- The inside of a tag, up to the closing bracket, and the rest. -/
def inside? : List Char → Option (List Char × List Char)
  | [] => none
  | ']' :: rest => some ([], rest)
  | c :: rest => if c = '[' then none else (inside? rest).map fun (t, more) => (c :: t, more)

/-- The tag at the beginning of a text, with its brackets, and the rest. -/
def tag? : List Char → Option (List Char × List Char)
  | '[' :: c :: rest =>
    if beginsTag c then (inside? rest).map fun (t, more) => ('[' :: c :: t ++ [']'], more)
    else none
  | _ => none

def hasTag (cs : List Char) : Bool := (tag? cs).isSome

def slashes (n : Nat) : List Char := List.replicate n '\\'

/-- Guards the tags of a text, given the number of backslashes before it. -/
def guardTags (before : Nat) : List Char → List Char
  | [] => slashes before
  | c :: cs =>
    if c = '\\' then guardTags (before + 1) cs
    else if hasTag (c :: cs) then slashes (2 * before + 1) ++ c :: guardTags 0 cs
    else slashes before ++ c :: guardTags 0 cs

/-- Whether exactly one backslash ends a text. -/
def endsInOneSlash (cs : List Char) : Bool := (cs.reverse.takeWhile (· = '\\')).length == 1

/-- A text that is shown as it is: its tags are guarded, and so is a single backslash at its
end. -/
def escape (cs : List Char) : List Char :=
  let guarded := guardTags 0 cs
  if endsInOneSlash guarded then guarded ++ ['\\'] else guarded

/-- What is shown of a text with markup, given the number of backslashes before it and how many
characters of a guarded tag are still to be shown as they are. -/
def plainFrom (before raw : Nat) : List Char → List Char
  | [] => slashes before
  | c :: cs =>
    match raw with
    | raw + 1 => c :: plainFrom 0 raw cs
    | 0 =>
      if c = '\\' then plainFrom (before + 1) 0 cs
      else match tag? (c :: cs) with
        | some (t, _) =>
          if before % 2 = 1 then slashes (before / 2) ++ c :: plainFrom 0 (t.length - 1) cs
          else slashes (before / 2) ++ skip (t.length - 1) cs
        | none =>
          if c = '[' then slashes (before - 1) ++ c :: plainFrom 0 0 cs
          else slashes before ++ c :: plainFrom 0 0 cs
where
  /-- Passes over the characters of a tag. -/
  skip (n : Nat) : List Char → List Char
    | [] => []
    | c :: cs =>
      match n with
      | 0 => plainFrom 0 0 (c :: cs)
      | n + 1 => skip n cs

/-- What is shown of a text with markup. -/
def plain (cs : List Char) : List Char := plainFrom 0 0 cs

/-- A text in the tags of a style. -/
def styled (style : String) (cs : List Char) : List Char :=
  ("[" ++ style ++ "]").toList ++ cs ++ ("[/" ++ style ++ "]").toList

end ApiTools.Markup
