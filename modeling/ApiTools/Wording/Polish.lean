import ApiTools.Text.Alphanumeric
import ApiTools.Text.Blank
import ApiTools.Text.Case

set_option autoImplicit false

/-!
# Better wording

Summaries and descriptions are often terse: `find pet by ID`. Polishing one collapses its blanks,
expands a few phrases and words, begins it with a capital letter and, for a description, ends it
with a point. Nothing is made up: a text without letters stays without them.
-/

namespace ApiTools.Wording

open ApiTools.Text

/-- What a text is for. -/
inductive Kind where
  | summary
  | description
  deriving Repr, DecidableEq

/-! ## Phrases -/

/-- A rule for texts with a certain opening, and with a joint somewhere after it if the rule names
one. Opening and joint are replaced, what is around the joint stays. -/
structure Phrase where
  opening : String
  newOpening : String
  joint : Option (String × String) := none

/-- The phrases, in the order in which they are tried. -/
def phrases : List Phrase :=
  [⟨"find ", "retrieve ", some (" by ", " using ")⟩,
   ⟨"get ", "retrieve ", some (" by ", " using ")⟩,
   ⟨"create new ", "create a new ", none⟩,
   ⟨"update ", "update ", some (" by ", " using ")⟩,
   ⟨"delete ", "remove ", some (" by ", " using ")⟩]

/-- The rest of a text after a beginning in small letters, where case is ignored. -/
def afterFolded? : List Char → List Char → Option (List Char)
  | [], cs => some cs
  | _ :: _, [] => none
  | h :: hs, c :: cs => if matchesLetter h c then afterFolded? hs cs else none

/-- What stands before and after the last occurrence of a joint that has something on both
sides. -/
def lastJoint? (joint : List Char) : List Char → Option (List Char × List Char)
  | [] => none
  | c :: cs =>
    match lastJoint? joint cs with
    | some (front, back) => some (c :: front, back)
    | none =>
      match afterFolded? joint cs with
      | some (b :: back) => some ([c], b :: back)
      | _ => none

/-- Applies a phrase to a text that has its form. -/
def Phrase.apply (p : Phrase) (cs : List Char) : List Char :=
  match afterFolded? p.opening.toList cs with
  | none | some [] => cs
  | some (r :: rest) =>
    match p.joint with
    | none => p.newOpening.toList ++ r :: rest
    | some (joint, newJoint) =>
      match lastJoint? joint.toList (r :: rest) with
      | none => cs
      | some (front, back) => p.newOpening.toList ++ front ++ newJoint.toList ++ back

/-! ## Words -/

/-- The words that are replaced, as they are written. -/
def words : List (String × String) :=
  [("Gets", "Retrieves"), ("Get", "Retrieve"), ("Deletes", "Removes"), ("Delete", "Remove"),
   ("IDs", "identifiers"), ("ID", "identifier")]

/-- The replacement of a word, or the word itself. -/
def replaceWord (word : List Char) : List Char :=
  match words.find? fun (w, _) => w.toList == word with
  | some (_, new) => new.toList
  | none => word

/-- Replaces the words of a text, given the beginning of the current one, last letter first. A
word goes as far as there are letters, digits and underscores. -/
def replaceWords (word : List Char) : List Char → List Char
  | [] => replaceWord word.reverse
  | c :: cs =>
    if isWordChar c then replaceWords (c :: word) cs
    else replaceWord word.reverse ++ c :: replaceWords [] cs

/-! ## Texts -/

/-- A text with single blanks between its words. -/
def collapse (cs : List Char) : List Char := joinWith [' '] (Text.words cs)

def capitalize : List Char → List Char
  | [] => []
  | c :: cs => upperChar c ++ cs

def closingMarks : List Char := ['.', '!', '?']

/-- A text that ends as a sentence does. -/
def close (cs : List Char) : List Char :=
  match cs.getLast? with
  | some c => if closingMarks.contains c then cs else cs ++ ['.']
  | none => cs ++ ['.']

def polishChars (kind : Kind) (cs : List Char) : List Char :=
  match collapse cs with
  | [] => []
  | c :: rest =>
    let expanded := replaceWords [] (phrases.foldl (fun t p => p.apply t) (c :: rest))
    let text := capitalize expanded
    match kind with
    | .description => close text
    | .summary => text

def polish (kind : Kind) (text : String) : String :=
  String.ofList (polishChars kind text.toList)

end ApiTools.Wording
