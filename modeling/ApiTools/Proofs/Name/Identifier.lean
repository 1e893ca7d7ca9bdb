import ApiTools.Proofs.Name
import ApiTools.Proofs.Text.Case

set_option autoImplicit false

/-!
# Identifiers

The words of a text have small letters and digits only, and they are found again in every name that
is spelled from them, with or without an underscore in front or behind. So the underscores that
make a name an identifier do no harm when an identifier is made of it once more: it stays the same.
-/

namespace ApiTools.Name

open ApiTools.Text

/-! ## Words in small letters -/

/-- A small letter or a digit of ASCII. -/
def isSmallAlnum (c : Char) : Bool := isAsciiDigit c || isSmallLetter c

/-- A text of small letters and digits of ASCII that is not empty. -/
def IsSmallWord (w : List Char) : Prop := w ≠ [] ∧ ∀ c ∈ w, isSmallAlnum c = true

instance (w : List Char) : Decidable (IsSmallWord w) :=
  decidable_of_iff ((!w.isEmpty && w.all isSmallAlnum) = true) (by simp [IsSmallWord])

theorem isAsciiAlnum_eq (c : Char) : isAsciiAlnum c = (isSmallAlnum c || isCapitalLetter c) := rfl

theorem isWord_of_isSmallWord {w : List Char} (h : IsSmallWord w) : IsWord w :=
  ⟨h.1, fun c hc => by rw [isAsciiAlnum_eq, h.2 c hc, Bool.true_or]⟩

/-- Whatever the script of a text is, its words are in small letters. -/
theorem isSmallWord_of_mem_snakeWords {name : String} {w : List Char} (h : w ∈ snakeWords name) :
    IsSmallWord w := by
  refine ⟨ne_nil_of_mem_runs h, fun c hc => ?_⟩
  have halnum : isAsciiAlnum c = true := keep_of_mem_runs h hc
  have hsmall : isCapitalLetter c = false :=
    not_isCapitalLetter_of_mem_lower (mem_of_mem_runs h hc)
  rwa [isAsciiAlnum_eq, hsmall, Bool.or_false] at halnum

/-! ## Finding words again -/

theorem breakBeforeCapital_of_small {cs : List Char} (h : ∀ c ∈ cs, isCapitalLetter c = false) :
    breakBeforeCapital cs = cs := by
  fun_induction breakBeforeCapital cs with
  | case1 a b rest hbreak ih => simp [h b] at hbreak
  | case2 a b rest _ ih => rw [ih fun c hc => h c (List.mem_cons_of_mem a hc)]
  | case3 cs _ => rfl

theorem breakInsideCapitals_of_small {cs : List Char}
    (h : ∀ c ∈ cs, isCapitalLetter c = false) : breakInsideCapitals cs = cs := by
  fun_induction breakInsideCapitals cs with
  | case1 a b c rest hbreak ih => simp [h a] at hbreak
  | case2 a b c rest _ ih => rw [ih fun d hd => h d (List.mem_cons_of_mem a hd)]
  | case3 cs _ => rfl

/-- In a text in ASCII without capital letters the words are its runs of letters and digits. -/
theorem snakeWords_eq_runs {name : String}
    (h : ∀ c ∈ name.toList, c.toNat < 128 ∧ isCapitalLetter c = false) :
    snakeWords name = runs isAsciiAlnum name.toList := by
  have hsmall : ∀ c ∈ name.toList, isCapitalLetter c = false := fun c hc => (h c hc).2
  unfold snakeWords
  rw [breakBeforeCapital_of_small hsmall, breakInsideCapitals_of_small hsmall, lower_of_ascii h]

/-- A character of an identifier. -/
def IsIdentifierChar (c : Char) : Prop := isSmallAlnum c = true ∨ c = '_'

theorem IsIdentifierChar.ascii {c : Char} (h : IsIdentifierChar c) :
    c.toNat < 128 ∧ isCapitalLetter c = false := by
  rcases h with h | rfl
  · have h : (isAsciiDigit c || isSmallLetter c) = true := h
    simp only [isAsciiDigit, isSmallLetter, Bool.or_eq_true, Bool.and_eq_true, decide_eq_true_eq]
      at h
    rw [Bool.eq_false_iff, Ne, isCapitalLetter_iff]
    have hnumbers : (48 ≤ c.toNat ∧ c.toNat ≤ 57) ∨ (97 ≤ c.toNat ∧ c.toNat ≤ 122) := h
    omega
  · decide

/-- Text that may stand around the words of a name: nothing or an underscore. -/
def IsPadding (p : List Char) : Prop := p = [] ∨ p = ['_']

theorem IsPadding.not_isAsciiAlnum {p : List Char} (h : IsPadding p) :
    ∀ c ∈ p, isAsciiAlnum c = false := by
  rcases h with rfl | rfl
  · exact List.forall_mem_nil _
  · exact List.forall_mem_singleton.2 rfl

theorem runs_padded {before after : List Char} (hbefore : IsPadding before)
    (hafter : IsPadding after) (cs : List Char) :
    runs isAsciiAlnum (before ++ cs ++ after) = runs isAsciiAlnum cs := by
  rw [runs_append_right hafter.not_isAsciiAlnum, runs_append_left hbefore.not_isAsciiAlnum]

theorem isIdentifierChar_of_mem_padded {ws : List (List Char)} (hws : ∀ w ∈ ws, IsSmallWord w)
    {before after : List Char} (hbefore : IsPadding before) (hafter : IsPadding after) {c : Char}
    (h : c ∈ before ++ joinWith ['_'] ws ++ after) : IsIdentifierChar c := by
  have hpadding : ∀ p, IsPadding p → c ∈ p → IsIdentifierChar c := by
    rintro p (rfl | rfl) hc
    · cases hc
    · exact .inr (List.mem_singleton.1 hc)
  rw [List.mem_append, List.mem_append] at h
  rcases h with (h | h) | h
  · exact hpadding before hbefore h
  · rcases mem_joinWith h with h | ⟨w, hw, h⟩
    · exact .inr (List.mem_singleton.1 h)
    · exact .inl ((hws w hw).2 c h)
  · exact hpadding after hafter h

/-- Words in small letters are found again in a name that is spelled from them. -/
theorem snakeWords_of_padded {ws : List (List Char)} (hws : ∀ w ∈ ws, IsSmallWord w)
    {before after : List Char} (hbefore : IsPadding before) (hafter : IsPadding after)
    {name : String} (hname : name.toList = before ++ joinWith ['_'] ws ++ after) :
    snakeWords name = ws := by
  have hchars : ∀ c ∈ name.toList, IsIdentifierChar c := by
    rw [hname]
    exact fun c => isIdentifierChar_of_mem_padded hws hbefore hafter
  rw [snakeWords_eq_runs fun c hc => (hchars c hc).ascii, hname, runs_padded hbefore hafter,
    runs_joinWith (fun w hw => isWord_of_isSmallWord (hws w hw)) rfl]

/-! ## Spelling identifiers -/

/-- The words of the identifier for a name. -/
def identifierWords (name : String) : List (List Char) :=
  if (snakeWords name).isEmpty then ["param".toList] else snakeWords name

/-- What stands in front of words so that no digit is the first character. -/
def paddingBefore (cs : List Char) : List Char :=
  if cs.head?.any isAsciiDigit then ['_'] else []

/-- What stands behind a word that is reserved. -/
def paddingAfter (cs : List Char) : List Char :=
  if reservedWords.contains (String.ofList cs) then ['_'] else []

/-- The identifier that is spelled from words. -/
def spelling (ws : List (List Char)) : List Char :=
  let word := paddingBefore (joinWith ['_'] ws) ++ joinWith ['_'] ws
  word ++ paddingAfter word

theorem isPadding_paddingBefore (cs : List Char) : IsPadding (paddingBefore cs) := by
  unfold paddingBefore
  split
  · exact .inr rfl
  · exact .inl rfl

theorem isPadding_paddingAfter (cs : List Char) : IsPadding (paddingAfter cs) := by
  unfold paddingAfter
  split
  · exact .inr rfl
  · exact .inl rfl

theorem isSmallWord_of_mem_identifierWords {name : String} {w : List Char}
    (h : w ∈ identifierWords name) : IsSmallWord w := by
  unfold identifierWords at h
  split at h
  · obtain rfl := List.mem_singleton.1 h
    decide
  · exact isSmallWord_of_mem_snakeWords h

theorem identifierWords_ne_nil (name : String) : identifierWords name ≠ [] := by
  unfold identifierWords
  split
  · exact List.cons_ne_nil _ _
  · next h => simpa using h

theorem identifier_eq (name : String) :
    identifier name = String.ofList (spelling (identifierWords name)) := by
  have hjoined : snakeChars name.toList = joinWith ['_'] (snakeWords name) := rfl
  have hword : ∀ base : List Char,
      (if reservedWords.contains (String.ofList base) then String.ofList base ++ "_"
        else String.ofList base) = String.ofList (base ++ paddingAfter base) := by
    intro base
    unfold paddingAfter
    split
    · rw [String.ofList_append]
    · rw [List.append_nil]
  unfold identifier spelling identifierWords
  dsimp only
  rw [hjoined, hword]
  by_cases hempty : (snakeWords name).isEmpty = true
  · rw [if_pos hempty, List.isEmpty_iff.1 hempty]
    rfl
  · -- words that are there make a text that is not empty
    have hne : snakeWords name ≠ [] := by simpa using hempty
    obtain ⟨c, cs, hcs⟩ := List.exists_cons_of_ne_nil
      (joinWith_ne_nil _ hne fun w hw => (isSmallWord_of_mem_snakeWords hw).1)
    have hbase : paddingBefore (c :: cs) ++ c :: cs
        = if isAsciiDigit c then '_' :: c :: cs else c :: cs := by
      unfold paddingBefore
      show (if isAsciiDigit c = true then ['_'] else []) ++ c :: cs = _
      split <;> rfl
    rw [if_neg hempty, hcs, hbase]

/-- An identifier is made of its own words. -/
theorem identifierWords_identifier (name : String) :
    identifierWords (identifier name) = identifierWords name := by
  have hwords : snakeWords (identifier name) = identifierWords name :=
    snakeWords_of_padded (fun w => isSmallWord_of_mem_identifierWords)
      (isPadding_paddingBefore _) (isPadding_paddingAfter _)
      (by rw [identifier_eq, String.toList_ofList]; rfl)
  have hne : ¬ (snakeWords (identifier name)).isEmpty = true := by
    rw [hwords]
    simpa using identifierWords_ne_nil name
  rw [identifierWords, if_neg hne, hwords]

/-! ## Identifiers -/

/-- All reserved words of the generated program's language. -/
def allReservedWords : List String := "False" :: "None" :: "True" :: reservedWords

/-- A name of small letters and digits of ASCII and underscores that may stand for a variable: it
does not begin with a digit, and it is no reserved word. -/
structure IsIdentifier (s : String) : Prop where
  nonempty : s ≠ ""
  chars : ∀ c ∈ s.toList, isSmallLetter c = true ∨ isAsciiDigit c = true ∨ c = '_'
  first : ∀ c, s.toList.head? = some c → isAsciiDigit c = false
  unreserved : s ∉ allReservedWords

theorem isIdentifierChar_of_mem_spelling {ws : List (List Char)} (hws : ∀ w ∈ ws, IsSmallWord w)
    {c : Char} (h : c ∈ spelling ws) : IsIdentifierChar c :=
  isIdentifierChar_of_mem_padded hws (isPadding_paddingBefore _) (isPadding_paddingAfter _) h

/-- An underscore behind a reserved word makes it another one, and no other word is reserved, since
the reserved words with capital letters are not made of words in small letters. -/
theorem spelling_not_reserved {ws : List (List Char)} (hws : ∀ w ∈ ws, IsSmallWord w) :
    String.ofList (spelling ws) ∉ allReservedWords := by
  intro h
  have hcapitals : ∀ word ∈ ["False", "None", "True"],
      word.toList.any isCapitalLetter = true := by
    decide
  have hletters : ∀ word ∈ reservedWords, word.toList.getLast? ≠ some '_' := by
    decide
  rcases List.mem_append.1 (show _ ∈ ["False", "None", "True"] ++ reservedWords from h) with
    hcapital | hreserved
  · obtain ⟨c, hc, hcapital⟩ := List.any_eq_true.1 (hcapitals _ hcapital)
    rw [String.toList_ofList] at hc
    rw [(isIdentifierChar_of_mem_spelling hws hc).ascii.2] at hcapital
    cases hcapital
  · have hlast := hletters _ hreserved
    rw [String.toList_ofList] at hlast
    unfold spelling at hreserved hlast
    dsimp only at hreserved hlast
    generalize paddingBefore (joinWith ['_'] ws) ++ joinWith ['_'] ws = word at hreserved hlast
    unfold paddingAfter at hreserved hlast
    split at hreserved
    · next hword =>
      rw [if_pos hword] at hlast
      exact hlast List.getLast?_concat
    · next hword =>
      rw [List.append_nil] at hreserved
      exact hword (by simpa using hreserved)

theorem isIdentifier_spelling {ws : List (List Char)} (hne : ws ≠ [])
    (hws : ∀ w ∈ ws, IsSmallWord w) : IsIdentifier (String.ofList (spelling ws)) := by
  obtain ⟨c, cs, hcs⟩ :=
    List.exists_cons_of_ne_nil (joinWith_ne_nil ['_'] hne fun w hw => (hws w hw).1)
  have hhead : (spelling ws).head? = some (if isAsciiDigit c then '_' else c) := by
    unfold spelling paddingBefore
    rw [hcs, List.head?_cons, Option.any_some]
    split <;> rfl
  constructor
  · intro h
    rw [String.ofList_eq_empty_iff] at h
    rw [h] at hhead
    cases hhead
  · intro d hd
    rw [String.toList_ofList] at hd
    rcases isIdentifierChar_of_mem_spelling hws hd with h | h
    · have h : (isAsciiDigit d || isSmallLetter d) = true := h
      rw [Bool.or_eq_true] at h
      tauto
    · exact .inr (.inr h)
  · intro d hd
    rw [String.toList_ofList, hhead] at hd
    obtain rfl := Option.some.inj hd
    split
    · rfl
    · next h => simpa using h
  · exact spelling_not_reserved hws

/-- **Whatever a text is, the identifier that is made of it is one, and the identifier that is made
of that is the same.** -/
theorem isIdentifier_identifier (name : String) :
    IsIdentifier (identifier name) ∧ identifier (identifier name) = identifier name := by
  constructor
  · rw [identifier_eq]
    exact isIdentifier_spelling (identifierWords_ne_nil name)
      fun w => isSmallWord_of_mem_identifierWords
  · rw [identifier_eq (identifier name), identifierWords_identifier, ← identifier_eq]

example : identifier "2fa" = "_2fa" ∧ identifier "Class" = "class_" := by decide

end ApiTools.Name
