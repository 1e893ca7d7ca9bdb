import ApiTools.Proofs.Text.Capital
import ApiTools.Proofs.Wording.Rephrase

set_option autoImplicit false

/-!
# Words that are replaced

Replacing words a second time changes nothing, but a capital letter can make a word that is replaced
out of one that is not: `get` becomes `Get`. This happens to a few words only, and to those that a
capital form sets free, because it ends with a mark that belongs to no word.
-/

namespace ApiTools.Wording

open ApiTools.Text

variable {w run rest cs : List Char}

/-! ## One word -/

theorem replaceWord_cases (w : List Char) :
    (replaceWord w = w ∧ ∀ e ∈ words, e.1.toList ≠ w) ∨
      ∃ e ∈ words, e.1.toList = w ∧ replaceWord w = e.2.toList := by
  unfold replaceWord
  cases h : words.find? fun e => e.1.toList == w with
  | none =>
      refine .inl ⟨rfl, fun e he => ?_⟩
      simpa using List.find?_eq_none.1 h e he
  | some e =>
      have hkey : e.1.toList = w := by simpa using List.find?_some h
      exact .inr ⟨e, List.mem_of_find?_eq_some h, hkey, rfl⟩

/-- The words that are replaced, as they are written. -/
def IsReplaced (w : List Char) : Prop := ∃ e ∈ words, e.1.toList = w

instance (w : List Char) : Decidable (IsReplaced w) :=
  inferInstanceAs (Decidable (∃ e ∈ words, _))

/-- The letters that the words begin with that are replaced. -/
def firstLetters : List Char := ['G', 'D', 'I']

theorem mem_firstLetters_of_isReplaced {c : Char} (h : IsReplaced (c :: w)) :
    c ∈ firstLetters := by
  have hfirst : ∀ e ∈ words, ∀ c ∈ e.1.toList.head?, c ∈ firstLetters := by decide
  obtain ⟨e, he, hw⟩ := h
  refine hfirst e he c ?_
  rw [hw]
  rfl

theorem replaceWord_eq_self_iff : replaceWord w = w ↔ ¬ IsReplaced w := by
  have hnew : ∀ e ∈ words, e.2.toList ≠ e.1.toList := by decide
  rcases replaceWord_cases w with ⟨hsame, hnone⟩ | ⟨e, he, rfl, hreplaced⟩
  · exact iff_of_true hsame fun ⟨e, he, hw⟩ => hnone e he hw
  · refine iff_of_false ?_ fun h => h ⟨e, he, rfl⟩
    rw [hreplaced]
    exact hnew e he

theorem replaceWord_replaceWord (w : List Char) : replaceWord (replaceWord w) = replaceWord w := by
  have hnew : ∀ e ∈ words, replaceWord e.2.toList = e.2.toList := by decide
  rcases replaceWord_cases w with ⟨hsame, -⟩ | ⟨e, he, -, hreplaced⟩
  · rw [hsame, hsame]
  · rw [hreplaced]
    exact hnew e he

theorem isWordChar_replaceWord (h : ∀ c ∈ w, isWordChar c = true) :
    ∀ c ∈ replaceWord w, isWordChar c = true := by
  have hnew : ∀ e ∈ words, ∀ c ∈ e.2.toList, isWordChar c = true := by decide
  rcases replaceWord_cases w with ⟨hsame, -⟩ | ⟨e, he, -, hreplaced⟩
  · rwa [hsame]
  · rw [hreplaced]
    exact hnew e he

@[simp] theorem replaceWord_nil : replaceWord [] = [] := by decide

@[simp] theorem replaceWords_nil : replaceWords [] [] = [] := by decide

/-! ## Runs of letters -/

/-- The text does not go on with a character of a word. -/
def BeginsApart (cs : List Char) : Prop := ∀ c ∈ cs.head?, isWordChar c = false

theorem beginsApart_nil : BeginsApart [] := fun _ h => nomatch h

theorem replaceWords_run (hrun : ∀ c ∈ run, isWordChar c = true) (acc : List Char)
    (hrest : BeginsApart rest) :
    replaceWords acc (run ++ rest) = replaceWord (acc.reverse ++ run) ++ replaceWords [] rest := by
  induction run generalizing acc with
  | nil =>
      cases rest with
      | nil =>
          rw [List.append_nil, List.append_nil, replaceWords_nil, List.append_nil]
          rfl
      | cons c rest =>
          have hc : isWordChar c = false := hrest c rfl
          rw [List.nil_append, replaceWords_cons hc, replaceWords_cons hc, List.append_nil]
          simp
  | cons c run ih =>
      obtain ⟨hc, hrun⟩ := List.forall_mem_cons.1 hrun
      rw [List.cons_append, replaceWords_cons_word hc, ih hrun, List.reverse_cons,
        List.append_assoc, List.singleton_append]

/-- The first word of a text is replaced on its own. -/
theorem replaceWords_append (hrun : ∀ c ∈ run, isWordChar c = true) (hrest : BeginsApart rest) :
    replaceWords [] (run ++ rest) = replaceWord run ++ replaceWords [] rest :=
  replaceWords_run hrun [] hrest

theorem replaceWords_of_word (hrun : ∀ c ∈ run, isWordChar c = true) :
    replaceWords [] run = replaceWord run := by
  have h := replaceWords_append hrun beginsApart_nil
  rwa [replaceWords_nil, List.append_nil, List.append_nil] at h

theorem beginsApart_replaceWords (hrest : BeginsApart rest) :
    BeginsApart (replaceWords [] rest) := by
  cases rest with
  | nil => exact beginsApart_nil
  | cons c rest =>
      have hc : isWordChar c = false := hrest c rfl
      rw [replaceWords_cons hc, List.reverse_nil, replaceWord_nil]
      exact hrest

theorem takeWhile_wordly (cs : List Char) : ∀ c ∈ cs.takeWhile isWordChar, isWordChar c = true :=
  fun _ hc => List.mem_takeWhile_imp hc

theorem beginsApart_dropWhile (cs : List Char) : BeginsApart (cs.dropWhile isWordChar) := by
  intro c hc
  have h := List.head?_dropWhile_not isWordChar cs
  rw [Option.mem_def.1 hc] at h
  simpa using h

/-- Replacing words goes on piece by piece behind a character that belongs to no word. -/
theorem replaceWords_append_of_end {u : List Char}
    (hu : ∀ c ∈ u.getLast?, isWordChar c = false) (cs : List Char) :
    replaceWords [] (u ++ cs) = replaceWords [] u ++ replaceWords [] cs := by
  cases u using List.reverseRecOn with
  | nil => rw [replaceWords_nil, List.nil_append, List.nil_append]
  | append_singleton u c =>
      have hc : isWordChar c = false := hu c (by simp)
      rw [List.append_assoc, List.singleton_append, replaceWords_append_cons hc,
        replaceWords_append_cons hc, replaceWords_nil, List.append_assoc]
      rfl

/-- A word goes on at the end of a text. -/
theorem replaceWords_append_run (u : List Char) (hrun : ∀ c ∈ run, isWordChar c = true)
    (hrest : BeginsApart rest) :
    replaceWords [] (u ++ (run ++ rest)) = replaceWords [] (u.rdropWhile isWordChar) ++
      (replaceWord (u.rtakeWhile isWordChar ++ run) ++ replaceWords [] rest) := by
  have hend : ∀ c ∈ (u.rdropWhile isWordChar).getLast?, isWordChar c = false := by
    intro c hc
    obtain ⟨hne, rfl⟩ := List.mem_getLast?_eq_getLast hc
    simpa using List.rdropWhile_last_not isWordChar u hne
  have hword : ∀ c ∈ u.rtakeWhile isWordChar ++ run, isWordChar c = true :=
    List.forall_mem_append.2 ⟨fun _ hc => List.mem_rtakeWhile_imp hc, hrun⟩
  have hsplit : u ++ (run ++ rest) = u.rdropWhile isWordChar ++
      ((u.rtakeWhile isWordChar ++ run) ++ rest) := by
    rw [List.append_assoc, ← List.append_assoc (u.rdropWhile _), List.rdropWhile_append_rtakeWhile]
  rw [hsplit, replaceWords_append_of_end hend, replaceWords_append hword hrest]

/-- Replacing the words of a text again changes nothing. -/
theorem replaceWords_replaceWords (cs : List Char) :
    replaceWords [] (replaceWords [] cs) = replaceWords [] cs := by
  -- the induction goes along with the letters of the word that is being read
  have hacc : ∀ acc : List Char, (∀ c ∈ acc, isWordChar c = true) →
      replaceWords [] (replaceWords acc cs) = replaceWords acc cs := by
    induction cs with
    | nil =>
        intro acc hacc
        have hword : ∀ c ∈ acc.reverse, isWordChar c = true := fun c hc =>
          hacc c (List.mem_reverse.1 hc)
        rw [replaceWords, replaceWords_of_word (isWordChar_replaceWord hword),
          replaceWord_replaceWord]
    | cons c cs ih =>
        intro acc hacc
        by_cases hc : isWordChar c = true
        · rw [replaceWords_cons_word hc]
          exact ih (c :: acc) (List.forall_mem_cons.2 ⟨hc, hacc⟩)
        · have hc : isWordChar c = false := by simpa using hc
          have hword : ∀ c ∈ acc.reverse, isWordChar c = true := fun c hc =>
            hacc c (List.mem_reverse.1 hc)
          rw [replaceWords_cons hc, replaceWords_append_cons hc, ih [] (List.forall_mem_nil _),
            replaceWords_of_word (isWordChar_replaceWord hword), replaceWord_replaceWord]
  exact hacc [] (List.forall_mem_nil _)

/-! ## A measure -/

/-- How often the letter that every new word brings along stands in a text. -/
def weight (cs : List Char) : Nat := cs.countP fun c => c == 'r' || c == 'R'

theorem weight_append (u v : List Char) : weight (u ++ v) = weight u + weight v :=
  List.countP_append

/-- A text is the same, or it is heavier. -/
def Gains (u v : List Char) : Prop := v = u ∨ weight u < weight v

theorem Gains.append {u u' v v' : List Char} (h : Gains u v) (h' : Gains u' v') :
    Gains (u ++ u') (v ++ v') := by
  unfold Gains
  rw [weight_append, weight_append]
  rcases h with rfl | h <;> rcases h' with rfl | h'
  · exact .inl rfl
  all_goals exact .inr (by omega)

theorem gains_replaceWord (w : List Char) : Gains w (replaceWord w) := by
  have hnew : ∀ e ∈ words, weight e.1.toList < weight e.2.toList := by decide
  rcases replaceWord_cases w with ⟨hsame, -⟩ | ⟨e, he, rfl, hreplaced⟩
  · exact .inl hsame
  · rw [hreplaced]
    exact .inr (hnew e he)

/-- Replacing words makes a text heavier unless nothing is replaced. -/
theorem gains_replaceWords (acc cs : List Char) :
    Gains (acc.reverse ++ cs) (replaceWords acc cs) := by
  induction cs generalizing acc with
  | nil =>
      rw [replaceWords, List.append_nil]
      exact gains_replaceWord _
  | cons c cs ih =>
      by_cases hc : isWordChar c = true
      · rw [replaceWords_cons_word hc]
        have h := ih (c :: acc)
        rwa [List.reverse_cons, List.append_assoc, List.singleton_append] at h
      · rw [replaceWords_cons (by simpa using hc)]
        have hcons : Gains ([c] ++ cs) ([c] ++ replaceWords [] cs) :=
          Gains.append (.inl rfl) (ih [])
        exact (gains_replaceWord _).append hcons

/-- A capital letter makes no text lighter. -/
theorem weight_le_capitalize (cs : List Char) : weight cs ≤ weight (capitalize cs) := by
  cases cs with
  | nil => exact le_rfl
  | cons c cs =>
      have hc : weight [c] ≤ weight (upperChar c) := by
        by_cases h : c = 'r' ∨ c = 'R'
        · rcases h with rfl | rfl <;> decide
        · have hzero : weight [c] = 0 := by
            rw [not_or] at h
            simp [weight, h.1, h.2]
          rw [hzero]
          exact Nat.zero_le _
      show weight ([c] ++ cs) ≤ weight (upperChar c ++ cs)
      rw [weight_append, weight_append]
      omega

/-- If a text is the same with its words replaced and its first letter put in capitals, no word was
replaced. -/
theorem replaceWords_eq_self_of_capitalize (h : capitalize (replaceWords [] w) = w) :
    replaceWords [] w = w := by
  rcases gains_replaceWords [] w with hsame | hlt
  · exact hsame
  · have hle := weight_le_capitalize (replaceWords [] w)
    rw [h] at hle
    exact absurd hlt (Nat.not_lt.2 hle)

theorem capitalize_capitalize (cs : List Char) :
    capitalize (capitalize cs) = capitalize cs := by
  cases cs with
  | nil => rfl
  | cons c cs =>
      obtain ⟨h, t, hc⟩ := List.exists_cons_of_ne_nil (upperChar_ne_nil c)
      show capitalize (upperChar c ++ cs) = upperChar c ++ cs
      rw [hc]
      show upperChar h ++ (t ++ cs) = _
      rw [upperChar_head hc]
      rfl

/-! ## Words that are read -/

/-- The words that a text is searched for, and what is left of one of them behind a ligature. -/
def readWords : List String := ["find", "get", "create", "new", "update", "delete", "by", "nd"]

theorem exists_of_afterFolded?_eq_nil {u : List Char} (h : afterFolded? u w = some []) :
    ∀ c ∈ w, ∃ d ∈ u, matchesLetter d c = true := by
  induction u generalizing w with
  | nil =>
      cases h
      exact List.forall_mem_nil _
  | cons d u ih =>
      cases w with
      | nil => exact List.forall_mem_nil _
      | cons c w =>
          rw [afterFolded?_cons_cons] at h
          split at h
          · next hd =>
            refine List.forall_mem_cons.2 ⟨⟨d, List.mem_cons_self, hd⟩, fun c' hc' => ?_⟩
            obtain ⟨d', hd', hm⟩ := ih h c' hc'
            exact ⟨d', List.mem_cons_of_mem d hd', hm⟩
          · cases h

/-- What is read is a word. -/
theorem isWordChar_of_reads {word : String} (hword : word ∈ readWords)
    (h : reads word w = true) : ∀ c ∈ w, isWordChar c = true := by
  have hsmall : ∀ word ∈ readWords, ∀ d ∈ word.toList, isSmallLetter d = true := by decide
  have h : afterFolded? word.toList w = some [] := by simpa [reads] using h
  intro c hc
  obtain ⟨d, hd, hm⟩ := exists_of_afterFolded?_eq_nil h c hc
  exact isWordChar_of_matchesLetter (hsmall word hword d hd) hm

theorem mem_replaceWords {c : Char} (hc : isWordChar c = false) (acc : List Char) (h : c ∈ cs) :
    c ∈ replaceWords acc cs := by
  obtain ⟨u, v, rfl⟩ := List.append_of_mem h
  rw [replaceWords_append_cons hc]
  simp

/-- A text that is read once its words are replaced has no words that are replaced. -/
theorem replaceWords_of_reads {word : String} (hword : word ∈ readWords)
    (h : reads word (replaceWords [] w) = true) : replaceWords [] w = w := by
  have hnew : ∀ word ∈ readWords, ∀ e ∈ words, reads word e.2.toList = false := by decide
  have hchars : ∀ c ∈ w, isWordChar c = true := by
    intro c hc
    by_contra hnot
    have hnot : isWordChar c = false := by simpa using hnot
    have hleft := isWordChar_of_reads hword h c (mem_replaceWords hnot [] hc)
    rw [hnot] at hleft
    cases hleft
  rw [replaceWords_of_word hchars] at h ⊢
  rcases replaceWord_cases w with ⟨hsame, -⟩ | ⟨e, he, -, hreplaced⟩
  · exact hsame
  · rw [hreplaced, hnew word hword e he] at h
    cases h

/-- A word is read before it is replaced if and only if it is read afterwards, unless it is a word
that is replaced itself. -/
theorem reads_replaceWords {word : String} (hword : word ∈ readWords) (hget : word ≠ "get")
    (hdelete : word ≠ "delete") : reads word (replaceWords [] w) = reads word w := by
  have hold : ∀ word ∈ readWords, word ≠ "get" → word ≠ "delete" →
      ∀ e ∈ words, reads word e.1.toList = false := by decide
  rw [Bool.eq_iff_iff]
  constructor
  · intro h
    rwa [replaceWords_of_reads hword h] at h
  · intro h
    rw [replaceWords_of_word (isWordChar_of_reads hword h)]
    rcases replaceWord_cases w with ⟨hsame, -⟩ | ⟨e, he, rfl, -⟩
    · rwa [hsame]
    · rw [hold word hword hget hdelete e he] at h
      cases h

/-! ## Capital letters -/

/-- The character that stands for `fi`. -/
def ligature : Char := 'ﬁ'

/-- A letter that is read in a capital form is read in the character itself, or it begins the form
of a ligature. -/
theorem matchesLetter_of_upperChar {o c x : Char} {xs : List Char}
    (ho : o ∈ ['f', 'g', 'c', 'u', 'd']) (hc : upperChar c = x :: xs)
    (hx : matchesLetter o x = true) :
    (xs = [] ∧ matchesLetter o c = true) ∨ o = 'f' ∧
      (c = ligature ∧ xs = ['I'] ∨ ∃ y ys, xs = y :: ys ∧ matchesLetter 'i' y = false) := by
  have hself : ∀ o ∈ ['f', 'g', 'c', 'u', 'd'], isSmallLetter o = true ∧
      matchesLetter o o = true ∧ upperChar o ≠ [o] ∧
        ∀ x ∈ foreignForms, matchesLetter o x = false := by decide
  have hexpansions : ∀ e ∈ upperExpansions, ∀ o ∈ ['f', 'g', 'c', 'u', 'd'],
      e.2.head? = some (o.toNat - 32) → o = 'f' ∧
        (e = (64257, [70, 73]) ∨
          ∃ y ∈ e.2.tail.head?, matchesLetter 'i' (Char.ofNat y) = false) := by
    decide
  obtain ⟨hsmall, hsame, hupper, hforeign⟩ := hself o ho
  rcases of_matchesLetter hsmall hx with rfl | hcapital | hmem
  · -- no capital form begins with a small letter
    exact absurd (upperChar_head hc) hupper
  · have hrange := (isSmallLetter_iff o).1 hsmall
    have hx' : isCapitalLetter x = true := (isCapitalLetter_iff x).2 (by omega)
    have hascii : ∀ o ∈ ['f', 'g', 'c', 'u', 'd'], o.toNat ≠ 105 ∧ o.toNat ≠ 115 := by decide
    obtain ⟨hi, hs⟩ := hascii o ho
    rcases of_upperChar_eq_capital hc hx' with
      ⟨hnil, rfl | hsmall' | ⟨-, rfl⟩ | ⟨-, rfl⟩⟩ | ⟨e, he, hkey, hform⟩
    · exact .inl ⟨hnil, hx⟩
    · obtain rfl : c = o := Char.toNat_inj.1 (by omega)
      exact .inl ⟨hnil, hsame⟩
    · exact absurd hcapital.symm hi
    · exact absurd hcapital.symm hs
    · -- of the forms of several characters, only those of ligatures begin so
      obtain ⟨n, ns, hforms, rfl, rfl⟩ := List.map_eq_cons_iff.1 hform.symm
      have hn : n = o.toNat - 32 := by
        rcases toNat_ofNat n with h | h <;> omega
      have hhead : e.2.head? = some (o.toNat - 32) := by rw [hforms, hn]; rfl
      obtain ⟨hf, rfl | ⟨y, hy, hmatch⟩⟩ := hexpansions e he o ho hhead
      · cases hforms
        exact .inr ⟨hf, .inl ⟨Char.toNat_inj.1 hkey.symm, by decide⟩⟩
      · rw [hforms, List.tail_cons] at hy
        obtain ⟨ys, rfl⟩ := List.head?_eq_some_iff.1 hy
        exact .inr ⟨hf, .inr ⟨_, _, rfl, hmatch⟩⟩
  · rw [hforeign x hmem] at hx
    cases hx

/-- The words that phrases begin with. -/
def openingWords : List String := ["find", "get", "create", "update", "delete"]

/-- An opening that is read once the first letter is a capital was read before, unless a ligature
has become two letters. -/
theorem reads_of_reads_capitalize {word : String} (hword : word ∈ openingWords)
    (h : reads word (capitalize w) = true) :
    reads word w = true ∨
      word = "find" ∧ ∃ rest, w = ligature :: rest ∧ reads "nd" rest = true := by
  have hletters : ∀ word ∈ openingWords, ∃ o ∈ ['f', 'g', 'c', 'u', 'd'], ∃ os,
      word.toList = o :: os ∧ (o = 'f' → word = "find" ∧ os = 'i' :: "nd".toList) := by
    intro word hword
    simp only [openingWords, List.mem_cons, List.not_mem_nil, or_false] at hword
    rcases hword with rfl | rfl | rfl | rfl | rfl
    · exact ⟨'f', by decide, "ind".toList, by decide, fun _ => ⟨rfl, by decide⟩⟩
    · exact ⟨'g', by decide, "et".toList, by decide, fun h => absurd h (by decide)⟩
    · exact ⟨'c', by decide, "reate".toList, by decide, fun h => absurd h (by decide)⟩
    · exact ⟨'u', by decide, "pdate".toList, by decide, fun h => absurd h (by decide)⟩
    · exact ⟨'d', by decide, "elete".toList, by decide, fun h => absurd h (by decide)⟩
  obtain ⟨o, ho, os, hos, hfind⟩ := hletters word hword
  unfold reads at h ⊢
  rw [hos, beq_iff_eq] at h ⊢
  cases w with
  | nil => cases h
  | cons c w =>
      obtain ⟨x, xs, hc⟩ := List.exists_cons_of_ne_nil (upperChar_ne_nil c)
      have h : afterFolded? (o :: os) (x :: (xs ++ w)) = some [] := by
        rw [← List.cons_append, ← hc]
        exact h
      rw [afterFolded?_cons_cons] at h
      split at h
      · next hx =>
        rcases matchesLetter_of_upperChar ho hc hx with ⟨rfl, hm⟩ | ⟨hf, hligature⟩
        · left
          rw [afterFolded?_cons_cons, if_pos hm]
          exact h
        · obtain ⟨hw, rfl⟩ := hfind hf
          rcases hligature with ⟨rfl, rfl⟩ | ⟨y, ys, rfl, hy⟩
          · rw [List.singleton_append, afterFolded?_cons_cons, if_pos (by decide)] at h
            exact .inr ⟨hw, w, rfl, by simpa using h⟩
          · rw [List.cons_append, afterFolded?_cons_cons, if_neg (by simp [hy])] at h
            cases h
      · cases h

/-- What an opening begins with is read at the beginning of a word. -/
theorem exists_of_reads_opening {word : String} (hword : word ∈ openingWords)
    (h : reads word w = true) : ∃ o c rest, word.toList.head? = some o ∧ w = c :: rest ∧
      matchesLetter o c = true ∧ o ≠ 'i' ∧ o ≠ 's' := by
  have hletters : ∀ word ∈ openingWords, word.toList ≠ [] ∧
      ∀ o ∈ word.toList.head?, o ≠ 'i' ∧ o ≠ 's' := by decide
  obtain ⟨hne, hfirst⟩ := hletters word hword
  obtain ⟨o, os, hos⟩ := List.exists_cons_of_ne_nil hne
  unfold reads at h
  rw [hos, beq_iff_eq] at h
  cases w with
  | nil => cases h
  | cons c rest =>
      rw [afterFolded?_cons_cons] at h
      split at h
      · next hc =>
        rw [hos]
        exact ⟨o, c, rest, rfl, rfl, hc, hfirst o (by rw [hos]; rfl)⟩
      · cases h

/-- At most one opening is read. -/
theorem eq_of_reads {word word' : String} (hword : word ∈ openingWords)
    (hword' : word' ∈ openingWords) (h : reads word w = true) (h' : reads word' w = true) :
    word = word' := by
  have hletters : ∀ word ∈ openingWords, ∀ word' ∈ openingWords,
      word.toList.head? = word'.toList.head? → word = word' := by decide
  obtain ⟨o, c, rest, ho, rfl, hm, hi, hs⟩ := exists_of_reads_opening hword h
  obtain ⟨o', c', rest', ho', hw, hm', hi', hs'⟩ := exists_of_reads_opening hword' h'
  cases hw
  unfold matchesLetter at hm hm'
  have hsmall : (lowerChar c).head? = some o := by simpa [hi, hs] using hm
  have hsmall' : (lowerChar c).head? = some o' := by simpa [hi', hs'] using hm'
  refine hletters word hword word' hword' ?_
  rw [ho, ho', ← hsmall, ← hsmall']

/-- No opening is read where a ligature is. -/
theorem not_reads_ligature {word : String} (hword : word ∈ openingWords) (rest : List Char) :
    reads word (ligature :: rest) = false := by
  have hnone : ∀ word ∈ openingWords, ∀ o ∈ word.toList.head?,
      matchesLetter o ligature = false := by decide
  rw [Bool.eq_false_iff]
  intro h
  obtain ⟨o, c, rest', ho, hw, hm, -⟩ := exists_of_reads_opening hword h
  cases hw
  rw [hnone word hword o ho] at hm
  cases hm

theorem reads_find_ligature (h : reads "nd" rest = true) :
    reads "find" (capitalize (ligature :: rest)) = true := by
  have hform : upperChar ligature = ['F', 'I'] := by decide
  have hf : matchesLetter 'f' 'F' = true := by decide
  have hi : matchesLetter 'i' 'I' = true := by decide
  unfold reads at h ⊢
  rw [beq_iff_eq] at h ⊢
  show afterFolded? ('f' :: 'i' :: "nd".toList) (upperChar ligature ++ rest) = some []
  rw [hform]
  show afterFolded? ('f' :: 'i' :: "nd".toList) ('F' :: 'I' :: rest) = some []
  rw [afterFolded?_cons_cons, if_pos hf, afterFolded?_cons_cons, if_pos hi]
  exact h

/-- A word with a ligature at its beginning is not replaced, and it comes from no other word. -/
theorem replaceWords_eq_ligature_iff (h : reads "nd" rest = true) :
    replaceWords [] w = ligature :: rest ↔ w = ligature :: rest := by
  have hligature : isWordChar ligature = true := by decide +kernel
  have hchars : ∀ c ∈ ligature :: rest, isWordChar c = true :=
    List.forall_mem_cons.2 ⟨hligature, isWordChar_of_reads (by decide) h⟩
  have hold : ∀ e ∈ words, e.1.toList.head? ≠ some ligature := by decide
  have hnew : ∀ e ∈ words, e.2.toList.head? ≠ some ligature := by decide
  constructor
  · intro heq
    have hword : ∀ c ∈ w, isWordChar c = true := by
      intro c hc
      by_contra hnot
      refine hnot (hchars c ?_)
      rw [← heq]
      exact mem_replaceWords (by simpa using hnot) [] hc
    rw [replaceWords_of_word hword] at heq
    rcases replaceWord_cases w with ⟨hsame, -⟩ | ⟨e, he, -, hreplaced⟩
    · exact hsame.symm.trans heq
    · refine absurd ?_ (hnew e he)
      rw [← hreplaced, heq]
      rfl
  · rintro rfl
    rw [replaceWords_of_word hchars]
    rcases replaceWord_cases (ligature :: rest) with ⟨hsame, -⟩ | ⟨e, he, hkey, -⟩
    · exact hsame
    · refine absurd ?_ (hold e he)
      rw [hkey]
      rfl

/-! ## Words that are replaced too late -/

/-- The words that are replaced only if they begin with a capital letter. -/
def lateWords : List String := ["get", "gets", "delete", "deletes", "iD", "iDs", "ıD", "ıDs"]

/-- The word is replaced once its first letter is a capital: it is one of the late words, or its
first letter has a capital form that ends with a mark, and what is left of it behind the mark is
replaced. -/
def IsLate (w : List Char) : Prop :=
  (∃ late ∈ lateWords, late.toList = w) ∨
    ∃ c rest, w = c :: rest ∧ (∃ m ∈ (upperChar c).getLast?, isWordChar m = false) ∧
      IsReplaced rest

/-- The part of a capital form that belongs to the word behind it. -/
def wordPart (c : Char) : List Char := (upperChar c).rtakeWhile isWordChar

/-- The part of a capital form up to its last mark. -/
def markedPart (c : Char) : List Char := (upperChar c).rdropWhile isWordChar

theorem wordPart_eq_nil_iff (c : Char) :
    wordPart c = [] ↔ ∃ m ∈ (upperChar c).getLast?, isWordChar m = false := by
  have hne := upperChar_ne_nil c
  unfold wordPart
  rw [List.rtakeWhile_eq_nil_iff, List.getLast?_eq_some_getLast hne]
  simp [hne]

/-- No word is replaced in front of a mark. -/
theorem replaceWords_markedPart (c : Char) : replaceWords [] (markedPart c) = markedPart c := by
  have hall : ∀ e ∈ upperExpansions, replaceWords [] ((e.2.map Char.ofNat).rdropWhile isWordChar)
      = (e.2.map Char.ofNat).rdropWhile isWordChar := by decide +kernel
  have hsingle : ∀ d : Char, replaceWords [] ([d].rdropWhile isWordChar)
      = [d].rdropWhile isWordChar := by
    intro d
    rw [List.rdropWhile_singleton]
    split
    · decide
    · next hd =>
      rw [replaceWords_cons (by simpa using hd)]
      simp
  unfold markedPart
  rcases upperChar_cases c with ⟨e, he, -, hform⟩ | ⟨r, -, -, hform⟩ | hform
  · rw [hform]
    exact hall e he
  · rw [hform]
    exact hsingle _
  · rw [hform]
    exact hsingle _

theorem upperChar_of_wordPart {c d : Char} {t : List Char} (hc : wordPart c = d :: t)
    (hd : d ∈ firstLetters) : upperChar c = [d] ∧ t = [] := by
  have hall : ∀ e ∈ upperExpansions,
      ∀ d ∈ ((e.2.map Char.ofNat).rtakeWhile isWordChar).head?, d ∉ firstLetters := by
    decide +kernel
  have hsingle : ∀ x, upperChar c = [x] → upperChar c = [d] ∧ t = [] := by
    intro x hx
    have hsuffix : d :: t <:+ [x] := by
      rw [← hc, ← hx]
      exact List.rtakeWhile_suffix _ _
    obtain ⟨u, hu⟩ := hsuffix
    obtain ⟨-, h⟩ | ⟨-, h⟩ := List.append_eq_singleton_iff.1 hu
    · cases h
      exact ⟨hx, rfl⟩
    · cases h
  rcases upperChar_cases c with ⟨e, he, -, hform⟩ | ⟨r, -, -, hform⟩ | hform
  · refine absurd hd (hall e he d ?_)
    rw [← hform, show (upperChar c).rtakeWhile isWordChar = d :: t from hc]
    rfl
  · exact hsingle _ hform
  · exact hsingle _ hform

/-- Where the first letter of a word that is replaced comes from. -/
theorem of_wordPart {c d : Char} {t : List Char} (hc : wordPart c = d :: t)
    (hd : d ∈ firstLetters) :
    t = [] ∧ (c = d ∨ c.toNat = d.toNat + 32 ∨ c = 'ı' ∧ d = 'I') := by
  obtain ⟨hform, rfl⟩ := upperChar_of_wordPart hc hd
  have hcapital : ∀ d ∈ firstLetters, isCapitalLetter d = true := by decide
  refine ⟨rfl, ?_⟩
  rcases of_upperChar_eq_capital hform (hcapital d hd) with
    ⟨-, h | h | h | ⟨-, rfl⟩⟩ | ⟨e, he, -, hforms⟩
  · exact .inl h
  · exact .inr (.inl h)
  · exact .inr (.inr h)
  · exact absurd hd (by decide)
  · -- the forms of several characters have more than one
    have hlength : ∀ e ∈ upperExpansions, e.2.length ≠ 1 := by decide
    have hone := congrArg List.length hforms
    rw [List.length_map] at hone
    exact absurd hone.symm (hlength e he)

/-- A word that is replaced after its first letter was changed, though it was not before, is
late. -/
theorem isReplaced_wordPart_iff {c : Char} {rest : List Char}
    (hword : ¬ IsReplaced (c :: rest)) :
    IsReplaced (wordPart c ++ rest) ↔ IsLate (c :: rest) := by
  constructor
  · rintro ⟨e, he, hkey⟩
    cases hpart : wordPart c with
    | nil =>
        rw [hpart, List.nil_append] at hkey
        exact .inr ⟨c, rest, rfl, (wordPart_eq_nil_iff c).1 hpart, e, he, hkey⟩
    | cons d t =>
        rw [hpart] at hkey
        have hd : d ∈ firstLetters := mem_firstLetters_of_isReplaced ⟨e, he, hkey⟩
        obtain ⟨rfl, hcases⟩ := of_wordPart hpart hd
        rw [List.singleton_append] at hkey
        have hsmall : ∀ e ∈ words, ∀ d ∈ e.1.toList.head?,
            ∃ late ∈ lateWords, late.toList = Char.ofNat (d.toNat + 32) :: e.1.toList.tail := by
          decide
        have hdotless : ∀ e ∈ words, e.1.toList.head? = some 'I' →
            ∃ late ∈ lateWords, late.toList = 'ı' :: e.1.toList.tail := by decide
        -- the first letter is the capital letter, its small letter, or the dotless i
        left
        rcases hcases with rfl | hc' | ⟨rfl, rfl⟩
        · exact absurd ⟨e, he, hkey⟩ hword
        · have h := hsmall e he d (by rw [hkey]; rfl)
          rwa [← hc', Char.ofNat_toNat, hkey] at h
        · have h := hdotless e he (by rw [hkey]; rfl)
          rwa [hkey] at h
  · rintro (⟨late, hlate, hw⟩ | ⟨c', rest', hw, hmark, hreplaced⟩)
    · have hall : ∀ late ∈ lateWords, ∀ c ∈ late.toList.head?,
          IsReplaced (wordPart c ++ late.toList.tail) := by decide
      have h := hall late hlate c (by rw [hw]; rfl)
      rwa [hw] at h
    · cases hw
      rwa [(wordPart_eq_nil_iff c).2 hmark]

/-- No word that is replaced is late, and the new words stay when their first letter is a
capital. -/
theorem words_settled : ∀ e ∈ words, ¬ IsLate e.1.toList ∧
    replaceWord (capitalize e.2.toList) = capitalize e.2.toList ∧
    ∀ c ∈ capitalize e.2.toList, isWordChar c = true := by
  have hlate : ∀ e ∈ words, ∀ late ∈ lateWords, late.toList ≠ e.1.toList := by decide
  have htail : ∀ e ∈ words, ¬ IsReplaced e.1.toList.tail := by decide
  have hnew : ∀ e ∈ words, replaceWord (capitalize e.2.toList) = capitalize e.2.toList ∧
      ∀ c ∈ capitalize e.2.toList, isWordChar c = true := by decide
  intro e he
  refine ⟨?_, hnew e he⟩
  rintro (⟨late, hmem, hw⟩ | ⟨c, rest, hw, -, hreplaced⟩)
  · exact hlate e he late hmem hw
  · refine htail e he ?_
    rwa [hw]

/-- A capital form in front of a settled text leaves it settled unless it makes a word with the
letters behind it. -/
theorem replaceWords_upperChar_iff (c : Char) (hrun : ∀ d ∈ run, isWordChar d = true)
    (hbegins : BeginsApart rest) (hrest : replaceWords [] rest = rest) :
    replaceWords [] (upperChar c ++ (run ++ rest)) = upperChar c ++ (run ++ rest) ↔
      ¬ IsReplaced (wordPart c ++ run) := by
  have hparts : upperChar c ++ (run ++ rest)
      = markedPart c ++ ((wordPart c ++ run) ++ rest) := by
    unfold markedPart wordPart
    rw [List.append_assoc (List.rtakeWhile _ _), ← List.append_assoc (List.rdropWhile _ _),
      List.rdropWhile_append_rtakeWhile]
  have hreplaced : replaceWords [] (upperChar c ++ (run ++ rest))
      = markedPart c ++ (replaceWord (wordPart c ++ run) ++ rest) := by
    rw [replaceWords_append_run (upperChar c) hrun hbegins, hrest]
    exact congrArg (· ++ _) (replaceWords_markedPart c)
  rw [hreplaced, hparts, List.append_right_inj, List.append_left_inj, replaceWord_eq_self_iff]

/-- A word is settled with a capital letter unless it is late. -/
theorem replaceWords_capitalize_word {c : Char} (hword : ∀ d ∈ c :: run, isWordChar d = true)
    (hbegins : BeginsApart rest) :
    replaceWords [] (capitalize (replaceWords [] (c :: run ++ rest)))
        = capitalize (replaceWords [] (c :: run ++ rest)) ↔ ¬ IsLate (c :: run) := by
  have hbegins' := beginsApart_replaceWords hbegins
  have hrest := replaceWords_replaceWords rest
  rw [replaceWords_append hword hbegins]
  rcases replaceWord_cases (c :: run) with ⟨hsame, hnone⟩ | ⟨e, he, hkey, hreplaced⟩
  · have hnot : ¬ IsReplaced (c :: run) := fun ⟨e, he, hw⟩ => hnone e he hw
    rw [hsame, ← isReplaced_wordPart_iff hnot]
    exact replaceWords_upperChar_iff c (List.forall_mem_cons.1 hword).2 hbegins' hrest
  · -- a new word stays what it is
    obtain ⟨hlate, hsettled, hchars⟩ := words_settled e he
    have hne : e.2.toList ≠ [] := by
      have hnew : ∀ e ∈ words, e.2.toList ≠ [] := by decide
      exact hnew e he
    rw [hkey] at hlate
    rw [hreplaced, capitalize_append hne, replaceWords_append hchars hbegins', hsettled, hrest]
    exact iff_of_true rfl hlate

/-- The capital form of a mark begins no word that is replaced. -/
theorem not_isReplaced_wordPart {c : Char} (hc : isWordChar c = false) (hw : ¬ IsReplaced w) :
    ¬ IsReplaced (wordPart c ++ w) := by
  cases hpart : wordPart c with
  | nil => exact hw
  | cons d u =>
      intro hreplaced
      have hd := mem_firstLetters_of_isReplaced hreplaced
      have hletters : ∀ d ∈ firstLetters, isWordChar d = true ∧
          isWordChar (Char.ofNat (d.toNat + 32)) = true ∧ isWordChar 'ı' = true := by
        decide
      obtain ⟨hcapital, hsmall, hdotless⟩ := hletters d hd
      obtain ⟨-, rfl | hc' | ⟨rfl, -⟩⟩ := of_wordPart hpart hd
      · rw [hcapital] at hc
        cases hc
      · rw [← hc', Char.ofNat_toNat, hc] at hsmall
        cases hsmall
      · rw [hdotless] at hc
        cases hc

/-- A text that begins with a mark is settled with a capital letter. -/
theorem replaceWords_capitalize_mark {c : Char} (hc : isWordChar c = false)
    (hrun : ∀ d ∈ run, isWordChar d = true) (hbegins : BeginsApart rest) :
    replaceWords [] (capitalize (replaceWords [] (c :: (run ++ rest))))
      = capitalize (replaceWords [] (c :: (run ++ rest))) := by
  rw [replaceWords_cons hc, List.reverse_nil, replaceWord_nil, List.nil_append,
    replaceWords_append hrun hbegins]
  refine (replaceWords_upperChar_iff c (isWordChar_replaceWord hrun)
    (beginsApart_replaceWords hbegins) (replaceWords_replaceWords rest)).2 ?_
  refine not_isReplaced_wordPart hc ?_
  exact replaceWord_eq_self_iff.1 (replaceWord_replaceWord run)

theorem not_isLate_nil : ¬ IsLate [] := by
  have hall : ∀ late ∈ lateWords, late.toList ≠ [] := by decide
  rintro (⟨late, hlate, hw⟩ | ⟨c, rest, hw, -⟩)
  · exact hall late hlate hw
  · cases hw

/-- **A first word has nothing left to replace when it begins with a capital letter, unless it is
late.** -/
theorem replaceWords_capitalize_iff {s : List Char} (hs : s ≠ []) :
    replaceWords [] (capitalize (replaceWords [] s)) = capitalize (replaceWords [] s) ↔
      ¬ IsLate (s.takeWhile isWordChar) := by
  obtain ⟨c, t, rfl⟩ := List.exists_cons_of_ne_nil hs
  have hrun := takeWhile_wordly t
  have hbegins := beginsApart_dropWhile t
  have ht : t = t.takeWhile isWordChar ++ t.dropWhile isWordChar :=
    List.takeWhile_append_dropWhile.symm
  by_cases hc : isWordChar c = true
  · rw [List.takeWhile_cons_of_pos hc]
    have hword : ∀ d ∈ c :: t.takeWhile isWordChar, isWordChar d = true :=
      List.forall_mem_cons.2 ⟨hc, hrun⟩
    have h := replaceWords_capitalize_word hword hbegins
    rwa [List.cons_append, ← ht] at h
  · rw [List.takeWhile_cons_of_neg hc]
    have h := replaceWords_capitalize_mark (by simpa using hc) hrun hbegins
    rw [← ht] at h
    exact iff_of_true h not_isLate_nil

end ApiTools.Wording
