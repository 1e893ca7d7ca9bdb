import ApiTools.Proofs.Text.Case
import ApiTools.Proofs.Text.Spacing
import ApiTools.Wording.Polish

set_option autoImplicit false

/-!
# The form of polished texts

Polishing puts single spaces between the words of a text, and no rule that is applied after that
changes this: a phrase is cut at its spaces, and what it is replaced by has spaces at the same
places; a word is replaced by another one; the first letter and the point at the end are no blanks.
So a polished text is well spaced whatever was polished, and it is empty only if there was nothing
but blanks.
-/

namespace ApiTools.Wording

open ApiTools.Text

variable {due : Bool} {cs rest : List Char}

/-! ## Phrases -/

/-- The rule cuts a text at spaces, and what it puts in has spaces there. -/
structure Phrase.CutsAtSpaces (p : Phrase) : Prop where
  opening : ∃ u, p.opening.toList = u ++ [' ']
  newOpening : ∃ u, p.newOpening.toList = u ++ [' '] ∧ IsSpacedFrom true u
  joint : ∀ j, p.joint = some j → (∃ u, j.1.toList = ' ' :: (u ++ [' '])) ∧
    ∃ u, j.2.toList = ' ' :: (u ++ [' ']) ∧ IsSpacedFrom true u

theorem phrases_cutAtSpaces : ∀ p ∈ phrases, p.CutsAtSpaces := by
  have hby : ∀ j, some (" by ", " using ") = some j →
      (∃ u, j.1.toList = ' ' :: (u ++ [' '])) ∧
        ∃ u, j.2.toList = ' ' :: (u ++ [' ']) ∧ IsSpacedFrom true u := by
    rintro j ⟨⟩
    exact ⟨⟨"by".toList, by decide⟩, "using".toList, by decide, by decide⟩
  intro p hp
  simp only [phrases, List.mem_cons, List.not_mem_nil, or_false] at hp
  rcases hp with rfl | rfl | rfl | rfl | rfl
  · exact ⟨⟨"find".toList, by decide⟩, ⟨"retrieve".toList, by decide, by decide⟩, hby⟩
  · exact ⟨⟨"get".toList, by decide⟩, ⟨"retrieve".toList, by decide, by decide⟩, hby⟩
  · exact ⟨⟨"create new".toList, by decide⟩, ⟨"create a new".toList, by decide, by decide⟩,
      fun _ h => nomatch h⟩
  · exact ⟨⟨"update".toList, by decide⟩, ⟨"update".toList, by decide, by decide⟩, hby⟩
  · exact ⟨⟨"delete".toList, by decide⟩, ⟨"remove".toList, by decide, by decide⟩, hby⟩

/-- What a beginning that ends with a space leaves stands behind a space. -/
theorem exists_of_afterFolded? {head : List Char}
    (h : afterFolded? (head ++ [' ']) cs = some rest) :
    ∃ u, cs = u ++ ' ' :: rest := by
  induction head generalizing cs with
  | nil =>
      cases cs with
      | nil => cases h
      | cons c cs =>
          rw [List.nil_append, afterFolded?] at h
          split at h
          · next hc =>
            rw [eq_space_of_matchesLetter hc, ← Option.some.inj h]
            exact ⟨[], rfl⟩
          · cases h
  | cons d head ih =>
      cases cs with
      | nil => cases h
      | cons c cs =>
          rw [List.cons_append, afterFolded?] at h
          split at h
          · obtain ⟨u, rfl⟩ := ih h
            exact ⟨c :: u, rfl⟩
          · cases h

/-- A text falls into what is before a joint, and what begins with the joint. -/
theorem exists_of_lastJoint? {joint front back : List Char}
    (h : lastJoint? joint cs = some (front, back)) :
    ∃ more, cs = front ++ more ∧ afterFolded? joint more = some back := by
  induction cs generalizing front back with
  | nil => cases h
  | cons c cs ih =>
      rw [lastJoint?] at h
      split at h
      · next front' back' hlater =>
        cases h
        obtain ⟨more, rfl, hmore⟩ := ih hlater
        exact ⟨more, rfl, hmore⟩
      · split at h
        · next b back' hjoint =>
          cases h
          exact ⟨cs, rfl, hjoint⟩
        · cases h

theorem isSpacedFrom_of_lastJoint? {joint front back : List Char}
    (hjoint : ∃ u, joint = ' ' :: (u ++ [' '])) (h : lastJoint? joint cs = some (front, back))
    (hcs : IsSpacedFrom true cs) : IsSpacedFrom true front ∧ IsSpacedFrom true back := by
  obtain ⟨u, rfl⟩ := hjoint
  obtain ⟨more, rfl, hmore⟩ := exists_of_lastJoint? h
  cases more with
  | nil => cases hmore
  | cons c more =>
      rw [afterFolded?] at hmore
      split at hmore
      · next hc =>
        obtain ⟨v, rfl⟩ := exists_of_afterFolded? hmore
        rw [eq_space_of_matchesLetter hc, isSpacedFrom_append_space, isSpacedFrom_append_space]
          at hcs
        exact ⟨hcs.1, hcs.2.2⟩
      · cases hmore

/-- A phrase keeps a text well spaced. -/
theorem Phrase.CutsAtSpaces.apply {p : Phrase} (hp : p.CutsAtSpaces) (h : IsSpacedFrom true cs) :
    IsSpacedFrom true (p.apply cs) := by
  obtain ⟨u, hu, hspaced⟩ := hp.newOpening
  unfold Phrase.apply
  split
  · exact h
  · exact h
  · next r rest hopening =>
    obtain ⟨head, hhead⟩ := hp.opening
    rw [hhead] at hopening
    obtain ⟨before, rfl⟩ := exists_of_afterFolded? hopening
    have hrest : IsSpacedFrom true (r :: rest) := (isSpacedFrom_append_space.1 h).2
    split
    · have htext : p.newOpening.toList ++ r :: rest = u ++ ' ' :: r :: rest := by simp [hu]
      rw [htext, isSpacedFrom_append_space]
      exact ⟨hspaced, hrest⟩
    · next joint newJoint hj =>
      obtain ⟨hjoint, v, hv, hnew⟩ := hp.joint _ hj
      split
      · exact h
      · next front back hlast =>
        obtain ⟨hfront, hback⟩ := isSpacedFrom_of_lastJoint? hjoint hlast hrest
        have htext : p.newOpening.toList ++ front ++ newJoint.toList ++ back
            = u ++ ' ' :: (front ++ ' ' :: (v ++ ' ' :: back)) := by
          simp [hu, hv]
        rw [htext, isSpacedFrom_append_space, isSpacedFrom_append_space,
          isSpacedFrom_append_space]
        exact ⟨hspaced, hfront, hnew, hback⟩

theorem isSpacedFrom_foldl_apply {ps : List Phrase} (hps : ∀ p ∈ ps, p.CutsAtSpaces)
    (h : IsSpacedFrom true cs) : IsSpacedFrom true (ps.foldl (fun t p => p.apply t) cs) := by
  induction ps generalizing cs with
  | nil => exact h
  | cons p ps ih =>
      obtain ⟨hp, hps⟩ := List.forall_mem_cons.1 hps
      exact ih hps (hp.apply h)

/-! ## Words -/

/-- A word is replaced by a word. -/
theorem isSpacedFrom_replaceWord {word : List Char} (h : IsSpacedFrom due (word ++ cs)) :
    IsSpacedFrom due (replaceWord word ++ cs) := by
  have hwords : ∀ e ∈ words, IsBlankless e.1.toList ∧ IsBlankless e.2.toList := by decide
  unfold replaceWord
  split
  · next old new hfound =>
    obtain ⟨hold, hnew⟩ := hwords _ (List.mem_of_find?_eq_some hfound)
    have hsame : old.toList = word := by simpa using List.find?_some hfound
    rw [← hsame, isSpacedFrom_append_of_isBlankless hold] at h
    rwa [isSpacedFrom_append_of_isBlankless hnew]
  · exact h

/-- Replacing the words of a text keeps its spacing. The beginning of the current word goes along
with the rest of the text. -/
theorem isSpacedFrom_replaceWords {word : List Char} (h : IsSpacedFrom due (word.reverse ++ cs)) :
    IsSpacedFrom due (replaceWords word cs) := by
  induction cs generalizing due word with
  | nil =>
      rw [replaceWords, ← List.append_nil (replaceWord _)]
      exact isSpacedFrom_replaceWord h
  | cons c cs ih =>
      rw [replaceWords]
      split
      · refine ih ?_
        rwa [List.reverse_cons, List.append_assoc, List.singleton_append]
      · refine isSpacedFrom_replaceWord (h.replace_behind fun due' hbehind => ?_)
        -- the text behind the word goes on with the same character
        exact IsSpacedFrom.replace_behind (u := [c]) (fun _ hlater => ih hlater) hbehind

/-! ## Beginning and end -/

theorem isSpacedFrom_capitalize (h : IsSpacedFrom true cs) : IsSpacedFrom true (capitalize cs) := by
  cases cs with
  | nil => exact h
  | cons c cs =>
      have hc : isBlank c = false := h.isSpaced.first c rfl
      have hcapital : IsBlankless (upperChar c) :=
        ⟨upperChar_ne_nil c, fun d hd => not_isBlank_of_mem_upperChar hc hd⟩
      rw [isSpacedFrom_of_not_blank hc] at h
      exact (isSpacedFrom_append_of_isBlankless hcapital).2 h

/-- A text that ends as a sentence does. -/
def IsClosed (cs : List Char) : Prop := ∃ m ∈ closingMarks, cs.getLast? = some m

theorem isClosed_close (cs : List Char) : IsClosed (close cs) := by
  unfold close
  split
  · next c hlast =>
    split
    · next hmark => exact ⟨c, by simpa using hmark, hlast⟩
    · exact ⟨'.', by decide, List.getLast?_concat⟩
  · exact ⟨'.', by decide, List.getLast?_concat⟩

theorem close_eq_or (cs : List Char) : close cs = cs ∨ close cs = cs ++ ['.'] := by
  unfold close
  split
  · split
    · exact .inl rfl
    · exact .inr rfl
  · exact .inr rfl

theorem isSpacedFrom_close (h : IsSpacedFrom true cs) : IsSpacedFrom true (close cs) := by
  rcases close_eq_or cs with hclose | hclose
  · rw [hclose]
    exact h
  · have hend : ∀ due, IsSpacedFrom due [] → IsSpacedFrom due ['.'] :=
      fun _ _ => isSpacedFrom_of_isBlankless (by decide)
    rw [hclose]
    exact IsSpacedFrom.replace_behind hend (by rwa [List.append_nil])

/-! ## Polished texts -/

/-- A text before it is closed. -/
def unclosed (cs : List Char) : List Char :=
  capitalize (replaceWords [] (phrases.foldl (fun t p => p.apply t) (collapse cs)))

theorem isSpacedFrom_collapse (h : ¬ ∀ c ∈ cs, isBlank c = true) :
    IsSpacedFrom true (collapse cs) :=
  isSpacedFrom_joinWith (fun hnil => h (words_eq_nil_iff.1 hnil)) fun _ => isBlankless_of_mem_words

theorem isSpacedFrom_unclosed (h : ¬ ∀ c ∈ cs, isBlank c = true) :
    IsSpacedFrom true (unclosed cs) := by
  refine isSpacedFrom_capitalize (isSpacedFrom_replaceWords ?_)
  exact isSpacedFrom_foldl_apply phrases_cutAtSpaces (isSpacedFrom_collapse h)

theorem polishChars_of_blank (kind : Kind) (h : ∀ c ∈ cs, isBlank c = true) :
    polishChars kind cs = [] := by
  have hnone : collapse cs = [] := by
    unfold collapse
    rw [words_eq_nil_iff.2 h]
    rfl
  unfold polishChars
  rw [hnone]

theorem polishChars_of_not_blank (h : ¬ ∀ c ∈ cs, isBlank c = true) :
    polishChars .summary cs = unclosed cs ∧ polishChars .description cs = close (unclosed cs) := by
  obtain ⟨c, rest, hcollapse⟩ := List.exists_cons_of_ne_nil (isSpacedFrom_collapse h).ne_nil
  unfold polishChars unclosed
  rw [hcollapse]
  exact ⟨rfl, rfl⟩

/-- A polished text is empty or well spaced from its beginning. -/
theorem isSpacedFrom_polishChars (kind : Kind) (h : ¬ ∀ c ∈ cs, isBlank c = true) :
    IsSpacedFrom true (polishChars kind cs) := by
  obtain ⟨hsummary, hdescription⟩ := polishChars_of_not_blank h
  cases kind with
  | summary =>
      rw [hsummary]
      exact isSpacedFrom_unclosed h
  | description =>
      rw [hdescription]
      exact isSpacedFrom_close (isSpacedFrom_unclosed h)

/-- **A polished text is empty exactly if the text has nothing but blanks. It has no blanks but
single spaces between its words, as a description it ends as a sentence does, and the description is
the summary with at most a point behind it.** -/
theorem polish_form (kind : Kind) (text : String) :
    (polish kind text = "" ↔ isAllBlank text = true) ∧
      IsSpaced (polish kind text).toList ∧
      (polish .description text = "" ∨ IsClosed (polish .description text).toList) ∧
      (polish .description text = polish .summary text ∨
        polish .description text = polish .summary text ++ ".") := by
  have hblank : isAllBlank text = true ↔ ∀ c ∈ text.toList, isBlank c = true := List.all_eq_true
  unfold polish
  rw [hblank, String.ofList_eq_empty_iff, String.ofList_eq_empty_iff, String.toList_ofList,
    String.toList_ofList]
  by_cases h : ∀ c ∈ text.toList, isBlank c = true
  · rw [polishChars_of_blank kind h, polishChars_of_blank .description h,
      polishChars_of_blank .summary h]
    exact ⟨iff_of_true rfl h, isSpaced_nil, .inl rfl, .inl rfl⟩
  · have hspaced := isSpacedFrom_polishChars kind h
    obtain ⟨hsummary, hdescription⟩ := polishChars_of_not_blank h
    refine ⟨iff_of_false hspaced.ne_nil h, hspaced.isSpaced, .inr ?_, ?_⟩
    · rw [hdescription]
      exact isClosed_close _
    · rw [hsummary, hdescription]
      rcases close_eq_or (unclosed text.toList) with hclose | hclose
      · rw [hclose]
        exact .inl rfl
      · rw [hclose, String.ofList_append]
        exact .inr rfl

end ApiTools.Wording
