import ApiTools.Proofs.Wording.Replace

set_option autoImplicit false

/-!
# Polishing again

A polished text is not always as polished as it can be. Phrases and words are looked for before the
text gets its capital letter, and each phrase replaces one joint, so a second time may find
something that the first one has made or left. It does in three cases only, which can be told from
the words of the text: otherwise polishing again changes nothing.
-/

namespace ApiTools.Wording

open ApiTools.Text

variable {s w l : List Char} {ws init rest : List (List Char)}

/-! ## The last word -/

/-- The last word of a polished text that is not closed yet, given the words before it. -/
def finishLast (ws : List (List Char)) (l : List Char) : List Char :=
  if ws.isEmpty then capitalize (replaceWords [] l) else replaceWords [] l

theorem finish_append_singleton (ws : List (List Char)) (l : List Char) :
    finish (ws ++ [l]) = finish ws ++ [finishLast ws l] := by
  cases ws with
  | nil => rfl
  | cons w ws =>
      unfold finish finishLast
      simp

/-- A mark at the end of a sentence stays there. -/
theorem finishLast_append_mark {m : Char} (hm : m ∈ closingMarks) (ws : List (List Char))
    (v : List Char) : finishLast ws (v ++ [m]) = finishLast ws v ++ [m] := by
  have hmarks : ∀ m ∈ closingMarks, isWordChar m = false ∧ upperChar m = [m] := by decide
  obtain ⟨hword, hupper⟩ := hmarks m hm
  have hreplace : replaceWords [] (v ++ [m]) = replaceWords [] v ++ [m] := by
    rw [replaceWords_append_cons hword, replaceWords_nil]
  have hcapital :
      capitalize (replaceWords [] v ++ [m]) = capitalize (replaceWords [] v) ++ [m] := by
    cases replaceWords [] v with
    | nil => exact (List.append_nil _).trans hupper
    | cons c cs => exact (List.append_assoc _ _ _).symm
  unfold finishLast
  rw [hreplace]
  split
  · exact hcapital
  · rfl

/-- The end of a text of a kind. -/
def closeFor (kind : Kind) (cs : List Char) : List Char :=
  match kind with
  | .summary => cs
  | .description => close cs

theorem close_of_isClosed {cs : List Char} (h : IsClosed cs) : close cs = cs := by
  obtain ⟨m, hm, hlast⟩ := h
  unfold close
  rw [hlast]
  exact if_pos (by simpa using hm)

theorem close_append_of_ne_nil {u v : List Char} (hv : v ≠ []) : close (u ++ v) = u ++ close v := by
  have hlast : (u ++ v).getLast? = v.getLast? := List.getLast?_append_of_ne_nil u hv
  unfold close
  rw [hlast]
  cases v.getLast? with
  | none => exact List.append_assoc _ _ _
  | some c =>
      dsimp only
      split
      · rfl
      · exact List.append_assoc _ _ _

/-- The last word of a polished text stays at the end if and only if it stays without the point. -/
theorem closeFor_finishLast_iff (kind : Kind) (ws : List (List Char)) (l : List Char) :
    closeFor kind (finishLast ws (closeFor kind l)) = closeFor kind l ↔ finishLast ws l = l := by
  cases kind with
  | summary => exact Iff.rfl
  | description =>
      have hclosed : ∀ {m : Char}, m ∈ closingMarks → ∀ v : List Char,
          close (finishLast ws (v ++ [m])) = finishLast ws v ++ [m] := by
        intro m hm v
        rw [finishLast_append_mark hm]
        exact close_of_isClosed ⟨m, hm, List.getLast?_concat⟩
      show close (finishLast ws (close l)) = close l ↔ _
      by_cases h : IsClosed l
      · obtain ⟨m, hm, hlast⟩ := h
        obtain ⟨v, rfl⟩ := List.getLast?_eq_some_iff.1 hlast
        rw [close_of_isClosed ⟨m, hm, hlast⟩, hclosed hm, finishLast_append_mark hm]
      · have hopen : close l = l ++ ['.'] := by
          rcases close_eq_or l with hsame | hpoint
          · exact absurd (hsame ▸ isClosed_close l) h
          · exact hpoint
        rw [hopen, hclosed (by decide), List.append_left_inj]

/-! ## Polished words -/

theorem isBlankless_closeFor (kind : Kind) (hl : IsBlankless l) :
    IsBlankless (closeFor kind l) := by
  cases kind with
  | summary => exact hl
  | description =>
      show IsBlankless (close l)
      rcases close_eq_or l with hsame | hpoint
      · rwa [hsame]
      · rw [hpoint]
        exact ⟨by simp, List.forall_mem_append.2 ⟨hl.2, by decide⟩⟩

/-- The words of a polished text. -/
def polished (kind : Kind) (init : List (List Char)) (l : List Char) : List (List Char) :=
  finish (rephrase init) ++ [closeFor kind (finishLast (rephrase init) l)]

theorem isBlankless_finish (hws : ∀ w ∈ init ++ [l], IsBlankless w) :
    ∀ w ∈ finish (rephrase init) ++ [finishLast (rephrase init) l], IsBlankless w := by
  obtain ⟨hinit, hl⟩ := List.forall_mem_append.1 hws
  rw [← finish_append_singleton]
  exact isBlankless_of_mem_finish (List.forall_mem_append.2 ⟨isBlankless_of_mem_rephrase hinit, hl⟩)

theorem isBlankless_polished (kind : Kind) (hws : ∀ w ∈ init ++ [l], IsBlankless w) :
    ∀ w ∈ polished kind init l, IsBlankless w := by
  obtain ⟨hinit, hl⟩ := List.forall_mem_append.1 (isBlankless_finish hws)
  refine List.forall_mem_append.2 ⟨hinit, ?_⟩
  rw [List.forall_mem_singleton] at hl ⊢
  exact isBlankless_closeFor kind hl

theorem polishChars_eq (kind : Kind) {cs : List Char} (hcs : Text.words cs = init ++ [l]) :
    polishChars kind cs = joinWith [' '] (polished kind init l) := by
  have hblank : ¬ ∀ c ∈ cs, isBlank c = true := by
    rw [← words_eq_nil_iff, hcs]
    simp
  have hl : IsBlankless (finishLast (rephrase init) l) :=
    isBlankless_finish (fun w hw => isBlankless_of_mem_words (hcs ▸ hw)) _ (by simp)
  obtain ⟨hsummary, hdescription⟩ := polishChars_of_not_blank hblank
  rw [unclosed_eq hcs, finish_append_singleton] at hsummary hdescription
  unfold polished
  cases kind with
  | summary => exact hsummary
  | description =>
      rw [hdescription, joinWith_append_singleton, joinWith_append_singleton,
        close_append_of_ne_nil hl.1]
      rfl

/-- A text stays as it is when it is polished again if and only if its words do, without the
point. -/
theorem polishChars_polishChars_iff (kind : Kind) {cs : List Char}
    (hcs : Text.words cs = init ++ [l]) :
    polishChars kind (polishChars kind cs) = polishChars kind cs ↔
      finish (rephrase (finish (rephrase init)) ++ [finishLast (rephrase init) l])
        = finish (rephrase init ++ [l]) := by
  have hws : ∀ w ∈ init ++ [l], IsBlankless w := fun w hw => isBlankless_of_mem_words (hcs ▸ hw)
  have hpolished := isBlankless_polished kind hws
  have hwords := words_joinWith hpolished
  rw [polishChars_eq kind hcs, polishChars_eq kind hwords]
  have hagain : ∀ w ∈ polished kind (finish (rephrase init))
      (closeFor kind (finishLast (rephrase init) l)), IsBlankless w :=
    isBlankless_polished kind hpolished
  -- the words of the two texts can be read back from them
  have hinj : joinWith [' '] (polished kind (finish (rephrase init))
        (closeFor kind (finishLast (rephrase init) l))) = joinWith [' '] (polished kind init l) ↔
      polished kind (finish (rephrase init)) (closeFor kind (finishLast (rephrase init) l))
        = polished kind init l := by
    refine ⟨fun h => ?_, fun h => by rw [h]⟩
    rw [← words_joinWith hagain, h, hwords]
  rw [hinj, finish_append_singleton, finish_append_singleton]
  unfold polished
  rw [List.append_singleton_inj, List.append_singleton_inj, closeFor_finishLast_iff]

/-! ## What stays -/

/-- Finished words stay as they are if there is nothing to replace in the first one. -/
theorem finish_finish (h : ∀ v ∈ (finish ws).head?, replaceWords [] v = v) :
    finish (finish ws) = finish ws := by
  cases ws with
  | nil => rfl
  | cons w ws =>
      have hfirst : replaceWords [] (capitalize (replaceWords [] w))
          = capitalize (replaceWords [] w) := h _ rfl
      have hrest : (ws.map (replaceWords [])).map (replaceWords []) = ws.map (replaceWords []) := by
        rw [List.map_map]
        exact List.map_congr_left fun w _ => replaceWords_replaceWords w
      unfold finish
      rw [List.map_cons, List.modifyHead_cons, List.map_cons, List.modifyHead_cons, hfirst,
        capitalize_capitalize, hrest]

theorem replaceWords_head_of_finish (h : finish ws = ws) :
    ∀ v ∈ ws.head?, replaceWords [] v = v := by
  intro v hv
  obtain ⟨rest, rfl⟩ := List.head?_eq_some_iff.1 hv
  injection h with hfirst
  exact replaceWords_eq_self_of_capitalize hfirst

theorem length_finish (ws : List (List Char)) : (finish ws).length = ws.length := by
  unfold finish
  rw [List.length_modifyHead, List.length_map]

/-- A phrase that is applied changes the words. -/
theorem finish_ne_of_hasPhrase (h : HasPhrase init) (l : List Char) :
    finish (rephrase init ++ [l]) ≠ init ++ [l] := by
  rcases rephrase_cases init with ⟨hnone, -⟩ | hjoins | hcreates
  · exact absurd h hnone
  · generalize rephrase init = ws' at hjoins
    obtain @⟨verb, s, w, j, front, back, -, -, hj, -⟩ := hjoins
    intro heq
    -- the joint is read no more where it was
    injection heq with _ heq
    injection heq with _ heq
    have hbehind : front.map (replaceWords []) ++ replaceWords [] "using".toList ::
        (back.map (replaceWords []) ++ [replaceWords [] l]) = front ++ j :: (back ++ [l]) := by
      simpa using heq
    obtain ⟨-, hback⟩ := List.append_inj hbehind (List.length_map _)
    injection hback with heq
    have husing : reads "by" (replaceWords [] "using".toList) = false := by decide
    rw [heq, hj] at husing
    cases husing
  · intro heq
    have hlength := congrArg List.length heq
    rw [length_finish] at hlength
    generalize rephrase init = ws' at hcreates hlength
    obtain ⟨-, -⟩ := hcreates
    simp at hlength

/-- **Finished words stay if and only if no phrase fits and nothing is replaced in the first
one.** -/
theorem finish_again_iff (ws : List (List Char)) (l : List Char) :
    finish (rephrase (finish ws) ++ [finishLast ws l]) = finish (ws ++ [l]) ↔
      ¬ HasPhrase (finish ws) ∧ ∀ v ∈ (finish (ws ++ [l])).head?, replaceWords [] v = v := by
  constructor
  · intro h
    have hnone : ¬ HasPhrase (finish ws) := by
      intro hphrase
      refine finish_ne_of_hasPhrase hphrase (finishLast ws l) ?_
      rw [h, finish_append_singleton]
    rw [rephrase_of_not_hasPhrase hnone, ← finish_append_singleton] at h
    -- without a phrase the words are only finished again
    exact ⟨hnone, replaceWords_head_of_finish h⟩
  · rintro ⟨hnone, hfirst⟩
    rw [rephrase_of_not_hasPhrase hnone, ← finish_append_singleton]
    exact finish_finish hfirst

/-! ## What is left for a second time -/

/-- The words of a text in which polishing leaves something to be polished. -/
inductive IsUnfinished : List (List Char) → Prop
  /-- A text that begins with `update` begins with it afterwards, so its joints are replaced one at
  a time. -/
  | joints {s w l : List Char} {rest : List (List Char)} (hs : reads "update" s = true)
      (hrest : 2 ≤ rest.countP (reads "by")) : IsUnfinished (s :: w :: rest ++ [l])
  /-- The capital form of the ligature has the letters that it stands for. -/
  | ligature {s w l : List Char} {rest : List (List Char)} (hs : reads "nd" s = true)
      (hrest : ∃ j ∈ rest, reads "by" j = true) :
      IsUnfinished ((ligature :: s) :: w :: rest ++ [l])
  /-- The first word gets its capital letter after words were looked for. -/
  | late {s : List Char} {rest : List (List Char)} (hnone : ¬ HasPhrase (s :: rest).dropLast)
      (hs : IsLate (s.takeWhile isWordChar)) : IsUnfinished (s :: rest)

theorem exists_of_finish_eq {a b : List Char} (h : finish ws = a :: b :: rest) :
    ∃ s w more, ws = s :: w :: more ∧ a = capitalize (replaceWords [] s) ∧
      b = replaceWords [] w ∧ rest = more.map (replaceWords []) := by
  match ws, h with
  | [], h => cases h
  | [_], h => cases h
  | s :: w :: more, h =>
      cases h
      exact ⟨s, w, more, rfl, rfl, rfl, rfl⟩

theorem finish_cons_cons (s w : List Char) (rest : List (List Char)) :
    finish (s :: w :: rest) = capitalize (replaceWords [] s) :: replaceWords [] w ::
      rest.map (replaceWords []) := rfl

theorem exists_reads_by_map_iff (ws : List (List Char)) :
    (∃ j ∈ ws.map (replaceWords []), reads "by" j = true) ↔ ∃ j ∈ ws, reads "by" j = true := by
  have hby : ∀ j, reads "by" (replaceWords [] j) = reads "by" j := fun j =>
    reads_replaceWords (by decide) (by decide) (by decide)
  constructor
  · rintro ⟨_, hmem, hreads⟩
    obtain ⟨j, hj, rfl⟩ := List.mem_map.1 hmem
    exact ⟨j, hj, (hby j).symm.trans hreads⟩
  · rintro ⟨j, hj, hreads⟩
    exact ⟨_, List.mem_map_of_mem hj, (hby j).trans hreads⟩

theorem verb_mem_openingWords : ∀ verb ∈ verbs, verb.1 ∈ openingWords := by decide

/-- If no phrase fits a text, one fits it once it is finished only because of a ligature. -/
theorem hasPhrase_finish_iff (hnone : ¬ HasPhrase init) :
    HasPhrase (finish init) ↔ ∃ s w rest, init = (ligature :: s) :: w :: rest ∧
      reads "nd" s = true ∧ ∃ j ∈ rest, reads "by" j = true := by
  have hreadable : ∀ word ∈ openingWords, word ∈ readWords := by decide
  constructor
  · intro h
    rcases hasPhrase_iff.1 h with ⟨verb, hv, a, b, more, hfinish, ha, hj⟩ |
      ⟨a, b, more, hfinish, ha, hb⟩
    · obtain ⟨s, w, rest, rfl, rfl, rfl, rfl⟩ := exists_of_finish_eq hfinish
      rw [exists_reads_by_map_iff] at hj
      have hopening := verb_mem_openingWords verb hv
      rcases reads_of_reads_capitalize hopening ha with hs | ⟨-, t, hs, ht⟩
      · -- the opening was there before
        rw [replaceWords_of_reads (hreadable _ hopening) hs] at hs
        exact absurd (hasPhrase_iff.2 (.inl ⟨verb, hv, s, w, rest, rfl, hs, hj⟩)) hnone
      · -- it is made of a ligature
        rw [replaceWords_eq_ligature_iff ht] at hs
        exact ⟨t, w, rest, by rw [hs], ht, hj⟩
    · obtain ⟨s, w, rest, rfl, rfl, rfl, rfl⟩ := exists_of_finish_eq hfinish
      rw [reads_replaceWords (by decide) (by decide) (by decide)] at hb
      rcases reads_of_reads_capitalize (by decide) ha with hs | ⟨hfind, -⟩
      · rw [reads_replaceWords (by decide) (by decide) (by decide)] at hs
        exact absurd (hasPhrase_iff.2 (.inr ⟨s, w, rest, rfl, hs, hb⟩)) hnone
      · exact absurd hfind (by decide)
  · rintro ⟨s, w, rest, rfl, hs, hj⟩
    rw [finish_cons_cons, (replaceWords_eq_ligature_iff hs).2 rfl]
    exact hasPhrase_iff.2 (.inl ⟨("find", "retrieve"), by decide, _, _, _, rfl,
      reads_find_ligature hs, (exists_reads_by_map_iff rest).2 hj⟩)

/-- Only `update` is written as it is read. -/
theorem eq_update_of_reads_written : ∀ verb ∈ verbs, ∀ word ∈ openingWords,
    reads word (capitalize (replaceWords [] verb.2.toList)) = true →
      verb.1 = "update" ∧ word = "update" := by
  decide

section Joints

variable {front back : List (List Char)} {j : List Char}

theorem countP_joints (hj : reads "by" j = true) (hback : ∀ v ∈ back, reads "by" v = false) :
    (front ++ j :: back).countP (reads "by") = front.countP (reads "by") + 1 := by
  have hnone : back.countP (reads "by") = 0 := by
    rw [List.countP_eq_zero]
    intro v hv
    simp [hback v hv]
  rw [List.countP_append, List.countP_cons_of_pos hj, hnone]

/-- The joints that are left when the last one is replaced stand before it. -/
theorem exists_joint_left_iff (hback : ∀ v ∈ back, reads "by" v = false) :
    (∃ k ∈ (front ++ "using".toList :: back).map (replaceWords []), reads "by" k = true) ↔
      0 < front.countP (reads "by") := by
  have husing : reads "by" "using".toList = false := by decide
  rw [exists_reads_by_map_iff, List.countP_pos_iff]
  constructor
  · rintro ⟨k, hk, hkby⟩
    rcases List.mem_append.1 hk with hk | hk
    · exact ⟨k, hk, hkby⟩
    · rcases List.mem_cons.1 hk with rfl | hk
      · rw [husing] at hkby
        cases hkby
      · rw [hback k hk] at hkby
        cases hkby
  · rintro ⟨k, hk, hkby⟩
    exact ⟨k, List.mem_append_left _ hk, hkby⟩

end Joints

/-- Behind a phrase with a joint another one is left only if it is `update` and has more joints. -/
theorem Joins.hasPhrase_finish_iff {ws' : List (List Char)} (h : Joins ws ws') :
    HasPhrase (finish ws') ↔ ∃ s w rest, ws = s :: w :: rest ∧ reads "update" s = true ∧
      2 ≤ rest.countP (reads "by") := by
  obtain @⟨verb, s, w, j, front, back, hv, hs, hj, hback⟩ := h
  have hcount : (front ++ j :: back).countP (reads "by") = front.countP (reads "by") + 1 :=
    countP_joints hj hback
  rw [finish_cons_cons]
  constructor
  · intro h
    rcases hasPhrase_iff.1 h with ⟨verb', hv', a, b, more, hws, ha, hby⟩ |
      ⟨a, b, more, hws, ha, -⟩
    · cases hws
      have hword := verb_mem_openingWords verb' hv'
      obtain ⟨hupdate, -⟩ := eq_update_of_reads_written verb hv _ hword ha
      have hpos := (exists_joint_left_iff hback).1 hby
      rw [hupdate] at hs
      exact ⟨s, w, _, rfl, hs, by omega⟩
    · cases hws
      exact absurd (eq_update_of_reads_written verb hv "create" (by decide) ha).2 (by decide)
  · rintro ⟨s', w', rest', hws, hs', htwo⟩
    cases hws
    have hupdate : verb.1 = "update" :=
      eq_of_reads (verb_mem_openingWords verb hv) (by decide) hs hs'
    have hverb : ∀ verb ∈ verbs, verb.1 = "update" → verb = ("update", "update") := by decide
    obtain rfl := hverb verb hv hupdate
    have hleft := (exists_joint_left_iff hback).2 (show 0 < front.countP (reads "by") by omega)
    exact hasPhrase_iff.2 (.inl ⟨("update", "update"), hv, _, _, _, rfl, by decide, hleft⟩)

theorem Creates.not_hasPhrase_finish {ws' : List (List Char)} (h : Creates ws ws') :
    ¬ HasPhrase (finish ws') := by
  obtain ⟨-, -⟩ := h
  have hverbs : ∀ verb ∈ verbs,
      reads verb.1 (capitalize (replaceWords [] "create".toList)) = false := by decide
  rw [finish_cons_cons]
  intro hphrase
  rcases hasPhrase_iff.1 hphrase with ⟨verb, hv, a, b, more, hws, ha, -⟩ |
    ⟨a, b, more, hws, -, hb⟩
  · cases hws
    rw [hverbs verb hv] at ha
    cases ha
  · cases hws
    exact absurd hb (by decide)

/-- The words that phrases write stay when they are finished. -/
theorem replaceWords_finish_of_hasPhrase (h : HasPhrase init) :
    ∀ v ∈ (finish (rephrase init ++ [l])).head?, replaceWords [] v = v := by
  have hverbs : ∀ verb ∈ verbs, replaceWords [] (capitalize (replaceWords [] verb.2.toList))
      = capitalize (replaceWords [] verb.2.toList) := by decide
  rcases rephrase_cases init with ⟨hnone, -⟩ | hjoins | hcreates
  · exact absurd h hnone
  · generalize rephrase init = ws' at hjoins
    obtain ⟨hv, -, -, -⟩ := hjoins
    rintro v ⟨⟩
    exact hverbs _ hv
  · generalize rephrase init = ws' at hcreates
    obtain ⟨-, -⟩ := hcreates
    rintro v ⟨⟩
    decide

/-- Whether the first word is late decides whether something is replaced in it. -/
theorem replaceWords_finish_iff (hws : ∀ w ∈ ws, w ≠ []) :
    (∀ v ∈ (finish ws).head?, replaceWords [] v = v) ↔
      ∀ s ∈ ws.head?, ¬ IsLate (s.takeWhile isWordChar) := by
  cases ws with
  | nil => exact iff_of_true (fun _ h => nomatch h) fun _ h => nomatch h
  | cons s ws =>
      have hs : s ≠ [] := hws s List.mem_cons_self
      have hhead : (finish (s :: ws)).head? = some (capitalize (replaceWords [] s)) := rfl
      rw [hhead, List.head?_cons]
      simpa using replaceWords_capitalize_iff hs

theorem isUnfinished_iff_of_hasPhrase (h : HasPhrase init) :
    IsUnfinished (init ++ [l]) ↔ ∃ s w rest, init = s :: w :: rest ∧ reads "update" s = true ∧
      2 ≤ rest.countP (reads "by") := by
  constructor
  · intro hunfinished
    generalize hws : init ++ [l] = ws at hunfinished
    cases hunfinished with
    | joints hs hrest =>
        obtain ⟨rfl, -⟩ := List.append_singleton_inj.1 hws
        exact ⟨_, _, _, rfl, hs, hrest⟩
    | ligature hs hrest =>
        -- no phrase begins with a ligature
        obtain ⟨rfl, -⟩ := List.append_singleton_inj.1 hws
        have hnone : ∀ word ∈ openingWords, ∀ t, ¬ reads word (ligature :: t) = true := by
          intro word hword t
          simp [not_reads_ligature hword]
        rcases hasPhrase_iff.1 h with ⟨verb, hv, a, b, more, hws, ha, -⟩ |
          ⟨a, b, more, hws, ha, -⟩
        · cases hws
          exact absurd ha (hnone _ (verb_mem_openingWords verb hv) _)
        · cases hws
          exact absurd ha (hnone _ (by decide) _)
    | late hnone hs =>
        rw [← hws, List.dropLast_concat] at hnone
        exact absurd h hnone
  · rintro ⟨s, w, rest, rfl, hs, hrest⟩
    exact .joints hs hrest

theorem isUnfinished_iff_of_not_hasPhrase (h : ¬ HasPhrase init) :
    IsUnfinished (init ++ [l]) ↔
      (∃ s w rest, init = (ligature :: s) :: w :: rest ∧ reads "nd" s = true ∧
        ∃ j ∈ rest, reads "by" j = true) ∨
      ¬ ∀ s ∈ (init ++ [l]).head?, ¬ IsLate (s.takeWhile isWordChar) := by
  constructor
  · intro hunfinished
    generalize hws : init ++ [l] = ws at hunfinished
    cases hunfinished with
    | joints hs hrest =>
        obtain ⟨rfl, -⟩ := List.append_singleton_inj.1 hws
        obtain ⟨j, hj, hby⟩ := List.countP_pos_iff.1 (Nat.lt_of_lt_of_le Nat.zero_lt_two hrest)
        exact absurd (hasPhrase_iff.2 (.inl ⟨("update", "update"), by decide, _, _, _, rfl, hs,
          j, hj, hby⟩)) h
    | ligature hs hrest =>
        obtain ⟨rfl, -⟩ := List.append_singleton_inj.1 hws
        exact .inl ⟨_, _, _, rfl, hs, hrest⟩
    | late hnone hs => exact .inr fun hall => hall _ rfl hs
  · rintro (⟨s, w, rest, rfl, hs, hrest⟩ | hlate)
    · exact .ligature hs hrest
    · rw [not_forall] at hlate
      obtain ⟨s, hlate⟩ := hlate
      rw [Classical.not_imp, not_not] at hlate
      obtain ⟨hs, hlate⟩ := hlate
      obtain ⟨rest, hws⟩ := List.head?_eq_some_iff.1 hs
      rw [hws]
      refine .late ?_ hlate
      rwa [← hws, List.dropLast_concat]

/-- Words are finished after one time if and only if nothing was left. -/
theorem finish_rephrase_iff (hws : ∀ w ∈ init ++ [l], IsBlankless w) :
    finish (rephrase (finish (rephrase init)) ++ [finishLast (rephrase init) l])
        = finish (rephrase init ++ [l]) ↔ ¬ IsUnfinished (init ++ [l]) := by
  rw [finish_again_iff]
  rcases rephrase_cases init with ⟨hnone, hsame⟩ | hjoins | hcreates
  · rw [hsame, hasPhrase_finish_iff hnone, replaceWords_finish_iff fun w hw => (hws w hw).1,
      isUnfinished_iff_of_not_hasPhrase hnone, not_or, not_not]
  · rw [hjoins.hasPhrase_finish_iff, isUnfinished_iff_of_hasPhrase hjoins.hasPhrase]
    exact and_iff_left (replaceWords_finish_of_hasPhrase hjoins.hasPhrase)
  · -- nothing is left behind `create`, which is no `update` either
    rw [isUnfinished_iff_of_hasPhrase hcreates.hasPhrase]
    refine iff_of_true
      ⟨hcreates.not_hasPhrase_finish, replaceWords_finish_of_hasPhrase hcreates.hasPhrase⟩ ?_
    rintro ⟨s, w, rest, rfl, hs, -⟩
    generalize rephrase (s :: w :: rest) = ws' at hcreates
    obtain ⟨hcreate, -⟩ := hcreates
    exact absurd (eq_of_reads (by decide) (by decide) hcreate hs) (by decide)

/-- **Polishing a text again changes nothing if and only if the text is not unfinished.** It is
unfinished if it begins with `update` and has more than one joint, if a phrase fits once a ligature
has become two letters, or if no phrase fits and the first word is replaced only with a capital
letter. -/
theorem polish_polish_eq_iff (kind : Kind) (text : String) :
    polish kind (polish kind text) = polish kind text ↔
      ¬ IsUnfinished (Text.words text.toList) := by
  unfold polish
  rw [String.toList_ofList, String.ofList_inj]
  rcases List.eq_nil_or_concat (Text.words text.toList) with hnil | ⟨init, l, hwords⟩
  · -- a text without words stays empty
    have hempty : polishChars kind text.toList = [] :=
      polishChars_of_blank kind (words_eq_nil_iff.1 hnil)
    have hnone : ¬ IsUnfinished [] := by
      intro h
      generalize hws : ([] : List (List Char)) = ws at h
      cases h <;> cases hws
    rw [hempty, hnil]
    exact iff_of_true (polishChars_of_blank kind (List.forall_mem_nil _)) hnone
  · rw [List.concat_eq_append] at hwords
    rw [polishChars_polishChars_iff kind hwords, hwords]
    exact finish_rephrase_iff fun w hw => isBlankless_of_mem_words (hwords ▸ hw)

/-- Something is left in each of these texts. -/
theorem polished_twice :
    (polish .summary "get pets" = "Get pets" ∧
        polish .summary (polish .summary "get pets") = "Retrieve pets") ∧
      (polish .summary "update pet by owner by name" = "Update pet by owner using name" ∧
        polish .summary (polish .summary "update pet by owner by name")
          = "Update pet using owner using name") ∧
      (polish .summary "ﬁnd pet by name" = "FInd pet by name" ∧
        polish .summary (polish .summary "ﬁnd pet by name") = "Retrieve pet using name") ∧
      ¬ ∀ kind text, polish kind (polish kind text) = polish kind text := by
  have hget : polish .summary "get pets" = "Get pets" ∧
      polish .summary (polish .summary "get pets") = "Retrieve pets" := by decide +kernel
  refine ⟨hget, by decide +kernel, by decide +kernel, fun h => ?_⟩
  have hsame := hget.2.symm.trans ((h .summary "get pets").trans hget.1)
  exact absurd hsame (by decide)

end ApiTools.Wording
