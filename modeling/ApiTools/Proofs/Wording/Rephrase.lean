import ApiTools.Proofs.Wording.Polish

set_option autoImplicit false

/-!
# Phrases and words

The rules that polish a text are written for its characters, but none of them looks further than a
word: a text that is put together from words is polished by polishing the list of its words. A
phrase is told by the words before the last one, each word is gone through on its own, and the first
one gets its capital letter.
-/

namespace ApiTools.Wording

open ApiTools.Text

variable {u v w l cs : List Char} {init ws : List (List Char)}

/-! ## Words with a space behind each -/

/-- Words with a space behind each of them. -/
def spaced (ws : List (List Char)) : List Char := ws.flatMap (· ++ [' '])

theorem spaced_cons (w : List Char) (ws : List (List Char)) :
    spaced (w :: ws) = w ++ ' ' :: spaced ws := by
  unfold spaced
  rw [List.flatMap_cons, List.append_assoc]
  rfl

theorem spaced_cons_append (w : List Char) (ws : List (List Char)) (cs : List Char) :
    spaced (w :: ws) ++ cs = w ++ ' ' :: (spaced ws ++ cs) := by
  rw [spaced_cons, List.append_assoc, List.cons_append]

theorem spaced_append (us ws : List (List Char)) : spaced (us ++ ws) = spaced us ++ spaced ws :=
  List.flatMap_append

theorem joinWith_append_singleton (init : List (List Char)) (l : List Char) :
    joinWith [' '] (init ++ [l]) = spaced init ++ l := by
  induction init with
  | nil => rfl
  | cons w init ih =>
      rw [spaced_cons_append, List.cons_append, ← ih]
      cases init with
      | nil => exact List.append_assoc w [' '] l
      | cons v init => exact List.append_assoc w [' '] _

/-- Joined words in front of a space. -/
theorem joinWith_append_space (w : List Char) (ws : List (List Char)) (cs : List Char) :
    joinWith [' '] (w :: ws) ++ ' ' :: cs = spaced (w :: ws) ++ cs := by
  induction ws generalizing w with
  | nil => simp [joinWith, spaced]
  | cons v ws ih =>
      rw [joinWith_cons_cons, List.append_assoc, ih, spaced_cons_append w, List.append_assoc]
      rfl

/-! ## Reading words -/

/-- Whether a word is the given one when case is ignored. -/
def reads (word : String) (w : List Char) : Bool := afterFolded? word.toList w == some []

/-- The words behind an opening, if it can be read. -/
def afterReading? : List String → List (List Char) → Option (List (List Char))
  | [], ws => some ws
  | _ :: _, [] => none
  | o :: os, w :: ws => if reads o w then afterReading? os ws else none

/-- The words before and behind the last one that reads as the joint. -/
def lastReading? (joint : String) :
    List (List Char) → Option (List (List Char) × List (List Char))
  | [] => none
  | w :: ws =>
    match lastReading? joint ws with
    | some (front, back) => some (w :: front, back)
    | none => if reads joint w then some ([], ws) else none

/-- A text without blanks, which may be empty. -/
def HasNoBlank (cs : List Char) : Prop := ∀ c ∈ cs, isBlank c = false

instance (cs : List Char) : Decidable (HasNoBlank cs) := List.decidableBAll _ cs

theorem not_matchesLetter_space {d : Char} (hd : isBlank d = false) :
    matchesLetter d ' ' = false := by
  have hsmall : lowerChar ' ' = [' '] := lowerChar_of_ascii (by decide) (by decide)
  unfold matchesLetter
  rw [hsmall]
  by_contra h
  obtain rfl : ' ' = d := by simpa using h
  cases hd

theorem afterFolded?_cons_cons (d c : Char) (u cs : List Char) :
    afterFolded? (d :: u) (c :: cs)
      = if matchesLetter d c = true then afterFolded? u cs else none := rfl

/-- A space is read only where there is one. -/
theorem afterFolded?_space {c : Char} (hc : isBlank c = false) (u cs : List Char) :
    afterFolded? (' ' :: u) (c :: cs) = none := by
  rw [afterFolded?_cons_cons, if_neg]
  intro h
  rw [eq_space_of_matchesLetter h] at hc
  cases hc

/-- A beginning that ends with a space covers a whole word. -/
theorem afterFolded?_word (hu : HasNoBlank u) (hw : HasNoBlank w) (v cs : List Char) :
    afterFolded? (u ++ ' ' :: v) (w ++ ' ' :: cs)
      = if afterFolded? u w = some [] then afterFolded? v cs else none := by
  induction u generalizing w with
  | nil =>
      cases w with
      | nil =>
          have hspace : matchesLetter ' ' ' ' = true := by decide
          rw [List.nil_append, List.nil_append, afterFolded?_cons_cons, if_pos hspace]
          rfl
      | cons c w => exact afterFolded?_space (hw c List.mem_cons_self) v _
  | cons d u ih =>
      obtain ⟨hd, hu⟩ := List.forall_mem_cons.1 hu
      cases w with
      | nil =>
          rw [List.cons_append, List.nil_append, afterFolded?_cons_cons,
            if_neg (by simp [not_matchesLetter_space hd])]
          rfl
      | cons c w =>
          rw [List.cons_append, List.cons_append, afterFolded?_cons_cons, afterFolded?_cons_cons,
            ih hu (List.forall_mem_cons.1 hw).2]
          split <;> rfl

/-- A beginning with a space in it is longer than a word. -/
theorem afterFolded?_last (hw : HasNoBlank w) (u v : List Char) :
    afterFolded? (u ++ ' ' :: v) w = none := by
  induction u generalizing w with
  | nil =>
      cases w with
      | nil => rfl
      | cons c w => exact afterFolded?_space (hw c List.mem_cons_self) v w
  | cons d u ih =>
      cases w with
      | nil => rfl
      | cons c w =>
          rw [List.cons_append, afterFolded?_cons_cons, ih (List.forall_mem_cons.1 hw).2]
          split <;> rfl

/-- A text begins with the words of an opening if they can be read one after the other. -/
theorem afterFolded?_spaced {os : List String} (hos : ∀ o ∈ os, HasNoBlank o.toList)
    (hinit : ∀ w ∈ init, HasNoBlank w) (hl : HasNoBlank l) :
    afterFolded? (spaced (os.map String.toList)) (spaced init ++ l)
      = (afterReading? os init).map fun rest => spaced rest ++ l := by
  induction os generalizing init with
  | nil => rfl
  | cons o os ih =>
      obtain ⟨ho, hos⟩ := List.forall_mem_cons.1 hos
      rw [List.map_cons, spaced_cons]
      cases init with
      | nil => exact afterFolded?_last hl _ _
      | cons w init =>
          obtain ⟨hw, hinit⟩ := List.forall_mem_cons.1 hinit
          rw [spaced_cons_append, afterFolded?_word ho hw, ih hos hinit, afterReading?]
          unfold reads
          by_cases h : afterFolded? o.toList w = some []
          · rw [if_pos h, if_pos (by simpa using h)]
          · rw [if_neg h, if_neg (by simpa using h)]
            rfl

/-! ## The last joint -/

theorem lastJoint?_last (hl : HasNoBlank l) (j : List Char) : lastJoint? (' ' :: j) l = none := by
  induction l with
  | nil => rfl
  | cons c l ih =>
      obtain ⟨-, hl⟩ := List.forall_mem_cons.1 hl
      rw [lastJoint?, ih hl]
      dsimp only
      rw [show afterFolded? (' ' :: j) l = none from afterFolded?_last hl [] j]

/-- Behind a word a joint is looked for from the space on. -/
theorem lastJoint?_word {c : Char} (hw : HasNoBlank w) (j cs : List Char)
    (hcs : afterFolded? (' ' :: j) cs = none) :
    lastJoint? (' ' :: j) (c :: w ++ ' ' :: cs)
      = match lastJoint? (' ' :: j) cs with
        | some (front, back) => some (c :: w ++ ' ' :: front, back)
        | none => match afterFolded? j cs with
          | some (b :: back) => some (c :: w, b :: back)
          | _ => none := by
  have hspace : afterFolded? (' ' :: j) (' ' :: cs) = afterFolded? j cs := by
    rw [afterFolded?_cons_cons, if_pos (by decide)]
  induction w generalizing c with
  | nil =>
      show lastJoint? (' ' :: j) (c :: ' ' :: cs) = _
      rw [lastJoint?, lastJoint?, hcs, hspace]
      cases lastJoint? (' ' :: j) cs with
      | some found => rfl
      | none => rfl
  | cons d w ih =>
      obtain ⟨hd, hw⟩ := List.forall_mem_cons.1 hw
      show lastJoint? (' ' :: j) (c :: (d :: w ++ ' ' :: cs)) = _
      -- the word goes on, so there is no joint behind its first letter
      have hnone : afterFolded? (' ' :: j) (d :: w ++ ' ' :: cs) = none := afterFolded?_space hd _ _
      rw [lastJoint?, ih hw, hnone]
      cases lastJoint? (' ' :: j) cs with
      | some found => rfl
      | none =>
          dsimp only
          cases afterFolded? j cs with
          | none => rfl
          | some back => cases back <;> rfl

/-- The last joint of a text stands at the last of its words that reads as the joint, apart from the
first one and the last one. -/
theorem lastJoint?_spaced {joint : String} (hj : HasNoBlank joint.toList)
    (hw : IsBlankless w) (hinit : ∀ v ∈ init, IsBlankless v) (hl : IsBlankless l) :
    lastJoint? (' ' :: (joint.toList ++ [' '])) (spaced (w :: init) ++ l)
      = (lastReading? joint init).map fun found =>
          (joinWith [' '] (w :: found.1), spaced found.2 ++ l) := by
  induction init generalizing w with
  | nil =>
      obtain ⟨c, w, rfl⟩ := List.exists_cons_of_ne_nil hw.1
      have hnext : afterFolded? (' ' :: (joint.toList ++ [' '])) l = none :=
        afterFolded?_last hl.2 [] _
      rw [spaced_cons_append, show spaced [] ++ l = l from rfl,
        lastJoint?_word (List.forall_mem_cons.1 hw.2).2 _ _ hnext]
      show (match lastJoint? (' ' :: (joint.toList ++ [' '])) l with
        | some (front, back) => some (c :: w ++ ' ' :: front, back)
        | none => match afterFolded? (joint.toList ++ [' ']) l with
          | some (b :: back) => some (c :: w, b :: back)
          | _ => none) = _
      rw [lastJoint?_last hl.2, afterFolded?_last hl.2]
      rfl
  | cons v init ih =>
      obtain ⟨hv, hinit⟩ := List.forall_mem_cons.1 hinit
      obtain ⟨c, w, rfl⟩ := List.exists_cons_of_ne_nil hw.1
      have hnext :
          afterFolded? (' ' :: (joint.toList ++ [' '])) (spaced (v :: init) ++ l) = none := by
        obtain ⟨d, v, rfl⟩ := List.exists_cons_of_ne_nil hv.1
        exact afterFolded?_space (hv.2 d List.mem_cons_self) _ _
      rw [spaced_cons_append (c :: w),
        lastJoint?_word (List.forall_mem_cons.1 hw.2).2 _ _ hnext, ih hv hinit, lastReading?]
      cases lastReading? joint init with
      | some found =>
          -- a joint further behind goes first
          dsimp only [Option.map_some]
          rw [joinWith_cons_cons, List.append_assoc]
          rfl
      | none =>
          dsimp only [Option.map_none]
          rw [spaced_cons_append, afterFolded?_word hj hv.2 [] (spaced init ++ l)]
          unfold reads
          by_cases h : afterFolded? joint.toList v = some []
          · -- the last word stands behind the joint, so the rest is not empty
            obtain ⟨d, back, hback⟩ : ∃ d back, spaced init ++ l = d :: back :=
              List.exists_cons_of_ne_nil (by simp [hl.1])
            rw [if_pos h, if_pos (by simpa using h), hback]
            show some (c :: w, d :: back) = some (c :: w, spaced init ++ l)
            rw [hback]
          · rw [if_neg h, if_neg (by simpa using h)]
            rfl

/-! ## Phrases -/

/-- A phrase by its words: those of its opening, those that the opening is replaced by, and the
joint with its replacement. -/
structure Rule where
  opening : List String
  newOpening : List String
  joint : Option (String × String) := none

/-- The phrases by their words. -/
def rules : List Rule :=
  [⟨["find"], ["retrieve"], some ("by", "using")⟩,
   ⟨["get"], ["retrieve"], some ("by", "using")⟩,
   ⟨["create", "new"], ["create", "a", "new"], none⟩,
   ⟨["update"], ["update"], some ("by", "using")⟩,
   ⟨["delete"], ["remove"], some ("by", "using")⟩]

/-- The phrase that a rule stands for. -/
def Rule.phrase (r : Rule) : Phrase where
  opening := String.ofList (spaced (r.opening.map String.toList))
  newOpening := String.ofList (spaced (r.newOpening.map String.toList))
  joint := r.joint.map fun j => (" " ++ j.1 ++ " ", " " ++ j.2 ++ " ")

theorem phrases_eq : phrases = rules.map Rule.phrase := by
  rfl

/-- Applies a rule to the words before the last one; none if the words do not have its form. -/
def Rule.rephrase? (r : Rule) (init : List (List Char)) : Option (List (List Char)) :=
  (afterReading? r.opening init).bind fun rest =>
    match r.joint with
    | none => some (r.newOpening.map String.toList ++ rest)
    | some (joint, newJoint) =>
      match rest with
      | [] => none
      | w :: ws => (lastReading? joint ws).map fun found =>
          r.newOpening.map String.toList ++ w :: found.1 ++ newJoint.toList :: found.2

/-- What a rule reads has no blanks, and what it writes are words. -/
structure Rule.IsWordly (r : Rule) : Prop where
  opening : ∀ o ∈ r.opening, HasNoBlank o.toList
  newOpening : ∀ o ∈ r.newOpening, IsBlankless o.toList
  joint : ∀ j ∈ r.joint, HasNoBlank j.1.toList ∧ IsBlankless j.2.toList

theorem rules_wordly : ∀ r ∈ rules, r.IsWordly := by
  have hby : ∀ j ∈ some ("by", "using"), HasNoBlank j.1.toList ∧ IsBlankless j.2.toList := by
    rintro j ⟨⟩
    exact ⟨by decide, by decide⟩
  intro r hr
  simp only [rules, List.mem_cons, List.not_mem_nil, or_false] at hr
  rcases hr with rfl | rfl | rfl | rfl | rfl
  · exact ⟨by decide, by decide, hby⟩
  · exact ⟨by decide, by decide, hby⟩
  · exact ⟨by decide, by decide, fun _ h => nomatch h⟩
  · exact ⟨by decide, by decide, hby⟩
  · exact ⟨by decide, by decide, hby⟩

theorem lastReading?_eq_none_iff {joint : String} :
    lastReading? joint ws = none ↔ ∀ w ∈ ws, reads joint w = false := by
  induction ws with
  | nil => simp [lastReading?]
  | cons w ws ih =>
      rw [lastReading?, List.forall_mem_cons, ← ih]
      cases lastReading? joint ws with
      | some found => simp
      | none => simp

theorem suffix_of_afterReading? {os : List String} {rest : List (List Char)}
    (h : afterReading? os ws = some rest) : rest <:+ ws := by
  induction os generalizing ws with
  | nil =>
      cases h
      exact List.suffix_refl _
  | cons o os ih =>
      cases ws with
      | nil => cases h
      | cons w ws =>
          rw [afterReading?] at h
          split at h
          · exact (ih h).trans (List.suffix_cons w ws)
          · cases h

/-- A phrase is applied to a text by applying its rule to the words before the last one. -/
theorem Rule.IsWordly.phrase_apply {r : Rule} (hr : r.IsWordly)
    (hinit : ∀ w ∈ init, IsBlankless w) (hl : IsBlankless l) :
    r.phrase.apply (spaced init ++ l) = spaced ((r.rephrase? init).getD init) ++ l := by
  have hopening : afterFolded? r.phrase.opening.toList (spaced init ++ l)
      = (afterReading? r.opening init).map fun rest => spaced rest ++ l := by
    unfold Rule.phrase
    rw [String.toList_ofList]
    exact afterFolded?_spaced hr.opening (fun w hw => (hinit w hw).2) hl.2
  have hnew : r.phrase.newOpening.toList = spaced (r.newOpening.map String.toList) :=
    String.toList_ofList
  unfold Phrase.apply Rule.rephrase?
  rw [hopening, hnew]
  cases hread : afterReading? r.opening init with
  | none => rfl
  | some rest =>
      obtain ⟨c, text, htext⟩ : ∃ c text, spaced rest ++ l = c :: text :=
        List.exists_cons_of_ne_nil (by simp [hl.1])
      rw [Option.map_some, htext, Option.bind_some]
      dsimp only
      unfold Rule.phrase
      cases hjoint : r.joint with
      | none =>
          show spaced (r.newOpening.map String.toList) ++ c :: text = _
          rw [← htext, ← List.append_assoc, ← spaced_append]
          rfl
      | some j =>
          dsimp only [Option.map_some]
          have htoList : ∀ s : String, (" " ++ s ++ " ").toList = ' ' :: (s.toList ++ [' ']) :=
            fun s => by simp
          rw [htoList, htoList, ← htext]
          cases rest with
          | nil =>
              rw [show spaced [] ++ l = l from rfl, lastJoint?_last hl.2]
              rfl
          | cons w ws =>
              have hrest : ∀ v ∈ w :: ws, IsBlankless v := fun v hv =>
                hinit v ((suffix_of_afterReading? hread).mem hv)
              obtain ⟨hw, hws⟩ := List.forall_mem_cons.1 hrest
              rw [lastJoint?_spaced (hr.joint j hjoint).1 hw hws hl]
              dsimp only
              cases lastReading? j.1 ws with
              | none => rfl
              | some found =>
                  show spaced _ ++ joinWith [' '] (w :: found.1) ++ ' ' :: (j.2.toList ++ [' '])
                    ++ (spaced found.2 ++ l)
                      = spaced (_ ++ w :: found.1 ++ j.2.toList :: found.2) ++ l
                  rw [spaced_append, spaced_append, spaced_cons j.2.toList,
                    List.append_assoc (spaced _) (joinWith _ _), joinWith_append_space]
                  simp

/-- A joint that is found stands between what is before and behind it, and there is no later
one. -/
theorem exists_of_lastReading? {joint : String} {front back : List (List Char)}
    (h : lastReading? joint ws = some (front, back)) :
    ∃ j, ws = front ++ j :: back ∧ reads joint j = true ∧ ∀ w ∈ back, reads joint w = false := by
  induction ws generalizing front with
  | nil => cases h
  | cons w ws ih =>
      rw [lastReading?] at h
      cases hlater : lastReading? joint ws with
      | some found =>
          rw [hlater] at h
          cases h
          obtain ⟨j, rfl, hj, hback⟩ := ih hlater
          exact ⟨j, rfl, hj, hback⟩
      | none =>
          rw [hlater] at h
          dsimp only at h
          split at h
          · next hw =>
            cases h
            exact ⟨w, rfl, hw, lastReading?_eq_none_iff.1 hlater⟩
          · cases h

/-! ## Words before the last one -/

/-- The words before the last one with all rules of a list applied to them, one after the other. -/
def rephraseBy (rs : List Rule) (init : List (List Char)) : List (List Char) :=
  rs.foldl (fun ws r => (r.rephrase? ws).getD ws) init

/-- The words before the last one with all phrases applied to them. -/
def rephrase (init : List (List Char)) : List (List Char) := rephraseBy rules init

theorem rephraseBy_cons (r : Rule) (rs : List Rule) (init : List (List Char)) :
    rephraseBy (r :: rs) init = rephraseBy rs ((r.rephrase? init).getD init) := rfl

/-- What a rule gives are the words that it writes, and words that were there. -/
theorem Rule.mem_of_rephrase? {r : Rule} {ws' : List (List Char)} (h : r.rephrase? ws = some ws')
    {w : List Char} (hw : w ∈ ws') :
    w ∈ ws ∨ (∃ o ∈ r.newOpening, w = o.toList) ∨ ∃ j ∈ r.joint, w = j.2.toList := by
  unfold Rule.rephrase? at h
  obtain ⟨rest, hrest, h⟩ := Option.bind_eq_some_iff.1 h
  have hsub := (suffix_of_afterReading? hrest).subset
  cases hj : r.joint with
  | none =>
      rw [hj] at h
      cases h
      rcases List.mem_append.1 hw with hw | hw
      · obtain ⟨o, ho, rfl⟩ := List.mem_map.1 hw
        exact .inr (.inl ⟨o, ho, rfl⟩)
      · exact .inl (hsub hw)
  | some j =>
      rw [hj] at h
      cases rest with
      | nil => cases h
      | cons v rest =>
          obtain ⟨⟨front, back⟩, hfound, rfl⟩ := Option.map_eq_some_iff.1 h
          obtain ⟨k, rfl, -, -⟩ := exists_of_lastReading? hfound
          simp only [List.mem_append, List.mem_cons, List.mem_map] at hw
          rcases hw with (⟨o, ho, rfl⟩ | rfl | hw) | rfl | hw
          · exact .inr (.inl ⟨o, ho, rfl⟩)
          · exact .inl (hsub (by simp))
          · exact .inl (hsub (by simp [hw]))
          · exact .inr (.inr ⟨j, rfl, rfl⟩)
          · exact .inl (hsub (by simp [hw]))

theorem Rule.IsWordly.getD_rephrase? {r : Rule} (hr : r.IsWordly) (hws : ∀ w ∈ ws, IsBlankless w) :
    ∀ w ∈ (r.rephrase? ws).getD ws, IsBlankless w := by
  intro w hw
  cases h : r.rephrase? ws with
  | none =>
      rw [h] at hw
      exact hws w hw
  | some ws' =>
      rw [h] at hw
      rcases Rule.mem_of_rephrase? h hw with hw | ⟨o, ho, rfl⟩ | ⟨j, hj, rfl⟩
      · exact hws w hw
      · exact hr.newOpening o ho
      · exact (hr.joint j hj).2

theorem isBlankless_of_mem_rephraseBy {rs : List Rule} (hrs : ∀ r ∈ rs, r.IsWordly)
    (hinit : ∀ w ∈ init, IsBlankless w) : ∀ w ∈ rephraseBy rs init, IsBlankless w := by
  induction rs generalizing init with
  | nil => exact hinit
  | cons r rs ih =>
      obtain ⟨hr, hrs⟩ := List.forall_mem_cons.1 hrs
      exact ih hrs (hr.getD_rephrase? hinit)

theorem isBlankless_of_mem_rephrase (hinit : ∀ w ∈ init, IsBlankless w) :
    ∀ w ∈ rephrase init, IsBlankless w :=
  isBlankless_of_mem_rephraseBy rules_wordly hinit

theorem foldl_phrase_apply {rs : List Rule} (hrs : ∀ r ∈ rs, r.IsWordly)
    (hinit : ∀ w ∈ init, IsBlankless w) (hl : IsBlankless l) :
    (rs.map Rule.phrase).foldl (fun t p => p.apply t) (spaced init ++ l)
      = spaced (rephraseBy rs init) ++ l := by
  induction rs generalizing init with
  | nil => rfl
  | cons r rs ih =>
      obtain ⟨hr, hrs⟩ := List.forall_mem_cons.1 hrs
      rw [List.map_cons, List.foldl_cons, hr.phrase_apply hinit hl]
      exact ih hrs (hr.getD_rephrase? hinit)

/-- Applying the phrases to a text is rephrasing the words before the last one. -/
theorem foldl_apply_spaced (hinit : ∀ w ∈ init, IsBlankless w) (hl : IsBlankless l) :
    phrases.foldl (fun t p => p.apply t) (spaced init ++ l) = spaced (rephrase init) ++ l := by
  rw [phrases_eq]
  exact foldl_phrase_apply rules_wordly hinit hl

/-! ## Which phrase is applied -/

/-- One of the phrases fits the words before the last one. -/
def HasPhrase (init : List (List Char)) : Prop := ∃ r ∈ rules, (r.rephrase? init).isSome

theorem prefix_of_rephrase? {r : Rule} {ws' : List (List Char)} (h : r.rephrase? ws = some ws') :
    r.newOpening.map String.toList <+: ws' := by
  unfold Rule.rephrase? at h
  obtain ⟨rest, -, h⟩ := Option.bind_eq_some_iff.1 h
  cases hj : r.joint with
  | none =>
      rw [hj] at h
      cases h
      exact List.prefix_append _ _
  | some j =>
      rw [hj] at h
      cases rest with
      | nil => cases h
      | cons v rest =>
          obtain ⟨found, -, rfl⟩ := Option.map_eq_some_iff.1 h
          rw [List.append_assoc]
          exact List.prefix_append _ _

/-- A text that begins with what one rule writes does not begin as the other one reads. -/
def Rule.ClosesTo (r q : Rule) : Prop :=
  r.newOpening ≠ [] ∧ q.opening ≠ [] ∧
    reads (q.opening.headD "") (r.newOpening.headD "").toList = false

instance (r q : Rule) : Decidable (r.ClosesTo q) := inferInstanceAs (Decidable (_ ∧ _ ∧ _))

theorem rules_close : rules.Pairwise Rule.ClosesTo := by decide

theorem Rule.ClosesTo.rephrase?_eq_none {r q : Rule} (hrq : r.ClosesTo q) {ws' : List (List Char)}
    (h : r.rephrase? ws = some ws') : q.rephrase? ws' = none := by
  obtain ⟨hn, ho, hreads⟩ := hrq
  obtain ⟨n, new, hnew⟩ := List.exists_cons_of_ne_nil hn
  obtain ⟨o, rest, hopening⟩ := List.exists_cons_of_ne_nil ho
  obtain ⟨more, rfl⟩ := prefix_of_rephrase? h
  rw [hnew, hopening] at hreads
  unfold Rule.rephrase?
  rw [hnew, hopening, List.map_cons, List.cons_append, afterReading?,
    if_neg (by simpa using hreads)]
  rfl

/-- At most one phrase is applied. -/
theorem rephraseBy_cases {rs : List Rule} (hrs : rs.Pairwise Rule.ClosesTo)
    (init : List (List Char)) :
    (∀ r ∈ rs, r.rephrase? init = none) ∧ rephraseBy rs init = init ∨
      ∃ r ∈ rs, r.rephrase? init = some (rephraseBy rs init) := by
  induction rs generalizing init with
  | nil => exact .inl ⟨List.forall_mem_nil _, rfl⟩
  | cons r rs ih =>
      obtain ⟨hr, hrs⟩ := List.pairwise_cons.1 hrs
      rw [rephraseBy_cons]
      cases h : r.rephrase? init with
      | none =>
          rcases ih hrs init with ⟨hnone, hsame⟩ | ⟨q, hq, hsome⟩
          · exact .inl ⟨List.forall_mem_cons.2 ⟨h, hnone⟩, hsame⟩
          · exact .inr ⟨q, List.mem_cons_of_mem r hq, hsome⟩
      | some ws =>
          -- what the rule has written keeps the rules behind it from being applied
          refine .inr ⟨r, List.mem_cons_self, ?_⟩
          have hnone : ∀ q ∈ rs, q.rephrase? ws = none := fun q hq => (hr q hq).rephrase?_eq_none h
          rcases ih hrs ws with ⟨-, hsame⟩ | ⟨q, hq, hsome⟩
          · exact h.trans (congrArg some hsame.symm)
          · rw [hnone q hq] at hsome
            cases hsome

/-- The openings of the phrases with a joint, and what they are replaced by. -/
def verbs : List (String × String) :=
  [("find", "retrieve"), ("get", "retrieve"), ("update", "update"), ("delete", "remove")]

/-- The rule of a phrase with a joint. -/
def verbRule (verb : String × String) : Rule := ⟨[verb.1], [verb.2], some ("by", "using")⟩

/-- The rule of the phrase without a joint. -/
def createRule : Rule := ⟨["create", "new"], ["create", "a", "new"], none⟩

theorem mem_rules_iff {r : Rule} :
    r ∈ rules ↔ (∃ verb ∈ verbs, r = verbRule verb) ∨ r = createRule := by
  simp [rules, verbs, verbRule, createRule]
  tauto

/-- What a phrase with a joint does. -/
inductive Joins : List (List Char) → List (List Char) → Prop
  | intro {verb : String × String} {s w j : List Char} {front back : List (List Char)}
      (hv : verb ∈ verbs) (hs : reads verb.1 s = true) (hj : reads "by" j = true)
      (hback : ∀ v ∈ back, reads "by" v = false) :
      Joins (s :: w :: (front ++ j :: back))
        (verb.2.toList :: w :: (front ++ "using".toList :: back))

/-- What the phrase without a joint does. -/
inductive Creates : List (List Char) → List (List Char) → Prop
  | intro {s t : List Char} {rest : List (List Char)} (hs : reads "create" s = true)
      (ht : reads "new" t = true) :
      Creates (s :: t :: rest) ("create".toList :: "a".toList :: "new".toList :: rest)

theorem joins_of_rephrase? {verb : String × String} (hv : verb ∈ verbs) {ws' : List (List Char)}
    (h : (verbRule verb).rephrase? ws = some ws') :
    Joins ws ws' := by
  unfold verbRule Rule.rephrase? at h
  obtain ⟨rest, hrest, hjoin⟩ := Option.bind_eq_some_iff.1 h
  cases ws with
  | nil => cases hrest
  | cons s ws =>
      rw [afterReading?] at hrest
      split at hrest
      · next hs =>
        cases hrest
        cases rest with
        | nil => cases hjoin
        | cons w rest =>
            obtain ⟨⟨front, back⟩, hfound, rfl⟩ := Option.map_eq_some_iff.1 hjoin
            obtain ⟨j, rfl, hj, hback⟩ := exists_of_lastReading? hfound
            exact .intro hv hs hj hback
      · cases hrest

theorem creates_of_rephrase? {ws' : List (List Char)}
    (h : createRule.rephrase? ws = some ws') :
    Creates ws ws' := by
  unfold createRule Rule.rephrase? at h
  obtain ⟨rest, hrest, hcreate⟩ := Option.bind_eq_some_iff.1 h
  cases hcreate
  cases ws with
  | nil => cases hrest
  | cons s ws =>
      rw [afterReading?] at hrest
      split at hrest
      · next hs =>
        cases ws with
        | nil => cases hrest
        | cons t ws =>
            rw [afterReading?] at hrest
            split at hrest
            · next ht =>
              cases hrest
              exact .intro hs ht
            · cases hrest
      · cases hrest

/-- **Rephrasing applies the one phrase that fits, if there is one.** -/
theorem rephrase_cases (init : List (List Char)) :
    (¬ HasPhrase init ∧ rephrase init = init) ∨ Joins init (rephrase init) ∨
      Creates init (rephrase init) := by
  rcases rephraseBy_cases rules_close init with ⟨hnone, hsame⟩ | ⟨r, hr, hsome⟩
  · refine .inl ⟨?_, hsame⟩
    rintro ⟨r, hr, hsome⟩
    rw [hnone r hr] at hsome
    cases hsome
  · right
    rcases mem_rules_iff.1 hr with ⟨verb, hv, rfl⟩ | rfl
    · exact .inl (joins_of_rephrase? hv hsome)
    · exact .inr (creates_of_rephrase? hsome)

/-- When a phrase fits. -/
theorem hasPhrase_iff : HasPhrase ws ↔
    (∃ verb ∈ verbs, ∃ s w rest, ws = s :: w :: rest ∧ reads verb.1 s = true ∧
        ∃ j ∈ rest, reads "by" j = true) ∨
      ∃ s t rest, ws = s :: t :: rest ∧ reads "create" s = true ∧ reads "new" t = true := by
  constructor
  · rintro ⟨r, hr, hsome⟩
    obtain ⟨ws', h⟩ := Option.isSome_iff_exists.1 hsome
    rcases mem_rules_iff.1 hr with ⟨verb, hv, rfl⟩ | rfl
    · obtain ⟨hv', hs, hj, -⟩ := joins_of_rephrase? hv h
      exact .inl ⟨_, hv', _, _, _, rfl, hs, _, by simp, hj⟩
    · obtain ⟨hs, ht⟩ := creates_of_rephrase? h
      exact .inr ⟨_, _, _, rfl, hs, ht⟩
  · rintro (⟨verb, hv, s, w, rest, rfl, hs, j, hmem, hj⟩ | ⟨s, t, rest, rfl, hs, ht⟩)
    · refine ⟨verbRule verb, mem_rules_iff.2 (.inl ⟨verb, hv, rfl⟩), ?_⟩
      have hfound : lastReading? "by" rest ≠ none := by
        intro hnone
        rw [lastReading?_eq_none_iff.1 hnone j hmem] at hj
        cases hj
      obtain ⟨found, hfound⟩ := Option.ne_none_iff_exists'.1 hfound
      unfold verbRule Rule.rephrase?
      dsimp only
      rw [afterReading?, if_pos hs, afterReading?, Option.bind_some]
      dsimp only
      rw [hfound]
      rfl
    · refine ⟨createRule, mem_rules_iff.2 (.inr rfl), ?_⟩
      unfold createRule Rule.rephrase?
      dsimp only
      rw [afterReading?, if_pos hs, afterReading?, if_pos ht, afterReading?]
      rfl

theorem Joins.hasPhrase {ws' : List (List Char)} (h : Joins ws ws') : HasPhrase ws := by
  obtain ⟨hv, hs, hj, -⟩ := h
  exact hasPhrase_iff.2 (.inl ⟨_, hv, _, _, _, rfl, hs, _, by simp, hj⟩)

theorem Creates.hasPhrase {ws' : List (List Char)} (h : Creates ws ws') : HasPhrase ws := by
  obtain ⟨hs, ht⟩ := h
  exact hasPhrase_iff.2 (.inr ⟨_, _, _, rfl, hs, ht⟩)

theorem rephrase_of_not_hasPhrase (h : ¬ HasPhrase init) : rephrase init = init := by
  rcases rephrase_cases init with ⟨-, hsame⟩ | hjoins | hcreates
  · exact hsame
  · exact absurd hjoins.hasPhrase h
  · exact absurd hcreates.hasPhrase h

/-! ## One word -/

theorem replaceWords_cons_word {c : Char} (hc : isWordChar c = true) (acc cs : List Char) :
    replaceWords acc (c :: cs) = replaceWords (c :: acc) cs := by
  rw [replaceWords, if_pos hc]

theorem replaceWords_cons {c : Char} (hc : isWordChar c = false) (acc cs : List Char) :
    replaceWords acc (c :: cs) = replaceWord acc.reverse ++ c :: replaceWords [] cs := by
  rw [replaceWords, if_neg (by simp [hc])]

/-- Replacing words goes on piece by piece at a character that belongs to no word. -/
theorem replaceWords_append_cons {c : Char} (hc : isWordChar c = false) (acc u v : List Char) :
    replaceWords acc (u ++ c :: v) = replaceWords acc u ++ c :: replaceWords [] v := by
  induction u generalizing acc with
  | nil => exact replaceWords_cons hc acc v
  | cons d u ih =>
      rw [List.cons_append]
      by_cases hd : isWordChar d = true
      · rw [replaceWords_cons_word hd, replaceWords_cons_word hd, ih]
      · have hd : isWordChar d = false := by simpa using hd
        rw [replaceWords_cons hd, replaceWords_cons hd, ih, List.append_assoc]
        rfl

theorem isWordChar_space : isWordChar ' ' = false := by decide

theorem replaceWords_spaced (ws : List (List Char)) (l : List Char) :
    replaceWords [] (spaced ws ++ l) = spaced (ws.map (replaceWords [])) ++ replaceWords [] l := by
  induction ws with
  | nil => rfl
  | cons w ws ih =>
      rw [spaced_cons_append, replaceWords_append_cons isWordChar_space, ih, List.map_cons,
        spaced_cons_append]

theorem hasNoBlank_replaceWord (hw : HasNoBlank w) : HasNoBlank (replaceWord w) := by
  have hwords : ∀ e ∈ words, IsBlankless e.2.toList := by decide
  unfold replaceWord
  split
  · next new hfound => exact (hwords _ (List.mem_of_find?_eq_some hfound)).2
  · exact hw

theorem hasNoBlank_replaceWords {acc : List Char} (hacc : HasNoBlank acc) (hcs : HasNoBlank cs) :
    HasNoBlank (replaceWords acc cs) := by
  have hword : ∀ {acc : List Char}, HasNoBlank acc → HasNoBlank (replaceWord acc.reverse) :=
    fun hacc => hasNoBlank_replaceWord fun c hc => hacc c (List.mem_reverse.1 hc)
  induction cs generalizing acc with
  | nil => exact hword hacc
  | cons c cs ih =>
      obtain ⟨hc, hcs⟩ := List.forall_mem_cons.1 hcs
      by_cases hword' : isWordChar c = true
      · rw [replaceWords_cons_word hword']
        exact ih (List.forall_mem_cons.2 ⟨hc, hacc⟩) hcs
      · rw [replaceWords_cons (by simpa using hword')]
        have hrest : HasNoBlank (replaceWords [] cs) := ih (List.forall_mem_nil _) hcs
        exact List.forall_mem_append.2 ⟨hword hacc, List.forall_mem_cons.2 ⟨hc, hrest⟩⟩

theorem isBlankless_replaceWords (hw : IsBlankless w) : IsBlankless (replaceWords [] w) := by
  have hspaced : IsSpacedFrom true (replaceWords [] w) := by
    refine isSpacedFrom_replaceWords ?_
    exact isSpacedFrom_of_isBlankless hw
  exact ⟨hspaced.ne_nil, hasNoBlank_replaceWords (List.forall_mem_nil _) hw.2⟩

theorem isBlankless_capitalize (hw : IsBlankless w) : IsBlankless (capitalize w) := by
  obtain ⟨c, w, rfl⟩ := List.exists_cons_of_ne_nil hw.1
  obtain ⟨hc, hw⟩ := List.forall_mem_cons.1 hw.2
  refine ⟨by simp [capitalize, upperChar_ne_nil], ?_⟩
  exact List.forall_mem_append.2 ⟨fun d hd => not_isBlank_of_mem_upperChar hc hd, hw⟩

/-! ## All words -/

/-- The words of a polished text that is not closed yet, given those that the phrases leave: the
words are replaced one by one, and the first one begins with a capital letter. -/
def finish (ws : List (List Char)) : List (List Char) :=
  (ws.map (replaceWords [])).modifyHead capitalize

theorem capitalize_append (hw : w ≠ []) (cs : List Char) :
    capitalize (w ++ cs) = capitalize w ++ cs := by
  obtain ⟨c, w, rfl⟩ := List.exists_cons_of_ne_nil hw
  exact (List.append_assoc _ _ _).symm

theorem capitalize_joinWith (hws : ∀ w ∈ ws, w ≠ []) :
    capitalize (joinWith [' '] ws) = joinWith [' '] (ws.modifyHead capitalize) := by
  cases ws with
  | nil => rfl
  | cons w ws =>
      have hw : w ≠ [] := hws w List.mem_cons_self
      cases ws with
      | nil => rfl
      | cons v ws =>
          rw [joinWith_cons_cons, List.append_assoc, capitalize_append hw, List.modifyHead_cons,
            joinWith_cons_cons, List.append_assoc]

theorem isBlankless_of_mem_finish (hws : ∀ w ∈ ws, IsBlankless w) :
    ∀ w ∈ finish ws, IsBlankless w := by
  intro w hw
  cases ws with
  | nil => cases hw
  | cons v ws =>
      obtain ⟨hv, hws⟩ := List.forall_mem_cons.1 hws
      rcases List.mem_cons.1 hw with rfl | hw
      · exact isBlankless_capitalize (isBlankless_replaceWords hv)
      · obtain ⟨u, hu, rfl⟩ := List.mem_map.1 hw
        exact isBlankless_replaceWords (hws u hu)

theorem words_joinWith (hws : ∀ w ∈ ws, IsBlankless w) : Text.words (joinWith [' '] ws) = ws := by
  refine runs_joinWith (fun w hw => ?_) (by decide)
  exact ⟨(hws w hw).1, fun c hc => by simp [(hws w hw).2 c hc]⟩

/-- **A text is polished by polishing the list of its words.** -/
theorem unclosed_eq (hcs : Text.words cs = init ++ [l]) :
    unclosed cs = joinWith [' '] (finish (rephrase init ++ [l])) := by
  have hblankless : ∀ w ∈ init ++ [l], IsBlankless w := fun w hw =>
    isBlankless_of_mem_words (hcs ▸ hw)
  have hinit : ∀ w ∈ init, IsBlankless w := fun w hw => hblankless w (List.mem_append_left _ hw)
  have hl : IsBlankless l := hblankless l (by simp)
  have hne : ∀ w ∈ (rephrase init ++ [l]).map (replaceWords []), w ≠ [] := by
    intro w hw
    obtain ⟨v, hv, rfl⟩ := List.mem_map.1 hw
    rcases List.mem_append.1 hv with hv | hv
    · exact (isBlankless_replaceWords (isBlankless_of_mem_rephrase hinit v hv)).1
    · rw [List.mem_singleton.1 hv]
      exact (isBlankless_replaceWords hl).1
  unfold unclosed collapse finish
  rw [hcs, joinWith_append_singleton, foldl_apply_spaced hinit hl, replaceWords_spaced,
    ← joinWith_append_singleton, ← capitalize_joinWith hne, List.map_append]
  rfl

end ApiTools.Wording
