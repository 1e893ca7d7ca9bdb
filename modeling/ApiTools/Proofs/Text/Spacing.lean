import ApiTools.Proofs.Text.Runs

set_option autoImplicit false

/-!
# Spacing

In a well spaced text words stand with one space between two of them and no blank around them. Read
from left to right, such a text is at each place either inside a word or where a word is due. So
texts are put together, and taken apart again, at their spaces.
-/

namespace ApiTools.Text

/-- A text without blanks at its ends, and with no blanks inside but single spaces. -/
structure IsSpaced (cs : List Char) : Prop where
  space : ∀ c ∈ cs, isBlank c = true → c = ' '
  single : ¬ [' ', ' '] <:+: cs
  first : ∀ c, cs.head? = some c → isBlank c = false
  last : ∀ c, cs.getLast? = some c → isBlank c = false

theorem isSpaced_nil : IsSpaced [] where
  space c hc := by cases hc
  single h := by cases List.infix_nil.1 h
  first c hc := by cases hc
  last c hc := by cases hc

/-- A text of characters that are not blank. -/
def IsBlankless (w : List Char) : Prop := w ≠ [] ∧ ∀ c ∈ w, isBlank c = false

instance (w : List Char) : Decidable (IsBlankless w) :=
  decidable_of_iff ((!w.isEmpty && w.all (!isBlank ·)) = true) (by simp [IsBlankless])

/-- A text goes on well spaced from a place where a word is due, or where none is. -/
def IsSpacedFrom (due : Bool) : List Char → Prop
  | [] => due = false
  | c :: cs =>
    if isBlank c = true then c = ' ' ∧ due = false ∧ IsSpacedFrom true cs
    else IsSpacedFrom false cs

instance decidableIsSpacedFrom : ∀ (due : Bool) (cs : List Char), Decidable (IsSpacedFrom due cs)
  | due, [] => inferInstanceAs (Decidable (due = false))
  | due, c :: cs =>
    have := decidableIsSpacedFrom true cs
    have := decidableIsSpacedFrom false cs
    inferInstanceAs <| Decidable <|
      if isBlank c = true then c = ' ' ∧ due = false ∧ IsSpacedFrom true cs
      else IsSpacedFrom false cs

variable {due : Bool} {cs u v w : List Char}

theorem isSpacedFrom_space : IsSpacedFrom due (' ' :: cs) ↔ due = false ∧ IsSpacedFrom true cs := by
  have hspace : isBlank ' ' = true := rfl
  rw [IsSpacedFrom, if_pos hspace, and_iff_right rfl]

theorem isSpacedFrom_of_not_blank {c : Char} (hc : isBlank c = false) :
    IsSpacedFrom due (c :: cs) ↔ IsSpacedFrom false cs := by
  rw [IsSpacedFrom, if_neg (by simp [hc])]

theorem IsSpacedFrom.ne_nil (h : IsSpacedFrom true cs) : cs ≠ [] := by
  rintro rfl
  cases h

theorem IsSpacedFrom.eq_space {c : Char} (h : IsSpacedFrom due cs) (hc : c ∈ cs)
    (hblank : isBlank c = true) : c = ' ' := by
  induction cs generalizing due with
  | nil => cases hc
  | cons d cs ih =>
      rw [IsSpacedFrom] at h
      rcases List.mem_cons.1 hc with rfl | hc
      · rw [if_pos hblank] at h
        exact h.1
      · split at h
        · exact ih h.2.2 hc
        · exact ih h hc

/-- At a space one part ends and another one begins. -/
theorem isSpacedFrom_append_space :
    IsSpacedFrom due (u ++ ' ' :: v) ↔ IsSpacedFrom due u ∧ IsSpacedFrom true v := by
  induction u generalizing due with
  | nil => exact isSpacedFrom_space
  | cons c u ih =>
      rw [List.cons_append, IsSpacedFrom, IsSpacedFrom]
      split
      · rw [ih, and_assoc, and_assoc]
      · exact ih

/-- After a word no other one is due. -/
theorem isSpacedFrom_append_of_isBlankless (hw : IsBlankless w) :
    IsSpacedFrom due (w ++ cs) ↔ IsSpacedFrom false cs := by
  obtain ⟨hne, hw⟩ := hw
  induction w generalizing due with
  | nil => exact absurd rfl hne
  | cons c w ih =>
      obtain ⟨hc, hw⟩ := List.forall_mem_cons.1 hw
      rw [List.cons_append, isSpacedFrom_of_not_blank hc]
      cases w with
      | nil => rfl
      | cons d w => exact ih (List.cons_ne_nil d w) hw

theorem isSpacedFrom_of_isBlankless (hw : IsBlankless w) : IsSpacedFrom due w := by
  rw [← List.append_nil w, isSpacedFrom_append_of_isBlankless hw]
  rfl

/-- What comes behind a text may be replaced. -/
theorem IsSpacedFrom.replace_behind (h : ∀ due, IsSpacedFrom due v → IsSpacedFrom due w)
    (hu : IsSpacedFrom due (u ++ v)) : IsSpacedFrom due (u ++ w) := by
  induction u generalizing due with
  | nil => exact h due hu
  | cons c u ih =>
      rw [List.cons_append, IsSpacedFrom] at hu ⊢
      split at hu
      · next hc =>
        rw [if_pos hc]
        exact ⟨hu.1, hu.2.1, ih hu.2.2⟩
      · next hc =>
        rw [if_neg hc]
        exact ih hu

/-- A text that is well spaced from a place where a word is due is well spaced. -/
theorem IsSpacedFrom.isSpaced (h : IsSpacedFrom true cs) : IsSpaced cs where
  space _ hc hblank := h.eq_space hc hblank
  single := by
    rintro ⟨s, t, rfl⟩
    have htwo : s ++ [' ', ' '] ++ t = s ++ ' ' :: ' ' :: t := by simp
    rw [htwo, isSpacedFrom_append_space, isSpacedFrom_space] at h
    cases h.2.1
  first c hc := by
    obtain ⟨rest, rfl⟩ := List.head?_eq_some_iff.1 hc
    rw [Bool.eq_false_iff]
    intro hblank
    rw [IsSpacedFrom, if_pos hblank] at h
    cases h.2.1
  last c hc := by
    obtain ⟨before, rfl⟩ := List.getLast?_eq_some_iff.1 hc
    rw [Bool.eq_false_iff]
    intro hblank
    -- a space at the end would leave a word due
    rw [h.eq_space (by simp) hblank, isSpacedFrom_append_space] at h
    cases h.2

/-! ## Words -/

/-- Words with spaces between them are well spaced. -/
theorem isSpacedFrom_joinWith {ws : List (List Char)} (hne : ws ≠ [])
    (hws : ∀ w ∈ ws, IsBlankless w) : IsSpacedFrom true (joinWith [' '] ws) := by
  induction ws with
  | nil => exact absurd rfl hne
  | cons w ws ih =>
      obtain ⟨hw, hws⟩ := List.forall_mem_cons.1 hws
      cases ws with
      | nil => exact isSpacedFrom_of_isBlankless hw
      | cons v ws =>
          rw [joinWith_cons_cons, List.append_assoc, List.singleton_append,
            isSpacedFrom_append_space]
          exact ⟨isSpacedFrom_of_isBlankless hw, ih (List.cons_ne_nil v ws) hws⟩

theorem isBlankless_of_mem_words (h : w ∈ words cs) : IsBlankless w :=
  ⟨ne_nil_of_mem_runs h, fun c hc => by simpa using keep_of_mem_runs h hc⟩

/-- A text without words has nothing but blanks. -/
theorem words_eq_nil_iff : words cs = [] ↔ ∀ c ∈ cs, isBlank c = true := by
  unfold words
  rw [runs_eq_nil_iff, List.filter_eq_nil_iff]
  simp

end ApiTools.Text
