import ApiTools.Text.Blank
import ApiTools.Text.Case
import Mathlib.Data.List.Basic

set_option autoImplicit false

/-!
# What letter case leaves

A text in small letters has no capital letter of ASCII, whatever script it is in: no letter of
another script has one as its small form, and the capital letters of ASCII have small forms of their
own. Letters do not turn into blanks, and no letter counts as a blank when case is ignored.
-/

namespace ApiTools.Text

/-- A number that is no code point makes the character zero. -/
theorem toNat_ofNat (n : Nat) : (Char.ofNat n).toNat = n ∨ (Char.ofNat n).toNat = 0 := by
  unfold Char.ofNat
  by_cases h : n.isValidChar
  · rw [dif_pos h]
    exact .inl rfl
  · rw [dif_neg h]
    exact .inr rfl

theorem isCapitalLetter_iff (c : Char) :
    isCapitalLetter c = true ↔ 65 ≤ c.toNat ∧ c.toNat ≤ 90 := by
  unfold isCapitalLetter
  rw [Bool.and_eq_true, decide_eq_true_eq, decide_eq_true_eq]
  exact Iff.rfl

/-- A run that lies apart from a range leads to no character of that range. -/
theorem CaseRun.map_outside {r : CaseRun} {n low high : Nat} (hn : r.covers n = true)
    (hlow : 0 < low) (hapart : r.last + r.shift < low ∨ high < r.first + r.shift) :
    ¬ (low ≤ (r.map n).toNat ∧ (r.map n).toNat ≤ high) := by
  unfold CaseRun.covers at hn
  simp only [Bool.and_eq_true, decide_eq_true_eq] at hn
  unfold CaseRun.map
  rcases toNat_ofNat (n + r.shift).toNat with h | h <;> omega

/-- No run of small forms meets the capital letters of ASCII. -/
theorem lowerRuns_apart :
    ∀ r ∈ lowerRuns, r.last + r.shift < 65 ∨ 90 < r.first + r.shift := by
  decide +kernel

theorem not_isCapitalLetter_map {r : CaseRun} (hr : r ∈ lowerRuns) {n : Nat}
    (hn : r.covers n = true) : isCapitalLetter (r.map n) = false := by
  rw [Bool.eq_false_iff, Ne, isCapitalLetter_iff]
  exact r.map_outside hn (by decide) (lowerRuns_apart r hr)

theorem not_isCapitalLetter_of_mem_lowerChar {c d : Char} (h : d ∈ lowerChar c) :
    isCapitalLetter d = false := by
  unfold lowerChar at h
  split at h
  · have hall : ['i', Char.ofNat 0x307].all (!isCapitalLetter ·) = true := by decide
    simpa using List.all_eq_true.1 hall d h
  · split at h
    · next r hr =>
      obtain rfl := List.mem_singleton.1 h
      have hcovers := List.find?_some hr
      exact not_isCapitalLetter_map (List.mem_of_find?_eq_some hr) hcovers
    · next hnone =>
      -- a capital letter of ASCII is in the first run
      obtain rfl := List.mem_singleton.1 h
      have hfirst := List.find?_eq_none.1 hnone ⟨65, 90, 1, 32⟩ (by decide)
      rw [Bool.eq_false_iff, Ne, isCapitalLetter_iff]
      rintro ⟨hlow, hhigh⟩
      exact hfirst (by simp [CaseRun.covers, hlow, hhigh, Nat.mod_one])

theorem not_isCapitalLetter_of_mem_lower {cs : List Char} {d : Char} (h : d ∈ lower cs) :
    isCapitalLetter d = false := by
  obtain ⟨c, -, hd⟩ := List.mem_flatMap.1 h
  exact not_isCapitalLetter_of_mem_lowerChar hd

/-- A text in small letters has no capital letter of ASCII. -/
theorem not_isCapitalLetter_of_mem_lowercase {s : String} {d : Char}
    (h : d ∈ (lowercase s).toList) : isCapitalLetter d = false := by
  unfold lowercase at h
  rw [String.toList_ofList] at h
  exact not_isCapitalLetter_of_mem_lower h

/-! ## Texts that are in small letters already -/

/-- Of the characters of ASCII only the capital letters are in a run. -/
theorem lowerRuns_begin :
    ∀ r ∈ lowerRuns, 65 ≤ r.first ∧ r.last ≤ 90 ∨ 128 ≤ r.first := by
  decide +kernel

theorem lowerChar_of_ascii {c : Char} (hascii : c.toNat < 128)
    (hsmall : isCapitalLetter c = false) : lowerChar c = [c] := by
  have hnone : lowerRuns.find? (·.covers c.toNat) = none := by
    rw [List.find?_eq_none]
    intro r hr hcovers
    unfold CaseRun.covers at hcovers
    simp only [Bool.and_eq_true, decide_eq_true_eq] at hcovers
    rw [Bool.eq_false_iff, Ne, isCapitalLetter_iff] at hsmall
    rcases lowerRuns_begin r hr with h | h <;> omega
  unfold lowerChar
  rw [if_neg (by omega), hnone]

/-- A text in ASCII without capital letters is its own small form. -/
theorem lower_of_ascii {cs : List Char}
    (h : ∀ c ∈ cs, c.toNat < 128 ∧ isCapitalLetter c = false) : lower cs = cs := by
  have hchars : ∀ c ∈ cs, lowerChar c = [c] := fun c hc => lowerChar_of_ascii (h c hc).1 (h c hc).2
  unfold lower
  rw [List.flatMap_congr hchars, List.flatMap_singleton']

/-! ## Blanks -/

/-- The code points of the blanks, in ranges with both ends. -/
def blankRanges : List (Nat × Nat) :=
  [(9, 13), (28, 32), (0x85, 0x85), (0xA0, 0xA0), (0x1680, 0x1680), (0x2000, 0x200A),
   (0x2028, 0x2029), (0x202F, 0x202F), (0x205F, 0x205F), (0x3000, 0x3000)]

theorem isBlank_iff (c : Char) :
    isBlank c = true ↔ ∃ b ∈ blankRanges, b.1 ≤ c.toNat ∧ c.toNat ≤ b.2 := by
  simp only [isBlank, blankRanges, List.mem_cons, List.not_mem_nil, or_false, exists_eq_or_imp,
    exists_eq_left, Bool.or_eq_true, Bool.and_eq_true, decide_eq_true_eq, beq_iff_eq]
  omega

/-- No run leads to blanks, neither one of small forms nor one of capital forms. -/
theorem caseRuns_blankless : ∀ r ∈ lowerRuns ++ upperRuns, ∀ b ∈ blankRanges,
    r.last + r.shift < b.1 ∨ b.2 < r.first + r.shift := by
  decide +kernel

theorem not_isBlank_map {r : CaseRun} (hr : r ∈ lowerRuns ++ upperRuns) {n : Nat}
    (hn : r.covers n = true) : isBlank (r.map n) = false := by
  rw [Bool.eq_false_iff, Ne, isBlank_iff]
  rintro ⟨b, hb, hrange⟩
  have hpositive : ∀ b ∈ blankRanges, 0 < b.1 := by decide
  exact r.map_outside hn (hpositive b hb) (caseRuns_blankless r hr b hb) hrange

/-- A capital form has at least one character, and it has blanks only if it is that of a blank. -/
theorem not_isBlank_of_mem_upperChar {c d : Char} (hc : isBlank c = false)
    (h : d ∈ upperChar c) : isBlank d = false := by
  unfold upperChar at h
  split at h
  · next cs hfound =>
    have hall : ∀ e ∈ upperExpansions, ∀ n ∈ e.2, isBlank (Char.ofNat n) = false := by
      decide +kernel
    obtain ⟨n, hn, rfl⟩ := List.mem_map.1 h
    exact hall _ (List.mem_of_find?_eq_some hfound) n hn
  · split at h
    · next r hr =>
      obtain rfl := List.mem_singleton.1 h
      have hcovers := List.find?_some hr
      exact not_isBlank_map (List.mem_append_right _ (List.mem_of_find?_eq_some hr)) hcovers
    · obtain rfl := List.mem_singleton.1 h
      exact hc

theorem upperChar_ne_nil (c : Char) : upperChar c ≠ [] := by
  unfold upperChar
  split
  · next cs hfound =>
    have hall : ∀ e ∈ upperExpansions, e.2 ≠ [] := by decide +kernel
    simpa using hall _ (List.mem_of_find?_eq_some hfound)
  · split <;> exact List.cons_ne_nil _ _

/-- Only the space itself is a space when case is ignored. -/
theorem eq_space_of_matchesLetter {c : Char} (h : matchesLetter ' ' c = true) : c = ' ' := by
  have hhead : (lowerChar c).head? = some ' ' := by
    unfold matchesLetter at h
    simpa using h
  unfold lowerChar at hhead
  split at hhead
  · cases hhead
  · split at hhead
    · next r hr =>
      have hcovers := List.find?_some hr
      have hblank : isBlank (r.map c.toNat) = false :=
        not_isBlank_map (List.mem_append_left _ (List.mem_of_find?_eq_some hr)) hcovers
      rw [Option.some.inj hhead] at hblank
      cases hblank
    · exact Option.some.inj hhead

end ApiTools.Text
