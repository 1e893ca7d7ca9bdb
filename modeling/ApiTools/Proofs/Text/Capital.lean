import ApiTools.Proofs.Text.Case
import ApiTools.Text.Alphanumeric
import Mathlib.Data.List.DropRight

set_option autoImplicit false

/-!
# Capital letters

The first character of a capital form is a capital form of itself. A capital letter of ASCII is the
capital form of few characters: of itself, of its small letter, for `I` and `S` of one more letter
each, and at the beginning of the forms of some ligatures. The letters that count as a small letter
of ASCII when case is ignored are as few.
-/

namespace ApiTools.Text

/-! ## Facts about the members of a text

They are decided by going through the text, and not through all characters. -/

instance (priority := 2000) decidableForallMem {p : Char → Prop} [DecidablePred p]
    (cs : List Char) : Decidable (∀ c ∈ cs, p c) := List.decidableBAll p cs

instance (priority := 2000) decidableForallMem? {p : Char → Prop} [DecidablePred p]
    (o : Option Char) : Decidable (∀ c ∈ o, p c) := Option.decidableForallMem o

/-! ## The tables -/

/-- What the tables say about a capital form. -/
theorem upperChar_cases (c : Char) :
    (∃ e ∈ upperExpansions, e.1 = c.toNat ∧ upperChar c = e.2.map Char.ofNat) ∨
      (∃ r ∈ upperRuns, r.covers c.toNat = true ∧ upperChar c = [r.map c.toNat]) ∨
      upperChar c = [c] := by
  unfold upperChar
  cases he : upperExpansions.find? (·.1 == c.toNat) with
  | some e =>
      have hkey : e.1 = c.toNat := by simpa using List.find?_some he
      exact .inl ⟨e, List.mem_of_find?_eq_some he, hkey, rfl⟩
  | none =>
      cases hr : upperRuns.find? (·.covers c.toNat) with
      | some r =>
          have hcovers : r.covers c.toNat = true := by simpa using List.find?_some hr
          exact .inr (.inl ⟨r, List.mem_of_find?_eq_some hr, hcovers, rfl⟩)
      | none => exact .inr (.inr rfl)

theorem upperChar_of_outside {c : Char} (he : ∀ e ∈ upperExpansions, e.1 ≠ c.toNat)
    (hr : ∀ r ∈ upperRuns, r.covers c.toNat = false) : upperChar c = [c] := by
  have hexpansion : upperExpansions.find? (·.1 == c.toNat) = none :=
    List.find?_eq_none.2 fun e hmem => by simpa using he e hmem
  have hrun : upperRuns.find? (·.covers c.toNat) = none :=
    List.find?_eq_none.2 fun r hmem => by simp [hr r hmem]
  unfold upperChar
  rw [hexpansion, hrun]

theorem CaseRun.toNat_map (r : CaseRun) (n : Nat) :
    (r.map n).toNat = (n + r.shift).toNat ∨ (r.map n).toNat = 0 := toNat_ofNat _

/-- The code points that a run leads to lie from this one on. -/
def CaseRun.firstImage (r : CaseRun) : Nat := (r.first + r.shift).toNat

/-- The code points that a run leads to lie up to this one. -/
def CaseRun.lastImage (r : CaseRun) : Nat := (r.last + r.shift).toNat

/-- A run leads to nothing that another run holds: not to its range, or between its steps. -/
def CaseRun.misses (r q : CaseRun) : Bool :=
  Nat.blt r.lastImage q.first || Nat.blt q.last r.firstImage ||
    (Nat.beq q.step 2 && Nat.beq ((r.firstImage + q.first) % 2) 1 &&
      (Nat.beq r.step 2 || Nat.beq r.first r.last))

/-- A run leads to no character whose capital form has several characters. -/
def CaseRun.missesKey (r : CaseRun) (n : Nat) : Bool :=
  Nat.blt r.lastImage n || Nat.blt n r.firstImage

theorem upperRuns_miss :
    (upperRuns.all fun r => upperRuns.all r.misses) = true := by
  decide +kernel

theorem upperRuns_miss_expansions :
    (upperRuns.all fun r => upperExpansions.all fun e => r.missesKey e.1) = true := by
  decide +kernel

theorem upperRuns_positive : ∀ r ∈ upperRuns, 0 < r.first + r.shift := by
  decide +kernel

theorem CaseRun.covers_iff {r : CaseRun} {n : Nat} :
    r.covers n = true ↔ r.first ≤ n ∧ n ≤ r.last ∧ (n - r.first) % r.step = 0 := by
  unfold covers
  simp [and_assoc]

/-- What a capital form in a run is: the code point is in the range, and of its parity if the run
goes in steps of two. -/
theorem CaseRun.image_bounds {r : CaseRun} (hr : r ∈ upperRuns) {n : Nat}
    (hn : r.covers n = true) :
    r.firstImage ≤ (n + r.shift).toNat ∧ (n + r.shift).toNat ≤ r.lastImage ∧
      (r.step = 2 ∨ r.first = r.last → ((n + r.shift).toNat - r.firstImage) % 2 = 0) := by
  obtain ⟨hfirst, hlast, hstep⟩ := covers_iff.1 hn
  have hpositive := upperRuns_positive r hr
  unfold firstImage lastImage
  refine ⟨by omega, by omega, ?_⟩
  rintro (h | h)
  · rw [h] at hstep
    omega
  · omega

theorem not_covers_image {r q : CaseRun} (hr : r ∈ upperRuns) (hq : q ∈ upperRuns) {n : Nat}
    (hn : r.covers n = true) : q.covers (n + r.shift).toNat = false := by
  obtain ⟨hlow, hhigh, hparity⟩ := CaseRun.image_bounds hr hn
  have hmiss : r.misses q = true :=
    List.all_eq_true.1 (List.all_eq_true.1 upperRuns_miss r hr) q hq
  rw [Bool.eq_false_iff]
  intro hcovers
  obtain ⟨hfirst, hlast, hstep⟩ := CaseRun.covers_iff.1 hcovers
  unfold CaseRun.misses at hmiss
  simp only [Bool.or_eq_true, Bool.and_eq_true, Nat.blt_eq, Nat.beq_eq] at hmiss
  rcases hmiss with (h | h) | ⟨⟨h2, hodd⟩, hsteps⟩
  · omega
  · omega
  · -- both go in steps of two, one over the even code points and one over the odd ones
    rw [h2] at hstep
    have := hparity hsteps
    omega

theorem ne_key_image {r : CaseRun} (hr : r ∈ upperRuns) {n : Nat} (hn : r.covers n = true)
    {e : Nat × List Nat} (he : e ∈ upperExpansions) : e.1 ≠ (n + r.shift).toNat := by
  obtain ⟨hlow, hhigh, -⟩ := CaseRun.image_bounds hr hn
  have hmiss : r.missesKey e.1 = true :=
    List.all_eq_true.1 (List.all_eq_true.1 upperRuns_miss_expansions r hr) e he
  unfold CaseRun.missesKey at hmiss
  simp only [Bool.or_eq_true, Nat.blt_eq] at hmiss
  omega

theorem upperChar_zero : upperChar (Char.ofNat 0) = [Char.ofNat 0] := by
  decide

/-- The first character of a capital form is a capital form of itself. -/
theorem upperChar_head {c h : Char} {t : List Char} (hc : upperChar c = h :: t) :
    upperChar h = [h] := by
  rcases upperChar_cases c with ⟨e, he, -, hform⟩ | ⟨r, hr, hcovers, hform⟩ | hform
  · have hall : ∀ e ∈ upperExpansions, ∀ n, e.2.head? = some n →
        upperChar (Char.ofNat n) = [Char.ofNat n] := by decide +kernel
    rw [hform] at hc
    obtain ⟨n, ns, hn, rfl, -⟩ := List.map_eq_cons_iff.1 hc
    exact hall e he n (by rw [hn]; rfl)
  · rw [hform] at hc
    cases hc
    rcases r.toNat_map c.toNat with hmap | hmap
    · -- the image lies in no run and is no key, so it is left alone
      refine upperChar_of_outside (fun e he => ?_) fun q hq => ?_
      · rw [hmap]
        exact ne_key_image hr hcovers he
      · rw [hmap]
        exact not_covers_image hr hq hcovers
    · have hzero : r.map c.toNat = Char.ofNat 0 := by
        rw [← Char.ofNat_toNat (r.map c.toNat), hmap]
      rw [hzero]
      exact upperChar_zero
  · rw [hform] at hc
    cases hc
    exact hform

/-! ## Capital letters of ASCII -/

/-- The runs that lead to capital letters of ASCII. -/
theorem upperRuns_ascii : ∀ r ∈ upperRuns, r = ⟨97, 122, 1, -32⟩ ∨ r = ⟨305, 305, 1, -232⟩ ∨
    r = ⟨383, 383, 1, -300⟩ ∨ r.last + r.shift < 65 ∨ 90 < r.first + r.shift := by
  decide +kernel

/-- Where a capital letter of ASCII at the beginning of a capital form comes from. -/
theorem of_upperChar_eq_capital {c h : Char} {t : List Char} (hc : upperChar c = h :: t)
    (hh : isCapitalLetter h = true) :
    (t = [] ∧ (c = h ∨ c.toNat = h.toNat + 32 ∨ c = 'ı' ∧ h = 'I' ∨ c = 'ſ' ∧ h = 'S')) ∨
      ∃ e ∈ upperExpansions, e.1 = c.toNat ∧ h :: t = e.2.map Char.ofNat := by
  rcases upperChar_cases c with ⟨e, he, hkey, hform⟩ | ⟨r, hr, hcovers, hform⟩ | hform
  · exact .inr ⟨e, he, hkey, hc.symm.trans hform⟩
  · rw [hform] at hc
    cases hc
    have hrange := (isCapitalLetter_iff _).1 hh
    have hmap := r.toNat_map c.toNat
    obtain ⟨hfirst, hlast, -⟩ := CaseRun.covers_iff.1 hcovers
    refine .inl ⟨rfl, .inr ?_⟩
    rcases upperRuns_ascii r hr with rfl | rfl | rfl | hapart
    · -- the small letters of ASCII
      left
      dsimp only at hfirst hlast hmap
      omega
    · -- the dotless i alone
      have hc : c.toNat = 305 := Nat.le_antisymm hlast hfirst
      rw [hc]
      exact .inr (.inl ⟨Char.toNat_inj.1 hc, rfl⟩)
    · -- the long s alone
      have hc : c.toNat = 383 := Nat.le_antisymm hlast hfirst
      rw [hc]
      exact .inr (.inr ⟨Char.toNat_inj.1 hc, rfl⟩)
    · exact absurd hrange (r.map_outside hcovers (by decide) hapart)
  · rw [hform] at hc
    cases hc
    exact .inl ⟨rfl, .inl rfl⟩

/-! ## Small letters of ASCII, where case is ignored -/

/-- The characters that are no letters of ASCII and count as one when case is ignored. -/
def foreignForms : List Char := ['İ', 'ı', 'ſ', '\u212A']

theorem lowerRuns_ascii : ∀ r ∈ lowerRuns, r = ⟨65, 90, 1, 32⟩ ∨ r = ⟨8490, 8490, 1, -8383⟩ ∨
    r.last + r.shift < 97 ∨ 122 < r.first + r.shift := by
  decide +kernel

theorem isSmallLetter_iff (c : Char) :
    isSmallLetter c = true ↔ 97 ≤ c.toNat ∧ c.toNat ≤ 122 := by
  unfold isSmallLetter
  rw [Bool.and_eq_true, decide_eq_true_eq, decide_eq_true_eq]
  exact Iff.rfl

/-- What counts as a small letter of ASCII: the letter, its capital letter and few others. -/
theorem of_matchesLetter {small c : Char} (hs : isSmallLetter small = true)
    (h : matchesLetter small c = true) :
    c = small ∨ c.toNat + 32 = small.toNat ∨ c ∈ foreignForms := by
  have hrange := (isSmallLetter_iff small).1 hs
  unfold matchesLetter at h
  simp only [Bool.or_eq_true, Bool.and_eq_true, beq_iff_eq] at h
  have hforeign : ∀ n : Nat, n ∈ [0x130, 0x131, 0x17F, 0x212A] → c.toNat = n →
      c ∈ foreignForms := by
    intro n hn hc
    have hall : ∀ n ∈ [0x130, 0x131, 0x17F, 0x212A], Char.ofNat n ∈ foreignForms := by decide
    rw [← Char.ofNat_toNat c, hc]
    exact hall n hn
  rcases h with (h | ⟨-, hc⟩) | ⟨-, hc⟩
  · unfold lowerChar at h
    split at h
    · next hc => exact .inr (.inr (hforeign _ (by decide) hc))
    · split at h
      · next r hr =>
        have hcovers := List.find?_some hr
        obtain ⟨hfirst, hlast, -⟩ := CaseRun.covers_iff.1 hcovers
        have hsmall : r.map c.toNat = small := Option.some.inj h
        have hmap := r.toNat_map c.toNat
        rw [hsmall] at hmap
        rcases lowerRuns_ascii r (List.mem_of_find?_eq_some hr) with rfl | rfl | hapart
        · dsimp only at hfirst hlast hmap
          exact .inr (.inl (by omega))
        · dsimp only at hfirst hlast
          exact .inr (.inr (hforeign 0x212A (by decide) (by omega)))
        · rw [← hsmall] at hrange
          exact absurd hrange (r.map_outside hcovers (by decide) hapart)
      · exact .inl (Option.some.inj h)
  · exact .inr (.inr (hforeign _ (by decide) hc))
  · exact .inr (.inr (hforeign _ (by decide) hc))

/-- What counts as a letter belongs to a word. -/
theorem isWordChar_of_matchesLetter {small c : Char} (hs : isSmallLetter small = true)
    (h : matchesLetter small c = true) : isWordChar c = true := by
  have hrange := (isSmallLetter_iff small).1 hs
  have hascii : ∀ n < 128, 97 ≤ n ∧ n ≤ 122 ∨ 65 ≤ n ∧ n ≤ 90 → isWordChar (Char.ofNat n) := by
    decide
  rcases of_matchesLetter hs h with rfl | hc | hc
  · rw [← Char.ofNat_toNat c]
    exact hascii c.toNat (by omega) (.inl hrange)
  · rw [← Char.ofNat_toNat c]
    exact hascii c.toNat (by omega) (.inr (by omega))
  · have hforeign : ∀ c ∈ foreignForms, isWordChar c = true := by decide +kernel
    exact hforeign c hc

end ApiTools.Text
