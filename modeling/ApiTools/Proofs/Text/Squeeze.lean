import ApiTools.Proofs.Text.Runs
import Mathlib.Data.List.Destutter
import Mathlib.Data.List.DropRight

set_option autoImplicit false

/-!
# Joining runs step by step

The runs of a text are cut out and joined with a separator. The same text comes about in three
steps: the separator takes the place of every character that is not kept, one of several separators
in a row is left, and those at the ends are dropped. No step changes the runs, and where single
separators stand between kept characters a text is its own runs, joined.
-/

namespace ApiTools.Text

variable {keep : Char → Bool} {sep : Char}

/-- Puts a separator in the place of every character that is not kept. -/
def separate (keep : Char → Bool) (sep : Char) (cs : List Char) : List Char :=
  cs.map fun c => if keep c then c else sep

/-- Leaves one of several separators in a row. -/
def squeeze (sep : Char) (cs : List Char) : List Char :=
  cs.destutter fun a b => a ≠ sep ∨ b ≠ sep

/-! ## What each step keeps -/

theorem mem_separate {c : Char} {cs : List Char} (h : c ∈ separate keep sep cs) :
    keep c = true ∨ c = sep := by
  obtain ⟨d, -, rfl⟩ := List.mem_map.1 h
  split
  · next hd => exact .inl hd
  · exact .inr rfl

theorem pieces_separate (hsep : keep sep = false) (cs : List Char) :
    pieces keep (separate keep sep cs) = pieces keep cs := by
  unfold separate
  induction cs with
  | nil => rfl
  | cons c cs ih =>
      rw [List.map_cons, pieces, pieces, ih]
      by_cases hc : keep c = true
      · rw [if_pos hc, if_pos hc]
      · rw [if_neg hc, if_neg (by simp [hsep]), if_neg hc]

theorem runs_separate (hsep : keep sep = false) (cs : List Char) :
    runs keep (separate keep sep cs) = runs keep cs := by
  unfold runs
  rw [pieces_separate hsep]

/-- The separators that are dropped leave the runs as they are, whatever text is in front. -/
theorem runs_append_squeeze (hsep : keep sep = false) (u cs : List Char) :
    runs keep (u ++ squeeze sep cs) = runs keep (u ++ cs) := by
  unfold squeeze
  cases cs with
  | nil => rfl
  | cons a cs =>
      rw [List.destutter_cons']
      -- what has been gone through belongs to the text in front
      induction cs generalizing u a with
      | nil => rfl
      | cons b cs ih =>
          rw [List.destutter'_cons]
          by_cases h : a ≠ sep ∨ b ≠ sep
          · rw [if_pos h]
            simpa using ih (u ++ [a]) b
          · -- the second of two separators is dropped, and no run is between them
            obtain ⟨rfl, rfl⟩ : a = sep ∧ b = sep := by simpa using h
            rw [if_neg h, ih, runs_append_sep hsep, runs_append_sep hsep, runs_cons_sep hsep]

theorem runs_squeeze (hsep : keep sep = false) (cs : List Char) :
    runs keep (squeeze sep cs) = runs keep cs :=
  runs_append_squeeze hsep [] cs

/-- What is dropped at both ends of a text has only characters of the class. -/
theorem exists_trimWhere (p : Char → Bool) (cs : List Char) :
    ∃ before after, cs = before ++ trimWhere p cs ++ after
      ∧ (∀ c ∈ before, p c = true) ∧ ∀ c ∈ after, p c = true := by
  have htrim : trimWhere p cs = (cs.dropWhile p).rdropWhile p := rfl
  refine ⟨cs.takeWhile p, (cs.dropWhile p).rtakeWhile p, ?_, fun _ => List.mem_takeWhile_imp,
    fun _ => List.mem_rtakeWhile_imp⟩
  rw [htrim, List.append_assoc, List.rdropWhile_append_rtakeWhile,
    List.takeWhile_append_dropWhile]

theorem runs_trimWhere (hsep : keep sep = false) (cs : List Char) :
    runs keep (trimWhere (· == sep) cs) = runs keep cs := by
  obtain ⟨before, after, hcs, hbefore, hafter⟩ := exists_trimWhere (· == sep) cs
  have hskipped : ∀ c : Char, (c == sep) = true → keep c = false := by
    intro c hc
    rw [beq_iff_eq.1 hc, hsep]
  conv_rhs => rw [hcs]
  rw [runs_append_right fun c hc => hskipped c (hafter c hc),
    runs_append_left fun c hc => hskipped c (hbefore c hc)]

theorem head?_trimWhere_ne (sep : Char) (cs : List Char) :
    (trimWhere (· == sep) cs).head? ≠ some sep := by
  intro h
  obtain ⟨after, hafter⟩ : trimWhere (· == sep) cs <+: cs.dropWhile (· == sep) :=
    List.rdropWhile_prefix _ _
  have hhead : (cs.dropWhile (· == sep)).head? = some sep := by
    rw [← hafter, List.head?_append, h]
    rfl
  have hnot := List.head?_dropWhile_not (· == sep) cs
  rw [hhead] at hnot
  simp at hnot

theorem getLast?_trimWhere_ne (sep : Char) (cs : List Char) :
    (trimWhere (· == sep) cs).getLast? ≠ some sep := by
  intro h
  obtain ⟨hne, hlast⟩ := List.mem_getLast?_eq_getLast h
  have hnot := List.rdropWhile_last_not (· == sep) (cs.dropWhile (· == sep)) hne
  exact hnot (beq_iff_eq.2 hlast.symm)

/-! ## Joined texts -/

/-- A text of kept characters with single separators, none of them at its ends. -/
structure IsJoined (keep : Char → Bool) (sep : Char) (cs : List Char) : Prop where
  chars : ∀ c ∈ cs, keep c = true ∨ c = sep
  single : cs.IsChain fun a b => a ≠ sep ∨ b ≠ sep
  first : cs.head? ≠ some sep
  last : cs.getLast? ≠ some sep

/-- What follows a separator is joined as well, and it is not empty. -/
theorem IsJoined.behind {u cs : List Char} (h : IsJoined keep sep (u ++ sep :: cs)) :
    IsJoined keep sep cs ∧ cs ≠ [] := by
  have hne : cs ≠ [] := by
    rintro rfl
    exact h.last List.getLast?_concat
  have hsingle := h.single.right_of_append
  refine ⟨⟨fun c hc => h.chars c (by simp [hc]), hsingle.tail, ?_, ?_⟩, hne⟩
  · obtain ⟨c, rest, rfl⟩ := List.exists_cons_of_ne_nil hne
    simpa using (List.isChain_cons_cons.1 hsingle).1
  · have hlast := h.last
    rwa [List.getLast?_append_cons, List.getLast?_cons_of_ne_nil hne] at hlast

/-- A text begins with kept characters; if it goes on, then with one that is not kept. -/
theorem exists_run_append (keep : Char → Bool) (cs : List Char) :
    ∃ w rest, cs = w ++ rest ∧ (∀ c ∈ w, keep c = true) ∧ ∀ c ∈ rest.head?, keep c = false := by
  refine ⟨cs.takeWhile keep, cs.dropWhile keep, List.takeWhile_append_dropWhile.symm,
    fun _ => List.mem_takeWhile_imp, fun c hc => ?_⟩
  have hnot := List.head?_dropWhile_not keep cs
  rw [Option.mem_def.1 hc] at hnot
  simpa using hnot

/-- A joined text is made of its runs. -/
theorem IsJoined.joinWith_runs {cs : List Char} (hsep : keep sep = false)
    (h : IsJoined keep sep cs) : joinWith [sep] (runs keep cs) = cs := by
  -- the induction goes from one separator to the next
  induction hlength : cs.length using Nat.strong_induction_on generalizing cs with
  | _ n ih =>
    obtain ⟨w, rest, rfl, hw, hrest⟩ := exists_run_append keep cs
    cases rest with
    | nil =>
        rw [List.append_nil]
        cases w with
        | nil => rfl
        | cons c w =>
            rw [runs_of_keep hw (List.cons_ne_nil c w)]
            rfl
    | cons d rest =>
        obtain rfl : d = sep := (h.chars d (by simp)).resolve_left (by simp [hrest d rfl])
        obtain ⟨hbehind, hne⟩ := h.behind
        have hwne : w ≠ [] := by
          rintro rfl
          exact h.first rfl
        have hshorter : rest.length < n := by
          rw [List.length_append, List.length_cons] at hlength
          omega
        have hjoined : joinWith [d] (runs keep rest) = rest := ih _ hshorter hbehind rfl
        -- so the rest has a run, and the separator is put between it and the first one
        have hruns : runs keep rest ≠ [] := by
          intro hnil
          rw [hnil] at hjoined
          exact hne hjoined.symm
        obtain ⟨r, rs, hcons⟩ := List.exists_cons_of_ne_nil hruns
        rw [runs_append_cons hw hwne hsep, hcons, joinWith_cons_cons, ← hcons, hjoined,
          List.append_assoc, List.singleton_append]

/-! ## All steps -/

theorem isJoined_steps (cs : List Char) :
    IsJoined keep sep (trimWhere (· == sep) (squeeze sep (separate keep sep cs))) := by
  have hsublist : (squeeze sep (separate keep sep cs)).Sublist (separate keep sep cs) :=
    List.destutter_sublist _ _
  have hsingle : (squeeze sep (separate keep sep cs)).IsChain fun a b => a ≠ sep ∨ b ≠ sep :=
    List.isChain_destutter _ _
  obtain ⟨before, after, hcs, -⟩ :=
    exists_trimWhere (· == sep) (squeeze sep (separate keep sep cs))
  rw [hcs] at hsublist hsingle
  constructor
  · exact fun c hc => mem_separate (hsublist.subset (by simp [hc]))
  · exact hsingle.left_of_append.right_of_append
  · exact head?_trimWhere_ne sep _
  · exact getLast?_trimWhere_ne sep _

/-- **The steps make the runs of a text, joined with the separator.** -/
theorem trimWhere_squeeze_separate (hsep : keep sep = false) (cs : List Char) :
    trimWhere (· == sep) (squeeze sep (separate keep sep cs)) = joinWith [sep] (runs keep cs) := by
  have hruns : runs keep (trimWhere (· == sep) (squeeze sep (separate keep sep cs)))
      = runs keep cs := by
    rw [runs_trimWhere hsep, runs_squeeze hsep, runs_separate hsep]
  rw [← hruns, (isJoined_steps cs).joinWith_runs hsep]

end ApiTools.Text
