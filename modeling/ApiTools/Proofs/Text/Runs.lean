import ApiTools.Text.Blank

set_option autoImplicit false

/-!
# The characters of runs

The runs of a text hold kept characters only, and joining them brings in nothing but the separator.
If that is not kept itself, the runs of the joined text are what was joined.
-/

namespace ApiTools.Text

variable {keep : Char → Bool} {c : Char}

theorem pieces_ne_nil (keep : Char → Bool) (cs : List Char) : pieces keep cs ≠ [] := by
  cases cs with
  | nil => exact List.cons_ne_nil _ _
  | cons c cs =>
      unfold pieces
      split
      · cases pieces keep cs <;> exact List.cons_ne_nil _ _
      · exact List.cons_ne_nil _ _

/-- The pieces hold the kept characters of a text, in their order. -/
theorem flatten_pieces (cs : List Char) : (pieces keep cs).flatten = cs.filter keep := by
  induction cs with
  | nil => rfl
  | cons c cs ih =>
      obtain ⟨p, ps, hp⟩ := List.exists_cons_of_ne_nil (pieces_ne_nil keep cs)
      rw [pieces, hp]
      rw [hp] at ih
      by_cases hc : keep c = true
      · rw [if_pos hc, List.filter_cons_of_pos hc, ← ih]
        rfl
      · rw [if_neg hc, List.filter_cons_of_neg hc, ← ih]
        rfl

/-- The runs hold the kept characters of a text, in their order. -/
theorem flatten_runs (cs : List Char) : (runs keep cs).flatten = cs.filter keep := by
  rw [← flatten_pieces]
  exact List.flatten_filter_not_isEmpty

theorem mem_filter_of_mem_runs {r cs : List Char} (hr : r ∈ runs keep cs) (hc : c ∈ r) :
    c ∈ cs.filter keep := by
  rw [← flatten_runs]
  exact List.mem_flatten.2 ⟨r, hr, hc⟩

theorem keep_of_mem_runs {r cs : List Char} (hr : r ∈ runs keep cs) (hc : c ∈ r) :
    keep c = true :=
  (List.mem_filter.1 (mem_filter_of_mem_runs hr hc)).2

theorem mem_of_mem_runs {r cs : List Char} (hr : r ∈ runs keep cs) (hc : c ∈ r) : c ∈ cs :=
  (List.mem_filter.1 (mem_filter_of_mem_runs hr hc)).1

theorem joinWith_cons_cons (sep w v : List Char) (ws : List (List Char)) :
    joinWith sep (w :: v :: ws) = w ++ sep ++ joinWith sep (v :: ws) := rfl

theorem joinWith_ne_nil (sep : List Char) {ws : List (List Char)} (hne : ws ≠ [])
    (hws : ∀ w ∈ ws, w ≠ []) : joinWith sep ws ≠ [] := by
  obtain ⟨w, rest, rfl⟩ := List.exists_cons_of_ne_nil hne
  have hw : w ≠ [] := hws w List.mem_cons_self
  cases rest with
  | nil => exact hw
  | cons v ws => simp [joinWith_cons_cons, hw]

theorem joinWith_eq_intercalate (sep : List Char) (ws : List (List Char)) :
    joinWith sep ws = sep.intercalate ws := by
  induction ws with
  | nil => rfl
  | cons w ws ih =>
      cases ws with
      | nil => exact (List.intercalate_singleton ..).symm
      | cons v ws => rw [joinWith_cons_cons, ih, List.intercalate_cons_cons]

theorem mem_joinWith {sep : List Char} {ws : List (List Char)} (h : c ∈ joinWith sep ws) :
    c ∈ sep ∨ ∃ w ∈ ws, c ∈ w := by
  induction ws with
  | nil => cases h
  | cons w ws ih =>
      cases ws with
      | nil => exact .inr ⟨w, List.mem_cons_self, h⟩
      | cons v ws =>
          rw [joinWith_cons_cons] at h
          rcases List.mem_append.1 h with h | h
          · rcases List.mem_append.1 h with h | h
            · exact .inr ⟨w, List.mem_cons_self, h⟩
            · exact .inl h
          · rcases ih h with h | ⟨u, hu, hc⟩
            · exact .inl h
            · exact .inr ⟨u, List.mem_cons_of_mem w hu, hc⟩

/-! ## Runs of joined texts -/

theorem ne_nil_of_mem_runs {r cs : List Char} (hr : r ∈ runs keep cs) : r ≠ [] := by
  have h := (List.mem_filter.1 hr).2
  simpa using h

/-- Only a text without kept characters has no runs. -/
theorem runs_eq_nil_iff {cs : List Char} : runs keep cs = [] ↔ cs.filter keep = [] := by
  rw [← flatten_runs]
  constructor
  · intro h
    rw [h]
    rfl
  · intro h
    rw [List.eq_nil_iff_forall_not_mem]
    intro w hw
    exact ne_nil_of_mem_runs hw (List.flatten_eq_nil_iff.1 h w hw)

/-- A text of kept characters is one piece. -/
theorem pieces_of_keep {w : List Char} (hw : ∀ c ∈ w, keep c = true) : pieces keep w = [w] := by
  induction w with
  | nil => rfl
  | cons c w ih =>
      obtain ⟨hc, hw⟩ := List.forall_mem_cons.1 hw
      rw [pieces, if_pos hc, ih hw]

/-- A character that is not kept cuts a text into two. -/
theorem pieces_append_sep {sep : Char} (hsep : keep sep = false) (u v : List Char) :
    pieces keep (u ++ sep :: v) = pieces keep u ++ pieces keep v := by
  induction u with
  | nil =>
      show (if keep sep = true then _ else _) = _
      rw [if_neg (by simp [hsep])]
      rfl
  | cons c u ih =>
      rw [List.cons_append, pieces, pieces, ih]
      obtain ⟨p, ps, hp⟩ := List.exists_cons_of_ne_nil (pieces_ne_nil keep u)
      rw [hp]
      split <;> rfl

/-- A piece ends at a character that is not kept. -/
theorem pieces_append_cons {w cs : List Char} {sep : Char} (hw : ∀ c ∈ w, keep c = true)
    (hsep : keep sep = false) : pieces keep (w ++ sep :: cs) = w :: pieces keep cs := by
  rw [pieces_append_sep hsep, pieces_of_keep hw]
  rfl

/-- Joined pieces are found again, empty ones included. -/
theorem pieces_joinWith {ws : List (List Char)} {sep : Char} (hne : ws ≠ [])
    (hws : ∀ w ∈ ws, ∀ c ∈ w, keep c = true) (hsep : keep sep = false) :
    pieces keep (joinWith [sep] ws) = ws := by
  induction ws with
  | nil => exact absurd rfl hne
  | cons w ws ih =>
      obtain ⟨hkeep, hws⟩ := List.forall_mem_cons.1 hws
      cases ws with
      | nil => exact pieces_of_keep hkeep
      | cons v ws =>
          rw [joinWith_cons_cons, List.append_assoc, List.singleton_append,
            pieces_append_cons hkeep hsep, ih (List.cons_ne_nil v ws) hws]

theorem runs_of_keep {w : List Char} (hw : ∀ c ∈ w, keep c = true) (hne : w ≠ []) :
    runs keep w = [w] := by
  unfold runs
  rw [pieces_of_keep hw]
  simpa using hne

theorem runs_append_sep {sep : Char} (hsep : keep sep = false) (u v : List Char) :
    runs keep (u ++ sep :: v) = runs keep u ++ runs keep v := by
  unfold runs
  rw [pieces_append_sep hsep, List.filter_append]

theorem runs_cons_sep {sep : Char} (hsep : keep sep = false) (cs : List Char) :
    runs keep (sep :: cs) = runs keep cs :=
  runs_append_sep hsep [] cs

/-- Characters in front that are not kept belong to no run. -/
theorem runs_append_left {before : List Char} (h : ∀ c ∈ before, keep c = false)
    (cs : List Char) : runs keep (before ++ cs) = runs keep cs := by
  induction before with
  | nil => rfl
  | cons c before ih =>
      obtain ⟨hc, h⟩ := List.forall_mem_cons.1 h
      rw [List.cons_append, runs_cons_sep hc, ih h]

/-- Characters behind that are not kept belong to no run. -/
theorem runs_append_right {after : List Char} (h : ∀ c ∈ after, keep c = false)
    (cs : List Char) : runs keep (cs ++ after) = runs keep cs := by
  cases after with
  | nil => rw [List.append_nil]
  | cons c after =>
      obtain ⟨hc, h⟩ := List.forall_mem_cons.1 h
      have hnone : runs keep (after ++ []) = [] := runs_append_left h []
      rw [List.append_nil] at hnone
      rw [runs_append_sep hc, hnone, List.append_nil]

/-- A run ends at a character that is not kept. -/
theorem runs_append_cons {w cs : List Char} {sep : Char} (hw : ∀ c ∈ w, keep c = true)
    (hne : w ≠ []) (hsep : keep sep = false) :
    runs keep (w ++ sep :: cs) = w :: runs keep cs := by
  rw [runs_append_sep hsep, runs_of_keep hw hne]
  rfl

/-- Joined runs are found again. -/
theorem runs_joinWith {ws : List (List Char)} {sep : Char}
    (hws : ∀ w ∈ ws, w ≠ [] ∧ ∀ c ∈ w, keep c = true) (hsep : keep sep = false) :
    runs keep (joinWith [sep] ws) = ws := by
  induction ws with
  | nil => rfl
  | cons w ws ih =>
      obtain ⟨⟨hne, hkeep⟩, hws⟩ := List.forall_mem_cons.1 hws
      cases ws with
      | nil => exact runs_of_keep hkeep hne
      | cons v ws =>
          rw [joinWith_cons_cons, List.append_assoc, List.singleton_append,
            runs_append_cons hkeep hne hsep, ih hws]

end ApiTools.Text
