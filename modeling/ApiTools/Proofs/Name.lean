import ApiTools.Name
import ApiTools.Proofs.Text.Runs

set_option autoImplicit false

/-!
# Names made of words

Names of tools and namespaces are made of words, which are texts of letters and digits of ASCII,
with one underscore between two of them. The words are found again in the name, so that names are
told apart by their words. Such a name has no underscore at its ends and no two in a row, so a
namespace and a name with two underscores between them are found again as well.
-/

namespace ApiTools.Name

open ApiTools.Text

/-! ## Words -/

/-- A text of letters and digits of ASCII that is not empty. -/
def IsWord (w : List Char) : Prop := w ≠ [] ∧ ∀ c ∈ w, isAsciiAlnum c = true

instance (w : List Char) : Decidable (IsWord w) :=
  decidable_of_iff ((!w.isEmpty && w.all isAsciiAlnum) = true) (by simp [IsWord])

theorem isWord_of_mem_runs {w cs : List Char} (h : w ∈ runs isAsciiAlnum cs) : IsWord w :=
  ⟨ne_nil_of_mem_runs h, fun _ hc => keep_of_mem_runs h hc⟩

/-- Words with an underscore between them. -/
def ofWords (ws : List (List Char)) : String := String.ofList (joinWith ['_'] ws)

/-- Names made of words are told apart by these. -/
theorem ofWords_inj {vs ws : List (List Char)} (hvs : ∀ w ∈ vs, IsWord w)
    (hws : ∀ w ∈ ws, IsWord w) : ofWords vs = ofWords ws ↔ vs = ws := by
  constructor
  · intro h
    have hjoined : joinWith ['_'] vs = joinWith ['_'] ws := String.ofList_injective h
    have hruns := congrArg (runs isAsciiAlnum) hjoined
    rwa [runs_joinWith hvs rfl, runs_joinWith hws rfl] at hruns
  · rintro rfl
    rfl

theorem isEmpty_ofWords {ws : List (List Char)} (hws : ∀ w ∈ ws, IsWord w) :
    (ofWords ws).isEmpty = ws.isEmpty := by
  rw [Bool.eq_iff_iff, String.isEmpty_iff, List.isEmpty_iff]
  exact ofWords_inj hws (List.forall_mem_nil _)

/-- The words of a text, by letter case and by characters that are no letters or digits. -/
def snakeWords (name : String) : List (List Char) :=
  runs isAsciiAlnum (lower (breakInsideCapitals (breakBeforeCapital name.toList)))

theorem snake_eq (name : String) : snake name = ofWords (snakeWords name) := rfl

theorem isWord_of_mem_snakeWords {name : String} {w : List Char} (h : w ∈ snakeWords name) :
    IsWord w :=
  isWord_of_mem_runs h

theorem isEmpty_snake (name : String) : (snake name).isEmpty = (snakeWords name).isEmpty :=
  isEmpty_ofWords fun _ => isWord_of_mem_snakeWords

/-! ## Clean names -/

/-- A name of letters, digits and single underscores, with no underscore at either end. -/
structure IsClean (s : String) : Prop where
  nonempty : s ≠ ""
  chars : ∀ c ∈ s.toList, isAsciiAlnum c = true ∨ c = '_'
  single : ¬ ['_', '_'] <:+: s.toList
  first : s.toList.head? ≠ some '_'
  last : s.toList.getLast? ≠ some '_'

theorem ne_underscore_of_isAsciiAlnum {c : Char} (h : isAsciiAlnum c = true) : c ≠ '_' := by
  rintro rfl
  cases h

theorem not_doubled_of_isWord {w : List Char} (hw : IsWord w) : ¬ ['_', '_'] <:+: w := by
  intro h
  have hmem : '_' ∈ w := h.subset List.mem_cons_self
  exact ne_underscore_of_isAsciiAlnum (hw.2 '_' hmem) rfl

/-- Two underscores in a row come up where texts are put together only if the first one ends with
one and the second one begins with one. -/
theorem not_doubled_append {u v : List Char} (hu : ¬ ['_', '_'] <:+: u)
    (hv : ¬ ['_', '_'] <:+: v) (h : u.getLast? = some '_' → v.head? ≠ some '_') :
    ¬ ['_', '_'] <:+: u ++ v := by
  rintro ⟨s, t, heq⟩
  rw [List.append_assoc, List.append_eq_append_iff] at heq
  rcases heq with ⟨rest, rfl, hrest⟩ | ⟨rest, rfl, hrest⟩
  · -- none, one or both of them are in the first text
    match rest, hrest with
    | [], hrest => exact hv ⟨[], t, hrest⟩
    | [a], hrest =>
        simp only [List.cons_append, List.nil_append, List.cons.injEq] at hrest
        obtain ⟨rfl, rfl⟩ := hrest
        exact h (List.getLast?_concat ..) rfl
    | a :: b :: more, hrest =>
        simp only [List.cons_append, List.nil_append, List.cons.injEq] at hrest
        obtain ⟨rfl, rfl, -⟩ := hrest
        exact hu ⟨s, more, by simp⟩
  · exact hv ⟨rest, t, by simp [hrest]⟩

theorem head?_joinWith_ne {w : List Char} (hw : IsWord w) (ws : List (List Char)) :
    (joinWith ['_'] (w :: ws)).head? ≠ some '_' := by
  obtain ⟨c, cs, rfl⟩ := List.exists_cons_of_ne_nil hw.1
  have hc : c ≠ '_' := ne_underscore_of_isAsciiAlnum (hw.2 c List.mem_cons_self)
  have hhead : (joinWith ['_'] ((c :: cs) :: ws)).head? = some c := by
    cases ws <;> rfl
  rw [hhead]
  simpa using hc

theorem exists_getLast?_joinWith {ws : List (List Char)} (hne : ws ≠ [])
    (hws : ∀ w ∈ ws, IsWord w) :
    ∃ c, (joinWith ['_'] ws).getLast? = some c ∧ isAsciiAlnum c = true := by
  induction ws with
  | nil => exact absurd rfl hne
  | cons w ws ih =>
      obtain ⟨hw, hws⟩ := List.forall_mem_cons.1 hws
      cases ws with
      | nil =>
          have hlast := List.getLast?_eq_some_getLast hw.1
          exact ⟨w.getLast hw.1, hlast, hw.2 _ (List.getLast_mem hw.1)⟩
      | cons v ws =>
          obtain ⟨c, hlast, hc⟩ := ih (List.cons_ne_nil v ws) hws
          refine ⟨c, ?_, hc⟩
          rw [joinWith_cons_cons, List.getLast?_append, hlast]
          rfl

theorem getLast?_joinWith_ne {ws : List (List Char)} (hne : ws ≠ [])
    (hws : ∀ w ∈ ws, IsWord w) : (joinWith ['_'] ws).getLast? ≠ some '_' := by
  obtain ⟨c, hlast, hc⟩ := exists_getLast?_joinWith hne hws
  rw [hlast]
  simpa using ne_underscore_of_isAsciiAlnum hc

theorem not_doubled_joinWith {ws : List (List Char)} (hws : ∀ w ∈ ws, IsWord w) :
    ¬ ['_', '_'] <:+: joinWith ['_'] ws := by
  induction ws with
  | nil => simp [joinWith]
  | cons w ws ih =>
      obtain ⟨hw, hws⟩ := List.forall_mem_cons.1 hws
      cases ws with
      | nil => exact not_doubled_of_isWord hw
      | cons v ws =>
          -- the underscore between two words has a letter or digit on either side
          have hlast : w.getLast? ≠ some '_' :=
            getLast?_joinWith_ne (List.cons_ne_nil w []) (List.forall_mem_singleton.2 hw)
          have hbefore : ¬ ['_', '_'] <:+: w ++ ['_'] :=
            not_doubled_append (not_doubled_of_isWord hw) (by decide) fun h => absurd h hlast
          rw [joinWith_cons_cons]
          exact not_doubled_append hbefore (ih hws) fun _ =>
            head?_joinWith_ne (hws v List.mem_cons_self) ws

/-- A name made of words is clean. -/
theorem isClean_ofWords {ws : List (List Char)} (hne : ws ≠ []) (hws : ∀ w ∈ ws, IsWord w) :
    IsClean (ofWords ws) := by
  have htext : (ofWords ws).toList = joinWith ['_'] ws := String.toList_ofList
  obtain ⟨w, rest, rfl⟩ := List.exists_cons_of_ne_nil hne
  constructor
  · intro h
    have hempty := isEmpty_ofWords hws
    rw [h] at hempty
    cases hempty
  · intro c hc
    rw [htext] at hc
    rcases mem_joinWith hc with h | ⟨v, hv, h⟩
    · exact .inr (List.mem_singleton.1 h)
    · exact .inl ((hws v hv).2 c h)
  · rw [htext]
    exact not_doubled_joinWith hws
  · rw [htext]
    exact head?_joinWith_ne (hws w List.mem_cons_self) rest
  · rw [htext]
    exact getLast?_joinWith_ne hne hws

/-! ## Namespaces -/

/-- The words of the namespace for a label. -/
def spaceWords (label : String) : List (List Char) :=
  if (snakeWords label).isEmpty then ["api".toList] else snakeWords label

theorem namespaceOf_eq (label : String) : namespaceOf label = ofWords (spaceWords label) := by
  unfold namespaceOf spaceWords
  dsimp only
  rw [isEmpty_snake, snake_eq]
  split <;> rfl

theorem isClean_namespaceOf (label : String) : IsClean (namespaceOf label) := by
  rw [namespaceOf_eq]
  unfold spaceWords
  split
  · exact isClean_ofWords (List.cons_ne_nil _ _) (by decide)
  · next h =>
    exact isClean_ofWords (by simpa using h) fun _ => isWord_of_mem_snakeWords

/-- A text without two underscores in a row and without one at its end does not reach into the
two underscores after a beginning of it. -/
theorem eq_nil_of_separated {a b d more : List Char} (hlast : (a ++ more).getLast? ≠ some '_')
    (hsingle : ¬ ['_', '_'] <:+: a ++ more)
    (h : '_' :: '_' :: b = more ++ '_' :: '_' :: d) : more = [] := by
  match more, h with
  | [], _ => rfl
  | [c], h =>
      simp only [List.cons_append, List.nil_append, List.cons.injEq] at h
      obtain ⟨rfl, -⟩ := h
      exact absurd (List.getLast?_concat ..) hlast
  | c :: c' :: rest, h =>
      simp only [List.cons_append, List.cons.injEq] at h
      obtain ⟨rfl, rfl, -⟩ := h
      exact absurd ⟨a, rest, by simp⟩ hsingle

/-- A clean name and what follows it after two underscores are found again. -/
theorem separated_inj {s t : String} (hs : IsClean s) (ht : IsClean t) {m n : String} :
    s ++ "__" ++ m = t ++ "__" ++ n ↔ s = t ∧ m = n := by
  constructor
  · intro h
    have hchars : s.toList ++ '_' :: '_' :: m.toList = t.toList ++ '_' :: '_' :: n.toList := by
      have h := congrArg String.toList h
      simpa using h
    have hst : s.toList = t.toList := by
      rcases List.append_eq_append_iff.1 hchars with ⟨more, hmore, h⟩ | ⟨more, hmore, h⟩
      · have hnil : more = [] := eq_nil_of_separated (hmore ▸ ht.last) (hmore ▸ ht.single) h
        rw [hmore, hnil, List.append_nil]
      · have hnil : more = [] := eq_nil_of_separated (hmore ▸ hs.last) (hmore ▸ hs.single) h
        rw [hmore, hnil, List.append_nil]
    rw [hst, List.append_cancel_left_eq] at hchars
    simp only [List.cons.injEq, true_and] at hchars
    exact ⟨String.toList_injective hst, String.toList_injective hchars⟩
  · rintro ⟨rfl, rfl⟩
    rfl

end ApiTools.Name
