import ApiTools.Proofs.Name.Identifier
import ApiTools.Proofs.Text.Squeeze

set_option autoImplicit false

/-!
# Snake case

A text in snake case is made of words of small letters and digits of ASCII, with one underscore
between two of them. Whatever a text is, its name in snake case has this form, and it has the
letters and digits that the text has in small letters, so it is empty only where there are none. A
text in snake case is its own name, so nothing changes when a name is made of a name.

The words are cut out of a text and joined. The same name comes about when underscores take the
place of all other characters and the spare ones are dropped, one step after the other.

The rule for a sigma at the end of a word makes no difference to names, since neither small form of
it is in ASCII.
-/

namespace ApiTools.Name

open ApiTools.Text

/-! ## Step by step -/

/-- The name of a text in snake case, step by step: capital letters that begin a word get an
underscore in front of them, the text is put in small letters, underscores take the place of all
that is neither a letter nor a digit of ASCII, and the spare ones are dropped. -/
def snakeSteps (name : String) : String :=
  let broken := breakInsideCapitals (breakBeforeCapital name.toList)
  String.ofList (trimWhere (· == '_') (squeeze '_' (separate isAsciiAlnum '_' (lower broken))))

theorem snake_eq_snakeSteps (name : String) : snake name = snakeSteps name := by
  unfold snakeSteps
  dsimp only
  rw [trimWhere_squeeze_separate rfl]
  rfl

/-! ## Letters and digits -/

theorem filter_lower_cons (c : Char) (cs : List Char) :
    (lower (c :: cs)).filter isAsciiAlnum
      = (lowerChar c).filter isAsciiAlnum ++ (lower cs).filter isAsciiAlnum := by
  unfold lower
  rw [List.flatMap_cons, List.filter_append]

theorem filter_lower_underscore (cs : List Char) :
    (lower ('_' :: cs)).filter isAsciiAlnum = (lower cs).filter isAsciiAlnum := by
  rw [filter_lower_cons, lowerChar_of_ascii (by decide) (by decide)]
  rfl

theorem filter_lower_breakBeforeCapital (cs : List Char) :
    (lower (breakBeforeCapital cs)).filter isAsciiAlnum = (lower cs).filter isAsciiAlnum := by
  fun_induction breakBeforeCapital cs with
  | case1 a b rest _ ih =>
    rw [filter_lower_cons, filter_lower_underscore, ih, ← filter_lower_cons]
  | case2 a b rest _ ih => rw [filter_lower_cons, ih, ← filter_lower_cons]
  | case3 cs _ => rfl

theorem filter_lower_breakInsideCapitals (cs : List Char) :
    (lower (breakInsideCapitals cs)).filter isAsciiAlnum = (lower cs).filter isAsciiAlnum := by
  fun_induction breakInsideCapitals cs with
  | case1 a b c rest _ ih =>
    rw [filter_lower_cons, filter_lower_underscore, ih, ← filter_lower_cons]
  | case2 a b c rest _ ih => rw [filter_lower_cons, ih, ← filter_lower_cons]
  | case3 cs _ => rfl

/-- The words of a text are its letters and digits in small letters, in their order. -/
theorem flatten_snakeWords (name : String) :
    (snakeWords name).flatten = (lowercase name).toList.filter isAsciiAlnum := by
  unfold snakeWords lowercase
  rw [flatten_runs, filter_lower_breakInsideCapitals, filter_lower_breakBeforeCapital,
    String.toList_ofList]

theorem filter_ofWords {ws : List (List Char)} (hws : ∀ w ∈ ws, IsWord w) :
    (ofWords ws).toList.filter isAsciiAlnum = ws.flatten := by
  have hruns : runs isAsciiAlnum (joinWith ['_'] ws) = ws := runs_joinWith hws rfl
  unfold ofWords
  rw [String.toList_ofList, ← flatten_runs, hruns]

theorem filter_snake (name : String) :
    (snake name).toList.filter isAsciiAlnum = (lowercase name).toList.filter isAsciiAlnum := by
  rw [snake_eq, filter_ofWords fun _ => isWord_of_mem_snakeWords, flatten_snakeWords]

theorem snake_eq_empty_iff (name : String) :
    snake name = "" ↔ ∀ c ∈ (lowercase name).toList, isAsciiAlnum c = false := by
  have hwords : snakeWords name = [] ↔ (snakeWords name).flatten = [] := by
    unfold snakeWords
    rw [flatten_runs, runs_eq_nil_iff]
  rw [← String.isEmpty_iff, isEmpty_snake, List.isEmpty_iff, hwords, flatten_snakeWords,
    List.filter_eq_nil_iff]
  simp only [Bool.not_eq_true]

/-! ## The form of names -/

/-- Words of small letters and digits of ASCII with one underscore between two of them, or the empty
text, which has no words. -/
def IsSnake (t : String) : Prop :=
  ∃ ws : List (List Char), (∀ w ∈ ws, IsSmallWord w) ∧ t.toList = ['_'].intercalate ws

theorem isSnake_snake (name : String) : IsSnake (snake name) := by
  refine ⟨snakeWords name, fun _ => isSmallWord_of_mem_snakeWords, ?_⟩
  rw [snake_eq, ofWords, String.toList_ofList, joinWith_eq_intercalate]

theorem snake_of_isSnake {t : String} (h : IsSnake t) : snake t = t := by
  obtain ⟨ws, hws, ht⟩ := h
  rw [← joinWith_eq_intercalate] at ht
  have hwords : snakeWords t = ws :=
    snakeWords_of_padded hws (.inl rfl) (.inl rfl) (by rw [ht, List.nil_append, List.append_nil])
  rw [snake_eq, hwords, ofWords, ← ht, String.ofList_toList]

/-- The texts in snake case are those that are their own names. -/
theorem snake_eq_self_iff {t : String} : snake t = t ↔ IsSnake t :=
  ⟨fun h => h ▸ isSnake_snake t, snake_of_isSnake⟩

instance (t : String) : Decidable (IsSnake t) := decidable_of_iff (snake t = t) snake_eq_self_iff

/-- **Whatever a text is, the steps make its name, and the name is in snake case, with the letters
and digits that the text has in small letters; it is empty only where there are none, and it is its
own name.** -/
theorem snake_normal_form (name : String) :
    snake name = snakeSteps name
      ∧ IsSnake (snake name)
      ∧ (snake name).toList.filter isAsciiAlnum = (lowercase name).toList.filter isAsciiAlnum
      ∧ (snake name = "" ↔ ∀ c ∈ (lowercase name).toList, isAsciiAlnum c = false)
      ∧ snake (snake name) = snake name := by
  have hform : IsSnake (snake name) := isSnake_snake name
  exact ⟨snake_eq_snakeSteps name, hform, filter_snake name, snake_eq_empty_iff name,
    snake_of_isSnake hform⟩

-- the Kelvin sign and the dotted capital letter bring in letters of ASCII
example : snake "listHTTPRoutes" = "list_http_routes" ∧ snake "\u212a\u0130_\u03a3" = "ki" := by
  decide

end ApiTools.Name
