import ApiTools.Command.Inspect
import ApiTools.Proofs.Text.Case
import ApiTools.Proofs.Tool.Credential

set_option autoImplicit false

/-!
# The variables that are shown for schemes

Inspecting the schemes of a document is meant to show the variables that its tools read. Which kind
of credential a scheme asks for is told from its type, and for HTTP from the scheme it uses. Where
schemes are shown, these two are put into one word first, so a type is taken for a scheme of HTTP of
the same name, and the other way round. This makes a difference for the type `bearer` and for the
scheme `oauth2` of HTTP, which ask for nothing: for these a variable is shown, and no tool reads it.
For all other schemes what is shown is what a tool reads.
-/

namespace ApiTools

/-! ## What a scheme asks for -/

namespace SecurityScheme

/-- The scheme of HTTP, in small letters. -/
def httpScheme (s : SecurityScheme) : String := Text.lowercase (s.scheme.getD "")

/-- How the variable for a scheme ends, if the scheme asks for a credential. -/
def ending? (s : SecurityScheme) : Option String :=
  if s.type = "apiKey" then some "API_KEY"
  else if s.type = "http" ∧ s.httpScheme = "bearer" then some "TOKEN"
  else if (s.type = "http" ∧ s.httpScheme = "basic") ∨ s.type = "basic" then some "CREDENTIALS"
  else if s.type = "oauth2" then some "ACCESS_TOKEN"
  else none

theorem map_envVariable_credential? (name : String) (s : SecurityScheme) :
    (s.credential? name).map Authentication.envVariable
      = s.ending?.map (Name.envVariable name) := by
  unfold credential? ending? httpScheme
  simp only [Bool.and_eq_true, Bool.or_eq_true, beq_iff_eq]
  -- both are told by the same conditions in the same order
  split
  · rfl
  · split
    · rfl
    · split
      · rfl
      · split <;> rfl

/-- A scheme with a word for a kind of credential where it asks for nothing: `bearer` as its type,
or `oauth2` as its scheme of HTTP. -/
def IsMisworded (s : SecurityScheme) : Prop :=
  s.type = "bearer" ∨ (s.type = "http" ∧ s.httpScheme = "oauth2")

/-- The type for keys is not in small letters, so no scheme of HTTP is taken for it. -/
theorem httpScheme_ne_apiKey (s : SecurityScheme) : s.httpScheme ≠ "apiKey" := by
  intro h
  have hcapital : 'K' ∈ s.httpScheme.toList := by
    rw [h]
    decide
  have hsmall := Text.not_isCapitalLetter_of_mem_lowercase hcapital
  revert hsmall
  decide

end SecurityScheme

/-! ## What is shown -/

namespace Command

theorem get?_variableEndings (kind : String) : Named.get? variableEndings kind
    = if kind = "apiKey" then some "API_KEY" else if kind = "bearer" then some "TOKEN"
      else if kind = "basic" then some "CREDENTIALS"
      else if kind = "oauth2" then some "ACCESS_TOKEN" else none := by
  unfold Named.get? variableEndings
  simp only [List.find?_cons, List.find?_nil]
  grind

/-- The word by which the kind of credential is told where schemes are shown. -/
def schemeWord (s : SecurityScheme) : String := if s.type = "http" then s.httpScheme else s.type

theorem schemeVariable?_eq (name : String) (s : SecurityScheme) : schemeVariable? name s
    = (Named.get? variableEndings (schemeWord s)).map (Name.envVariable name) := by
  unfold schemeVariable? schemeWord SecurityScheme.httpScheme
  simp only [beq_iff_eq]

/-- A scheme whose words mean something where they stand is told by one word as well. -/
theorem get?_schemeWord {s : SecurityScheme} (h : ¬ s.IsMisworded) :
    Named.get? variableEndings (schemeWord s) = s.ending? := by
  have hkey := s.httpScheme_ne_apiKey
  unfold SecurityScheme.IsMisworded at h
  rw [get?_variableEndings]
  unfold schemeWord SecurityScheme.ending?
  grind

theorem get?_schemeWord_of_isMisworded {s : SecurityScheme} (h : s.IsMisworded) :
    s.ending? = none ∧ ∃ ending, Named.get? variableEndings (schemeWord s) = some ending := by
  unfold SecurityScheme.ending? schemeWord
  rcases h with htype | ⟨htype, hscheme⟩
  · exact ⟨by simp [htype], "TOKEN", by simp [htype, get?_variableEndings]⟩
  · exact ⟨by simp [htype, hscheme], "ACCESS_TOKEN", by
      simp [htype, hscheme, get?_variableEndings]⟩

/-- What is shown of a variable: the variable itself, or the variable with a mark that no tool reads
it. -/
def Shows (cell setting : String) : Prop := cell = setting ∨ cell = setting ++ " (unused)"

theorem Shows.ne_dash {cell name ending : String} (h : Shows cell (Name.envVariable name ending)) :
    cell ≠ "-" := by
  have hscore : '_' ∈ (Name.envVariable name ending).toList := by
    rw [Name.envVariable_eq, String.toList_append, String.toList_append]
    exact List.mem_append_left _ (List.mem_append_right _ List.mem_cons_self)
  have hcell : '_' ∈ cell.toList := by
    rcases h with rfl | rfl
    · exact hscore
    · rw [String.toList_append]
      exact List.mem_append_left _ hscore
  rintro rfl
  revert hcell
  decide

section

variable {used : List String} {name : String} {s : SecurityScheme}

theorem shownVariable_of_none (h : Named.get? variableEndings (schemeWord s) = none) :
    shownVariable used name s = "-" := by
  unfold shownVariable
  rw [schemeVariable?_eq, h]
  rfl

theorem shows_of_some {ending : String}
    (h : Named.get? variableEndings (schemeWord s) = some ending) :
    Shows (shownVariable used name s) (Name.envVariable name ending) := by
  unfold shownVariable
  rw [schemeVariable?_eq, h]
  dsimp only [Option.map_some]
  split
  · exact .inl rfl
  · exact .inr rfl

end

/-- **What is shown for a scheme is what a tool behind it reads, if and only if the scheme is not
misworded.** The variable that a tool reads is always shown. A dash is shown if and only if the tool
has no credential, unless the scheme is misworded: then a variable is shown that the tool does not
read. -/
theorem shownVariable_agrees_iff {a : Api} {e : Endpoint} {name : String} {s : SecurityScheme}
    (hs : Named.get? a.securitySchemes name = some s) (he : a.NamesFirst e name)
    (used : List String) :
    (schemeRow used (name, s)).getLast? = some (shownVariable used name s) ∧
      (∀ c, (a.authentication? e).1 = some c →
        Shows (shownVariable used name s) c.envVariable) ∧
      ((shownVariable used name s = "-" ↔ (a.authentication? e).1 = none) ↔ ¬ s.IsMisworded) ∧
      (s.IsMisworded → (a.authentication? e).1 = none ∧
        ∃ ending, Shows (shownVariable used name s) (Name.envVariable name ending)) := by
  have hread : (a.authentication? e).1.map Authentication.envVariable
      = s.ending?.map (Name.envVariable name) := by
    rw [Api.authentication?_of_namesFirst he, hs]
    exact s.map_envVariable_credential? name
  have hnone : (a.authentication? e).1 = none ↔ s.ending? = none := by
    rw [← Option.map_eq_none_iff, hread, Option.map_eq_none_iff]
  by_cases hword : s.IsMisworded
  · obtain ⟨hending, ending, hshown⟩ := get?_schemeWord_of_isMisworded hword
    have hshows : Shows (shownVariable used name s) (Name.envVariable name ending) :=
      shows_of_some hshown
    have hauth := hnone.2 hending
    refine ⟨rfl, ?_, ?_, fun _ => ⟨hauth, ending, hshows⟩⟩
    · intro c hc
      rw [hauth] at hc
      cases hc
    · exact iff_of_false (fun h => hshows.ne_dash (h.2 hauth)) (not_not_intro hword)
  · have hword' := get?_schemeWord hword
    refine ⟨rfl, ?_, ?_, fun h => absurd h hword⟩
    · intro c hc
      rw [hc, Option.map_some] at hread
      obtain ⟨ending, hending, hvariable⟩ := Option.map_eq_some_iff.1 hread.symm
      rw [← hvariable]
      exact shows_of_some (hword'.trans hending)
    · refine iff_of_true ?_ hword
      rw [hnone]
      constructor
      · intro hdash
        cases hending : s.ending? with
        | none => rfl
        | some ending => exact absurd hdash (shows_of_some (hword'.trans hending)).ne_dash
      · intro hending
        exact shownVariable_of_none (hword'.trans hending)

/-! ### Cats behind a bearer, dogs behind a type of that name -/

/-- A scheme with `bearer` as its type. -/
def bearerType : Value := Value.object [("type", .str "bearer")]

/-- A document with an operation behind a bearer, and one behind a scheme that only says so. -/
def bearerPets : Value := guardedPets ("login", bearerScheme) ("session", bearerType)

/-- For the scheme with a bearer the variable is shown that the tool reads. -/
theorem bearerPets_login : ∃ (a : Api) (cats dogs : Endpoint) (s : SecurityScheme)
    (c : Authentication), (Api.read bearerPets false).1 = .ok a ∧ a.endpoints = [cats, dogs] ∧
    Named.get? a.securitySchemes "login" = some s ∧ a.NamesFirst cats "login" ∧
    (a.authentication? cats).1 = some c ∧
    Shows (shownVariable (usedVariables (a.tools none).1) "login" s) c.envVariable := by
  obtain ⟨a, cats, dogs, s, c, ha, he, hs, hcats, hc⟩ : ∃ (a : Api) (cats dogs : Endpoint)
      (s : SecurityScheme) (c : Authentication), (Api.read bearerPets false).1 = .ok a ∧
      a.endpoints = [cats, dogs] ∧ Named.get? a.securitySchemes "login" = some s ∧
      a.NamesFirst cats "login" ∧ (a.authentication? cats).1 = some c :=
    ⟨_, _, _, _, _, rfl, rfl, rfl, ⟨_, _, _, rfl⟩, rfl⟩
  obtain ⟨-, hshown, -⟩ :=
    shownVariable_agrees_iff hs hcats (usedVariables (a.tools none).1)
  exact ⟨a, cats, dogs, s, c, ha, he, hs, hcats, hc, hshown c hc⟩

/-- For the other one a variable is shown though the tool has no credential. -/
theorem bearerPets_session : ∃ (a : Api) (cats dogs : Endpoint) (s : SecurityScheme),
    (Api.read bearerPets false).1 = .ok a ∧ a.endpoints = [cats, dogs] ∧
    Named.get? a.securitySchemes "session" = some s ∧ a.NamesFirst dogs "session" ∧
    (a.authentication? dogs).1 = none ∧
    shownVariable (usedVariables (a.tools none).1) "session" s = "SESSION_TOKEN (unused)" :=
  ⟨_, _, _, _, rfl, rfl, rfl, ⟨_, _, _, rfl⟩, rfl, rfl⟩

end Command

end ApiTools
