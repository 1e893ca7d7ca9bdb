import ApiTools.Api.Reader
import ApiTools.Proofs.Tool.Synthesis
import Mathlib.Data.List.Basic

set_option autoImplicit false

/-!
# The variables of credentials

The secret for a scheme is taken from an environment variable that is named for the scheme and for
the kind of credential. Such a name keeps less than the document says: letters lose their case, and
everything but the letters and digits of ASCII becomes an underscore. So two schemes share a
variable if their names differ in nothing else and they ask for the same kind of credential. They
also do if one of them is for OAuth 2, the other for a bearer, and the name of the latter has
`_ACCESS` behind that of the former. They share none in all other cases.
-/

namespace ApiTools

/-! ## Names in variables -/

namespace Name

/-- What a variable keeps of the name of a scheme. -/
def kept (scheme : String) : String :=
  String.ofList ((Text.upper scheme.toList).map fun c => if Text.isAsciiAlnum c then c else '_')

theorem envVariable_eq (scheme kind : String) :
    envVariable scheme kind = kept scheme ++ "_" ++ kind := rfl

theorem envVariable_eq_iff_kept_eq {m n kind : String} :
    envVariable m kind = envVariable n kind ↔ kept m = kept n := by
  rw [envVariable_eq, envVariable_eq, String.append_left_inj, String.append_left_inj]

theorem envVariable_access_eq_iff {m n : String} :
    envVariable m "ACCESS_TOKEN" = envVariable n "TOKEN" ↔ kept n = kept m ++ "_ACCESS" := by
  have hcut : envVariable m "ACCESS_TOKEN" = kept m ++ "_ACCESS" ++ "_" ++ "TOKEN" := by
    rw [envVariable_eq]
    simp only [String.append_assoc]
    rfl
  rw [hcut, envVariable_eq, String.append_left_inj, String.append_left_inj]
  exact eq_comm

theorem getLast?_envVariable (scheme : String) {kind : String} (h : kind.toList ≠ []) :
    (envVariable scheme kind).toList.getLast? = kind.toList.getLast? := by
  rw [envVariable_eq, String.toList_append, List.getLast?_append_of_ne_nil _ h]

end Name

/-! ## Kinds of credentials -/

namespace Authentication

/-- How the variable for a kind of credential ends. -/
def ending : Authentication → String
  | apiKey _ _ _ => "API_KEY"
  | bearer _ => "TOKEN"
  | basic _ => "CREDENTIALS"
  | oauth2 _ => "ACCESS_TOKEN"

theorem ending_ne_nil (c : Authentication) : c.ending.toList ≠ [] := by
  cases c <;> simp [ending]

theorem ending_of_kindName {c d : Authentication} (h : c.kindName = d.kindName) :
    c.ending = d.ending := by
  cases c <;> cases d <;> simp_all [ending, kindName]

/-- One of them is for OAuth 2 and the other for a bearer. -/
def AreTokens (c d : Authentication) : Prop := c.kindName = "oauth2" ∧ d.kindName = "bearer"

theorem AreTokens.ending {c d : Authentication} (h : AreTokens c d) :
    c.ending = "ACCESS_TOKEN" ∧ d.ending = "TOKEN" := by
  unfold AreTokens at h
  cases c <;> cases d <;> simp_all [Authentication.ending, kindName]

/-- Endings of different kinds have different last letters, those for tokens aside. -/
theorem getLast?_ending_eq_iff (c d : Authentication) :
    c.ending.toList.getLast? = d.ending.toList.getLast? ↔
      c.kindName = d.kindName ∨ AreTokens c d ∨ AreTokens d c := by
  unfold AreTokens
  cases c <;> cases d <;> simp [Authentication.ending, kindName]

/-- Credentials for schemes with two names share a variable. -/
def SharesVariable (m : String) (c : Authentication) (n : String) (d : Authentication) : Prop :=
  (c.kindName = d.kindName ∧ Name.kept m = Name.kept n) ∨
    (AreTokens c d ∧ Name.kept n = Name.kept m ++ "_ACCESS") ∨
    (AreTokens d c ∧ Name.kept m = Name.kept n ++ "_ACCESS")

theorem envVariable_ending_eq_iff (m n : String) (c d : Authentication) :
    Name.envVariable m c.ending = Name.envVariable n d.ending ↔ SharesVariable m c n d := by
  constructor
  · intro h
    have hlast := congrArg (List.getLast? ∘ String.toList) h
    rw [Function.comp_apply, Function.comp_apply, Name.getLast?_envVariable _ c.ending_ne_nil,
      Name.getLast?_envVariable _ d.ending_ne_nil, getLast?_ending_eq_iff] at hlast
    rcases hlast with hkind | htokens | htokens
    · rw [ending_of_kindName hkind, Name.envVariable_eq_iff_kept_eq] at h
      exact .inl ⟨hkind, h⟩
    · rw [htokens.ending.1, htokens.ending.2, Name.envVariable_access_eq_iff] at h
      exact .inr (.inl ⟨htokens, h⟩)
    · rw [htokens.ending.1, htokens.ending.2] at h
      exact .inr (.inr ⟨htokens, Name.envVariable_access_eq_iff.1 h.symm⟩)
  · rintro (⟨hkind, h⟩ | ⟨htokens, h⟩ | ⟨htokens, h⟩)
    · rw [ending_of_kindName hkind, Name.envVariable_eq_iff_kept_eq]
      exact h
    · rw [htokens.ending.1, htokens.ending.2, Name.envVariable_access_eq_iff]
      exact h
    · rw [htokens.ending.1, htokens.ending.2]
      exact (Name.envVariable_access_eq_iff.2 h).symm

end Authentication

/-! ## Schemes and operations -/

theorem SecurityScheme.envVariable_of_credential? {name : String} {s : SecurityScheme}
    {c : Authentication} (h : s.credential? name = some c) :
    c.envVariable = Name.envVariable name c.ending := by
  unfold SecurityScheme.credential? at h
  dsimp only at h
  split at h
  · obtain rfl := Option.some.inj h
    rfl
  · split at h
    · obtain rfl := Option.some.inj h
      rfl
    · split at h
      · obtain rfl := Option.some.inj h
        rfl
      · split at h
        · obtain rfl := Option.some.inj h
          rfl
        · cases h

namespace Api

/-- The first requirement that applies to an operation names a scheme first. -/
def NamesFirst (a : Api) (e : Endpoint) (name : String) : Prop :=
  ∃ scopes others more, a.requirements e = ((name, scopes) :: others) :: more

theorem authentication?_of_namesFirst {a : Api} {e : Endpoint} {name : String}
    (h : a.NamesFirst e name) :
    (a.authentication? e).1
      = (Named.get? a.securitySchemes name).bind (·.credential? name) := by
  obtain ⟨scopes, others, more, hrequirements⟩ := h
  unfold authentication? schemeName?
  rw [hrequirements]
  dsimp only [List.head?_cons, Option.bind_some, Option.map_some]
  cases Named.get? a.securitySchemes name with
  | none => rfl
  | some s =>
      rw [Option.bind_some]
      dsimp only
      cases s.credential? name <;> rfl

theorem envVariable_of_namesFirst {a : Api} {e : Endpoint} {name : String} {c : Authentication}
    (h : a.NamesFirst e name) (hc : (a.authentication? e).1 = some c) :
    c.envVariable = Name.envVariable name c.ending := by
  rw [authentication?_of_namesFirst h] at hc
  obtain ⟨s, -, hs⟩ := Option.bind_eq_some_iff.1 hc
  exact SecurityScheme.envVariable_of_credential? hs

end Api

theorem Tool.authentication_of_ofEndpoint? {a : Api} {base : String} {e : Endpoint} {t : Tool}
    (h : (Tool.ofEndpoint? a base e).1 = some t) : t.authentication = (a.authentication? e).1 := by
  rw [Tool.ofEndpoint?_fst, Tool.ofEndpoint_fst] at h
  split at h
  · cases h
  · rw [toOption_map] at h
    obtain ⟨input, -, rfl⟩ := Option.map_eq_some_iff.1 h
    rfl

/-- **Which tools of an interface read the same secret.** The variables of two credentials are the
same if the variables keep the same of the names of their schemes and they are of one kind, or if
one is for OAuth 2, the other for a bearer, and the name of the latter goes on with `_ACCESS`. They
differ in all other cases. -/
theorem Tool.envVariable_eq_iff {a : Api} {base : String} {e f : Endpoint} {t u : Tool}
    {m n : String} {c d : Authentication}
    (ht : (Tool.ofEndpoint? a base e).1 = some t) (hu : (Tool.ofEndpoint? a base f).1 = some u)
    (hm : a.NamesFirst e m) (hn : a.NamesFirst f n)
    (hc : t.authentication = some c) (hd : u.authentication = some d) :
    c.envVariable = d.envVariable ↔ Authentication.SharesVariable m c n d := by
  rw [Tool.authentication_of_ofEndpoint? ht] at hc
  rw [Tool.authentication_of_ofEndpoint? hu] at hd
  rw [Api.envVariable_of_namesFirst hm hc, Api.envVariable_of_namesFirst hn hd]
  exact Authentication.envVariable_ending_eq_iff m n c d

/-! ### Cats and dogs behind schemes -/

/-- An operation that requires a scheme. -/
def guardedBy (scheme : String) : Value :=
  Value.object [("get", Value.object [("security", .list [Value.object [(scheme, .list [])]])])]

/-- A document with two operations, each behind a scheme of its own. -/
def guardedPets (cats dogs : String × Value) : Value :=
  Value.object
    [("paths", Value.object [("/cats", guardedBy cats.1), ("/dogs", guardedBy dogs.1)]),
     ("components", Value.object [("securitySchemes", Value.object [cats, dogs])])]

/-- A scheme with a key in a header. -/
def headerKey : Value :=
  Value.object [("type", .str "apiKey"), ("name", .str "X-Key"), ("in", .str "header")]

/-- A scheme of HTTP with a bearer. -/
def bearerScheme : Value := Value.object [("type", .str "http"), ("scheme", .str "Bearer")]

/-- A scheme of OAuth 2. -/
def oauthScheme : Value := Value.object [("type", .str "oauth2"), ("flows", Value.object [])]

/-- A scheme called `pets` for OAuth 2 and one called `pets_access` for a bearer share a variable. -/
theorem petTokens_shared : ∃ (a : Api) (e f : Endpoint) (t u : Tool) (c d : Authentication),
    (Api.read (guardedPets ("pets", oauthScheme) ("pets_access", bearerScheme)) false).1 = .ok a ∧
    a.endpoints = [e, f] ∧
    (Tool.ofEndpoint? a "" e).1 = some t ∧ (Tool.ofEndpoint? a "" f).1 = some u ∧
    a.NamesFirst e "pets" ∧ a.NamesFirst f "pets_access" ∧
    t.authentication = some c ∧ u.authentication = some d ∧ c.envVariable = d.envVariable := by
  obtain ⟨a, e, f, t, u, c, d, ha, he, ht, hu, hm, hn, hc, hd, htokens⟩ :
      ∃ (a : Api) (e f : Endpoint) (t u : Tool) (c d : Authentication),
        (Api.read (guardedPets ("pets", oauthScheme) ("pets_access", bearerScheme)) false).1
          = .ok a ∧ a.endpoints = [e, f] ∧
        (Tool.ofEndpoint? a "" e).1 = some t ∧ (Tool.ofEndpoint? a "" f).1 = some u ∧
        a.NamesFirst e "pets" ∧ a.NamesFirst f "pets_access" ∧
        t.authentication = some c ∧ u.authentication = some d ∧ Authentication.AreTokens c d :=
    ⟨_, _, _, _, _, _, _, rfl, rfl, rfl, rfl, ⟨_, _, _, rfl⟩, ⟨_, _, _, rfl⟩, rfl, rfl, rfl, rfl⟩
  have hkept : Name.kept "pets_access" = Name.kept "pets" ++ "_ACCESS" := rfl
  exact ⟨a, e, f, t, u, c, d, ha, he, ht, hu, hm, hn, hc, hd,
    (Tool.envVariable_eq_iff ht hu hm hn hc hd).2 (.inr (.inl ⟨htokens, hkept⟩))⟩

/-- Of two tools for one document, each with a key for a scheme of its own, both read the same
variable. -/
theorem petKeys_shared : ∃ (a : Api) (e f : Endpoint) (t u : Tool) (c d : Authentication),
    (Api.read (guardedPets ("pet-key", headerKey) ("pet_key", headerKey)) false).1 = .ok a ∧
    a.endpoints = [e, f] ∧ (a.tools none).1 = [t, u] ∧
    (Tool.ofEndpoint? a "" e).1 = some t ∧ (Tool.ofEndpoint? a "" f).1 = some u ∧
    a.NamesFirst e "pet-key" ∧ a.NamesFirst f "pet_key" ∧
    t.authentication = some c ∧ u.authentication = some d ∧
    c.envVariable = "PET_KEY_API_KEY" ∧ d.envVariable = "PET_KEY_API_KEY" :=
  ⟨_, _, _, _, _, _, _, rfl, rfl, rfl, rfl, rfl, ⟨_, _, _, rfl⟩, ⟨_, _, _, rfl⟩, rfl, rfl, rfl, rfl⟩

end ApiTools
