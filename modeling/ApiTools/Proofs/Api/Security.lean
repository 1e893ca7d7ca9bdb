import ApiTools.Proofs.Api.Operations
import ApiTools.Proofs.Value.Members
import ApiTools.Tool.Credential

set_option autoImplicit false

/-!
# Public operations

An operation is public if nothing is required of it, whatever its interface requires in general. A
document says so by an empty list of requirements. Entries of a list that are no mappings are
passed over, so a list with no other entries makes an operation public too, and nobody said so.
-/

namespace ApiTools.Api

/-! ## Declared requirements -/

/-- The list of requirements that is declared is empty. -/
def OptsOut (raw : Option Value) : Prop := raw.bind Value.asList? = some []

/-- A list of requirements is declared, and nothing in it is a requirement though it has
entries. -/
def IsSpoiled (raw : Option Value) : Prop :=
  ∃ entries, raw.bind Value.asList? = some entries ∧ entries ≠ [] ∧
    ∀ entry ∈ entries, entry.isMap = false

theorem readRequirement_eq_none_iff (entry : Value) :
    entry.asMap?.map readRequirement = none ↔ entry.isMap = false := by
  rw [Option.map_eq_none_iff, Value.isMap_eq, Option.isSome_eq_false_iff,
    Option.isNone_iff_eq_none]

theorem readSecurity_eq_nil_iff (raw : Option Value) :
    readSecurity raw = some [] ↔ OptsOut raw ∨ IsSpoiled raw := by
  unfold readSecurity OptsOut IsSpoiled
  cases raw.bind Value.asList? with
  | none => simp
  | some entries =>
      simp only [Option.map_some, Option.some.injEq, List.filterMap_eq_nil_iff,
        readRequirement_eq_none_iff, exists_eq_left']
      constructor
      · intro hnone
        by_cases hempty : entries = []
        · exact .inl hempty
        · exact .inr ⟨hempty, hnone⟩
      · rintro (rfl | ⟨-, hnone⟩)
        · exact List.forall_mem_nil _
        · exact hnone

theorem not_isSpoiled_of_optsOut {raw : Option Value} (h : OptsOut raw) : ¬ IsSpoiled raw := by
  rintro ⟨entries, hentries, hne, -⟩
  have hsame : some entries = some [] := hentries.symm.trans h
  exact hne (Option.some.inj hsame)

/-- Only a list without entries is read as one without requirements, unless a list is spoiled. -/
theorem readSecurity_eq_nil_iff_optsOut_iff (raw : Option Value) :
    (readSecurity raw = some [] ↔ OptsOut raw) ↔ ¬ IsSpoiled raw := by
  rw [readSecurity_eq_nil_iff]
  constructor
  · intro h hspoiled
    exact not_isSpoiled_of_optsOut (h.1 (.inr hspoiled)) hspoiled
  · intro hnot
    exact ⟨fun h => h.resolve_right hnot, .inl⟩

/-! ## Public operations -/

/-- Nothing is required of an operation, whatever its interface requires in general. -/
def IsPublic (a : Api) (e : Endpoint) : Prop :=
  ∀ general, ({ a with security := general } : Api).requirements e = []

theorem isPublic_iff (a : Api) (e : Endpoint) : IsPublic a e ↔ e.security = some [] := by
  constructor
  · intro hpublic
    cases hsecurity : e.security with
    | none =>
        -- then a requirement of the interface would count
        have hgeneral := hpublic (some [[]])
        unfold requirements at hgeneral
        rw [hsecurity] at hgeneral
        cases hgeneral
    | some own =>
        have hown := hpublic none
        unfold requirements at hown
        rw [hsecurity] at hown
        rw [show own = [] from hown]
  · intro hsecurity general
    unfold requirements
    rw [hsecurity]
    rfl

/-- A tool for a public operation has no credential. -/
theorem authentication?_of_isPublic {a : Api} {e : Endpoint} (h : IsPublic a e) :
    a.authentication? e = (none, []) := by
  have hnone : a.requirements e = [] := h a.security
  unfold authentication? schemeName?
  rw [hnone]
  rfl

namespace Site

/-- What is declared about the security of an operation. -/
def declared (s : Site) : Option Value := s.operation.get? "security"

theorem security_of_endpoint? {s : Site} {doc : Value} {merge : Bool} {e : Endpoint}
    (h : s.endpoint? doc merge = some e) : e.security = readSecurity s.declared := by
  obtain ⟨raws, body, codes, -, rfl⟩ := of_endpoint? h
  rfl

end Site

/-- **Only an empty list of requirements makes an operation public, if and only if the list is not
spoiled.** The same is true of what an interface requires in general. -/
theorem public_iff_optsOut_iff_not_spoiled {doc : Value} {merge : Bool} {a : Api}
    (ha : (read doc merge).1 = .ok a) :
    ((a.security = some [] ↔ OptsOut (Value.member? (membersOf doc) "security")) ↔
        ¬ IsSpoiled (Value.member? (membersOf doc) "security")) ∧
      (∀ e, e ∈ a.endpoints ↔ ∃ s ∈ sites doc, s.endpoint? doc merge = some e) ∧
      ∀ s ∈ sites doc, ∀ e, s.endpoint? doc merge = some e →
        ((e.security = some [] ↔ OptsOut s.declared) ↔ ¬ IsSpoiled s.declared) ∧
        (IsPublic a e ↔ OptsOut s.declared ∨ IsSpoiled s.declared) ∧
        (IsPublic a e → a.authentication? e = (none, [])) := by
  refine ⟨?_, ?_, ?_⟩
  · rw [security_eq ha]
    exact readSecurity_eq_nil_iff_optsOut_iff _
  · intro e
    rw [endpoints_eq ha]
    exact List.mem_filterMap
  · intro s hs e he
    have hsecurity := Site.security_of_endpoint? he
    rw [isPublic_iff, hsecurity]
    refine ⟨readSecurity_eq_nil_iff_optsOut_iff _, readSecurity_eq_nil_iff _, ?_⟩
    intro hnil
    exact authentication?_of_isPublic ((isPublic_iff a e).2 (hsecurity.trans hnil))

/-! ### A list of pets behind a key -/

/-- A requirement by the name of its scheme. -/
def keyRequirement : Value := Value.object [("key", .list [])]

/-- What is said about the operation that lists pets. -/
def listPets (entries : List Value) : Value := Value.object [("security", .list entries)]

/-- A document with that operation, where a key is required in general. -/
def petsBehindKey (entries : List Value) : Value :=
  Value.object
    [("openapi", .str "3.0.0"),
     ("info", Value.object [("title", .str "Pets"), ("version", .str "1")]),
     ("paths", Value.object [("/pets", Value.object [("get", listPets entries)])]),
     ("components", Value.object
       [("securitySchemes", Value.object
         [("key", Value.object
           [("type", .str "apiKey"), ("name", .str "X-Key"), ("in", .str "header")])])]),
     ("security", .list [keyRequirement])]

/-- The only site of that document. -/
def petsSite (entries : List Value) : Site :=
  ⟨"/pets", Value.object [("get", listPets entries)], .get, listPets entries⟩

/-- With an empty list the operation is public. -/
theorem petsBehindKey_public : ∃ a e, (read (petsBehindKey []) false).1 = .ok a ∧
    e ∈ a.endpoints ∧ a.security = some [[("key", [])]] ∧ IsPublic a e ∧
    a.authentication? e = (none, []) := by
  obtain ⟨a, ha, hsecurity⟩ : ∃ a, (read (petsBehindKey []) false).1 = .ok a ∧
      a.security = some [[("key", [])]] := ⟨_, rfl, rfl⟩
  obtain ⟨e, he⟩ : ∃ e, (petsSite []).endpoint? (petsBehindKey []) false = some e := ⟨_, rfl⟩
  have hs : petsSite [] ∈ sites (petsBehindKey []) := List.mem_cons_self
  obtain ⟨-, hmem, hsites⟩ := public_iff_optsOut_iff_not_spoiled ha
  obtain ⟨-, hpublic, hcredential⟩ := hsites _ hs e he
  have hopts : OptsOut (petsSite []).declared := rfl
  exact ⟨a, e, ha, (hmem e).2 ⟨_, hs, he⟩, hsecurity, hpublic.2 (.inl hopts),
    hcredential (hpublic.2 (.inl hopts))⟩

/-- A list with the name of the scheme in it, in place of a requirement, makes the operation public
as well. Without the list a key would be sent. -/
theorem petsBehindKey_spoiled : ∃ a e, (read (petsBehindKey [.str "key"]) false).1 = .ok a ∧
    a.endpoints = [e] ∧ e.security = some [] ∧
    ¬ OptsOut (petsSite [.str "key"]).declared ∧ IsPublic a e ∧
    (a.authentication? e).1 = none ∧
    (a.authentication? { e with security := none }).1
      = some (.apiKey .header "X-Key" "KEY_API_KEY") := by
  refine ⟨_, _, rfl, rfl, rfl, ?_, ?_, rfl, rfl⟩
  · intro h
    cases h
  · exact (isPublic_iff _ _).2 rfl

end ApiTools.Api
