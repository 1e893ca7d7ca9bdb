import ApiTools.Proofs.Schema.Steps

set_option autoImplicit false

/-!
# What a composition collapses into

A composed schema has *contributors*: itself, and what the members of `allOf`, those of `anyOf`
and the first variant of `oneOf` lead to, in this order. Members whose references lead nowhere
contribute nothing. What the collapsed schema says is told here by its contributors alone
(`IsCollapsed`), without the way in which collapsing goes through them: of several definitions of
a property the last one counts, of several types the first one, and whatever the variant writes
is laid over the rest, except for a reference of its own.
-/

namespace ApiTools.Schema

/-! ## Contributors -/

/-- What the members that are merged lead to. -/
def mergedSchemas (reg : Registry) (s : Schema) : List Schema :=
  (members s.allOf ++ members s.anyOf).filterMap (target? reg)

/-- What the first variant leads to, which is laid over the rest. -/
def overlay? (reg : Registry) (s : Schema) : Option Schema :=
  (members s.oneOf).head?.bind (target? reg)

/-- What all members of the composition lead to, in the order in which they count. -/
def joined (reg : Registry) (s : Schema) : List Schema :=
  mergedSchemas reg s ++ (overlay? reg s).toList

/-- The schemas that a composed schema is made of. -/
def contributors (reg : Registry) (s : Schema) : List Schema := s :: joined reg s

theorem schema_member? (reg : Registry) (s : Schema) :
    (member? reg s).map Member.schema = target? reg s := by
  unfold member?
  rw [Option.map_map]
  exact Option.map_id'

theorem schemas_resolved (reg : Registry) (ss : List Schema) :
    (resolved reg ss).map Member.schema = ss.filterMap (target? reg) := by
  unfold resolved
  rw [List.map_filterMap]
  exact List.filterMap_congr fun s _ => schema_member? reg s

theorem schemas_merged (reg : Registry) (s : Schema) :
    (merged reg s).map Member.schema = mergedSchemas reg s := by
  unfold merged mergedSchemas
  rw [List.map_append, schemas_resolved, schemas_resolved, List.filterMap_append]

theorem schema_variant? (reg : Registry) (s : Schema) :
    (variant? reg s).map Member.schema = overlay? reg s := by
  unfold variant? overlay?
  rw [Option.map_bind]
  exact congrArg _ (funext fun m => schema_member? reg m)

theorem schemas_joined (reg : Registry) (s : Schema) :
    (merged reg s ++ (variant? reg s).toList).map Member.schema = joined reg s := by
  unfold joined
  rw [List.map_append, schemas_merged, ← schema_variant?]
  cases variant? reg s <;> rfl

/-! ## Properties -/

/-- The definition that a schema gives of a property. -/
def declared? (s : Schema) (n : String) : Option Schema := Named.get? s.propertyList.reverse n

theorem propertyList_compose {reg : Registry} {s : Schema} (h : s.hasComposition) :
    (compose reg s).propertyList = (parts reg s).map fun p => (p.name, p.schema) := by
  unfold compose
  rw [if_neg (by simp [h])]
  show (nonempty ((parts reg s).map fun p => (p.name, p.schema))).get?.getD [] = _
  cases (parts reg s).map fun p => (p.name, p.schema) <;> rfl

theorem entries_parts (m : Member) :
    m.parts.map (fun p => (p.name, p.schema)) = m.schema.propertyList := by
  unfold Member.parts
  rw [List.map_map]
  exact List.map_id _

/-- The properties are those of all contributors, added in order. -/
theorem parts_eq_ofList (reg : Registry) (s : Schema) :
    (parts reg s).map (fun p => (p.name, p.schema))
      = Named.ofList ((contributors reg s).flatMap propertyList) := by
  have hadded : (parts reg s).map Part.entry = Named.ofList
      (((Member.mk none s :: (merged reg s ++ (variant? reg s).toList)).flatMap
        Member.parts).map Part.entry) := by
    unfold parts
    rw [entries_foldl_insertPart]
    rfl
  have hforget : (parts reg s).map (fun p => (p.name, p.schema))
      = ((parts reg s).map Part.entry).map fun e => (e.1, e.2.2) := by
    rw [List.map_map]
    rfl
  rw [hforget, hadded, Named.ofList_map, List.map_map]
  show Named.ofList ((List.flatMap Member.parts _).map fun p => (p.name, p.schema)) = _
  rw [List.map_flatMap]
  simp only [entries_parts]
  have hall : contributors reg s
      = (Member.mk none s :: (merged reg s ++ (variant? reg s).toList)).map Member.schema := by
    rw [List.map_cons, schemas_joined]
    rfl
  rw [hall, List.flatMap_map]

/-! ## Required names -/

theorem addNames_eq (names more : List String) :
    addNames names more
      = names ++ (Named.distinct more).filter fun n => !names.contains n := by
  induction more using List.reverseRecOn with
  | nil => simp [addNames, Named.distinct]
  | append_singleton more n ih =>
      have hstep : addNames names (more ++ [n])
          = if (addNames names more).contains n then addNames names more
            else addNames names more ++ [n] := by
        unfold addNames
        rw [List.foldl_append]
        rfl
      rw [hstep, ih, Named.distinct_append_singleton, List.filter_append]
      by_cases hown : n ∈ names
      · -- the schema requires the name itself
        rw [if_pos (by simp [hown])]
        split <;> simp [hown]
      · by_cases hmore : n ∈ more
        · rw [if_pos (by simp [hmore, hown, Named.mem_distinct]), if_pos hmore]
          simp
        · rw [if_neg (by simp [hmore, hown, Named.mem_distinct]), if_neg hmore]
          simp [hown]

theorem foldl_addNames (names : List String) (more : List (List String)) :
    more.foldl addNames names = addNames names more.flatten := by
  unfold addNames
  rw [List.foldl_flatten]

theorem requiredNames_compose {reg : Registry} {s : Schema} (h : s.hasComposition) :
    (compose reg s).requiredNames
      = addNames s.requiredNames ((joined reg s).flatMap requiredNames) := by
  have hparts : requiredParts reg s
      = addNames s.requiredNames ((joined reg s).flatMap requiredNames) := by
    unfold requiredParts
    rw [← schemas_joined, List.flatMap_map, List.flatMap_def, ← foldl_addNames, List.foldl_map]
  unfold compose
  rw [if_neg (by simp [h]), ← hparts]
  show (nonempty (requiredParts reg s)).get?.getD [] = _
  cases requiredParts reg s <;> rfl

/-! ## Single fields -/

/-- What a schema says under a key of its own, apart from its type, its required names, its
properties and its compositions. The index is what stands under the key. -/
inductive Field : Type → Type where
  | ref : Field String
  | format : Field String
  | title : Field String
  | description : Field String
  | enum : Field (List Value)
  | minimum : Field Numeric
  | maximum : Field Numeric
  | exclusiveMinimum : Field Bound
  | exclusiveMaximum : Field Bound
  | multipleOf : Field Numeric
  | minLength : Field Int
  | maxLength : Field Int
  | pattern : Field String
  | minItems : Field Int
  | maxItems : Field Int
  | uniqueItems : Field Bool
  | default : Field Value
  | exampleValue : Field Value
  | nullable : Field Bool
  | readOnly : Field Bool
  | writeOnly : Field Bool
  | deprecated : Field Bool
  | items : Field Schema
  | additional : Field (Bool ⊕ Schema)

/-- What a schema says in a field. -/
def Field.of {α : Type} : Field α → Schema → Facet α
  | .ref, s => s.facets.ref
  | .format, s => s.facets.format
  | .title, s => s.facets.title
  | .description, s => s.facets.description
  | .enum, s => s.facets.enum
  | .minimum, s => s.facets.minimum
  | .maximum, s => s.facets.maximum
  | .exclusiveMinimum, s => s.facets.exclusiveMinimum
  | .exclusiveMaximum, s => s.facets.exclusiveMaximum
  | .multipleOf, s => s.facets.multipleOf
  | .minLength, s => s.facets.minLength
  | .maxLength, s => s.facets.maxLength
  | .pattern, s => s.facets.pattern
  | .minItems, s => s.facets.minItems
  | .maxItems, s => s.facets.maxItems
  | .uniqueItems, s => s.facets.uniqueItems
  | .default, s => s.facets.default
  | .exampleValue, s => s.facets.exampleValue
  | .nullable, s => s.facets.nullable
  | .readOnly, s => s.facets.readOnly
  | .writeOnly, s => s.facets.writeOnly
  | .deprecated, s => s.facets.deprecated
  | .items, s => s.items
  | .additional, s => s.additional

/-- Whether a variant may write the field of the schema it is laid over. Only the reference stays:
it says where the schema itself leads. -/
def Field.isOverlaid {α : Type} : Field α → Bool
  | .ref => false
  | _ => true

/-- What the variant writes somewhere, or else what the schema writes there itself. -/
def overlaid {α : Type} (reg : Registry) (s : Schema) (say : Schema → Facet α) : Facet α :=
  ((overlay? reg s).elim .absent say).orElse (say s)

theorem field_compose {reg : Registry} {s : Schema} (h : s.hasComposition) {α : Type}
    (f : Field α) :
    f.of (compose reg s) = if f.isOverlaid then overlaid reg s f.of else f.of s := by
  unfold compose overlaid
  rw [if_neg (by simp [h]), ← schema_variant?]
  cases variant? reg s <;> cases f <;> rfl

/-! ## The type -/

theorem Facet.get?_ofOption {α : Type} (o : Option α) : (Facet.ofOption o).get? = o := by
  cases o <;> rfl

theorem type_compose {reg : Registry} {s : Schema} (h : s.hasComposition) :
    (compose reg s).facets.type = composedType reg s := by
  unfold compose
  rw [if_neg (by simp [h])]
  rfl

theorem composedType_of_variant {reg : Registry} {s v : Schema} (hv : overlay? reg s = some v)
    (ht : v.facets.type.isSet) : composedType reg s = v.facets.type := by
  rw [← schema_variant?] at hv
  obtain ⟨m, hm, rfl⟩ := Option.map_eq_some_iff.1 hv
  unfold composedType
  rw [hm]
  exact if_pos ht

theorem composedType_otherwise {reg : Registry} {s : Schema}
    (hv : ∀ v, overlay? reg s = some v → v.facets.type.isSet = false) :
    (composedType reg s).get?
      = s.facets.type.get?.or ((mergedSchemas reg s).findSome? (·.facets.type.get?)) := by
  have hmerged : (merged reg s).findSome? (·.schema.facets.type.get?)
      = (mergedSchemas reg s).findSome? (·.facets.type.get?) := by
    rw [← schemas_merged, List.findSome?_map]
    rfl
  rw [← schema_variant?] at hv
  unfold composedType
  rw [hmerged]
  cases hm : variant? reg s with
  | none => exact (Facet.get?_ofOption _).trans Option.orElse_eq_or
  | some m =>
      have hunset := hv m.schema (by rw [hm]; rfl)
      dsimp only
      rw [if_neg (by simp [hunset])]
      exact (Facet.get?_ofOption _).trans Option.orElse_eq_or

/-! ## Members under other names -/

theorem extras_compose {reg : Registry} {s : Schema} (h : s.hasComposition) :
    (compose reg s).facets.extras = match overlay? reg s with
      | none => s.facets.extras
      | some v => Named.insertAll s.facets.extras v.answers := by
  unfold compose
  rw [if_neg (by simp [h]), ← schema_variant?]
  cases variant? reg s <;> rfl

/-- The name of a member means nothing for a schema but the member: it is not the name of a key,
and nothing that every schema answers to. -/
def isFree (s : Schema) (n : String) : Bool :=
  !(keys.any (·.snake == n)) && (s.meaning? n).isNone

/-- A schema answers to the names of its members only. -/
theorem name_of_answer {v : Schema} {e f : String × Value}
    (h : (if keys.any (·.snake == e.1) then none
      else match v.meaning? e.1 with
        | some (.fact w) => some (e.1, w)
        | some .operation => none
        | none => some (e.1, e.2)) = some f) : f.1 = e.1 := by
  split at h
  · cases h
  · split at h
    · injection h with h
      rw [← h]
    · cases h
    · injection h with h
      rw [← h]

theorem names_answers_subset (v : Schema) :
    Named.names v.answers ⊆ Named.names v.facets.extras := by
  intro n hn
  obtain ⟨f, hf, rfl⟩ := List.mem_map.1 hn
  obtain ⟨e, he, hanswer⟩ := List.mem_filterMap.1 hf
  exact List.mem_map.2 ⟨e, he, (name_of_answer hanswer).symm⟩

/-- Asked for a member with a free name, a schema answers with the member. -/
theorem get?_answers {v : Schema} {n : String} (h : isFree v n) :
    Named.get? v.answers.reverse n = Named.get? v.facets.extras.reverse n := by
  unfold isFree at h
  rw [Bool.and_eq_true, Bool.not_eq_true', Option.isNone_iff_eq_none] at h
  unfold answers
  rw [← List.filterMap_reverse]
  refine Named.get?_filterMap ?_ ?_
  · rintro ⟨m, x⟩ f hf
    exact name_of_answer hf
  · rintro ⟨m, x⟩ rfl
    dsimp only
    rw [if_neg (by simp [h.1]), h.2]

theorem get?_extras_compose {reg : Registry} {s : Schema} (h : s.hasComposition) (n : String) :
    Named.get? (compose reg s).facets.extras n
      = ((overlay? reg s).bind fun v => Named.get? v.answers.reverse n).or
          (Named.get? s.facets.extras n) := by
  rw [extras_compose h]
  cases overlay? reg s with
  | none => rfl
  | some v => exact Named.get?_insertAll _ _ n

/-! ## The collapsed schema -/

/-- A schema is what a composed one collapses into, told by the contributors of the latter. -/
structure IsCollapsed (reg : Registry) (s c : Schema) : Prop where
  /-- The properties stand in the order in which their names come up first. -/
  propertyNames : Named.names c.propertyList
    = Named.distinct ((contributors reg s).flatMap fun t => Named.names t.propertyList)
  /-- Of several definitions of a property the last one counts. -/
  property : ∀ n, Named.get? c.propertyList n
    = (contributors reg s).reverse.findSome? (declared? · n)
  /-- The schema's own required names come first, then those that are new. -/
  required : c.requiredNames = s.requiredNames
    ++ (Named.distinct ((joined reg s).flatMap requiredNames)).filter
      fun n => !s.requiredNames.contains n
  type_of_variant : ∀ v, overlay? reg s = some v → v.facets.type.isSet →
    c.facets.type = v.facets.type
  /-- Of several types the first one counts. -/
  type_otherwise : (∀ v, overlay? reg s = some v → v.facets.type.isSet = false) →
    c.facets.type.get?
      = s.facets.type.get?.or ((mergedSchemas reg s).findSome? (·.facets.type.get?))
  field : ∀ {α : Type} (f : Field α),
    f.of c = if f.isOverlaid then overlaid reg s f.of else f.of s
  /-- Members of which the variant does not have any stay. -/
  extra_own : ∀ n, (∀ v, overlay? reg s = some v → n ∉ Named.names v.facets.extras) →
    Named.get? c.facets.extras n = Named.get? s.facets.extras n
  /-- A member of the variant replaces that of the schema. -/
  extra_of_variant : ∀ v n x, overlay? reg s = some v → isFree v n →
    Named.get? v.facets.extras.reverse n = some x → Named.get? c.facets.extras n = some x
  uncomposed : c.allOf.get? = none ∧ c.anyOf.get? = none ∧ c.oneOf.get? = none

theorem names_propertyList_compose {reg : Registry} {s : Schema} (h : s.hasComposition) :
    Named.names (compose reg s).propertyList
      = Named.distinct ((contributors reg s).flatMap fun t => Named.names t.propertyList) := by
  rw [propertyList_compose h, parts_eq_ofList, Named.names_ofList]
  exact congrArg Named.distinct List.map_flatMap

theorem get?_propertyList_compose {reg : Registry} {s : Schema} (h : s.hasComposition)
    (n : String) :
    Named.get? (compose reg s).propertyList n
      = (contributors reg s).reverse.findSome? (declared? · n) := by
  rw [propertyList_compose h, parts_eq_ofList, Named.get?_ofList, List.reverse_flatMap,
    Named.get?_flatMap]
  rfl

theorem uncomposed_compose {reg : Registry} {s : Schema} (h : s.hasComposition) :
    (compose reg s).allOf.get? = none ∧ (compose reg s).anyOf.get? = none ∧
      (compose reg s).oneOf.get? = none := by
  unfold compose
  rw [if_neg (by simp [h])]
  exact ⟨rfl, rfl, rfl⟩

theorem compose_of_uncomposed {reg : Registry} {s : Schema} (h : s.hasComposition = false) :
    compose reg s = s := by
  unfold compose
  rw [if_pos (by simp [h])]

/-- Collapsing makes of a composed schema what its contributors tell, and leaves every other
schema alone. -/
theorem compose_collapses (reg : Registry) (s : Schema) :
    if s.hasComposition then IsCollapsed reg s (compose reg s) else compose reg s = s := by
  by_cases h : s.hasComposition
  · rw [if_pos h]
    refine ⟨names_propertyList_compose h, get?_propertyList_compose h, ?_, ?_, ?_,
      field_compose h, ?_, ?_, uncomposed_compose h⟩
    · rw [requiredNames_compose h, addNames_eq]
    · intro v hv ht
      rw [type_compose h, composedType_of_variant hv ht]
    · intro hv
      rw [type_compose h, composedType_otherwise hv]
    · intro n hn
      rw [get?_extras_compose h]
      cases hv : overlay? reg s with
      | none => rfl
      | some v =>
          have hnone : Named.get? v.answers.reverse n = none := by
            rw [Named.get?_eq_none_iff]
            intro hmem
            refine hn v hv (names_answers_subset v ?_)
            unfold Named.names at hmem ⊢
            rwa [List.map_reverse, List.mem_reverse] at hmem
          rw [Option.bind_some, hnone, Option.none_or]
    · intro v n x hv hfree hx
      rw [get?_extras_compose h, hv, Option.bind_some, get?_answers hfree, hx, Option.some_or]
  · rw [if_neg h, compose_of_uncomposed (by simpa using h)]

/-- Whatever the variant writes is laid over the schema, but not a reference that the variant is
left with once its own was followed. -/
theorem reference_of_variant_left_out :
    let pet := plain { ref := .given "#/definitions/Animal", title := .given "Pet" }
    let s := mk {} .absent .absent .absent
      (.given [plain { ref := .given "#/definitions/Pet" }]) .absent .absent
    let reg : Registry := [("Pet", pet)]
    s.hasComposition ∧ overlay? reg s = some pet ∧ pet.facets.ref.isSet ∧
      Field.ref.of (compose reg s) ≠ Field.ref.of pet ∧
      ¬ ∀ {α : Type} (f : Field α), f.of (compose reg s) = overlaid reg s f.of := by
  intro pet s reg
  have htarget : overlay? reg s = some pet := rfl
  have href : Field.ref.of (compose reg s) ≠ Field.ref.of pet := by
    rw [field_compose rfl]
    intro h
    cases h
  refine ⟨rfl, htarget, rfl, href, fun hall => href ?_⟩
  rw [hall Field.ref, overlaid, htarget]
  rfl

end ApiTools.Schema
