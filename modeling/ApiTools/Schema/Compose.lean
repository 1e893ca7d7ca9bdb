import ApiTools.Schema.Meaning
import ApiTools.Schema.Registry

set_option autoImplicit false

/-!
# Composition

A schema that is composed of others is collapsed into one. Its own properties come first, then
those of all members of `allOf` and `anyOf`, a later one overriding an earlier one; the first
variant of `oneOf` is laid over the result with everything it writes. Every property remembers
the registry entry it came from, if it came through a reference.
-/

namespace ApiTools.Schema

/-! ## Members -/

/-- A member after its reference was followed, with the name that the reference had. -/
structure Member where
  origin : Option String
  schema : Schema

/-- The member that a schema in a composition stands for; none if its reference leads nowhere. -/
def member? (reg : Registry) (s : Schema) : Option Member :=
  (s.target? reg).map fun t => ⟨s.ref?.bind Reference.name?, t⟩

/-- The members of a list whose references lead somewhere. -/
def resolved (reg : Registry) (ss : List Schema) : List Member := ss.filterMap (member? reg)

/-- The members whose properties are merged. -/
def merged (reg : Registry) (s : Schema) : List Member :=
  resolved reg (members s.allOf) ++ resolved reg (members s.anyOf)

/-- The variant that is laid over the result: the first one, unless its reference leads nowhere. -/
def variant? (reg : Registry) (s : Schema) : Option Member :=
  (members s.oneOf).head?.bind (member? reg)

/-- The schemas that a composition consists of, in the order in which they count. -/
def compositionMembers (s : Schema) : List Schema :=
  members s.allOf ++ members s.anyOf ++ (members s.oneOf).take 1

/-- The registry names that the composition refers to. -/
def compositionNames (s : Schema) : List String :=
  (compositionMembers s).filterMap fun m => m.ref?.bind Reference.name?

/-! ## Properties -/

/-- A property of a composed schema, and the registry entry it came from. -/
structure Part where
  name : String
  origin : Option String
  schema : Schema

/-- Adds a part; a property that is there already keeps its place. -/
def insertPart (parts : List Part) (p : Part) : List Part :=
  match parts with
  | [] => [p]
  | q :: rest => if q.name == p.name then p :: rest else q :: insertPart rest p

def Member.parts (m : Member) : List Part :=
  m.schema.propertyList.map fun (n, s) => ⟨n, m.origin, s⟩

/-- The properties of a composed schema, each with the last definition that was given. -/
def parts (reg : Registry) (s : Schema) : List Part :=
  let own := (Member.mk none s).parts
  let others := (merged reg s ++ (variant? reg s).toList).flatMap Member.parts
  (own ++ others).foldl insertPart []

def addNames (names more : List String) : List String :=
  more.foldl (fun acc n => if acc.contains n then acc else acc ++ [n]) names

/-- The required names: the schema's own, then those of the members that are new. -/
def requiredParts (reg : Registry) (s : Schema) : List String :=
  (merged reg s ++ (variant? reg s).toList).foldl
    (fun names m => addNames names m.schema.requiredNames) s.requiredNames

/-- The type: the schema's own or the first one that a merged member has, unless the variant
writes one. -/
def composedType (reg : Registry) (s : Schema) : Facet TypeName :=
  let own := s.facets.type.get?
  let found := own.orElse fun _ => (merged reg s).findSome? (·.schema.facets.type.get?)
  match variant? reg s with
  | none => .ofOption found
  | some v => if v.schema.facets.type.isSet then v.schema.facets.type else .ofOption found

/-! ## The variant laid over the schema -/

/-- The facets that the variant writes replace those of the schema. -/
def overlay (f : Facets) (variant : Schema) : Facets :=
  let v := variant.facets
  { ref := f.ref
    type := f.type
    required := f.required
    format := v.format.orElse f.format
    title := v.title.orElse f.title
    description := v.description.orElse f.description
    enum := v.enum.orElse f.enum
    minimum := v.minimum.orElse f.minimum
    maximum := v.maximum.orElse f.maximum
    exclusiveMinimum := v.exclusiveMinimum.orElse f.exclusiveMinimum
    exclusiveMaximum := v.exclusiveMaximum.orElse f.exclusiveMaximum
    multipleOf := v.multipleOf.orElse f.multipleOf
    minLength := v.minLength.orElse f.minLength
    maxLength := v.maxLength.orElse f.maxLength
    pattern := v.pattern.orElse f.pattern
    minItems := v.minItems.orElse f.minItems
    maxItems := v.maxItems.orElse f.maxItems
    uniqueItems := v.uniqueItems.orElse f.uniqueItems
    default := v.default.orElse f.default
    exampleValue := v.exampleValue.orElse f.exampleValue
    nullable := v.nullable.orElse f.nullable
    readOnly := v.readOnly.orElse f.readOnly
    writeOnly := v.writeOnly.orElse f.writeOnly
    deprecated := v.deprecated.orElse f.deprecated
    extras := Named.insertAll f.extras variant.answers }

/-- A list, or null when it is empty. -/
def nonempty {α : Type} : List α → Facet (List α)
  | [] => .null
  | xs => .given xs

/-- Collapses a composition; a schema without one stays what it is. -/
def compose (reg : Registry) (s : Schema) : Schema :=
  if !s.hasComposition then s
  else
    let overlaid := match variant? reg s with
      | none => s.facets
      | some v => overlay s.facets v.schema
    let facets := { overlaid with
      type := composedType reg s
      required := nonempty (requiredParts reg s) }
    let properties := nonempty ((parts reg s).map fun p => (p.name, p.schema))
    let items := match variant? reg s with
      | none => s.items
      | some v => v.schema.items.orElse s.items
    let additional := match variant? reg s with
      | none => s.additional
      | some v => v.schema.additional.orElse s.additional
    mk facets properties items .null .null .null additional

/-- Whether a collapsed composition would hold an operation of its variant, so that it cannot be
written down. -/
def holdsOperation (reg : Registry) (s : Schema) : Bool :=
  s.hasComposition && (variant? reg s).any fun v => !v.schema.operationNames.isEmpty

/-! ## Notes -/

def memberNotes (reg : Registry) (m : Schema) : List Log.Note :=
  m.targetNotes reg ++
    if (m.target? reg).isNone then
      [Log.debug ("Skipping unresolvable composition member " ++ m.ref?.getD "None")]
    else []

def composeNotes (reg : Registry) (s : Schema) : List Log.Note :=
  if !s.hasComposition then []
  else
    (compositionMembers s).flatMap (memberNotes reg) ++
      if (variant? reg s).isSome then
        [Log.debug ("oneOf with " ++ toString (members s.oneOf).length
          ++ " variant(s): using the first")]
      else []

end ApiTools.Schema
