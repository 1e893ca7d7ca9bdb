import ApiTools.Schema.Reader
import ApiTools.Value.Serial

set_option autoImplicit false

/-!
# Writing schemas

A schema as a value: the keys in camel case and in a fixed order, then the members that no key
accounts for. What is absent or null is left out.
-/

namespace ApiTools.Schema

def entry {α : Type} (key : String) (f : Facet α) (write : α → Value) : List (String × Value) :=
  match f with
  | .given a => [(key, write a)]
  | _ => []

/-- A member for a value that is not null. -/
def valueEntry (key : String) (f : Facet Value) : List (String × Value) :=
  match f with
  | .given .null => []
  | .given v => [(key, v.serial)]
  | _ => []

def textsValue (ss : List String) : Value := .list (ss.map .str)

def TypeName.toValue : TypeName → Value
  | .one s => .str s
  | .several ss => textsValue ss

/-- The facets in front of the properties. -/
def leadingEntries (f : Facets) : List (String × Value) :=
  entry "$ref" f.ref .str ++ entry "type" f.type TypeName.toValue ++ entry "format" f.format .str
    ++ entry "title" f.title .str ++ entry "description" f.description .str

/-- The facets between the items and the compositions. -/
def middleEntries (f : Facets) : List (String × Value) :=
  entry "required" f.required textsValue
    ++ entry "enum" f.enum (fun vs => .list (Value.serialList vs))

/-- The facets behind the compositions. -/
def trailingEntries (f : Facets) : List (String × Value) :=
  entry "minimum" f.minimum Numeric.toValue ++ entry "maximum" f.maximum Numeric.toValue
    ++ entry "exclusiveMinimum" f.exclusiveMinimum Bound.toValue
    ++ entry "exclusiveMaximum" f.exclusiveMaximum Bound.toValue
    ++ entry "multipleOf" f.multipleOf Numeric.toValue
    ++ entry "minLength" f.minLength .int ++ entry "maxLength" f.maxLength .int
    ++ entry "pattern" f.pattern .str
    ++ entry "minItems" f.minItems .int ++ entry "maxItems" f.maxItems .int
    ++ entry "uniqueItems" f.uniqueItems .bool
    ++ valueEntry "default" f.default ++ valueEntry "example" f.exampleValue
    ++ entry "nullable" f.nullable .bool ++ entry "readOnly" f.readOnly .bool
    ++ entry "writeOnly" f.writeOnly .bool ++ entry "deprecated" f.deprecated .bool

/-- The members that no key accounts for, without those that are null. -/
def extraEntries (f : Facets) : List (String × Value) :=
  f.extras.filterMap fun (k, v) => if v.isNull then none else some (k, v.serial)

mutual

def toValue : Schema → Value
  | mk f properties items allOf oneOf anyOf additional =>
    Value.object (leadingEntries f ++ propertiesEntry properties ++ itemsEntry items
      ++ middleEntries f ++ compositionEntry "allOf" allOf ++ compositionEntry "oneOf" oneOf
      ++ compositionEntry "anyOf" anyOf ++ trailingEntries f ++ additionalEntry additional
      ++ extraEntries f)

def propertiesEntry : Facet (List (String × Schema)) → List (String × Value)
  | .given ps => [("properties", Value.object (writeEntries ps))]
  | _ => []

def itemsEntry : Facet Schema → List (String × Value)
  | .given s => [("items", toValue s)]
  | _ => []

def compositionEntry (key : String) : Facet (List Schema) → List (String × Value)
  | .given ss => [(key, .list (writeMembers ss))]
  | _ => []

def additionalEntry : Facet (Bool ⊕ Schema) → List (String × Value)
  | .given (.inl b) => [("additionalProperties", .bool b)]
  | .given (.inr s) => [("additionalProperties", toValue s)]
  | _ => []

def writeEntries : List (String × Schema) → List (String × Value)
  | [] => []
  | (n, s) :: rest => (n, toValue s) :: writeEntries rest

def writeMembers : List Schema → List Value
  | [] => []
  | s :: rest => toValue s :: writeMembers rest

end

/-! ## Levels -/

/-- The values that a schema holds as they are, as far as they are written. -/
def untyped (f : Facets) : List Value :=
  (f.default.get?.toList ++ f.exampleValue.get?.toList ++ f.extras.map (·.2)).filter (!·.isNull)
    ++ f.enum.get?.getD []

mutual

/-- How many levels a schema takes up: one more than the values and the schemas in it. -/
def levels : Schema → Nat
  | mk f properties items allOf oneOf anyOf additional =>
    1 + [Value.levelsOfList (untyped f), propertiesLevels properties, itemsLevels items,
      compositionLevels allOf, compositionLevels oneOf, compositionLevels anyOf,
      additionalLevels additional].foldr max 0

def propertiesLevels : Facet (List (String × Schema)) → Nat
  | .given ps => levelsOfEntries ps
  | _ => 0

def itemsLevels : Facet Schema → Nat
  | .given s => levels s
  | _ => 0

def compositionLevels : Facet (List Schema) → Nat
  | .given ss => levelsOfSchemas ss
  | _ => 0

def additionalLevels : Facet (Bool ⊕ Schema) → Nat
  | .given (.inr s) => levels s
  | _ => 0

def levelsOfEntries : List (String × Schema) → Nat
  | [] => 0
  | (_, s) :: rest => max (levels s) (levelsOfEntries rest)

def levelsOfSchemas : List Schema → Nat
  | [] => 0
  | s :: rest => max (levels s) (levelsOfSchemas rest)

end

/-- Serialises a schema, with a limit for levels. -/
def toDict (limit : Nat) (s : Schema) : Except Value.Flaw Value :=
  Value.serialised limit s.levels s.toValue

/-- The keys that are written, with underscores, and the names of the other members. -/
def writtenKeys (s : Schema) : List String :=
  let f := s.facets
  let known := [f.ref.isSet, f.type.isSet, f.format.isSet, f.title.isSet, f.description.isSet,
    s.properties.isSet, s.items.isSet, f.required.isSet, f.enum.isSet, s.allOf.isSet,
    s.oneOf.isSet, s.anyOf.isSet, f.minimum.isSet, f.maximum.isSet, f.exclusiveMinimum.isSet,
    f.exclusiveMaximum.isSet, f.multipleOf.isSet, f.minLength.isSet, f.maxLength.isSet,
    f.pattern.isSet, f.minItems.isSet, f.maxItems.isSet, f.uniqueItems.isSet, f.default.isSet,
    f.exampleValue.isSet, f.nullable.isSet, f.readOnly.isSet, f.writeOnly.isSet,
    f.deprecated.isSet, s.additional.isSet]
  ((keys.zip known).filterMap fun (k, set) => if set then some k.snake else none)
    ++ f.extras.map (·.1)

end ApiTools.Schema
