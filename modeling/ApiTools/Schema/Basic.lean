import ApiTools.Value.Lenient

set_option autoImplicit false

/-!
# Schemas

A schema describes a value: its type, its facets, the properties of an object, the items of an
array, and the schemas that it is composed of. A facet that is written as null is kept apart
from one that is absent, since composition lets a written null override another value.
-/

namespace ApiTools

/-- What a schema says in one place: nothing, an explicit null, or something. -/
inductive Facet (α : Type) where
  | absent
  | null
  | given (a : α)

namespace Facet

variable {α β : Type}

/-- What is given, if anything. -/
def get? : Facet α → Option α
  | given a => some a
  | _ => none

/-- Whether the facet is written at all. -/
def isSet : Facet α → Bool
  | absent => false
  | _ => true

/-- The facet itself if it is written, otherwise another one. -/
def orElse (a b : Facet α) : Facet α :=
  match a with
  | absent => b
  | a => a

/-- The given value, or an explicit null. -/
def ofOption : Option α → Facet α
  | some a => given a
  | none => null

def map (f : α → β) : Facet α → Facet β
  | absent => absent
  | null => null
  | given a => given (f a)

end Facet

/-- The type of a schema: one name, or several names, of which `null` only admits null. -/
inductive TypeName where
  | one (name : String)
  | several (names : List String)
  deriving Repr, DecidableEq

/-- The type that counts: of several, the first one that is not `null`. -/
def TypeName.primary? : TypeName → Option String
  | .one name => some name
  | .several names => names.find? (· != "null")

/-- Everything that a schema says without reference to other schemas in it. -/
structure Facets where
  ref : Facet String := .absent
  type : Facet TypeName := .absent
  format : Facet String := .absent
  title : Facet String := .absent
  description : Facet String := .absent
  required : Facet (List String) := .absent
  enum : Facet (List Value) := .absent
  minimum : Facet Numeric := .absent
  maximum : Facet Numeric := .absent
  exclusiveMinimum : Facet Bound := .absent
  exclusiveMaximum : Facet Bound := .absent
  multipleOf : Facet Numeric := .absent
  minLength : Facet Int := .absent
  maxLength : Facet Int := .absent
  pattern : Facet String := .absent
  minItems : Facet Int := .absent
  maxItems : Facet Int := .absent
  uniqueItems : Facet Bool := .absent
  default : Facet Value := .absent
  exampleValue : Facet Value := .absent
  nullable : Facet Bool := .absent
  readOnly : Facet Bool := .absent
  writeOnly : Facet Bool := .absent
  deprecated : Facet Bool := .absent
  /-- The members with other names, in order. -/
  extras : List (String × Value) := []

inductive Schema where
  | mk (facets : Facets) (properties : Facet (List (String × Schema))) (items : Facet Schema)
    (allOf oneOf anyOf : Facet (List Schema)) (additional : Facet (Bool ⊕ Schema))

namespace Schema

def facets : Schema → Facets
  | mk f _ _ _ _ _ _ => f

def properties : Schema → Facet (List (String × Schema))
  | mk _ p _ _ _ _ _ => p

def items : Schema → Facet Schema
  | mk _ _ i _ _ _ _ => i

def allOf : Schema → Facet (List Schema)
  | mk _ _ _ a _ _ _ => a

def oneOf : Schema → Facet (List Schema)
  | mk _ _ _ _ o _ _ => o

def anyOf : Schema → Facet (List Schema)
  | mk _ _ _ _ _ a _ => a

def additional : Schema → Facet (Bool ⊕ Schema)
  | mk _ _ _ _ _ _ a => a

def plain (f : Facets) : Schema := mk f .absent .absent .absent .absent .absent .absent

/-- The properties, none if the schema does not list any. -/
def propertyList (s : Schema) : List (String × Schema) := s.properties.get?.getD []

def requiredNames (s : Schema) : List String := s.facets.required.get?.getD []

/-- The members of a composition, none if there is no such composition. -/
def members (l : Facet (List Schema)) : List Schema := l.get?.getD []

/-- The reference that the schema is, if it is one. -/
def ref? (s : Schema) : Option String := s.facets.ref.get?

def primaryType (s : Schema) : Option String := s.facets.type.get?.bind TypeName.primary?

/-- Whether null is a value of the schema: it says so, or `null` is among its types. -/
def allowsNull (s : Schema) : Bool :=
  s.facets.nullable.get?.getD false ||
    match s.facets.type with
    | .given (.several names) => names.contains "null"
    | _ => false

def hasComposition (s : Schema) : Bool :=
  !(members s.allOf).isEmpty || !(members s.oneOf).isEmpty || !(members s.anyOf).isEmpty

/-- Whether the schema describes an object: by its type, or without a type by its properties. -/
def isObjectLike (s : Schema) : Bool :=
  match s.primaryType with
  | some t => t == "object"
  | none => !s.propertyList.isEmpty

/-! ## Sizes of the parts -/

theorem sizeOf_of_mem_propertyList {s : Schema} {p : String × Schema}
    (h : p ∈ s.propertyList) : sizeOf p.2 < sizeOf s := by
  cases s with
  | mk f ps i a o y d =>
    cases ps with
    | absent => simp [propertyList, properties, Facet.get?] at h
    | null => simp [propertyList, properties, Facet.get?] at h
    | given l =>
      simp only [propertyList, properties, Facet.get?, Option.getD_some] at h
      have h₁ := List.sizeOf_lt_of_mem h
      have h₂ : sizeOf p.2 < sizeOf p := by
        cases p; simp only [Prod.mk.sizeOf_spec]; omega
      simp
      omega

theorem sizeOf_of_items {s t : Schema} (h : s.items = .given t) : sizeOf t < sizeOf s := by
  cases s with
  | mk f ps i a o y d =>
    simp only [items] at h
    subst h
    simp
    omega

theorem sizeOf_of_mem_allOf {s m : Schema} (h : m ∈ members s.allOf) : sizeOf m < sizeOf s := by
  cases s with
  | mk f ps i a o y d =>
    cases a with
    | absent => simp [members, allOf, Facet.get?] at h
    | null => simp [members, allOf, Facet.get?] at h
    | given l =>
      have h₁ := List.sizeOf_lt_of_mem (show m ∈ l from h)
      simp
      omega

theorem sizeOf_of_mem_oneOf {s m : Schema} (h : m ∈ members s.oneOf) : sizeOf m < sizeOf s := by
  cases s with
  | mk f ps i a o y d =>
    cases o with
    | absent => simp [members, oneOf, Facet.get?] at h
    | null => simp [members, oneOf, Facet.get?] at h
    | given l =>
      have h₁ := List.sizeOf_lt_of_mem (show m ∈ l from h)
      simp
      omega

theorem sizeOf_of_mem_anyOf {s m : Schema} (h : m ∈ members s.anyOf) : sizeOf m < sizeOf s := by
  cases s with
  | mk f ps i a o y d =>
    cases y with
    | absent => simp [members, anyOf, Facet.get?] at h
    | null => simp [members, anyOf, Facet.get?] at h
    | given l =>
      have h₁ := List.sizeOf_lt_of_mem (show m ∈ l from h)
      simp
      omega

end Schema

end ApiTools
