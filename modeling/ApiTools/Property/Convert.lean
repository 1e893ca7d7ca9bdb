import ApiTools.Property.Basic
import ApiTools.Schema.Walk

set_option autoImplicit false

/-!
# From schemas to properties

A schema becomes a property of the kind that its type says; a type that is unknown or missing
gives a text. A reference that leads nowhere gives a text as well, and one that closes a cycle
an object that is taken as it is. The items of an array become a property in the same way.
-/

namespace ApiTools.Property

open Schema

/-- The way through a schema takes the same variant again and again. -/
structure Unending where
  /-- The notes that were made on the way before. -/
  notes : List Log.Note

/-- Adds the notes that were made before a way without an end. -/
def Unending.after (notes : List Log.Note) (u : Unending) : Unending := ⟨notes ++ u.notes⟩

/-- The first description that is not empty. -/
def describe (candidates : List (Option String)) : String :=
  (candidates.findSome? fun d => d.bind fun s => if s.isEmpty then none else some s).getD
    defaultDescription

/-- The description of a schema. -/
def descriptionOf (s : Schema) : Option String := s.facets.description.get?

def isArray (s : Schema) : Bool := s.primaryType == some "array"

/-- What a schema says about values of every kind. -/
def traitsOf (s : Schema) (description : Option String) : Traits :=
  { description := describe [descriptionOf s, description]
    default := s.facets.default.get?.getD .null
    nullable := if s.allowsNull then some true else none }

def numberFacets (f : Facets) : NumberFacets :=
  { format := f.format.get?
    enum := f.enum.get?
    minimum := f.minimum.get?
    maximum := f.maximum.get?
    exclusiveMinimum := f.exclusiveMinimum.get?
    exclusiveMaximum := f.exclusiveMaximum.get?
    multipleOf := f.multipleOf.get? }

def textFacets (f : Facets) : TextFacets :=
  { format := f.format.get?
    enum := f.enum.get?
    minLength := f.minLength.get?
    maxLength := f.maxLength.get?
    pattern := f.pattern.get? }

def arrayFacets (f : Facets) : ArrayFacets :=
  { minItems := f.minItems.get?
    maxItems := f.maxItems.get?
    uniqueItems := f.uniqueItems.get? }

/-- The property of a collapsed schema, given the one of its items. -/
def ofSchema (s : Schema) (description : Option String) (items : Option Property) : Property :=
  let traits := traitsOf s description
  let kind := match s.primaryType with
    | some k => k
    | none => if s.isObjectLike then "object" else ""
  if kind == "integer" then .simple traits (.integer (numberFacets s.facets))
  else if kind == "number" then .simple traits (.number (numberFacets s.facets))
  else if kind == "boolean" then .simple traits .boolean
  else if kind == "array" then .array traits (arrayFacets s.facets) items
  else if kind == "object" then .simple traits .object
  else .simple traits (.text (textFacets s.facets))

/-- A text that is described and nothing else. -/
def plainText (description : String) : Property :=
  .simple { description := description } (.text {})

/-- An object that is described and nothing else. -/
def opaqueObject (description : String) : Property :=
  .simple { description := description } .object

def convertFrom (reg : Registry) (g : Guard) (s : Schema) (description : Option String) :
    Except Unending (Log.Noted Property) :=
  match _hf : follow reg g s with
  | .dangling =>
    .ok (plainText (describe [descriptionOf s, description]),
      followNotes reg g s ++
        [Log.warning ("Dangling reference " ++ s.ref?.getD "None" ++ "; treating as string")])
  | .cycle => .ok (opaqueObject (describe [descriptionOf s, description]), followNotes reg g s)
  | .at t g' =>
    let composed := compose reg t
    let described := some (describe [descriptionOf s, description])
    if isArray composed then
      match _hi : itemStep reg g' t with
      | .none => .ok (ofSchema composed described none, followNotes reg g s)
      | .unending => .error ⟨followNotes reg g s⟩
      | .into i g'' => do
        let (item, notes) ← (convertFrom reg g'' i none).mapError (.after (followNotes reg g s))
        return (ofSchema composed described (some item), followNotes reg g s ++ notes)
    else .ok (ofSchema composed described none, followNotes reg g s)
termination_by extent reg g s
decreasing_by exact extent_follow _hf (extent_items _hi)

/-- Converts the schema of a parameter, which is never taken apart. A missing schema gives a
text. -/
def convert (reg : Registry) (s : Option Schema) (description : Option String) :
    Except Unending (Log.Noted Property) :=
  match s with
  | none => .ok (plainText (describe [description]), [])
  | some s => convertFrom reg {} s description

end ApiTools.Property
