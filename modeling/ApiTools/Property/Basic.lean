import ApiTools.Named
import ApiTools.Schema.Basic

set_option autoImplicit false

/-!
# Properties of a tool

A tool takes a flat list of named values. Each of them is described by a property: its kind with
the facets of that kind, where the value goes in the request, and, if it was taken out of a
nested body, where it belongs there.
-/

namespace ApiTools

/-- The part of the request that a value goes to. -/
inductive Location where
  | path
  | query
  | header
  | body
  deriving Repr, DecidableEq

def Location.name : Location → String
  | path => "path"
  | query => "query"
  | header => "header"
  | body => "body"

/-- The description of a value that nobody describes. -/
def defaultDescription : String := "Parameter value"

/-- What properties of all kinds have. -/
structure Traits where
  description : String := defaultDescription
  /-- The default value; null means that there is none. -/
  default : Value := .null
  nullable : Option Bool := none
  isPathParam : Option Bool := none
  isQueryParam : Option Bool := none
  isHeaderParam : Option Bool := none
  isBodyParam : Option Bool := none
  /-- Whether the value was taken out of a nested body. -/
  isFlattened : Option Bool := none
  /-- The place of the value in the body: property names with points between them. -/
  fullPath : Option String := none
  /-- The first name of that place. -/
  parentObject : Option String := none

structure TextFacets where
  format : Option String := none
  enum : Option (List Value) := none
  minLength : Option Int := none
  maxLength : Option Int := none
  pattern : Option String := none

structure NumberFacets where
  format : Option String := none
  enum : Option (List Value) := none
  minimum : Option Numeric := none
  maximum : Option Numeric := none
  exclusiveMinimum : Option Bound := none
  exclusiveMaximum : Option Bound := none
  multipleOf : Option Numeric := none

structure ArrayFacets where
  minItems : Option Int := none
  maxItems : Option Int := none
  uniqueItems : Option Bool := none

/-- The kinds of values that have no parts. An object is one of them: it is taken as it is. -/
inductive Kind where
  | text (f : TextFacets)
  | integer (f : NumberFacets)
  | number (f : NumberFacets)
  | boolean
  | object

/-- A property: a value without parts, or an array whose items may be described. -/
inductive Property where
  | simple (traits : Traits) (kind : Kind)
  | array (traits : Traits) (facets : ArrayFacets) (items : Option Property)

namespace Property

/-- What the property has in common with all others. -/
def traits : Property → Traits
  | simple t _ => t
  | array t _ _ => t

def withTraits (p : Property) (t : Traits) : Property :=
  match p with
  | simple _ k => simple t k
  | array _ f i => array t f i

def updateTraits (p : Property) (f : Traits → Traits) : Property := p.withTraits (f p.traits)

def kindName : Property → String
  | simple _ (.text _) => "string"
  | simple _ (.integer _) => "integer"
  | simple _ (.number _) => "number"
  | simple _ .boolean => "boolean"
  | simple _ .object => "object"
  | array _ _ _ => "array"

def withLocation (p : Property) (l : Location) : Property :=
  p.updateTraits fun t =>
    match l with
    | .path => { t with isPathParam := some true }
    | .query => { t with isQueryParam := some true }
    | .header => { t with isHeaderParam := some true }
    | .body => { t with isBodyParam := some true }

def locations (p : Property) : List Location :=
  let t := p.traits
  (if t.isPathParam == some true then [.path] else [])
    ++ (if t.isQueryParam == some true then [.query] else [])
    ++ (if t.isHeaderParam == some true then [.header] else [])
    ++ (if t.isBodyParam == some true then [.body] else [])

def location? (p : Property) : Option Location := p.locations.head?

/-- The place of a value in a nested body; a value of the body's first level has none. -/
def withPlace (p : Property) (path : List String) : Property :=
  match path with
  | first :: _ :: _ =>
    p.updateTraits fun t =>
      { t with
        fullPath := some (".".intercalate path)
        parentObject := some first
        isFlattened := some true }
  | _ => p

/-- The property without its place in a body. -/
def withoutPlace (p : Property) : Property :=
  p.updateTraits fun t =>
    { t with fullPath := none, parentObject := none, isFlattened := none }

end Property

/-- Named properties, in order. -/
abbrev Properties := List (String × Property)

end ApiTools
