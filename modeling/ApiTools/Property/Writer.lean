import ApiTools.Property.Basic
import ApiTools.Value.Serial

set_option autoImplicit false

/-!
# Writing properties

A property as a mapping: the traits first, then the kind and its facets. What is not set is
left out.
-/

namespace ApiTools.Property

/-- A member for something that is set. -/
def entry {α : Type} (key : String) (x : Option α) (write : α → Value) : List (String × Value) :=
  match x with
  | some a => [(key, write a)]
  | none => []

def traitEntries (t : Traits) : List (String × Value) :=
  [("description", .str t.description)]
    ++ (if t.default.isNull then [] else [("default", t.default.serial)])
    ++ entry "nullable" t.nullable .bool
    ++ entry "isPathParam" t.isPathParam .bool ++ entry "isQueryParam" t.isQueryParam .bool
    ++ entry "isHeaderParam" t.isHeaderParam .bool ++ entry "isBodyParam" t.isBodyParam .bool
    ++ entry "isFlattened" t.isFlattened .bool
    ++ entry "originalPath" t.fullPath .str ++ entry "parentObject" t.parentObject .str

def enumEntry (enum : Option (List Value)) : List (String × Value) :=
  entry "enum" enum fun vs => .list (Value.serialList vs)

def numberEntries (f : NumberFacets) : List (String × Value) :=
  entry "format" f.format .str ++ enumEntry f.enum
    ++ entry "minimum" f.minimum Numeric.toValue ++ entry "maximum" f.maximum Numeric.toValue
    ++ entry "exclusiveMinimum" f.exclusiveMinimum Bound.toValue
    ++ entry "exclusiveMaximum" f.exclusiveMaximum Bound.toValue
    ++ entry "multipleOf" f.multipleOf Numeric.toValue

def textEntries (f : TextFacets) : List (String × Value) :=
  entry "format" f.format .str ++ enumEntry f.enum
    ++ entry "minLength" f.minLength .int ++ entry "maxLength" f.maxLength .int
    ++ entry "pattern" f.pattern .str

def kindEntry (name : String) : List (String × Value) := [("type", .str name)]

def kindEntries : Kind → List (String × Value)
  | .text f => kindEntry "string" ++ textEntries f
  | .integer f => kindEntry "integer" ++ numberEntries f
  | .number f => kindEntry "number" ++ numberEntries f
  | .boolean => kindEntry "boolean"
  | .object => kindEntry "object"

def arrayEntries (f : ArrayFacets) : List (String × Value) :=
  entry "minItems" f.minItems .int ++ entry "maxItems" f.maxItems .int
    ++ entry "uniqueItems" f.uniqueItems .bool

def toValue : Property → Value
  | simple t k => Value.object (traitEntries t ++ kindEntries k)
  | array t f none => Value.object (traitEntries t ++ kindEntry "array" ++ arrayEntries f)
  | array t f (some p) =>
    Value.object (traitEntries t ++ kindEntry "array" ++ [("items", p.toValue)] ++ arrayEntries f)

def admitted : Kind → List Value
  | .text f => f.enum.getD []
  | .integer f | .number f => f.enum.getD []
  | .boolean | .object => []

def writtenDefault (t : Traits) : List Value := [t.default].filter (!·.isNull)

/-- How many levels a property takes up. Only arrays take up one of their own. -/
def levels : Property → Nat
  | simple t k => Value.levelsOfList (writtenDefault t ++ admitted k)
  | array t _ none => 1 + Value.levelsOfList (writtenDefault t)
  | array t _ (some p) => 1 + max (Value.levelsOfList (writtenDefault t)) p.levels

end ApiTools.Property
