import ApiTools.Property.Basic
import ApiTools.Schema.Reader

set_option autoImplicit false

/-!
# Reading properties

A property is read from the mapping that it is written as. Its type tells which facets it has.
-/

namespace ApiTools.Property

open Record

def readTraits? (ms : Members) : Option Traits := do
  return {
    description := ← orElse? ms "description" "description" defaultDescription Value.readText?
    default := (Value.member? ms "default").getD .null
    nullable := ← optional? ms "nullable" "nullable" Value.readBool?
    isPathParam := ← optional? ms "isPathParam" "is_path_param" Value.readBool?
    isQueryParam := ← optional? ms "isQueryParam" "is_query_param" Value.readBool?
    isHeaderParam := ← optional? ms "isHeaderParam" "is_header_param" Value.readBool?
    isBodyParam := ← optional? ms "isBodyParam" "is_body_param" Value.readBool?
    isFlattened := ← optional? ms "isFlattened" "is_flattened" Value.readBool?
    fullPath := ← optional? ms "originalPath" "original_path" Value.readText?
    parentObject := ← optional? ms "parentObject" "parent_object" Value.readText? }

def readTextFacets? (ms : Members) : Option TextFacets := do
  return {
    format := ← optional? ms "format" "format" Value.readText?
    enum := ← optional? ms "enum" "enum" Value.readList?
    minLength := ← optional? ms "minLength" "min_length" Value.readInt?
    maxLength := ← optional? ms "maxLength" "max_length" Value.readInt?
    pattern := ← optional? ms "pattern" "pattern" Value.readText? }

def readNumberFacets? (ms : Members) : Option NumberFacets := do
  return {
    format := ← optional? ms "format" "format" Value.readText?
    enum := ← optional? ms "enum" "enum" Value.readList?
    minimum := ← optional? ms "minimum" "minimum" Value.readNumeric?
    maximum := ← optional? ms "maximum" "maximum" Value.readNumeric?
    exclusiveMinimum := ← optional? ms "exclusiveMinimum" "exclusive_minimum" Value.readBound?
    exclusiveMaximum := ← optional? ms "exclusiveMaximum" "exclusive_maximum" Value.readBound?
    multipleOf := ← optional? ms "multipleOf" "multiple_of" Value.readNumeric? }

def readArrayFacets? (ms : Members) : Option ArrayFacets := do
  return {
    minItems := ← optional? ms "minItems" "min_items" Value.readInt?
    maxItems := ← optional? ms "maxItems" "max_items" Value.readInt?
    uniqueItems := ← optional? ms "uniqueItems" "unique_items" Value.readBool? }

/-- Reads a kind without parts, given its name. -/
def readKind? (ms : Members) (name : String) : Option Kind :=
  if name == "string" then (readTextFacets? ms).map .text
  else if name == "integer" then (readNumberFacets? ms).map .integer
  else if name == "number" then (readNumberFacets? ms).map .number
  else if name == "boolean" then some .boolean
  else if name == "object" then some .object
  else none

theorem sizeOf_member? {ms : Members} {key : String} {v : Value}
    (h : Value.member? ms key = some v) : sizeOf v < sizeOf (Value.map ms) := by
  have := Schema.sizeOf_lookup h
  simp
  omega

def read? (v : Value) : Option Property :=
  match v with
  | .map ms =>
    let items : Option (Option Property) :=
      match _h : Value.member? ms "items" with
      | none | some .null => some none
      | some w => (read? w).map some
    match (Value.member? ms "type").bind Value.asText? with
    | none => none
    | some "array" => do return array (← readTraits? ms) (← readArrayFacets? ms) (← items)
    | some name => do return simple (← readTraits? ms) (← readKind? ms name)
  | _ => none
termination_by sizeOf v
decreasing_by exact sizeOf_member? _h

end ApiTools.Property
