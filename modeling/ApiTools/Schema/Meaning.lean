import ApiTools.Schema.Writer

set_option autoImplicit false

/-!
# Names with a meaning

Some names mean something for every schema: the type that counts, whether null is admitted, or an
operation on schemas. Where a schema is asked for what it has under such a name, the meaning goes
before a member that happens to have the name.
-/

namespace ApiTools.Schema

/-- What a name means for a schema. -/
inductive Meaning where
  | fact (v : Value)
  /-- An operation on schemas, which cannot be written down. -/
  | operation

/-- The members that no key accounts for, as a value. -/
def extrasValue (s : Schema) : Value := Value.object s.facets.extras

/-- The keys that are written, as a value. -/
def writtenValue (s : Schema) : Value := .set (s.writtenKeys.map .str)

/-- The names that mean a fact about a schema. -/
def facts (s : Schema) : List (String × Value) :=
  [("primary_type", (s.primaryType.map Value.str).getD .null),
   ("allows_null", .bool s.allowsNull),
   ("has_composition", .bool s.hasComposition),
   ("is_object_like", .bool s.isObjectLike),
   ("model_extra", s.extrasValue),
   ("model_fields_set", s.writtenValue),
   ("__fields_set__", s.writtenValue),
   ("model_computed_fields", .map [])]

/-- The names that mean an operation. -/
def operations : List String :=
  ["to_dict", "copy", "dict", "json", "construct", "schema", "schema_json", "validate",
   "parse_obj", "parse_raw", "parse_file", "from_orm", "update_forward_refs",
   "model_config", "model_fields", "model_construct", "model_copy", "model_dump",
   "model_dump_json", "model_json_schema", "model_parametrized_name", "model_post_init",
   "model_rebuild", "model_validate", "model_validate_json", "model_validate_strings",
   "_abc_impl", "_calculate_keys", "_coerce_loose_shapes", "_copy_and_set_values", "_get_value",
   "_iter",
   "__class__", "__class_getitem__", "__copy__", "__deepcopy__", "__delattr__", "__dir__",
   "__eq__", "__format__", "__ge__", "__getattr__", "__getattribute__", "__getstate__", "__gt__",
   "__hash__", "__init__", "__init_subclass__", "__iter__", "__le__", "__lt__", "__ne__",
   "__new__", "__pretty__", "__reduce__", "__reduce_ex__", "__replace__", "__repr__",
   "__repr_args__", "__repr_name__", "__repr_recursion__", "__repr_str__", "__rich_repr__",
   "__setattr__", "__setstate__", "__sizeof__", "__str__", "__subclasshook__"]

/-- What a name means for a schema, if it means anything. -/
def meaning? (s : Schema) (name : String) : Option Meaning :=
  match Named.get? s.facts name with
  | some v => some (.fact v)
  | none => if operations.contains name then some .operation else none

/-- The members that no key accounts for, as the schema answers when it is asked for them by
name; a name that is also the one of a key is left to the key. Operations are left out. -/
def answers (s : Schema) : List (String × Value) :=
  s.facets.extras.filterMap fun (n, v) =>
    if keys.any (·.snake == n) then none
    else match s.meaning? n with
      | some (.fact w) => some (n, w)
      | some .operation => none
      | none => some (n, v)

/-- The members whose names mean an operation. -/
def operationNames (s : Schema) : List String :=
  (s.facets.extras.map (·.1)).filter operations.contains

end ApiTools.Schema
