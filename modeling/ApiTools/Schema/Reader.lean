import ApiTools.Named
import ApiTools.Schema.Basic
import ApiTools.Value.Record
import ApiTools.Value.Text

set_option autoImplicit false

/-!
# Reading schemas

A schema is read from a mapping. Members of a shape that documents often get wrong are passed
over; every other member that cannot be read makes the schema faulty, and its key is reported.
Each key has two spellings, in camel case and with underscores; the first one wins, and the
second is then kept like any unknown member. A schema that holds itself is faulty.
-/

namespace ApiTools.Schema

/-- The two spellings of a key. -/
structure Key where
  camel : String
  snake : String

/-- The keys of a schema, in order. -/
def keys : List Key :=
  [⟨"$ref", "ref"⟩, ⟨"type", "type"⟩, ⟨"format", "format"⟩, ⟨"title", "title"⟩,
   ⟨"description", "description"⟩, ⟨"properties", "properties"⟩, ⟨"items", "items"⟩,
   ⟨"required", "required"⟩, ⟨"enum", "enum"⟩, ⟨"allOf", "all_of"⟩, ⟨"oneOf", "one_of"⟩,
   ⟨"anyOf", "any_of"⟩, ⟨"minimum", "minimum"⟩, ⟨"maximum", "maximum"⟩,
   ⟨"exclusiveMinimum", "exclusive_minimum"⟩, ⟨"exclusiveMaximum", "exclusive_maximum"⟩,
   ⟨"multipleOf", "multiple_of"⟩, ⟨"minLength", "min_length"⟩, ⟨"maxLength", "max_length"⟩,
   ⟨"pattern", "pattern"⟩, ⟨"minItems", "min_items"⟩, ⟨"maxItems", "max_items"⟩,
   ⟨"uniqueItems", "unique_items"⟩, ⟨"default", "default"⟩, ⟨"example", "example"⟩,
   ⟨"nullable", "nullable"⟩, ⟨"readOnly", "read_only"⟩, ⟨"writeOnly", "write_only"⟩,
   ⟨"deprecated", "deprecated"⟩, ⟨"additionalProperties", "additional_properties"⟩]

/-- Whether a member has a shape that makes it count as absent: a list is expected and
something else is there, or properties that are no mapping. -/
def isMisshapen (m : Value × Value) : Bool :=
  match m with
  | (.str key, v) =>
    if key == "required" || key == "enum" then !v.isList
    else if key == "properties" then !v.isNull && !v.isMap
    else if key == "allOf" || key == "oneOf" || key == "anyOf" then !v.isNull && !v.isList
    else false
  | _ => false

def counted (ms : Members) : Members := ms.filter (!isMisshapen ·)

/-- A reading that collects the keys of faulty members. -/
abbrev Reading := StateM (List String)

def faulty {α : Type} (key : String) : Reading (Facet α) := do
  modify (· ++ [key])
  return .absent

def facet {α : Type} (ms : Members) (camel snake : String) (read : Value → Option α) :
    Reading (Facet α) :=
  match Record.find? ms camel snake with
  | none => return .absent
  | some (_, .null) => return .null
  | some (key, v) =>
    match read v with
    | some a => return .given a
    | none => faulty key

/-- A type name, or a list of them. -/
def typeName? (v : Value) : Option TypeName :=
  match v.readText? with
  | some s => some (.one s)
  | none => v.readTexts?.map .several

/-- The members that no key accounts for. -/
def extrasOf (ms : Members) : List (String × Value) :=
  ms.filterMap fun (k, v) =>
    match k with
    | .str s =>
      let known := keys.any fun key =>
        s == key.camel || (s == key.snake && (Value.member? ms key.camel).isNone)
      if known then none else some (s, v)
    | _ => none

def readFacets (ms : Members) : Reading Facets := do
  let _ ← (ms.filter fun (k, _) => k.asText?.isNone).mapM fun (k, _) =>
    (faulty k.plainText : Reading (Facet Unit))
  return {
    ref := ← facet ms "$ref" "ref" Value.readText?
    type := ← facet ms "type" "type" typeName?
    format := ← facet ms "format" "format" Value.readText?
    title := ← facet ms "title" "title" Value.readText?
    description := ← facet ms "description" "description" Value.readText?
    required := ← facet ms "required" "required" Value.readTexts?
    enum := ← facet ms "enum" "enum" Value.readList?
    minimum := ← facet ms "minimum" "minimum" Value.readNumeric?
    maximum := ← facet ms "maximum" "maximum" Value.readNumeric?
    exclusiveMinimum := ← facet ms "exclusiveMinimum" "exclusive_minimum" Value.readBound?
    exclusiveMaximum := ← facet ms "exclusiveMaximum" "exclusive_maximum" Value.readBound?
    multipleOf := ← facet ms "multipleOf" "multiple_of" Value.readNumeric?
    minLength := ← facet ms "minLength" "min_length" Value.readInt?
    maxLength := ← facet ms "maxLength" "max_length" Value.readInt?
    pattern := ← facet ms "pattern" "pattern" Value.readText?
    minItems := ← facet ms "minItems" "min_items" Value.readInt?
    maxItems := ← facet ms "maxItems" "max_items" Value.readInt?
    uniqueItems := ← facet ms "uniqueItems" "unique_items" Value.readBool?
    default := ← facet ms "default" "default" some
    exampleValue := ← facet ms "example" "example" some
    nullable := ← facet ms "nullable" "nullable" Value.readBool?
    readOnly := ← facet ms "readOnly" "read_only" Value.readBool?
    writeOnly := ← facet ms "writeOnly" "write_only" Value.readBool?
    deprecated := ← facet ms "deprecated" "deprecated" Value.readBool?
    extras := extrasOf ms }

/-! ## Sizes of the members that are read -/

theorem sizeOf_lookup {ms : Members} {key v : Value} (h : Value.lookup ms key = some v) :
    sizeOf v < sizeOf ms := by
  unfold Value.lookup at h
  obtain ⟨m, hm, rfl⟩ := Option.map_eq_some_iff.1 h
  have h₁ := List.sizeOf_lt_of_mem (List.mem_of_find?_eq_some hm)
  have h₂ : sizeOf m.2 < sizeOf m := by
    cases m; simp only [Prod.mk.sizeOf_spec]; omega
  omega

theorem sizeOf_filter_le {α : Type} [SizeOf α] (p : α → Bool) (xs : List α) :
    sizeOf (xs.filter p) ≤ sizeOf xs := by
  induction xs with
  | nil => simp
  | cons x xs ih => rw [List.filter_cons]; split <;> simp <;> omega

theorem sizeOf_find? {ms : Members} {camel snake key : String} {v : Value}
    (h : Record.find? (counted ms) camel snake = some (key, v)) :
    sizeOf v < sizeOf (Value.map ms) := by
  have h₁ : sizeOf v < sizeOf (counted ms) := by
    unfold Record.find? at h
    split at h
    · next w hw =>
      simp only [Option.some.injEq, Prod.mk.injEq] at h
      exact h.2 ▸ sizeOf_lookup hw
    · obtain ⟨w, hw, hv⟩ := Option.map_eq_some_iff.1 h
      simp only [Prod.mk.injEq] at hv
      exact hv.2 ▸ sizeOf_lookup hw
  have h₂ : sizeOf (counted ms) ≤ sizeOf ms := sizeOf_filter_le _ _
  simp
  omega

/-- The value that counts under a key in one of its spellings, which is a part of the mapping. -/
def child? (ms : Members) (camel snake : String) :
    Option (String × { v : Value // sizeOf v < sizeOf (Value.map ms) }) :=
  match h : Record.find? (counted ms) camel snake with
  | none => none
  | some (key, v) => some (key, ⟨v, sizeOf_find? h⟩)

/-- The facet that was read under a key, if anything is there; a key whose value could not be
read is reported. -/
def settle {α : Type} : Option (String × Option (Facet α)) → Reading (Facet α)
  | none => return .absent
  | some (_, some f) => return f
  | some (key, none) => faulty key

/-! ## Schemas -/

mutual

/-- Reads a schema inside the knots with the given names, or gives the keys of its faulty members.
A value that is no mapping is faulty as a whole, and so is a schema inside itself. -/
def readWithin (around : List Nat) (v : Value) : Except (List String) Schema :=
  match v with
  | .map ms =>
    let properties := (child? ms "properties" "properties").map
      fun (key, ⟨v, _h⟩) => (key, readProperties around v)
    let items := (child? ms "items" "items").map fun (key, ⟨v, _h⟩) => (key, readItems around v)
    let allOf := (child? ms "allOf" "all_of").map
      fun (key, ⟨v, _h⟩) => (key, readComposition around (key == "allOf") v)
    let oneOf := (child? ms "oneOf" "one_of").map
      fun (key, ⟨v, _h⟩) => (key, readComposition around (key == "oneOf") v)
    let anyOf := (child? ms "anyOf" "any_of").map
      fun (key, ⟨v, _h⟩) => (key, readComposition around (key == "anyOf") v)
    let additional := (child? ms "additionalProperties" "additional_properties").map
      fun (key, ⟨v, _h⟩) => (key, readAdditional around v)
    let reading : Reading Schema := do
      return mk (← readFacets (counted ms)) (← settle properties) (← settle items)
        (← settle allOf) (← settle oneOf) (← settle anyOf) (← settle additional)
    match reading.run [] with
    | (s, []) => .ok s
    | (_, faults) => .error faults
  | .knot name v =>
    if around.contains name then .error [""] else readWithin (name :: around) v
  | _ => .error [""]
termination_by (sizeOf v, 0)
decreasing_by all_goals (simp at *; omega)

/-- Reads the properties: those whose value is a mapping. -/
def readProperties (around : List Nat) (v : Value) : Option (Facet (List (String × Schema))) :=
  match v with
  | .map ps => (readEntries around ps).map fun entries => .given (Named.ofList entries)
  | .knot name v =>
    if around.contains name then none else readProperties (name :: around) v
  | _ => some .null
termination_by (sizeOf v, 1)

/-- Reads the items. Of a list of schemas the first one counts. -/
def readItems (around : List Nat) (v : Value) : Option (Facet Schema) :=
  match v with
  | .null => some .null
  | .map ms => (readWithin around (.map ms)).toOption.map .given
  | .list (x :: _) =>
    if x.isMap then (readWithin around x).toOption.map .given else some .null
  | .list [] => some .null
  | .knot name v => if around.contains name then none else readItems (name :: around) v
  | _ => none
termination_by (sizeOf v, 1)

def readComposition (around : List Nat) (loose : Bool) (v : Value) :
    Option (Facet (List Schema)) :=
  match v with
  | .null => some .null
  | .list xs => (readMembers around loose xs).map .given
  | .knot name v =>
    if around.contains name then none else readComposition (name :: around) loose v
  | _ => none
termination_by (sizeOf v, 1)

/-- Reads what is said about additional properties: a flag or a schema. -/
def readAdditional (around : List Nat) (v : Value) : Option (Facet (Bool ⊕ Schema)) :=
  match v with
  | .null => some .null
  | .map ms => (readWithin around (.map ms)).toOption.map fun s => .given (.inr s)
  | .knot name v => if around.contains name then none else readAdditional (name :: around) v
  | v => v.readBool?.map fun b => .given (.inl b)
termination_by (sizeOf v, 1)

/-- Reads the properties whose value is a mapping; the others are passed over. -/
def readEntries (around : List Nat) (ps : Members) : Option (List (String × Schema)) :=
  match ps with
  | [] => some []
  | (k, v) :: rest =>
    if v.isMap then do
      let s ← (readWithin around v).toOption
      return (k.plainText, s) :: (← readEntries around rest)
    else readEntries around rest
termination_by (sizeOf ps, 1)

/-- Reads the members of a composition. When `loose`, members that are no mappings are passed
over, otherwise they are faults. -/
def readMembers (around : List Nat) (loose : Bool) (xs : List Value) : Option (List Schema) :=
  match xs with
  | [] => some []
  | x :: rest =>
    if x.isMap then do
      let s ← (readWithin around x).toOption
      return s :: (← readMembers around loose rest)
    else if loose then readMembers around loose rest
    else none
termination_by (sizeOf xs, 1)

end

/-- Reads a schema, or gives the keys of its faulty members. -/
def read (v : Value) : Except (List String) Schema := readWithin [] v

end ApiTools.Schema
