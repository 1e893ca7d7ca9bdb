import ApiTools.Proofs.Schema.Json
import ApiTools.Proofs.Value.Serial
import ApiTools.Schema.Writer

set_option autoImplicit false

/-!
# Schemas are read back as they are written

A schema is written with its keys in camel case, and what is null is left out. So what is written
of a schema is not always read as the schema again, but it is read as one of which the same is
written and which takes up as many levels (`form`). This needs to be known of the schema
(`Settled`): its default, its example, the values that it admits and its unknown members are values
of JSON, and what counts as unknown has a key that is none of a schema.
-/

namespace ApiTools

/-- A facet that is not written if it is null. -/
def Facet.withoutNull {α : Type} : Facet α → Facet α
  | .given a => .given a
  | _ => .absent

theorem Facet.get?_withoutNull {α : Type} (x : Facet α) : x.withoutNull.get? = x.get? := by
  cases x <;> rfl

/-- Facets of which none is null. -/
def Facets.withoutNulls (f : Facets) : Facets where
  ref := f.ref.withoutNull
  type := f.type.withoutNull
  format := f.format.withoutNull
  title := f.title.withoutNull
  description := f.description.withoutNull
  required := f.required.withoutNull
  enum := f.enum.withoutNull
  minimum := f.minimum.withoutNull
  maximum := f.maximum.withoutNull
  exclusiveMinimum := f.exclusiveMinimum.withoutNull
  exclusiveMaximum := f.exclusiveMaximum.withoutNull
  multipleOf := f.multipleOf.withoutNull
  minLength := f.minLength.withoutNull
  maxLength := f.maxLength.withoutNull
  pattern := f.pattern.withoutNull
  minItems := f.minItems.withoutNull
  maxItems := f.maxItems.withoutNull
  uniqueItems := f.uniqueItems.withoutNull
  default := f.default.withoutNull
  exampleValue := f.exampleValue.withoutNull
  nullable := f.nullable.withoutNull
  readOnly := f.readOnly.withoutNull
  writeOnly := f.writeOnly.withoutNull
  deprecated := f.deprecated.withoutNull
  extras := f.extras.filter (!·.2.isNull)

namespace Schema

open Record

/-! ## What is written -/

theorem entry_eq {α : Type} (key : String) (x : Facet α) (write : α → Value) :
    entry key x write = written [(key, x.get?.map write)] := by
  cases x <;> rfl

theorem valueEntry_eq (key : String) (x : Facet Value) :
    valueEntry key x = written [(key, (x.get?.filter (!·.isNull)).map Value.serial)] := by
  cases x with
  | given v => cases v <;> rfl
  | _ => rfl

/-- What is said about additional properties as a value. -/
def additionalValue : Bool ⊕ Schema → Value
  | .inl b => .bool b
  | .inr s => s.toValue

/-- The fields of a schema: its keys, each with what is written of it. -/
def fields (s : Schema) : Fields :=
  [("$ref", s.facets.ref.get?.map .str),
   ("type", s.facets.type.get?.map TypeName.toValue),
   ("format", s.facets.format.get?.map .str),
   ("title", s.facets.title.get?.map .str),
   ("description", s.facets.description.get?.map .str),
   ("properties", s.properties.get?.map fun ps => Value.object (writeEntries ps)),
   ("items", s.items.get?.map toValue),
   ("required", s.facets.required.get?.map textsValue),
   ("enum", s.facets.enum.get?.map writeList),
   ("allOf", s.allOf.get?.map fun ss => .list (writeMembers ss)),
   ("oneOf", s.oneOf.get?.map fun ss => .list (writeMembers ss)),
   ("anyOf", s.anyOf.get?.map fun ss => .list (writeMembers ss)),
   ("minimum", s.facets.minimum.get?.map Numeric.toValue),
   ("maximum", s.facets.maximum.get?.map Numeric.toValue),
   ("exclusiveMinimum", s.facets.exclusiveMinimum.get?.map Bound.toValue),
   ("exclusiveMaximum", s.facets.exclusiveMaximum.get?.map Bound.toValue),
   ("multipleOf", s.facets.multipleOf.get?.map Numeric.toValue),
   ("minLength", s.facets.minLength.get?.map .int),
   ("maxLength", s.facets.maxLength.get?.map .int),
   ("pattern", s.facets.pattern.get?.map .str),
   ("minItems", s.facets.minItems.get?.map .int),
   ("maxItems", s.facets.maxItems.get?.map .int),
   ("uniqueItems", s.facets.uniqueItems.get?.map .bool),
   ("default", (s.facets.default.get?.filter (!·.isNull)).map Value.serial),
   ("example", (s.facets.exampleValue.get?.filter (!·.isNull)).map Value.serial),
   ("nullable", s.facets.nullable.get?.map .bool),
   ("readOnly", s.facets.readOnly.get?.map .bool),
   ("writeOnly", s.facets.writeOnly.get?.map .bool),
   ("deprecated", s.facets.deprecated.get?.map .bool),
   ("additionalProperties", s.additional.get?.map additionalValue)]

theorem names_fields (s : Schema) : Named.names (fields s) = keys.map Key.camel := rfl

theorem propertiesEntry_eq (x : Facet (List (String × Schema))) :
    propertiesEntry x
      = written [("properties", x.get?.map fun ps => Value.object (writeEntries ps))] := by
  cases x <;> rfl

theorem itemsEntry_eq (x : Facet Schema) :
    itemsEntry x = written [("items", x.get?.map toValue)] := by
  cases x <;> rfl

theorem compositionEntry_eq (key : String) (x : Facet (List Schema)) :
    compositionEntry key x = written [(key, x.get?.map fun ss => .list (writeMembers ss))] := by
  cases x <;> rfl

theorem additionalEntry_eq (x : Facet (Bool ⊕ Schema)) :
    additionalEntry x = written [("additionalProperties", x.get?.map additionalValue)] := by
  rcases x with _ | _ | _ | _ <;> rfl

theorem toValue_eq (s : Schema) :
    s.toValue = .map (Value.keyed (written (fields s) ++ extraEntries s.facets)) := by
  obtain ⟨f, properties, items, allOf, oneOf, anyOf, additional⟩ := s
  rw [toValue, propertiesEntry_eq, itemsEntry_eq, compositionEntry_eq, compositionEntry_eq,
    compositionEntry_eq, additionalEntry_eq]
  unfold leadingEntries middleEntries trailingEntries
  simp only [entry_eq, valueEntry_eq]
  simp only [← written_append, List.cons_append, List.nil_append]
  rfl

/-! ## Levels -/

theorem propertiesLevels_eq (x : Facet (List (String × Schema))) :
    propertiesLevels x = (x.get?.map levelsOfEntries).getD 0 := by
  cases x <;> rfl

theorem itemsLevels_eq (x : Facet Schema) : itemsLevels x = (x.get?.map levels).getD 0 := by
  cases x <;> rfl

theorem compositionLevels_eq (x : Facet (List Schema)) :
    compositionLevels x = (x.get?.map levelsOfSchemas).getD 0 := by
  cases x <;> rfl

/-- The levels of what is said about additional properties. -/
def levelsOfAdditional : Bool ⊕ Schema → Nat
  | .inl _ => 0
  | .inr s => s.levels

theorem additionalLevels_eq (x : Facet (Bool ⊕ Schema)) :
    additionalLevels x = (x.get?.map levelsOfAdditional).getD 0 := by
  rcases x with _ | _ | _ | _ <;> rfl

theorem levels_eq (s : Schema) :
    s.levels = 1 + [Value.levelsOfList (untyped s.facets), propertiesLevels s.properties,
      itemsLevels s.items, compositionLevels s.allOf, compositionLevels s.oneOf,
      compositionLevels s.anyOf, additionalLevels s.additional].foldr max 0 := by
  obtain ⟨f, properties, items, allOf, oneOf, anyOf, additional⟩ := s
  rw [levels]
  rfl

theorem untyped_withoutNulls (f : Facets) : untyped f.withoutNulls = untyped f := by
  unfold untyped
  simp only [Facets.withoutNulls, Facet.get?_withoutNull, List.filter_append, List.filter_map,
    List.filter_filter, Function.comp_def, Bool.and_self]

/-- What serialising a schema depends on: what is written of it, and the levels that it takes up. -/
def form (s : Schema) : Value × Nat := (s.toValue, s.levels)

def formOfEntries (ps : List (String × Schema)) : List (String × Value) × Nat :=
  (writeEntries ps, levelsOfEntries ps)

def formOfSchemas (ss : List Schema) : List Value × Nat := (writeMembers ss, levelsOfSchemas ss)

def formOfAdditional (x : Bool ⊕ Schema) : Value × Nat := (additionalValue x, levelsOfAdditional x)

/-- The keys of a schema in both spellings. -/
def keyNames : List String := keys.flatMap fun k => [k.camel, k.snake]

end Schema

/-! ## Settled schemas -/

/-- What holds of facets that are read from JSON: the values that they hold as they are, unknown
members included, are values of JSON, and what counts as unknown has a key of its own that is none
of a schema. -/
structure Facets.Settled (f : Facets) : Prop where
  default : ∀ v, f.default = .given v → v ≠ .null ∧ v.isJson = true
  exampleValue : ∀ v, f.exampleValue = .given v → v ≠ .null ∧ v.isJson = true
  enum : ∀ vs, f.enum = .given vs → ∀ v ∈ vs, v.isJson = true
  extras : ∀ e ∈ f.extras, e.2.isJson = true ∧ e.1 ∉ Schema.keyNames
  nodup : (Named.names f.extras).Nodup

namespace Schema

/-- What holds of schemas that are read from JSON. -/
inductive Settled : Schema → Prop
  | intro {s : Schema} (hf : s.facets.Settled) (hp : (Named.names s.propertyList).Nodup)
      (hi : ∀ t, s.Holds t → Settled t) : Settled s

open Record

/-! ## Reading facets -/

section Facets

variable {α : Type} {ms : Members} {camel snake : String}

theorem facet_eq {read : Value → Option α} {x : Facet α} {write : α → Value}
    (hr : ∀ a, x = .given a → Reads read (write a) a)
    (hc : Value.member? ms camel = x.get?.map write)
    (hs : snake = camel ∨ Value.member? ms snake = none) :
    facet ms camel snake read = pure x.withoutNull := by
  unfold facet
  cases x with
  | given a =>
      obtain ⟨hnull, ha⟩ := hr a rfl
      rw [find?_of_some hc]
      split
      · next h => cases h
      · next h =>
        injection h with h
        injection h with _ h
        exact absurd h hnull
      · next h =>
        injection h with h
        injection h with _ h
        rw [← h, ha]
        rfl
  | _ =>
      rw [find?_of_none hc hs]
      rfl

theorem facet_of_reads {read : Value → Option α} {x : Facet α} {write : α → Value}
    (hr : ∀ a, Reads read (write a) a) (hc : Value.member? ms camel = x.get?.map write)
    (hs : snake = camel ∨ Value.member? ms snake = none) :
    facet ms camel snake read = pure x.withoutNull :=
  facet_eq (fun a _ => hr a) hc hs

theorem facet_value {x : Facet Value} (hx : ∀ v, x = .given v → v ≠ .null ∧ v.isJson = true)
    (hc : Value.member? ms camel = (x.get?.filter (!·.isNull)).map Value.serial)
    (hs : snake = camel ∨ Value.member? ms snake = none) :
    facet ms camel snake some = pure x.withoutNull := by
  have hid : (x.get?.filter (!·.isNull)).map Value.serial = x.get?.map id := by
    cases x with
    | given v =>
        obtain ⟨hnull, hjson⟩ := hx v rfl
        have hkeep : (!v.isNull) = true := by
          cases v with
          | null => exact absurd rfl hnull
          | _ => rfl
        show ((some v).filter (!·.isNull)).map Value.serial = some v
        rw [Option.filter_some, if_pos hkeep, Option.map_some, Value.serial_of_isJson hjson]
    | _ => rfl
  exact facet_eq (fun v hv => ⟨(hx v hv).1, rfl⟩) (hc.trans hid) hs

theorem reads_type (t : TypeName) : Reads typeName? (TypeName.toValue t) t := by
  cases t with
  | one s => exact ⟨by simp [TypeName.toValue], rfl⟩
  | several ss =>
      refine ⟨by simp [TypeName.toValue, textsValue], ?_⟩
      show (Value.readTexts? (textsValue ss)).map TypeName.several = _
      rw [textsValue, Value.readTexts?_list]
      rfl

theorem reads_texts (ss : List String) : Reads Value.readTexts? (textsValue ss) ss :=
  ⟨by simp [textsValue], Value.readTexts?_list ss⟩

end Facets

/-- The facets are read back from fields that are shown. -/
theorem readFacets_of_shows {ms : Members} {s : Schema} (hf : s.facets.Settled)
    (h : Shows ms keyNames (fields s)) (htext : ms.filter (fun (k, _) => k.asText?.isNone) = [])
    (hextras : extrasOf ms = s.facets.withoutNulls.extras) :
    readFacets ms = pure s.facets.withoutNulls := by
  unfold readFacets
  rw [htext, hextras, List.mapM_nil,
    facet_of_reads (x := s.facets.ref) reads_text (h "$ref" (by decide))
      (.inr (h "ref" (by decide))),
    facet_of_reads (x := s.facets.type) reads_type (h "type" (by decide)) (.inl rfl),
    facet_of_reads (x := s.facets.format) reads_text (h "format" (by decide)) (.inl rfl),
    facet_of_reads (x := s.facets.title) reads_text (h "title" (by decide)) (.inl rfl),
    facet_of_reads (x := s.facets.description) reads_text (h "description" (by decide)) (.inl rfl),
    facet_of_reads (x := s.facets.required) reads_texts (h "required" (by decide)) (.inl rfl),
    facet_eq (x := s.facets.enum) (fun vs hvs => reads_list (hf.enum vs hvs))
      (h "enum" (by decide)) (.inl rfl),
    facet_of_reads (x := s.facets.minimum) reads_numeric (h "minimum" (by decide)) (.inl rfl),
    facet_of_reads (x := s.facets.maximum) reads_numeric (h "maximum" (by decide)) (.inl rfl),
    facet_of_reads (x := s.facets.exclusiveMinimum) reads_bound (h "exclusiveMinimum" (by decide))
      (.inr (h "exclusive_minimum" (by decide))),
    facet_of_reads (x := s.facets.exclusiveMaximum) reads_bound (h "exclusiveMaximum" (by decide))
      (.inr (h "exclusive_maximum" (by decide))),
    facet_of_reads (x := s.facets.multipleOf) reads_numeric (h "multipleOf" (by decide))
      (.inr (h "multiple_of" (by decide))),
    facet_of_reads (x := s.facets.minLength) reads_int (h "minLength" (by decide))
      (.inr (h "min_length" (by decide))),
    facet_of_reads (x := s.facets.maxLength) reads_int (h "maxLength" (by decide))
      (.inr (h "max_length" (by decide))),
    facet_of_reads (x := s.facets.pattern) reads_text (h "pattern" (by decide)) (.inl rfl),
    facet_of_reads (x := s.facets.minItems) reads_int (h "minItems" (by decide))
      (.inr (h "min_items" (by decide))),
    facet_of_reads (x := s.facets.maxItems) reads_int (h "maxItems" (by decide))
      (.inr (h "max_items" (by decide))),
    facet_of_reads (x := s.facets.uniqueItems) reads_bool (h "uniqueItems" (by decide))
      (.inr (h "unique_items" (by decide))),
    facet_value (x := s.facets.default) hf.default (h "default" (by decide)) (.inl rfl),
    facet_value (x := s.facets.exampleValue) hf.exampleValue (h "example" (by decide)) (.inl rfl),
    facet_of_reads (x := s.facets.nullable) reads_bool (h "nullable" (by decide)) (.inl rfl),
    facet_of_reads (x := s.facets.readOnly) reads_bool (h "readOnly" (by decide))
      (.inr (h "read_only" (by decide))),
    facet_of_reads (x := s.facets.writeOnly) reads_bool (h "writeOnly" (by decide))
      (.inr (h "write_only" (by decide))),
    facet_of_reads (x := s.facets.deprecated) reads_bool (h "deprecated" (by decide)) (.inl rfl)]
  simp only [pure_bind]
  rfl

/-! ## Unknown members -/

/-- Whether a name is that of a member that a key accounts for. -/
def isKnown (ms : Members) (name : String) : Bool :=
  keys.any fun k => name == k.camel || (name == k.snake && (Value.member? ms k.camel).isNone)

theorem extrasOf_keyed (es : List (String × Value)) :
    extrasOf (Value.keyed es) = es.filter fun e => !isKnown (Value.keyed es) e.1 := by
  have hguard : ∀ e : String × Value,
      (if isKnown (Value.keyed es) e.1 then none else some (e.1, e.2))
        = Option.guard (fun e => !isKnown (Value.keyed es) e.1) e := by
    intro e
    unfold Option.guard
    by_cases h : isKnown (Value.keyed es) e.1 = true <;> simp [h]
  rw [← List.filterMap_eq_filter, ← funext hguard]
  show ((es.map fun e => (Value.str e.1, e.2)).filterMap _) = _
  rw [List.filterMap_map]
  rfl

theorem camel_mem_keyNames {k : Key} (h : k ∈ keys) : k.camel ∈ keyNames :=
  List.mem_flatMap.2 ⟨k, h, List.mem_cons_self⟩

theorem snake_mem_keyNames {k : Key} (h : k ∈ keys) : k.snake ∈ keyNames :=
  List.mem_flatMap.2 ⟨k, h, List.mem_cons_of_mem _ List.mem_cons_self⟩

theorem isKnown_of_mem {name : String} (h : name ∈ keys.map Key.camel) (ms : Members) :
    isKnown ms name = true := by
  obtain ⟨k, hk, rfl⟩ := List.mem_map.1 h
  exact List.any_eq_true.2 ⟨k, hk, by simp⟩

theorem isKnown_of_not_mem {name : String} (h : name ∉ keyNames) (ms : Members) :
    isKnown ms name = false := by
  refine List.any_eq_false.2 fun k hk => ?_
  have hcamel : name ≠ k.camel := fun heq => h (heq ▸ camel_mem_keyNames hk)
  have hsnake : name ≠ k.snake := fun heq => h (heq ▸ snake_mem_keyNames hk)
  simp [hcamel, hsnake]

/-! ## Written members -/

/-- The members that are written of a schema. -/
def writtenMembers (s : Schema) : Members :=
  Value.keyed (written (fields s) ++ extraEntries s.facets)

theorem toValue_eq_map (s : Schema) : s.toValue = .map (writtenMembers s) := toValue_eq s

theorem isMap_toValue (s : Schema) : s.toValue.isMap = true := by
  rw [toValue_eq_map]
  rfl

theorem nodup_fields (s : Schema) : (Named.names (fields s)).Nodup := by
  rw [names_fields]
  decide

variable {s : Schema}

/-- Unknown members are written as they are, without those that are null. -/
theorem extraEntries_of_settled {f : Facets} (hf : f.Settled) :
    extraEntries f = f.withoutNulls.extras := by
  show _ = f.extras.filter (!·.2.isNull)
  rw [← List.filterMap_eq_filter]
  refine List.filterMap_congr fun e he => ?_
  obtain ⟨k, v⟩ := e
  have hjson : v.isJson = true := (hf.extras _ he).1
  unfold Option.guard
  dsimp only
  rw [Value.serial_of_isJson hjson]
  by_cases h : v.isNull = true <;> simp [h]

theorem extraEntries_withoutNulls (f : Facets) :
    extraEntries f.withoutNulls = extraEntries f := by
  show (f.extras.filter (!·.2.isNull)).filterMap _ = _
  rw [List.filterMap_filter]
  refine List.filterMap_congr fun e _ => ?_
  obtain ⟨k, v⟩ := e
  by_cases h : v.isNull = true <;> simp [h]

theorem not_mem_keyNames_of_extraEntries (hf : s.facets.Settled) {name : String}
    (h : name ∈ Named.names (extraEntries s.facets)) : name ∉ keyNames := by
  rw [extraEntries_of_settled hf] at h
  obtain ⟨e, he, rfl⟩ := List.mem_map.1 h
  exact (hf.extras e (List.mem_filter.1 he).1).2

theorem shows_writtenMembers (hf : s.facets.Settled) :
    Shows (writtenMembers s) keyNames (fields s) := by
  intro key hkey
  have hextra : key ∉ Named.names (extraEntries s.facets) := fun h =>
    not_mem_keyNames_of_extraEntries hf h hkey
  rw [writtenMembers, Value.member?_keyed, Named.get?_append, get?_written (nodup_fields s),
    (Named.get?_eq_none_iff _ _).2 hextra, Option.or_none]

theorem extrasOf_writtenMembers (hf : s.facets.Settled) :
    extrasOf (writtenMembers s) = s.facets.withoutNulls.extras := by
  rw [writtenMembers, extrasOf_keyed, List.filter_append, ← extraEntries_of_settled hf]
  have hfields : ∀ e ∈ written (fields s),
      ¬ (!isKnown (Value.keyed (written (fields s) ++ extraEntries s.facets)) e.1) = true := by
    intro e he
    have hname : e.1 ∈ Named.names (fields s) :=
      (names_written_sublist _).subset (List.mem_map_of_mem he)
    rw [names_fields] at hname
    simp [isKnown_of_mem hname]
  have hextras : ∀ e ∈ extraEntries s.facets,
      (!isKnown (Value.keyed (written (fields s) ++ extraEntries s.facets)) e.1) = true := by
    intro e he
    have hname := not_mem_keyNames_of_extraEntries hf (List.mem_map_of_mem he)
    simp [isKnown_of_not_mem hname]
  rw [List.filter_eq_nil_iff.2 hfields, List.filter_eq_self.2 hextras, List.nil_append]

/-- The keys of members that count only if they are lists. -/
def listKeys : List String := ["required", "enum", "allOf", "oneOf", "anyOf"]

theorem of_isMisshapen {key : String} {v : Value} (h : isMisshapen (.str key, v) = true) :
    (key ∈ listKeys ∧ v.isList = false) ∨ (key = "properties" ∧ v.isMap = false) := by
  unfold isMisshapen at h
  dsimp only at h
  split at h
  · next hkey =>
    rw [Bool.or_eq_true, beq_iff_eq, beq_iff_eq] at hkey
    refine .inl ⟨?_, by simpa using h⟩
    rcases hkey with rfl | rfl <;> decide
  · split at h
    · next hkey =>
      rw [Bool.and_eq_true] at h
      exact .inr ⟨beq_iff_eq.1 hkey, by simpa using h.2⟩
    · split at h
      · next hkey =>
        rw [Bool.or_eq_true, Bool.or_eq_true, beq_iff_eq, beq_iff_eq, beq_iff_eq] at hkey
        rw [Bool.and_eq_true] at h
        refine .inl ⟨?_, by simpa using h.2⟩
        rcases hkey with (rfl | rfl) | rfl <;> decide
      · cases h

/-- Nothing that is written is passed over. -/
theorem counted_writtenMembers (hf : s.facets.Settled) :
    counted (writtenMembers s) = writtenMembers s := by
  refine List.filter_eq_self.2 fun m hm => ?_
  obtain ⟨e, he, rfl⟩ := List.mem_map.1 hm
  obtain ⟨key, v⟩ := e
  rw [Bool.not_eq_true', ← Bool.not_eq_true]
  intro hmisshapen
  have hkey : key ∈ keyNames := by
    rcases of_isMisshapen hmisshapen with ⟨hkey, -⟩ | ⟨rfl, -⟩
    · exact (by decide : ∀ key ∈ listKeys, key ∈ keyNames) key hkey
    · decide
  -- the member is what is written of a field
  have hget : (Named.get? (fields s) key).join = some v := by
    rcases List.mem_append.1 he with he | he
    · rw [← get?_written (nodup_fields s)]
      exact Named.get?_of_mem ((nodup_fields s).sublist (names_written_sublist _)) he
    · exact absurd hkey (not_mem_keyNames_of_extraEntries hf (List.mem_map_of_mem he))
  rcases of_isMisshapen hmisshapen with ⟨hkey, hshape⟩ | ⟨rfl, hshape⟩
  · have hlist : ∃ xs, v = .list xs := by
      simp only [listKeys, List.mem_cons, List.not_mem_nil, or_false] at hkey
      rcases hkey with rfl | rfl | rfl | rfl | rfl <;>
        obtain ⟨a, -, rfl⟩ := Option.map_eq_some_iff.1 hget <;> exact ⟨_, rfl⟩
    obtain ⟨xs, rfl⟩ := hlist
    cases hshape
  · obtain ⟨ps, -, rfl⟩ := Option.map_eq_some_iff.1 hget
    cases hshape

theorem filter_asText?_writtenMembers (s : Schema) :
    (writtenMembers s).filter (fun (k, _) => k.asText?.isNone) = [] := by
  refine List.filter_eq_nil_iff.2 fun m hm => ?_
  obtain ⟨e, -, rfl⟩ := List.mem_map.1 hm
  simp [Value.asText?]

/-! ## Reading schemas -/

section

variable {around : List Nat}

/-- What is written of a schema is read as one of the same form. -/
def ReadsBack (around : List Nat) (s : Schema) : Prop :=
  ∃ t, (readWithin around s.toValue).toOption = some t ∧ t.form = s.form

theorem names_writeEntries (ps : List (String × Schema)) :
    Named.names (writeEntries ps) = Named.names ps := by
  induction ps with
  | nil => rfl
  | cons p ps ih => rw [writeEntries, Named.names_cons, Named.names_cons, ih]

theorem readEntries_writeEntries {ps : List (String × Schema)}
    (h : ∀ p ∈ ps, ReadsBack around p.2) :
    ∃ qs, readEntries around (Value.keyed (writeEntries ps)) = some qs ∧
      formOfEntries qs = formOfEntries ps := by
  induction ps with
  | nil =>
      refine ⟨[], ?_, rfl⟩
      rw [writeEntries]
      exact readEntries.eq_1 around
  | cons p ps ih =>
      obtain ⟨n, s⟩ := p
      rw [List.forall_mem_cons] at h
      obtain ⟨⟨t, ht, hform⟩, hps⟩ := h
      obtain ⟨hwrite, hlevels⟩ := Prod.mk.inj hform
      obtain ⟨qs, hqs, hforms⟩ := ih hps
      obtain ⟨hwrites, hmost⟩ := Prod.mk.inj hforms
      refine ⟨(n, t) :: qs, ?_, Prod.ext ?_ ?_⟩
      · show readEntries around ((.str n, s.toValue) :: Value.keyed (writeEntries ps)) = _
        rw [readEntries, if_pos (isMap_toValue s), ht, hqs]
        rfl
      · show writeEntries ((n, t) :: qs) = writeEntries ((n, s) :: ps)
        rw [writeEntries, hwrite, hwrites, writeEntries]
      · show levelsOfEntries ((n, t) :: qs) = levelsOfEntries ((n, s) :: ps)
        rw [levelsOfEntries, hlevels, hmost, levelsOfEntries]

theorem readMembers_writeMembers (loose : Bool) {ss : List Schema}
    (h : ∀ s ∈ ss, ReadsBack around s) :
    ∃ ts, readMembers around loose (writeMembers ss) = some ts ∧
      formOfSchemas ts = formOfSchemas ss := by
  induction ss with
  | nil =>
      refine ⟨[], ?_, rfl⟩
      rw [writeMembers, readMembers]
  | cons s ss ih =>
      rw [List.forall_mem_cons] at h
      obtain ⟨⟨t, ht, hform⟩, hss⟩ := h
      obtain ⟨hwrite, hlevels⟩ := Prod.mk.inj hform
      obtain ⟨ts, hts, hforms⟩ := ih hss
      obtain ⟨hwrites, hmost⟩ := Prod.mk.inj hforms
      refine ⟨t :: ts, ?_, Prod.ext ?_ ?_⟩
      · rw [writeMembers, readMembers, if_pos (isMap_toValue s), ht, hts]
        rfl
      · show writeMembers (t :: ts) = writeMembers (s :: ss)
        rw [writeMembers, hwrite, hwrites, writeMembers]
      · show levelsOfSchemas (t :: ts) = levelsOfSchemas (s :: ss)
        rw [levelsOfSchemas, hlevels, hmost, levelsOfSchemas]

theorem readProperties_writeEntries {ps : List (String × Schema)} (hn : (Named.names ps).Nodup)
    (h : ∀ p ∈ ps, ReadsBack around p.2) :
    ∃ qs, readProperties around (Value.object (writeEntries ps)) = some (.given qs) ∧
      formOfEntries qs = formOfEntries ps := by
  obtain ⟨qs, hqs, hform⟩ := readEntries_writeEntries h
  have hwrite : writeEntries qs = writeEntries ps := congrArg Prod.fst hform
  have hnames : (Named.names qs).Nodup := by
    rwa [← names_writeEntries, hwrite, names_writeEntries]
  refine ⟨qs, ?_, hform⟩
  rw [Value.object_eq, readProperties, hqs, Option.map_some, Named.ofList_of_nodup hnames]

theorem readItems_toValue (h : ReadsBack around s) :
    ∃ t, readItems around s.toValue = some (.given t) ∧ t.form = s.form := by
  obtain ⟨t, ht, hform⟩ := h
  refine ⟨t, ?_, hform⟩
  rw [toValue_eq_map, readItems, ← toValue_eq_map, ht]
  rfl

theorem readComposition_writeMembers (loose : Bool) {ss : List Schema}
    (h : ∀ s ∈ ss, ReadsBack around s) :
    ∃ ts, readComposition around loose (.list (writeMembers ss)) = some (.given ts) ∧
      formOfSchemas ts = formOfSchemas ss := by
  obtain ⟨ts, hts, hform⟩ := readMembers_writeMembers loose h
  refine ⟨ts, ?_, hform⟩
  rw [readComposition, hts]
  rfl

theorem readAdditional_additionalValue {x : Bool ⊕ Schema}
    (h : ∀ t, x = .inr t → ReadsBack around t) :
    ∃ y, readAdditional around (additionalValue x) = some (.given y) ∧
      formOfAdditional y = formOfAdditional x := by
  cases x with
  | inl b => exact ⟨.inl b, by simp [additionalValue, readAdditional, Value.readBool?], rfl⟩
  | inr t =>
      obtain ⟨u, hu, hform⟩ := h t rfl
      refine ⟨.inr u, ?_, hform⟩
      rw [additionalValue, toValue_eq_map, readAdditional, ← toValue_eq_map, hu]
      rfl

end

/-- What is read from the value under a key that was written has the form that it had. -/
theorem settle_eq {α β : Type} {ms : Members} {camel snake : String} {x : Facet α}
    (write : α → Value) (formOf : α → β) (read : String → Value → Option (Facet α))
    (hms : counted ms = ms)
    (hr : ∀ a, x = .given a →
      ∃ b, read camel (write a) = some (.given b) ∧ formOf b = formOf a)
    (hc : Value.member? ms camel = x.get?.map write)
    (hs : snake = camel ∨ Value.member? ms snake = none) :
    ∃ y : Facet α, settle (Dialect.childRead ms camel snake read) = pure y ∧
      y.get?.map formOf = x.get?.map formOf := by
  unfold Dialect.childRead
  rw [hms]
  cases x with
  | given a =>
      obtain ⟨b, hb, hform⟩ := hr a rfl
      refine ⟨.given b, ?_, congrArg some hform⟩
      rw [find?_of_some hc, Option.map_some, hb]
      rfl
  | _ =>
      refine ⟨.absent, ?_, rfl⟩
      rw [find?_of_none hc hs]
      rfl

theorem settle_composition {around : List Nat} {ms : Members} {camel snake : String}
    {x : Facet (List Schema)} (hms : counted ms = ms) (hi : ∀ c ∈ members x, ReadsBack around c)
    (hc : Value.member? ms camel = x.get?.map fun ss => .list (writeMembers ss))
    (hs : Value.member? ms snake = none) :
    ∃ y : Facet (List Schema),
      settle (Dialect.childRead ms camel snake fun k => readComposition around (k == camel))
        = pure y ∧
      y.get?.map formOfSchemas = x.get?.map formOfSchemas := by
  refine settle_eq (fun ss => .list (writeMembers ss)) formOfSchemas _ hms (fun ss hss => ?_) hc
    (.inr hs)
  exact readComposition_writeMembers _ fun c hmem => hi c (by rw [hss]; exact hmem)

/-- What depends on the form alone is the same for parts of the same form. -/
theorem map_eq_of_form {α β γ : Type} {formOf : α → β} {x y : Option α}
    (h : y.map formOf = x.map formOf) (g : β → γ) :
    y.map (fun a => g (formOf a)) = x.map fun a => g (formOf a) := by
  have hmap := congrArg (Option.map g) h
  rwa [Option.map_map, Option.map_map] at hmap

/-- Schemas whose facets differ in nulls alone have the same form if the schemas in them have. -/
theorem form_of_withoutNulls {t : Schema} (hf : t.facets = s.facets.withoutNulls)
    (hp : t.properties.get?.map formOfEntries = s.properties.get?.map formOfEntries)
    (hi : t.items.get?.map form = s.items.get?.map form)
    (ha : t.allOf.get?.map formOfSchemas = s.allOf.get?.map formOfSchemas)
    (ho : t.oneOf.get?.map formOfSchemas = s.oneOf.get?.map formOfSchemas)
    (hy : t.anyOf.get?.map formOfSchemas = s.anyOf.get?.map formOfSchemas)
    (hd : t.additional.get?.map formOfAdditional = s.additional.get?.map formOfAdditional) :
    t.form = s.form := by
  refine Prod.ext ?_ ?_
  · have hfields : fields t = fields s := by
      unfold fields
      simp only [hf, Facets.withoutNulls, Facet.get?_withoutNull,
        show t.properties.get?.map (fun ps => Value.object (writeEntries ps)) = _ from
          map_eq_of_form hp fun f => Value.object f.1,
        show t.items.get?.map toValue = _ from map_eq_of_form hi Prod.fst,
        show t.allOf.get?.map (fun ss => Value.list (writeMembers ss)) = _ from
          map_eq_of_form ha fun f => Value.list f.1,
        show t.oneOf.get?.map (fun ss => Value.list (writeMembers ss)) = _ from
          map_eq_of_form ho fun f => Value.list f.1,
        show t.anyOf.get?.map (fun ss => Value.list (writeMembers ss)) = _ from
          map_eq_of_form hy fun f => Value.list f.1,
        show t.additional.get?.map additionalValue = _ from map_eq_of_form hd Prod.fst]
      rfl
    show t.toValue = s.toValue
    rw [toValue_eq, toValue_eq s, hfields, hf, extraEntries_withoutNulls]
  · show t.levels = s.levels
    rw [levels_eq t, levels_eq s, hf, untyped_withoutNulls]
    simp only [propertiesLevels_eq, itemsLevels_eq, compositionLevels_eq, additionalLevels_eq,
      show t.properties.get?.map levelsOfEntries = _ from map_eq_of_form hp Prod.snd,
      show t.items.get?.map levels = _ from map_eq_of_form hi Prod.snd,
      show t.allOf.get?.map levelsOfSchemas = _ from map_eq_of_form ha Prod.snd,
      show t.oneOf.get?.map levelsOfSchemas = _ from map_eq_of_form ho Prod.snd,
      show t.anyOf.get?.map levelsOfSchemas = _ from map_eq_of_form hy Prod.snd,
      show t.additional.get?.map levelsOfAdditional = _ from map_eq_of_form hd Prod.snd]
    rfl

/-- A settled schema is read back if the schemas in it are. -/
theorem readsBack_of_holds {around : List Nat} (hf : s.facets.Settled)
    (hp : (Named.names s.propertyList).Nodup) (hi : ∀ t, s.Holds t → ReadsBack around t) :
    ReadsBack around s := by
  have hcounted := counted_writtenMembers hf
  have h := shows_writtenMembers hf
  have hfacets := readFacets_of_shows hf h (filter_asText?_writtenMembers s)
    (extrasOf_writtenMembers hf)
  obtain ⟨properties, hproperties, hproperties'⟩ := settle_eq (x := s.properties)
    (fun ps => Value.object (writeEntries ps)) formOfEntries (fun _ => readProperties around)
    hcounted
    (fun ps hps => by
      have hlist : s.propertyList = ps := by
        rw [propertyList, hps]
        rfl
      rw [hlist] at hp
      exact readProperties_writeEntries hp fun p hp => hi _ (.property (hlist ▸ hp)))
    (h "properties" (by decide)) (.inl rfl)
  obtain ⟨items, hitems, hitems'⟩ := settle_eq (x := s.items) toValue form
    (fun _ => readItems around) hcounted (fun i hs => readItems_toValue (hi i (.items hs))) (h "items" (by decide)) (.inl rfl)
  obtain ⟨allOf, hallOf, hallOf'⟩ := settle_composition (x := s.allOf) hcounted
    (fun c hc => hi c (.allOf hc)) (h "allOf" (by decide)) (h "all_of" (by decide))
  obtain ⟨oneOf, honeOf, honeOf'⟩ := settle_composition (x := s.oneOf) hcounted
    (fun c hc => hi c (.oneOf hc)) (h "oneOf" (by decide)) (h "one_of" (by decide))
  obtain ⟨anyOf, hanyOf, hanyOf'⟩ := settle_composition (x := s.anyOf) hcounted
    (fun c hc => hi c (.anyOf hc)) (h "anyOf" (by decide)) (h "any_of" (by decide))
  obtain ⟨additional, hadditional, hadditional'⟩ := settle_eq (x := s.additional) additionalValue
    formOfAdditional (fun _ => readAdditional around) hcounted
    (fun x hx => readAdditional_additionalValue fun t ht => hi t (.additional (ht ▸ hx)))
    (h "additionalProperties" (by decide)) (.inr (h "additional_properties" (by decide)))
  have hreading : Dialect.reading around (writtenMembers s)
      = pure (mk s.facets.withoutNulls properties items allOf oneOf anyOf additional) := by
    unfold Dialect.reading
    rw [hcounted, hfacets, hproperties, hitems, hallOf, honeOf, hanyOf, hadditional]
    simp only [pure_bind]
  refine ⟨mk s.facets.withoutNulls properties items allOf oneOf anyOf additional, ?_, ?_⟩
  · rw [toValue_eq_map, Dialect.readWithin_map, hreading]
    rfl
  · exact form_of_withoutNulls rfl hproperties' hitems' hallOf' honeOf' hanyOf' hadditional'

theorem readsBack_of_settled (h : s.Settled) (around : List Nat) : ReadsBack around s := by
  induction h with
  | intro hf hp _ ih => exact readsBack_of_holds hf hp ih

end Schema

end ApiTools
