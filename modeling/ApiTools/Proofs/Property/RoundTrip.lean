import ApiTools.Proofs.Value.Serial
import ApiTools.Property.Reader
import ApiTools.Property.Writer

set_option autoImplicit false

/-!
# Properties are read as they are written

A property is written as a record: its traits, the name of its kind, and what its kind says. The
values that it holds as they are, its default and the values that it admits, come back if they are
values of JSON, and then nothing that is written has a flaw.
-/

namespace ApiTools

/-- The values that a kind admits, if it names them. -/
def Kind.enum? : Kind → Option (List Value)
  | .text f => f.enum
  | .integer f | .number f => f.enum
  | .boolean | .object => none

namespace Property

open Record

theorem entry_eq {α : Type} (key : String) (x : Option α) (write : α → Value) :
    entry key x write = written [(key, x.map write)] := by
  cases x <;> rfl

/-! ## Traits -/

/-- The default value, unless it is null. -/
def givenDefault (v : Value) : Option Value := if v.isNull then none else some v.serial

/-- The fields of the traits. -/
def traitFields (t : Traits) : Fields :=
  [("description", some (.str t.description)), ("default", givenDefault t.default),
   ("nullable", t.nullable.map .bool), ("isPathParam", t.isPathParam.map .bool),
   ("isQueryParam", t.isQueryParam.map .bool), ("isHeaderParam", t.isHeaderParam.map .bool),
   ("isBodyParam", t.isBodyParam.map .bool), ("isFlattened", t.isFlattened.map .bool),
   ("originalPath", t.fullPath.map .str), ("parentObject", t.parentObject.map .str)]

/-- The keys of the traits in both spellings. -/
def traitKeys : List String :=
  ["description", "default", "nullable", "isPathParam", "is_path_param", "isQueryParam",
   "is_query_param", "isHeaderParam", "is_header_param", "isBodyParam", "is_body_param",
   "isFlattened", "is_flattened", "originalPath", "original_path", "parentObject",
   "parent_object"]

theorem traitEntries_eq (t : Traits) : traitEntries t = written (traitFields t) := by
  have hd : (if t.default.isNull then [] else [("default", t.default.serial)])
      = written [("default", givenDefault t.default)] := by
    unfold givenDefault
    split <;> rfl
  rw [traitEntries, hd]
  simp only [entry_eq]
  show written [("description", some (Value.str t.description))] ++ _ ++ _ ++ _ ++ _ ++ _ ++ _ ++ _
    ++ _ ++ _ = _
  simp only [← written_append]
  rfl

theorem getD_givenDefault {v : Value} (h : v.isJson = true) : (givenDefault v).getD .null = v := by
  unfold givenDefault
  cases v with
  | null => rfl
  | _ => exact Value.serial_of_isJson h

theorem readTraits?_of_shows {ms : Members} {t : Traits} (h : Shows ms traitKeys (traitFields t))
    (hd : t.default.isJson = true) : readTraits? ms = some t := by
  have hdefault : Value.member? ms "default" = givenDefault t.default := h _ (by decide)
  -- no key is there in its second spelling, and a default that was left out is null again
  unfold readTraits?
  refine Option.bind_eq_some_iff.2 ⟨t.description, orElse?_eq rfl (h _ (by decide)), ?_⟩
  refine Option.bind_eq_some_iff.2
    ⟨t.nullable, optional?_bool (h _ (by decide)) (.inl rfl), ?_⟩
  refine Option.bind_eq_some_iff.2
    ⟨t.isPathParam, optional?_bool (h _ (by decide)) (.inr (h _ (by decide))), ?_⟩
  refine Option.bind_eq_some_iff.2
    ⟨t.isQueryParam, optional?_bool (h _ (by decide)) (.inr (h _ (by decide))), ?_⟩
  refine Option.bind_eq_some_iff.2
    ⟨t.isHeaderParam, optional?_bool (h _ (by decide)) (.inr (h _ (by decide))), ?_⟩
  refine Option.bind_eq_some_iff.2
    ⟨t.isBodyParam, optional?_bool (h _ (by decide)) (.inr (h _ (by decide))), ?_⟩
  refine Option.bind_eq_some_iff.2
    ⟨t.isFlattened, optional?_bool (h _ (by decide)) (.inr (h _ (by decide))), ?_⟩
  refine Option.bind_eq_some_iff.2
    ⟨t.fullPath, optional?_text (h _ (by decide)) (.inr (h _ (by decide))), ?_⟩
  refine Option.bind_eq_some_iff.2
    ⟨t.parentObject, optional?_text (h _ (by decide)) (.inr (h _ (by decide))), ?_⟩
  rw [hdefault, getD_givenDefault hd]
  rfl

/-! ## Kinds -/

/-- The field that names the kind. -/
def typeFields (name : String) : Fields := [("type", some (.str name))]

/-- The fields of a text's facets. -/
def textFields (f : TextFacets) : Fields :=
  [("format", f.format.map .str), ("enum", f.enum.map writeList),
   ("minLength", f.minLength.map .int), ("maxLength", f.maxLength.map .int),
   ("pattern", f.pattern.map .str)]

/-- The keys of a text's facets in both spellings. -/
def textKeys : List String :=
  ["format", "enum", "minLength", "min_length", "maxLength", "max_length", "pattern"]

/-- The fields of a number's facets. -/
def numberFields (f : NumberFacets) : Fields :=
  [("format", f.format.map .str), ("enum", f.enum.map writeList),
   ("minimum", f.minimum.map Numeric.toValue), ("maximum", f.maximum.map Numeric.toValue),
   ("exclusiveMinimum", f.exclusiveMinimum.map Bound.toValue),
   ("exclusiveMaximum", f.exclusiveMaximum.map Bound.toValue),
   ("multipleOf", f.multipleOf.map Numeric.toValue)]

/-- The keys of a number's facets in both spellings. -/
def numberKeys : List String :=
  ["format", "enum", "minimum", "maximum", "exclusiveMinimum", "exclusive_minimum",
   "exclusiveMaximum", "exclusive_maximum", "multipleOf", "multiple_of"]

/-- The fields of an array's facets. -/
def arrayFields (f : ArrayFacets) : Fields :=
  [("minItems", f.minItems.map .int), ("maxItems", f.maxItems.map .int),
   ("uniqueItems", f.uniqueItems.map .bool)]

/-- The keys of an array's facets in both spellings. -/
def arrayKeys : List String :=
  ["minItems", "min_items", "maxItems", "max_items", "uniqueItems", "unique_items"]

/-- The fields of a kind. -/
def kindFields : Kind → Fields
  | .text f => typeFields "string" ++ textFields f
  | .integer f => typeFields "integer" ++ numberFields f
  | .number f => typeFields "number" ++ numberFields f
  | .boolean => typeFields "boolean"
  | .object => typeFields "object"

/-- The fields of an array, given what is written of its items. -/
def arrayKindFields (items : Option Value) (f : ArrayFacets) : Fields :=
  typeFields "array" ++ [("items", items)] ++ arrayFields f

theorem textEntries_eq (f : TextFacets) : textEntries f = written (textFields f) := by
  unfold textEntries enumEntry
  simp only [entry_eq, ← written_append]
  rfl

theorem numberEntries_eq (f : NumberFacets) : numberEntries f = written (numberFields f) := by
  unfold numberEntries enumEntry
  simp only [entry_eq, ← written_append]
  rfl

theorem arrayEntries_eq (f : ArrayFacets) : arrayEntries f = written (arrayFields f) := by
  unfold arrayEntries
  simp only [entry_eq, ← written_append]
  rfl

theorem kindEntries_eq (k : Kind) : kindEntries k = written (kindFields k) := by
  cases k with
  | text f => rw [kindEntries, textEntries_eq]; rfl
  | integer f => rw [kindEntries, numberEntries_eq]; rfl
  | number f => rw [kindEntries, numberEntries_eq]; rfl
  | boolean => rfl
  | object => rfl

theorem toValue_simple (t : Traits) (k : Kind) :
    (simple t k).toValue = .map (Value.keyed (written (traitFields t ++ kindFields k))) := by
  rw [toValue, traitEntries_eq, kindEntries_eq, ← written_append]
  rfl

theorem toValue_array (t : Traits) (f : ArrayFacets) (items : Option Property) :
    (array t f items).toValue = .map (Value.keyed
      (written (traitFields t ++ arrayKindFields (items.map toValue) f))) := by
  rw [written_append]
  cases items with
  | none =>
      rw [toValue, traitEntries_eq, arrayEntries_eq, List.append_assoc]
      rfl
  | some p =>
      rw [toValue, traitEntries_eq, arrayEntries_eq, List.append_assoc, List.append_assoc]
      rfl

theorem readTextFacets?_of_shows {ms : Members} {f : TextFacets}
    (h : Shows ms textKeys (textFields f))
    (he : ∀ vs, f.enum = some vs → ∀ v ∈ vs, v.isJson = true) : readTextFacets? ms = some f := by
  unfold readTextFacets?
  refine Option.bind_eq_some_iff.2 ⟨f.format, optional?_text (h _ (by decide)) (.inl rfl), ?_⟩
  refine Option.bind_eq_some_iff.2 ⟨f.enum,
    optional?_eq (fun vs hvs => reads_list (he vs hvs)) (h _ (by decide)) (.inl rfl), ?_⟩
  refine Option.bind_eq_some_iff.2
    ⟨f.minLength, optional?_int (h _ (by decide)) (.inr (h _ (by decide))), ?_⟩
  refine Option.bind_eq_some_iff.2
    ⟨f.maxLength, optional?_int (h _ (by decide)) (.inr (h _ (by decide))), ?_⟩
  refine Option.bind_eq_some_iff.2 ⟨f.pattern, optional?_text (h _ (by decide)) (.inl rfl), ?_⟩
  rfl

theorem readNumberFacets?_of_shows {ms : Members} {f : NumberFacets}
    (h : Shows ms numberKeys (numberFields f))
    (he : ∀ vs, f.enum = some vs → ∀ v ∈ vs, v.isJson = true) :
    readNumberFacets? ms = some f := by
  unfold readNumberFacets?
  refine Option.bind_eq_some_iff.2 ⟨f.format, optional?_text (h _ (by decide)) (.inl rfl), ?_⟩
  refine Option.bind_eq_some_iff.2 ⟨f.enum,
    optional?_eq (fun vs hvs => reads_list (he vs hvs)) (h _ (by decide)) (.inl rfl), ?_⟩
  refine Option.bind_eq_some_iff.2
    ⟨f.minimum, optional?_numeric (h _ (by decide)) (.inl rfl), ?_⟩
  refine Option.bind_eq_some_iff.2
    ⟨f.maximum, optional?_numeric (h _ (by decide)) (.inl rfl), ?_⟩
  refine Option.bind_eq_some_iff.2
    ⟨f.exclusiveMinimum, optional?_bound (h _ (by decide)) (.inr (h _ (by decide))), ?_⟩
  refine Option.bind_eq_some_iff.2
    ⟨f.exclusiveMaximum, optional?_bound (h _ (by decide)) (.inr (h _ (by decide))), ?_⟩
  refine Option.bind_eq_some_iff.2
    ⟨f.multipleOf, optional?_numeric (h _ (by decide)) (.inr (h _ (by decide))), ?_⟩
  rfl

theorem readArrayFacets?_of_shows {ms : Members} {f : ArrayFacets}
    (h : Shows ms arrayKeys (arrayFields f)) : readArrayFacets? ms = some f := by
  unfold readArrayFacets?
  refine Option.bind_eq_some_iff.2
    ⟨f.minItems, optional?_int (h _ (by decide)) (.inr (h _ (by decide))), ?_⟩
  refine Option.bind_eq_some_iff.2
    ⟨f.maxItems, optional?_int (h _ (by decide)) (.inr (h _ (by decide))), ?_⟩
  refine Option.bind_eq_some_iff.2
    ⟨f.uniqueItems, optional?_bool (h _ (by decide)) (.inr (h _ (by decide))), ?_⟩
  rfl

/-! ## Properties -/

theorem nodup_simpleFields (t : Traits) (k : Kind) :
    (Named.names (traitFields t ++ kindFields k)).Nodup := by
  cases k with
  | text f =>
      exact (by decide : (Named.names (traitFields {} ++ kindFields (.text {}))).Nodup)
  | integer f =>
      exact (by decide : (Named.names (traitFields {} ++ kindFields (.integer {}))).Nodup)
  | number f =>
      exact (by decide : (Named.names (traitFields {} ++ kindFields (.number {}))).Nodup)
  | boolean => exact (by decide : (Named.names (traitFields {} ++ kindFields .boolean)).Nodup)
  | object => exact (by decide : (Named.names (traitFields {} ++ kindFields .object)).Nodup)

theorem nodup_arrayFields (t : Traits) (items : Option Value) (f : ArrayFacets) :
    (Named.names (traitFields t ++ arrayKindFields items f)).Nodup :=
  (by decide : (Named.names (traitFields {} ++ arrayKindFields none {})).Nodup)

theorem read?_map (ms : Members) :
    read? (.map ms) = match (Value.member? ms "type").bind Value.asText? with
      | none => none
      | some "array" => do
        return array (← readTraits? ms) (← readArrayFacets? ms) (← optional? ms "items" "items" read?)
      | some name => do return simple (← readTraits? ms) (← readKind? ms name) := by
  rw [read?]
  unfold optional? find?
  cases Value.member? ms "items" with
  | none => rfl
  | some w => cases w <;> rfl

theorem read?_of_type {ms : Members} {name : String} (hn : name ≠ "array")
    (h : Value.member? ms "type" = some (.str name)) :
    read? (.map ms) = do return simple (← readTraits? ms) (← readKind? ms name) := by
  rw [read?_map, h, Option.bind_some]
  split
  · next h => cases h
  · next h => exact absurd (Option.some.inj h) hn
  · next h =>
    obtain rfl := Option.some.inj h
    rfl

theorem read?_of_array {ms : Members} (h : Value.member? ms "type" = some (.str "array")) :
    read? (.map ms) = do
      return array (← readTraits? ms) (← readArrayFacets? ms)
        (← optional? ms "items" "items" read?) := by
  rw [read?_map, h]
  rfl

/-- The values that a property holds as they are, its default and those it admits, are values of
JSON, and so are those in its items. -/
inductive HoldsJson : Property → Prop
  | simple {t : Traits} {k : Kind} (hd : t.default.isJson = true)
      (he : ∀ vs, k.enum? = some vs → ∀ v ∈ vs, v.isJson = true) : HoldsJson (.simple t k)
  | array {t : Traits} {f : ArrayFacets} {items : Option Property} (hd : t.default.isJson = true)
      (hi : ∀ q, items = some q → HoldsJson q) : HoldsJson (.array t f items)

theorem shows_traitFields (t : Traits) (k : Kind) :
    Shows (Value.keyed (written (traitFields t ++ kindFields k))) traitKeys (traitFields t) := by
  have hw : traitFields t ++ kindFields k = [] ++ traitFields t ++ kindFields k := rfl
  refine shows_written hw (nodup_simpleFields t k) (by simp) ?_
  cases k with
  | text f => exact (by decide : ∀ key ∈ traitKeys, key ∉ Named.names (kindFields (.text {})))
  | integer f =>
      exact (by decide : ∀ key ∈ traitKeys, key ∉ Named.names (kindFields (.integer {})))
  | number f => exact (by decide : ∀ key ∈ traitKeys, key ∉ Named.names (kindFields (.number {})))
  | boolean => decide
  | object => decide

theorem shows_textFields (t : Traits) (f : TextFacets) :
    Shows (Value.keyed (written (traitFields t ++ kindFields (.text f)))) textKeys
      (textFields f) := by
  have hw : traitFields t ++ kindFields (.text f)
      = traitFields t ++ typeFields "string" ++ textFields f ++ [] := rfl
  refine shows_written hw (nodup_simpleFields t (.text f)) ?_ (by simp)
  exact (by decide : ∀ key ∈ textKeys, key ∉ Named.names (traitFields {} ++ typeFields "string"))

/-- The facets of a number are shown under either name of its kind. -/
theorem shows_numberFields (t : Traits) (name : String) (f : NumberFacets) :
    Shows (Value.keyed (written (traitFields t ++ (typeFields name ++ numberFields f)))) numberKeys
      (numberFields f) := by
  have hw : traitFields t ++ (typeFields name ++ numberFields f)
      = traitFields t ++ typeFields name ++ numberFields f ++ [] := rfl
  refine shows_written hw ?_ ?_ (by simp)
  · exact (by decide :
      (Named.names (traitFields {} ++ (typeFields "" ++ numberFields {}))).Nodup)
  · exact (by decide : ∀ key ∈ numberKeys, key ∉ Named.names (traitFields {} ++ typeFields ""))

/-- A kind is read from what is written of it behind the traits. -/
theorem readKind?_written (t : Traits) {k : Kind}
    (he : ∀ vs, k.enum? = some vs → ∀ v ∈ vs, v.isJson = true) :
    readKind? (Value.keyed (written (traitFields t ++ kindFields k))) (simple t k).kindName
      = some k := by
  cases k with
  | text f =>
      exact congrArg (Option.map Kind.text) (readTextFacets?_of_shows (shows_textFields t f) he)
  | integer f =>
      exact congrArg (Option.map Kind.integer)
        (readNumberFacets?_of_shows (shows_numberFields t "integer" f) he)
  | number f =>
      exact congrArg (Option.map Kind.number)
        (readNumberFacets?_of_shows (shows_numberFields t "number" f) he)
  | boolean => rfl
  | object => rfl

/-- A property without parts is read as it was written. -/
theorem read?_toValue_simple {t : Traits} {k : Kind} (hd : t.default.isJson = true)
    (he : ∀ vs, k.enum? = some vs → ∀ v ∈ vs, v.isJson = true) :
    read? (simple t k).toValue = some (simple t k) := by
  have htype : Value.member? (Value.keyed (written (traitFields t ++ kindFields k))) "type"
      = some (.str (simple t k).kindName) := by
    rw [Value.member?_keyed, get?_written (nodup_simpleFields t k)]
    cases k <;> rfl
  rw [toValue_simple, read?_of_type (by cases k <;> simp [kindName]) htype,
    readTraits?_of_shows (shows_traitFields t k) hd, readKind?_written t he]
  rfl

/-- An array is read as it was written if its items are. -/
theorem read?_toValue_array {t : Traits} {f : ArrayFacets} {items : Option Property}
    (hd : t.default.isJson = true)
    (hi : ∀ q, items = some q → Reads read? q.toValue q) :
    read? (array t f items).toValue = some (array t f items) := by
  have hnodup := nodup_arrayFields t (items.map toValue) f
  have hw : traitFields t ++ arrayKindFields (items.map toValue) f
      = [] ++ traitFields t ++ arrayKindFields (items.map toValue) f := rfl
  have hw' : traitFields t ++ arrayKindFields (items.map toValue) f
      = traitFields t ++ (typeFields "array" ++ [("items", items.map toValue)])
        ++ arrayFields f ++ [] := rfl
  -- the facets are shown behind the items, whose key is none of theirs
  have htraits : Shows _ traitKeys (traitFields t) := shows_written hw hnodup (by simp)
    (by decide : ∀ key ∈ traitKeys, key ∉ Named.names (arrayKindFields none {}))
  have hfacets : Shows _ arrayKeys (arrayFields f) := shows_written hw' hnodup
    (by decide : ∀ key ∈ arrayKeys,
      key ∉ Named.names (traitFields {} ++ (typeFields "array" ++ [("items", none)]))) (by simp)
  have hget : ∀ key, Value.member? (Value.keyed
      (written (traitFields t ++ arrayKindFields (items.map toValue) f))) key
        = (Named.get? (traitFields t ++ arrayKindFields (items.map toValue) f) key).join := by
    intro key
    rw [Value.member?_keyed, get?_written hnodup]
  rw [toValue_array, read?_of_array (hget "type"), readTraits?_of_shows htraits hd,
    readArrayFacets?_of_shows hfacets, optional?_eq hi (hget "items") (.inl rfl)]
  rfl

theorem toValue_ne_null (p : Property) : p.toValue ≠ .null := by
  cases p with
  | simple t k => rw [toValue_simple]; simp
  | array t f items => rw [toValue_array]; simp

/-- A property that holds values of JSON is read as it was written, however deep its arrays are. -/
theorem HoldsJson.read?_toValue {p : Property} (h : p.HoldsJson) : read? p.toValue = some p := by
  induction h with
  | simple hd he => exact read?_toValue_simple hd he
  | array hd hi ih => exact read?_toValue_array hd fun q hq => ⟨toValue_ne_null q, ih q hq⟩

/-! ## Written properties have no flaw -/

theorem flaw?_traitFields {t : Traits} (h : t.default.isJson = true) :
    ∀ f ∈ traitFields t, ∀ v, f.2 = some v → v.flaw? = none := by
  have scalar := @Value.flaw?_of_map_all
  have hdefault : ∀ v, givenDefault t.default = some v → v.flaw? = none := by
    intro v hv
    unfold givenDefault at hv
    split at hv
    · cases hv
    · obtain rfl := Option.some.inj hv
      rw [Value.serial_of_isJson h]
      exact Value.flaw?_of_isJson h
  unfold traitFields
  simp only [List.forall_mem_cons]
  exact ⟨scalar (x := some t.description) fun _ => rfl, hdefault, scalar fun _ => rfl,
    scalar fun _ => rfl, scalar fun _ => rfl, scalar fun _ => rfl, scalar fun _ => rfl,
    scalar fun _ => rfl, scalar fun _ => rfl, scalar fun _ => rfl, nofun⟩

theorem flaw?_typeFields (name : String) :
    ∀ f ∈ typeFields name, ∀ v, f.2 = some v → v.flaw? = none :=
  List.forall_mem_singleton.2 (Value.flaw?_of_map_all (x := some name) fun _ => rfl)

theorem flaw?_numberFields {g : NumberFacets}
    (h : ∀ vs, g.enum = some vs → ∀ v ∈ vs, v.isJson = true) :
    ∀ f ∈ numberFields g, ∀ v, f.2 = some v → v.flaw? = none := by
  have scalar := @Value.flaw?_of_map_all
  unfold numberFields
  simp only [List.forall_mem_cons]
  exact ⟨scalar fun _ => rfl, Value.flaw?_of_map fun vs hvs => Value.flaw?_writeList (h vs hvs),
    scalar Value.flaw?_numeric, scalar Value.flaw?_numeric, scalar Value.flaw?_bound,
    scalar Value.flaw?_bound, scalar Value.flaw?_numeric, nofun⟩

theorem flaw?_textFields {g : TextFacets}
    (h : ∀ vs, g.enum = some vs → ∀ v ∈ vs, v.isJson = true) :
    ∀ f ∈ textFields g, ∀ v, f.2 = some v → v.flaw? = none := by
  have scalar := @Value.flaw?_of_map_all
  unfold textFields
  simp only [List.forall_mem_cons]
  exact ⟨scalar fun _ => rfl, Value.flaw?_of_map fun vs hvs => Value.flaw?_writeList (h vs hvs),
    scalar fun _ => rfl, scalar fun _ => rfl, scalar fun _ => rfl, nofun⟩

theorem flaw?_kindFields {k : Kind}
    (h : ∀ vs, k.enum? = some vs → ∀ v ∈ vs, v.isJson = true) :
    ∀ f ∈ kindFields k, ∀ v, f.2 = some v → v.flaw? = none := by
  cases k with
  | text f => exact List.forall_mem_append.2 ⟨flaw?_typeFields _, flaw?_textFields h⟩
  | integer f => exact List.forall_mem_append.2 ⟨flaw?_typeFields _, flaw?_numberFields h⟩
  | number f => exact List.forall_mem_append.2 ⟨flaw?_typeFields _, flaw?_numberFields h⟩
  | boolean => exact flaw?_typeFields _
  | object => exact flaw?_typeFields _

theorem flaw?_arrayKindFields {items : Option Value}
    (h : ∀ v, items = some v → v.flaw? = none) (g : ArrayFacets) :
    ∀ f ∈ arrayKindFields items g, ∀ v, f.2 = some v → v.flaw? = none := by
  have scalar := @Value.flaw?_of_map_all
  unfold arrayKindFields arrayFields
  simp only [List.forall_mem_append, List.forall_mem_cons]
  exact ⟨⟨flaw?_typeFields _, h, nofun⟩, scalar fun _ => rfl, scalar fun _ => rfl,
    scalar fun _ => rfl, nofun⟩

theorem HoldsJson.flaw?_toValue {p : Property} (h : p.HoldsJson) : p.toValue.flaw? = none := by
  induction h with
  | simple hd he =>
      rw [toValue_simple]
      exact Value.flaw?_written
        (List.forall_mem_append.2 ⟨flaw?_traitFields hd, flaw?_kindFields he⟩)
  | array hd hi ih =>
      rw [toValue_array]
      exact Value.flaw?_written (List.forall_mem_append.2
        ⟨flaw?_traitFields hd, flaw?_arrayKindFields (Value.flaw?_of_map ih) _⟩)

end Property

end ApiTools
