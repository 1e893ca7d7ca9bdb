import ApiTools.Proofs.Schema.Written

set_option autoImplicit false

/-!
# Serialised schemas are in normal form

What a schema from JSON is serialised to is read again, and then serialised to the same: there is
nothing in it that a further pass would drop, change or move. Members of a wrong shape and nulls are
gone, lenient readings are spelled out, and each key is in its first spelling. All this holds for
whatever unknown members schemas have, and however deep they lie, as long as they are serialised:
there is a limit for the levels.

One thing is asked of the schemas that are read: none of them has a key in both spellings. If one
has, the second spelling counts as an unknown member and is written as such.
-/

namespace ApiTools.Schema

open Record

/-- Whether no key of a schema stands in a mapping in both spellings. -/
def spellsKeysOnce (ms : Members) : Bool :=
  keys.all fun k =>
    k.camel == k.snake || (Value.member? ms k.camel).isNone || (Value.member? ms k.snake).isNone

/-- No schema in a value spells a key both ways, neither the one that the value itself is nor one
that has its place in it. -/
inductive SpellsOnce : Value → Prop
  | map {ms : Members} (h : spellsKeysOnce ms = true) (hi : ∀ v ∈ inner ms, SpellsOnce v) :
      SpellsOnce (.map ms)
  | other {v : Value} (h : v.isMap = false) : SpellsOnce v

variable {around : List Nat} {ms : Members} {v : Value} {s : Schema}

/-! ## Written schemas have no flaw -/

theorem flaw?_textsValue (ss : List String) : (textsValue ss).flaw? = none :=
  Value.flaw?_list_map (fun _ => rfl) ss

theorem flaw?_writeEntries {ps : List (String × Schema)}
    (h : ∀ p ∈ ps, p.2.toValue.flaw? = none) :
    (Value.object (writeEntries ps)).flaw? = none := by
  rw [Value.flaw?_object_eq_none_iff]
  induction ps with
  | nil => exact nofun
  | cons p ps ih =>
      rw [List.forall_mem_cons] at h
      rw [writeEntries, List.forall_mem_cons]
      exact ⟨h.1, ih h.2⟩

theorem flaw?_writeMembers {ss : List Schema} (h : ∀ s ∈ ss, s.toValue.flaw? = none) :
    (Value.list (writeMembers ss)).flaw? = none := by
  rw [Value.flaw?_list_eq_none_iff]
  induction ss with
  | nil => exact nofun
  | cons s ss ih =>
      rw [List.forall_mem_cons] at h
      rw [writeMembers, List.forall_mem_cons]
      exact ⟨h.1, ih h.2⟩

/-- A default or an example has no flaw if it is one of JSON. -/
theorem flaw?_ofValue {x : Facet Value} (hx : ∀ v, x = .given v → v ≠ .null ∧ v.isJson = true)
    (v : Value) (hv : (x.get?.filter (!·.isNull)).map Value.serial = some v) : v.flaw? = none := by
  refine Value.flaw?_of_map (fun w hw => ?_) v hv
  have hw := (Option.filter_eq_some_iff.1 hw).1
  cases x with
  | given u =>
      obtain rfl := Option.some.inj hw
      rw [Value.serial_of_isJson (hx u rfl).2]
      exact Value.flaw?_of_isJson (hx u rfl).2
  | _ => cases hw

theorem get?_eq_some_iff {α : Type} {x : Facet α} {a : α} : x.get? = some a ↔ x = .given a := by
  cases x <;> simp [Facet.get?]

/-- The fields of a schema have no flaw if the schemas in it have none. -/
theorem flaw?_fields (hf : s.facets.Settled) (hi : ∀ t, s.Holds t → t.toValue.flaw? = none) :
    ∀ f ∈ fields s, ∀ v, f.2 = some v → v.flaw? = none := by
  have henum : ∀ vs, s.facets.enum.get? = some vs → (writeList vs).flaw? = none := by
    intro vs hvs
    exact Value.flaw?_writeList (hf.enum vs (get?_eq_some_iff.1 hvs))
  have hproperties : ∀ ps, s.properties.get? = some ps →
      (Value.object (writeEntries ps)).flaw? = none := by
    intro ps hps
    refine flaw?_writeEntries fun p hp => hi _ (.property ?_)
    rw [propertyList, hps]
    exact hp
  have hcomposition : ∀ {x : Facet (List Schema)}, (∀ c ∈ members x, s.Holds c) →
      ∀ ss, x.get? = some ss → (Value.list (writeMembers ss)).flaw? = none := by
    intro x hx ss hss
    refine flaw?_writeMembers fun c hc => hi c (hx c ?_)
    rw [members, hss]
    exact hc
  have hadditional : ∀ x, s.additional.get? = some x → (additionalValue x).flaw? = none := by
    rintro (b | t) hx
    · rfl
    · exact hi t (.additional (get?_eq_some_iff.1 hx))
  have htype : ∀ t : TypeName, (TypeName.toValue t).flaw? = none := by
    rintro (name | names)
    · rfl
    · exact flaw?_textsValue names
  have scalar := @Value.flaw?_of_map_all
  unfold fields
  simp only [List.forall_mem_cons]
  refine ⟨scalar fun _ => rfl, scalar htype, scalar fun _ => rfl, scalar fun _ => rfl,
    scalar fun _ => rfl, Value.flaw?_of_map hproperties,
    Value.flaw?_of_map fun t ht => hi t (.items (get?_eq_some_iff.1 ht)), scalar flaw?_textsValue,
    Value.flaw?_of_map henum, Value.flaw?_of_map (hcomposition fun _ => .allOf),
    Value.flaw?_of_map (hcomposition fun _ => .oneOf),
    Value.flaw?_of_map (hcomposition fun _ => .anyOf), scalar Value.flaw?_numeric,
    scalar Value.flaw?_numeric, scalar Value.flaw?_bound, scalar Value.flaw?_bound,
    scalar Value.flaw?_numeric, scalar fun _ => rfl, scalar fun _ => rfl, scalar fun _ => rfl,
    scalar fun _ => rfl, scalar fun _ => rfl, scalar fun _ => rfl, flaw?_ofValue hf.default,
    flaw?_ofValue hf.exampleValue, scalar fun _ => rfl, scalar fun _ => rfl, scalar fun _ => rfl,
    scalar fun _ => rfl, Value.flaw?_of_map hadditional, List.forall_mem_nil _⟩

theorem flaw?_toValue_of_settled (h : s.Settled) : s.toValue.flaw? = none := by
  induction h with
  | @intro s hf _ _ ih =>
      rw [toValue_eq_map]
      refine Value.flaw?_written_append (flaw?_fields hf ih) fun e he => ?_
      rw [extraEntries_of_settled hf] at he
      exact Value.flaw?_of_isJson (hf.extras e (List.mem_filter.1 he).1).1

/-! ## Schemas that are read are settled -/

theorem counted_keyed (es : List (String × Value)) :
    counted (Value.keyed es) = Value.keyed (es.filter fun e => !isMisshapen (.str e.1, e.2)) :=
  List.filter_map

/-- In a mapping that spells no key both ways what counts as unknown has the name of no key. -/
theorem not_mem_keyNames_of_extrasOf {es : List (String × Value)} (hn : (Named.names es).Nodup)
    (h : spellsKeysOnce (Value.keyed es) = true) {e : String × Value}
    (he : e ∈ extrasOf (counted (Value.keyed es))) : e ∈ es ∧ e.1 ∉ keyNames := by
  rw [counted_keyed, extrasOf_keyed, List.mem_filter, List.mem_filter] at he
  obtain ⟨⟨hmem, -⟩, hunknown⟩ := he
  refine ⟨hmem, fun hname => ?_⟩
  rw [Bool.not_eq_true', ← Bool.not_eq_true] at hunknown
  obtain ⟨k, hk, hname⟩ := List.mem_flatMap.1 hname
  have hcamel : e.1 ≠ k.camel := fun heq =>
    hunknown (isKnown_of_mem (heq ▸ List.mem_map_of_mem hk) _)
  have hsnake : e.1 = k.snake := by simpa [hcamel] using hname
  -- the member has a key in its second spelling, so the first one is not there, and the key counts
  have hthere : Value.member? (Value.keyed es) k.snake = some e.2 := by
    rw [Value.member?_keyed, ← hsnake]
    exact Named.get?_of_mem hn hmem
  have hmissing : Value.member? (Value.keyed es) k.camel = none := by
    have hspelled := List.all_eq_true.1 h k hk
    rw [hthere] at hspelled
    simpa [hsnake ▸ Ne.symm hcamel] using hspelled
  refine hunknown (List.any_eq_true.2 ⟨k, hk, ?_⟩)
  have hnone : Value.member? (Value.keyed (es.filter fun e => !isMisshapen (.str e.1, e.2))) k.camel
      = none := by
    rw [Value.member?_keyed, Named.get?_eq_none_iff] at hmissing ⊢
    exact fun hmem => hmissing ((List.filter_sublist.map _).subset hmem)
  rw [hnone, hsnake]
  simp

theorem settled_readFacets (hms : Value.isJsonMembers ms = true) (h : spellsKeysOnce ms = true)
    (faults : List String) : ((readFacets (counted ms)).run faults).1.Settled := by
  obtain ⟨es, rfl⟩ := Value.exists_keyed hms
  obtain ⟨hn, hjson⟩ := (Value.isJsonMembers_keyed es).1 hms
  have hextras : ∀ e ∈ extrasOf (counted (Value.keyed es)), e ∈ es ∧ e.1 ∉ keyNames :=
    fun e he => not_mem_keyNames_of_extrasOf hn h he
  exact
    { default := fun v hv => isJson_of_facet_some hms hv
      exampleValue := fun v hv => isJson_of_facet_some hms hv
      enum := (holdsJson_readFacets hms faults).enum
      extras := fun e he => ⟨hjson e (hextras e he).1, (hextras e he).2⟩
      nodup := by
        show (Named.names (extrasOf (counted (Value.keyed es)))).Nodup
        rw [counted_keyed, extrasOf_keyed]
        exact hn.sublist ((List.filter_sublist.trans List.filter_sublist).map _) }

theorem nodup_readProperties (hv : v.isJson = true) {ps : List (String × Schema)}
    (h : readProperties around v = some (.given ps)) : (Named.names ps).Nodup := by
  cases v with
  | map ms =>
      rw [readProperties] at h
      obtain ⟨es, -, h⟩ := Option.map_eq_some_iff.1 h
      injection h with h
      rw [← h]
      exact Named.nodup_names_ofList es
  | knot name w => simp [Value.isJson] at hv
  | _ => simp [readProperties] at h

theorem nodup_getD {α : Type} {f : Facet (List (String × α))}
    (h : ∀ ps, f = .given ps → (Named.names ps).Nodup) : (Named.names (f.get?.getD [])).Nodup := by
  cases f with
  | given ps => exact h ps rfl
  | _ => exact List.nodup_nil

theorem settled_of_readWithin (hv : v.isJson = true) (hs : SpellsOnce v)
    (h : (readWithin around v).toOption = some s) : s.Settled := by
  induction hs generalizing s with
  | @map ms hkeys _ ih =>
      have hms : Value.isJsonMembers ms = true := by rwa [Value.isJson] at hv
      refine .intro ?_ ?_ fun t ht => ?_
      · rw [eq_reading h]
        exact settled_readFacets hms hkeys []
      · -- the properties are those that were read, if any were
        rw [eq_reading h]
        refine nodup_getD fun ps hps => ?_
        obtain ⟨key, w, hf, hread⟩ := given_of_settle hps
        exact nodup_readProperties (isJson_of_find?_counted hms hf) hread
      · obtain ⟨w, hw, hread⟩ := readFrom_inner hms h ht
        exact ih w hw (isJson_of_mem_inner hms hw) hread
  | @other v hmap =>
      -- what is no mapping is not read as a schema
      cases v with
      | map ms => cases hmap
      | knot name w => simp [Value.isJson] at hv
      | _ => simp [readWithin, Except.toOption] at h

theorem exists_of_readsBack (h : ReadsBack [] s) :
    ∃ t, Schema.read s.toValue = .ok t ∧ t.form = s.form := by
  obtain ⟨t, ht, hform⟩ := h
  refine ⟨t, ?_, hform⟩
  show readWithin [] s.toValue = _
  cases hr : readWithin [] s.toValue with
  | error faults =>
      rw [hr] at ht
      cases ht
  | ok u =>
      rw [hr] at ht
      exact congrArg Except.ok (Option.some.inj ht)

/-- What serialising gives depends on the form alone. -/
theorem toDict_of_form {t : Schema} (h : t.form = s.form) (limit : Nat) :
    t.toDict limit = s.toDict limit := by
  obtain ⟨hvalue, hlevels⟩ := Prod.mk.inj h
  unfold toDict
  rw [hvalue, hlevels]

/-- A schema whose default is made of many lists, each in the one before. -/
def deepSchema : Schema := plain { default := .given (Value.nest 259) }

/-- The members of a schema with nulls, a key in its second spelling, lenient readings, and members
and parts of a wrong shape. -/
def disorderedMembers : List (String × Value) :=
  [("x-note", .null), ("x-origin", Value.object [("kept", .null)]), ("title", .null),
   ("required", .bool true), ("min_length", .str "3"),
   ("properties", Value.object [("name", Value.object [("nullable", .int 1)]), ("age", .int 5)]),
   ("items", .list [Value.object [("minimum", .str "2")], .int 3]),
   ("all_of", .list [Value.object [("example", .int 0)]]), ("additionalProperties", .int 0)]

/-- What is read of it. -/
def disorderedSchema : Schema :=
  mk { title := .null
       minLength := .given 3
       extras := [("x-note", .null), ("x-origin", Value.object [("kept", .null)])] }
    (.given [("name", plain { nullable := .given true })])
    (.given (plain { minimum := .given (.int 2) }))
    (.given [plain { exampleValue := .given (.int 0) }]) .absent .absent (.given (.inl false))

open Dialect (childRead reading read_of_reading) in
theorem read_disordered : Schema.read (Value.object disorderedMembers) = .ok disorderedSchema := by
  have hmap : ∀ es, (Value.object es).isMap = true := fun _ => rfl
  have hname : readWithin [] (Value.object [("nullable", .int 1)])
      = .ok (plain { nullable := .given true }) := read_of_reading rfl
  have hitem : readWithin [] (Value.object [("minimum", .str "2")])
      = .ok (plain { minimum := .given (.int 2) }) := read_of_reading rfl
  have hmember : readWithin [] (Value.object [("example", .int 0)])
      = .ok (plain { exampleValue := .given (.int 0) }) := read_of_reading rfl
  have hentries : readEntries []
        [(.str "name", Value.object [("nullable", .int 1)]), (.str "age", .int 5)]
      = some [("name", plain { nullable := .given true })] := by
    have hage : ¬ (Value.int 5).isMap = true := by decide
    rw [readEntries, if_pos (hmap _), hname, readEntries, if_neg hage, readEntries]
    rfl
  have hproperties : childRead (Value.keyed disorderedMembers) "properties" "properties"
        (fun _ => readProperties [])
      = some ("properties", some (.given [("name", plain { nullable := .given true })])) := by
    show some ("properties", readProperties [] (.map [(.str "name", _), (.str "age", _)])) = _
    rw [readProperties, hentries]
    rfl
  have hitems : childRead (Value.keyed disorderedMembers) "items" "items" (fun _ => readItems [])
      = some ("items", some (.given (plain { minimum := .given (.int 2) }))) := by
    show some ("items", readItems [] (.list [Value.object [("minimum", .str "2")], .int 3])) = _
    rw [readItems, if_pos (hmap _), hitem]
    rfl
  have hcomposition : childRead (Value.keyed disorderedMembers) "allOf" "all_of"
        (fun k => readComposition [] (k == "allOf"))
      = some ("all_of", some (.given [plain { exampleValue := .given (.int 0) }])) := by
    show some ("all_of", readComposition [] _ (.list [Value.object [("example", .int 0)]])) = _
    rw [readComposition, readMembers, if_pos (hmap _), hmember, readMembers]
    rfl
  have hadditional : childRead (Value.keyed disorderedMembers) "additionalProperties"
        "additional_properties" (fun _ => readAdditional [])
      = some ("additionalProperties", some (.given (.inl false))) := by
    show some ("additionalProperties", readAdditional [] (.int 0)) = _
    simp [readAdditional, Value.readBool?]
  refine read_of_reading ?_
  show Dialect.faultless ((reading [] (Value.keyed disorderedMembers)).run []) = _
  unfold reading
  rw [hproperties, hitems, hcomposition, hadditional]
  rfl

theorem spellsOnce_disordered : SpellsOnce (Value.object disorderedMembers) := by
  have hleaf : ∀ es, spellsKeysOnce (Value.keyed es) = true → inner (Value.keyed es) = [] →
      SpellsOnce (Value.object es) := by
    intro es h hinner
    refine .map h ?_
    show ∀ v ∈ inner (Value.keyed es), SpellsOnce v
    rw [hinner]
    exact fun _ hv => absurd hv List.not_mem_nil
  refine .map (by decide) ?_
  show ∀ v ∈ [Value.object [("nullable", .int 1)], .int 5, Value.object [("minimum", .str "2")],
    Value.object [("example", .int 0)], .int 0], SpellsOnce v
  simp only [List.forall_mem_cons]
  exact ⟨hleaf _ (by decide) rfl, .other rfl, hleaf _ (by decide) rfl, hleaf _ (by decide) rfl,
    .other rfl, fun _ h => absurd h List.not_mem_nil⟩

end ApiTools.Schema
