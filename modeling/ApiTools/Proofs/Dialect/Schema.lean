import ApiTools.Proofs.Schema.Core
import ApiTools.Proofs.Value.Members
import ApiTools.Schema.Reader

set_option autoImplicit false

/-!
# Schemas in the newer dialect

The dialects write schemas alike, except for the beginning of references. In a schema of the newer
dialect every reference has the newer beginning, wherever a schema may stand in it: under the
names of properties, in items, in compositions, for additional properties, and under the keys that
are not read. The schema that is read from it has the same core.
-/

namespace ApiTools.Dialect

open Schema

/-! ## Renewing references -/

/-- What stands under a key of a schema. -/
inductive Slot where
  | reference
  | properties
  /-- A schema, or a list of schemas. -/
  | schemas

/-- The keys of named schemas. Of these only the first one is read. -/
def propertyKeys : List String :=
  ["properties", "patternProperties", "definitions", "dependencies"]

/-- The keys of schemas and lists of schemas. Of these the last two are not read. -/
def schemaKeys : List String :=
  ["items", "allOf", "all_of", "oneOf", "one_of", "anyOf", "any_of", "additionalProperties",
   "additional_properties", "not", "additionalItems"]

/-- What stands under a text key. -/
def slotOf (key : String) : Option Slot :=
  if key == "$ref" || key == "ref" then some .reference
  else if propertyKeys.contains key then some .properties
  else if schemaKeys.contains key then some .schemas
  else none

/-- What stands under a key. -/
def slot? (key : Value) : Option Slot := key.asText?.bind slotOf

/-- A reference in the newer dialect; what is no text is none. -/
def renewReference : Value → Value
  | .str ref => .str (Reference.renew ref)
  | v => v

mutual

/-- A schema in the newer dialect, or each schema of a list. -/
def renewSchema : Value → Value
  | .map ms => .map (renewMembers ms)
  | .list xs => .list (renewElements xs)
  | .knot name v => .knot name (renewSchema v)
  | v => v

/-- Properties with their schemas in the newer dialect. -/
def renewProperties : Value → Value
  | .map ps => .map (renewEntries ps)
  | .knot name v => .knot name (renewProperties v)
  | v => v

/-- The members of a schema in the newer dialect. -/
def renewMembers : List (Value × Value) → List (Value × Value)
  | [] => []
  | (k, v) :: rest =>
    (k, match slot? k with
      | some .reference => renewReference v
      | some .properties => renewProperties v
      | some .schemas => renewSchema v
      | none => v) :: renewMembers rest

/-- Named schemas in the newer dialect. -/
def renewEntries : List (Value × Value) → List (Value × Value)
  | [] => []
  | (k, v) :: rest => (k, renewSchema v) :: renewEntries rest

/-- Schemas in the newer dialect. -/
def renewElements : List Value → List Value
  | [] => []
  | x :: rest => renewSchema x :: renewElements rest

end

/-- A member of a schema in the newer dialect. -/
def renewMember (key v : Value) : Value :=
  match slot? key with
  | some .reference => renewReference v
  | some .properties => renewProperties v
  | some .schemas => renewSchema v
  | none => v

theorem renewMembers_eq (ms : Members) :
    renewMembers ms = ms.map fun m => (m.1, renewMember m.1 m.2) := by
  induction ms with
  | nil => rw [renewMembers, List.map_nil]
  | cons m ms ih =>
      rw [renewMembers, List.map_cons, ih]
      rfl

theorem renewEntries_eq (ms : Members) :
    renewEntries ms = ms.map fun m => (m.1, renewSchema m.2) := by
  induction ms with
  | nil => rw [renewEntries, List.map_nil]
  | cons m ms ih => rw [renewEntries, List.map_cons, ih]

/-! ## Shapes -/

/-- Renewing does not change what kind of a value it is. -/
def SameShape (v w : Value) : Prop :=
  v.isNull = w.isNull ∧ v.isMap = w.isMap ∧ v.isList = w.isList

theorem sameShape_renewReference (v : Value) : SameShape (renewReference v) v := by
  cases v <;> exact ⟨rfl, rfl, rfl⟩

theorem sameShape_renewSchema (v : Value) : SameShape (renewSchema v) v := by
  cases v with
  | knot name w => cases w <;> exact ⟨rfl, rfl, rfl⟩
  | _ => exact ⟨rfl, rfl, rfl⟩

theorem sameShape_renewProperties (v : Value) : SameShape (renewProperties v) v := by
  cases v with
  | knot name w => cases w <;> exact ⟨rfl, rfl, rfl⟩
  | _ => exact ⟨rfl, rfl, rfl⟩

theorem sameShape_renewMember (k v : Value) : SameShape (renewMember k v) v := by
  unfold renewMember
  split
  · exact sameShape_renewReference v
  · exact sameShape_renewProperties v
  · exact sameShape_renewSchema v
  · exact ⟨rfl, rfl, rfl⟩

theorem isMisshapen_of_sameShape {k v w : Value} (h : SameShape v w) :
    isMisshapen (k, v) = isMisshapen (k, w) := by
  obtain ⟨hnull, hmap, hlist⟩ := h
  cases k with
  | str key =>
      unfold isMisshapen
      dsimp only
      rw [hnull, hmap, hlist]
  | _ => rfl

/-- The same members count. -/
theorem counted_renewMembers (ms : Members) :
    counted (renewMembers ms) = renewMembers (counted ms) := by
  unfold counted
  rw [renewMembers_eq, renewMembers_eq, List.filter_map]
  refine congrArg (List.map _) (List.filter_congr fun m _ => ?_)
  exact congrArg (!·) (isMisshapen_of_sameShape (sameShape_renewMember m.1 m.2))

/-! ## Facets -/

theorem find?_renewMembers (ms : Members) (camel snake : String) :
    Record.find? (renewMembers ms) camel snake
      = (Record.find? ms camel snake).map fun e => (e.1, renewMember (.str e.1) e.2) := by
  unfold Record.find?
  rw [renewMembers_eq, Value.member?_map, Value.member?_map]
  cases Value.member? ms camel with
  | some v => rfl
  | none =>
      show ((Value.member? ms snake).map _).map _ = ((Value.member? ms snake).map _).map _
      rw [Option.map_map, Option.map_map]
      rfl

theorem key_of_find? {ms : Members} {camel snake key : String} {v : Value}
    (h : Record.find? ms camel snake = some (key, v)) : key = camel ∨ key = snake := by
  unfold Record.find? at h
  cases hc : Value.member? ms camel with
  | some w =>
      rw [hc] at h
      injection h with h
      injection h with h _
      exact .inl h.symm
  | none =>
      rw [hc] at h
      obtain ⟨w, -, h⟩ := Option.map_eq_some_iff.1 h
      injection h with h _
      exact .inr h.symm

/-- A facet under a key that holds no schema and no reference is read as before. -/
theorem facet_renewMembers {α : Type} {camel snake : String} (hc : slotOf camel = none)
    (hs : slotOf snake = none) (ms : Members) (read : Value → Option α) :
    facet (renewMembers ms) camel snake read = facet ms camel snake read := by
  unfold facet
  rw [find?_renewMembers]
  cases hf : Record.find? ms camel snake with
  | none => rfl
  | some e =>
      obtain ⟨key, v⟩ := e
      have hkey : slotOf key = none := by
        rcases key_of_find? hf with rfl | rfl
        · exact hc
        · exact hs
      have hv : renewMember (.str key) v = v := by
        have hslot : slot? (.str key) = none := hkey
        rw [renewMember, hslot]
      dsimp only [Option.map_some]
      rw [hv]

/-- The reference is read with the newer beginning. -/
theorem renew_facet_ref (ms : Members) :
    Facet.map Reference.renew <$> facet (renewMembers ms) "$ref" "ref" Value.readText?
      = Facet.map Reference.renew <$> facet ms "$ref" "ref" Value.readText? := by
  unfold facet
  rw [find?_renewMembers]
  cases hf : Record.find? ms "$ref" "ref" with
  | none => rfl
  | some e =>
      obtain ⟨key, v⟩ := e
      have hslot : slot? (.str key) = some .reference := by
        rcases key_of_find? hf with rfl | rfl <;> rfl
      have hv : renewMember (.str key) v = renewReference v := by rw [renewMember, hslot]
      dsimp only [Option.map_some]
      rw [hv]
      cases v with
      | str ref =>
          show (pure (.given (Reference.renew (Reference.renew ref))) : Reading (Facet String)) = _
          rw [Reference.renew_renew]
          rfl
      | _ => rfl

theorem bind_congr_of_map {α γ : Type} {x y : Reading α} {f : α → α} {k : α → Reading γ}
    (h : f <$> x = f <$> y) (hk : ∀ a, k (f a) = k a) : x >>= k = y >>= k := by
  have hx : ∀ z : Reading α, z >>= k = (f <$> z) >>= k := by
    intro z
    rw [bind_map_left]
    exact congrArg (z >>= ·) (funext fun a => (hk a).symm)
  rw [hx x, h, ← hx y]

theorem renew_map_renew (r : Facet String) :
    (r.map Reference.renew).map Reference.renew = r.map Reference.renew := by
  rw [Facet.map_map]
  congr 1
  exact funext Reference.renew_renew

/-- The facets have the same core. -/
theorem coreFacets_readFacets (ms : Members) :
    coreFacets <$> readFacets (renewMembers ms) = coreFacets <$> readFacets ms := by
  unfold readFacets
  simp only [map_bind, map_pure]
  refine congr (congrArg (· >>= ·) ?_) (funext fun _ => ?_)
  · -- the keys that are no text stay
    rw [renewMembers_eq, List.filter_map, List.mapM_map]
    rfl
  · simp (disch := decide) only [facet_renewMembers, coreFacets]
    refine bind_congr_of_map (renew_facet_ref ms) fun ref => ?_
    simp only [renew_map_renew]

/-! ## Parts that are schemas -/

/-- What is read from the value under a key, if one is there. -/
def childRead {α : Type} (ms : Members) (camel snake : String)
    (read : String → Value → Option (Facet α)) : Option (String × Option (Facet α)) :=
  (Record.find? (counted ms) camel snake).map fun e => (e.1, read e.1 e.2)

/-- The reading of a schema from its members. -/
def reading (around : List Nat) (ms : Members) : Reading Schema := do
  return mk (← readFacets (counted ms))
    (← settle (childRead ms "properties" "properties" fun _ => readProperties around))
    (← settle (childRead ms "items" "items" fun _ => readItems around))
    (← settle (childRead ms "allOf" "all_of" fun k => readComposition around (k == "allOf")))
    (← settle (childRead ms "oneOf" "one_of" fun k => readComposition around (k == "oneOf")))
    (← settle (childRead ms "anyOf" "any_of" fun k => readComposition around (k == "anyOf")))
    (← settle (childRead ms "additionalProperties" "additional_properties" fun _ =>
      readAdditional around))

/-- The schema that was read if there was no fault. -/
def faultless (r : Schema × List String) : Option Schema :=
  match r with
  | (s, []) => some s
  | _ => none

theorem child?_map {α : Type} (ms : Members) (camel snake : String)
    (read : String → Value → Option (Facet α)) :
    ((child? ms camel snake).map fun (key, ⟨v, _⟩) => (key, read key v))
      = childRead ms camel snake read := by
  unfold child? childRead
  split
  · next h => exact (congrArg (Option.map fun e => (e.1, read e.1 e.2)) h).symm
  · next h => exact (congrArg (Option.map fun e => (e.1, read e.1 e.2)) h).symm

theorem readWithin_map (around : List Nat) (ms : Members) :
    (readWithin around (.map ms)).toOption = faultless ((reading around ms).run []) := by
  rw [readWithin]
  dsimp only
  rw [child?_map ms _ _ fun _ => readProperties around,
    child?_map ms _ _ fun _ => readItems around,
    child?_map ms _ _ fun k => readComposition around (k == "allOf"),
    child?_map ms _ _ fun k => readComposition around (k == "oneOf"),
    child?_map ms _ _ fun k => readComposition around (k == "anyOf"),
    child?_map ms _ _ fun _ => readAdditional around]
  unfold reading
  split
  · next s hr =>
    rw [hr]
    rfl
  · next s faults hne hr =>
    rw [hr]
    cases faults with
    | nil => exact absurd rfl hne
    | cons fault faults => rfl

/-- A schema whose members are read without a fault is read. -/
theorem read_of_reading {ms : Members} {s : Schema}
    (h : faultless ((reading [] ms).run []) = some s) : Schema.read (.map ms) = .ok s := by
  have hread := (readWithin_map [] ms).trans h
  show readWithin [] (.map ms) = _
  cases hr : readWithin [] (.map ms) with
  | error faults =>
      rw [hr] at hread
      cases hread
  | ok t =>
      rw [hr] at hread
      injection hread with hread
      rw [hread]

theorem map_settle {α β : Type} {f : Facet α → Facet β} (hf : f .absent = .absent)
    (o : Option (String × Option (Facet α))) :
    f <$> settle o = settle (o.map fun e => (e.1, e.2.map f)) := by
  rcases o with _ | ⟨key, _ | a⟩
  · show (pure (f .absent) : Reading (Facet β)) = _
    rw [hf]
    rfl
  · show f <$> (faulty key : Reading (Facet α)) = faulty key
    unfold faulty
    rw [map_bind]
    simp only [map_pure, hf]
  · rfl

/-- The core of what is read, facet by facet. -/
theorem core_reading (around : List Nat) (ms : Members) :
    core <$> reading around ms = do
      return mk (← coreFacets <$> readFacets (counted ms))
        (← settle (childRead ms "properties" "properties" fun _ v =>
          (readProperties around v).map coreProperties))
        (← settle (childRead ms "items" "items" fun _ v => (readItems around v).map coreItems))
        (← settle (childRead ms "allOf" "all_of" fun k v =>
          (readComposition around (k == "allOf") v).map coreComposition))
        (← settle (childRead ms "oneOf" "one_of" fun k v =>
          (readComposition around (k == "oneOf") v).map coreComposition))
        (← settle (childRead ms "anyOf" "any_of" fun k v =>
          (readComposition around (k == "anyOf") v).map coreComposition))
        (← settle (childRead ms "additionalProperties" "additional_properties" fun _ v =>
          (readAdditional around v).map coreAdditional)) := by
  have hchild : ∀ {α : Type} (f : Facet α → Facet α) (_ : f .absent = .absent)
      (camel snake : String) (read : String → Value → Option (Facet α)),
      settle (childRead ms camel snake fun k v => (read k v).map f)
        = f <$> settle (childRead ms camel snake read) := by
    intro α f hf camel snake read
    rw [map_settle hf]
    unfold childRead
    rw [Option.map_map]
    rfl
  unfold reading
  rw [hchild coreProperties (by rw [coreProperties]), hchild coreItems (by rw [coreItems]),
    hchild coreComposition (by rw [coreComposition]),
    hchild coreComposition (by rw [coreComposition]),
    hchild coreComposition (by rw [coreComposition]),
    hchild coreAdditional (by rw [coreAdditional])]
  simp only [map_bind, bind_map_left, map_pure, core]

theorem map_core_readWithin (around : List Nat) (ms : Members) :
    (readWithin around (.map ms)).toOption.map core
      = faultless ((core <$> reading around ms).run []) := by
  rw [readWithin_map]
  show (faultless ((reading around ms).run [])).map core
    = faultless (core ((reading around ms).run []).1, ((reading around ms).run []).2)
  generalize (reading around ms).run [] = r
  obtain ⟨s, faults⟩ := r
  cases faults <;> rfl

theorem childRead_renewMembers {α : Type} {ms : Members} {camel snake : String}
    {read read' : String → Value → Option (Facet α)}
    (h : ∀ key v, Record.find? (counted ms) camel snake = some (key, v) →
      read' key (renewMember (.str key) v) = read key v) :
    childRead (renewMembers ms) camel snake read' = childRead ms camel snake read := by
  unfold childRead
  rw [counted_renewMembers, find?_renewMembers, Option.map_map]
  cases hf : Record.find? (counted ms) camel snake with
  | none => rfl
  | some e =>
      obtain ⟨key, v⟩ := e
      exact congrArg (fun r => some (key, r)) (h key v hf)

theorem renewMember_of_schemas {key : String} (h : slotOf key = some .schemas) (v : Value) :
    renewMember (.str key) v = renewSchema v := by
  have hslot : slot? (.str key) = some .schemas := h
  rw [renewMember, hslot]

/-! ## Reading renewed schemas -/

mutual

/-- A schema has the same core in the newer dialect. -/
theorem readWithin_renewSchema (around : List Nat) (v : Value) :
    (readWithin around (renewSchema v)).toOption.map core
      = (readWithin around v).toOption.map core := by
  match v with
  | .map ms =>
      have hproperties : childRead (renewMembers ms) "properties" "properties"
            (fun _ v => (readProperties around v).map coreProperties)
          = childRead ms "properties" "properties"
            fun _ v => (readProperties around v).map coreProperties := by
        refine childRead_renewMembers fun key v hf => ?_
        have := sizeOf_find? hf
        obtain rfl : key = "properties" := (key_of_find? hf).elim id id
        exact readProperties_renewProperties around v
      have hitems : childRead (renewMembers ms) "items" "items"
            (fun _ v => (readItems around v).map coreItems)
          = childRead ms "items" "items" fun _ v => (readItems around v).map coreItems := by
        refine childRead_renewMembers fun key v hf => ?_
        have := sizeOf_find? hf
        obtain rfl : key = "items" := (key_of_find? hf).elim id id
        exact readItems_renewSchema around v
      have hcomposition : ∀ camel snake, slotOf camel = some .schemas →
          slotOf snake = some .schemas → childRead (renewMembers ms) camel snake
            (fun k v => (readComposition around (k == camel) v).map coreComposition)
          = childRead ms camel snake
            fun k v => (readComposition around (k == camel) v).map coreComposition := by
        intro camel snake hc hs
        refine childRead_renewMembers fun key v hf => ?_
        have := sizeOf_find? hf
        have hkey : slotOf key = some .schemas := by
          rcases key_of_find? hf with rfl | rfl
          · exact hc
          · exact hs
        rw [renewMember_of_schemas hkey]
        exact readComposition_renewSchema around (key == camel) v
      have hadditional : childRead (renewMembers ms) "additionalProperties"
            "additional_properties" (fun _ v => (readAdditional around v).map coreAdditional)
          = childRead ms "additionalProperties" "additional_properties"
            fun _ v => (readAdditional around v).map coreAdditional := by
        refine childRead_renewMembers fun key v hf => ?_
        have := sizeOf_find? hf
        rw [renewMember_of_schemas (by rcases key_of_find? hf with rfl | rfl <;> rfl)]
        exact readAdditional_renewSchema around v
      rw [renewSchema, map_core_readWithin, map_core_readWithin, core_reading, core_reading,
        counted_renewMembers, coreFacets_readFacets, hproperties, hitems,
        hcomposition "allOf" "all_of" rfl rfl, hcomposition "oneOf" "one_of" rfl rfl,
        hcomposition "anyOf" "any_of" rfl rfl, hadditional]
  | .knot name w =>
      rw [renewSchema, readWithin, readWithin]
      by_cases ha : around.contains name = true
      · rw [if_pos ha, if_pos ha]
      · rw [if_neg ha, if_neg ha]
        exact readWithin_renewSchema (name :: around) w
  | .list xs =>
      rw [renewSchema, readWithin, readWithin]
      · intro _ h
        cases h
      · intro _ _ h
        cases h
      · intro _ h
        cases h
      · intro _ _ h
        cases h
  | .null | .bool _ | .int _ | .float _ | .str _ | .bytes _ | .date _ | .dateTime _ | .pair _ _
  | .set _ => rfl
termination_by (sizeOf v, 0)
decreasing_by all_goals (simp at *; omega)

theorem readProperties_renewProperties (around : List Nat) (v : Value) :
    (readProperties around (renewProperties v)).map coreProperties
      = (readProperties around v).map coreProperties := by
  match v with
  | .map ps =>
      have hgiven : ∀ r : Option (List (String × Schema)),
          (r.map fun entries => Facet.given (Named.ofList entries)).map coreProperties
            = (r.map coreEntries).map fun entries => .given (Named.ofList entries) := by
        intro r
        rw [Option.map_map, Option.map_map]
        congr 1
        funext entries
        show coreProperties (.given (Named.ofList entries)) = _
        rw [coreProperties, coreEntries_eq, Named.ofList_map, ← coreEntries_eq]
        rfl
      rw [renewProperties, readProperties, readProperties, hgiven, hgiven,
        readEntries_renewEntries around ps]
  | .knot name w =>
      rw [renewProperties, readProperties, readProperties]
      by_cases ha : around.contains name = true
      · rw [if_pos ha, if_pos ha]
      · rw [if_neg ha, if_neg ha]
        exact readProperties_renewProperties (name :: around) w
  | .null | .bool _ | .int _ | .float _ | .str _ | .bytes _ | .date _ | .dateTime _ | .pair _ _
  | .set _ | .list _ => rfl
termination_by (sizeOf v, 1)
decreasing_by all_goals (simp at *; omega)

theorem readItems_renewSchema (around : List Nat) (v : Value) :
    (readItems around (renewSchema v)).map coreItems = (readItems around v).map coreItems := by
  have hgiven : ∀ r : Option Schema,
      (r.map Facet.given).map coreItems = (r.map core).map Facet.given := by
    intro r
    cases r <;> rfl
  match v with
  | .map ms =>
      rw [renewSchema, readItems, readItems, hgiven, hgiven, ← renewSchema]
      exact congrArg (Option.map Facet.given) (readWithin_renewSchema around (.map ms))
  | .list [] => rfl
  | .list (x :: xs) =>
      rw [renewSchema, renewElements, readItems, readItems, (sameShape_renewSchema x).2.1]
      by_cases hx : x.isMap = true
      · rw [if_pos hx, if_pos hx, hgiven, hgiven, readWithin_renewSchema around x]
      · rw [if_neg hx, if_neg hx]
  | .knot name w =>
      rw [renewSchema, readItems, readItems]
      by_cases ha : around.contains name = true
      · rw [if_pos ha, if_pos ha]
      · rw [if_neg ha, if_neg ha]
        exact readItems_renewSchema (name :: around) w
  | .null | .bool _ | .int _ | .float _ | .str _ | .bytes _ | .date _ | .dateTime _ | .pair _ _
  | .set _ => rfl
termination_by (sizeOf v, 1)
decreasing_by all_goals (simp at *; omega)

theorem readComposition_renewSchema (around : List Nat) (loose : Bool) (v : Value) :
    (readComposition around loose (renewSchema v)).map coreComposition
      = (readComposition around loose v).map coreComposition := by
  match v with
  | .list xs =>
      have hgiven : ∀ r : Option (List Schema),
          (r.map Facet.given).map coreComposition = (r.map coreMembers).map Facet.given := by
        intro r
        cases r <;> rfl
      rw [renewSchema, readComposition, readComposition, hgiven, hgiven,
        readMembers_renewElements around loose xs]
  | .knot name w =>
      rw [renewSchema, readComposition, readComposition]
      by_cases ha : around.contains name = true
      · rw [if_pos ha, if_pos ha]
      · rw [if_neg ha, if_neg ha]
        exact readComposition_renewSchema (name :: around) loose w
  | .map ms => simp [renewSchema, readComposition]
  | .null | .bool _ | .int _ | .float _ | .str _ | .bytes _ | .date _ | .dateTime _ | .pair _ _
  | .set _ => rfl
termination_by (sizeOf v, 1)
decreasing_by all_goals (simp at *; omega)

theorem readAdditional_renewSchema (around : List Nat) (v : Value) :
    (readAdditional around (renewSchema v)).map coreAdditional
      = (readAdditional around v).map coreAdditional := by
  match v with
  | .map ms =>
      have hgiven : ∀ r : Option Schema,
          (r.map fun s => (.given (.inr s) : Facet (Bool ⊕ Schema))).map coreAdditional
            = (r.map core).map fun s => .given (.inr s) := by
        intro r
        cases r <;> rfl
      rw [renewSchema, readAdditional, readAdditional, hgiven, hgiven, ← renewSchema]
      exact congrArg (Option.map _) (readWithin_renewSchema around (.map ms))
  | .knot name w =>
      rw [renewSchema, readAdditional, readAdditional]
      by_cases ha : around.contains name = true
      · rw [if_pos ha, if_pos ha]
      · rw [if_neg ha, if_neg ha]
        exact readAdditional_renewSchema (name :: around) w
  | .list xs => simp [renewSchema, readAdditional, Value.readBool?, Value.readText?]
  | .null | .bool _ | .int _ | .float _ | .str _ | .bytes _ | .date _ | .dateTime _ | .pair _ _
  | .set _ => rfl
termination_by (sizeOf v, 1)
decreasing_by all_goals (simp at *; omega)

theorem readEntries_renewEntries (around : List Nat) (ps : List (Value × Value)) :
    (readEntries around (renewEntries ps)).map coreEntries
      = (readEntries around ps).map coreEntries := by
  match ps with
  | [] => rfl
  | (k, v) :: rest =>
      have hcons : ∀ (o : Option Schema) (r : Option (List (String × Schema))),
          (do
            let s ← o
            return (k.plainText, s) :: (← r)).map coreEntries
            = (o.map core).bind fun s => (r.map coreEntries).map ((k.plainText, s) :: ·) := by
        intro o r
        cases o <;> cases r <;> rfl
      rw [renewEntries, readEntries, readEntries, (sameShape_renewSchema v).2.1]
      by_cases hv : v.isMap = true
      · rw [if_pos hv, if_pos hv, hcons, hcons, readWithin_renewSchema around v,
          readEntries_renewEntries around rest]
      · rw [if_neg hv, if_neg hv]
        exact readEntries_renewEntries around rest
termination_by (sizeOf ps, 1)
decreasing_by all_goals (simp at *; omega)

theorem readMembers_renewElements (around : List Nat) (loose : Bool) (xs : List Value) :
    (readMembers around loose (renewElements xs)).map coreMembers
      = (readMembers around loose xs).map coreMembers := by
  match xs with
  | [] => rfl
  | x :: rest =>
      have hcons : ∀ (o : Option Schema) (r : Option (List Schema)),
          (do
            let s ← o
            return s :: (← r)).map coreMembers
            = (o.map core).bind fun s => (r.map coreMembers).map (s :: ·) := by
        intro o r
        cases o <;> cases r <;> rfl
      rw [renewElements, readMembers, readMembers, (sameShape_renewSchema x).2.1]
      by_cases hx : x.isMap = true
      · rw [if_pos hx, if_pos hx, hcons, hcons, readWithin_renewSchema around x,
          readMembers_renewElements around loose rest]
      · rw [if_neg hx, if_neg hx]
        by_cases hl : loose = true
        · rw [if_pos hl, if_pos hl]
          exact readMembers_renewElements around loose rest
        · rw [if_neg hl, if_neg hl]
termination_by (sizeOf xs, 1)
decreasing_by all_goals (simp at *; omega)

end

/-- **A schema in the newer dialect is read if it is read in the older one, with the same core.** -/
theorem read_renewSchema (v : Value) :
    (Schema.read (renewSchema v)).toOption.map core = (Schema.read v).toOption.map core :=
  readWithin_renewSchema [] v

end ApiTools.Dialect
