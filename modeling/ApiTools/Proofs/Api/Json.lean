import ApiTools.Proofs.Api.Malformed
import ApiTools.Proofs.Dialect.Parameters
import ApiTools.Proofs.Schema.Json

set_option autoImplicit false

/-!
# Interfaces that are read from JSON

The schemas of an interface stand in its document: under a parameter, under a media type, in a
group of named schemas, or where a reference leads. Only that of a parameter in the older dialect
is put together from facets. So all of them hold values of JSON if the document is one.
-/

namespace ApiTools

open Schema (HoldsJson RegistryHoldsJson)

/-- The schemas of an operation, those of its parameters and those of its body, hold values of
JSON. -/
structure Endpoint.HoldsJson (e : Endpoint) : Prop where
  parameters : ∀ p ∈ e.parameters, ∀ s, p.schema = some s → s.HoldsJson
  body : ∀ b, e.requestBody = some b → ∀ m ∈ b.content, ∀ s, m.2 = some s → s.HoldsJson

/-- All schemas of an interface hold values of JSON. -/
structure Api.HoldsJson (a : Api) : Prop where
  schemas : RegistryHoldsJson a.schemas
  endpoints : ∀ e ∈ a.endpoints, e.HoldsJson

namespace Api

/-! ## Where schemas stand -/

variable {doc raw v : Value}

theorem isJson_of_schemaIn? (h : raw.isJson = true) (hv : schemaIn? raw = some v) :
    v.isJson = true :=
  Value.isJson_of_get? h (Option.filter_eq_some_iff.1 hv).1

theorem isJsonMembers_of_get? {key : String} {ms : Members} (h : raw.isJson = true)
    (hms : (raw.get? key).bind Value.asMap? = some ms) : Value.isJsonMembers ms = true := by
  obtain ⟨w, hw, hms⟩ := Option.bind_eq_some_iff.1 hms
  exact Value.asMap?_of_isJson (Value.isJson_of_get? h hw) hms

/-- The schema that is put together from the facets of a parameter is one of JSON. -/
theorem isJson_inlineSchema (h : raw.isJson = true) : (inlineSchema raw).isJson = true := by
  -- the keys are those that are looked for, without those that are not found
  have hkeys : ∀ ks : List String, (Named.names (ks.filterMap fun k =>
      (raw.get? k).map fun v => (k, v))).Sublist ks := by
    intro ks
    induction ks with
    | nil => exact List.Sublist.refl []
    | cons k ks ih =>
        rw [List.filterMap_cons]
        cases raw.get? k with
        | none => exact ih.cons k
        | some w => exact ih.cons_cons k
  refine (Value.isJson_object _).2 ⟨(hkeys inlineKeys).nodup (by decide), ?_⟩
  intro e he
  obtain ⟨k, -, he⟩ := List.mem_filterMap.1 he
  obtain ⟨w, hw, rfl⟩ := Option.map_eq_some_iff.1 he
  exact Value.isJson_of_get? h hw

theorem isJson_of_schemaSource? {place : ParameterPlace} (h : raw.isJson = true)
    (hv : schemaSource? raw place = some v) : v.isJson = true := by
  unfold schemaSource? at hv
  split at hv
  · next s hs =>
    obtain rfl := Option.some.inj hv
    exact isJson_of_schemaIn? h hs
  · next media hmedia =>
    obtain ⟨m, hm, hv⟩ := List.exists_of_findSome?_eq_some hv
    exact isJson_of_schemaIn?
      (Value.isJson_of_mem_members (isJsonMembers_of_get? h hmedia) hm) hv
  · split at hv
    · obtain rfl := Option.some.inj hv
      exact isJson_inlineSchema h
    · cases hv

theorem isJson_descend {ks : List String} (h : raw.isJson = true)
    (hv : descend raw ks = some v) : v.isJson = true := by
  induction ks generalizing raw with
  | nil => exact Option.some.inj hv ▸ h
  | cons k ks ih =>
      obtain ⟨w, hw, hv⟩ := Option.bind_eq_some_iff.1 hv
      exact ih (Value.isJson_of_get? h hw) hv

theorem isJsonMembers_membersOf (h : doc.isJson = true) :
    Value.isJsonMembers (membersOf doc) = true := by
  unfold membersOf
  cases hms : doc.asMap? with
  | none => rfl
  | some ms => exact Value.asMap?_of_isJson h hms

theorem isJson_lookup {ref : Value} (h : doc.isJson = true)
    (hv : lookup (membersOf doc) ref = some v) : v.isJson = true := by
  obtain ⟨s, -, hv⟩ := Option.bind_eq_some_iff.1 hv
  obtain ⟨ks, -, hv⟩ := Option.bind_eq_some_iff.1 hv
  refine isJson_descend ?_ hv
  rw [Value.isJson]
  exact isJsonMembers_membersOf h

/-! ## Parameters -/

theorem schema_of_readDirect {label : String} {p : Parameter}
    (h : (readDirect label raw).1 = some p) :
    ∃ place label', p.schema = (readParameterSchema raw place label').1 := by
  unfold readDirect at h
  dsimp only at h
  split at h
  · cases h
  · split at h
    · cases h
    · split at h
      · cases h
      · next place _ =>
        obtain rfl := Option.some.inj h
        exact ⟨place, _, rfl⟩

theorem holdsJson_of_readDirect {label : String} {p : Parameter} (hraw : raw.isJson = true)
    (h : (readDirect label raw).1 = some p) : ∀ s, p.schema = some s → s.HoldsJson := by
  intro s hs
  obtain ⟨place, label', hschema⟩ := schema_of_readDirect h
  rw [hschema, Dialect.readParameterSchema_fst] at hs
  obtain ⟨v, hv, hs⟩ := Option.bind_eq_some_iff.1 hs
  exact Schema.holdsJson_of_read (isJson_of_schemaSource? hraw hv) hs

namespace Site

/-- A parameter holds values of JSON, whether it is written in place or by reference. -/
theorem holdsJson_parameter? {s : Site} {p : Parameter} (hdoc : doc.isJson = true)
    (hraw : raw.isJson = true) (h : s.parameter? doc raw = some p) :
    ∀ t, p.schema = some t → t.HoldsJson := by
  unfold parameter? readParameter at h
  split at h
  · exact holdsJson_of_readDirect hraw h
  · next ref _ =>
    split at h
    · next target htarget =>
      obtain ⟨w, hw, htarget⟩ := Option.bind_eq_some_iff.1 htarget
      split at htarget
      · cases htarget
      · obtain rfl := Option.some.inj htarget
        exact holdsJson_of_readDirect (isJson_lookup hdoc hw) h
    · cases h

end Site

theorem isJson_of_mem_listOf {x : Value} (h : raw.isJson = true) (hx : x ∈ listOf raw) :
    x.isJson = true := by
  unfold listOf at hx
  cases hxs : raw.asList? with
  | none =>
      rw [hxs] at hx
      cases hx
  | some xs =>
      rw [hxs] at hx
      exact (Value.isJsonList_iff xs).1 (Value.asList?_of_isJson h hxs) x hx

/-- The parameters of an operation as they are written stand in a list of the operation or of its
path. -/
theorem isJson_of_rawParameters {ofPath operation : Value} {raws : List Value}
    (hp : ofPath.isJson = true) (ho : operation.isJson = true)
    (h : rawParameters ofPath operation = some raws) : ∀ x ∈ raws, x.isJson = true := by
  have hown : ∀ x ∈ listOf (operation.getD "parameters"), x.isJson = true := fun x =>
    isJson_of_mem_listOf (Value.isJson_getD ho _)
  intro x hx
  unfold rawParameters at h
  dsimp only at h
  split at h
  · unfold mergeRaw at h
    dsimp only at h
    split at h
    · obtain rfl := Option.some.inj h
      rcases List.mem_append.1 hx with hx | hx
      · exact isJson_of_mem_listOf hp (List.mem_filter.1 hx).1
      · exact hown x hx
    · cases h
  · obtain rfl := Option.some.inj h
    exact hown x hx

/-! ## Bodies -/

theorem holdsJson_of_readContent {ms : Members} (h : Value.isJsonMembers ms = true)
    {content : List (String × Option Schema)} (hc : readContent ms = some content) :
    ∀ m ∈ content, ∀ s, m.2 = some s → s.HoldsJson := by
  intro m hm s hs
  obtain ⟨entries, hentries, rfl⟩ := Option.map_eq_some_iff.1 hc
  obtain ⟨x, hx, hentry⟩ := exists_of_mem_mapM hentries (Named.mem_of_mem_ofList hm)
  split at hentry
  · next v hv =>
    obtain ⟨t, ht, rfl⟩ := Option.map_eq_some_iff.1 hentry
    obtain rfl : t = s := Option.some.inj hs
    exact Schema.holdsJson_of_read
      (isJson_of_schemaIn? (Value.isJson_of_mem_members h hx) hv) ht
  · obtain rfl := Option.some.inj hentry
    cases hs

theorem holdsJson_of_readDirectBody {b : RequestBody} (hraw : raw.isJson = true)
    (h : readDirectBody raw = some b) : ∀ m ∈ b.content, ∀ s, m.2 = some s → s.HoldsJson := by
  unfold readDirectBody at h
  obtain ⟨content, hc, rfl⟩ := Option.map_eq_some_iff.1 h
  split at hc
  · next ms hms => exact holdsJson_of_readContent (isJsonMembers_of_get? hraw hms) hc
  · obtain rfl := Option.some.inj hc
    simp

theorem isJson_followedBody (hdoc : doc.isJson = true) (hraw : raw.isJson = true) :
    (followedBody (membersOf doc) raw).isJson = true := by
  unfold followedBody
  split
  · next ref _ =>
    cases hv : lookup (membersOf doc) ref with
    | none => rfl
    | some v => exact isJson_lookup hdoc hv
  · exact hraw

theorem holdsJson_of_readBody {b : RequestBody} (hdoc : doc.isJson = true)
    (hraw : raw.isJson = true) (h : (readBody (membersOf doc) raw).1 = .ok (some b)) :
    ∀ m ∈ b.content, ∀ s, m.2 = some s → s.HoldsJson := by
  have h : (if raw.isNull then _ else if !(followedBody (membersOf doc) raw).isMap then _ else _ :
    Except Unit (Option RequestBody) × List Log.Note).1 = .ok (some b) := h
  split at h
  · cases h
  · split at h
    · cases h
    · split at h
      · next b' hb =>
        injection h with h
        obtain rfl : b' = b := Option.some.inj h
        exact holdsJson_of_readDirectBody (isJson_followedBody hdoc hraw) hb
      · cases h

/-! ## Interfaces -/

theorem isJson_of_mem_sites {s : Site} (hdoc : doc.isJson = true) (h : s ∈ sites doc) :
    s.item.isJson = true ∧ s.operation.isJson = true := by
  obtain ⟨path, hpath, hs⟩ := List.mem_flatMap.1 h
  have hpath : path.2.isJson = true := by
    cases hpaths : (Value.member? (membersOf doc) "paths").bind Value.asMap? with
    | none =>
        rw [hpaths] at hpath
        cases hpath
    | some paths =>
        rw [hpaths] at hpath
        obtain ⟨w, hw, hpaths⟩ := Option.bind_eq_some_iff.1 hpaths
        have hw := Value.isJson_of_member? (isJsonMembers_membersOf hdoc) hw
        exact Value.isJson_of_mem_members (Value.asMap?_of_isJson hw hpaths) hpath
  obtain ⟨m, hm, hs⟩ := List.mem_filterMap.1 hs
  obtain ⟨method, -, hs⟩ := Option.bind_eq_some_iff.1 hs
  split at hs
  · obtain rfl := Option.some.inj hs
    exact ⟨hpath, Value.isJson_of_mem_members (isJsonMembers_membersOf hpath) hm⟩
  · cases hs

theorem holdsJson_of_endpoint? {s : Site} {merge : Bool} {e : Endpoint} (hdoc : doc.isJson = true)
    (hs : s ∈ sites doc) (h : s.endpoint? doc merge = some e) : e.HoldsJson := by
  obtain ⟨hitem, hoperation⟩ := isJson_of_mem_sites hdoc hs
  rw [Site.endpoint?_eq] at h
  obtain ⟨raws, hraws, h⟩ := Option.bind_eq_some_iff.1 h
  obtain ⟨body, hbody, h⟩ := Option.bind_eq_some_iff.1 h
  obtain ⟨codes, -, rfl⟩ := Option.map_eq_some_iff.1 h
  have hofPath : (s.ofPath merge).isJson = true := by
    unfold Site.ofPath
    split
    · exact Value.isJson_getD hitem _
    · rfl
  refine ⟨fun p hp => ?_, fun b hb => ?_⟩
  · obtain ⟨raw, hraw, hp⟩ := List.mem_filterMap.1 hp
    exact Site.holdsJson_parameter? hdoc
      (isJson_of_rawParameters hofPath hoperation hraws raw hraw) hp
  · -- the body of an operation that is kept was read
    obtain rfl : body = some b := hb
    have hread : (readBody (membersOf doc) (s.operation.getD "requestBody")).1 = .ok (some b) := by
      cases hr : (readBody (membersOf doc) (s.operation.getD "requestBody")).1 with
      | error u =>
          rw [hr] at hbody
          cases hbody
      | ok body =>
          rw [hr] at hbody
          rw [Option.some.inj hbody]
    exact holdsJson_of_readBody hdoc (Value.isJson_getD hoperation _) hread

theorem isJsonMembers_schemasOf (hdoc : doc.isJson = true) :
    Value.isJsonMembers (schemasOf doc) = true := by
  have hms := isJsonMembers_membersOf hdoc
  have hcomponents : ((Value.member? (membersOf doc) "components").getD .null).isJson = true := by
    cases hw : Value.member? (membersOf doc) "components" with
    | none => rfl
    | some w => exact Value.isJson_of_member? hms hw
  unfold schemasOf group
  dsimp only
  split
  · next ms hget => exact isJsonMembers_of_get? hcomponents hget
  · next ms _ hget =>
    obtain ⟨w, hw, hget⟩ := Option.bind_eq_some_iff.1 hget
    exact Value.asMap?_of_isJson (Value.isJson_of_member? hms hw) hget
  · rfl

theorem registryHoldsJson (hdoc : doc.isJson = true) :
    RegistryHoldsJson (readRegistry (membersOf doc)).1 := by
  intro n s hs
  rw [readRegistry_fst] at hs
  obtain ⟨m, hm, hread⟩ := List.mem_filterMap.1 (Named.mem_of_mem_ofList (Named.mem_of_get? hs))
  unfold namedSchema? at hread
  split at hread
  · obtain ⟨t, ht, hread⟩ := Option.map_eq_some_iff.1 hread
    injection hread with _ hts
    exact hts ▸ Schema.holdsJson_of_read
      (Value.isJson_of_mem_members (isJsonMembers_schemasOf hdoc) hm) ht
  · cases hread

/-- An interface that is read from a document in JSON holds values of JSON. -/
theorem holdsJson_of_read {merge : Bool} {a : Api} (hdoc : doc.isJson = true)
    (h : (read doc merge).1 = .ok a) : a.HoldsJson := by
  refine ⟨?_, fun e he => ?_⟩
  · have hmap : doc.isMap = true := by
      obtain ⟨paths, hpaths, -⟩ := of_read h
      rw [Value.isMap_eq]
      unfold membersOf at hpaths
      cases hms : doc.asMap? with
      | none =>
          rw [hms] at hpaths
          cases hpaths
      | some ms => rfl
    rcases read_fst hmap merge with ⟨-, hread⟩ | ⟨f, -, -, hread⟩ |
      ⟨schemes, b, -, -, hread, -, hschemas, -⟩
    · rw [h] at hread
      cases hread
    · rw [h] at hread
      cases hread
    · rw [h] at hread
      obtain rfl := Except.ok.inj hread
      rw [hschemas]
      exact registryHoldsJson hdoc
  · rw [endpoints_eq h] at he
    obtain ⟨s, hs, he⟩ := List.mem_filterMap.1 he
    exact holdsJson_of_endpoint? hdoc hs he

end Api

end ApiTools
