import ApiTools.Proofs.Api.PathParameters
import ApiTools.Proofs.Dialect.Document
import ApiTools.Proofs.Tool.Core

set_option autoImplicit false

/-!
# Parameters in the newer dialect

A parameter of the path, the query or the headers is read alike in both dialects, up to the core
of its schema: the newer one reads under a schema what the older one puts together from facets.
The body is a parameter in the older dialect and stands apart in the newer one, with the same
core. As a parameter it has to have a name, since it is not read otherwise.
-/

namespace ApiTools.Dialect

open Api (Site inlineKeys inlineSchema schemaIn? schemaSource? readParameterSchema readDirect)

/-! ## Single parameters -/

theorem get?_renewParameter {key : String} (hk : key ∉ inlineKeys) (hs : key ≠ "schema")
    (raw : Value) : (renewParameter raw).get? key = raw.get? key := by
  unfold renewParameter
  split
  · refine Value.get?_mapMembers_of_eq (fun ms => ?_) raw
    rw [Value.member?_append, Value.member?_without ms hk, Value.member?_cons_str,
      if_neg (Ne.symm hs), Value.member?_nil, Option.or_none]
  · rfl

theorem getD_renewParameter {key : String} (hk : key ∉ inlineKeys) (hs : key ≠ "schema")
    (raw : Value) : (renewParameter raw).getD key = raw.getD key := by
  unfold Value.getD
  rw [get?_renewParameter hk hs]

theorem isMap_renewParameter (raw : Value) : (renewParameter raw).isMap = raw.isMap := by
  unfold renewParameter
  split
  · exact Value.isMap_mapMembers _ raw
  · rfl

/-- Only a mapping has a member. -/
theorem exists_asMap?_of_get? {v : Value} {key : String} (h : (v.get? key).isSome = true) :
    ∃ ms, v.asMap? = some ms := by
  rw [Value.get?_eq_bind] at h
  cases hv : v.asMap? with
  | none =>
      rw [hv] at h
      cases h
  | some ms => exact ⟨ms, rfl⟩

/-- The facets of a parameter stand under its schema. -/
theorem schemaIn?_renewParameter {raw : Value} (ht : (raw.get? "type").isSome = true)
    (hs : raw.get? "schema" = none) :
    schemaIn? (renewParameter raw) = some (renewSchema (inlineSchema raw)) := by
  obtain ⟨ms, hms⟩ := exists_asMap?_of_get? ht
  have hmap : (renewSchema (inlineSchema raw)).isMap = true :=
    (sameShape_renewSchema (inlineSchema raw)).2.1
  have hfree : Value.member? ms "schema" = none := by
    rw [Value.get?_eq_bind, hms] at hs
    exact hs
  have hget : (renewParameter raw).get? "schema" = some (renewSchema (inlineSchema raw)) := by
    rw [renewParameter, if_pos ht, Value.get?_mapMembers, hms, Option.bind_some,
      Value.member?_append, Value.member?_without ms (by decide), hfree, Value.member?_cons_str,
      if_pos rfl, Option.none_or]
  unfold schemaIn?
  rw [hget, Option.filter_some, if_pos hmap]

theorem readParameterSchema_fst (raw : Value) (place : ParameterPlace) (label : String) :
    (readParameterSchema raw place label).1
      = (schemaSource? raw place).bind fun v => (Schema.read v).toOption := by
  unfold readParameterSchema
  cases schemaSource? raw place with
  | none => rfl
  | some v =>
      dsimp only [Option.bind_some]
      cases Schema.read v <;> rfl

/-- A parameter other than a body has the same schema, up to its core. -/
theorem core_readParameterSchema {raw : Value} {place : ParameterPlace} (hb : place ≠ .body)
    (hs : raw.get? "schema" = none) (hc : raw.get? "content" = none) (label : String) :
    (readParameterSchema (renewParameter raw) place label).1.map Schema.core
      = (readParameterSchema raw place label).1.map Schema.core := by
  by_cases ht : (raw.get? "type").isSome = true
  · have hold : schemaSource? raw place = some (inlineSchema raw) := by
      have hplace : (place != .body) = true := by simpa using hb
      have hin : schemaIn? raw = none := by
        unfold schemaIn?
        rw [hs]
        rfl
      unfold schemaSource?
      rw [hin, hc, ht, hplace]
      rfl
    have hnew : schemaSource? (renewParameter raw) place
        = some (renewSchema (inlineSchema raw)) := by
      unfold schemaSource?
      rw [schemaIn?_renewParameter ht hs]
    rw [readParameterSchema_fst, readParameterSchema_fst, hold, hnew]
    exact read_renewSchema (inlineSchema raw)
  · rw [renewParameter, if_neg ht]

/-- A parameter other than a body is read alike, up to the core of its schema. -/
theorem core_readDirect {raw : Value} (hb : standsIn "body" raw = false)
    (hs : raw.get? "schema" = none) (hc : raw.get? "content" = none) (label : String) :
    (readDirect label (renewParameter raw)).1.map Parameter.core
      = (readDirect label raw).1.map Parameter.core := by
  have hmember : ∀ key, key ∉ inlineKeys → key ≠ "schema" →
      (renewParameter raw).getD key = raw.getD key := by
    intro key hk hs
    exact getD_renewParameter hk hs raw
  unfold readDirect
  dsimp only
  rw [isMap_renewParameter, hmember "name" (by decide) (by decide),
    hmember "in" (by decide) (by decide), hmember "required" (by decide) (by decide),
    hmember "description" (by decide) (by decide)]
  by_cases hmap : raw.isMap = true
  · rw [hmap]
    by_cases htruthy : (raw.getD "name").isTruthy = true
    · rw [htruthy]
      cases hplace : (raw.getD "in").asText?.bind ParameterPlace.ofName? with
      | none => rfl
      | some place =>
          -- the place is not that of a body, since the text would say so
          have hne : place ≠ .body := by
            rintro rfl
            obtain ⟨t, ht, hof⟩ := Option.bind_eq_some_iff.1 hplace
            have hbody : standsIn "body" raw = true := by
              unfold standsIn
              rw [ht, ← Site.name_of_ofName? hof]
              rfl
            rw [hb] at hbody
            cases hbody
          have hschema := core_readParameterSchema hne hs hc
            ("'" ++ (raw.getD "name").plainText ++ "' in " ++ label)
          show some (Parameter.core _) = some (Parameter.core _)
          unfold Parameter.core
          dsimp only
          rw [hschema]
    · simp only [Bool.not_eq_true] at htruthy
      rw [htruthy]
      rfl
  · simp only [Bool.not_eq_true] at hmap
    rw [hmap]
    rfl

/-- The place of a parameter is the one that is written. -/
theorem standsIn_eq {label : String} {raw : Value} {p : Parameter}
    (h : (readDirect label raw).1 = some p) (place : String) :
    standsIn place raw = (p.place.name == place) := by
  obtain ⟨-, -, -, hin, -⟩ := Site.of_readDirect h
  unfold standsIn
  rw [hin]
  rfl

/-! ## Parameters in a place -/

/-- A written parameter if it is read in a place, with the core of its schema. -/
def coreIn (label : String) (place : ParameterPlace) (raw : Value) : Option Parameter :=
  ((readDirect label raw).1.filter (·.place = place)).map Parameter.core

theorem filterMap_coreIn (label : String) (place : ParameterPlace) (raws : List Value) :
    ((raws.filterMap fun raw => (readDirect label raw).1).filter (·.place = place)).map
        Parameter.core
      = raws.filterMap (coreIn label place) := by
  rw [List.filter_filterMap, List.map_filterMap]
  rfl

theorem coreIn_of_standsIn {other : String} {raw : Value} (h : standsIn other raw = true)
    {place : ParameterPlace} (hne : place.name ≠ other) (label : String) :
    coreIn label place raw = none := by
  unfold coreIn
  cases hp : (readDirect label raw).1 with
  | none => rfl
  | some p =>
      rw [standsIn_eq hp, beq_iff_eq] at h
      have hplace : ¬ p.place = place := by
        rintro rfl
        exact hne h
      rw [Option.filter_some, if_neg (by simpa using hplace)]
      rfl

theorem coreIn_of_not_standsIn {place : ParameterPlace} {raw : Value}
    (h : standsIn place.name raw = false) (label : String) : coreIn label place raw = none := by
  unfold coreIn
  cases hp : (readDirect label raw).1 with
  | none => rfl
  | some p =>
      have hplace : ¬ p.place = place := by
        rintro rfl
        rw [standsIn_eq hp, beq_self_eq_true] at h
        cases h
      rw [Option.filter_some, if_neg (by simpa using hplace)]
      rfl

theorem coreIn_renewParameter {raw : Value} (hb : standsIn "body" raw = false)
    (hs : raw.get? "schema" = none) (hc : raw.get? "content" = none) (label : String)
    (place : ParameterPlace) :
    coreIn label place (renewParameter raw) = coreIn label place raw := by
  have hcomm : ∀ o : Option Parameter, (o.filter (·.place = place)).map Parameter.core
      = (o.map Parameter.core).filter (·.place = place) := by
    intro o
    cases o with
    | none => rfl
    | some p =>
        show _ = (some p.core).filter _
        rw [Option.filter_some, Option.filter_some]
        show Option.map _ (if decide (p.place = place) then _ else _)
          = if decide (p.place = place) then _ else _
        split <;> rfl
  unfold coreIn
  rw [hcomm, hcomm, core_readDirect hb hs hc]

section

variable {operation : Value}

/-- The parameters of the path, the query and the headers are the same, up to cores. -/
theorem filterMap_coreIn_renewParameters (h : IsOlderOperation operation) (label : String)
    {place : ParameterPlace} (hb : place ≠ .body) (hf : place ≠ .formData) :
    (renewParameters (rawsOf operation)).filterMap (coreIn label place)
      = (rawsOf operation).filterMap (coreIn label place) := by
  unfold renewParameters
  rw [List.filterMap_map, List.filterMap_filter]
  refine List.filterMap_congr fun raw hraw => ?_
  rw [Function.comp_apply]
  by_cases hbody : standsIn "body" raw = true
  · rw [hbody, coreIn_of_standsIn hbody (by cases place <;> simp_all [ParameterPlace.name])]
    rfl
  · simp only [Bool.not_eq_true] at hbody
    by_cases hform : standsIn "formData" raw = true
    · rw [hform, coreIn_of_standsIn hform (by cases place <;> simp_all [ParameterPlace.name])]
      simp
    · simp only [Bool.not_eq_true] at hform
      rw [hbody, hform, if_pos (by decide)]
      exact coreIn_renewParameter hbody (h.schema raw hraw hbody) (h.content raw hraw) label place

/-! ## Bodies -/

/-- No parameter of the newer dialect is a body. -/
theorem filterMap_coreIn_body (label : String) (raws : List Value) :
    (renewParameters raws).filterMap (coreIn label .body) = [] := by
  unfold renewParameters
  rw [List.filterMap_eq_nil_iff]
  intro renewed hrenewed
  obtain ⟨raw, hraw, rfl⟩ := List.mem_map.1 hrenewed
  have hbody : standsIn "body" raw = false := by
    have hkept := (List.mem_filter.1 hraw).2
    simp only [Bool.not_or, Bool.and_eq_true, Bool.not_eq_true'] at hkept
    exact hkept.1
  refine coreIn_of_not_standsIn ?_ label
  unfold standsIn
  rw [getD_renewParameter (by decide) (by decide)]
  exact hbody

theorem eq_toList_head? {α : Type} {xs : List α} (h : xs.length ≤ 1) : xs = xs.head?.toList := by
  match xs, h with
  | [], _ => rfl
  | [_], _ => rfl

/-- The one parameter that is the body is the first one. -/
theorem filterMap_coreIn_body_of_older (h : IsOlderOperation operation) (label : String) :
    (rawsOf operation).filterMap (coreIn label .body)
      = ((rawsOf operation).find? (standsIn "body")).toList.filterMap (coreIn label .body) := by
  calc (rawsOf operation).filterMap (coreIn label .body)
      = ((rawsOf operation).filter (standsIn "body")).filterMap (coreIn label .body) := by
        rw [List.filterMap_filter]
        refine List.filterMap_congr fun raw _ => ?_
        by_cases hbody : standsIn "body" raw = true
        · rw [if_pos hbody]
        · have hother : standsIn ParameterPlace.body.name raw = false := Bool.eq_false_iff.2 hbody
          rw [if_neg hbody]
          exact coreIn_of_not_standsIn hother label
    _ = _ := by rw [eq_toList_head? h.oneBody, List.head?_filter]

/-- The core of the schema of a body, and whether the body is required. -/
def coreOfBody (raw : Value) : Option (Schema × Bool) :=
  ((schemaIn? raw).bind fun v => (Schema.read v).toOption.map Schema.core).map fun s =>
    (s, (raw.getD "required").isTruthy)

/-- A body is read if it has a name. -/
theorem coreIn_body {raw : Value} (hb : standsIn "body" raw = true)
    (hn : (schemaIn? raw).isSome = true → (raw.getD "name").isTruthy = true)
    (hc : raw.get? "content" = none) (label : String) :
    ((coreIn label .body raw).bind fun p => p.schema.map fun s => (s, p.required))
      = coreOfBody raw := by
  have hin : raw.getD "in" = .str ParameterPlace.body.name := by
    unfold standsIn at hb
    cases hv : raw.getD "in" with
    | str t =>
        rw [hv] at hb
        exact congrArg Value.str (Option.some.inj (beq_iff_eq.1 hb))
    | _ =>
        rw [hv] at hb
        cases hb
  have hmap : raw.isMap = true := by
    by_contra hmap
    rw [Value.isMap_eq, Option.not_isSome_iff_eq_none] at hmap
    rw [Value.getD, Value.get?_eq_bind, hmap] at hin
    cases hin
  have hsource : schemaSource? raw .body = schemaIn? raw := by
    unfold schemaSource?
    rw [hc]
    cases schemaIn? raw <;> rfl
  unfold coreIn readDirect
  dsimp only
  rw [hmap, hin, if_neg (by decide)]
  by_cases htruthy : (raw.getD "name").isTruthy = true
  · rw [htruthy, if_neg (by decide)]
    show ((some _).bind _) = _
    rw [Option.bind_some]
    unfold Parameter.core coreOfBody
    dsimp only
    rw [readParameterSchema_fst, hsource, Option.map_bind]
    rfl
  · -- nothing gets lost where there is no schema
    have hnone : schemaIn? raw = none := by
      rw [← Option.not_isSome_iff_eq_none]
      exact fun h => htruthy (hn h)
    simp only [Bool.not_eq_true] at htruthy
    rw [htruthy, coreOfBody, hnone]
    rfl

/-- The body in the newer dialect as it is read. -/
def readRenewed (raw : Value) : RequestBody :=
  { content := [(Endpoint.jsonMediaType,
      (schemaIn? raw).bind fun v => (Schema.read (renewSchema v)).toOption)]
    required := (raw.getD "required").isTruthy }

section

variable {raw : Value}

/-- The schema of a body is the one of the parameter, in the newer dialect. -/
theorem schemaIn?_renewBody : schemaIn? (Value.object
    ((raw.get? "schema").toList.map fun s => ("schema", renewSchema s)))
      = (schemaIn? raw).map renewSchema := by
  unfold schemaIn?
  cases raw.get? "schema" with
  | none => rfl
  | some v =>
      show Option.filter Value.isMap (some (renewSchema v)) = _
      rw [Option.filter_some, Option.filter_some, (sameShape_renewSchema v).2.1]
      split <;> rfl

theorem readContent_renewBody
    (h : ∀ v, schemaIn? raw = some v → ∃ s, Schema.read v = .ok s) :
    Api.readContent [(.str Endpoint.jsonMediaType, Value.object
        ((raw.get? "schema").toList.map fun s => ("schema", renewSchema s)))]
      = some (readRenewed raw).content := by
  unfold Api.readContent readRenewed
  dsimp only
  rw [List.mapM_cons, List.mapM_nil, schemaIn?_renewBody]
  cases hv : schemaIn? raw with
  | none => rfl
  | some v =>
      -- the schema of the body is read since that of the older dialect is
      obtain ⟨s, hs⟩ := h v hv
      have hcore := read_renewSchema v
      rw [hs] at hcore
      cases hr : Schema.read (renewSchema v) with
      | error e =>
          rw [hr] at hcore
          cases hcore
      | ok t =>
          dsimp only [Option.map_some, Option.bind_some]
          rw [hr]
          rfl

theorem readBody_renewBody (doc : Members)
    (h : ∀ v, schemaIn? raw = some v → ∃ s, Schema.read v = .ok s) :
    (Api.readBody doc (renewBody raw)).1 = .ok (some (readRenewed raw)) := by
  have hmap : (renewBody raw).isMap = true := rfl
  have hnull : (renewBody raw).isNull = false := rfl
  have hother : ∀ key, key ≠ "content" → (renewBody raw).get? key
      = Value.member? ((raw.get? "required").toList.map fun r => (.str "required", r)) key := by
    intro key hkey
    show Value.member? ((.str "content", _) :: _) key = _
    rw [Value.member?_cons_str, if_neg (Ne.symm hkey), List.map_map]
    rfl
  have hrequired : (renewBody raw).getD "required" = raw.getD "required" := by
    unfold Value.getD
    rw [hother "required" (by decide)]
    cases raw.get? "required" <;> rfl
  have href : (renewBody raw).get? "$ref" = none := by
    rw [hother "$ref" (by decide)]
    cases raw.get? "required" <;> rfl
  have hdescription : (renewBody raw).getD "description" = .null := by
    unfold Value.getD
    rw [hother "description" (by decide)]
    cases raw.get? "required" <;> rfl
  have hmedia : ((renewBody raw).get? "content").bind Value.asMap?
      = some [(.str Endpoint.jsonMediaType, Value.object
        ((raw.get? "schema").toList.map fun s => ("schema", renewSchema s)))] := rfl
  have hbody : Api.readDirectBody (renewBody raw) = some (readRenewed raw) := by
    unfold Api.readDirectBody
    rw [hdescription, hrequired, hmedia]
    dsimp only
    rw [readContent_renewBody h]
    rfl
  unfold Api.readBody
  rw [href, hnull]
  dsimp only
  rw [hmap, hbody]
  rfl

end

end

end ApiTools.Dialect
