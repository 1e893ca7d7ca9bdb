import ApiTools.Proofs.Dialect.Parameters

set_option autoImplicit false

/-!
# Operations in the newer dialect

An operation of the newer dialect differs from its counterpart in its parameters and its body
alone, and it takes the same values from its path, its query, its headers and its body, up to the
beginning of references.
-/

namespace ApiTools.Dialect

open Api (Site listOf schemaIn? membersOf readDirect)

section

variable {operation : Value}

/-! ## Members of an operation -/

theorem member?_bodyMember {key : String} (h : key ≠ "requestBody") :
    Value.member? (bodyMember operation) key = none := by
  unfold bodyMember
  cases (rawsOf operation).find? (standsIn "body") with
  | none => rfl
  | some raw =>
      show Value.member? [(.str "requestBody", renewBody raw)] key = none
      rw [Value.member?_cons_str, if_neg (Ne.symm h)]
      rfl

theorem get?_renewOperation {key : String} (hp : key ≠ "parameters") (hr : key ≠ "responses")
    (hb : key ≠ "requestBody") : (renewOperation operation).get? key = operation.get? key := by
  refine Value.get?_mapMembers_of_eq (fun ms => ?_) operation
  rw [Value.member?_append, member?_bodyMember hb, Option.or_none, Value.member?_changed _ _ hp,
    Value.member?_changed _ _ hr]

theorem getD_renewOperation {key : String} (hp : key ≠ "parameters") (hr : key ≠ "responses")
    (hb : key ≠ "requestBody") : (renewOperation operation).getD key = operation.getD key := by
  unfold Value.getD
  rw [get?_renewOperation hp hr hb]

theorem rawsOf_renewOperation : rawsOf (renewOperation operation)
    = renewParameters (rawsOf operation) := by
  have hget : (renewOperation operation).get? "parameters"
      = (operation.get? "parameters").map (Value.mapElements renewParameters) := by
    rw [renewOperation, Value.get?_mapMembers, Value.get?_eq_bind]
    cases operation.asMap? with
    | none => rfl
    | some ms =>
        rw [Option.bind_some, Option.bind_some, Value.member?_append,
          member?_bodyMember (by decide), Option.or_none, Value.member?_changed_self,
          Value.member?_changed _ _ (by decide)]
  unfold rawsOf listOf Value.getD
  rw [hget]
  cases operation.get? "parameters" with
  | none => rfl
  | some v =>
      show ((v.mapElements renewParameters).asList?).getD [] = renewParameters (v.asList?.getD [])
      rw [Value.asList?_mapElements]
      cases v.asList? <;> rfl

theorem get?_requestBody (h : operation.get? "requestBody" = none) :
    (renewOperation operation).get? "requestBody"
      = ((rawsOf operation).find? (standsIn "body")).map renewBody := by
  rw [renewOperation, Value.get?_mapMembers]
  rw [Value.get?_eq_bind] at h
  cases hms : operation.asMap? with
  | none =>
      have hraws : rawsOf operation = [] := by
        unfold rawsOf Value.getD
        rw [Value.get?_eq_bind, hms]
        rfl
      rw [hraws]
      rfl
  | some ms =>
      rw [hms, Option.bind_some] at h
      rw [Option.bind_some, Value.member?_append, Value.member?_changed _ _ (by decide),
        Value.member?_changed _ _ (by decide), h, Option.none_or]
      unfold bodyMember
      cases (rawsOf operation).find? (standsIn "body") <;> rfl

theorem responseCodes_renewOperation :
    Api.responseCodes (renewOperation operation) = Api.responseCodes operation := by
  have hget : ((renewOperation operation).get? "responses").bind Value.asMap?
      = ((operation.get? "responses").bind Value.asMap?).map fun ms =>
        ms.map fun m => (m.1, m.2.mapMembers (Value.changed "schema" renewSchema)) := by
    rw [renewOperation, Value.get?_mapMembers, Value.get?_eq_bind]
    cases operation.asMap? with
    | none => rfl
    | some ms =>
        rw [Option.bind_some, Option.bind_some, Value.member?_append,
          member?_bodyMember (by decide), Option.or_none, Value.member?_changed _ _ (by decide),
          Value.member?_changed_self, Option.bind_map, Option.map_bind]
        congr 1
        funext v
        exact Value.asMap?_mapMembers _ v
  unfold Api.responseCodes
  rw [hget]
  cases (operation.get? "responses").bind Value.asMap? with
  | none => rfl
  | some ms =>
      show (ms.map _).mapM _ = ms.mapM _
      rw [List.mapM_map]
      rfl

end

/-! ## Operations at their sites -/

/-- A site in the newer dialect. -/
def renewSite (s : Site) : Site :=
  { s with item := renewItem s.item, operation := renewOperation s.operation }

/-- The operation with the parameters and the body of the newer dialect. -/
def renewEndpoint (s : Site) (e : Endpoint) : Endpoint :=
  { e with
    parameters := (renewParameters (rawsOf s.operation)).filterMap fun raw =>
      (readDirect s.label raw).1
    requestBody := ((rawsOf s.operation).find? (standsIn "body")).map readRenewed }

section

variable {s : Site}

/-- An operation of the older dialect is read where it stands, and has no body of its own. -/
theorem endpoint?_of_older (h : IsOlderOperation s.operation) (doc : Value) :
    s.endpoint? doc false = (Api.responseCodes s.operation).map fun codes =>
      s.endpointWith ((rawsOf s.operation).filterMap fun raw => (readDirect s.label raw).1) none
        codes := by
  have hraws : Api.rawParameters (s.ofPath false) s.operation = some (rawsOf s.operation) := rfl
  have hbody : (Api.readBody (membersOf doc) (s.operation.getD "requestBody")).1 = .ok none := by
    unfold Value.getD
    rw [h.requestBody]
    rfl
  have hparameters : (rawsOf s.operation).filterMap (s.parameter? doc)
      = (rawsOf s.operation).filterMap fun raw => (readDirect s.label raw).1 :=
    List.filterMap_congr fun raw hraw => s.parameter?_of_ref_none doc (h.inPlace raw hraw)
  rw [Site.endpoint?_eq, hraws, hbody, Option.bind_some, hparameters]
  rfl

theorem endpointWith_renewSite (s : Site) :
    (renewSite s).endpointWith = s.endpointWith := by
  funext parameters body codes
  unfold Site.endpointWith
  dsimp only [renewSite]
  rw [get?_renewOperation (by decide) (by decide) (by decide),
    get?_renewOperation (by decide) (by decide) (by decide),
    getD_renewOperation (by decide) (by decide) (by decide),
    getD_renewOperation (by decide) (by decide) (by decide),
    getD_renewOperation (by decide) (by decide) (by decide)]

/-- The operation of the newer dialect is the same but for its parameters and its body. -/
theorem endpoint?_renewSite (h : IsOlderOperation s.operation) (doc newer : Value) :
    (renewSite s).endpoint? newer false = (s.endpoint? doc false).map (renewEndpoint s) := by
  have hraws : Api.rawParameters ((renewSite s).ofPath false) (renewSite s).operation
      = some (renewParameters (rawsOf s.operation)) :=
    congrArg some rawsOf_renewOperation
  have hbody : (Api.readBody (membersOf newer) ((renewSite s).operation.getD "requestBody")).1
      = .ok (((rawsOf s.operation).find? (standsIn "body")).map readRenewed) := by
    show (Api.readBody (membersOf newer)
      (((renewOperation s.operation).get? "requestBody").getD .null)).1 = _
    rw [get?_requestBody h.requestBody]
    cases hfind : (rawsOf s.operation).find? (standsIn "body") with
    | none => rfl
    | some raw =>
        exact readBody_renewBody _
          (h.readable raw (List.mem_of_find?_eq_some hfind) (List.find?_some hfind))
  have hparameters : (renewParameters (rawsOf s.operation)).filterMap
        ((renewSite s).parameter? newer)
      = (renewParameters (rawsOf s.operation)).filterMap fun raw => (readDirect s.label raw).1 := by
    refine List.filterMap_congr fun renewed hrenewed => ?_
    obtain ⟨raw, hraw, rfl⟩ := List.mem_map.1 hrenewed
    refine (renewSite s).parameter?_of_ref_none newer ?_
    rw [get?_renewParameter (by decide) (by decide)]
    exact h.inPlace raw (List.mem_of_mem_filter hraw)
  have hcodes : Api.responseCodes (renewSite s).operation = Api.responseCodes s.operation :=
    responseCodes_renewOperation
  rw [Site.endpoint?_eq, hraws, hbody, Option.bind_some, hparameters, hcodes,
    endpointWith_renewSite, endpoint?_of_older h, Option.map_map]
  rfl

theorem map_core_bodies (e : Endpoint) : e.bodies.map (fun b => (b.1.core, b.2))
    = e.jsonBody?.toList.map (fun b => (b.1.core, b.2))
      ++ ((e.parametersIn .body).map Parameter.core).filterMap
        fun p => p.schema.map fun s => (s, p.required) := by
  unfold Endpoint.bodies
  rw [List.map_append, List.map_filterMap, List.filterMap_map]
  congr 1
  refine List.filterMap_congr fun p _ => ?_
  rw [Function.comp_apply, Parameter.core, Option.map_map, Option.map_map]
  rfl

/-- The body of the newer dialect has the core of the body of the older one. -/
theorem jsonBody?_renewEndpoint (e : Endpoint) :
    (renewEndpoint s e).jsonBody?.toList.map (fun b => (b.1.core, b.2))
      = ((rawsOf s.operation).find? (standsIn "body")).toList.filterMap coreOfBody := by
  have hjson : (renewEndpoint s e).jsonBody?
      = (((rawsOf s.operation).find? (standsIn "body")).map readRenewed).bind fun b =>
        ((Named.get? b.content Endpoint.jsonMediaType).bind id).map fun s => (s, b.required) := rfl
  rw [hjson]
  cases hfind : (rawsOf s.operation).find? (standsIn "body") with
  | none => rfl
  | some raw =>
      have hget : (Named.get? (readRenewed raw).content Endpoint.jsonMediaType).bind id
          = (schemaIn? raw).bind fun v => (Schema.read (renewSchema v)).toOption := rfl
      have hone : (some raw).toList.filterMap coreOfBody = (coreOfBody raw).toList := by
        rw [Option.toList_some, List.filterMap_cons]
        cases coreOfBody raw <;> rfl
      rw [Option.map_some, Option.bind_some, hget, hone]
      unfold coreOfBody
      cases schemaIn? raw with
      | none => rfl
      | some v =>
          rw [Option.bind_some, Option.bind_some, ← read_renewSchema]
          cases (Schema.read (renewSchema v)).toOption <;> rfl

/-- What an operation takes values for is the same, up to cores. -/
theorem sameCores_renewEndpoint (h : IsOlderOperation s.operation)
    (hn : NamesBodies s.operation) {doc : Value} {e : Endpoint} (he : s.endpoint? doc false = some e) :
    Endpoint.SameCores e (renewEndpoint s e) := by
  rw [endpoint?_of_older h] at he
  obtain ⟨codes, -, rfl⟩ := Option.map_eq_some_iff.1 he
  have hplace : ∀ place, place ≠ ParameterPlace.body → place ≠ .formData →
      ((s.endpointWith ((rawsOf s.operation).filterMap fun raw => (readDirect s.label raw).1) none
        codes).parametersIn place).map Parameter.core
        = ((renewEndpoint s (s.endpointWith ((rawsOf s.operation).filterMap fun raw =>
          (readDirect s.label raw).1) none codes)).parametersIn place).map Parameter.core := by
    intro place hb hf
    show ((List.filterMap _ _).filter _).map _ = ((List.filterMap _ _).filter _).map _
    rw [filterMap_coreIn, filterMap_coreIn, filterMap_coreIn_renewParameters h s.label hb hf]
  refine ⟨hplace .path (by decide) (by decide), hplace .query (by decide) (by decide),
    hplace .header (by decide) (by decide), ?_, rfl⟩
  -- the body moves from the parameters to a place of its own
  have holder : (((s.endpointWith ((rawsOf s.operation).filterMap fun raw =>
        (readDirect s.label raw).1) none codes).parametersIn .body).map Parameter.core)
      = ((rawsOf s.operation).find? (standsIn "body")).toList.filterMap
        (coreIn s.label .body) := by
    show ((List.filterMap _ _).filter _).map _ = _
    rw [filterMap_coreIn, filterMap_coreIn_body_of_older h]
  have hnewer : (((renewEndpoint s (s.endpointWith ((rawsOf s.operation).filterMap fun raw =>
        (readDirect s.label raw).1) none codes)).parametersIn .body).map Parameter.core) = [] := by
    show ((List.filterMap _ _).filter _).map _ = _
    rw [filterMap_coreIn, filterMap_coreIn_body]
  rw [map_core_bodies, map_core_bodies, holder, hnewer, jsonBody?_renewEndpoint,
    List.filterMap_filterMap, List.filterMap_nil, List.append_nil]
  show [] ++ List.filterMap _ _ = _
  rw [List.nil_append]
  refine List.filterMap_congr fun raw hraw => ?_
  have hfind := Option.mem_toList.1 hraw
  have hmem := List.mem_of_find?_eq_some hfind
  exact coreIn_body (List.find?_some hfind) (hn raw hmem (List.find?_some hfind))
    (h.content raw hmem) s.label

end

end ApiTools.Dialect
