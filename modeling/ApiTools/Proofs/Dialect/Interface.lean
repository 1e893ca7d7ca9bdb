import ApiTools.Proofs.Dialect.Operations
import ApiTools.Proofs.Named

set_option autoImplicit false

/-!
# Interfaces in the newer dialect

A document of the older dialect is refused exactly when its counterpart is. Otherwise the two give
interfaces with the same address, the same cores in the registry, and security schemes that ask
for the same, and their operations stand at the same sites.
-/

namespace ApiTools.Dialect

open Api (Site Failure membersOf sites site? pathSites group readSchemes readScheme
  readNamedSchema)

/-! ## Members of a document -/

section

variable {ms : Members} {url key : String}

/-- The members that only the newer dialect has. -/
def newerKeys : List String := ["openapi", "servers", "components"]

theorem member?_renewTop (ho : key ∉ olderKeys) (hp : key ≠ "paths") (hn : key ∉ newerKeys) :
    Value.member? (renewTop url ms) key = Value.member? ms key := by
  simp only [newerKeys, List.mem_cons, List.not_mem_nil, or_false, not_or] at hn
  obtain ⟨hopenapi, hservers, hcomponents⟩ := hn
  rw [renewTop, Value.member?_append, Value.member?_changed _ _ hp, Value.member?_without _ ho,
    Value.member?_cons_str, if_neg (Ne.symm hopenapi), Value.member?_cons_str,
    if_neg (Ne.symm hservers), Value.member?_cons_str, if_neg (Ne.symm hcomponents),
    Value.member?_nil, Option.or_none]

theorem member?_paths_renewTop :
    Value.member? (renewTop url ms) "paths" = (Value.member? ms "paths").map renewPaths := by
  rw [renewTop, Value.member?_append, Value.member?_changed_self,
    Value.member?_without _ (by decide)]
  cases Value.member? ms "paths" <;> rfl

theorem paths_renewTop : (Value.member? (renewTop url ms) "paths").bind Value.asMap?
    = ((Value.member? ms "paths").bind Value.asMap?).map fun items =>
      items.map fun m => (m.1, renewItem m.2) := by
  rw [member?_paths_renewTop, Option.bind_map, Option.map_bind]
  exact congrArg _ (funext fun v => Value.asMap?_mapMembers _ v)

theorem member?_older_renewTop (ho : key ∈ olderKeys) :
    Value.member? (renewTop url ms) key = none := by
  have hp : key ≠ "paths" := by
    rintro rfl
    exact absurd ho (by decide)
  rw [renewTop, Value.member?_append, Value.member?_changed _ _ hp,
    Value.member?_without_self _ ho, Option.none_or]
  simp only [olderKeys, List.mem_cons, List.not_mem_nil, or_false] at ho
  rcases ho with rfl | rfl | rfl | rfl | rfl | rfl <;> rfl

/-- What only the newer dialect has is found if the older document does not have it. -/
theorem member?_newer_renewTop (hn : key ∈ newerKeys) (hms : Value.member? ms key = none) :
    Value.member? (renewTop url ms) key
      = Value.member? [(.str "openapi", .str "3.0.0"),
          (.str "servers", .list [Value.object [("url", .str url)]]),
          (.str "components", componentsOf ms)] key := by
  have hp : key ≠ "paths" := by
    rintro rfl
    exact absurd hn (by decide)
  have ho : key ∉ olderKeys := by
    simp only [newerKeys, List.mem_cons, List.not_mem_nil, or_false] at hn
    rcases hn with rfl | rfl | rfl <;> decide
  rw [renewTop, Value.member?_append, Value.member?_changed _ _ hp, Value.member?_without _ ho,
    hms, Option.none_or]

end

/-! ## Sites -/

theorem site?_renewItem (path : String) (item : Value) (m : Value × Value) :
    site? path (renewItem item)
        (m.1, if (m.1.asText?.bind Method.ofName?).isSome then renewOperation m.2
          else if m.1.sameKey (.str "parameters") then m.2.mapElements renewParameters
          else m.2)
      = (site? path item m).map renewSite := by
  unfold site?
  dsimp only
  cases m.1.asText?.bind Method.ofName? with
  | none => rfl
  | some method =>
      have hmap : (renewOperation m.2).isMap = m.2.isMap := Value.isMap_mapMembers _ m.2
      rw [Option.isSome_some, if_pos rfl, Option.bind_some, Option.bind_some, hmap]
      split <;> rfl

theorem pathSites_renewItem (m : Value × Value) :
    pathSites (m.1, renewItem m.2) = (pathSites m).map renewSite := by
  unfold pathSites
  dsimp only
  rw [renewItem, Value.asMap?_mapMembers, ← renewItem]
  cases m.2.asMap? with
  | none => rfl
  | some ms =>
      show (ms.map _).filterMap _ = (ms.filterMap _).map _
      rw [List.filterMap_map, List.map_filterMap]
      exact List.filterMap_congr fun o _ => site?_renewItem m.1.plainText m.2 o

/-- The sites are the same, each with its operation in the newer dialect. -/
theorem sites_renewDocument (doc : Value) :
    sites (renewDocument doc) = (sites doc).map renewSite := by
  unfold sites membersOf renewDocument
  rw [Value.asMap?_mapMembers]
  cases doc.asMap? with
  | none => rfl
  | some ms =>
      show ((((Value.member? (renewTop _ ms) "paths").bind Value.asMap?).getD []).flatMap
        pathSites) = ((((Value.member? ms "paths").bind Value.asMap?).getD []).flatMap
        pathSites).map renewSite
      rw [paths_renewTop]
      cases (Value.member? ms "paths").bind Value.asMap? with
      | none => rfl
      | some items =>
          show (items.map _).flatMap pathSites = (items.flatMap pathSites).map renewSite
          rw [List.flatMap_map, List.map_flatMap]
          simp only [pathSites_renewItem]

/-! ## Groups of named things -/

section

variable {ms : Members}

theorem group_of_older (h : Value.member? ms "components" = none) (newer older : String) :
    group ms newer older = ((Value.member? ms older).bind Value.asMap?).getD [] := by
  unfold group
  rw [h]
  cases (Value.member? ms older).bind Value.asMap? <;> rfl

theorem group_renewTop (h : Value.member? ms "components" = none) (url : String)
    {newer older : String} (ho : older ∈ olderKeys) :
    group (renewTop url ms) newer older
      = (((componentsOf ms).get? newer).bind Value.asMap?).getD [] := by
  have hcomponents : (Value.member? (renewTop url ms) "components").getD .null
      = componentsOf ms := by
    rw [member?_newer_renewTop (by decide) h]
    rfl
  unfold group
  dsimp only
  rw [hcomponents, member?_older_renewTop ho]
  cases ((componentsOf ms).get? newer).bind Value.asMap? <;> rfl

theorem get?_componentsOf_schemas :
    (componentsOf ms).get? "schemas" = (Value.member? ms "definitions").map renewProperties := by
  unfold componentsOf
  cases Value.member? ms "definitions" <;> cases Value.member? ms "securityDefinitions" <;> rfl

theorem get?_componentsOf_schemes : (componentsOf ms).get? "securitySchemes"
    = (Value.member? ms "securityDefinitions").map renewSchemes := by
  unfold componentsOf
  cases Value.member? ms "definitions" <;> cases Value.member? ms "securityDefinitions" <;> rfl

theorem asMap?_renewProperties (v : Value) :
    (renewProperties v).asMap? = v.asMap?.map renewEntries := by
  cases v with
  | knot name w => cases w <;> rfl
  | _ => rfl

theorem group_schemas (h : Value.member? ms "components" = none) (url : String) :
    group (renewTop url ms) "schemas" "definitions"
      = (group ms "schemas" "definitions").map fun m => (m.1, renewSchema m.2) := by
  rw [group_renewTop h url (by decide), group_of_older h, get?_componentsOf_schemas]
  cases Value.member? ms "definitions" with
  | none => rfl
  | some v =>
      rw [Option.map_some, Option.bind_some, Option.bind_some, asMap?_renewProperties]
      cases v.asMap? with
      | none => rfl
      | some entries => exact renewEntries_eq entries

theorem group_schemes (h : Value.member? ms "components" = none) (url : String) :
    group (renewTop url ms) "securitySchemes" "securityDefinitions"
      = (group ms "securitySchemes" "securityDefinitions").map fun m =>
        (m.1, renewScheme m.2) := by
  rw [group_renewTop h url (by decide), group_of_older h, get?_componentsOf_schemes]
  cases Value.member? ms "securityDefinitions" with
  | none => rfl
  | some v =>
      rw [Option.map_some, Option.bind_some, Option.bind_some, renewSchemes,
        Value.asMap?_mapMembers]
      cases v.asMap? <;> rfl

end

/-! ## The registry -/

theorem core_readNamedSchema (m : Value × Value) :
    (readNamedSchema (m.1, renewSchema m.2)).1.map (fun e => (e.1, e.2.core))
      = (readNamedSchema m).1.map fun e => (e.1, e.2.core) := by
  have hnamed : ∀ v : Value, (readNamedSchema (m.1, v)).1
      = if v.isMap then (Schema.read v).toOption.map fun s => (m.1.plainText, s) else none := by
    intro v
    unfold readNamedSchema
    dsimp only
    by_cases hv : v.isMap = true
    · rw [hv, if_neg (by decide), if_pos rfl]
      cases Schema.read v <;> rfl
    · simp only [Bool.not_eq_true] at hv
      rw [hv, if_pos (by decide), if_neg (by decide)]
  have hcore : ∀ o : Option Schema, (o.map fun s => (m.1.plainText, s)).map
      (fun e => (e.1, e.2.core)) = (o.map Schema.core).map fun s => (m.1.plainText, s) := by
    intro o
    cases o <;> rfl
  show _ = (readNamedSchema (m.1, m.2)).1.map _
  rw [hnamed, hnamed, (sameShape_renewSchema m.2).2.1]
  split
  · rw [hcore, hcore, read_renewSchema]
  · rfl

theorem coreRegistry_readRegistry {ms : Members} (h : Value.member? ms "components" = none)
    (url : String) : Schema.coreRegistry (Api.readRegistry (renewTop url ms)).1
      = Schema.coreRegistry (Api.readRegistry ms).1 := by
  have hregistry : ∀ doc : Members, Schema.coreRegistry (Api.readRegistry doc).1
      = Named.ofList ((group doc "schemas" "definitions").filterMap fun m =>
        (readNamedSchema m).1.map fun e => (e.1, e.2.core)) := by
    intro doc
    show (Named.ofList (((group doc "schemas" "definitions").map readNamedSchema).filterMap
      (·.1))).map (fun e => (e.1, e.2.core)) = _
    rw [Named.ofList_map, List.filterMap_map, List.map_filterMap]
    rfl
  rw [hregistry, hregistry, group_schemas h, List.filterMap_map]
  congr 1
  exact List.filterMap_congr fun m _ => core_readNamedSchema m

/-! ## Security schemes -/

/-- What named schemes ask for. -/
def asked (schemes : List (String × SecurityScheme)) :
    List (String × (String → Option Authentication)) :=
  schemes.map fun e => (e.1, fun name => e.2.credential? name)

theorem credential?_of_type_basic {s : SecurityScheme} (h : s.type = "basic") (name : String) :
    s.credential? name = some (.basic (Name.envVariable name "CREDENTIALS")) := by
  unfold SecurityScheme.credential?
  rw [h]
  rfl

theorem credential?_of_scheme_basic {s : SecurityScheme} (h : s.type = "http")
    (hs : s.scheme = some "basic") (name : String) :
    s.credential? name = some (.basic (Name.envVariable name "CREDENTIALS")) := by
  unfold SecurityScheme.credential?
  rw [h, hs]
  rfl

section

variable {data : Value}

/-- What a scheme for a user and a password says in the newer dialect. -/
theorem get?_renewScheme (hb : (data.get? "type").bind Value.asText? = some "basic")
    (key : String) : (renewScheme data).get? key
      = if key = "type" then some (.str "http") else if key = "scheme" then some (.str "basic")
        else data.get? key := by
  rw [Value.get?_eq_bind data "type"] at hb
  obtain ⟨v, hv, -⟩ := Option.bind_eq_some_iff.1 hb
  obtain ⟨ms, hms, htype⟩ := Option.bind_eq_some_iff.1 hv
  rw [← Value.get?_eq_bind data "type"] at hb
  rw [renewScheme, hb, if_pos (by decide), Value.get?_mapMembers, hms, Option.bind_some,
    Value.member?_append]
  by_cases ht : key = "type"
  · subst ht
    rw [if_pos rfl, Value.member?_changed_self, Value.member?_without _ (by decide), htype]
    rfl
  · rw [if_neg ht, Value.member?_changed _ _ ht]
    by_cases hs : key = "scheme"
    · subst hs
      rw [if_pos rfl, Value.member?_without_self _ (by decide)]
      rfl
    · rw [if_neg hs, Value.member?_without _ (by simpa using hs), Value.member?_cons_str,
        if_neg (Ne.symm hs), Value.member?_nil, Option.or_none, Value.get?_eq_bind, hms]
      rfl

theorem flowsOf_renewScheme (data : Value) : Api.flowsOf (renewScheme data) = Api.flowsOf data := by
  by_cases hb : (data.get? "type").bind Value.asText? = some "basic"
  · have hother : ∀ key, key ≠ "type" → key ≠ "scheme" →
        (renewScheme data).get? key = data.get? key := by
      intro key ht hs
      rw [get?_renewScheme hb, if_neg ht, if_neg hs]
    unfold Api.flowsOf
    simp only [List.filterMap_cons, List.filterMap_nil]
    rw [hother "flows" (by decide) (by decide), hother "flow" (by decide) (by decide),
      hother "authorizationUrl" (by decide) (by decide),
      hother "tokenUrl" (by decide) (by decide), hother "scopes" (by decide) (by decide)]
  · rw [renewScheme, if_neg (by simpa using hb)]

/-- The flows of a scheme, an error if a key of them is no text. -/
def readFlows (data : Value) : Except Failure (Option (List (String × Value))) :=
  match Api.flowsOf data with
  | none => .ok none
  | some ms =>
    match ms.mapM fun (k, v) => k.readText?.map fun k => (k, v) with
    | some ms => .ok (some ms)
    | none => .error .malformedFlows

/-- Where type and scheme settle what is asked for, a scheme asks for it unless its flows are
malformed. -/
theorem map_readScheme {asks : String → Option Authentication}
    (h : ∀ s : SecurityScheme, s.type = ((data.get? "type").getD (.str "")).plainText →
      s.scheme = (data.getD "scheme").asText? → ∀ name, s.credential? name = asks name)
    (name : String) : (readScheme name data).map (fun s name => s.credential? name)
      = (readFlows data).map fun _ => asks := by
  unfold readScheme readFlows
  cases Api.flowsOf data with
  | none => exact congrArg Except.ok (funext (h _ rfl rfl))
  | some ms =>
      dsimp only
      cases ms.mapM fun (k, v) => k.readText?.map fun k => (k, v) with
      | none => rfl
      | some flows => exact congrArg Except.ok (funext (h _ rfl rfl))

/-- A scheme asks for the same in the newer dialect. -/
theorem credential?_readScheme (name : String) (data : Value) :
    (readScheme name (renewScheme data)).map (fun s name => s.credential? name)
      = (readScheme name data).map fun s name => s.credential? name := by
  by_cases hb : (data.get? "type").bind Value.asText? = some "basic"
  · have hnewer : (renewScheme data).get? "type" = some (.str "http") := by
      rw [get?_renewScheme hb, if_pos rfl]
    have hscheme : (renewScheme data).get? "scheme" = some (.str "basic") := by
      rw [get?_renewScheme hb, if_neg (by decide), if_pos rfl]
    have holder : data.get? "type" = some (.str "basic") := by
      obtain ⟨v, hv, ht⟩ := Option.bind_eq_some_iff.1 hb
      cases v with
      | str t =>
          injection ht with ht
          rw [hv, ht]
      | _ => cases ht
    have hasks : ∀ s : SecurityScheme, s.type = ((data.get? "type").getD (.str "")).plainText →
        s.scheme = (data.getD "scheme").asText? → ∀ name, s.credential? name
          = some (.basic (Name.envVariable name "CREDENTIALS")) := by
      intro s ht _
      rw [holder] at ht
      exact credential?_of_type_basic ht
    have hasks' : ∀ s : SecurityScheme,
        s.type = (((renewScheme data).get? "type").getD (.str "")).plainText →
        s.scheme = ((renewScheme data).getD "scheme").asText? → ∀ name, s.credential? name
          = some (.basic (Name.envVariable name "CREDENTIALS")) := by
      intro s ht hs
      rw [hnewer] at ht
      rw [Value.getD, hscheme] at hs
      exact credential?_of_scheme_basic ht hs
    rw [map_readScheme hasks, map_readScheme hasks', readFlows, readFlows, flowsOf_renewScheme]
  · rw [renewScheme, if_neg (by simpa using hb)]

end

/-- The schemes ask for the same in the newer dialect, and fail alike. -/
theorem asked_readSchemes (ms : Members) :
    (readSchemes (ms.map fun m => (m.1, renewScheme m.2))).1.map asked
      = (readSchemes ms).1.map asked := by
  induction ms with
  | nil => rfl
  | cons m ms ih =>
      have hmap : (renewScheme m.2).isMap = m.2.isMap := by
        unfold renewScheme
        split
        · exact Value.isMap_mapMembers _ m.2
        · rfl
      have hcons : ∀ (data : Value) (rest : Members), data.isMap = true →
          (readSchemes ((m.1, data) :: rest)).1.map asked
            = ((readScheme m.1.plainText data).map fun s name => s.credential? name).bind
              fun asks => ((readSchemes rest).1.map asked).map ((m.1.plainText, asks) :: ·) := by
        intro data rest hdata
        rw [readSchemes, hdata]
        dsimp only
        rw [if_neg (by decide)]
        cases readScheme m.1.plainText data with
        | error f => rfl
        | ok s => cases (readSchemes rest).1 <;> rfl
      rw [List.map_cons]
      by_cases hm : m.2.isMap = true
      · rw [hcons _ _ (by rw [hmap, hm]), credential?_readScheme, ih]
        exact (hcons m.2 ms hm).symm
      · simp only [Bool.not_eq_true] at hm
        rw [readSchemes, readSchemes, hmap, hm]
        exact ih

theorem authentication?_fst (a : Api) (e : Endpoint) :
    (a.authentication? e).1 = (a.schemeName? e).bind fun name =>
      (Named.get? (asked a.securitySchemes) name).bind fun asks => asks name := by
  unfold Api.authentication?
  cases a.schemeName? e with
  | none => rfl
  | some name =>
      rw [Option.bind_some, asked, Named.get?_map fun (s : SecurityScheme) name => s.credential? name]
      dsimp only
      cases Named.get? a.securitySchemes name with
      | none => rfl
      | some s =>
          rw [Option.map_some, Option.bind_some]
          dsimp only
          cases s.credential? name <;> rfl

/-! ## Interfaces -/

/-- All that a tool is told from, apart from its operation, is the same. -/
structure Counterpart (a b : Api) : Prop where
  baseUrl : b.baseUrl = a.baseUrl
  registry : Schema.coreRegistry b.schemas = Schema.coreRegistry a.schemas
  schemes : asked b.securitySchemes = asked a.securitySchemes
  security : b.security = a.security

section

variable {doc : Value} {ms paths : Members}

/-- A document without paths is refused. -/
theorem read_of_paths_none (hms : doc.asMap? = some ms)
    (hpaths : (Value.member? ms "paths").bind Value.asMap? = none) (merge : Bool) :
    (Api.read doc merge).1 = .error .noPaths := by
  unfold Api.read
  rw [hms]
  dsimp only
  rw [hpaths]

/-- A document is refused if its security schemes are. -/
theorem read_of_schemes_error (hms : doc.asMap? = some ms)
    (hpaths : (Value.member? ms "paths").bind Value.asMap? = some paths) {f : Failure}
    (hs : (readSchemes (group ms "securitySchemes" "securityDefinitions")).1 = .error f)
    (merge : Bool) : (Api.read doc merge).1 = .error f := by
  unfold Api.read
  rw [hms]
  dsimp only
  rw [hpaths]
  dsimp only
  rw [hs]
  rfl

/-- What is read from a document that is not refused. -/
theorem exists_of_schemes_ok (hms : doc.asMap? = some ms)
    (hpaths : (Value.member? ms "paths").bind Value.asMap? = some paths)
    {schemes : List (String × SecurityScheme)}
    (hs : (readSchemes (group ms "securitySchemes" "securityDefinitions")).1 = .ok schemes)
    (merge : Bool) : ∃ a, (Api.read doc merge).1 = .ok a ∧ a.servers = (Api.readServers ms).1 ∧
      a.schemas = (Api.readRegistry ms).1 ∧ a.securitySchemes = Named.ofList schemes ∧
      a.security = Api.readSecurity (Value.member? ms "security") := by
  unfold Api.read
  rw [hms]
  dsimp only
  rw [hpaths]
  dsimp only
  rw [hs]
  exact ⟨_, rfl, rfl, rfl, rfl, rfl⟩

end

theorem asked_ofList (schemes : List (String × SecurityScheme)) :
    asked (Named.ofList schemes) = Named.ofList (asked schemes) :=
  Named.ofList_map (fun (s : SecurityScheme) name => s.credential? name) schemes

/-- What is the same under a function is an error on both sides, or on neither. -/
theorem exists_of_map_eq {ε α β : Type} {f : α → β} {x y : Except ε α} (h : x.map f = y.map f) :
    (∃ e, x = .error e ∧ y = .error e) ∨ ∃ a b, x = .ok a ∧ y = .ok b ∧ f a = f b := by
  cases x with
  | error e =>
      cases y with
      | error d =>
          injection h with h
          exact .inl ⟨e, rfl, by rw [h]⟩
      | ok b => cases h
  | ok a =>
      cases y with
      | error d => cases h
      | ok b =>
          injection h with h
          exact .inr ⟨a, b, rfl, rfl, h⟩

/-- The one server of the newer document has the address of the older interface. -/
theorem readServers_renewTop {ms : Members} (h : Value.member? ms "servers" = none)
    (url : String) : (Api.readServers (renewTop url ms)).1 = [⟨url, none⟩] := by
  unfold Api.readServers
  rw [member?_newer_renewTop (by decide) h]
  rfl

/-- The two dialects are refused alike, or give interfaces that correspond to each other. -/
theorem read_renewDocument {doc : Value} (h : IsOlderDocument doc) :
    (∃ f, (Api.read doc false).1 = .error f ∧ (Api.read (renewDocument doc) false).1 = .error f) ∨
      ∃ a b, (Api.read doc false).1 = .ok a ∧ (Api.read (renewDocument doc) false).1 = .ok b ∧
        Counterpart a b := by
  obtain ⟨ms, hms⟩ := exists_asMap?_of_get? h.swagger
  have hmember : ∀ key, doc.get? key = Value.member? ms key := by
    intro key
    rw [Value.get?_eq_bind, hms, Option.bind_some]
  have hcomponents := (hmember "components").symm.trans h.components
  have hservers := (hmember "servers").symm.trans h.servers
  have hnewer : (renewDocument doc).asMap? = some (renewTop (baseUrlOf doc) ms) := by
    rw [renewDocument, Value.asMap?_mapMembers, hms]
    rfl
  have hpaths' : (Value.member? (renewTop (baseUrlOf doc) ms) "paths").bind Value.asMap? = _ :=
    paths_renewTop
  cases hpaths : (Value.member? ms "paths").bind Value.asMap? with
  | none =>
      rw [hpaths] at hpaths'
      exact .inl ⟨.noPaths, read_of_paths_none hms hpaths false,
        read_of_paths_none hnewer hpaths' false⟩
  | some paths =>
      rw [hpaths] at hpaths'
      have hasked := asked_readSchemes (group ms "securitySchemes" "securityDefinitions")
      rw [← group_schemes hcomponents (baseUrlOf doc)] at hasked
      rcases exists_of_map_eq hasked with ⟨f, hs', hs⟩ | ⟨schemes', schemes, hs', hs, hasked⟩
      · exact .inl ⟨f, read_of_schemes_error hms hpaths hs false,
          read_of_schemes_error hnewer hpaths' hs' false⟩
      · obtain ⟨a, ha, -, haSchemas, haSchemes, haSecurity⟩ :=
          exists_of_schemes_ok hms hpaths hs false
        obtain ⟨b, hb, hbServers, hbSchemas, hbSchemes, hbSecurity⟩ :=
          exists_of_schemes_ok hnewer hpaths' hs' false
        refine .inr ⟨a, b, ha, hb, ?_, ?_, ?_, ?_⟩
        · have hurl : baseUrlOf doc = a.baseUrl := by
            unfold baseUrlOf
            rw [ha]
          unfold Api.baseUrl at hurl ⊢
          rw [hbServers, readServers_renewTop hservers]
          exact hurl
        · rw [haSchemas, hbSchemas, coreRegistry_readRegistry hcomponents]
        · rw [haSchemes, hbSchemes, asked_ofList, asked_ofList, hasked]
        · rw [haSecurity, hbSecurity, member?_renewTop (by decide) (by decide) (by decide)]

end ApiTools.Dialect
