import ApiTools.Proofs.Dialect.Interface
import ApiTools.Proofs.Property.FlatNames

set_option autoImplicit false

/-!
# Both dialects give the same tools

A tool is told from the cores of the schemas of its operation, from what the security schemes ask
for, and from the address. All of that is the same in both dialects, and so are the tools. The
bodies have to have names: the older dialect passes over a body without one, as it does over any
parameter without a name.
-/

namespace ApiTools.Dialect

open Api (Site sites schemaIn?)

/-! ## Tools -/

theorem ofEndpoint?_renewEndpoint {a b : Api} (h : Counterpart a b) {s : Site}
    {doc : Value} {e : Endpoint} (he : s.endpoint? doc false = some e)
    (hs : IsOlderOperation s.operation)
    (hn : NamesBodies s.operation) (base : String) :
    (Tool.ofEndpoint? b base (renewEndpoint s e)).1 = (Tool.ofEndpoint? a base e).1 := by
  refine (Tool.ofEndpoint?_eq base (sameCores_renewEndpoint hs hn he) h.registry.symm ?_).symm
  rw [authentication?_fst, authentication?_fst, h.schemes]
  congr 1
  unfold Api.schemeName? Api.requirements
  rw [h.security]

/-- **Both dialects give the same tools**: a document of the older dialect whose bodies have names
is refused exactly when its counterpart in the newer dialect is, and otherwise gives the same
tools in the same order. -/
theorem tools_renewDocument {doc : Value} (h : IsOlderDocument doc)
    (hn : ∀ s ∈ sites doc, NamesBodies s.operation) (given : Option String) :
    (Api.read (renewDocument doc) false).1.map (fun a => (a.tools given).1)
      = (Api.read doc false).1.map fun a => (a.tools given).1 := by
  rcases read_renewDocument h with ⟨f, hold, hnew⟩ | ⟨a, b, hold, hnew, hab⟩
  · rw [hold, hnew]
  · rw [hold, hnew]
    refine congrArg Except.ok ?_
    have hbase : b.toolBase given = a.toolBase given := by
      unfold Api.toolBase
      rw [hab.baseUrl]
    show (b.tools given).1 = (a.tools given).1
    rw [Api.tools_fst, Api.tools_fst, Api.endpoints_eq hold, Api.endpoints_eq hnew,
      sites_renewDocument, hbase, List.filterMap_map, List.filterMap_filterMap,
      List.filterMap_filterMap]
    refine List.filterMap_congr fun s hs => ?_
    have holder := h.operations s hs
    rw [Function.comp_apply, endpoint?_renewSite holder doc]
    cases he : s.endpoint? doc false with
    | none => rfl
    | some e => exact ofEndpoint?_renewEndpoint hab he holder (hn s hs) _

/-! ### A body with a name -/

/-- An operation with parameters and nothing else. -/
def operationOf (raws : List Value) : Value := Value.object [("parameters", .list raws)]

/-- A document of the older dialect with one operation. -/
def documentOf (raws : List Value) (more : List (String × Value)) : Value :=
  Value.object ([("swagger", .str "2.0"),
    ("paths", Value.object [("/pets", Value.object [("post", operationOf raws)])])] ++ more)

/-- A count that is taken from the query. -/
def limitRaw : Value :=
  Value.object [("name", .str "limit"), ("in", .str "query"), ("type", .str "integer")]

/-- A body with a name, and with a schema that is a reference. -/
def petRaw : Value :=
  Value.object [("name", .str "pet"), ("in", .str "body"), ("required", .bool true),
    ("schema", Value.object [("$ref", .str "#/definitions/Pet")])]

/-- A text as it is written. -/
def textValue : Value := Value.object [("type", .str "string")]

/-- An object with a text as it is written. -/
def namedValue : Value := Value.object [("properties", Value.object [("name", textValue)])]

/-- A document with that schema and a scheme for a user and a password. -/
def petsDocument : Value :=
  documentOf [limitRaw, petRaw]
    [("host", .str "pets.example"), ("definitions", Value.object [("Pet", namedValue)]),
      ("securityDefinitions", Value.object [("login", Value.object [("type", .str "basic")])]),
      ("security", .list [Value.object [("login", .list [])]])]

theorem older_petsDocument : IsOlderDocument petsDocument := by
  have hread : ∃ s, Schema.read (Value.object [("$ref", .str "#/definitions/Pet")]) = .ok s :=
    ⟨_, read_of_reading rfl⟩
  refine ⟨rfl, rfl, rfl, rfl, fun s hs => ?_⟩
  obtain rfl := List.mem_singleton.1 (show s ∈ [_] from hs)
  refine ⟨rfl, ?_, ?_, ?_, by decide, ?_⟩ <;>
    refine List.forall_mem_cons.2 ⟨?_, List.forall_mem_singleton.2 ?_⟩
  · rfl
  · rfl
  · rfl
  · rfl
  · exact fun _ => rfl
  · exact fun h => absurd h (by decide)
  · exact fun h => absurd h (by decide)
  · intro _ v hv
    exact Option.some.inj hv ▸ hread

theorem namesBodies_petsDocument : ∀ s ∈ sites petsDocument, NamesBodies s.operation := by
  intro s hs
  obtain rfl := List.mem_singleton.1 (show s ∈ [_] from hs)
  exact List.forall_mem_cons.2 ⟨fun h => absurd h (by decide),
    List.forall_mem_singleton.2 fun _ _ => rfl⟩

theorem petsDocument_tools : IsOlderDocument petsDocument ∧
    (∀ s ∈ sites petsDocument, NamesBodies s.operation) ∧
    (Api.read (renewDocument petsDocument) false).1.map (fun a => (a.tools none).1)
      = (Api.read petsDocument false).1.map fun a => (a.tools none).1 :=
  ⟨older_petsDocument, namesBodies_petsDocument,
    tools_renewDocument older_petsDocument namesBodies_petsDocument none⟩

-- the document in the newer dialect
example : renewDocument petsDocument = Value.object
    [("paths", Value.object [("/pets", Value.object [("post", Value.object
        [("parameters", .list [Value.object [("name", .str "limit"), ("in", .str "query"),
            ("schema", Value.object [("type", .str "integer")])]]),
          ("requestBody", Value.object
            [("content", Value.object [("application/json", Value.object
                [("schema", Value.object [("$ref", .str "#/components/schemas/Pet")])])]),
              ("required", .bool true)])])])]),
      ("security", .list [Value.object [("login", .list [])]]),
      ("openapi", .str "3.0.0"),
      ("servers", .list [Value.object [("url", .str "http://pets.example")]]),
      ("components", Value.object
        [("schemas", Value.object [("Pet", namedValue)]),
          ("securitySchemes", Value.object [("login", Value.object
            [("type", .str "http"), ("scheme", .str "basic")])])])] := rfl

/-! ### A body without a name -/

/-- A body without a name. -/
def namelessRaw : Value := Value.object [("in", .str "body"), ("schema", namedValue)]

/-- A document with that body. -/
def namelessDocument : Value := documentOf [namelessRaw] []

theorem read_namedValue :
    Schema.read namedValue = .ok (Property.objectOf "name" Property.textSchema) := by
  have hmap : textValue.isMap = true := rfl
  have htext : Schema.readWithin [] textValue = .ok Property.textSchema := read_of_reading rfl
  have hproperties : Schema.readProperties [] (.map [(.str "name", textValue)])
      = some (.given [("name", Property.textSchema)]) := by
    rw [Schema.readProperties, Schema.readEntries, if_pos hmap, htext, Schema.readEntries]
    rfl
  have hchild : childRead [(.str "properties", .map [(.str "name", textValue)])] "properties"
      "properties" (fun _ => Schema.readProperties [])
      = some ("properties", some (.given [("name", Property.textSchema)])) :=
    congrArg (fun p => some ("properties", p)) hproperties
  show Schema.read (.map [(.str "properties", .map [(.str "name", textValue)])]) = _
  refine read_of_reading ?_
  unfold reading
  rw [hchild]
  rfl

theorem older_namelessDocument : IsOlderDocument namelessDocument := by
  refine ⟨rfl, rfl, rfl, rfl, fun s hs => ?_⟩
  obtain rfl := List.mem_singleton.1 (show s ∈ [_] from hs)
  refine ⟨rfl, ?_, ?_, ?_, by decide, ?_⟩ <;> refine List.forall_mem_singleton.2 ?_
  · rfl
  · rfl
  · exact fun h => absurd h (by decide)
  · intro _ v hv
    have hv : namedValue = v := Option.some.inj hv
    exact ⟨_, hv ▸ read_namedValue⟩

theorem flatten_namedBody : Property.flatten [] (Property.objectOf "name" Property.textSchema)
    = .ok (⟨[("name", .simple {} (.text {}))], []⟩, []) := by
  show (do
    let events ← Property.eventsAfter [] (do
      let here ← Property.walk [] {} ["name"] false Property.textSchema
      Property.eventsAfter here (.ok []))
    return (Property.Flat.ofLeaves (Property.leavesOf events), Property.notesOf events)) = _
  rw [Property.walk_textSchema]
  rfl

/-- The operation of the document without a name for the body, in the newer dialect. -/
def postNamed : Endpoint :=
  { path := "/pets"
    method := .post
    requestBody := some
      { content := [(Endpoint.jsonMediaType,
          some (Property.objectOf "name" Property.textSchema))] } }

theorem inputs_postNamed : (postNamed.inputs []).1 = .ok
    { properties := [("name", .simple { isBodyParam := some true } (.text {}))]
      required := [] } := by
  have hbody : Endpoint.ofBody [] (Property.objectOf "name" Property.textSchema) false
      = .ok ([⟨"name", .body, .simple {} (.text {}), false⟩], []) := by
    unfold Endpoint.ofBody
    rw [flatten_namedBody]
    rfl
  show (Endpoint.gatherParts
    [Endpoint.ofBody [] (Property.objectOf "name" Property.textSchema) false]).1.map
      InputSchema.ofCandidates = _
  rw [hbody]
  rfl

theorem readRenewed_namelessRaw : some (readRenewed namelessRaw) = postNamed.requestBody := by
  show (some { content := [(Endpoint.jsonMediaType, (Schema.read namedValue).toOption)] } :
    Option RequestBody) = _
  rw [read_namedValue]
  rfl

theorem endpoints_namelessDocument {b : Api}
    (h : (Api.read (renewDocument namelessDocument) false).1 = .ok b) :
    b.endpoints = [postNamed] := by
  have hsites : sites namelessDocument = [⟨"/pets",
    Value.object [("post", operationOf [namelessRaw])], .post, operationOf [namelessRaw]⟩] := rfl
  have holder := older_namelessDocument.operations
  rw [hsites, List.forall_mem_singleton] at holder
  rw [Api.endpoints_eq h, sites_renewDocument, hsites]
  show [renewSite _].filterMap _ = _
  rw [List.filterMap_cons, endpoint?_renewSite holder namelessDocument]
  show [({ postNamed with requestBody := some (readRenewed namelessRaw) } : Endpoint)] = _
  rw [readRenewed_namelessRaw]

theorem input_names_postNamed {b : Api} (h : b.schemas = []) (base : String) :
    (Tool.ofEndpoint? b base postNamed).1.map (fun t => Named.names t.input.properties)
      = some ["name"] := by
  rw [Tool.ofEndpoint?_fst, if_neg (by decide), Tool.ofEndpoint_fst, h, inputs_postNamed]
  rfl

/-- Without a name for its body the tool for an operation has no inputs in the older dialect, and
those of the body in the newer one. -/
theorem namelessDocument_tools : IsOlderDocument namelessDocument ∧
    (Api.read (renewDocument namelessDocument) false).1.map (fun a => (a.tools none).1)
      ≠ (Api.read namelessDocument false).1.map fun a => (a.tools none).1 := by
  refine ⟨older_namelessDocument, fun heq => ?_⟩
  rcases read_renewDocument older_namelessDocument with ⟨f, hf, -⟩ | ⟨a, b, ha, hb, hab⟩
  · cases hf
  · have hschemas : b.schemas = [] := by
      have hempty : a.schemas = [] := by
        cases ha
        rfl
      have hregistry := hab.registry
      rw [hempty] at hregistry
      exact List.map_eq_nil_iff.1 hregistry
    have holder : (a.tools none).1.map (fun t => Named.names t.input.properties) = [[]] := by
      cases ha
      rfl
    have hnewer : (b.tools none).1.map (fun t => Named.names t.input.properties)
        = [["name"]] := by
      rw [Api.tools_fst, endpoints_namelessDocument hb, List.map_filterMap, List.filterMap_cons,
        input_names_postNamed hschemas]
      rfl
    rw [ha, hb] at heq
    have htools : (b.tools none).1 = (a.tools none).1 := Except.ok.inj heq
    rw [htools, holder] at hnewer
    cases hnewer

end ApiTools.Dialect
