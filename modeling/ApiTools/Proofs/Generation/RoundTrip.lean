import ApiTools.Proofs.Api.Json
import ApiTools.Proofs.Generation.Document
import ApiTools.Proofs.Tool.RoundTrip
import ApiTools.Proofs.Tool.WellFormed
import ApiTools.Proofs.Validation.Document
import ApiTools.Proofs.Wording.Tools

set_option autoImplicit false

/-!
# The tools of a document are read as they are serialised

A tool that is generated from a document in JSON holds no other values than the document, and its
properties have different names, so nothing is lost when it is serialised and read again. This needs
no more of the document than that its numbers are finite: a number that is given as a text may
stand for an infinity or for none, since the facets of a number are written as they are. A tool that
takes up more levels than there may be is not serialised.
-/

namespace ApiTools

/-! ## Properties of schemas -/

namespace Property

open Schema (RegistryHoldsJson Guard compose isKept_holdsJson)

theorem holdsJson_plainText (d : String) : (plainText d).HoldsJson :=
  .simple rfl fun _ h => nomatch h

theorem holdsJson_opaqueObject (d : String) : (opaqueObject d).HoldsJson :=
  .simple rfl fun _ h => nomatch h

/-- The property of a schema holds what the facets of the schema hold. -/
theorem holdsJson_ofSchema {s : Schema} (hs : s.facets.HoldsJson) (d : Option String)
    {items : Option Property} (hi : ∀ q, items = some q → q.HoldsJson) :
    (ofSchema s d items).HoldsJson := by
  have hd : (traitsOf s d).default.isJson = true := by
    show (s.facets.default.get?.getD .null).isJson = true
    cases hv : s.facets.default with
    | absent => rfl
    | null => rfl
    | given v => exact hs.default v hv
  have he : ∀ vs, s.facets.enum.get? = some vs → ∀ v ∈ vs, v.isJson = true := by
    intro vs hvs
    cases hv : s.facets.enum with
    | absent => rw [hv] at hvs; cases hvs
    | null => rw [hv] at hvs; cases hvs
    | given ws =>
        rw [hv] at hvs
        exact hs.enum vs (by rw [hv]; exact congrArg Facet.given (Option.some.inj hvs))
  -- an array has items, and of the other kinds some name the values that they admit
  unfold ofSchema
  dsimp only
  repeat' split
  all_goals first
    | exact .array hd hi
    | exact .simple hd he
    | exact .simple hd fun _ h => nomatch h

theorem holdsJson_of_convertFrom {reg : Registry} (hreg : RegistryHoldsJson reg) {g : Guard}
    {s : Schema} (hs : s.HoldsJson) {d : Option String} {p : Property} {notes : List Log.Note}
    (h : convertFrom reg g s d = .ok (p, notes)) : p.HoldsJson :=
  of_convertFrom_kept (isKept_holdsJson hreg) holdsJson_plainText holdsJson_opaqueObject
    (fun _ d _ ht hi => holdsJson_ofSchema (ht.facets_compose hreg) d hi) hs h

theorem holdsJson_of_convert {reg : Registry} (hreg : RegistryHoldsJson reg) {s : Option Schema}
    (hs : ∀ t, s = some t → t.HoldsJson) {d : Option String} {p : Property}
    {notes : List Log.Note} (h : convert reg s d = .ok (p, notes)) : p.HoldsJson := by
  cases s with
  | none =>
      cases h
      exact holdsJson_plainText _
  | some t => exact holdsJson_of_convertFrom hreg (hs t rfl) h

/-- Traits other than the default do not matter. -/
theorem HoldsJson.updateTraits {p : Property} (h : p.HoldsJson) {f : Traits → Traits}
    (hf : (f p.traits).default = p.traits.default) : (p.updateTraits f).HoldsJson := by
  cases h with
  | simple hd he => exact .simple (hf ▸ hd) he
  | array hd hi => exact .array (hf ▸ hd) hi

theorem HoldsJson.withLocation {p : Property} (h : p.HoldsJson) (l : Location) :
    (p.withLocation l).HoldsJson :=
  h.updateTraits (by cases l <;> rfl)

theorem HoldsJson.withPlace {p : Property} (h : p.HoldsJson) (path : List String) :
    (p.withPlace path).HoldsJson := by
  unfold Property.withPlace
  split
  · exact h.updateTraits rfl
  · exact h

theorem holdsJson_of_flatten {reg : Registry} (hreg : RegistryHoldsJson reg) {s : Schema}
    (hs : s.HoldsJson) {flat : Flat} {notes : List Log.Note}
    (h : flatten reg s = .ok (flat, notes)) : ∀ e ∈ flat.properties, e.2.HoldsJson := by
  intro e he
  obtain ⟨l, ⟨g, t, p, ns, ht, hc, hl⟩, rfl⟩ :=
    flatten_convertedFrom (isKept_holdsJson hreg) hs h e he
  show l.property.HoldsJson
  rw [hl]
  exact (holdsJson_of_convertFrom hreg ht hc).withPlace l.path

end Property

/-! ## Inputs -/

namespace Endpoint

open Schema (RegistryHoldsJson)

variable {e : Endpoint} {reg : Registry}

theorem holdsJson_of_mem_ofParameter (hreg : RegistryHoldsJson reg) {l : Location} {r : Bool}
    {p : Parameter} (hp : ∀ s, p.schema = some s → s.HoldsJson) {c : Candidate}
    (h : c ∈ candidatesIn (ofParameter reg l r p)) : c.property.HoldsJson := by
  unfold ofParameter at h
  cases hc : Property.convert reg p.schema p.description with
  | error u =>
      rw [hc] at h
      cases h
  | ok result =>
      rw [hc] at h
      obtain rfl := List.mem_singleton.1 h
      exact Property.holdsJson_of_convert hreg hp hc

theorem holdsJson_of_mem_ofBody (hreg : RegistryHoldsJson reg) {s : Schema} (hs : s.HoldsJson)
    {r : Bool} {c : Candidate} (h : c ∈ candidatesIn (ofBody reg s r)) :
    c.property.HoldsJson := by
  cases hf : Property.flatten reg s with
  | error u =>
      unfold ofBody at h
      rw [hf] at h
      cases h
  | ok result =>
      obtain ⟨x, hx, rfl⟩ := (mem_ofBody_iff hf c).1 h
      exact Property.holdsJson_of_flatten hreg hs hf x hx

theorem HoldsJson.of_mem_bodies (he : e.HoldsJson) {b : Schema × Bool} (hb : b ∈ e.bodies) :
    b.1.HoldsJson := by
  rcases List.mem_append.1 hb with hb | hb
  · obtain ⟨body, hbody, hb⟩ := Option.bind_eq_some_iff.1 (Option.mem_toList.1 hb)
    obtain ⟨s, hs, rfl⟩ := Option.map_eq_some_iff.1 hb
    obtain ⟨o, ho, rfl⟩ := Option.bind_eq_some_iff.1 hs
    exact he.body body hbody _ (Named.mem_of_get? ho) s rfl
  · obtain ⟨p, hp, hb⟩ := List.mem_filterMap.1 hb
    obtain ⟨s, hs, rfl⟩ := Option.map_eq_some_iff.1 hb
    exact he.parameters p (List.mem_filter.1 hp).1 s hs

theorem holdsJson_of_mem_allCandidates (hreg : RegistryHoldsJson reg) (he : e.HoldsJson)
    {c : Candidate} (h : c ∈ e.allCandidates reg) : c.property.HoldsJson := by
  have hin : ∀ {place p}, p ∈ e.parametersIn place → ∀ s, p.schema = some s → s.HoldsJson :=
    fun hp => he.parameters _ (List.mem_filter.1 hp).1
  have h := mem_allCandidates.1 h
  cases hl : c.location with
  | path =>
      rw [hl] at h
      obtain ⟨p, hp, hc⟩ := List.mem_flatMap.1 h
      exact holdsJson_of_mem_ofParameter hreg (hin hp) hc
  | query =>
      rw [hl] at h
      obtain ⟨p, hp, hc⟩ := List.mem_flatMap.1 h
      exact holdsJson_of_mem_ofParameter hreg (hin hp) hc
  | header =>
      rw [hl] at h
      obtain ⟨p, hp, hc⟩ := List.mem_flatMap.1 h
      exact holdsJson_of_mem_ofParameter hreg (hin (List.mem_filter.1 hp).1) hc
  | body =>
      rw [hl] at h
      obtain ⟨b, hb, hc⟩ := List.mem_flatMap.1 h
      exact holdsJson_of_mem_ofBody hreg (he.of_mem_bodies hb) hc

theorem holdsJson_inputs (hreg : RegistryHoldsJson reg) (he : e.HoldsJson) {input : InputSchema}
    (h : (e.inputs reg).1 = .ok input) : ∀ x ∈ input.properties, x.2.HoldsJson := by
  obtain ⟨-, rfl⟩ := inputs_eq_ok h
  intro x hx
  obtain ⟨c, hc, rfl⟩ := List.mem_map.1 (Named.mem_of_mem_ofList hx)
  exact (holdsJson_of_mem_allCandidates hreg he hc).withLocation c.location

/-- Better wording changes no schema. -/
theorem HoldsJson.improve (he : e.HoldsJson) : (Wording.improveEndpoint e).HoldsJson := by
  refine ⟨fun p hp => ?_, he.body⟩
  obtain ⟨q, hq, rfl⟩ := List.mem_map.1 hp
  obtain ⟨d, hd⟩ := improveParameter_eq q
  rw [hd]
  exact he.parameters q hq

end Endpoint

/-! ## Tools -/

/-- Every tool of an interface that holds values of JSON can be written. -/
theorem Api.isWritable_of_mem_tools {a : Api} (ha : a.HoldsJson) {given : Option String} {t : Tool}
    (h : t ∈ (a.tools given).1) : t.IsWritable := by
  rw [tools_fst] at h
  obtain ⟨e, he, h⟩ := List.mem_filterMap.1 h
  rw [Tool.ofEndpoint?_fst] at h
  split at h
  · cases h
  · rw [Tool.ofEndpoint_fst] at h
    cases hi : (e.inputs a.schemas).1 with
    | error u =>
        rw [hi] at h
        cases h
    | ok input =>
        rw [hi] at h
        obtain rfl := Option.some.inj h
        exact ⟨(Endpoint.isWellFormed_inputs hi).names_nodup,
          Endpoint.holdsJson_inputs ha.schemas (ha.endpoints e he) hi, rfl⟩

namespace Generation

theorem holdsJson_worded {api : Api} (h : api.HoldsJson) (options : Options) :
    (worded options api).HoldsJson := by
  unfold worded
  split
  · refine ⟨h.schemas, fun e he => ?_⟩
    obtain ⟨e', he', rfl⟩ := List.mem_map.1 he
    exact (h.endpoints e' he').improve
  · exact h

/-- A text that is empty or missing. -/
def cellValue : Value :=
  Value.object [("type", .str "string"), ("enum", .list [.str "x", .null])]

/-- The members of a list of such texts, with a list by default. -/
def rowMembers (xs : List Value) : Members :=
  [(.str "type", .str "array"), (.str "default", .list xs), (.str "items", cellValue)]

/-- A parameter that is such a list. -/
def rowRaw (xs : List Value) : Value :=
  Value.object [("name", .str "row"), ("in", .str "query"), ("schema", .map (rowMembers xs))]

/-- A path with an operation that takes such a list. -/
def gridItem (xs : List Value) : Value :=
  Value.object [("get", Value.object [("parameters", .list [rowRaw xs])])]

/-- A document with that path, whose operations ask for a key. -/
def gridDocument (xs : List Value) : Value :=
  Value.object
    [("openapi", .str "3.0.0"),
     ("paths", Value.object [("/grid", gridItem xs)]),
     ("security", .list [Value.object [("key", .list [])]]),
     ("components", Value.object
       [("securitySchemes", Value.object
         [("key", Value.object
           [("type", .str "apiKey"), ("in", .str "header"), ("name", .str "X-Key")])])])]

/-- The schema of a cell. -/
def cellSchema : Schema :=
  .plain { type := .given (.one "string"), enum := .given [.str "x", .null] }

/-- The schema of a row. -/
def rowSchema (xs : List Value) : Schema :=
  .mk { type := .given (.one "array"), default := .given (.list xs) }
    .absent (.given cellSchema) .absent .absent .absent .absent

variable (xs : List Value)

theorem read_rowMembers : Schema.read (.map (rowMembers xs)) = .ok (rowSchema xs) := by
  have hcell : Schema.readWithin [] cellValue = .ok cellSchema := Dialect.read_of_reading rfl
  have hitems : Schema.readItems [] cellValue = some (.given cellSchema) := by
    show Schema.readItems [] (.map _) = _
    rw [Schema.readItems]
    exact congrArg (fun r => r.toOption.map Facet.given) hcell
  have hchild : Dialect.childRead (rowMembers xs) "items" "items" (fun _ => Schema.readItems [])
      = some ("items", some (.given cellSchema)) :=
    congrArg (fun p => some ("items", p)) hitems
  refine Dialect.read_of_reading ?_
  unfold Dialect.reading
  rw [hchild]
  rfl

/-- The parameter as it is read. -/
def rowParameter : Parameter := { name := "row", place := .query, schema := some (rowSchema xs) }

/-- The operation as it is read. -/
def getGrid : Endpoint := { path := "/grid", method := .get, parameters := [rowParameter xs] }

theorem readDirect_rowRaw (label : String) :
    (Api.readDirect label (rowRaw xs)).1 = some (rowParameter xs) := by
  show some { rowParameter xs with
    schema := (Api.readParameterSchema (rowRaw xs) .query ("'row' in " ++ label)).1 } = _
  rw [Dialect.readParameterSchema_fst]
  show some { rowParameter xs with schema := (Schema.read (.map (rowMembers xs))).toOption } = _
  rw [read_rowMembers]
  rfl

theorem endpoints_gridDocument {a : Api} (h : (Api.read (gridDocument xs) false).1 = .ok a) :
    a.endpoints = [getGrid xs] := by
  let site : Api.Site := ⟨"/grid", gridItem xs, .get, (gridItem xs).getD "get"⟩
  have hparameters : [rowRaw xs].filterMap (site.parameter? (gridDocument xs))
      = [rowParameter xs] := by
    rw [List.filterMap_cons, site.parameter?_of_ref_none (gridDocument xs) rfl, readDirect_rowRaw]
    rfl
  have hsite : site.endpoint? (gridDocument xs) false = some (getGrid xs) := by
    rw [Api.Site.endpoint?_eq]
    show some (site.endpointWith
      ([rowRaw xs].filterMap (site.parameter? (gridDocument xs))) none []) = _
    rw [hparameters]
    rfl
  rw [Api.endpoints_eq h]
  show [site].filterMap _ = _
  rw [List.filterMap_cons, hsite]
  rfl

/-- The schema of a row as a property. -/
def rowProperty : Property :=
  .array { default := .list xs } {} (some (.simple {} (.text { enum := some [.str "x", .null] })))

theorem convert_rowSchema :
    Property.convert [] (some (rowSchema xs)) none = .ok (rowProperty xs, []) := by
  have hcell : Property.convertFrom [] {} cellSchema none
      = .ok (.simple {} (.text { enum := some [.str "x", .null] }), []) := by
    rw [Property.convertFrom_eq]
    rfl
  show Property.convertFrom [] {} (rowSchema xs) none = _
  rw [Property.convertFrom_eq]
  show ((Property.convertFrom [] {} cellSchema none).mapError (Property.Unending.after [])).bind _ = _
  rw [hcell]
  rfl

/-- The input of the tool. -/
def rowInput : Property := (rowProperty xs).withLocation .query

theorem inputs_getGrid : ((getGrid xs).inputs []).1
    = .ok { properties := [("row", rowInput xs)], required := [] } := by
  have hrow : Endpoint.ofParameter [] .query false (rowParameter xs)
      = .ok ([⟨"row", .query, rowProperty xs, false⟩], []) := by
    unfold Endpoint.ofParameter
    rw [show Property.convert [] (rowParameter xs).schema (rowParameter xs).description = _
      from convert_rowSchema xs]
    rfl
  show (Endpoint.gatherParts [Endpoint.ofParameter [] .query false (rowParameter xs)]).1.map
    InputSchema.ofCandidates = _
  rw [hrow]
  rfl

theorem exists_gridTool {a : Api} (h : (Api.read (gridDocument xs) false).1 = .ok a) :
    ∃ t, (a.tools none).1 = [t] ∧ t.input.properties = [("row", rowInput xs)] ∧
      t.authentication = some (.apiKey .header "X-Key" "KEY_API_KEY") := by
  obtain ⟨hschemas, hschemes⟩ : a.schemas = [] ∧
      (a.authentication? (getGrid xs)).1 = some (.apiKey .header "X-Key" "KEY_API_KEY") := by
    rcases Api.read_fst (show (gridDocument xs).isMap = true from rfl) false with
      ⟨-, hread⟩ | ⟨f, -, -, hread⟩ | ⟨schemes, b, -, hschemes, hread, -, hschemas, hsecurity⟩
    · rw [hread] at h
      cases h
    · rw [hread] at h
      cases h
    · obtain rfl : b = a := Except.ok.inj (hread.symm.trans h)
      refine ⟨hschemas, ?_⟩
      unfold Api.authentication? Api.schemeName? Api.requirements
      rw [Api.security_eq h, hsecurity]
      cases hschemes
      rfl
  have hinputs : ((getGrid xs).inputs a.schemas).1 = _ := hschemas ▸ inputs_getGrid xs
  have hkept : ¬ (getGrid xs).issuesCredentials = true :=
    (by decide : ¬ (getGrid []).issuesCredentials = true)
  refine ⟨Tool.withInput a (a.toolBase none) (getGrid xs)
    { properties := [("row", rowInput xs)], required := [] }, ?_, rfl, hschemes⟩
  rw [Api.tools_fst, endpoints_gridDocument xs h, List.filterMap_cons, Tool.ofEndpoint?_fst,
    if_neg hkept, Tool.ofEndpoint_fst, hinputs]
  rfl

theorem ofDocument_gridDocument : ∃ o t, (ofDocument {} none (gridDocument xs)).1 = .ok o ∧
    o.tools = [t] ∧ t.input.properties = [("row", rowInput xs)] ∧
    t.authentication = some (.apiKey .header "X-Key" "KEY_API_KEY") := by
  obtain ⟨a, ha⟩ : ∃ a, (Api.read (gridDocument xs) false).1 = .ok a :=
    Api.exists_read rfl (List.forall_mem_singleton.2 rfl)
  have hmethod : (Validation.methodOfKey? (.str "get")).isSome = true := by decide
  have hchecked : Validation.checkedParameters (gridDocument xs) = [rowRaw xs] := by
    show ([(.str "get", _)].flatMap Validation.checkedAt) ++ [] = _
    rw [List.append_nil, List.flatMap_singleton, Validation.checkedAt, if_pos hmethod]
    rfl
  have hcomparable : ∀ p ∈ Validation.checkedParameters (gridDocument xs),
      Validation.isComparable p = true := by
    rw [hchecked]
    exact List.forall_mem_singleton.2 rfl
  obtain ⟨o, ho⟩ : ∃ o, (ofDocument {} none (gridDocument xs)).1 = .ok o :=
    ⟨_, ofDocument_eq_ok_iff.2 ⟨_, a,
      Validation.checkDocument_eq_ok_iff.2 ⟨rfl, hcomparable, rfl⟩, rfl, ha, rfl⟩⟩
  obtain ⟨report, b, hb, htools⟩ := exists_of_ofDocument ho
  obtain ⟨t, ht, hinput, hkey⟩ := exists_gridTool xs hb
  refine ⟨o, t, ho, ?_, hinput, hkey⟩
  rw [htools]
  exact ht

theorem levels_of_rowInput {t : Tool} (h : t.input.properties = [("row", rowInput xs)]) :
    t.levels = 1 + max (Value.list xs).levels 1 := by
  unfold Tool.levels
  rw [h]
  simp [rowInput, Property.withLocation, Property.updateTraits, Property.traits,
    Property.withTraits, rowProperty, Property.levels, Property.writtenDefault,
    Property.admitted, Value.isNull, Value.levelsOfList, Value.levels]

theorem isJson_gridDocument : (gridDocument xs).isJson = (Value.list xs).isJson := by
  have hcell : cellValue.isJson = true := by decide
  have hrow : (Value.map (rowMembers xs)).isJson = (Value.list xs).isJson := by
    show ((Value.list xs).isJson && (cellValue.isJson && true)) = _
    rw [hcell, Bool.and_self, Bool.and_true]
  show (((((((Value.map (rowMembers xs)).isJson && true) && true) && true) && true) && true)
    && true) = _
  simp only [Bool.and_true, hrow]

end Generation

end ApiTools
