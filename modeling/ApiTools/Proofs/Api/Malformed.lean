import ApiTools.Proofs.Api.Kept

set_option autoImplicit false

/-!
# Malformed corners of a document

Whatever values a mapping holds, an interface is read from it if it has paths and the flows of its
security schemes have texts as keys. The rest may be malformed as it likes: a server, a named
schema, a security scheme, an operation or a parameter is read from what stands there, or passed
over, and none of them is looked at for the sake of another one.
-/

namespace ApiTools.Api

/-! ## Entries -/

/-- A server: a mapping with a text as its address. -/
def server? (v : Value) : Option Server :=
  if v.isMap then (v.getD "url").asText?.map fun url => ⟨url, (v.getD "description").asText?⟩
  else none

theorem readServer_fst (v : Value) : (readServer v).1 = server? v := by
  unfold readServer server?
  cases v.isMap with
  | false => rfl
  | true => cases (v.getD "url").asText? <;> rfl

/-- A named schema: a mapping all of whose facets can be read. -/
def namedSchema? (m : Value × Value) : Option (String × Schema) :=
  if m.2.isMap then (Schema.read m.2).toOption.map fun s => (m.1.plainText, s) else none

theorem readNamedSchema_fst (m : Value × Value) : (readNamedSchema m).1 = namedSchema? m := by
  unfold readNamedSchema namedSchema?
  cases m.2.isMap with
  | false => rfl
  | true => cases Schema.read m.2 <;> rfl

/-- A security scheme: a mapping whose flows have texts as keys. -/
def namedScheme? (m : Value × Value) : Option (String × SecurityScheme) :=
  if m.2.isMap then (readScheme m.1.plainText m.2).toOption.map fun s => (m.1.plainText, s)
  else none

theorem of_readSchemes {ms : Members} {schemes : List (String × SecurityScheme)}
    (h : (readSchemes ms).1 = .ok schemes) : schemes = ms.filterMap namedScheme? := by
  induction ms generalizing schemes with
  | nil => exact (Except.ok.inj h).symm
  | cons m rest ih =>
      rw [readSchemes_cons] at h
      rw [List.filterMap_cons, namedScheme?]
      split at h
      · next hmap =>
        rw [if_pos hmap]
        cases hscheme : readScheme m.1.plainText m.2 with
        | error f =>
            rw [hscheme] at h
            cases h
        | ok s =>
            rw [hscheme] at h
            cases hrest : (readSchemes rest).1 with
            | error f =>
                rw [hrest] at h
                cases h
            | ok others =>
                rw [hrest] at h
                obtain rfl := Except.ok.inj h
                rw [ih hrest]
                rfl
      · next hmap =>
        rw [if_neg hmap]
        exact ih h

/-! ## Parameters -/

/-- The parameter that is meant: the one that a reference leads to, or else what stands there. -/
def meant? (doc raw : Value) : Option Value :=
  match raw.get? "$ref" with
  | some ref => present? (lookup (membersOf doc) ref)
  | none => some raw

/-- Whether a value is a parameter: a mapping with a name and with a place that there is. Its
schema does not matter, a malformed one is left out. -/
def isParameter (v : Value) : Bool :=
  v.isMap && (v.getD "name").isTruthy
    && ((v.getD "in").asText?.bind ParameterPlace.ofName?).isSome

theorem isSome_readDirect (label : String) (v : Value) :
    (readDirect label v).1.isSome = isParameter v := by
  unfold readDirect isParameter
  cases v.isMap with
  | false => rfl
  | true =>
      cases hname : (v.getD "name").isTruthy with
      | false => simp [hname]
      | true =>
          dsimp only
          rw [hname]
          cases (v.getD "in").asText?.bind ParameterPlace.ofName? <;> rfl

theorem Site.isSome_parameter? (s : Site) (doc raw : Value) :
    (s.parameter? doc raw).isSome = (meant? doc raw).any isParameter := by
  unfold parameter? readParameter meant?
  cases raw.get? "$ref" with
  | none => exact isSome_readDirect s.label raw
  | some ref =>
      dsimp only
      cases present? (lookup (membersOf doc) ref) with
      | none => rfl
      | some target => exact isSome_readDirect s.label target

/-! ## Operations -/

namespace Site

/-- The parameters of an operation as they are written, those of its path included if they count.
There are none if they have to be merged and a name or a place is a collection. -/
def raws? (s : Site) (merge : Bool) : Option (List Value) :=
  rawParameters (s.ofPath merge) s.operation

/-- Whether the operation itself can be read, whatever its parameters are. -/
def isReadable (s : Site) (doc : Value) (merge : Bool) : Bool :=
  (s.raws? merge).isSome && hasReadableBody doc s.operation && s.hasTextCodes

theorem isSome_endpoint?_eq_isReadable (s : Site) (doc : Value) (merge : Bool) :
    (s.endpoint? doc merge).isSome = s.isReadable doc merge := by
  rw [endpoint?_eq]
  unfold isReadable raws? hasReadableBody hasTextCodes
  rw [← isOk_readBody]
  cases rawParameters (s.ofPath merge) s.operation with
  | none => rfl
  | some raws =>
      dsimp only [Option.bind_some]
      cases (readBody (membersOf doc) (s.operation.getD "requestBody")).1 with
      | error u => rfl
      | ok body => cases responseCodes s.operation <;> rfl

end Site

/-! ## Documents -/

/-- What a document says about its servers. -/
def serversOf (doc : Value) : List Value :=
  ((Value.member? (membersOf doc) "servers").bind Value.asList?).getD []

/-- The named schemas of a document, as they are written. -/
def schemasOf (doc : Value) : Members := group (membersOf doc) "schemas" "definitions"

/-- An interface is read from a document *entry by entry* if each entry is read on its own: it is
there with what stands at its place, or it is malformed and nothing else changes. -/
structure IsReadEntrywise (doc : Value) (merge : Bool) (a : Api) : Prop where
  servers : a.servers = (serversOf doc).filterMap server?
  schemas : a.schemas = Named.ofList ((schemasOf doc).filterMap namedSchema?)
  securitySchemes : a.securitySchemes = Named.ofList ((schemesOf doc).filterMap namedScheme?)
  endpoints : a.endpoints = (sites doc).filterMap (·.endpoint? doc merge)
  /-- Of the operations those are kept that can be read. -/
  operations : ∀ s ∈ sites doc, (s.endpoint? doc merge).isSome = s.isReadable doc merge
  /-- An operation that is kept has those of its parameters that are some. -/
  parameters : ∀ s ∈ sites doc, ∀ e, s.endpoint? doc merge = some e →
    ∃ raws, s.raws? merge = some raws ∧ e.parameters = raws.filterMap (s.parameter? doc) ∧
      ∀ raw ∈ raws, (s.parameter? doc raw).isSome = (meant? doc raw).any isParameter

theorem readServers_fst (doc : Value) :
    (readServers (membersOf doc)).1 = (serversOf doc).filterMap server? := by
  unfold readServers serversOf
  cases (Value.member? (membersOf doc) "servers").bind Value.asList? with
  | none => rfl
  | some vs =>
      show (vs.map readServer).filterMap _ = _
      rw [List.filterMap_map]
      exact List.filterMap_congr fun v _ => readServer_fst v

theorem readRegistry_fst (doc : Value) :
    (readRegistry (membersOf doc)).1
      = Named.ofList ((schemasOf doc).filterMap namedSchema?) := by
  show Named.ofList ((((schemasOf doc).map readNamedSchema)).filterMap _) = _
  rw [List.filterMap_map]
  exact congrArg Named.ofList (List.filterMap_congr fun m _ => readNamedSchema_fst m)

/-- What comes out of a mapping: it has to have paths, then its schemes have to be read. -/
theorem read_fst {doc : Value} (hdoc : doc.isMap = true) (merge : Bool) :
    (pathsOf? doc = none ∧ (read doc merge).1 = .error .noPaths) ∨
    (∃ f, pathsOf? doc ≠ none ∧ (readSchemes (schemesOf doc)).1 = .error f ∧
      (read doc merge).1 = .error f) ∨
    ∃ schemes a, pathsOf? doc ≠ none ∧ (readSchemes (schemesOf doc)).1 = .ok schemes ∧
      (read doc merge).1 = .ok a ∧ a.servers = (readServers (membersOf doc)).1 ∧
      a.schemas = (readRegistry (membersOf doc)).1 ∧
      a.securitySchemes = Named.ofList schemes := by
  obtain ⟨ms, hms⟩ : ∃ ms, doc.asMap? = some ms := by
    rw [Value.isMap_eq] at hdoc
    exact Option.isSome_iff_exists.1 hdoc
  unfold read pathsOf? schemesOf membersOf
  rw [hms]
  dsimp only [Option.getD_some]
  cases (Value.member? ms "paths").bind Value.asMap? with
  | none => exact .inl ⟨rfl, rfl⟩
  | some paths =>
      dsimp only
      cases hschemes : (readSchemes (group ms "securitySchemes" "securityDefinitions")).1 with
      | error f => exact .inr (.inl ⟨f, Option.some_ne_none _, rfl, rfl⟩)
      | ok schemes =>
          exact .inr (.inr ⟨schemes, _, Option.some_ne_none _, rfl, rfl, rfl, rfl, rfl⟩)

theorem readScheme_eq_error {name : String} {v : Value} {f : Failure}
    (h : readScheme name v = .error f) : f = .malformedFlows := by
  unfold readScheme at h
  split at h
  · cases h
  · split at h
    · cases h
    · exact (Except.error.inj h).symm

/-- The flows of a scheme are all that can go wrong with the schemes. -/
theorem readSchemes_eq_error {ms : Members} {f : Failure} (h : (readSchemes ms).1 = .error f) :
    f = .malformedFlows := by
  induction ms with
  | nil => cases h
  | cons m rest ih =>
      rw [readSchemes_cons] at h
      split at h
      · cases hscheme : readScheme m.1.plainText m.2 with
        | error g =>
            rw [hscheme] at h
            obtain rfl : g = f := Except.error.inj h
            exact readScheme_eq_error hscheme
        | ok s =>
            rw [hscheme] at h
            cases hrest : (readSchemes rest).1 with
            | error g =>
                rw [hrest] at h
                obtain rfl : g = f := Except.error.inj h
                exact ih hrest
            | ok others =>
                rw [hrest] at h
                cases h
      · exact ih h

/-- **One bad corner costs nothing but itself**, as long as it is not the flows of a security
scheme. A mapping is refused for missing paths exactly if it has none, and for malformed flows
exactly if it has paths and a scheme with a flow whose key is no text. An interface is read from
every other mapping, and it is read entry by entry. Integers with too many digits are left out:
they have no text that could stand for them. -/
theorem read_of_isMap {doc : Value} (hdoc : doc.isMap = true) (_ : doc.holdsLong = false)
    (merge : Bool) :
    ((read doc merge).1 = .error .noPaths ↔ pathsOf? doc = none) ∧
    ((read doc merge).1 = .error .malformedFlows ↔
      pathsOf? doc ≠ none ∧ ∃ scheme ∈ schemesOf doc, hasTextFlows scheme.2 = false) ∧
    ((∃ a, (read doc merge).1 = .ok a) ↔
      pathsOf? doc ≠ none ∧ ∀ scheme ∈ schemesOf doc, hasTextFlows scheme.2 = true) ∧
    ∀ a, (read doc merge).1 = .ok a → IsReadEntrywise doc merge a := by
  have hflows := isOk_readSchemes (schemesOf doc)
  rcases read_fst hdoc merge with ⟨hpaths, hread⟩ | ⟨f, hpaths, hschemes, hread⟩ |
    ⟨schemes, a, hpaths, hschemes, hread, hservers, hschemas, hsecurity⟩
  · -- without paths nothing else is looked at
    rw [hread]
    simp [hpaths]
  · obtain rfl := readSchemes_eq_error hschemes
    rw [hschemes] at hflows
    obtain ⟨scheme, hscheme, hbad⟩ := List.all_eq_false.1 hflows.symm
    have hbad : hasTextFlows scheme.2 = false := by simpa using hbad
    rw [hread]
    refine ⟨⟨nofun, fun h => absurd h hpaths⟩, ⟨fun _ => ⟨hpaths, scheme, hscheme, hbad⟩,
      fun _ => rfl⟩, ⟨nofun, fun h => ?_⟩, nofun⟩
    rw [h.2 scheme hscheme] at hbad
    cases hbad
  · rw [hschemes] at hflows
    have hgood := List.all_eq_true.1 hflows.symm
    rw [hread]
    refine ⟨⟨nofun, fun h => absurd h hpaths⟩, ⟨nofun, fun ⟨_, scheme, hscheme, hbad⟩ => ?_⟩,
      ⟨fun _ => ⟨hpaths, hgood⟩, fun _ => ⟨a, rfl⟩⟩, fun b hb => ?_⟩
    · rw [hgood scheme hscheme] at hbad
      cases hbad
    · obtain rfl : a = b := Except.ok.inj hb
      refine ⟨hservers.trans (readServers_fst doc), hschemas.trans (readRegistry_fst doc),
        ?_, endpoints_eq hread, fun s _ => s.isSome_endpoint?_eq_isReadable doc merge,
        fun s _ e he => ?_⟩
      · rw [hsecurity, of_readSchemes hschemes]
      · obtain ⟨raws, body, codes, hraws, rfl⟩ := Site.of_endpoint? he
        exact ⟨raws, hraws, rfl, fun raw _ => s.isSome_parameter? doc raw⟩

/-! ### A shabby document -/

/-- A security scheme with one flow. -/
def signOn (flow : Value) : Value :=
  Value.object [("type", .str "oauth2"), ("flows", .map [(flow, Value.object [])])]

/-- A document in which something is wrong with a path, an operation, a parameter, a server and a
security scheme. -/
def shabby (flow : Value) : Value :=
  Value.object
    [("paths", Value.object
       [("/cats", .int 3),
        ("/pets", Value.object
          [("get", .str "list"),
           ("post", Value.object
             [("parameters", .list
               [.int 1, Value.object [("name", .str "limit"), ("in", .str "query")]])])])]),
     ("servers", .list [.null, Value.object [("url", .str "https://pets")]]),
     ("components", Value.object
       [("securitySchemes", Value.object [("key", .null), ("sso", signOn flow)])])]

/-- What is left of it is read. -/
theorem shabby_read : (shabby (.str "implicit")).holdsLong = false ∧
    ∃ a, (read (shabby (.str "implicit")) false).1 = .ok a ∧
    a.servers.map (·.url) = ["https://pets"] ∧ Named.names a.securitySchemes = ["sso"] ∧
    ∃ e, a.endpoints = [e] ∧ e.method = .post ∧ e.path = "/pets" ∧
      e.parameters.map (·.name) = ["limit"] := by
  have hmap : (shabby (.str "implicit")).isMap = true := rfl
  have hshort : (shabby (.str "implicit")).holdsLong = false := by decide +kernel
  obtain ⟨-, -, hok, hentries⟩ := read_of_isMap hmap hshort false
  have hpaths : pathsOf? (shabby (.str "implicit")) ≠ none := Option.some_ne_none _
  have hflows : ∀ scheme ∈ schemesOf (shabby (.str "implicit")),
      hasTextFlows scheme.2 = true := List.all_eq_true.1 rfl
  obtain ⟨a, ha⟩ := hok.2 ⟨hpaths, hflows⟩
  obtain ⟨hservers, -, hschemes, hendpoints, -, -⟩ := hentries a ha
  refine ⟨hshort, a, ha, ?_, ?_, ?_⟩
  · rw [hservers]
    rfl
  · rw [hschemes]
    rfl
  · rw [hendpoints]
    exact ⟨_, rfl, rfl, rfl, rfl⟩

/-- A number as the key of a flow takes the whole document down. -/
theorem shabby_refused : (pathsOf? (shabby (.int 1))).isSome = true ∧
    (shabby (.int 1)).holdsLong = false ∧
    (read (shabby (.int 1)) false).1 = .error .malformedFlows :=
  ⟨rfl, by decide +kernel, rfl⟩

end ApiTools.Api
