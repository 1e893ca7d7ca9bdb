import ApiTools.Api.Basic
import ApiTools.Schema.Reader

set_option autoImplicit false

/-!
# Reading interfaces

An interface is read from a decoded document. What is malformed in it is passed over with a
note, as far as it can be told apart from the rest: a server, a named schema, a parameter, an
operation. Only a document without paths is refused, and one whose security cannot be kept.
-/

namespace ApiTools.Api

open Log

def untitled : String := "Untitled API"

/-- Why no interface can be read from a document. -/
inductive Failure where
  /-- The document is not a mapping. -/
  | notMapping
  /-- The document has no paths. -/
  | noPaths
  /-- The flows of a security scheme have a key that is no text. -/
  | malformedFlows
  deriving Repr, DecidableEq

def Failure.message : Failure → String
  | .notMapping => "Document is not a mapping"
  | .noPaths => "Document has no 'paths' mapping; is this an OpenAPI or Swagger document?"
  | .malformedFlows => "Security scheme with malformed flows"

/-- What a note says about a schema that cannot be read. -/
def cause : String := "a value makes no sense"

/-! ## Version and title -/

/-- The members that mark the older dialect. -/
def olderMarks : List String := ["definitions", "host", "basePath", "securityDefinitions"]

/-- The version that fits the shape of a document, if it declares none. -/
def versionOfShape (older : Bool) : Noted String :=
  if older then ("2.0", [debug "No version field; classifying document as Swagger 2.0 by shape"])
  else ("3.0.0", [debug "No version field; classifying document as OpenAPI 3.x by shape"])

/-- The version of the description format: the declared one, or one that fits the shape. -/
def readVersion (doc : Members) : Noted String :=
  match Value.member? doc "openapi", Value.member? doc "swagger" with
  | some v, _ => (v.plainText, [])
  | none, some v => (v.plainText, [])
  | none, none => versionOfShape (olderMarks.any fun k => (Value.member? doc k).isSome)

/-- Whether a key is found in a value, if it can be looked for there: among the keys of a mapping,
among the entries of a collection, or within a text. -/
def isFoundIn? (key : String) (v : Value) : Option Bool :=
  match v.content with
  | .map ms => some (Value.member? ms key).isSome
  | .list xs | .set xs => some (xs.any (·.sameKey (.str key)))
  | .pair a b => some ([a, b].any (·.sameKey (.str key)))
  | .str s => some (Text.contains s key)
  | _ => none

/-- The version of the description format of any value. What is no mapping declares nothing, so it
has no version if it mentions one, but it may have the shape of a document. -/
def versionOf? (doc : Value) : Option (Noted String) :=
  match doc.asMap? with
  | some ms => some (readVersion ms)
  | none => do
    if (← isFoundIn? "openapi" doc) || (← isFoundIn? "swagger" doc) then none
    else return versionOfShape (← olderMarks.anyM fun k => isFoundIn? k doc)

/-- The text of a value that is present, or a substitute. -/
def textOr (v : Value) (substitute : String) : String :=
  if v.isTruthy then v.plainText else substitute

def readInfo (doc : Members) : ApiInfo :=
  let info := (Value.member? doc "info").getD .null
  { title := textOr (info.getD "title") untitled
    version := textOr (info.getD "version") "0.0.0"
    description := (info.getD "description").asText? }

/-! ## Servers and schemas -/

/-- A server, or a note about an entry without an address. -/
def readServer (v : Value) : Option Server × List Note :=
  match v.isMap, (v.getD "url").asText? with
  | true, some url => (some ⟨url, (v.getD "description").asText?⟩, [])
  | _, _ => (none, [warning ("Skipping server entry without a URL: " ++ v.describe)])

/-- Those of several readings that succeeded, and all their notes. -/
def gather {α : Type} (xs : List (Option α × List Note)) : Noted (List α) :=
  (xs.filterMap (·.1), xs.flatMap (·.2))

def readServers (doc : Members) : Noted (List Server) :=
  match (Value.member? doc "servers").bind Value.asList? with
  | some xs => gather (xs.map readServer)
  | none => ([], [])

/-- A group of named things: under the components in the newer dialect, at the top level in the
older one. -/
def group (doc : Members) (newer older : String) : Members :=
  let components := (Value.member? doc "components").getD .null
  match (components.get? newer).bind Value.asMap?, (Value.member? doc older).bind Value.asMap? with
  | some ms, _ => ms
  | none, some ms => ms
  | none, none => []

/-- A named schema, or a note about an entry that is none. -/
def readNamedSchema (m : Value × Value) : Option (String × Schema) × List Note :=
  let name := m.1.plainText
  if !m.2.isMap then
    (none, [warning ("Skipping malformed schema '" ++ name ++ "': not an object")])
  else match Schema.read m.2 with
    | .ok s => (some (name, s), [])
    | .error _ => (none, [warning ("Skipping malformed schema '" ++ name ++ "': " ++ cause)])

def readRegistry (doc : Members) : Noted Registry :=
  let (entries, notes) := gather ((group doc "schemas" "definitions").map readNamedSchema)
  (Named.ofList entries, notes)

/-! ## Pointers -/

/-- The value that the segments of a pointer lead to through nested mappings. -/
def descend (v : Value) : List String → Option Value
  | [] => some v
  | k :: ks => (v.get? k).bind fun w => descend w ks

/-- The segments of a pointer into the document, decoded. -/
def pointer? (ref : String) : Option (List String) :=
  (Text.after? ['#', '/'] ref.toList).map fun cs =>
    (Text.pieces (· != '/') cs).map fun segment => String.ofList (Reference.decode segment)

/-- The value that a pointer leads to. -/
def lookup (doc : Members) (ref : Value) : Option Value :=
  ref.asText?.bind fun s => (pointer? s).bind (descend (.map doc))

/-- A value that is null counts as missing. -/
def present? (v : Option Value) : Option Value :=
  v.bind fun v => if v.isNull then none else some v

/-! ## Parameters -/

/-- The members that describe the value of a parameter in the older dialect. -/
def inlineKeys : List String :=
  ["type", "format", "items", "enum", "default", "minimum", "maximum", "exclusiveMinimum",
   "exclusiveMaximum", "multipleOf", "minLength", "maxLength", "pattern", "minItems", "maxItems",
   "uniqueItems"]

/-- The members of a parameter that describe its value. -/
def inlineSchema (raw : Value) : Value :=
  Value.object (inlineKeys.filterMap fun k => (raw.get? k).map fun v => (k, v))

/-- The schema under the usual key, if a mapping is there. -/
def schemaIn? (v : Value) : Option Value := (v.get? "schema").filter Value.isMap

/-- What describes the value of a parameter: its schema, that of its first media type that has
one, or else the parameter itself. -/
def schemaSource? (raw : Value) (place : ParameterPlace) : Option Value :=
  match schemaIn? raw, (raw.get? "content").bind Value.asMap? with
  | some s, _ => some s
  | none, some media => media.findSome? fun (_, m) => schemaIn? m
  | none, none =>
    if place != .body && (raw.get? "type").isSome then some (inlineSchema raw) else none

/-- The schema of a parameter, or a note when it is malformed. -/
def readParameterSchema (raw : Value) (place : ParameterPlace) (label : String) :
    Option Schema × List Note :=
  match schemaSource? raw place with
  | none => (none, [])
  | some source =>
    match Schema.read source with
    | .ok s => (some s, [])
    | .error _ =>
      (none, [warning ("Ignoring malformed schema of parameter " ++ label ++ ": " ++ cause)])

/-- A parameter whose reference, if it had one, was followed. -/
def readDirect (label : String) (raw : Value) : Option Parameter × List Note :=
  if !raw.isMap then
    (none, [warning ("Skipping malformed parameter in " ++ label ++ ": " ++ raw.describe)])
  else
    let name := raw.getD "name"
    if !name.isTruthy then
      (none, [warning ("Skipping parameter without a name in " ++ label)])
    else
      let name := name.plainText
      let place := raw.getD "in"
      match place.asText?.bind ParameterPlace.ofName? with
      | none =>
        (none, [warning ("Skipping parameter '" ++ name ++ "' in " ++ label
          ++ ": unknown location " ++ place.describe)])
      | some p =>
        let (schema, notes) := readParameterSchema raw p ("'" ++ name ++ "' in " ++ label)
        (some
          { name := name
            place := p
            required := (raw.getD "required").isTruthy
            description := (raw.getD "description").asText?
            schema := schema }, notes)

/-- A parameter, written in place or by reference. -/
def readParameter (doc : Members) (label : String) (raw : Value) :
    Option Parameter × List Note :=
  match raw.get? "$ref" with
  | none => readDirect label raw
  | some ref =>
    match present? (lookup doc ref) with
    | some target => readDirect label target
    | none =>
      (none, [warning ("Skipping unresolvable parameter " ++ ref.plainText ++ " in " ++ label)])

/-- What identifies a parameter as it is written: the values of its name and its place. -/
def identity (raw : Value) : Value × Value := (raw.getD "name", raw.getD "in")

/-- Whether two parameters are identified alike. -/
def sameIdentity (a b : Value × Value) : Bool := a.1.sameKey b.1 && a.2.sameKey b.2

/-- The parameters of a path together with those of an operation, as they are written. One of
the path gives way to one of the operation that is identified alike. Nothing is merged when a
name or a place is a collection, which identifies nothing. -/
def mergeRaw (ofPath ofOperation : List Value) : Option (List Value) :=
  let own := (ofOperation.filter Value.isMap).map identity
  let all := own ++ (ofPath.filter Value.isMap).map identity
  if all.all fun (n, p) => n.isKey && p.isKey then
    some ((ofPath.filter fun raw => !raw.isMap || !own.any (sameIdentity (identity raw) ·))
      ++ ofOperation)
  else none

/-! ## Bodies -/

/-- The schemas of the media types of a body; none if one of them is malformed. -/
def readContent (ms : Members) : Option (List (String × Option Schema)) :=
  let entry (m : Value × Value) : Option (String × Option Schema) :=
    match schemaIn? m.2 with
    | some s => (Schema.read s).toOption.map fun s => (m.1.plainText, some s)
    | none => some (m.1.plainText, none)
  (ms.mapM entry).map Named.ofList

def readDirectBody (body : Value) : Option RequestBody :=
  let content := match (body.get? "content").bind Value.asMap? with
    | some ms => readContent ms
    | none => some []
  content.map fun content =>
    { description := (body.getD "description").asText?
      content := content
      required := (body.getD "required").isTruthy }

/-- The body of an operation, if it has one; an error if a schema in it is malformed. -/
def readBody (doc : Members) (raw : Value) : Except Unit (Option RequestBody) × List Note :=
  let body := match raw.get? "$ref" with
    | some ref => (lookup doc ref).getD .null
    | none => raw
  if raw.isNull then (.ok none, [])
  else if !body.isMap then
    (.ok none, [warning ("Ignoring malformed requestBody: " ++ body.describe)])
  else match readDirectBody body with
    | some b => (.ok (some b), [])
    | none => (.error (), [])

/-! ## Security -/

def readRequirement (ms : Members) : SecurityRequirement :=
  Named.ofList (ms.map fun (k, scopes) =>
    (k.plainText, (scopes.asList?.getD []).map Value.plainText))

/-- The requirements that are declared. A missing declaration is kept apart from an empty one. -/
def readSecurity (raw : Option Value) : Option (List SecurityRequirement) :=
  (raw.bind Value.asList?).map fun xs => xs.filterMap fun v => v.asMap?.map readRequirement

/-- The flows of a security scheme. The single flow of the older dialect is put into the shape of
the newer one. -/
def flowsOf (data : Value) : Option Members :=
  match (data.get? "flows").bind Value.asMap?, data.get? "flow" with
  | some ms, _ => some ms
  | _, some (.str flow) =>
    let parts := ["authorizationUrl", "tokenUrl", "scopes"].filterMap fun k =>
      (data.get? k).map fun v => (k, v)
    some [(.str flow, Value.object parts)]
  | _, _ => none

def readScheme (name : String) (data : Value) : Except Failure SecurityScheme := do
  let flows ← match flowsOf data with
    | none => pure none
    | some ms =>
      match ms.mapM fun (k, v) => k.readText?.map fun k => (k, v) with
      | some ms => pure (some ms)
      | none => .error .malformedFlows
  return {
    name := name
    type := ((data.get? "type").getD (.str "")).plainText
    description := (data.getD "description").asText?
    paramName := (data.getD "name").asText?
    location := (data.getD "in").asText?
    scheme := (data.getD "scheme").asText?
    bearerFormat := (data.getD "bearerFormat").asText?
    flows := flows
    openIdConnectUrl := (data.getD "openIdConnectUrl").asText? }

/-- The security schemes, up to the first one whose flows are malformed. -/
def readSchemes : Members → Except Failure (List (String × SecurityScheme)) × List Note
  | [] => (.ok [], [])
  | (k, data) :: rest =>
    let name := k.plainText
    if !data.isMap then
      let (schemes, notes) := readSchemes rest
      (schemes, warning ("Skipping malformed security scheme '" ++ name ++ "'") :: notes)
    else match readScheme name data with
      | .error f => (.error f, [])
      | .ok s =>
        let (schemes, notes) := readSchemes rest
        (schemes.map ((name, s) :: ·), notes)

/-! ## Operations -/

/-- The elements of a list, none if the value is no list. -/
def listOf (v : Value) : List Value := v.asList?.getD []

/-- The parameters of an operation as they are written, with those of its path if there are any. -/
def rawParameters (ofPath : Value) (operation : Value) : Option (List Value) :=
  let own := listOf (operation.getD "parameters")
  if ofPath.isTruthy then mergeRaw (listOf ofPath) own else some own

/-- The codes of the responses; none if one of them is no text. -/
def responseCodes (operation : Value) : Option (List String) :=
  match (operation.get? "responses").bind Value.asMap? with
  | some ms => ms.mapM fun (k, _) => k.readText?
  | none => some []

/-- An operation, or an error if it has to be passed over as a whole. -/
def readEndpoint (doc : Members) (path : String) (method : Method) (operation ofPath : Value) :
    Except Unit Endpoint × List Note :=
  match rawParameters ofPath operation with
  | none => (.error (), [])
  | some raws =>
    let label := method.capital ++ " " ++ path
    let (parameters, notes) := gather (raws.map (readParameter doc label))
    let (body, bodyNotes) := readBody doc (operation.getD "requestBody")
    match body, responseCodes operation with
    | .ok body, some codes =>
      (.ok
        { path := path
          method := method
          operationId := (present? (operation.get? "operationId")).map Value.plainText
          summary := (operation.getD "summary").asText?
          description := (operation.getD "description").asText?
          tags := (listOf (operation.getD "tags")).map Value.plainText
          parameters := parameters
          requestBody := body
          responses := codes
          security := readSecurity (operation.get? "security") }, notes ++ bodyNotes)
    | _, _ => (.error (), notes ++ bodyNotes)

/-- The operation under a key of a path item, with the notes about it; nothing if the key is no
method. -/
def readOperation (doc : Members) (path : String) (ofPath : Value) (m : Value × Value) :
    Option Endpoint × List Note :=
  match m.1.asText?.bind Method.ofName? with
  | none => (none, [])
  | some method =>
    let label := method.capital ++ " " ++ path
    if !m.2.isMap then (none, [warning ("Skipping " ++ label ++ ": operation is not an object")])
    else match readEndpoint doc path method m.2 ofPath with
      | (.ok e, notes) => (some e, notes)
      | (.error _, notes) => (none, notes ++ [warning ("Skipping " ++ label ++ ": " ++ cause)])

/-- The operations of a path, in order. -/
def readPath (doc : Members) (merge : Bool) (m : Value × Value) : Noted (List Endpoint) :=
  let path := m.1.plainText
  match m.2.asMap? with
  | some item =>
    let ofPath := if merge then m.2.getD "parameters" else .null
    gather (item.map (readOperation doc path ofPath))
  | none => ([], [warning ("Skipping path '" ++ path ++ "': path item is not an object")])

/-- The operations of all paths, in order. -/
def readEndpoints (doc paths : Members) (merge : Bool) : Noted (List Endpoint) :=
  let read := paths.map (readPath doc merge)
  (read.flatMap (·.1), read.flatMap (·.2))

/-! ## Whole documents -/

/-- Reads an interface from a document. When `merge` is set, the parameters of a path count for
each of its operations. -/
def read (doc : Value) (merge : Bool) : Except Failure Api × List Note :=
  match doc.asMap? with
  | some doc =>
    match (Value.member? doc "paths").bind Value.asMap? with
    | some paths =>
      let (version, versionNotes) := readVersion doc
      let older := isOlderVersion version
      let ofOlder (key : String) : Value :=
        if older then (Value.member? doc key).getD .null else .null
      let (servers, serverNotes) := readServers doc
      let (endpoints, endpointNotes) := readEndpoints doc paths merge
      let (schemas, schemaNotes) := readRegistry doc
      let (schemes, schemeNotes) := readSchemes (group doc "securitySchemes" "securityDefinitions")
      let notes := versionNotes ++ serverNotes ++ endpointNotes ++ schemaNotes ++ schemeNotes
      (schemes.map fun schemes =>
        { info := readInfo doc
          servers := servers
          endpoints := endpoints
          schemas := schemas
          securitySchemes := Named.ofList schemes
          security := readSecurity (Value.member? doc "security")
          version := version
          host := (ofOlder "host").asText?
          basePath := (ofOlder "basePath").asText?
          schemes := (listOf (ofOlder "schemes")).filterMap Value.asText? }, notes)
    | none => (.error .noPaths, [])
  | none => (.error .notMapping, [])

end ApiTools.Api
