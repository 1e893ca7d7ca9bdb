import ApiTools.Api.Reader
import ApiTools.Proofs.Api.Operations
import ApiTools.Proofs.Dialect.Schema

set_option autoImplicit false

/-!
# Documents in the newer dialect

A document of the older dialect has a counterpart in the newer one. Its named schemas and its
security schemes move under the components, the body of a request moves from the parameters to a
place of its own, the other parameters get a schema instead of facets, form data is left out, and
the address is written as that of a server.
-/

namespace ApiTools.Dialect

open Api (Site listOf inlineKeys inlineSchema schemaIn? membersOf)

/-! ## Parameters -/

/-- A parameter stands in a place. -/
def standsIn (place : String) (raw : Value) : Bool := (raw.getD "in").asText? == some place

/-- A parameter with its facets under a schema, if it has a type. -/
def renewParameter (raw : Value) : Value :=
  if (raw.get? "type").isSome then
    raw.mapMembers fun ms =>
      Value.without inlineKeys ms ++ [(.str "schema", renewSchema (inlineSchema raw))]
  else raw

/-- The parameters without the body and without form data. -/
def renewParameters (raws : List Value) : List Value :=
  (raws.filter fun raw => !(standsIn "body" raw || standsIn "formData" raw)).map renewParameter

/-- The body of a request that a parameter describes. -/
def renewBody (raw : Value) : Value :=
  let schema := (raw.get? "schema").toList.map fun s => ("schema", renewSchema s)
  let required := (raw.get? "required").toList.map fun r => ("required", r)
  Value.object (("content", Value.object [("application/json", Value.object schema)]) :: required)

/-! ## Operations -/

/-- Responses with their schemas in the newer dialect. -/
def renewResponses : Value → Value :=
  Value.mapMembers fun ms =>
    ms.map fun m => (m.1, m.2.mapMembers (Value.changed "schema" renewSchema))

/-- The parameters of an operation as they are written. -/
def rawsOf (operation : Value) : List Value := listOf (operation.getD "parameters")

/-- The member for the body of an operation, if one of the parameters is the body. -/
def bodyMember (operation : Value) : Members :=
  ((rawsOf operation).find? (standsIn "body")).toList.map fun raw =>
    (.str "requestBody", renewBody raw)

/-- An operation in the newer dialect. -/
def renewOperation (operation : Value) : Value :=
  operation.mapMembers fun ms =>
    Value.changed "parameters" (Value.mapElements renewParameters)
      (Value.changed "responses" renewResponses ms) ++ bodyMember operation

/-- A path item in the newer dialect. -/
def renewItem : Value → Value :=
  Value.mapMembers fun ms => ms.map fun m =>
    (m.1, if (m.1.asText?.bind Method.ofName?).isSome then renewOperation m.2
      else if m.1.sameKey (.str "parameters") then m.2.mapElements renewParameters
      else m.2)

/-- The paths in the newer dialect. -/
def renewPaths : Value → Value :=
  Value.mapMembers fun ms => ms.map fun m => (m.1, renewItem m.2)

/-! ## Whole documents -/

/-- A security scheme in the newer dialect. -/
def renewScheme (data : Value) : Value :=
  if (data.get? "type").bind Value.asText? == some "basic" then
    data.mapMembers fun ms =>
      Value.changed "type" (fun _ => .str "http") (Value.without ["scheme"] ms)
        ++ [(.str "scheme", .str "basic")]
  else data

/-- The security schemes in the newer dialect. -/
def renewSchemes : Value → Value :=
  Value.mapMembers fun ms => ms.map fun m => (m.1, renewScheme m.2)

/-- The address of the interface that a document describes. -/
def baseUrlOf (doc : Value) : String :=
  match (Api.read doc false).1 with
  | .ok a => a.baseUrl
  | .error _ => ""

/-- The members of the older dialect that stand elsewhere in the newer one. -/
def olderKeys : List String :=
  ["swagger", "definitions", "securityDefinitions", "schemes", "host", "basePath"]

/-- The components of a document in the newer dialect. -/
def componentsOf (ms : Members) : Value :=
  Value.object
    ((Value.member? ms "definitions").toList.map (fun v => ("schemas", renewProperties v))
      ++ (Value.member? ms "securityDefinitions").toList.map fun v =>
        ("securitySchemes", renewSchemes v))

/-- The members of a document in the newer dialect, with the address of its server. -/
def renewTop (url : String) (ms : Members) : Members :=
  Value.changed "paths" renewPaths (Value.without olderKeys ms)
    ++ [(.str "openapi", .str "3.0.0"),
      (.str "servers", .list [Value.object [("url", .str url)]]),
      (.str "components", componentsOf ms)]

/-- A document in the newer dialect. -/
def renewDocument (doc : Value) : Value := doc.mapMembers (renewTop (baseUrlOf doc))

/-! ## Documents of the older dialect -/

/-- An operation as the older dialect has it: the parameters are written in place, all but a body
without a schema or a content and a body without a content, there is no other body, there is at
most one body, and its schema makes sense. -/
structure IsOlderOperation (operation : Value) : Prop where
  requestBody : operation.get? "requestBody" = none
  inPlace : ∀ raw ∈ rawsOf operation, raw.get? "$ref" = none
  content : ∀ raw ∈ rawsOf operation, raw.get? "content" = none
  schema : ∀ raw ∈ rawsOf operation, standsIn "body" raw = false → raw.get? "schema" = none
  oneBody : ((rawsOf operation).filter (standsIn "body")).length ≤ 1
  readable : ∀ raw ∈ rawsOf operation, standsIn "body" raw = true →
    ∀ v, schemaIn? raw = some v → ∃ s, Schema.read v = .ok s

/-- A document of the older dialect, without what only the newer one has. -/
structure IsOlderDocument (doc : Value) : Prop where
  swagger : (doc.get? "swagger").isSome = true
  openapi : doc.get? "openapi" = none
  components : doc.get? "components" = none
  servers : doc.get? "servers" = none
  operations : ∀ s ∈ Api.sites doc, IsOlderOperation s.operation

/-- Each body with a schema among the parameters of an operation has a name. -/
def NamesBodies (operation : Value) : Prop :=
  ∀ raw ∈ rawsOf operation, standsIn "body" raw = true → (schemaIn? raw).isSome = true →
    (raw.getD "name").isTruthy = true

end ApiTools.Dialect
