import ApiTools.Command.Stop

set_option autoImplicit false

/-!
# Inspecting a document

Shows what would be generated from a document: its tools, one tool in full, the schemas, the
credentials, or an overview. Nothing is written.
-/

namespace ApiTools.Command

/-- What is known about a document. -/
structure Inspection where
  api : Api
  outcome : Generation.Outcome

/-- Loads a document and generates its tools. -/
def inspection (c : Console) (source : String) (baseUrl : Option String) (enhance : Bool) :
    Run Inspection := do
  let doc ← Run.orStopNoted c (Source.load source) .ofSource
  let api ← Run.noted c (Api.read doc false) .ofApi
  let options : Generation.Options := { baseUrl := baseUrl, enhance := enhance }
  let outcome ← Run.noted c (Generation.ofDocument options (some source) doc) .ofGeneration
  return { api := api, outcome := outcome }

/-- A text for a cell, which is a dash when there is none. -/
def cell (s : Option String) : String := (s.bind nonempty?).getD "-"

/-! ## Tools -/

def toolRow (t : Tool) : List String :=
  [t.name, t.method, t.path, toString t.input.properties.length,
   cell (some (", ".intercalate t.input.required)),
   cell (t.authentication.map Authentication.kindName)]

def showTools (e : Equipment) (c : Console) (title : String) (tools : List Tool) : Run Unit :=
  Run.table e c (title ++ " -- Tools (" ++ toString tools.length ++ ")")
    ["Name", "Method", "Path", "Parameters", "Required", "Auth"] (tools.map toolRow)

/-- Shows the first tool with a name. -/
def showTool (e : Equipment) (c : Console) (source name : String) (tools : List Tool) : Run Unit :=
  match tools.find? (·.name == name) with
  | some t => Run.print e c ((t.toDict Value.mostLevels).bind Value.writable)
  | none => Run.stop <| .failed
      ("No tool named '" ++ name ++ "'. Run: specmcp inspect tools " ++ source) misuseCode

/-! ## Schemas -/

def schemaKind (s : Schema) : String :=
  if s.hasComposition then "composed"
  else (s.primaryType.bind nonempty?).getD (if s.propertyList.isEmpty then "-" else "object")

def shownProperties : Nat := 5

def propertyNames (s : Schema) : String :=
  let names := s.propertyList.map (·.1)
  let first := ", ".intercalate (names.take shownProperties)
  if shownProperties < names.length then first ++ "..." else first

def schemaRow (entry : String × Schema) : List String :=
  [entry.1, schemaKind entry.2, cell (some (propertyNames entry.2))]

/-- Shows the schemas, sorted by name. -/
def showSchemas (e : Equipment) (c : Console) (schemas : Registry) : Run Unit :=
  if schemas.isEmpty then Run.tell c (.info "No schemas defined in this document.")
  else
    let sorted := schemas.mergeSort fun a b => a.1 ≤ b.1
    Run.table e c ("Schemas (" ++ toString sorted.length ++ ")")
      ["Schema", "Type", "Properties"] (sorted.map schemaRow)

/-! ## Credentials -/

/-- The end of the environment variable for each kind of credential. -/
def variableEndings : List (String × String) :=
  [("apiKey", "API_KEY"), ("bearer", "TOKEN"), ("basic", "CREDENTIALS"),
   ("oauth2", "ACCESS_TOKEN")]

/-- The environment variable for a scheme with a name, if there is one. -/
def schemeVariable? (name : String) (s : SecurityScheme) : Option String :=
  let kind := if s.type == "http" then Text.lowercase (s.scheme.getD "") else s.type
  (Named.get? variableEndings kind).map (Name.envVariable name)

/-- What is shown as the variable of a scheme: one that no tool reads is marked. -/
def shownVariable (used : List String) (name : String) (s : SecurityScheme) : String :=
  match schemeVariable? name s with
  | none => "-"
  | some v => if used.contains v then v else v ++ " (unused)"

def schemeRow (used : List String) (entry : String × SecurityScheme) : List String :=
  let (name, s) := entry
  [name, s.type, cell s.scheme, cell s.location, shownVariable used name s]

def usedVariables (tools : List Tool) : List String :=
  tools.filterMap fun t => t.authentication.map Authentication.envVariable

def showSchemes (e : Equipment) (c : Console) (i : Inspection) : Run Unit :=
  if i.api.securitySchemes.isEmpty then Run.tell c (.info "No security schemes defined.")
  else
    Run.table e c "Security Schemes" ["Name", "Type", "Scheme", "Location", "Variable"]
      (i.api.securitySchemes.map (schemeRow (usedVariables i.outcome.tools)))

/-! ## Overview -/

def overview (i : Inspection) : Value :=
  let texts (ss : List String) : Value := .list (ss.map .str)
  let o := i.outcome
  Value.object
    [("title", .str o.info.title),
     ("version", .str o.info.version),
     ("specVersion", .str i.api.version),
     ("description", .str (cell o.info.description)),
     ("baseUrl", .str (cell (some o.baseUrl))),
     ("servers", texts (o.servers.map Server.url)),
     ("endpoints", .int i.api.endpoints.length),
     ("tools", .int o.tools.length),
     ("schemas", .int i.api.schemas.length),
     ("securitySchemes", texts (Named.names i.api.securitySchemes)),
     ("valid", .bool o.validation.isValid)]

/-! ## The commands -/

def inspect (e : Equipment) (c : Console) : InspectRequest → Run Unit
  | .tools source enhance => do
    let i ← inspection c source none enhance
    showTools e c i.outcome.info.title i.outcome.tools
  | .tool source name baseUrl enhance => do
    let i ← inspection c source baseUrl enhance
    showTool e c source name i.outcome.tools
  | .schemas source => do
    let i ← inspection c source none false
    showSchemas e c i.api.schemas
  | .auth source => do
    let i ← inspection c source none false
    showSchemes e c i
  | .info source => do
    let i ← inspection c source none false
    Run.act (c.json e.drawing (overview i))

end ApiTools.Command
