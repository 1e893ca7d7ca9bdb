import ApiTools.Text.Case
import ApiTools.Value.Text
import ApiTools.Validation.Report
import ApiTools.Api.Basic

set_option autoImplicit false

/-!
# Checking documents

The structure of a decoded document is checked as it is written, before it is read as an
interface. Shared definitions are checked where they are declared and not where they are
referred to.
-/

namespace ApiTools.Validation

/-- What can be found in a document. The operations are named by their keys. -/
inductive Finding where
  | missingInfo
  | missingTitle
  | missingVersion
  | noPaths
  | noFormatVersion
  | noServers
  | relativePath (path : String)
  | malformedPathItem (path : String)
  | malformedOperation (key : String)
  | missingResponses (key : String)
  | missingOperationId (key : String)
  | undescribed (key : String)
  | maybeBody (key : String)
  | missingTags (key : String)
  | malformedParameter (key : String)
  | namelessParameter (key : String)
  | placelessParameter (name key : String)
  | untypedParameter (name key : String)
  | repeatedParameter (name place key : String)
  | optionalPathParameter (name key : String)
  | untypedScheme (name : String)
  | incompleteKeyScheme (name : String)
  | incompleteHttpScheme (name : String)
  | schemeWithoutFlows (name : String)
  | schemeWithoutUrl (name : String)
  | unknownSchemeType (type name : String)
  deriving Repr, DecidableEq

def Finding.severity : Finding → Severity
  | noServers | undescribed _ | maybeBody _ | unknownSchemeType _ _ => .warning
  | missingOperationId _ | missingTags _ => .suggestion
  | _ => .error

def Finding.text : Finding → String
  | missingInfo => "Missing required field: info"
  | missingTitle => "Missing required field: info.title"
  | missingVersion => "Missing required field: info.version"
  | noPaths => "No paths defined in specification"
  | noFormatVersion => "Missing OpenAPI or Swagger version field"
  | noServers => "No servers defined - consider adding server URLs"
  | relativePath path => "Path must start with '/': " ++ path
  | malformedPathItem path => "Path item for " ++ path ++ " must be an object"
  | malformedOperation key => "Operation " ++ key ++ " must be an object"
  | missingResponses key => "Missing responses for " ++ key
  | missingOperationId key => "Consider adding operationId for " ++ key
  | undescribed key => "Missing summary and description for " ++ key
  | maybeBody key => key ++ " might need a request body"
  | missingTags key => "Consider adding tags for " ++ key ++ " for better organization"
  | malformedParameter key => "Parameter must be an object in " ++ key
  | namelessParameter key => "Parameter missing name in " ++ key
  | placelessParameter name key => "Parameter '" ++ name ++ "' missing 'in' field in " ++ key
  | untypedParameter name key => "Parameter '" ++ name ++ "' missing schema/type in " ++ key
  | repeatedParameter name place key =>
    "Duplicate parameter '" ++ name ++ "' in '" ++ place ++ "' for " ++ key
  | optionalPathParameter name key =>
    "Path parameter '" ++ name ++ "' must be required in " ++ key
  | untypedScheme name => "Security scheme '" ++ name ++ "' missing type"
  | incompleteKeyScheme name =>
    "API key security scheme '" ++ name ++ "' missing name or in field"
  | incompleteHttpScheme name => "HTTP security scheme '" ++ name ++ "' missing scheme field"
  | schemeWithoutFlows name => "OAuth2 security scheme '" ++ name ++ "' missing flows"
  | schemeWithoutUrl name =>
    "OpenID Connect security scheme '" ++ name ++ "' missing openIdConnectUrl"
  | unknownSchemeType type name =>
    "Unknown security scheme type '" ++ type ++ "' for '" ++ name ++ "'"

def reportOf (found : List Finding) : Report :=
  Report.ofFound (found.map fun f => (f.severity, f.text))

/-- Why a value cannot be checked. -/
inductive Obstacle where
  /-- The document is not a mapping. -/
  | notMapping
  /-- The place of a parameter is a collection, which cannot be compared with other places. -/
  | collectionAsPlace
  deriving Repr, DecidableEq

/-- A finding that is made if a condition holds. -/
def when (condition : Bool) (f : Finding) : List Finding := if condition then [f] else []

/-- Whether a member is there and counts as present. -/
def affirms (v : Value) (key : String) : Bool := (v.getD key).isTruthy

def mentions (v : Value) (key : String) : Bool := (v.get? key).isSome

/-! ## Parameters -/

/-- Checks the parameters of an operation, given the names and places of those before them. -/
def checkParameters (key : String) (seen : List (String × Value)) :
    List Value → Except Obstacle (List Finding)
  | [] => .ok []
  | p :: rest =>
    if !p.isMap then do
      return .malformedParameter key :: (← checkParameters key seen rest)
    else if mentions p "$ref" then checkParameters key seen rest
    else if !affirms p "name" then do
      return .namelessParameter key :: (← checkParameters key seen rest)
    else
      let name := (p.getD "name").plainText
      let place := p.getD "in"
      if !place.isKey then .error .collectionAsPlace
      else do
        let described := mentions p "schema" || mentions p "type" || mentions p "content"
        let known := seen.any fun (n, spot) => n == name && spot.sameKey place
        let found :=
          when (!place.isTruthy) (.placelessParameter name key)
            ++ when (!described) (.untypedParameter name key)
            ++ when known (.repeatedParameter name place.plainText key)
            ++ when (place.asText? == some "path" && !affirms p "required")
              (.optionalPathParameter name key)
        return found ++ (← checkParameters key ((name, place) :: seen) rest)

/-! ## Operations -/

def usuallyWithBody : List Method := [.post, .put, .patch]

/-- The method that a key of a path item names, in whatever letters. -/
def methodOfKey? (k : Value) : Option Method :=
  Method.ofName? (Text.lowercase k.plainText)

def isBodyParameter (p : Value) : Bool :=
  match (p.getD "in").asText? with
  | some place => place == "body" || place == "formData"
  | none => false

def checkDirect (older : Bool) (key : String) (method : Method) (operation : Value) :
    Except Obstacle (List Finding) := do
  let parameters := (operation.getD "parameters").asList?.getD []
  let ofParameters ← checkParameters key [] parameters
  let hasBody := if older then parameters.any isBodyParameter else affirms operation "requestBody"
  return when (!affirms operation "responses") (.missingResponses key)
    ++ when (!affirms operation "operationId") (.missingOperationId key)
    ++ when (!affirms operation "summary" && !affirms operation "description") (.undescribed key)
    ++ ofParameters
    ++ when (usuallyWithBody.contains method && !hasBody) (.maybeBody key)
    ++ when (!affirms operation "tags") (.missingTags key)

/-- Checks the operation under a key of a path item; other keys are passed over. -/
def checkOperation (older : Bool) (path : String) (m : Value × Value) :
    Except Obstacle (List Finding) :=
  match methodOfKey? m.1 with
  | none => .ok []
  | some method =>
    let key := Text.uppercase m.1.plainText ++ " " ++ path
    if m.2.isMap then checkDirect older key method m.2 else .ok [.malformedOperation key]

/-- The findings of a check of each element. -/
def forEach {α : Type} (check : α → Except Obstacle (List Finding)) :
    List α → Except Obstacle (List Finding)
  | [] => .ok []
  | x :: xs => do
    let here ← check x
    return here ++ (← forEach check xs)

def checkPath (older : Bool) (m : Value × Value) : Except Obstacle (List Finding) := do
  let path := m.1.plainText
  let ofPath := when (path.toList.head? != some '/') (.relativePath path)
  match m.2.asMap? with
  | some item => return ofPath ++ (← forEach (checkOperation older path) item)
  | none => return ofPath ++ [.malformedPathItem path]

/-! ## Security schemes -/

/-- Checks a security scheme: each type needs members of its own. -/
def checkScheme (m : Value × Value) : List Finding :=
  let name := m.1.plainText
  let scheme := m.2
  if !affirms scheme "type" then [.untypedScheme name]
  else
    let type := scheme.getD "type"
    match type.asText? with
    | some "apiKey" =>
      when (!affirms scheme "name" || !affirms scheme "in") (.incompleteKeyScheme name)
    | some "http" => when (!affirms scheme "scheme") (.incompleteHttpScheme name)
    | some "oauth2" =>
      when (!affirms scheme "flows" && !affirms scheme "flow") (.schemeWithoutFlows name)
    | some "openIdConnect" =>
      when (!affirms scheme "openIdConnectUrl") (.schemeWithoutUrl name)
    | some "basic" => []
    | _ => [.unknownSchemeType type.plainText name]

/-- The security schemes that a document declares: those of its components, if they are declared
there at all, or else those of the older dialect. -/
def declaredSchemes (doc : Value) : Members :=
  let ofComponents := (doc.getD "components").getD "securitySchemes"
  let schemes := if ofComponents.isNull then doc.getD "securityDefinitions" else ofComponents
  schemes.asMap?.getD []

/-! ## Whole documents -/

def checkInfo (doc : Value) : List Finding :=
  let info := doc.getD "info"
  if info.isMap then
    when (!affirms info "title") .missingTitle ++ when (!affirms info "version") .missingVersion
  else [.missingInfo]

def checkPaths (older : Bool) (doc : Value) : Except Obstacle (List Finding) :=
  match (doc.getD "paths").asMap? with
  | some (m :: ms) => forEach (checkPath older) (m :: ms)
  | _ => .ok [.noPaths]

/-- Checks that the document says where the interface is found. -/
def checkServers (older : Bool) (doc : Value) : List Finding :=
  if older then when (!affirms doc "host") .noServers
  else when (mentions doc "openapi" && !affirms doc "servers") .noServers

def findings (doc : Value) : Except Obstacle (List Finding) :=
  if !doc.isMap then .error .notMapping
  else do
    let older := mentions doc "swagger"
    let ofPaths ← checkPaths older doc
    return checkInfo doc ++ ofPaths
      ++ when (!mentions doc "openapi" && !older) .noFormatVersion
      ++ checkServers older doc
      ++ (declaredSchemes doc).flatMap checkScheme

def checkDocument (doc : Value) : Except Obstacle Report := (findings doc).map reportOf

end ApiTools.Validation
