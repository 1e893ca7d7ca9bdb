import ApiTools.Schema.Registry
import ApiTools.Text.Case

set_option autoImplicit false

/-!
# Interfaces

What a description of an interface over HTTP says, whichever of the two dialects it is written
in: its operations with their parameters, bodies and security, the named schemas, and where the
interface is found.
-/

namespace ApiTools

inductive Method where
  | get
  | put
  | post
  | delete
  | options
  | head
  | patch
  deriving Repr, DecidableEq

namespace Method

/-- All methods, in the usual order. -/
def all : List Method := [get, put, post, delete, options, head, patch]

def name : Method → String
  | get => "get"
  | put => "put"
  | post => "post"
  | delete => "delete"
  | options => "options"
  | head => "head"
  | patch => "patch"

def capital : Method → String
  | get => "GET"
  | put => "PUT"
  | post => "POST"
  | delete => "DELETE"
  | options => "OPTIONS"
  | head => "HEAD"
  | patch => "PATCH"

def ofName? (s : String) : Option Method := all.find? (·.name == s)

end Method

inductive ParameterPlace where
  | path
  | query
  | header
  | cookie
  | body
  | formData
  deriving Repr, DecidableEq

namespace ParameterPlace

def all : List ParameterPlace := [path, query, header, cookie, body, formData]

def name : ParameterPlace → String
  | path => "path"
  | query => "query"
  | header => "header"
  | cookie => "cookie"
  | body => "body"
  | formData => "formData"

def ofName? (s : String) : Option ParameterPlace := all.find? (·.name == s)

end ParameterPlace

structure Parameter where
  name : String
  place : ParameterPlace
  required : Bool := false
  description : Option String := none
  schema : Option Schema := none

/-- The body of a request: a schema, if one is given, for each media type. -/
structure RequestBody where
  description : Option String := none
  content : List (String × Option Schema) := []
  required : Bool := false

/-- A way to authenticate. Which of the fields count depends on the type. -/
structure SecurityScheme where
  name : String
  type : String
  description : Option String := none
  /-- The name of the header, query parameter or cookie that carries a key. -/
  paramName : Option String := none
  /-- Where that key is carried. -/
  location : Option String := none
  scheme : Option String := none
  bearerFormat : Option String := none
  flows : Option (List (String × Value)) := none
  openIdConnectUrl : Option String := none

/-- A requirement: the schemes that have to be met together, each with its scopes. -/
abbrev SecurityRequirement := List (String × List String)

/-- An operation. Its security is missing when it inherits that of the interface, and empty when
it is public. -/
structure Endpoint where
  path : String
  method : Method
  operationId : Option String := none
  summary : Option String := none
  description : Option String := none
  tags : List String := []
  parameters : List Parameter := []
  requestBody : Option RequestBody := none
  /-- The codes of the responses. -/
  responses : List String := []
  security : Option (List SecurityRequirement) := none

/-- Method and path: the label of an operation in notes and reports. -/
def Endpoint.key (e : Endpoint) : String := e.method.capital ++ " " ++ e.path

/-- What an interface is called. -/
structure ApiInfo where
  title : String
  version : String
  description : Option String := none

/-- A place where an interface is found. -/
structure Server where
  url : String
  description : Option String := none

structure Api where
  info : ApiInfo
  servers : List Server := []
  endpoints : List Endpoint := []
  schemas : Registry := []
  securitySchemes : List (String × SecurityScheme) := []
  security : Option (List SecurityRequirement) := none
  /-- The version of the description format. -/
  version : String
  host : Option String := none
  basePath : Option String := none
  schemes : List String := []

namespace Api

def isOlderVersion (version : String) : Bool := Text.beginsWith ['2'] version.toList

/-- Whether the description is written in the older dialect. -/
def isOlder (a : Api) : Bool := isOlderVersion a.version

/-- Where the interface is found: at its first server, or else at its host, over HTTPS if that is
among the schemes. -/
def baseUrl (a : Api) : String :=
  match a.servers with
  | s :: _ => s.url
  | [] =>
    match a.host with
    | none => ""
    | some host =>
      if host.isEmpty then ""
      else
        let scheme := if a.schemes.contains "https" then "https" else a.schemes.head?.getD "http"
        scheme ++ "://" ++ host ++ a.basePath.getD ""

end Api

end ApiTools
