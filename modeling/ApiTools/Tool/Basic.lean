import ApiTools.Property.Basic

set_option autoImplicit false

/-!
# Tools

A tool is what a program can call: a name, a description, the flat list of its inputs, and
everything that is needed to turn a call into a request.
-/

namespace ApiTools

structure InputSchema where
  properties : Properties := []
  required : List String := []

/-- Where a key is carried in a request. -/
inductive KeyPlace where
  | header
  | query
  | cookie
  deriving Repr, DecidableEq

namespace KeyPlace

def all : List KeyPlace := [header, query, cookie]

def name : KeyPlace → String
  | header => "header"
  | query => "query"
  | cookie => "cookie"

def ofName? (s : String) : Option KeyPlace := all.find? (·.name == s)

end KeyPlace

/-- How a tool authenticates. The secret is taken from an environment variable. -/
inductive Authentication where
  | apiKey (place : KeyPlace) (name : String) (setting : String)
  | bearer (setting : String)
  | basic (setting : String)
  | oauth2 (setting : String)
  deriving Repr, DecidableEq

namespace Authentication

def envVariable : Authentication → String
  | apiKey _ _ v | bearer v | basic v | oauth2 v => v

def kindName : Authentication → String
  | apiKey _ _ _ => "apiKey"
  | bearer _ => "bearer"
  | basic _ => "basic"
  | oauth2 _ => "oauth2"

end Authentication

/-- What a response is taken for. -/
inductive ResponseType where
  | json
  | text
  | binary
  deriving Repr, DecidableEq

namespace ResponseType

def all : List ResponseType := [json, text, binary]

def name : ResponseType → String
  | json => "json"
  | text => "text"
  | binary => "binary"

def ofName? (s : String) : Option ResponseType := all.find? (·.name == s)

end ResponseType

/-- Which responses count as a success, and what they hold. -/
structure ResponseHandling where
  successCodes : List Int := [200, 201, 204]
  responseType : ResponseType := .json
  deriving Repr, DecidableEq

/-- The meaning of the usual codes of failures. -/
def usualErrorCodes : List (Int × String) :=
  [(400, "Bad Request"), (401, "Unauthorized"), (403, "Forbidden"), (404, "Not Found"),
   (500, "Internal Server Error")]

structure ErrorHandling where
  retryCount : Int := 3
  timeoutMs : Int := 30000
  errorCodes : List (Int × String) := usualErrorCodes
  deriving Repr, DecidableEq

structure Tool where
  name : String
  description : String
  input : InputSchema := {}
  method : String
  path : String
  baseUrl : Option String := none
  authentication : Option Authentication := none
  responses : ResponseHandling := {}
  errors : ErrorHandling := {}

/-- What a tool is called in reports: its name, or else its method and path. -/
def Tool.label (t : Tool) : String :=
  if t.name.isEmpty then t.method ++ " " ++ t.path else t.name

end ApiTools
