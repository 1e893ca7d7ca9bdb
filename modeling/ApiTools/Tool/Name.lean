import ApiTools.Api.Basic
import ApiTools.Name

set_option autoImplicit false

/-!
# Names of tools

The tool for an operation is named by the operation's identifier, or else by its method and
path. Operations that hand out credentials are recognised by their path, identifier and wording.
-/

namespace ApiTools.Endpoint

/-- The name of the tool for an operation: the identifier with underscores, or the method and the
literal segments of the path. -/
def toolName (e : Endpoint) : String :=
  let ofId := Name.snake (e.operationId.getD "")
  if !ofId.isEmpty then ofId
  else match Name.literalSegments e.path with
    | [] => e.method.name ++ "_root"
    | segments => e.method.name ++ "_" ++ "_".intercalate segments

/-- What a method does to a resource, in a word. -/
def verb : Method → String
  | .get => "Retrieve"
  | .post => "Create"
  | .put => "Update"
  | .patch => "Modify"
  | .delete => "Delete"
  | .head | .options => "Process"

/-- The last literal part of a path as it is written, if there is one. -/
def resource? (path : String) : Option (List Char) := (Name.literalParts path).getLast?

/-- The description of an operation that has neither a description nor a summary. -/
def fallbackDescription (e : Endpoint) : String :=
  verb e.method ++ " " ++ ((resource? e.path).map String.ofList).getD "resource"

/-! ## Operations that hand out credentials -/

/-- Parts of paths where credentials are handed out. -/
def credentialPaths : List String :=
  ["/auth/login", "/auth/token", "/token", "/login", "/oauth/token", "/auth/oauth/token",
   "/v2/auth/login"]

/-- Words in identifiers of operations that hand out credentials. -/
def credentialIds : List String := ["token", "auth", "login", "authenticate"]

/-- Words in descriptions of operations that hand out credentials. -/
def credentialWords : List String := ["access token", "authentication", "login", "auth"]

/-- Whether a text mentions one of some words, where case is ignored. -/
def mentionsAny (text : String) (words : List String) : Bool :=
  let small := Text.lower text.toList
  words.any fun w => Text.occursIn w.toList small

/-- The first of two texts that is there and not empty. -/
def firstText (a b : Option String) : String :=
  match a with
  | some s => if s.isEmpty then b.getD "" else s
  | none => b.getD ""

/-- Whether an operation hands out credentials, as its path, identifier or wording tells. -/
def issuesCredentials (e : Endpoint) : Bool :=
  mentionsAny e.path credentialPaths
    || (match e.operationId with
      | some id => !id.isEmpty && mentionsAny id credentialIds
      | none => false)
    || mentionsAny (firstText e.description e.summary) credentialWords

end ApiTools.Endpoint
