import ApiTools.Api.Basic
import ApiTools.Log
import ApiTools.Name
import ApiTools.Named
import ApiTools.Tool.Basic

set_option autoImplicit false

/-!
# Credentials

The first scheme of the first requirement that applies to an operation tells how its tool
authenticates. An operation with an empty list of requirements is public, whatever the interface
requires in general.
-/

namespace ApiTools

/-- The credential that a scheme with a name asks for, if there is a way to supply it. -/
def SecurityScheme.credential? (name : String) (s : SecurityScheme) : Option Authentication :=
  let kind := Text.lowercase (s.scheme.getD "")
  let settingOf (suffix : String) : String := Name.envVariable name suffix
  if s.type == "apiKey" then
    let place := (s.location.bind KeyPlace.ofName?).getD .header
    let param := s.paramName.getD ""
    some (.apiKey place (if param.isEmpty then "apikey" else param) (settingOf "API_KEY"))
  else if s.type == "http" && kind == "bearer" then some (.bearer (settingOf "TOKEN"))
  else if (s.type == "http" && kind == "basic") || s.type == "basic" then
    some (.basic (settingOf "CREDENTIALS"))
  else if s.type == "oauth2" then some (.oauth2 (settingOf "ACCESS_TOKEN"))
  else none

namespace Api

/-- The requirements that apply to an operation: its own, or those of the interface. -/
def requirements (a : Api) (e : Endpoint) : List SecurityRequirement :=
  (e.security.or a.security).getD []

/-- The name of the scheme that counts for an operation. -/
def schemeName? (a : Api) (e : Endpoint) : Option String :=
  ((a.requirements e).head?.bind List.head?).map (·.1)

/-- How the tool for an operation authenticates. -/
def authentication? (a : Api) (e : Endpoint) : Option Authentication × List Log.Note :=
  match a.schemeName? e with
  | none => (none, [])
  | some name =>
    match Named.get? a.securitySchemes name with
    | none =>
      (none, [Log.warning ("Security requirement names undefined scheme '" ++ name ++ "'")])
    | some s =>
      match s.credential? name with
      | some c => (some c, [])
      | none =>
        (none, [Log.debug ("No credential mapping for scheme '" ++ name ++ "' of type "
          ++ s.type)])

end Api

end ApiTools
