import ApiTools.Tool.Credential
import ApiTools.Tool.Inputs
import ApiTools.Tool.Name

set_option autoImplicit false

/-!
# Tools for an interface

Each operation of an interface gives a tool, unless it hands out credentials: that is done for
the caller. An operation whose schemas have no end gives none either, and the rest are kept.
-/

namespace ApiTools

open Property (Unending)

/-- A text, unless it is empty. -/
def nonempty? (s : String) : Option String := if s.isEmpty then none else some s

/-- The first text of an operation that describes it, or one that is made up. -/
def Endpoint.toolDescription (e : Endpoint) : String :=
  (((e.description.bind nonempty?).or (e.summary.bind nonempty?))).getD e.fallbackDescription

def Tool.ofEndpoint (a : Api) (baseUrl : String) (e : Endpoint) :
    Except Unending Tool × List Log.Note :=
  match e.inputs a.schemas with
  | (.error u, notes) => (.error u, notes)
  | (.ok input, notes) =>
    let (authentication, more) := a.authentication? e
    (.ok
      { name := e.toolName
        description := e.toolDescription
        input := input
        method := e.method.capital
        path := e.path
        baseUrl := nonempty? baseUrl
        authentication := authentication }, notes ++ more)

/-- The wording for an operation that gives no tool. -/
def unendingMessage (e : Endpoint) : String :=
  "Cannot build tool for " ++ e.key ++ ": its schemas have no end"

/-- The tool for an operation, if it gives one. -/
def Tool.ofEndpoint? (a : Api) (baseUrl : String) (e : Endpoint) :
    Option Tool × List Log.Note :=
  if e.issuesCredentials then
    (none, [Log.info ("Skipping authentication endpoint " ++ e.key)])
  else match Tool.ofEndpoint a baseUrl e with
    | (.ok t, notes) => (some t, notes)
    | (.error _, notes) =>
      (none, notes ++ [Log.warning ("Dropping tool for " ++ e.key ++ ": " ++ unendingMessage e)])

namespace Api

/-- Where the tools of an interface send their requests: to a given address or to its own. -/
def toolBase (a : Api) (given : Option String) : String := given.getD a.baseUrl

/-- The tools for an interface, in the order of its operations. -/
def tools (a : Api) (given : Option String) : Log.Noted (List Tool) :=
  let built := a.endpoints.map (Tool.ofEndpoint? a (a.toolBase given))
  (built.filterMap (·.1), built.flatMap (·.2))

end Api

end ApiTools
