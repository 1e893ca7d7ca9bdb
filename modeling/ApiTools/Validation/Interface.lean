import ApiTools.Api.Reader
import ApiTools.Validation.Document

set_option autoImplicit false

/-!
# Checking interfaces

A document may be well formed and yet say nothing that can be used. That shows once it has been
read as an interface.
-/

namespace ApiTools.Validation

/-- The errors of an interface: it has no operations, or one of them promises no response. -/
def interfaceErrors (a : Api) : List String :=
  (if a.endpoints.isEmpty then ["No endpoints defined in specification"] else [])
    ++ (a.endpoints.filter (·.responses.isEmpty)).map fun e =>
      (Finding.missingResponses e.key).text

/-- The warnings about an interface: it requires schemes that it does not define. -/
def interfaceWarnings (a : Api) : List String :=
  ((a.security.getD []).flatMap Named.names).filter (!Named.has a.securitySchemes ·) |>.map
    fun name => "Security requirement references undefined scheme '" ++ name ++ "'"

def checkInterface (a : Api) : Report :=
  { errors := interfaceErrors a, warnings := interfaceWarnings a }

/-- Why a document has no full report. -/
inductive Hindrance where
  | document (o : Obstacle)
  | interface (f : Api.Failure)
  deriving Repr, DecidableEq

/-- The report about a document together with the one about the interface that it describes. -/
def fullReport (doc : Value) : Except Hindrance Report × List Log.Note :=
  match checkDocument doc with
  | .error o => (.error (.document o), [])
  | .ok report =>
    if !(doc.getD "paths").isMap then (.ok report, [])
    else
      let (api, notes) := Api.read doc false
      match api with
      | .error f => (.error (.interface f), notes)
      | .ok api => (.ok (report.merge (checkInterface api)), notes)

end ApiTools.Validation
