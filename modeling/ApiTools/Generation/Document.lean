import ApiTools.Tool.Check
import ApiTools.Tool.Synthesis
import ApiTools.Validation.Interface
import ApiTools.Wording.Interface

set_option autoImplicit false

/-!
# From a document to tools

A document is checked, read as an interface, given better wording if that is asked for, and
turned into tools. A report with errors stops this only if the caller is strict.
-/

namespace ApiTools.Generation

open Log

/-- What the caller asks for. -/
structure Options where
  baseUrl : Option String := none
  /-- Whether texts are improved. -/
  enhance : Bool := false
  /-- Whether the parameters of a path count for its operations. -/
  mergePathParameters : Bool := false
  /-- Whether errors in the document are fatal. -/
  strict : Bool := false

/-- What a document gives. -/
structure Outcome where
  /-- Where the document came from, if that is known. -/
  source : Option String := none
  info : ApiInfo
  servers : List Server := []
  baseUrl : String := ""
  tools : List Tool := []
  validation : Report := {}

/-- Why a document gives no tools. -/
inductive Failure where
  /-- The document has errors, and the caller is strict. -/
  | invalid (subject : String) (report : Report)
  /-- The document has no paths. -/
  | noPaths
  /-- The document is of a shape that was not reckoned with. -/
  | unexpected (cause : Validation.Hindrance)
  deriving Repr, DecidableEq

def causeText : Validation.Hindrance → String
  | .document .notMapping => "document is not a mapping"
  | .document .collectionAsPlace => "place of a parameter is a collection"
  | .interface f => f.message

def Failure.message : Failure → String
  | .invalid subject report => report.refusal subject
  | .noPaths => Api.Failure.noPaths.message
  | .unexpected cause => "Failed to generate tools: " ++ causeText cause

/-- What to call a document in a refusal. -/
def subject (source : Option String) : String :=
  (source.bind nonempty?).getD "Document"

/-- The tools of an interface with the remaining parts of the outcome. -/
def ofApi (options : Options) (source : Option String) (report : Report) (api : Api) :
    Noted Outcome :=
  let api := if options.enhance then Wording.improve api else api
  let (tools, notes) := api.tools options.baseUrl
  let checks := tools.flatMap fun t =>
    t.check.errors.map fun m => warning ("Tool check: " ++ m)
  ({ source := source
     info := api.info
     servers := api.servers
     baseUrl := api.toolBase options.baseUrl
     tools := tools
     validation := report }, notes ++ checks)

def ofDocument (options : Options) (source : Option String) (doc : Value) :
    Except Failure Outcome × List Note :=
  match Validation.checkDocument doc with
  | .error o => (.error (.unexpected (.document o)), [])
  | .ok report =>
    let notes := report.errors.map fun m => warning ("Validation error: " ++ m)
    if options.strict && !report.isValid then
      (.error (.invalid (subject source) report), notes)
    else match Api.read doc options.mergePathParameters with
      | (.error .noPaths, more) => (.error .noPaths, notes ++ more)
      | (.error f, more) => (.error (.unexpected (.interface f)), notes ++ more)
      | (.ok api, more) =>
        let (outcome, rest) := ofApi options source report api
        (.ok outcome, notes ++ more ++ rest)

end ApiTools.Generation
