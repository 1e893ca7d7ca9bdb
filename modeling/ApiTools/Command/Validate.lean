import ApiTools.Command.Stop

set_option autoImplicit false

/-!
# Validating a document

The report about a document is printed as data where data is wanted as JSON, and told as messages
otherwise.
-/

namespace ApiTools.Command

def reportValue (r : Report) : Value :=
  let texts (ss : List String) : Value := .list (ss.map .str)
  Value.object
    [("isValid", .bool r.isValid), ("errors", texts r.errors), ("warnings", texts r.warnings),
     ("suggestions", texts r.suggestions)]

def reportMessages (source : String) (r : Report) : List Message :=
  r.errors.map .error ++ r.warnings.map .warning ++ r.suggestions.map .suggestion
    ++ (if r.isValid then [.success (source ++ " is valid")] else [])

def showReport (e : Equipment) (c : Console) (source : String) (r : Report) : Action Unit :=
  if c.format = .json then c.json e.drawing (reportValue r)
  else c.tellAll (reportMessages source r)

def validate (e : Equipment) (c : Console) (source : String) : Run Unit := do
  let doc ← Run.orStopNoted c (Source.load source) .ofSource
  let report ← Run.noted c (Validation.fullReport doc) .ofHindrance
  Run.act (showReport e c source report)
  if !report.isValid then Run.stop (.ended invalidCode)

end ApiTools.Command
