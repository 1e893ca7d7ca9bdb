import ApiTools.Json.Reader
import ApiTools.Yaml.Reader

set_option autoImplicit false

/-!
# Documents

A document is a mapping written in JSON or YAML. Where nothing says which of the two it is, JSON
is tried first, since its reader gives the sharper messages.
-/

namespace ApiTools

/-- What is known about the format of a text. -/
inductive Hint where
  | none
  | json
  | yaml
  | other
  deriving Repr, DecidableEq

namespace Document

/-- Why a text is no document. -/
inductive Problem where
  /-- The text was announced as JSON and is none. -/
  | notJson (message : String)
  /-- Neither format accepts the text; the messages of JSON are missing if it was not tried. -/
  | notReadable (json : Option String)
  /-- The text is a value of another kind than a mapping. -/
  | notMapping (kind : String)
  /-- The text names something that does not exist, such as the thirtieth of February. -/
  | impossible (fault : Yaml.Fault)
  /-- An integer in the text has too many digits. -/
  | tooLong
  deriving Repr, DecidableEq

def Problem.message : Problem → String
  | .notJson m => "Invalid JSON: " ++ m
  | .notReadable json =>
    let problems := (json.map ("JSON error: " ++ ·)).toList ++ ["YAML error: malformed text"]
    "Failed to parse document as JSON or YAML\n  " ++ "\n  ".intercalate problems
  | .notMapping kind => "Document must be a JSON/YAML object (got " ++ kind ++ ")"
  | .impossible _ => "Impossible value"
  | .tooLong => "Too many digits"

def hintOf (name : String) : Hint :=
  if name == "json" then .json
  else if name == "yaml" then .yaml
  else if name == "" then .none
  else .other

/-- A decoded text has to be a mapping. -/
def requireMapping (v : Value) : Except Problem Value :=
  if v.isMap then .ok v else .error (.notMapping v.kindName)

/-- Reads a text as YAML, after JSON has given the message if it was tried. -/
def readYaml (text : String) (json : Option String) : Except Problem Value :=
  match Yaml.read text with
  | .ok v => requireMapping v
  | .error .malformed => .error (.notReadable json)
  | .error fault => .error (.impossible fault)

/-- Reads a document. A text announced as JSON is read as nothing else, one announced as YAML is
not tried as JSON. -/
def parse (text : String) (hint : Hint) : Except Problem Value :=
  match hint with
  | .yaml => readYaml text none
  | _ =>
    match Json.read text with
    | .ok v => requireMapping v
    | .error (.tooLong _) => .error .tooLong
    | .error (.notJson m) => if hint == .json then .error (.notJson m) else readYaml text (some m)

end Document

end ApiTools
