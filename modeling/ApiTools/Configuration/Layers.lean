import ApiTools.Action.Basic
import ApiTools.Configuration.Basic
import ApiTools.Json.Reader
import ApiTools.Text.Decimal
import ApiTools.Text.Decoding
import ApiTools.Text.Encoding

set_option autoImplicit false

/-!
# The layers of a configuration

The file of the project is JSON, an environment variable counts if it is not empty, and the
arguments of a command count if they are given.
-/

namespace ApiTools.Configuration

/-- Why there is no configuration. -/
inductive Failure where
  /-- The file of the project cannot be read as JSON. -/
  | unreadableProject (path reason : String)
  /-- The file of the project is no mapping. -/
  | projectNotMapping (path : String)
  /-- The environment gives a number of workers that is no integer. -/
  | workersNotInteger (text : String)
  /-- A member has a value that makes no sense. -/
  | invalid
  deriving Repr, DecidableEq

def workersVariable : String := "SPECMCP_MAX_WORKERS"

def baseUrlVariable : String := "SPECMCP_BASE_URL"

def serverNameVariable : String := "SPECMCP_SERVER_NAME"

def Failure.message : Failure → String
  | unreadableProject path reason => "Invalid project config at " ++ path ++ ": " ++ reason
  | projectNotMapping path => "Invalid project config at " ++ path ++ ": expected a JSON object"
  | workersNotInteger text =>
    workersVariable ++ " must be an integer (got " ++ Value.quoted text ++ ")"
  | invalid => "Invalid configuration: a value makes no sense"

/-! ## The file of the project -/

def projectFile : String := "specmcp.json"

def ofContent (path : String) (content : ByteArray) : Except Failure Members :=
  match Text.ofFile? content with
  | none => .error (.unreadableProject path (Text.encodingProblem content.toList))
  | some text =>
    match Json.read text with
    | .error refusal => .error (.unreadableProject path refusal.message)
    | .ok (.map ms) => .ok ms
    | .ok _ => .error (.projectNotMapping path)

/-- The members that the project sets, if it has such a file. -/
def project : Action (Except Failure (Option Members)) := do
  let path := (← Action.here).join (Path.ofText projectFile)
  match ← Action.sight path with
  | .ok .file =>
    match ← Action.content path with
    | .ok content => return (ofContent path.text content).map some
    | .error reason => return .error (.unreadableProject path.text reason)
  | .ok _ => return .ok none
  | .error reason => return .error (.unreadableProject path.text reason)

/-! ## The environment -/

/-- The settings of the environment that are there and not empty. -/
structure Environment where
  baseUrl : Option String := none
  serverName : Option String := none
  maxWorkers : Option String := none

def environment : Action Environment := do
  return {
    baseUrl := ← Action.askFilled baseUrlVariable
    serverName := ← Action.askFilled serverNameVariable
    maxWorkers := ← Action.askFilled workersVariable }

/-- A member of a layer, if it is set. -/
def member (key : String) (v : Option Value) : Layer := (v.map fun v => (key, v)).toList

def Environment.layer (e : Environment) : Except Failure Layer :=
  let texts := member "base_url" (e.baseUrl.map .str)
    ++ member "server_name" (e.serverName.map .str)
  match e.maxWorkers with
  | none => .ok texts
  | some text =>
    match Text.typedInteger? text with
    | some n => .ok (texts ++ [("max_workers", .int n)])
    | none => .error (.workersNotInteger text)

/-! ## All layers -/

/-- The configuration that the layers give. -/
def ofLayers (project : Option Members) (e : Environment) (arguments : Layer) :
    Except Failure Configuration := do
  let middle ← e.layer
  match read? (arguments.above (middle.above (project.getD []))) with
  | some c => return c
  | none => throw .invalid

/-- The configuration that counts for a command with some arguments. -/
def resolve (arguments : Layer) : Action (Except Failure Configuration) := do
  match ← project with
  | .error f => return .error f
  | .ok ofProject => return ofLayers ofProject (← environment) arguments

end ApiTools.Configuration
