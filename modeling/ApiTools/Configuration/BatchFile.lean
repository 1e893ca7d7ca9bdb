import ApiTools.Generation.Batch
import ApiTools.Configuration.Basic
import ApiTools.Json.Reader
import ApiTools.Yaml.Reader

set_option autoImplicit false

/-!
# Batch files

A batch file lists documents, in JSON or YAML. An entry is a text, which says where the document
is, or a mapping. Relative paths start at the directory of the batch file.
-/

namespace ApiTools

structure BatchFile where
  sources : List BatchSource := []
  output : Option String := none
  serverName : Option String := none
  /-- How the documents are put together, if the file says so. -/
  mergeStrategy : Option MergeStrategy := none
  /-- Which members the file sets. -/
  written : List String := []

namespace BatchFile

open Record

/-- Why a batch file cannot be used. -/
inductive Failure where
  | notFound (path : String)
  /-- The disk does not tell what is at the path. -/
  | unseen (path reason : String)
  | unreadable (path reason : String)
  /-- The file is no mapping. -/
  | notMapping (path : String)
  /-- A member has a value that makes no sense. -/
  | invalid (path : String)
  /-- The file is not in UTF-8. -/
  | notText (path : String)
  /-- The file names something that does not exist. -/
  | impossible (fault : Yaml.Fault)
  /-- An integer in the file has too many digits. -/
  | tooLong
  deriving Repr, DecidableEq

def Failure.message : Failure → String
  | notFound path => "Batch file not found: " ++ path
  | unseen path reason => "Cannot look at " ++ path ++ ": " ++ reason
  | unreadable path reason => "Cannot read batch file " ++ path ++ ": " ++ reason
  | notMapping path => "Batch file " ++ path ++ " must contain an object with a 'specs' list"
  | invalid path => "Invalid batch file " ++ path ++ ": a value makes no sense"
  | notText path => "Batch file is not in UTF-8: " ++ path
  | impossible _ => "Impossible value"
  | tooLong => "Too many digits"

def Failure.isExpected : Failure → Bool
  | notText _ | unseen _ _ | impossible _ | tooLong => false
  | _ => true

/-! ## Reading -/

def readEntry? (v : Value) : Option BatchSource :=
  match v.content with
  | .str s => some { input := s }
  | .map ms => BatchSource.readMembers? ms
  | _ => none

def readEntries? (v : Value) : Option (List BatchSource) :=
  match v.content with
  | .list xs => xs.mapM readEntry?
  | .set [] => some []
  | _ => none

def readMembers? (ms : Members) : Option BatchFile := do
  let found (newer older : String) : Bool := (find? ms newer older).isSome
  return {
    sources := ← orElse? ms "specifications" "specs" [] readEntries?
    output := ← optional? ms "output" "output" Value.readText?
    serverName := ← optional? ms "serverName" "server_name" Value.readText?
    mergeStrategy :=
      ← orElse? ms "mergeStrategy" "merge_strategy" none fun v => (MergeStrategy.read? v).map some
    written :=
      (if found "mergeStrategy" "merge_strategy" then ["merge_strategy"] else [])
        ++ (if found "output" "output" then ["output"] else [])
        ++ (if found "serverName" "server_name" then ["server_name"] else [])
        ++ (if found "specifications" "specs" then ["specs"] else []) }

/-- Where a document is, seen from the directory of the batch file. -/
def place (directory : Path) (input : String) : String :=
  if input == "-" || Source.isWeb input then input
  else
    let p := Path.ofText input
    if p.isAbsolute then input else (directory.join p).text

/-- The batch file with the places of its documents seen from outside. -/
def placed (b : BatchFile) (directory : Path) : BatchFile :=
  { b with sources := b.sources.map fun s => { s with input := place directory s.input } }

def decode (path text : String) : Except Failure Value :=
  if Text.lowercase (Path.ofText path).suffix == ".json" then
    (Json.read text).mapError fun
      | .notJson reason => .unreadable path reason
      | .tooLong _ => .tooLong
  else match Yaml.read text with
    | .ok v => .ok v
    | .error .malformed => .error (.unreadable path "malformed text")
    | .error fault => .error (.impossible fault)

def ofContent (path : String) (content : ByteArray) : Except Failure BatchFile :=
  match Text.ofFile? content with
  | none => .error (.notText path)
  | some text => do
    match (← decode path text).asMap? with
    | some ms =>
      match readMembers? ms with
      | some b => return b.placed (Path.ofText path).parent
      | none => throw (.invalid path)
    | none => throw (.notMapping path)

def load (path : String) : Action (Except Failure BatchFile) := do
  match ← Action.sight (Path.ofText path) with
  | .ok .file =>
    match ← Action.content (Path.ofText path) with
    | .ok content => return ofContent path content
    | .error reason => return .error (.unreadable path reason)
  | .ok _ => return .error (.notFound path)
  | .error reason => return .error (.unseen path reason)

end BatchFile

end ApiTools
