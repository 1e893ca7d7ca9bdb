import ApiTools.Command.Arguments
import ApiTools.Console.Basic
import ApiTools.Text.Decimal

set_option autoImplicit false

/-!
# Requests

What a user asks for on a command line: one of the commands with its settings, and how its output
shall look. A command line that asks for help or for the version asks for nothing else, and one
that cannot be understood is a misuse.
-/

namespace ApiTools.Command

/-! ## What can be asked for -/

/-- The settings of the commands that generate. -/
structure Settings where
  serverName : Option String := none
  baseUrl : Option String := none
  enhance : Bool := false
  templateDirectory : Option String := none
  strict : Bool := false
  mergePathParameters : Bool := false
  /-- Whether the manifest is printed and nothing is written. -/
  toOutput : Bool := false
  deriving Repr, DecidableEq

/-- Where a server is written unless the user says otherwise. -/
def defaultOutput : String := "mcp-server"

/-- Asks for a server for one document. -/
structure GenerateRequest where
  source : String
  output : String := defaultOutput
  settings : Settings := {}
  deriving Repr, DecidableEq

/-- Asks for a server for the documents of a batch file. -/
structure BatchRequest where
  file : String
  output : Option String := none
  maxWorkers : Option Int := none
  mergeStrategy : Option String := none
  settings : Settings := {}
  deriving Repr, DecidableEq

/-- Asks to see something about a document. -/
inductive InspectRequest where
  | tools (source : String) (enhance : Bool)
  | tool (source name : String) (baseUrl : Option String) (enhance : Bool)
  | schemas (source : String)
  | auth (source : String)
  | info (source : String)
  deriving Repr, DecidableEq

inductive Task where
  | generate (r : GenerateRequest)
  | batch (r : BatchRequest)
  | validate (source : String)
  | inspect (r : InspectRequest)
  deriving Repr, DecidableEq

/-- How the output shall look. -/
structure View where
  format : Option Format := none
  noColour : Bool := false
  quiet : Bool := false
  verbose : Bool := false
  deriving Repr, DecidableEq

structure Request where
  view : View
  task : Task
  deriving Repr, DecidableEq

/-! ## Commands -/

inductive Verb where
  | generate
  | batch
  | validate
  | inspect
  deriving Repr, DecidableEq

/-- What can be inspected. -/
inductive Aspect where
  | tools
  | tool
  | schemas
  | auth
  | info
  deriving Repr, DecidableEq

namespace Verb

def all : List Verb := [generate, batch, validate, inspect]

def name : Verb → String
  | generate => "generate"
  | batch => "batch"
  | validate => "validate"
  | inspect => "inspect"

def ofName? (s : String) : Option Verb := all.find? (·.name == s)

end Verb

namespace Aspect

def all : List Aspect := [tools, tool, schemas, auth, info]

def name : Aspect → String
  | tools => "tools"
  | tool => "tool"
  | schemas => "schemas"
  | auth => "auth"
  | info => "info"

def ofName? (s : String) : Option Aspect := all.find? (·.name == s)

end Aspect

inductive Page where
  | program
  | verb (v : Verb)
  | aspect (a : Aspect)
  deriving Repr, DecidableEq

/-- Why a command line is no request. -/
inductive Refusal where
  | help (page : Page)
  /-- Nothing was asked for where something is needed. -/
  | nothing (page : Page)
  | version
  | misuse (m : Misuse)
  deriving Repr, DecidableEq

/-! ## Options -/

def helpRule : OptionRule := { name := "help", help := "Show this message and exit." }

def enhanceRule : OptionRule :=
  { name := "enhance", help := "Improve summaries and fill in missing descriptions." }

def baseUrlRule : OptionRule :=
  { name := "base-url", takesValue := true, help := "Override the base URL." }

def programRules : List OptionRule :=
  [{ name := "version", help := "Show version and exit." },
   { name := "json", help := "JSON output format." },
   { name := "plain", help := "Plain text output." },
   { name := "no-color", help := "Disable color output." },
   { name := "quiet", letter := some 'q', help := "Suppress non-essential output." },
   { name := "verbose", letter := some 'v', help := "Enable debug output." },
   helpRule]

def settingsRules : List OptionRule :=
  [{ name := "output", letter := some 'o', takesValue := true,
     help := "Directory to write the server into." },
   { name := "server-name", takesValue := true, help := "Name the MCP server announces." },
   baseUrlRule,
   enhanceRule,
   { name := "template-dir", takesValue := true, help := "Directory with override templates." },
   { name := "strict", help := "Do not accept documents with validation errors." },
   { name := "merge-path-params", help := "Apply path-level parameters to each operation." },
   { name := "stdout", help := "Print tools.json to stdout instead of writing files." },
   helpRule]

def batchRules : List OptionRule :=
  [{ name := "max-workers", takesValue := true, help := "Documents processed concurrently." },
   { name := "merge-strategy", takesValue := true,
     help := "How tool lists are merged: namespace or combine." }]
    ++ settingsRules

def Verb.rules : Verb → List OptionRule
  | generate => settingsRules
  | batch => batchRules
  | validate | inspect => [helpRule]

def Aspect.rules : Aspect → List OptionRule
  | tools => [enhanceRule, helpRule]
  | tool => [baseUrlRule, enhanceRule, helpRule]
  | schemas | auth | info => [helpRule]

/-! ## Reading a command line -/

/-- Reads words, unless they ask for help or for the version; what comes first counts. -/
def readWords (page : Page) (rules : List OptionRule) (mixed : Bool) (line : List String) :
    Except Refusal Arguments := do
  let a ← (Arguments.read rules mixed line).mapError .misuse
  match a.options.find? fun o => o.name == "help" || o.name == "version" with
  | some o => throw (if o.name == "help" then .help page else .version)
  | none => return a

def oneWord (name : String) : List String → Except Refusal String
  | [] => .error (.misuse (.missingArgument name))
  | [w] => .ok w
  | _ :: w :: _ => .error (.misuse (.extraArgument w))

def twoWords (first second : String) : List String → Except Refusal (String × String)
  | [] => .error (.misuse (.missingArgument first))
  | [_] => .error (.misuse (.missingArgument second))
  | [v, w] => .ok (v, w)
  | _ :: _ :: w :: _ => .error (.misuse (.extraArgument w))

/-- What is named by the first word of a group of commands, and the words after it. Without
words, the user is told what there is. -/
def readChoice {α : Type} (page : Page) (rules : List OptionRule) (ofName? : String → Option α)
    (line : List String) : Except Refusal (Arguments × α × List String) := do
  if line.isEmpty then throw (.nothing page)
  let a ← readWords page rules false line
  match a.words with
  | [] => throw (.misuse .missingCommand)
  | name :: rest =>
    match ofName? name with
    | some x => return (a, x, rest)
    | none =>
      let _ ← readWords page rules false a.words
      throw (.misuse (.unknownCommand name))

def settingsOf (a : Arguments) : Settings :=
  { serverName := a.value? "server-name"
    baseUrl := a.value? "base-url"
    enhance := a.has "enhance"
    templateDirectory := a.value? "template-dir"
    strict := a.has "strict"
    mergePathParameters := a.has "merge-path-params"
    toOutput := a.has "stdout" }

def workersOf (a : Arguments) : Except Refusal (Option Int) :=
  match a.value? "max-workers" with
  | none => .ok none
  | some text =>
    match (Text.typedInteger? text).filter (1 ≤ ·) with
    | some n => .ok (some n)
    | none => .error (.misuse (.badNumber text))

def readGenerate (line : List String) : Except Refusal GenerateRequest := do
  let a ← readWords (.verb .generate) Verb.generate.rules true line
  return {
    source := ← oneWord "SOURCE" a.words
    output := (a.value? "output").getD defaultOutput
    settings := settingsOf a }

def readBatch (line : List String) : Except Refusal BatchRequest := do
  let a ← readWords (.verb .batch) Verb.batch.rules true line
  return {
    file := ← oneWord "BATCH_FILE" a.words
    output := a.value? "output"
    maxWorkers := ← workersOf a
    mergeStrategy := a.value? "merge-strategy"
    settings := settingsOf a }

def readAspect (aspect : Aspect) (line : List String) : Except Refusal InspectRequest := do
  let a ← readWords (.aspect aspect) aspect.rules true line
  match aspect with
  | .tools => return .tools (← oneWord "SOURCE" a.words) (a.has "enhance")
  | .tool =>
    let (source, name) ← twoWords "SOURCE" "NAME" a.words
    return .tool source name (a.value? "base-url") (a.has "enhance")
  | .schemas => return .schemas (← oneWord "SOURCE" a.words)
  | .auth => return .auth (← oneWord "SOURCE" a.words)
  | .info => return .info (← oneWord "SOURCE" a.words)

def readTask (verb : Verb) (line : List String) : Except Refusal Task :=
  match verb with
  | .generate => (readGenerate line).map .generate
  | .batch => (readBatch line).map .batch
  | .validate => do
    let a ← readWords (.verb .validate) Verb.validate.rules true line
    return .validate (← oneWord "SOURCE" a.words)
  | .inspect => do
    let (_, aspect, rest) ←
      readChoice (.verb .inspect) Verb.inspect.rules Aspect.ofName? line
    return .inspect (← readAspect aspect rest)

/-- How the output shall look, by the options before the command. -/
def viewOf (a : Arguments) : View :=
  { format :=
      if a.has "json" then some .json else if a.has "plain" then some .plain else none
    noColour := a.has "no-color"
    quiet := a.has "quiet"
    verbose := a.has "verbose" }

def Request.read (line : List String) : Except Refusal Request := do
  let (a, verb, rest) ← readChoice .program programRules Verb.ofName? line
  return { view := viewOf a, task := ← readTask verb rest }

end ApiTools.Command
