import ApiTools.Generation.Batch
import ApiTools.Json.Writer
import ApiTools.Name
import ApiTools.Tool.Writer

set_option autoImplicit false

/-!
# What is rendered

A server is rendered from tools and what is known about the interface they belong to. What the
templates show is put together once, for one document or for a batch. What a template makes of it
is left to an engine.
-/

namespace ApiTools.Rendering

/-- Tools with what the server says about itself. -/
structure Package where
  info : ApiInfo
  baseUrl : String
  tools : List Tool

def Package.ofOutcome (o : Generation.Outcome) : Package := ⟨o.info, o.baseUrl, o.tools⟩

/-- The tools of a batch. It is called as its first document; it has a base address only if that
is its only one. -/
def Package.ofBatch (b : Generation.Batch) : Package :=
  { info := match b.results with
      | o :: _ => o.info
      | [] => { title := "API", version := "0.0.0" }
    baseUrl := match b.results with
      | [o] => o.baseUrl
      | _ => ""
    tools := b.tools }

def generatorVersion : String := "0.1.0"

/-- What a template shows. -/
structure Context where
  serverName : String
  title : String
  version : String
  description : String
  baseUrl : String
  /-- The environment variable for the base address. -/
  baseUrlVariable : String
  tools : List Tool
  /-- The environment variables for credentials, each with the tools that need it. -/
  usage : List (String × List String)
  generatorVersion : String := Rendering.generatorVersion

def Context.credentials (c : Context) : List String := c.usage.map (·.1)

def addUser (usage : List (String × List String)) (setting user : String) :
    List (String × List String) :=
  match usage with
  | [] => [(setting, [user])]
  | (v, users) :: rest =>
    if v == setting then (v, users ++ [user]) :: rest
    else (v, users) :: addUser rest setting user

/-- The variables for credentials that tools need, sorted by name, each with the tools. -/
def usageOf (tools : List Tool) : List (String × List String) :=
  let found := tools.foldl (fun acc t =>
    match t.authentication with
    | some a => addUser acc a.envVariable t.name
    | none => acc) []
  found.mergeSort fun a b => a.1 ≤ b.1

def baseUrlVariableOf (serverName : String) : String :=
  String.ofList ((Text.upper (Name.slug serverName).toList).map fun c =>
    if c = '-' then '_' else c) ++ "_BASE_URL"

/-- What the templates show for a package. -/
def Context.ofPackage (p : Package) (serverName : Option String) : Context :=
  let name := (serverName.bind nonempty?).getD (Name.slug p.info.title ++ "-mcp")
  { serverName := name
    title := p.info.title
    version := p.info.version
    description := (p.info.description.bind nonempty?).getD ("MCP server for the " ++ p.info.title)
    baseUrl := p.baseUrl
    baseUrlVariable := baseUrlVariableOf name
    tools := p.tools
    usage := usageOf p.tools }

def Context.server (c : Context) : Value :=
  Value.object
    [("name", .str c.serverName), ("title", .str c.title), ("version", .str c.version),
     ("baseUrl", .str c.baseUrl)]

/-- The manifest: the server and its tools. -/
def Context.manifest (c : Context) : Value :=
  Value.object [("server", c.server), ("tools", .list (c.tools.map Tool.toValue))]

/-- The manifest as it is written, unless one of the tools cannot be serialised or there are too
many digits in it. -/
def Context.toDict (c : Context) : Except Value.Flaw Value := do
  let _ ← c.tools.mapM (Tool.toDict Value.mostLevels)
  c.manifest.writable

def fileText (v : Value) : String := Json.write Json.indented v ++ "\n"

/-! ## Engines -/

/-- Why an engine makes no text of a template. -/
inductive EngineFailure where
  /-- The template is at fault. -/
  | fault (message : String)
  /-- The disk refuses a file that the template includes. -/
  | refused (reason : String)
  /-- The template asks for what cannot be done. -/
  | broken (cause : String)
  /-- There is a text, but one with characters that no file takes. -/
  | unwritable
  deriving Repr, DecidableEq

/-- What makes a text of a template with a name, whatever the language of templates is. A template
may include others and other files. -/
abbrev Engine := Context → (name template : String) → Except EngineFailure String

end ApiTools.Rendering
