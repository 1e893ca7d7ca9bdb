import ApiTools.Command.Stop

set_option autoImplicit false

/-!
# Generating a server

The commands that generate: for one document, or for the documents of a batch file. Both look for
the configuration first, generate the tools, and print the manifest or write the server.
-/

namespace ApiTools.Command

/-- The settings as the upper layer of the configuration. -/
def Settings.layer (s : Settings) : Configuration.Layer :=
  let set (key : String) (on : Bool) : Configuration.Layer :=
    Configuration.member key (if on then some (.bool true) else none)
  Configuration.member "server_name" (s.serverName.map .str)
    ++ Configuration.member "base_url" (s.baseUrl.map .str)
    ++ set "enhance_descriptions" s.enhance
    ++ Configuration.member "template_dir" (s.templateDirectory.map .str)
    ++ set "strict" s.strict
    ++ set "merge_path_parameters" s.mergePathParameters

def optionsOf (c : Configuration) : Generation.Options :=
  { baseUrl := c.baseUrl
    enhance := c.enhance
    mergePathParameters := c.mergePathParameters
    strict := c.strict }

def printManifest (e : Equipment) (c : Console) (p : Rendering.Package)
    (serverName : Option String) : Run Unit :=
  Run.print e c (Rendering.Context.ofPackage p serverName).toDict

/-- Writes a server for a package, and gives the paths of its files. -/
def writeServer (e : Equipment) (c : Console) (p : Rendering.Package) (output : String)
    (config : Configuration) : Run (List Path) :=
  Run.orStopNoted c
    (Rendering.write e.engine p output config.serverName config.templateDirectory) .ofRendering

/-! ## One document -/

/-- What is said about the tools before they are used. -/
def remarks (source : String) (o : Generation.Outcome) : List Message :=
  (if o.validation.isValid then []
    else [.suggestion ("Run: specmcp validate " ++ source)])
    ++ (if o.tools.isEmpty then [.warning "No tools were generated"] else [])

def toolsFor (c : Console) (source : String) (config : Configuration) :
    Run Generation.Outcome := do
  Run.tell c (.debug ("Loading " ++ source))
  let o ← Run.orStopNoted c (Generation.fromSource (optionsOf config) source) .ofObstacle
  Run.act (c.tellAll (remarks source o))
  return o

def written (output : String) (o : Generation.Outcome) (paths : List Path) : List Message :=
  let program := (Path.ofText output).join (Path.ofText "server.py")
  paths.map (fun p => .debug ("Wrote " ++ p.text))
    ++ [.success ("Generated " ++ toString o.tools.length ++ " tool(s) in " ++ output),
        .suggestion ("Run: python " ++ program.text)]

def generate (e : Equipment) (c : Console) (r : GenerateRequest) : Run Unit := do
  let config ← Run.orStop (Configuration.resolve r.settings.layer) .ofConfiguration
  let o ← toolsFor c r.source config
  let package := Rendering.Package.ofOutcome o
  if r.settings.toOutput then printManifest e c package config.serverName
  else
    let paths ← writeServer e c package r.output config
    Run.act (c.tellAll (written r.output o paths))

/-! ## A batch -/

/-- Stops if the user asks for a strategy that does not exist. -/
def checkStrategy (name : Option String) : Run Unit :=
  match name with
  | none => return
  | some s =>
    if (MergeStrategy.ofName? s).isSome then return
    else Run.stop <| .failed
      ("Unknown merge strategy '" ++ s ++ "'. Choose from: "
        ++ ", ".intercalate (MergeStrategy.all.map (·.name))) misuseCode

/-- The upper layer of the configuration for a batch. The batch file fills in what the user does
not say. -/
def BatchRequest.layer (r : BatchRequest) (b : BatchFile) : Configuration.Layer :=
  let settings := { r.settings with
    serverName := (r.settings.serverName.bind nonempty?).or b.serverName }
  let strategy := r.mergeStrategy.or (b.mergeStrategy.map (·.name))
  settings.layer
    ++ Configuration.member "max_workers" (r.maxWorkers.map .int)
    ++ Configuration.member "merge_strategy" (strategy.map .str)

/-- Where the server for a batch is written, if that is said anywhere. -/
def BatchRequest.target? (r : BatchRequest) (b : BatchFile) : Option String :=
  (r.output.bind nonempty?).or b.output

/-- Stops if it is not said where the server for a batch is written. -/
def targetOf (r : BatchRequest) (b : BatchFile) : Run String :=
  match r.target? b with
  | some t => return t
  | none =>
    if r.settings.toOutput then return ""
    else Run.stop <| .failed
      "No output directory: pass --output or set 'output' in the batch file" misuseCode

def startText (b : BatchFile) (config : Configuration) : String :=
  "Processing " ++ toString b.sources.length ++ " document(s) with "
    ++ toString config.maxWorkers ++ " worker(s)"

def toolsForBatch (c : Console) (b : BatchFile) (config : Configuration) :
    Run Generation.Batch := do
  Run.tell c (.info (startText b config))
  let batch ← Run.orStopNoted c
    (Generation.fromSources (optionsOf config) config.mergeStrategy b.sources) .ofSource
  if batch.results.isEmpty then
    Run.stop (.failed "No document in the batch could be processed" failureCode)
  Run.act (c.tellAll (batch.failures.map fun f => .warning ("Skipped " ++ f.source)))
  return batch

/-- Generates a server from the documents of a batch file. -/
def batch (e : Equipment) (c : Console) (r : BatchRequest) : Run Unit := do
  checkStrategy r.mergeStrategy
  let b ← Run.orStop (BatchFile.load r.file) .ofBatchFile
  let config ← Run.orStop (Configuration.resolve (r.layer b)) .ofConfiguration
  let target ← targetOf r b
  let batch ← toolsForBatch c b config
  let package := Rendering.Package.ofBatch batch
  if r.settings.toOutput then printManifest e c package config.serverName
  else
    let _ ← writeServer e c package target config
    Run.tell c <| .success
      ("Generated " ++ toString batch.tools.length ++ " tool(s) from "
        ++ toString batch.results.length ++ " document(s) in " ++ target)

end ApiTools.Command
