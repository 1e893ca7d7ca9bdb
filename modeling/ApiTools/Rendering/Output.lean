import ApiTools.Action.Replace
import ApiTools.Rendering.Readme
import ApiTools.Rendering.Server

set_option autoImplicit false

/-!
# Writing a server

A server is three files: the manifest, the program and the text beside it. The latter two are
made from templates of the user where there are any, by an engine. The files are written one after
the other, each in one go; what was written before something failed stays.
-/

namespace ApiTools.Rendering

inductive Failure where
  | noTemplateDirectory (path : String)
  /-- The disk does not tell what is at a path. -/
  | unseen (path reason : String)
  /-- A template is at fault. -/
  | template (name message : String)
  /-- A template is not in UTF-8. -/
  | templateNotText (name : String)
  /-- A template asks for what cannot be done. -/
  | brokenTemplate (cause : String)
  /-- No file takes the text that was made of a template. -/
  | textNotWritable (name : String)
  | unwritable (directory reason : String)
  /-- No disk takes the path of the directory. -/
  | impossiblePath (directory : String)
  /-- The manifest cannot be written down. -/
  | flawedManifest (flaw : Value.Flaw)
  deriving Repr, DecidableEq

def Failure.message : Failure → String
  | noTemplateDirectory path => "Template directory not found: " ++ path
  | unseen path reason => "Cannot look at " ++ path ++ ": " ++ reason
  | template name message => "Failed to render " ++ name ++ ": " ++ message
  | templateNotText name => "Template is not in UTF-8: " ++ name
  | brokenTemplate cause => cause
  | textNotWritable name => "No file takes the text of " ++ name
  | unwritable directory reason => "Cannot write to " ++ directory ++ ": " ++ reason
  | impossiblePath directory => "No path: " ++ directory
  | flawedManifest flaw => flaw.message

def Failure.isExpected : Failure → Bool
  | templateNotText _ | brokenTemplate _ | textNotWritable _ | flawedManifest _
  | impossiblePath _ | unseen _ _ => false
  | _ => true

/-- A file that is made from a template. -/
structure Product where
  template : String
  file : String
  /-- What the file holds when the user has no template for it. -/
  standard : Context → String

/-- The files that are made from templates, in order. -/
def products : List Product :=
  [⟨"server.py.j2", "server.py", Server.text⟩, ⟨"README.md.j2", "README.md", Readme.text⟩]

def manifestFile : String := "tools.json"

/-- How writing a server into a directory fails when an engine makes no text of a template. -/
def Failure.ofEngine (output : Path) (name : String) : EngineFailure → Failure
  | .fault message => template name message
  | .refused reason => unwritable output.text reason
  | .broken cause => brokenTemplate cause
  | .unwritable => textNotWritable name

/-- What the template of a user gives. -/
def ofTemplate (engine : Engine) (c : Context) (output : Path) (name : String)
    (content : ByteArray) : Except Failure String :=
  match Text.ofFile? content with
  | none => .error (.templateNotText name)
  | some s => (engine c name s).mapError (Failure.ofEngine output name)

/-- The text of a product: from the template in a directory of the user, if there is one. -/
def productText (engine : Engine) (c : Context) (directory : Option Path) (output : Path)
    (p : Product) : Action (Except Failure String) := do
  match directory with
  | none => return .ok (p.standard c)
  | some d =>
    let path := d.join (Path.ofText p.template)
    match ← Action.sight path with
    | .ok .file =>
      match ← Action.content path with
      | .ok content => return ofTemplate engine c output p.template content
      | .error reason => return .error (.unwritable output.text reason)
    | _ => return .ok (p.standard c)

def writeFile (output file : Path) (text : String) : Action (Except Failure Unit) := do
  return (← Action.replaceFile file text).mapError fun
    | .refused reason => .unwritable output.text reason
    | .impossiblePath => .impossiblePath output.text

/-- Writes products up to the first one that fails, and gives their paths. -/
def writeProducts (engine : Engine) (c : Context) (directory : Option Path) (output : Path) :
    List Product → Action (Except Failure (List Path))
  | [] => .done (.ok [])
  | p :: rest => do
    match ← productText engine c directory output p with
    | .error f => return .error f
    | .ok text =>
      let path := output.join (Path.ofText p.file)
      match ← writeFile output path text with
      | .error f => return .error f
      | .ok _ => return (← writeProducts engine c directory output rest).map (path :: ·)

/-- Whether the user's templates are where they should be. -/
def findTemplates (directory : Option String) : Action (Except Failure (Option Path)) := do
  match directory with
  | none => return .ok none
  | some d =>
    let path := Path.ofText d
    match ← Action.sight path with
    | .ok .directory => return .ok (some path)
    | .ok _ => return .error (.noTemplateDirectory path.text)
    | .error reason => return .error (.unseen path.text reason)

def writeAll (engine : Engine) (c : Context) (directory : Option Path) (output : Path) :
    Action (Except Failure (List Path)) := do
  let manifest := output.join (Path.ofText manifestFile)
  match c.toDict with
  | .error flaw => return .error (.flawedManifest flaw)
  | .ok value =>
    match ← writeFile output manifest (fileText value) with
    | .error f => return .error f
    | .ok _ => return (← writeProducts engine c directory output products).map (manifest :: ·)

/-- Writes a server for a package into a directory, and gives the paths of its files. -/
def write (engine : Engine) (p : Package) (output : String)
    (serverName templateDirectory : Option String) :
    Action (Except Failure (List Path) × List Log.Note) := do
  let c := Context.ofPackage p serverName
  let output := Path.ofText output
  match ← findTemplates templateDirectory with
  | .error f => return (.error f, [])
  | .ok directory =>
    match ← writeAll engine c directory output with
    | .error f => return (.error f, [])
    | .ok paths =>
      return (.ok paths,
        [Log.info ("Rendered " ++ toString c.tools.length ++ " tool(s) into " ++ output.text)])

end ApiTools.Rendering
