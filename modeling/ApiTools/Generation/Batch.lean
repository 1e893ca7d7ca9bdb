import ApiTools.Configuration.Basic
import ApiTools.Generation.Document
import ApiTools.Source

set_option autoImplicit false

/-!
# Several documents at once

The documents of a batch are turned into tools one by one, and what they give is put together in
the order of the sources. A document that fails is passed over with a note. Tools of different
documents that have one name are kept and told.
-/

namespace ApiTools

/-- A document in a batch: where it is, what to call it, and whether it counts. -/
structure BatchSource where
  input : String
  name : Option String := none
  enabled : Bool := true
  deriving Repr, DecidableEq

namespace BatchSource

open Record

def readMembers? (ms : Members) : Option BatchSource := do
  return {
    input := ← needed? ms "input" "input" Value.readText?
    name := ← optional? ms "name" "name" Value.readText?
    enabled := ← orElse? ms "enabled" "enabled" true Value.readBool? }

/-- The keys of the members that keep a mapping from being a source. -/
def faults (ms : Members) : List String :=
  faultOfNeeded ms "input" "input" Value.readText?
    ++ faultOf ms "name" "name" (orNull Value.readText?)
    ++ faultOf ms "enabled" "enabled" Value.readBool?

/-- Reads a source, or gives the keys of its faulty members. -/
def read (v : Value) : Except (List String) BatchSource :=
  match v.asMap? with
  | some ms =>
    match readMembers? ms with
    | some s => .ok s
    | none => .error (faults ms)
  | none => .error [""]

end BatchSource

namespace Generation

open Log

/-- A document that gave no tools, and why. -/
structure Failed where
  source : String
  reason : String
  deriving Repr, DecidableEq

structure Batch where
  results : List Outcome := []
  tools : List Tool := []
  failures : List Failed := []
  /-- The names that more than one tool has. -/
  duplicates : List String := []

/-! ## Putting documents together -/

/-- What to call a document without a name of its own: its title, or else the name of its
file. -/
def documentLabel (s : BatchSource) (o : Outcome) : String :=
  if !o.info.title.isEmpty && o.info.title != Api.untitled then o.info.title
  else
    let stem := (Path.ofText s.input).stem
    if stem.isEmpty then o.info.title else stem

/-- What comes before the names of a document's tools when documents are kept apart. -/
def nameSpace (s : BatchSource) (o : Outcome) : String :=
  Name.namespaceOf ((s.name.bind nonempty?).getD (documentLabel s o))

/-- A tool with its document's beginning of the name. -/
def Tool.within (space : String) (t : Tool) : Tool := { t with name := space ++ "__" ++ t.name }

/-- The tools of a document as the batch has them. -/
def mergedTools (strategy : MergeStrategy) (s : BatchSource) (o : Outcome) : List Tool :=
  match strategy with
  | .separate => o.tools.map (Tool.within (nameSpace s o))
  | .combine => o.tools

/-- The names of tools that come up again, given the names before them. -/
def repeats (seen : List String) : List Tool → List String
  | [] => []
  | t :: rest =>
    (if seen.contains t.name then [t.name] else []) ++ repeats (t.name :: seen) rest

/-- A result of a document: an outcome or a failure. -/
abbrev Result := Except Failed Outcome

/-- The notes about the outcomes of documents, given the names of the tools before them. -/
def mergeNotes (strategy : MergeStrategy) (seen : List String) :
    List (BatchSource × Result) → List Note
  | [] => []
  | (_, .error _) :: rest => mergeNotes strategy seen rest
  | (s, .ok o) :: rest =>
    let tools := mergedTools strategy s o
    (if o.validation.isValid then []
      else [warning (s.input ++ " has " ++ toString o.validation.errors.length
        ++ " validation error(s); continuing")])
      ++ (repeats seen tools).map
        (fun n => warning ("Duplicate tool name '" ++ n ++ "' from " ++ s.input))
      ++ mergeNotes strategy ((tools.map Tool.name).reverse ++ seen) rest

/-- The tools of all documents, in order. -/
def allTools (strategy : MergeStrategy) (results : List (BatchSource × Result)) : List Tool :=
  results.flatMap fun (s, r) =>
    match r with
    | .ok o => mergedTools strategy s o
    | .error _ => []

def merge (strategy : MergeStrategy) (results : List (BatchSource × Result)) : Noted Batch :=
  let tools := allTools strategy results
  ({ results := results.filterMap fun (_, r) => r.toOption
     tools := tools
     failures := results.filterMap fun (_, r) =>
       match r with
       | .error f => some f
       | .ok _ => none
     duplicates := Named.distinct (repeats [] tools) }, mergeNotes strategy [] results)

/-! ## Single documents -/

/-- What a source gave: a document or a failure, and the notes about it. -/
abbrev Loaded := Except Source.Failure Value × List Note

/-- Why a document gave no tools. -/
inductive Obstacle where
  | load (f : Source.Failure)
  | generate (f : Failure)
  deriving Repr, DecidableEq

def Obstacle.message : Obstacle → String
  | load f => f.message
  | generate f => f.message

def ofLoaded (options : Options) (input : String) : Loaded →
    Except Obstacle Outcome × List Note
  | (.error f, notes) => (.error (.load f), notes)
  | (.ok doc, notes) =>
    let (r, more) := ofDocument options (some input) doc
    (r.mapError .generate, notes ++ more)

def Obstacle.isExpected : Obstacle → Bool
  | load f => f.isExpected
  | generate _ => true

/-- The result of a document in a batch. A failure that was not reckoned with ends the batch. -/
def resultOf (options : Options) (s : BatchSource) (l : Loaded) :
    Except Source.Failure Result × List Note :=
  match ofLoaded options s.input l with
  | (.ok o, notes) => (.ok (.ok o), notes)
  | (.error o, notes) =>
    match o with
    | .load f =>
      if f.isExpected then
        (.ok (.error ⟨s.input, o.message⟩),
          notes ++ [error ("Skipping " ++ s.input ++ ": " ++ o.message)])
      else (.error f, notes)
    | .generate _ =>
      (.ok (.error ⟨s.input, o.message⟩),
        notes ++ [error ("Skipping " ++ s.input ++ ": " ++ o.message)])

/-- The results of all documents, up to a failure that was not reckoned with. -/
def resultsOf (options : Options) :
    List (BatchSource × Loaded) →
      Except Source.Failure (List (BatchSource × Result)) × List Note
  | [] => (.ok [], [])
  | (s, l) :: rest =>
    match resultOf options s l with
    | (.error f, notes) => (.error f, notes)
    | (.ok r, notes) =>
      let (more, moreNotes) := resultsOf options rest
      (more.map ((s, r) :: ·), notes ++ moreNotes)

def ofBatch (options : Options) (strategy : MergeStrategy) (loaded : List (BatchSource × Loaded)) :
    Except Source.Failure Batch × List Note :=
  match resultsOf options loaded with
  | (.error f, notes) => (.error f, notes)
  | (.ok results, notes) =>
    let (batch, more) := merge strategy results
    (.ok batch, notes ++ more)

/-! ## Loading -/

/-- Loads the documents of sources, one after the other. -/
def loadAll : List BatchSource → Action (List (BatchSource × Loaded))
  | [] => .done []
  | s :: rest => do
    let l ← Source.load s.input
    return (s, l) :: (← loadAll rest)

def fromSource (options : Options) (input : String) :
    Action (Except Obstacle Outcome × List Note) := do
  return ofLoaded options input (← Source.load input)

def fromSources (options : Options) (strategy : MergeStrategy) (sources : List BatchSource) :
    Action (Except Source.Failure Batch × List Note) := do
  return ofBatch options strategy (← loadAll (sources.filter (·.enabled)))

end Generation

end ApiTools
