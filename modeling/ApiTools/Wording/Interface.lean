import ApiTools.Tool.Name
import ApiTools.Wording.Polish

set_option autoImplicit false

/-!
# The wording of an interface

The texts of an interface are polished, and gaps are filled: an operation without a description
gets one from its method and path, a parameter from its name or type. What the interface does is
not touched.
-/

namespace ApiTools.Wording

/-! ## Operations -/

/-- What a method does to a resource. -/
def verb : Method → String
  | .get => "Retrieve"
  | .post => "Create"
  | .put => "Update"
  | .patch => "Modify"
  | .delete => "Remove"
  | .head => "Check"
  | .options => "Query options for"

/-- A name in the singular: without its last letter, if that is an `s` after something. -/
def singular (name : List Char) : List Char :=
  if name.getLast? == some 's' && name.length > 1 then name.dropLast else name

def resourceName (path : String) : String :=
  ((Endpoint.resource? path).map fun r => String.ofList (singular r)).getD "resource"

def isTemplated (path : String) : Bool :=
  path.toList.contains '\x7b' && path.toList.contains '\x7d'

/-- What a method does to a resource, in a sentence without its point. -/
def actionText (method : Method) (path : String) : String :=
  let resource := resourceName path
  let does := verb method ++ " "
  match method with
  | .get =>
    if isTemplated path then
      does ++ "detailed information about a specific " ++ resource ++ " using its identifier"
    else does ++ "a list of " ++ resource ++ "s with optional filtering and pagination"
  | .post => does ++ "a new " ++ resource ++ " with the provided data"
  | .put => does ++ "an existing " ++ resource ++ " with new data, replacing all fields"
  | .patch => does ++ "specific fields of an existing " ++ resource
  | .delete => does ++ "a specific " ++ resource ++ " from the system"
  | .head | .options => does ++ resource ++ " using " ++ method.capital ++ " method"

/-- The places of parameters, each once, in the order in which they come up. -/
def distinctPlaces (parameters : List Parameter) : List ParameterPlace :=
  (parameters.foldl (fun acc p => if acc.contains p.place then acc else p.place :: acc) []).reverse

def describeEndpoint (e : Endpoint) : String :=
  let places := (distinctPlaces e.parameters).map ParameterPlace.name
  let accepts :=
    if places.isEmpty then "" else ". Accepts " ++ ", ".intercalate places ++ " parameters"
  actionText e.method e.path ++ accepts ++ "."

/-! ## Parameters -/

/-- Parts of names that tell what a parameter is for; the first one found counts. -/
def commonParameters : List (String × String) :=
  [("id", "Unique identifier for the resource"),
   ("limit", "Maximum number of results to return"),
   ("offset", "Number of results to skip for pagination"),
   ("page", "Page number for pagination"),
   ("sort", "Field to sort results by"),
   ("order", "Sort order (asc or desc)"),
   ("filter", "Filter criteria for results"),
   ("search", "Search query string"),
   ("status", "Status filter for results"),
   ("type", "Type filter for results"),
   ("format", "Response format preference"),
   ("version", "API version to use")]

/-- What a parameter of a type is, to be followed by its name. -/
def typePhrase (type : Option String) : String :=
  match type with
  | some "string" => "String value for "
  | some "integer" => "Numeric value for "
  | some "number" => "Numeric value for "
  | some "boolean" => "Boolean flag for "
  | some "array" => "Array of values for "
  | _ => "Value for "

def describeParameter (p : Parameter) : String :=
  match commonParameters.find? fun (part, _) => Endpoint.mentionsAny p.name [part] with
  | some (_, text) => text
  | none => typePhrase (p.schema.bind Schema.primaryType) ++ p.name

/-! ## Whole interfaces -/

/-- A text that is there and not empty. -/
def present? (text : Option String) : Option String := text.filter (!·.isEmpty)

def improveParameter (p : Parameter) : Parameter :=
  match present? p.description with
  | some _ => p
  | none => { p with description := some (describeParameter p) }

def improveEndpoint (e : Endpoint) : Endpoint :=
  { e with
    summary := match present? e.summary with
      | some s => some (polish .summary s)
      | none => e.summary
    description := match present? e.description with
      | some s => some (polish .description s)
      | none => some (describeEndpoint e)
    parameters := e.parameters.map improveParameter }

def improve (a : Api) : Api := { a with endpoints := a.endpoints.map improveEndpoint }

/-! ## What has changed -/

/-- How the texts of some operations were changed. -/
structure Changes where
  total : Nat
  changed : Nat
  improvements : List String

def endpointChanges (before after : Endpoint) : List String :=
  (if before.summary = after.summary then [] else ["Enhanced summary for " ++ before.key])
    ++ (if before.description = after.description then []
      else ["Enhanced description for " ++ before.key])

def changes (before after : Api) : Changes :=
  let each := (before.endpoints.zip after.endpoints).map fun (b, a) => endpointChanges b a
  { total := before.endpoints.length
    changed := (each.filter (!·.isEmpty)).length
    improvements := each.flatten }

/-- The share of the operations that were changed. -/
def Changes.rate (c : Changes) : Float :=
  if c.total = 0 then 0.0 else Float.ofNat c.changed / Float.ofNat c.total

end ApiTools.Wording
