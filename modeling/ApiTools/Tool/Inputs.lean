import ApiTools.Api.Basic
import ApiTools.Property.Flatten
import ApiTools.Tool.Basic

set_option autoImplicit false

/-!
# The inputs of a tool

The inputs are collected from the places where an operation takes values: first the path, then
the query, then the headers, then the body. Where two of them have one name, the later one
describes it, and it is required if one of them is. Cookies, form data, other media types than
JSON and headers with signatures are left out; they are no business of the caller.
-/

namespace ApiTools

/-- Something that may become an input. -/
structure Candidate where
  name : String
  location : Location
  property : Property
  required : Bool

def InputSchema.ofCandidates (cs : List Candidate) : InputSchema :=
  { properties := Named.ofList (cs.map fun c => (c.name, c.property.withLocation c.location))
    required := Named.distinct ((cs.filter (·.required)).map Candidate.name) }

namespace Endpoint

open Property (Unending)

def jsonMediaType : String := "application/json"

/-- The parameters in a place, in order. -/
def parametersIn (e : Endpoint) (place : ParameterPlace) : List Parameter :=
  e.parameters.filter (·.place = place)

/-- Whether a header carries a signature, which is computed for each call. -/
def isSignature (p : Parameter) : Bool :=
  Text.occursIn "signature".toList (Text.lower p.name.toList)

/-- What a reading of a part of an operation gives. -/
abbrev Part := Except Unending (Log.Noted (List Candidate))

def ofParameter (reg : Registry) (location : Location) (required : Bool) (p : Parameter) :
    Part := do
  let (property, notes) ← Property.convert reg p.schema p.description
  return ([⟨p.name, location, property, required⟩], notes)

/-- The candidate of a header; a signature gives none. -/
def ofHeader (reg : Registry) (key : String) (p : Parameter) : Part :=
  if isSignature p then
    .ok ([], [Log.debug ("Not exposing signature header '" ++ p.name ++ "' of " ++ key)])
  else ofParameter reg .header p.required p

def ofBody (reg : Registry) (s : Schema) (required : Bool) : Part := do
  let (flat, notes) ← Property.flatten reg s
  return (flat.properties.map fun (n, p) =>
    ⟨n, .body, p, required && flat.required.contains n⟩, notes)

/-- The schema of the body, if it is sent as JSON, and whether the body is required. -/
def jsonBody? (e : Endpoint) : Option (Schema × Bool) :=
  e.requestBody.bind fun b =>
    ((Named.get? b.content jsonMediaType).bind id).map fun s => (s, b.required)

/-- The parts of an operation that give candidates, in order. -/
def inputParts (e : Endpoint) (reg : Registry) : List Part :=
  (e.parametersIn .path).map (ofParameter reg .path true)
    ++ (e.parametersIn .query).map (fun p => ofParameter reg .query p.required p)
    ++ (e.parametersIn .header).map (ofHeader reg e.key)
    ++ e.jsonBody?.toList.map (fun (s, required) => ofBody reg s required)
    ++ (e.parametersIn .body).filterMap fun p => p.schema.map fun s => ofBody reg s p.required

/-- The candidates of all parts, up to the first part that has no end, and the notes up to
there. -/
def gatherParts : List Part → Except Unending (List Candidate) × List Log.Note
  | [] => (.ok [], [])
  | .error u :: _ => (.error u, u.notes)
  | .ok (cs, notes) :: rest =>
    let (more, moreNotes) := gatherParts rest
    (more.map (cs ++ ·), notes ++ moreNotes)

/-- Everything that may become an input of the tool for an operation, in order. -/
def candidates (e : Endpoint) (reg : Registry) :
    Except Unending (List Candidate) × List Log.Note :=
  gatherParts (e.inputParts reg)

def inputs (e : Endpoint) (reg : Registry) : Except Unending InputSchema × List Log.Note :=
  let (cs, notes) := e.candidates reg
  (cs.map InputSchema.ofCandidates, notes)

end Endpoint

end ApiTools
