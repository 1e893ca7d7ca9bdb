import ApiTools.Property.Reader
import ApiTools.Tool.Basic

set_option autoImplicit false

/-!
# Reading tools

A tool is read from the mapping that it is written as. Of a value that is no tool the keys of the
faulty members are told.
-/

namespace ApiTools

open Record

def readWord? (word : String) (v : Value) : Option Unit :=
  if v.asText? == some word then some () else none

def InputSchema.read? (v : Value) : Option InputSchema := do
  let ms ← v.asMap?
  let _ ← orElse? ms "type" "type" () (readWord? "object")
  let properties ← orElse? ms "properties" "properties" [] fun p =>
    p.asMap?.bind (readMembers Value.readText? Property.read?)
  let required ← orElse? ms "required" "required" [] Value.readTexts?
  return ⟨Named.ofList properties, required⟩

def Authentication.read? (v : Value) : Option Authentication := do
  let ms ← v.asMap?
  let kind ← (Value.member? ms "type").bind Value.asText?
  let setting ← needed? ms "envVariable" "env_variable" Value.readText?
  if kind == "apiKey" then
    let place ← orElse? ms "location" "location" .header fun p => p.asText?.bind KeyPlace.ofName?
    let name ← orElse? ms "name" "name" "apikey" Value.readText?
    return .apiKey place name setting
  else if kind == "bearer" then return .bearer setting
  else if kind == "basic" then return .basic setting
  else if kind == "oauth2" then return .oauth2 setting
  else none

def ResponseHandling.read? (v : Value) : Option ResponseHandling := do
  let ms ← v.asMap?
  let standard : ResponseHandling := {}
  let codes ← orElse? ms "successCodes" "success_codes" standard.successCodes fun xs =>
    xs.readList?.bind (·.mapM Value.readInt?)
  let type ← orElse? ms "responseType" "response_type" .json fun t =>
    t.asText?.bind ResponseType.ofName?
  return ⟨codes, type⟩

/-- Adds a code with its meaning; a code that is there already keeps its place. -/
def insertCode (codes : List (Int × String)) (code : Int) (meaning : String) :
    List (Int × String) :=
  match codes with
  | [] => [(code, meaning)]
  | (c, m) :: rest =>
    if c = code then (c, meaning) :: rest else (c, m) :: insertCode rest code meaning

def ErrorHandling.read? (v : Value) : Option ErrorHandling := do
  let ms ← v.asMap?
  let standard : ErrorHandling := {}
  let retries ← orElse? ms "retryCount" "retry_count" standard.retryCount Value.readInt?
  let timeout ← orElse? ms "timeoutMs" "timeout_ms" standard.timeoutMs Value.readInt?
  let codes ← orElse? ms "errorCodes" "error_codes" standard.errorCodes fun c =>
    (c.asMap?.bind (readMembers Value.readInt? Value.readText?)).map
      (·.foldl (fun acc (code, meaning) => insertCode acc code meaning) [])
  return ⟨retries, timeout, codes⟩

namespace Tool

def readMembers? (ms : Members) : Option Tool := do
  return {
    name := ← needed? ms "name" "name" Value.readText?
    description := ← needed? ms "description" "description" Value.readText?
    input := ← orElse? ms "inputSchema" "input_schema" {} InputSchema.read?
    method := ← needed? ms "method" "method" Value.readText?
    path := ← needed? ms "path" "path" Value.readText?
    baseUrl := ← optional? ms "baseUrl" "base_url" Value.readText?
    authentication := ← optional? ms "authentication" "authentication" Authentication.read?
    responses := ← orElse? ms "responseHandling" "response_handling" {} ResponseHandling.read?
    errors := ← orElse? ms "errorHandling" "error_handling" {} ErrorHandling.read? }

/-- The keys of the members that keep a mapping from being a tool. -/
def faults (ms : Members) : List String :=
  faultOfNeeded ms "name" "name" Value.readText?
    ++ faultOfNeeded ms "description" "description" Value.readText?
    ++ faultOf ms "inputSchema" "input_schema" InputSchema.read?
    ++ faultOfNeeded ms "method" "method" Value.readText?
    ++ faultOfNeeded ms "path" "path" Value.readText?
    ++ faultOf ms "baseUrl" "base_url" (orNull Value.readText?)
    ++ faultOf ms "authentication" "authentication" (orNull Authentication.read?)
    ++ faultOf ms "responseHandling" "response_handling" ResponseHandling.read?
    ++ faultOf ms "errorHandling" "error_handling" ErrorHandling.read?

/-- Reads a tool, or gives the keys of its faulty members; a value that is no mapping is faulty
as a whole. -/
def read (v : Value) : Except (List String) Tool :=
  match v with
  | .map ms =>
    match readMembers? ms with
    | some t => .ok t
    | none => .error (faults ms)
  | _ => .error [""]

end Tool

end ApiTools
