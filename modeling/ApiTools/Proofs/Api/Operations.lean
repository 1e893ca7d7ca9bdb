import ApiTools.Api.Reader
import Mathlib.Data.List.Basic

set_option autoImplicit false

/-!
# Where the operations of an interface stand

The operations of an interface are those of its document that are kept, in the order of the
document. What is said about an operation stands at a *site*: under a method, in the item of a
path. A site is read on its own, so a statement about all operations is one about sites.
-/

namespace ApiTools.Api

/-! ## Sites -/

/-- Where an operation stands in a document. -/
structure Site where
  path : String
  /-- What is said about the path. -/
  item : Value
  method : Method
  /-- What is said about the operation. -/
  operation : Value

/-- The members of a document. -/
def membersOf (doc : Value) : Members := doc.asMap?.getD []

/-- The site under a key of a path item, if the key is a method and a mapping is there. -/
def site? (path : String) (item : Value) (m : Value × Value) : Option Site :=
  (m.1.asText?.bind Method.ofName?).bind fun method =>
    if m.2.isMap then some ⟨path, item, method, m.2⟩ else none

/-- The sites of a path, in order. -/
def pathSites (m : Value × Value) : List Site :=
  (m.2.asMap?.getD []).filterMap (site? m.1.plainText m.2)

/-- The sites of a document, in order. -/
def sites (doc : Value) : List Site :=
  (((Value.member? (membersOf doc) "paths").bind Value.asMap?).getD []).flatMap pathSites

namespace Site

/-- The parameters of the path that count for the operation, as they are written. -/
def ofPath (s : Site) (merge : Bool) : Value :=
  if merge then s.item.getD "parameters" else .null

/-- What the operation is called in notes. -/
def label (s : Site) : String := s.method.capital ++ " " ++ s.path

/-- The parameters of the operation as they are written. -/
def ownRaws (s : Site) : List Value := listOf (s.operation.getD "parameters")

/-- A written parameter as it is read. -/
def parameter? (s : Site) (doc raw : Value) : Option Parameter :=
  (readParameter (membersOf doc) s.label raw).1

/-- The operation that is read there, unless it is passed over. -/
def endpoint? (s : Site) (doc : Value) (merge : Bool) : Option Endpoint :=
  (readEndpoint (membersOf doc) s.path s.method s.operation (s.ofPath merge)).1.toOption

/-- The operation with the given parameters, body and codes of responses. -/
def endpointWith (s : Site) (parameters : List Parameter) (body : Option RequestBody)
    (codes : List String) : Endpoint :=
  { path := s.path
    method := s.method
    operationId := (present? (s.operation.get? "operationId")).map Value.plainText
    summary := (s.operation.getD "summary").asText?
    description := (s.operation.getD "description").asText?
    tags := (listOf (s.operation.getD "tags")).map Value.plainText
    parameters := parameters
    requestBody := body
    responses := codes
    security := readSecurity (s.operation.get? "security") }

end Site

/-! ## The operations are read at their sites -/

theorem readOperation_fst (doc : Members) (path : String) (item ofPath : Value)
    (m : Value × Value) :
    (readOperation doc path ofPath m).1 = (site? path item m).bind fun s =>
      (readEndpoint doc path s.method s.operation ofPath).1.toOption := by
  unfold readOperation site?
  cases m.1.asText?.bind Method.ofName? with
  | none => rfl
  | some method =>
      dsimp only [Option.bind_some]
      by_cases hm : m.2.isMap = true
      · rw [hm, if_neg (by decide), if_pos rfl, Option.bind_some]
        cases readEndpoint doc path method m.2 ofPath with
        | mk result notes => cases result <;> rfl
      · rw [if_pos (by simpa using hm), if_neg hm]
        rfl

theorem readPath_fst (doc : Value) (merge : Bool) (m : Value × Value) :
    (readPath (membersOf doc) merge m).1 = (pathSites m).filterMap (·.endpoint? doc merge) := by
  unfold readPath pathSites
  cases hm : m.2.asMap? with
  | none => rfl
  | some item =>
      show ((item.map _).filterMap _) = ((item.filterMap _).filterMap _)
      rw [List.filterMap_map, List.filterMap_filterMap]
      refine List.filterMap_congr fun o _ => ?_
      rw [Function.comp_apply, readOperation_fst _ _ m.2]
      cases hs : site? m.1.plainText m.2 o with
      | none => rfl
      | some s =>
          -- the site is in the path and the item that are read
          unfold site? at hs
          cases ho : o.1.asText?.bind Method.ofName? with
          | none =>
              rw [ho] at hs
              cases hs
          | some method =>
              rw [ho, Option.bind_some] at hs
              split at hs
              · injection hs with hs
                subst hs
                rfl
              · cases hs

theorem readEndpoints_fst (doc : Value) (paths : Members) (merge : Bool) :
    (readEndpoints (membersOf doc) paths merge).1
      = (paths.flatMap pathSites).filterMap (·.endpoint? doc merge) := by
  unfold readEndpoints
  dsimp only
  rw [List.flatMap_map, List.filterMap_flatMap]
  simp only [readPath_fst]

/-- What an interface is read from: a document with paths, whose security can be kept. -/
theorem of_read {doc : Value} {merge : Bool} {a : Api} (h : (read doc merge).1 = .ok a) :
    ∃ paths, (Value.member? (membersOf doc) "paths").bind Value.asMap? = some paths ∧
      a.endpoints = (readEndpoints (membersOf doc) paths merge).1 ∧
      a.security = readSecurity (Value.member? (membersOf doc) "security") ∧
      (versionOf? doc).map (·.1) = some a.version := by
  unfold read at h
  unfold versionOf?
  unfold membersOf
  cases hdoc : doc.asMap? with
  | none =>
      rw [hdoc] at h
      cases h
  | some ms =>
      rw [hdoc] at h
      dsimp only at h
      rw [Option.getD_some]
      cases hpaths : (Value.member? ms "paths").bind Value.asMap? with
      | none =>
          rw [hpaths] at h
          cases h
      | some paths =>
          rw [hpaths] at h
          dsimp only at h
          cases hs : (readSchemes (group ms "securitySchemes" "securityDefinitions")).1 with
          | error f =>
              rw [hs] at h
              cases h
          | ok schemes =>
              rw [hs] at h
              injection h with h
              rw [← h]
              exact ⟨paths, rfl, rfl, rfl, rfl⟩

/-- The operations of an interface are those read at the sites of its document. -/
theorem endpoints_eq {doc : Value} {merge : Bool} {a : Api} (h : (read doc merge).1 = .ok a) :
    a.endpoints = (sites doc).filterMap (·.endpoint? doc merge) := by
  obtain ⟨paths, hpaths, hendpoints, -⟩ := of_read h
  have hsites : sites doc = paths.flatMap pathSites := by
    unfold sites
    rw [hpaths]
    rfl
  rw [hendpoints, hsites, readEndpoints_fst]

/-- What an interface requires in general is what its document declares. -/
theorem security_eq {doc : Value} {merge : Bool} {a : Api} (h : (read doc merge).1 = .ok a) :
    a.security = readSecurity (Value.member? (membersOf doc) "security") := by
  obtain ⟨paths, -, -, hsecurity, -⟩ := of_read h
  exact hsecurity

/-- The version of an interface is that of its document. -/
theorem versionOf?_eq {doc : Value} {merge : Bool} {a : Api} (h : (read doc merge).1 = .ok a) :
    (versionOf? doc).map (·.1) = some a.version := by
  obtain ⟨paths, -, -, -, hversion⟩ := of_read h
  exact hversion

/-- What a site gives: all of it is read from what stands there, and from the document. -/
theorem Site.endpoint?_eq (s : Site) (doc : Value) (merge : Bool) :
    s.endpoint? doc merge = (rawParameters (s.ofPath merge) s.operation).bind fun raws =>
      (readBody (membersOf doc) (s.operation.getD "requestBody")).1.toOption.bind fun body =>
        (responseCodes s.operation).map fun codes =>
          s.endpointWith (raws.filterMap (s.parameter? doc)) body codes := by
  unfold endpoint? readEndpoint
  cases rawParameters (s.ofPath merge) s.operation with
  | none => rfl
  | some raws =>
      have hparameters : (gather (raws.map (readParameter (membersOf doc) s.label))).1
          = raws.filterMap (s.parameter? doc) := by
        show (raws.map _).filterMap _ = _
        rw [List.filterMap_map]
        rfl
      dsimp only [Option.bind_some]
      rw [← hparameters]
      cases (readBody (membersOf doc) (s.operation.getD "requestBody")).1 with
      | error u => rfl
      | ok body => cases responseCodes s.operation <;> rfl

/-- What an operation that is kept is made of. -/
theorem Site.of_endpoint? {s : Site} {doc : Value} {merge : Bool} {e : Endpoint}
    (h : s.endpoint? doc merge = some e) :
    ∃ raws body codes, rawParameters (s.ofPath merge) s.operation = some raws ∧
      e = s.endpointWith (raws.filterMap (s.parameter? doc)) body codes := by
  rw [endpoint?_eq] at h
  obtain ⟨raws, hraws, h⟩ := Option.bind_eq_some_iff.1 h
  obtain ⟨body, -, h⟩ := Option.bind_eq_some_iff.1 h
  obtain ⟨codes, -, rfl⟩ := Option.map_eq_some_iff.1 h
  exact ⟨raws, body, codes, hraws, rfl⟩

/-- A parameter that is no reference is read where it stands. -/
theorem Site.parameter?_of_ref_none (s : Site) (doc : Value) {raw : Value}
    (h : raw.get? "$ref" = none) : s.parameter? doc raw = (readDirect s.label raw).1 := by
  unfold parameter? readParameter
  rw [h]

end ApiTools.Api
