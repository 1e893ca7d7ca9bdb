import ApiTools.Proofs.Api.Kept
import ApiTools.Proofs.Dialect.Schema
import ApiTools.Proofs.Validation.Document

set_option autoImplicit false

/-!
# What a valid document keeps

A document is checked and read by two walks of their own. Where the check finds no error there are
paths, and every key of an item that names a method has a mapping, so an interface can be read.
What the check does not look at may still cost an operation: a malformed schema in its body makes
the reader pass it over, and say so in a warning.
-/

namespace ApiTools.Validation

open Api (Site membersOf pathsOf? schemesOf hasTextFlows hasReadableBody responseCodes sites)

/-! ## Valid documents -/

/-- A document is valid if its report is. -/
def IsValid (doc : Value) : Prop :=
  ∃ report, checkDocument doc = .ok report ∧ report.isValid = true

theorem IsValid.severity {doc : Value} (h : IsValid doc) {f : Finding}
    (hf : f ∈ documentFindings doc) : f.severity ≠ .error := by
  obtain ⟨report, hreport, hvalid⟩ := h
  obtain ⟨-, -, rfl⟩ := checkDocument_eq_ok_iff.1 hreport
  exact (isValid_reportOf_iff _).1 hvalid f hf

theorem asMap?_getD_paths (doc : Value) : (doc.getD "paths").asMap? = pathsOf? doc := by
  unfold pathsOf? membersOf Value.getD
  rw [Value.get?_eq_bind]
  cases doc.asMap? with
  | none => rfl
  | some ms =>
      show ((Value.member? ms "paths").getD .null).asMap?
        = (Value.member? ms "paths").bind Value.asMap?
      cases Value.member? ms "paths" <;> rfl

theorem mem_documentFindings_of_paths {doc : Value} {f : Finding}
    (h : f ∈ pathsFindings (mentions doc "swagger") doc) : f ∈ documentFindings doc := by
  unfold documentFindings
  simp only [List.mem_append, h, true_or, or_true]

theorem IsValid.exists_paths {doc : Value} (h : IsValid doc) :
    ∃ m ms, pathsOf? doc = some (m :: ms) := by
  have hpaths : Finding.noPaths ∉ pathsFindings (mentions doc "swagger") doc :=
    fun hf => h.severity (mem_documentFindings_of_paths hf) rfl
  unfold pathsFindings at hpaths
  rw [asMap?_getD_paths] at hpaths
  split at hpaths
  · next m ms hms => exact ⟨m, ms, hms⟩
  · exact absurd (List.mem_singleton_self _) hpaths

/-- Nothing that is found under a key of a path item of a valid document is an error. -/
theorem IsValid.severity_of_memberFindings {doc : Value} (h : IsValid doc) {paths item : Members}
    {path m : Value × Value} (hpaths : pathsOf? doc = some paths) (hpath : path ∈ paths)
    (hitem : path.2.asMap? = some item) (hm : m ∈ item) {f : Finding}
    (hf : f ∈ memberFindings (mentions doc "swagger") path.1.plainText m) :
    f.severity ≠ .error := by
  -- it is found in the item, and so in the document
  have hin : f ∈ pathFindings (mentions doc "swagger") path := by
    unfold pathFindings
    rw [hitem]
    exact List.mem_append_right _ (List.mem_flatMap.2 ⟨m, hm, hf⟩)
  have hfound : f ∈ pathsFindings (mentions doc "swagger") doc := by
    unfold pathsFindings
    rw [asMap?_getD_paths, hpaths]
    cases paths with
    | nil => cases hpath
    | cons first rest => exact List.mem_flatMap.2 ⟨path, hpath, hin⟩
  exact h.severity (mem_documentFindings_of_paths hfound)

/-- In a valid document there is a mapping under each key that names a method. -/
theorem IsValid.isMap_operation {doc : Value} (h : IsValid doc) {paths item : Members}
    {path m : Value × Value} {method : Method} (hpaths : pathsOf? doc = some paths)
    (hpath : path ∈ paths) (hitem : path.2.asMap? = some item) (hm : m ∈ item)
    (hmethod : methodOfKey? m.1 = some method) : m.2.isMap = true := by
  -- something else than a mapping would be found
  by_contra hmap
  have hmember : .malformedOperation (Text.uppercase m.1.plainText ++ " " ++ path.1.plainText)
      ∈ memberFindings (mentions doc "swagger") path.1.plainText m := by
    unfold memberFindings
    rw [hmethod]
    dsimp only
    rw [if_neg hmap]
    exact List.mem_singleton_self _
  exact h.severity_of_memberFindings hpaths hpath hitem hm hmember rfl

theorem methodOfKey?_name (method : Method) : methodOfKey? (.str method.name) = some method := by
  cases method <;> rfl

/-! ## Kept operations -/

/-- An interface is read from every valid document whose security schemes have texts as keys of
their flows. Each of its operations whose method is written in small letters, and whose codes of
responses are texts, is kept if the schemas in its body can be read; otherwise a warning says that
it is passed over. Integers with too many digits are left out: they have no text that could stand
for them. -/
theorem valid_keeps_operations {doc : Value} (h : IsValid doc) (_ : doc.holdsLong = false)
    (hflows : ∀ scheme ∈ schemesOf doc, hasTextFlows scheme.2 = true) :
    ∃ api, (Api.read doc false).1 = .ok api ∧
      ∀ path ∈ (pathsOf? doc).getD [], ∀ item, path.2.asMap? = some item →
        ∀ (method : Method) (operation : Value), (.str method.name, operation) ∈ item →
          (responseCodes operation).isSome = true →
            (hasReadableBody doc operation = true →
              ∃ e ∈ api.endpoints, e.path = path.1.plainText ∧ e.method = method) ∧
            (hasReadableBody doc operation = false →
              Log.warning ("Skipping " ++ (method.capital ++ " " ++ path.1.plainText) ++ ": "
                ++ Api.cause) ∈ (Api.read doc false).2) := by
  obtain ⟨first, rest, hpaths⟩ := h.exists_paths
  obtain ⟨api, hapi⟩ := Api.exists_read hpaths hflows
  refine ⟨api, hapi, ?_⟩
  intro path hpath item hitem method operation hm hcodes
  rw [hpaths, Option.getD_some] at hpath
  have hmap : operation.isMap = true :=
    h.isMap_operation hpaths hpath hitem hm (methodOfKey?_name method)
  -- the reader passes the same place, where only the body can make it pass the operation over
  let s : Site := ⟨path.1.plainText, path.2, method, operation⟩
  have hs : s ∈ sites doc := Api.mem_sites hpaths hpath hitem hm hmap
  have hkept := s.isSome_endpoint? doc
  rw [show s.hasTextCodes = true from hcodes, Bool.and_true] at hkept
  constructor
  · intro hbody
    obtain ⟨e, he⟩ := Option.isSome_iff_exists.1 (hkept.trans hbody)
    refine ⟨e, ?_, Site.path_method_of_endpoint? he⟩
    rw [Api.endpoints_eq hapi]
    exact List.mem_filterMap.2 ⟨s, hs, he⟩
  · intro hbody
    have hnone : s.endpoint? doc false = none := by
      rw [← Option.isNone_iff_eq_none, ← Option.isSome_eq_false_iff]
      exact hkept.trans hbody
    have hwarning := Api.warning_of_endpoint?_eq_none hmap hnone
    exact Api.mem_notes_read hpaths hpath hitem hm hwarning

/-! ### A limit that is no number -/

/-- A schema with a limit. -/
def limitedSchema (limit : Value) : Value := Value.object [("maxLength", limit)]

/-- An operation whose body is a text up to a limit. -/
def limitedOperation (limit : Value) : Value :=
  Value.object
    [("requestBody", Value.object [("content", Value.object
       [("text/plain", Value.object [("schema", limitedSchema limit)])])]),
     ("responses", Value.object [("201", Value.object [("description", .str "ok")])])]

/-- A document with that operation only. -/
def limitedDocument (limit : Value) : Value :=
  Value.object
    [("openapi", .str "3.0.0"),
     ("info", Value.object [("title", .str "Pets"), ("version", .str "1")]),
     ("paths", Value.object [("/pets", Value.object [("post", limitedOperation limit)])])]

theorem hasReadableBody_limited (limit : Value) :
    hasReadableBody (limitedDocument limit) (limitedOperation limit)
      = (Schema.read (limitedSchema limit)).isOk :=
  Bool.and_true _

theorem limited_keeps_post : IsValid (limitedDocument (.int 9)) ∧
    (limitedDocument (.int 9)).holdsLong = false ∧
    ∃ api, (Api.read (limitedDocument (.int 9)) false).1 = .ok api ∧
      ∃ e ∈ api.endpoints, e.path = "/pets" ∧ e.method = .post := by
  have hvalid : IsValid (limitedDocument (.int 9)) := ⟨reportOf (documentFindings _), rfl, rfl⟩
  have hbody : hasReadableBody (limitedDocument (.int 9)) (limitedOperation (.int 9)) = true := by
    obtain ⟨s, hs⟩ : ∃ s, Schema.read (limitedSchema (.int 9)) = .ok s :=
      ⟨_, Dialect.read_of_reading rfl⟩
    rw [hasReadableBody_limited, hs]
    rfl
  have hshort : (limitedDocument (.int 9)).holdsLong = false := by decide +kernel
  obtain ⟨api, hapi, hkeeps⟩ :=
    valid_keeps_operations hvalid hshort (List.forall_mem_nil _)
  refine ⟨hvalid, hshort, api, hapi, ?_⟩
  exact (hkeeps _ List.mem_cons_self _ rfl .post _ List.mem_cons_self rfl).1 hbody

/-- A limit that is no number costs a valid document its only operation. -/
theorem limited_loses_post : IsValid (limitedDocument (.str "long")) ∧
    (∃ path ∈ (pathsOf? (limitedDocument (.str "long"))).getD [],
      path.1.plainText = "/pets" ∧ ∃ item, path.2.asMap? = some item ∧
        ∃ m ∈ item, methodOfKey? m.1 = some .post) ∧
    ∃ api, (Api.read (limitedDocument (.str "long")) false).1 = .ok api ∧ api.endpoints = [] := by
  have hvalid : IsValid (limitedDocument (.str "long")) :=
    ⟨reportOf (documentFindings _), rfl, rfl⟩
  have hread : (Schema.read (limitedSchema (.str "long"))).toOption = none :=
    Dialect.readWithin_map [] [(.str "maxLength", .str "long")]
  have hbody : hasReadableBody (limitedDocument (.str "long")) (limitedOperation (.str "long"))
      = false := by
    rw [hasReadableBody_limited]
    cases hs : Schema.read (limitedSchema (.str "long")) with
    | error faults => rfl
    | ok s =>
        rw [hs] at hread
        cases hread
  obtain ⟨api, hapi⟩ : ∃ api, (Api.read (limitedDocument (.str "long")) false).1 = .ok api :=
    Api.exists_read rfl (List.forall_mem_nil _)
  refine ⟨hvalid, ⟨_, List.mem_cons_self, rfl, _, rfl, _, List.mem_cons_self, rfl⟩, api, hapi, ?_⟩
  rw [Api.endpoints_eq hapi, List.filterMap_eq_nil_iff]
  intro s hs
  obtain rfl := List.mem_singleton.1 (show s ∈ [_] from hs)
  rw [← Option.isNone_iff_eq_none, ← Option.isSome_eq_false_iff, Site.isSome_endpoint?]
  show (hasReadableBody (limitedDocument (.str "long")) (limitedOperation (.str "long")) && _)
    = false
  rw [hbody]
  rfl

end ApiTools.Validation
