import ApiTools.Proofs.Value.Members
import ApiTools.Validation.Document

set_option autoImplicit false

/-!
# What stops the check of a document

A check lists what it finds and goes on, whatever stands in the document, with one exception. The
parameters of an operation are told apart by name and place, so each is looked up among those
before it, and a place that is a collection cannot be looked up: it stops the check of the whole
document. Anything else is at most a finding, and a further parameter never hides what is found
in the others.
-/

namespace ApiTools.Validation

/-! ## Checks that may be stopped -/

/-- The findings of a check, provided that nothing stops it. -/
def provided (condition : Bool) (found : List Finding) : Except Obstacle (List Finding) :=
  if condition then .ok found else .error .collectionAsPlace

theorem provided_bind (condition : Bool) (found : List Finding)
    (f : List Finding → List Finding) :
    (provided condition found >>= fun gs => .ok (f gs)) = provided condition (f found) := by
  cases condition <;> rfl

theorem provided_bind_provided (a b : Bool) (found more : List Finding) :
    (provided a found >>= fun gs => provided b more >>= fun hs => .ok (gs ++ hs))
      = provided (a && b) (found ++ more) := by
  cases a with
  | false => rfl
  | true => exact provided_bind b more (found ++ ·)

theorem forEach_eq {α : Type} {check : α → Except Obstacle (List Finding)} {passes : α → Bool}
    {found : α → List Finding} (h : ∀ x, check x = provided (passes x) (found x)) (xs : List α) :
    forEach check xs = provided (xs.all passes) (xs.flatMap found) := by
  induction xs with
  | nil => rfl
  | cons x xs ih =>
      rw [forEach, h, ih, List.all_cons, List.flatMap_cons]
      exact provided_bind_provided _ _ _ _

/-! ## Parameters -/

/-- Whether a parameter is told apart from others: it is written in place and has a name. -/
def isCompared (p : Value) : Bool := p.isMap && !mentions p "$ref" && affirms p "name"

/-- Whether the place of a parameter can be looked up, if it has to be. -/
def isComparable (p : Value) : Bool := !isCompared p || (p.getD "in").isKey

/-- The names and places up to a parameter, given those before it. -/
def noting (seen : List (String × Value)) (p : Value) : List (String × Value) :=
  if isCompared p then ((p.getD "name").plainText, p.getD "in") :: seen else seen

/-- What is found in a parameter that is told apart from others. -/
def comparedFindings (key : String) (seen : List (String × Value)) (p : Value) : List Finding :=
  let name := (p.getD "name").plainText
  let place := p.getD "in"
  when (!place.isTruthy) (.placelessParameter name key)
    ++ when (!(mentions p "schema" || mentions p "type" || mentions p "content"))
      (.untypedParameter name key)
    ++ when (seen.any fun (n, spot) => n == name && spot.sameKey place)
      (.repeatedParameter name place.plainText key)
    ++ when (place.asText? == some "path" && !affirms p "required") (.optionalPathParameter name key)

/-- What is found in a parameter. -/
def parameterFindings (key : String) (seen : List (String × Value)) (p : Value) : List Finding :=
  if !p.isMap then [.malformedParameter key]
  else if mentions p "$ref" then []
  else if !affirms p "name" then [.namelessParameter key]
  else comparedFindings key seen p

/-- What is found in parameters, each checked against those before it. -/
def parametersFindings (key : String) (seen : List (String × Value)) : List Value → List Finding
  | [] => []
  | p :: ps => parameterFindings key seen p ++ parametersFindings key (noting seen p) ps

/-- A parameter is looked up, what is found in it comes first, and the rest is checked against
what is noted by then. -/
theorem checkParameters_cons (key : String) (seen : List (String × Value)) (p : Value)
    (ps : List Value) : checkParameters key seen (p :: ps) =
      if isComparable p then
        checkParameters key (noting seen p) ps >>= fun found =>
          .ok (parameterFindings key seen p ++ found)
      else .error .collectionAsPlace := by
  rw [checkParameters]
  unfold isComparable parameterFindings noting isCompared
  dsimp only
  cases p.isMap with
  | false => rfl
  | true =>
      cases mentions p "$ref" with
      | true =>
          -- a reference is passed over: nothing is found and nothing noted
          show checkParameters key seen ps = checkParameters key seen ps >>= fun found => .ok found
          cases checkParameters key seen ps <;> rfl
      | false =>
          cases affirms p "name" with
          | false => rfl
          | true => cases (p.getD "in").isKey <;> rfl

theorem checkParameters_eq (key : String) (seen : List (String × Value)) (ps : List Value) :
    checkParameters key seen ps
      = provided (ps.all isComparable) (parametersFindings key seen ps) := by
  induction ps generalizing seen with
  | nil => rfl
  | cons p ps ih =>
      rw [checkParameters_cons, ih, provided_bind, List.all_cons, parametersFindings]
      cases isComparable p <;> rfl

/-! ## Further parameters -/

theorem when_sublist {a b : Bool} (h : a = true → b = true) (f : Finding) :
    (when a f).Sublist (when b f) := by
  cases a with
  | false => exact List.nil_sublist _
  | true => rw [h rfl]

/-- With more names and places before it, no less is found in a parameter. -/
theorem parameterFindings_sublist {seen more : List (String × Value)} (h : seen ⊆ more)
    (key : String) (p : Value) :
    (parameterFindings key seen p).Sublist (parameterFindings key more p) := by
  -- only whether a parameter repeats another one depends on those before it
  have hcompared : (comparedFindings key seen p).Sublist (comparedFindings key more p) := by
    refine ((List.Sublist.refl _).append (when_sublist ?_ _)).append (List.Sublist.refl _)
    rw [List.any_eq_true, List.any_eq_true]
    rintro ⟨other, hother, hsame⟩
    exact ⟨other, h hother, hsame⟩
  unfold parameterFindings
  cases p.isMap with
  | false => exact List.Sublist.refl _
  | true =>
      cases mentions p "$ref" with
      | true => exact List.Sublist.refl _
      | false =>
          cases affirms p "name" with
          | false => exact List.Sublist.refl _
          | true => exact hcompared

theorem noting_subset {seen more : List (String × Value)} (h : seen ⊆ more) (p : Value) :
    noting seen p ⊆ noting more p := by
  unfold noting
  split
  · exact List.cons_subset_cons _ h
  · exact h

theorem subset_noting (seen : List (String × Value)) (p : Value) : seen ⊆ noting seen p := by
  unfold noting
  split
  · exact List.subset_cons_self _ _
  · exact List.Subset.refl _

theorem parametersFindings_sublist {seen more : List (String × Value)} (h : seen ⊆ more)
    (key : String) (ps : List Value) :
    (parametersFindings key seen ps).Sublist (parametersFindings key more ps) := by
  induction ps generalizing seen more with
  | nil => exact List.Sublist.refl _
  | cons p ps ih => exact (parameterFindings_sublist h key p).append (ih (noting_subset h p))

/-- A further parameter, wherever it is put and whatever it is, only adds findings. -/
theorem parametersFindings_insert (key : String) (seen : List (String × Value))
    (ps : List Value) (p : Value) (qs : List Value) :
    (parametersFindings key seen (ps ++ qs)).Sublist
      (parametersFindings key seen (ps ++ p :: qs)) := by
  induction ps generalizing seen with
  | nil =>
      -- the parameters after the further one have one more before them
      exact (parametersFindings_sublist (subset_noting seen p) key qs).trans
        (List.sublist_append_right _ _)
  | cons q ps ih => exact (List.Sublist.refl _).append (ih _)

/-! ## Documents -/

/-- The parameters of an operation, as they are written. -/
def parametersOf (operation : Value) : List Value :=
  (operation.getD "parameters").asList?.getD []

/-- What is found in an operation that is a mapping. -/
def operationFindings (older : Bool) (key : String) (method : Method) (operation : Value) :
    List Finding :=
  let hasBody := if older then (parametersOf operation).any isBodyParameter
    else affirms operation "requestBody"
  when (!affirms operation "responses") (.missingResponses key)
    ++ when (!affirms operation "operationId") (.missingOperationId key)
    ++ when (!affirms operation "summary" && !affirms operation "description") (.undescribed key)
    ++ parametersFindings key [] (parametersOf operation)
    ++ when (usuallyWithBody.contains method && !hasBody) (.maybeBody key)
    ++ when (!affirms operation "tags") (.missingTags key)

/-- What is found under a key of a path item. -/
def memberFindings (older : Bool) (path : String) (m : Value × Value) : List Finding :=
  match methodOfKey? m.1 with
  | none => []
  | some method =>
    let key := Text.uppercase m.1.plainText ++ " " ++ path
    if m.2.isMap then operationFindings older key method m.2 else [.malformedOperation key]

/-- What is found in a path and its operations. -/
def pathFindings (older : Bool) (m : Value × Value) : List Finding :=
  let path := m.1.plainText
  when (path.toList.head? != some '/') (.relativePath path) ++
    match m.2.asMap? with
    | some item => item.flatMap (memberFindings older path)
    | none => [.malformedPathItem path]

/-- What is found in the paths. -/
def pathsFindings (older : Bool) (doc : Value) : List Finding :=
  match (doc.getD "paths").asMap? with
  | some (m :: ms) => (m :: ms).flatMap (pathFindings older)
  | _ => [.noPaths]

/-- What is found in a document. -/
def documentFindings (doc : Value) : List Finding :=
  let older := mentions doc "swagger"
  checkInfo doc ++ pathsFindings older doc
    ++ when (!mentions doc "openapi" && !older) .noFormatVersion
    ++ checkServers older doc
    ++ (declaredSchemes doc).flatMap checkScheme

/-- The parameters that are checked under a key of a path item. -/
def checkedAt (m : Value × Value) : List Value :=
  if (methodOfKey? m.1).isSome then parametersOf m.2 else []

/-- The parameters that are checked in a path. -/
def checkedIn (m : Value × Value) : List Value := (m.2.asMap?.getD []).flatMap checkedAt

/-- The parameters of a document that are checked. -/
def checkedParameters (doc : Value) : List Value :=
  ((doc.getD "paths").asMap?.getD []).flatMap checkedIn

theorem checkDirect_eq (older : Bool) (key : String) (method : Method) (operation : Value) :
    checkDirect older key method operation
      = provided ((parametersOf operation).all isComparable)
        (operationFindings older key method operation) := by
  unfold checkDirect
  dsimp only
  rw [checkParameters_eq]
  exact provided_bind _ _ _

theorem parametersOf_of_isMap_false {v : Value} (h : v.isMap = false) : parametersOf v = [] := by
  unfold parametersOf Value.getD
  rw [Value.get?_of_isMap_false h]
  rfl

theorem checkOperation_eq (older : Bool) (path : String) (m : Value × Value) :
    checkOperation older path m
      = provided ((checkedAt m).all isComparable) (memberFindings older path m) := by
  unfold checkOperation memberFindings checkedAt
  cases methodOfKey? m.1 with
  | none => rfl
  | some method =>
      dsimp only
      rw [Option.isSome_some, if_pos rfl]
      cases hmap : m.2.isMap with
      | false =>
          rw [parametersOf_of_isMap_false hmap]
          rfl
      | true => exact checkDirect_eq _ _ _ _

theorem checkPath_eq (older : Bool) (m : Value × Value) :
    checkPath older m = provided ((checkedIn m).all isComparable) (pathFindings older m) := by
  unfold checkPath pathFindings checkedIn
  cases m.2.asMap? with
  | none => rfl
  | some item =>
      dsimp only
      rw [forEach_eq (checkOperation_eq older _), Option.getD_some, List.all_flatMap]
      exact provided_bind _ _ _

theorem checkPaths_eq (older : Bool) (doc : Value) :
    checkPaths older doc
      = provided ((checkedParameters doc).all isComparable) (pathsFindings older doc) := by
  unfold checkPaths pathsFindings checkedParameters
  cases (doc.getD "paths").asMap? with
  | none => rfl
  | some paths =>
      cases paths with
      | nil => rfl
      | cons m ms =>
          dsimp only
          rw [forEach_eq (checkPath_eq older), Option.getD_some, List.all_flatMap]

/-- What is found in a mapping is found unless a place that has to be looked up cannot be. -/
theorem findings_eq {doc : Value} (h : doc.isMap = true) :
    findings doc = provided ((checkedParameters doc).all isComparable) (documentFindings doc) := by
  unfold findings
  rw [h, Bool.not_true, if_neg Bool.false_ne_true]
  dsimp only
  rw [checkPaths_eq]
  exact provided_bind _ _ _

/-! ## Reports -/

/-- A report is valid when nothing that is found is an error. -/
theorem isValid_reportOf_iff (found : List Finding) :
    (reportOf found).isValid = true ↔ ∀ f ∈ found, f.severity ≠ .error := by
  show ((((found.map fun f => (f.severity, f.text)).filter (·.1 == .error)).map (·.2)).isEmpty)
    = true ↔ _
  rw [List.isEmpty_iff, List.map_eq_nil_iff, List.filter_eq_nil_iff, List.forall_mem_map]
  simp only [beq_iff_eq]

/-- A mapping is reported with all that is found in it, unless a place that has to be looked up
cannot be. -/
theorem checkDocument_eq_ok_iff {doc : Value} {report : Report} :
    checkDocument doc = .ok report ↔
      doc.isMap = true ∧ (∀ p ∈ checkedParameters doc, isComparable p = true)
        ∧ reportOf (documentFindings doc) = report := by
  unfold checkDocument
  cases hmap : doc.isMap with
  | false =>
      have hfindings : findings doc = .error .notMapping := by
        unfold findings
        rw [hmap]
        rfl
      rw [hfindings]
      constructor
      · intro h
        cases h
      · rintro ⟨hfalse, -⟩
        cases hfalse
  | true =>
      rw [findings_eq hmap, ← List.all_eq_true]
      cases (checkedParameters doc).all isComparable with
      | false =>
          constructor
          · intro h
            cases h
          · rintro ⟨-, hfalse, -⟩
            cases hfalse
      | true =>
          constructor
          · intro h
            exact ⟨rfl, rfl, Except.ok.inj h⟩
          · rintro ⟨-, -, h⟩
            exact congrArg Except.ok h

/-- A document has a report exactly when it is a mapping and no parameter of it is to be looked up
by a place that is a collection. The report says everything that is found, and it is valid exactly
when it has no errors, which is when nothing that is found is one. Integers with too many digits
are left out: they have no text that a finding could name. -/
theorem report_iff_comparable (doc : Value) (_ : doc.holdsLong = false) :
    (∃ report, checkDocument doc = .ok report ∧ report = reportOf (documentFindings doc)
        ∧ (report.isValid = true ↔ report.errors = [])
        ∧ (report.isValid = true ↔ ∀ f ∈ documentFindings doc, f.severity ≠ .error))
      ↔ doc.isMap = true ∧ ∀ p ∈ checkedParameters doc, isComparable p = true := by
  constructor
  · rintro ⟨report, hreport, -⟩
    obtain ⟨hmap, hps, -⟩ := checkDocument_eq_ok_iff.1 hreport
    exact ⟨hmap, hps⟩
  · rintro ⟨hmap, hps⟩
    refine ⟨_, checkDocument_eq_ok_iff.2 ⟨hmap, hps, rfl⟩, rfl, ?_, ?_⟩
    · exact List.isEmpty_iff
    · exact isValid_reportOf_iff (documentFindings doc)

/-- A document with one parameter, whatever its name and its place are. -/
def oneParameter (name place : Value) : Value :=
  Value.object
    [("openapi", .str "3.0.0"),
     ("info", Value.object [("title", .str "Shop"), ("version", .str "1")]),
     ("paths", Value.object [("/items", Value.object [("get", Value.object
       [("parameters", .list [Value.object [("name", name), ("in", place),
         ("schema", Value.object [])]]),
        ("responses", Value.object [("200", Value.object [("description", .str "ok")])])])])])]

/-- A list as its name is shown in the findings. -/
theorem listedName_reported : (oneParameter (.list [.str "id"]) .null).holdsLong = false ∧
    ∃ report, checkDocument (oneParameter (.list [.str "id"]) .null) = .ok report ∧
      report.errors = ["Parameter '['id']' missing 'in' field in GET /items"] := by
  have hshort : (oneParameter (.list [.str "id"]) .null).holdsLong = false := rfl
  obtain ⟨report, hreport, hfound, -⟩ :=
    (report_iff_comparable (oneParameter (.list [.str "id"]) .null) hshort).2
      ⟨rfl, List.all_eq_true.1 rfl⟩
  exact ⟨hshort, report, hreport, hfound ▸ rfl⟩

/-- With a list as its place a document has no report, though it is a mapping. -/
theorem listedPlace_unreported : (oneParameter (.str "id") (.list [])).isMap = true ∧
    (oneParameter (.str "id") (.list [])).holdsLong = false ∧
    ∀ report, checkDocument (oneParameter (.str "id") (.list [])) ≠ .ok report := by
  refine ⟨rfl, rfl, fun report h => ?_⟩
  have hstopped :
      checkDocument (oneParameter (.str "id") (.list [])) = .error .collectionAsPlace := rfl
  rw [hstopped] at h
  cases h

end ApiTools.Validation
