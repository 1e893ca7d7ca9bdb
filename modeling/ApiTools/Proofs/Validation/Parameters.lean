import ApiTools.Proofs.Api.PathParameters
import ApiTools.Proofs.Validation.Operations

set_option autoImplicit false

/-!
# The parameters of a valid document

A check tells the parameters of an operation apart by name and place, and it wants those of the
path to be required. It looks at what is written in place only: a reference is passed over, and
the definition that it leads to is looked at nowhere else. So the parameters of a valid document
are sound as far as they are written in place, and all of them are if and only if the references
lead to sound ones.
-/

namespace ApiTools

/-- Parameters that fit together: no two have one name and place, and those of the path are
required. -/
structure Parameter.AreSound (ps : List Parameter) : Prop where
  distinct : (ps.map Parameter.key).Nodup
  required : ∀ p ∈ ps, p.place = .path → p.required = true

namespace Validation

open Api (Site sites)

/-! ## What is checked of parameters -/

/-- A parameter has a name and a place that were noted before. -/
def Repeats (noted : String × Value) (p : Value) : Prop :=
  noted.1 = (p.getD "name").plainText ∧ noted.2.sameKey (p.getD "in") = true

/-- A parameter of the path is required. -/
def KeepsPath (p : Value) : Prop :=
  (p.getD "in").asText? = some "path" → affirms p "required" = true

/-- What is an error is not found where nothing is, so what it is found on does not hold. -/
theorem eq_false_of_when {b : Bool} {f : Finding} (hf : f.severity = .error)
    (h : ∀ g ∈ when b f, g.severity ≠ .error) : b = false := by
  cases b with
  | false => rfl
  | true => exact absurd hf (h f (List.mem_singleton_self f))

/-- A parameter without an error repeats none before it, and is required if it is in the path. -/
theorem not_repeats_of_no_error {key : String} {seen : List (String × Value)} {p : Value}
    (hp : isCompared p = true)
    (h : ∀ f ∈ parameterFindings key seen p, f.severity ≠ .error) :
    (∀ noted ∈ seen, ¬ Repeats noted p) ∧ KeepsPath p := by
  have hfound : parameterFindings key seen p = comparedFindings key seen p := by
    simp only [isCompared, Bool.and_eq_true, Bool.not_eq_true'] at hp
    obtain ⟨⟨hmap, href⟩, hname⟩ := hp
    simp [parameterFindings, hmap, href, hname]
  rw [hfound] at h
  unfold comparedFindings at h
  simp only [List.forall_mem_append] at h
  obtain ⟨⟨-, hrepeated⟩, hoptional⟩ := h
  constructor
  · have hnone := eq_false_of_when rfl hrepeated
    rintro noted hnoted ⟨hname, hplace⟩
    have hnot := List.any_eq_false.1 hnone noted hnoted
    simp [hname, hplace] at hnot
  · intro hpath
    have hnone := eq_false_of_when rfl hoptional
    simpa [hpath] using hnone

/-- Of parameters without an error none repeats one before it, whether that was noted at the start
or is among them, and those of the path are required. -/
theorem pairwise_not_repeats {key : String} {seen : List (String × Value)} {ps : List Value}
    (h : ∀ f ∈ parametersFindings key seen ps, f.severity ≠ .error) :
    (∀ p ∈ ps, isCompared p = true → (∀ noted ∈ seen, ¬ Repeats noted p) ∧ KeepsPath p) ∧
      ps.Pairwise fun p q => isCompared p = true → isCompared q = true →
        ¬ Repeats ((p.getD "name").plainText, p.getD "in") q := by
  induction ps generalizing seen with
  | nil => exact ⟨List.forall_mem_nil _, List.Pairwise.nil⟩
  | cons p ps ih =>
      rw [parametersFindings, List.forall_mem_append] at h
      obtain ⟨hp, hps⟩ := h
      obtain ⟨hall, hpairs⟩ := ih hps
      refine ⟨List.forall_mem_cons.2 ⟨fun hc => not_repeats_of_no_error hc hp, ?_⟩,
        List.pairwise_cons.2 ⟨?_, hpairs⟩⟩
      · -- what was noted at the start is still noted behind the first one
        intro q hq hc
        obtain ⟨hnone, hkeeps⟩ := hall q hq hc
        exact ⟨fun noted hnoted => hnone noted (subset_noting seen p hnoted), hkeeps⟩
      · intro q hq hcp hcq
        have hnoted : ((p.getD "name").plainText, p.getD "in") ∈ noting seen p := by
          unfold noting
          rw [if_pos hcp]
          exact List.mem_cons_self
        exact (hall q hq hcq).1 _ hnoted

/-! ## What is read of parameters that are written in place -/

/-- Whether a parameter is written as a reference. -/
def isReference (raw : Value) : Bool := mentions raw "$ref"

/-- A parameter that is read where it is written is one that is checked. -/
theorem compared_of_parameter? {s : Site} {doc raw : Value} {p : Parameter}
    (hraw : isReference raw = false) (h : s.parameter? doc raw = some p) :
    isCompared raw = true ∧ p.key = ((raw.getD "name").plainText, p.place) ∧
      raw.getD "in" = .str p.place.name ∧ p.required = affirms raw "required" := by
  have href : raw.get? "$ref" = none := by
    rw [← Option.isNone_iff_eq_none, ← Option.isSome_eq_false_iff]
    exact hraw
  rw [s.parameter?_of_ref_none doc href] at h
  obtain ⟨hmap, hname, hplain, hin, hrequired⟩ := Site.of_readDirect h
  refine ⟨?_, ?_, hin, hrequired⟩
  · have hnot : mentions raw "$ref" = false := hraw
    have hnamed : affirms raw "name" = true := hname
    simp [isCompared, hmap, hnot, hnamed]
  · rw [Parameter.key, hplain]

/-- Of two such parameters with one name and place the later one repeats the other. -/
theorem repeats_of_key_eq {s : Site} {doc raw other : Value} {p q : Parameter}
    (hraw : isReference raw = false) (hother : isReference other = false)
    (hp : s.parameter? doc raw = some p) (hq : s.parameter? doc other = some q)
    (hkey : p.key = q.key) :
    Repeats ((raw.getD "name").plainText, raw.getD "in") other := by
  obtain ⟨-, hpkey, hpin, -⟩ := compared_of_parameter? hraw hp
  obtain ⟨-, hqkey, hqin, -⟩ := compared_of_parameter? hother hq
  rw [hpkey, hqkey] at hkey
  injection hkey with hname hplace
  refine ⟨hname, ?_⟩
  show (raw.getD "in").sameKey (other.getD "in") = true
  rw [hpin, hqin, hplace]
  exact (Value.sameKey_str_iff _ _).2 rfl

/-! ## The parameters of an operation -/

/-- The parameters of an operation that are written in place. -/
def inPlaceParameters (s : Site) (doc : Value) : List Parameter :=
  (s.ownRaws.filter (!isReference ·)).filterMap (s.parameter? doc)

/-- The references of an operation lead to sound parameters: those of the path are required, and
no other parameter has the name and the place of one of them. -/
structure RefersSoundly (s : Site) (doc : Value) : Prop where
  required : ∀ raw ∈ s.ownRaws, isReference raw = true →
    ∀ p, s.parameter? doc raw = some p → p.place = .path → p.required = true
  distinct : s.ownRaws.Pairwise fun raw other =>
    isReference raw = true ∨ isReference other = true →
      ∀ p, s.parameter? doc raw = some p → ∀ q, s.parameter? doc other = some q → p.key ≠ q.key

/-- Parameters are told apart if no two of what they are read from are read alike. -/
theorem nodup_keys_iff (s : Site) (doc : Value) (raws : List Value) :
    ((raws.filterMap (s.parameter? doc)).map Parameter.key).Nodup ↔
      raws.Pairwise fun raw other =>
        ∀ p, s.parameter? doc raw = some p → ∀ q, s.parameter? doc other = some q →
          p.key ≠ q.key := by
  unfold List.Nodup
  rw [List.pairwise_map, List.pairwise_filterMap]

/-- In a valid document the parameters that are written in place are checked without an error. -/
theorem IsValid.parametersFindings {doc : Value} (h : IsValid doc) {s : Site} (hs : s ∈ sites doc) :
    ∃ key, ∀ f ∈ Validation.parametersFindings key [] s.ownRaws, f.severity ≠ .error := by
  obtain ⟨paths, path, item, hpaths, hpath, hitem, hm⟩ := Api.exists_of_mem_sites hs
  have hmethod := methodOfKey?_name s.method
  have hmap : s.operation.isMap = true := h.isMap_operation hpaths hpath hitem hm hmethod
  refine ⟨Text.uppercase s.method.name ++ " " ++ path.1.plainText, fun f hf => ?_⟩
  refine h.severity_of_memberFindings hpaths hpath hitem hm ?_
  unfold memberFindings
  rw [hmethod]
  dsimp only
  rw [if_pos hmap]
  unfold operationFindings
  simp only [List.mem_append]
  exact .inl (.inl (.inr hf))

theorem IsValid.inPlace {doc : Value} (h : IsValid doc) {s : Site} (hs : s ∈ sites doc) :
    (∀ raw ∈ s.ownRaws, isReference raw = false →
        ∀ p, s.parameter? doc raw = some p → p.place = .path → p.required = true) ∧
      s.ownRaws.Pairwise fun raw other => isReference raw = false → isReference other = false →
        ∀ p, s.parameter? doc raw = some p → ∀ q, s.parameter? doc other = some q →
          p.key ≠ q.key := by
  obtain ⟨key, hfindings⟩ := h.parametersFindings hs
  obtain ⟨hall, hpairs⟩ := pairwise_not_repeats hfindings
  constructor
  · intro raw hraw hplain p hp hpath
    obtain ⟨hcompared, -, hin, hrequired⟩ := compared_of_parameter? hplain hp
    have hkeeps := (hall raw hraw hcompared).2
    rw [hrequired]
    apply hkeeps
    rw [hin, hpath]
    rfl
  · refine hpairs.imp fun {raw other} hnot hraw hother p hp q hq hkey => ?_
    have hcompared := (compared_of_parameter? hraw hp).1
    have hcompared' := (compared_of_parameter? hother hq).1
    exact hnot hcompared hcompared' (repeats_of_key_eq hraw hother hp hq hkey)

theorem parameters_of_endpoint? {s : Site} {doc : Value} {e : Endpoint}
    (h : s.endpoint? doc false = some e) : e.parameters = s.ownParameters doc := by
  obtain ⟨raws, body, codes, hraws, rfl⟩ := Site.of_endpoint? h
  obtain rfl : s.ownRaws = raws := Option.some.inj hraws
  rfl

/-- The parameters of an operation of a valid document are sound if and only if its references
lead to sound ones. -/
theorem IsValid.areSound_iff {doc : Value} (h : IsValid doc) {s : Site} (hs : s ∈ sites doc) :
    Parameter.AreSound (s.ownParameters doc) ↔ RefersSoundly s doc := by
  obtain ⟨hrequired, hdistinct⟩ := h.inPlace hs
  constructor
  · rintro ⟨hnodup, hpath⟩
    constructor
    · intro raw hraw _ p hp
      exact hpath p (List.mem_filterMap.2 ⟨raw, hraw, hp⟩)
    · refine ((nodup_keys_iff s doc _).1 hnodup).imp ?_
      exact fun hne _ => hne
  · rintro ⟨hrefer, hapart⟩
    constructor
    · refine (nodup_keys_iff s doc _).2 ((hdistinct.and hapart).imp ?_)
      rintro raw other ⟨hplain, hreferred⟩
      by_cases href : isReference raw = true ∨ isReference other = true
      · exact hreferred href
      · simp only [not_or, Bool.not_eq_true] at href
        exact hplain href.1 href.2
    · intro p hp
      obtain ⟨raw, hraw, hp⟩ := List.mem_filterMap.1 hp
      cases href : isReference raw with
      | true => exact hrefer raw hraw href p hp
      | false => exact hrequired raw hraw href p hp

theorem IsValid.areSound_inPlace {doc : Value} (h : IsValid doc) {s : Site} (hs : s ∈ sites doc) :
    Parameter.AreSound (inPlaceParameters s doc) := by
  obtain ⟨hrequired, hdistinct⟩ := h.inPlace hs
  constructor
  · refine (nodup_keys_iff s doc _).2 ?_
    rw [List.pairwise_filter]
    refine hdistinct.imp fun hne hraw hother => hne ?_ ?_
    · simpa using hraw
    · simpa using hother
  · intro p hp
    obtain ⟨raw, hraw, hp⟩ := List.mem_filterMap.1 hp
    obtain ⟨hraw, hplain⟩ := List.mem_filter.1 hraw
    exact hrequired raw hraw (by simpa using hplain) p hp

/-- **The parameters of each operation of a valid document are sound if and only if its references
lead to sound parameters.** Those that are written in place are sound in any case: no two of them
have one name and place, and those of the path are required. -/
theorem valid_parameters_sound_iff {doc : Value} (h : IsValid doc) {a : Api}
    (ha : (Api.read doc false).1 = .ok a) :
    (∀ e, e ∈ a.endpoints ↔ ∃ s ∈ sites doc, s.endpoint? doc false = some e) ∧
      ∀ s ∈ sites doc, ∀ e, s.endpoint? doc false = some e →
        (inPlaceParameters s doc).Sublist e.parameters ∧
        Parameter.AreSound (inPlaceParameters s doc) ∧
        (Parameter.AreSound e.parameters ↔ RefersSoundly s doc) := by
  constructor
  · intro e
    rw [Api.endpoints_eq ha]
    exact List.mem_filterMap
  · intro s hs e he
    rw [parameters_of_endpoint? he]
    exact ⟨List.filter_sublist.filterMap _, h.areSound_inPlace hs, h.areSound_iff hs⟩

/-! ### A pet by its identifier -/

/-- A parameter of the path that is not required. -/
def petId : Value :=
  Value.object [("name", .str "id"), ("in", .str "path"), ("schema", Value.object [])]

/-- The same one, required. -/
def requiredPetId : Value :=
  Value.object
    [("name", .str "id"), ("in", .str "path"), ("required", .bool true),
     ("schema", Value.object [])]

/-- A parameter of the query. -/
def petFields : Value :=
  Value.object [("name", .str "fields"), ("in", .str "query"), ("schema", Value.object [])]

/-- A reference to a shared parameter. -/
def sharedParameter (name : String) : Value :=
  Value.object [("$ref", .str ("#/components/parameters/" ++ name))]

/-- What is said about the operation that finds a pet. -/
def findPet (raws : List Value) : Value :=
  Value.object
    [("parameters", .list raws),
     ("responses", Value.object [("200", Value.object [("description", .str "ok")])])]

/-- A document with that operation, where the first and the last of these parameters are shared. -/
def petById (raws : List Value) : Value :=
  Value.object
    [("openapi", .str "3.0.0"),
     ("info", Value.object [("title", .str "Pets"), ("version", .str "1")]),
     ("paths", Value.object [("/pets/\x7bid\x7d", Value.object [("get", findPet raws)])]),
     ("components", Value.object
       [("parameters", Value.object [("id", petId), ("fields", petFields)])])]

/-- The only site of that document. -/
def petSite (raws : List Value) : Site :=
  ⟨"/pets/\x7bid\x7d", Value.object [("get", findPet raws)], .get, findPet raws⟩

/-- The identifier, written in place and required, and a reference to the parameter of the
query. -/
def petRaws : List Value := [requiredPetId, sharedParameter "fields"]

theorem petById_sound : ∃ a e, IsValid (petById petRaws) ∧
    (Api.read (petById petRaws) false).1 = .ok a ∧ e ∈ a.endpoints ∧
    e.parameters.map Parameter.key = [("id", .path), ("fields", .query)] ∧
    Parameter.AreSound e.parameters := by
  have hvalid : IsValid (petById petRaws) := ⟨reportOf (documentFindings _), rfl, rfl⟩
  obtain ⟨a, ha⟩ : ∃ a, (Api.read (petById petRaws) false).1 = .ok a := ⟨_, rfl⟩
  obtain ⟨e, he⟩ : ∃ e, (petSite petRaws).endpoint? (petById petRaws) false = some e := ⟨_, rfl⟩
  have hs : petSite petRaws ∈ sites (petById petRaws) := List.mem_cons_self
  obtain ⟨hmem, hsites⟩ := valid_parameters_sound_iff hvalid ha
  have hkeys : e.parameters.map Parameter.key = [("id", .path), ("fields", .query)] := by
    rw [parameters_of_endpoint? he]
    rfl
  have hrefers : RefersSoundly (petSite petRaws) (petById petRaws) := by
    constructor
    · -- the only reference leads to a parameter of the query
      intro raw hraw href p hp hpath
      have hraw : raw ∈ [requiredPetId, sharedParameter "fields"] := hraw
      rcases List.mem_cons.1 hraw with rfl | hraw
      · cases href
      · obtain rfl := List.mem_singleton.1 hraw
        obtain rfl := Option.some.inj hp
        cases hpath
    · refine List.pairwise_pair.2 ?_
      rintro - p hp q hq
      obtain rfl := Option.some.inj hp
      obtain rfl := Option.some.inj hq
      decide
  exact ⟨a, e, hvalid, ha, (hmem e).2 ⟨_, hs, he⟩, hkeys, (hsites _ hs e he).2.2.2 hrefers⟩

/-- Two references to a shared parameter of the path that is not required: the document is valid,
and it gives the parameter twice and not required. -/
theorem petById_unsound : ∃ a e p,
    IsValid (petById [sharedParameter "id", sharedParameter "id"]) ∧
    (Api.read (petById [sharedParameter "id", sharedParameter "id"]) false).1 = .ok a ∧
    a.endpoints = [e] ∧ e.parameters = [p, p] ∧ p.key = ("id", .path) ∧
    p.required = false ∧ ¬ (e.parameters.map Parameter.key).Nodup := by
  have hvalid : IsValid (petById [sharedParameter "id", sharedParameter "id"]) :=
    ⟨reportOf (documentFindings _), rfl, rfl⟩
  refine ⟨_, _, _, hvalid, rfl, rfl, rfl, rfl, rfl, ?_⟩
  decide

end Validation

end ApiTools
