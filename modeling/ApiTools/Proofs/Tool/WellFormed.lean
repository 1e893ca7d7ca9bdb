import ApiTools.Proofs.Property.FlatNames
import ApiTools.Proofs.Tool.Inputs
import ApiTools.Proofs.Tool.Names
import ApiTools.Tool.Check

set_option autoImplicit false

/-!
# Tools are well-formed

Whatever an interface says, a tool that is built for one of its operations has a name, requires
only inputs that it has and each of them once, and tells of every input in exactly one way where
its value goes. So the check of a tool has nothing to report but a path that is empty.
-/

namespace ApiTools

open Property (Unending)

/-! ## Marks and places -/

namespace Traits

/-- The mark of a location. -/
def mark (t : Traits) : Location → Option Bool
  | .path => t.isPathParam
  | .query => t.isQueryParam
  | .header => t.isHeaderParam
  | .body => t.isBodyParam

/-- No location is marked. -/
def IsUnmarked (t : Traits) : Prop := ∀ l, t.mark l = none

/-- One location is marked and no other. -/
def IsMarkedFor (t : Traits) (l : Location) : Prop :=
  ∀ l', t.mark l' = if l' = l then some true else none

/-- Nothing is said about a place in a nested body. -/
def IsUnplaced (t : Traits) : Prop :=
  t.isFlattened = none ∧ t.fullPath = none ∧ t.parentObject = none

/-- Everything is said about a place in a nested body. -/
def IsPlaced (t : Traits) : Prop :=
  t.isFlattened = some true ∧ t.fullPath.isSome ∧ t.parentObject.isSome

end Traits

namespace Property

/-- The property of the items of an array, if they are described. -/
def items? : Property → Option Property
  | simple _ _ => none
  | array _ _ items => items

/-- A property that says nothing about a request, and neither do its items. -/
inductive IsPlain : Property → Prop
  | intro {p : Property} (hm : p.traits.IsUnmarked) (hp : p.traits.IsUnplaced)
      (hi : ∀ q, p.items? = some q → IsPlain q) : IsPlain p

/-- A property as an input has it: it is marked for one location, it has a place in a body only if
that is the location, and its items say nothing about a request. -/
structure IsInputAt (p : Property) (l : Location) : Prop where
  marked : p.traits.IsMarkedFor l
  placed : p.traits.IsUnplaced ∨ p.traits.IsPlaced ∧ l = .body
  items : ∀ q, p.items? = some q → q.IsPlain

@[simp] theorem traits_updateTraits (p : Property) (f : Traits → Traits) :
    (p.updateTraits f).traits = f p.traits := by
  cases p <;> rfl

@[simp] theorem items?_updateTraits (p : Property) (f : Traits → Traits) :
    (p.updateTraits f).items? = p.items? := by
  cases p <;> rfl

/-! ## What converting a schema gives -/

theorem traits_ofSchema (s : Schema) (d : Option String) (items : Option Property) :
    (ofSchema s d items).traits = traitsOf s d := by
  unfold ofSchema
  dsimp only
  repeat' split
  all_goals rfl

theorem items?_ofSchema {s : Schema} {d : Option String} {items : Option Property} {q : Property}
    (h : (ofSchema s d items).items? = some q) : items = some q := by
  unfold ofSchema at h
  dsimp only at h
  repeat' split at h
  all_goals first | exact h | cases h

theorem isUnmarked_traitsOf (s : Schema) (d : Option String) : (traitsOf s d).IsUnmarked := by
  intro l
  cases l <;> rfl

theorem isPlain_ofSchema {s : Schema} {d : Option String} {items : Option Property}
    (h : ∀ q, items = some q → q.IsPlain) : (ofSchema s d items).IsPlain := by
  refine .intro ?_ ?_ fun q hq => h q (items?_ofSchema hq)
  · rw [traits_ofSchema]
    exact isUnmarked_traitsOf s d
  · rw [traits_ofSchema]
    exact ⟨rfl, rfl, rfl⟩

theorem isPlain_simple (d : String) (k : Kind) : (simple { description := d } k).IsPlain := by
  refine .intro (fun l => ?_) ⟨rfl, rfl, rfl⟩ (by simp [items?])
  cases l <;> rfl

/-- Converting a schema gives a property that says nothing about a request. -/
theorem isPlain_of_convertFrom {reg : Registry} {g : Schema.Guard} {s : Schema}
    {d : Option String} {p : Property} {notes : List Log.Note}
    (h : convertFrom reg g s d = .ok (p, notes)) : p.IsPlain :=
  of_convertFrom (fun d => isPlain_simple d _) (fun d => isPlain_simple d _)
    (fun _ _ _ hi => isPlain_ofSchema hi) h

theorem isPlain_of_convert {reg : Registry} {s : Option Schema} {d : Option String}
    {p : Property} {notes : List Log.Note} (h : convert reg s d = .ok (p, notes)) :
    p.IsPlain := by
  cases s with
  | none =>
      cases h
      exact isPlain_simple _ _
  | some s => exact isPlain_of_convertFrom h

/-! ## What a location adds -/

theorem isMarkedFor_withLocation {p : Property} (h : p.traits.IsUnmarked) (l : Location) :
    (p.withLocation l).traits.IsMarkedFor l := by
  intro l'
  have h := h l'
  unfold withLocation
  rw [traits_updateTraits]
  cases l <;> cases l' <;> first | rfl | exact h

theorem placement_withLocation (p : Property) (l : Location) :
    (p.withLocation l).traits.isFlattened = p.traits.isFlattened ∧
      (p.withLocation l).traits.fullPath = p.traits.fullPath ∧
      (p.withLocation l).traits.parentObject = p.traits.parentObject := by
  unfold withLocation
  rw [traits_updateTraits]
  cases l <;> exact ⟨rfl, rfl, rfl⟩

theorem items?_withLocation (p : Property) (l : Location) :
    (p.withLocation l).items? = p.items? :=
  items?_updateTraits p _

/-- The location makes an input out of a property that says nothing about a request. -/
theorem IsPlain.isInputAt {p : Property} (h : p.IsPlain) (l : Location) :
    (p.withLocation l).IsInputAt l := by
  obtain ⟨hm, hp, hi⟩ := h
  obtain ⟨h₁, h₂, h₃⟩ := placement_withLocation p l
  refine ⟨isMarkedFor_withLocation hm l, .inl ?_, ?_⟩
  · exact ⟨h₁.trans hp.1, h₂.trans hp.2.1, h₃.trans hp.2.2⟩
  · rw [items?_withLocation]
    exact hi

/-- A leaf of a body is an input with a place, or one of the first level without one. -/
theorem IsPlain.isInputAt_body {p : Property} (h : p.IsPlain) (path : List String) :
    ((p.withPlace path).withLocation .body).IsInputAt .body := by
  match path with
  | [] => exact h.isInputAt .body
  | [_] => exact h.isInputAt .body
  | first :: second :: rest =>
      obtain ⟨hm, -, hi⟩ := h
      have hplace : p.withPlace (first :: second :: rest) = p.updateTraits fun t =>
          { t with
            fullPath := some (".".intercalate (first :: second :: rest))
            parentObject := some first
            isFlattened := some true } := rfl
      rw [hplace]
      refine ⟨isMarkedFor_withLocation (fun l => ?_) .body, .inr ⟨?_, rfl⟩, ?_⟩
      · rw [traits_updateTraits, ← hm l]
        cases l <;> rfl
      · obtain ⟨h₁, h₂, h₃⟩ := placement_withLocation (p.updateTraits _) .body
        rw [traits_updateTraits] at h₁ h₂ h₃
        exact ⟨h₁, by rw [h₂]; rfl, by rw [h₃]; rfl⟩
      · rw [items?_withLocation, items?_updateTraits]
        exact hi

theorem isInputAt_of_flatten {reg : Registry} {s : Schema} {flat : Flat}
    {notes : List Log.Note} (h : flatten reg s = .ok (flat, notes)) :
    ∀ e ∈ flat.properties, (e.2.withLocation .body).IsInputAt .body := by
  intro e he
  obtain ⟨l, ⟨g, s', p, ns, hc, hl⟩, rfl⟩ := flatten_converted h e he
  show (l.property.withLocation .body).IsInputAt .body
  rw [hl]
  exact (isPlain_of_convertFrom hc).isInputAt_body l.path

end Property

/-! ## Candidates -/

namespace Candidate

/-- The candidate gives an input of its location. -/
def IsSound (c : Candidate) : Prop := (c.property.withLocation c.location).IsInputAt c.location

end Candidate

namespace Endpoint

theorem isSound_of_mem_ofParameter {reg : Registry} {l : Location} {r : Bool} {p : Parameter}
    {c : Candidate} (h : c ∈ candidatesIn (ofParameter reg l r p)) : c.IsSound := by
  unfold ofParameter at h
  cases hc : Property.convert reg p.schema p.description with
  | error u =>
      rw [hc] at h
      cases h
  | ok result =>
      rw [hc] at h
      obtain rfl := List.mem_singleton.1 h
      exact (Property.isPlain_of_convert hc).isInputAt l

theorem isSound_of_mem_ofBody {reg : Registry} {s : Schema} {r : Bool} {c : Candidate}
    (h : c ∈ candidatesIn (ofBody reg s r)) : c.IsSound := by
  cases hf : Property.flatten reg s with
  | error u =>
      unfold ofBody at h
      rw [hf] at h
      cases h
  | ok result =>
      obtain ⟨e, he, rfl⟩ := (mem_ofBody_iff hf c).1 h
      exact Property.isInputAt_of_flatten hf e he

theorem isSound_of_mem_allCandidates {e : Endpoint} {reg : Registry} {c : Candidate}
    (h : c ∈ e.allCandidates reg) : c.IsSound := by
  have h := mem_allCandidates.1 h
  cases hl : c.location with
  | path =>
      rw [hl] at h
      obtain ⟨p, -, hc⟩ := List.mem_flatMap.1 h
      exact isSound_of_mem_ofParameter hc
  | query =>
      rw [hl] at h
      obtain ⟨p, -, hc⟩ := List.mem_flatMap.1 h
      exact isSound_of_mem_ofParameter hc
  | header =>
      rw [hl] at h
      obtain ⟨p, -, hc⟩ := List.mem_flatMap.1 h
      exact isSound_of_mem_ofParameter hc
  | body =>
      rw [hl] at h
      obtain ⟨b, -, hc⟩ := List.mem_flatMap.1 h
      exact isSound_of_mem_ofBody hc

theorem capital_ne_empty (m : Method) : m.capital ≠ "" := by
  cases m <;> decide

end Endpoint

/-! ## Inputs -/

/-- Inputs that fit together: every name once, only names required that are there, each of them
once, and every property that of an input. -/
structure InputSchema.IsWellFormed (s : InputSchema) : Prop where
  names_nodup : (Named.names s.properties).Nodup
  required_nodup : s.required.Nodup
  required_declared : ∀ n ∈ s.required, n ∈ Named.names s.properties
  inputs : ∀ e ∈ s.properties, ∃ l, e.2.IsInputAt l

theorem InputSchema.isWellFormed_ofCandidates {cs : List Candidate} (h : ∀ c ∈ cs, c.IsSound) :
    (InputSchema.ofCandidates cs).IsWellFormed where
  names_nodup := Named.nodup_names_ofList _
  required_nodup := Named.nodup_distinct _
  required_declared := by
    intro n hn
    -- a required name is that of a candidate, which has a property whether it is required or not
    obtain ⟨c, hc, rfl⟩ := List.mem_map.1 ((Named.mem_distinct _ n).1 hn)
    have hc := (List.mem_filter.1 hc).1
    rw [InputSchema.ofCandidates, Named.mem_names_ofList]
    exact List.mem_map.2 ⟨_, List.mem_map.2 ⟨c, hc, rfl⟩, rfl⟩
  inputs := by
    intro e he
    obtain ⟨c, hc, rfl⟩ := List.mem_map.1 (Named.mem_of_mem_ofList he)
    exact ⟨c.location, h c hc⟩

theorem Endpoint.isWellFormed_inputs {e : Endpoint} {reg : Registry} {input : InputSchema}
    (h : (e.inputs reg).1 = .ok input) : input.IsWellFormed := by
  obtain ⟨-, rfl⟩ := inputs_eq_ok h
  exact InputSchema.isWellFormed_ofCandidates fun _ hc => isSound_of_mem_allCandidates hc

/-! ## Tools -/

namespace Tool

/-- The tool for an operation has the inputs of the operation, and its name, method and path. -/
theorem ofEndpoint_eq_ok {a : Api} {base : String} {e : Endpoint} {t : Tool}
    (h : (ofEndpoint a base e).1 = .ok t) :
    (e.inputs a.schemas).1 = .ok t.input ∧ t.name = e.toolName ∧ t.method = e.method.capital ∧
      t.path = e.path := by
  rw [ofEndpoint_fst] at h
  cases hi : (e.inputs a.schemas).1 with
  | error u =>
      rw [hi] at h
      cases h
  | ok input =>
      rw [hi] at h
      obtain rfl : withInput a base e input = t := Except.ok.inj h
      simp only [withInput, and_self]

/-- There is a tool as soon as there are inputs. -/
theorem exists_ofEndpoint {a : Api} (base : String) {e : Endpoint} {input : InputSchema}
    (h : (e.inputs a.schemas).1 = .ok input) : ∃ t, (ofEndpoint a base e).1 = .ok t := by
  rw [ofEndpoint_fst, h]
  exact ⟨_, rfl⟩

/-- A tool without undeclared inputs and with a name and a method has no fault but an empty
path. -/
theorem faultsFound_eq {t : Tool} (hname : t.name ≠ "") (hmethod : t.method ≠ "")
    (hdeclared : ∀ n ∈ t.input.required, n ∈ Named.names t.input.properties) :
    t.faultsFound = if t.path = "" then ["MCP tool " ++ t.name ++ " missing path"] else [] := by
  have hn : t.name.isEmpty = false := by simpa using hname
  have hm : t.method.isEmpty = false := by simpa using hmethod
  have hundeclared : t.undeclared = [] := by
    refine List.filter_eq_nil_iff.2 fun n hr => ?_
    obtain ⟨x, hx, hxn⟩ := List.mem_map.1 (hdeclared n hr)
    have hhas : Named.has t.input.properties n = true :=
      List.any_eq_true.2 ⟨x, hx, by simpa using hxn⟩
    simp [hhas]
  have hlabel : t.label = t.name := by
    unfold label
    rw [hn]
    rfl
  have hfaults : t.faultsFound
      = if t.path.isEmpty then ["MCP tool " ++ t.name ++ " missing path"] else [] := by
    unfold faultsFound
    rw [hundeclared, hlabel, hn, hm]
    simp
  rw [hfaults]
  by_cases hp : t.path = ""
  · rw [if_pos hp, if_pos (by simp [hp])]
  · rw [if_neg hp, if_neg (by simp [hp])]

/-- **The tool for an operation is well-formed, and the check of it reports nothing but an empty
path.** Its name is not empty, the names it requires are different and are those of inputs, and
each input is marked for one location, has a place in a body only if that is its location, and
says nothing about a request in its items. -/
theorem ofEndpoint_isWellFormed {a : Api} {base : String} {e : Endpoint} {t : Tool}
    (h : (ofEndpoint a base e).1 = .ok t) :
    t.name ≠ "" ∧ t.input.IsWellFormed ∧
      t.check.errors
        = if e.path = "" then ["MCP tool " ++ t.name ++ " missing path"] else [] := by
  obtain ⟨hinputs, hname, hmethod, hpath⟩ := ofEndpoint_eq_ok h
  have hname : t.name ≠ "" := hname ▸ e.isClean_toolName.nonempty
  have hmethod : t.method ≠ "" := hmethod ▸ Endpoint.capital_ne_empty e.method
  have hwell : t.input.IsWellFormed := Endpoint.isWellFormed_inputs hinputs
  refine ⟨hname, hwell, ?_⟩
  rw [← hpath]
  exact faultsFound_eq hname hmethod hwell.required_declared

end Tool

/-! ### An array in the query and a nested body -/

namespace Endpoint

open Property (textSchema inner objectOf convertFrom convert walk eventsAfter flatten Flat leavesOf
  notesOf)

/-- An array of texts. -/
def tagsSchema : Schema :=
  .mk { type := .given (.one "array") } .absent (.given textSchema) .absent .absent .absent .absent

/-- A query parameter that is such an array. -/
def tagsParameter : Parameter :=
  { name := "tags", place := .query, schema := some tagsSchema }

/-- An operation with that parameter and a body with one object in it. -/
def postPet : Endpoint :=
  { path := "/pets"
    method := .post
    parameters := [tagsParameter]
    requestBody := some { content := [(jsonMediaType, some (objectOf "a" inner))] } }

theorem convert_tagsSchema :
    convert [] (some tagsSchema) none = .ok (.array {} {} (some (.simple {} (.text {}))), []) := by
  have htext : convertFrom [] {} textSchema none = .ok (.simple {} (.text {}), []) := by
    rw [Property.convertFrom_eq]
    rfl
  show convertFrom [] {} tagsSchema none = _
  rw [Property.convertFrom_eq]
  show ((convertFrom [] {} textSchema none).mapError (Unending.after [])).bind _ = _
  rw [htext]
  rfl

theorem flatten_body_postPet : flatten [] (objectOf "a" inner)
    = .ok (⟨[("a_b", (Property.simple {} (.text {})).withPlace ["a", "b"])], []⟩, []) := by
  show (do
    let events ← eventsAfter [] (do
      let a ← walk [] {} ["a"] false inner
      eventsAfter a (.ok []))
    return (Flat.ofLeaves (leavesOf events), notesOf events)) = _
  rw [Property.walk_inner, Property.walk_textSchema]
  rfl

/-- The inputs of that operation. -/
theorem inputs_postPet : (postPet.inputs []).1 = .ok
    { properties :=
        [("tags", .array { isQueryParam := some true } {} (some (.simple {} (.text {})))),
         ("a_b", .simple
            { isBodyParam := some true
              isFlattened := some true
              fullPath := some "a.b"
              parentObject := some "a" } (.text {}))]
      required := [] } := by
  have htags : ofParameter [] .query false tagsParameter = .ok
      ([⟨"tags", .query, .array {} {} (some (.simple {} (.text {}))), false⟩], []) := by
    have hconvert : convert [] tagsParameter.schema tagsParameter.description = _ :=
      convert_tagsSchema
    unfold ofParameter
    rw [hconvert]
    rfl
  have hbody : ofBody [] (objectOf "a" inner) false = .ok
      ([⟨"a_b", .body, (Property.simple {} (.text {})).withPlace ["a", "b"], false⟩], []) := by
    unfold ofBody
    rw [flatten_body_postPet]
    rfl
  show (gatherParts [ofParameter [] .query false tagsParameter,
    ofBody [] (objectOf "a" inner) false]).1.map InputSchema.ofCandidates = _
  rw [htags, hbody]
  rfl

end Endpoint

/-- An interface with that operation. -/
def postPetApi : Api :=
  { info := ⟨"Pets", "1", none⟩, endpoints := [Endpoint.postPet], version := "3.0.0" }

theorem Tool.postPet_isWellFormed :
    ∃ t, (ofEndpoint postPetApi "" Endpoint.postPet).1 = .ok t ∧ t.name = "post_pets" ∧
      t.input.IsWellFormed ∧ t.check.errors = [] ∧
      Named.names t.input.properties = ["tags", "a_b"] := by
  obtain ⟨t, ht⟩ := exists_ofEndpoint (a := postPetApi) "" Endpoint.inputs_postPet
  obtain ⟨-, hwell, hcheck⟩ := ofEndpoint_isWellFormed ht
  obtain ⟨hinputs, hname, -, -⟩ := ofEndpoint_eq_ok ht
  have hinput := Except.ok.inj (hinputs.symm.trans Endpoint.inputs_postPet)
  refine ⟨t, ht, hname.trans ?_, hwell, hcheck, ?_⟩
  · decide
  · rw [hinput]
    rfl

end ApiTools
