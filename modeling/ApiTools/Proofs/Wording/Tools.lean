import ApiTools.Proofs.Tool.Inputs
import ApiTools.Proofs.Tool.Synthesis
import ApiTools.Wording.Interface

set_option autoImplicit false

/-!
# Tools without their wording

A tool without its wording is what is left of it when its description and those of its properties
are left out. Better wording does not change the tool that an operation gives, as far as it gives
one: each layer, from the conversion of a schema to the tool, is looked at up to wording.
-/

namespace ApiTools

open Property (Unending)

/-! ## Leaving out the wording -/

/-- The property without its description; the descriptions of its items stay. -/
def Property.unworded (p : Property) : Property :=
  p.updateTraits fun t => { t with description := "" }

def Candidate.unworded (c : Candidate) : Candidate := { c with property := c.property.unworded }

def InputSchema.unworded (i : InputSchema) : InputSchema :=
  { i with properties := i.properties.map fun e => (e.1, e.2.unworded) }

/-- The tool without its description and those of its properties. -/
def Tool.unworded (t : Tool) : Tool := { t with description := "", input := t.input.unworded }

/-! ## Conversion -/

namespace Property

theorem unworded_withLocation (p : Property) (l : Location) :
    (p.withLocation l).unworded = p.unworded.withLocation l := by
  cases p <;> cases l <;> rfl

theorem unworded_ofSchema (s : Schema) (d d' : Option String) (items : Option Property) :
    (ofSchema s d items).unworded = (ofSchema s d' items).unworded := by
  unfold ofSchema
  dsimp only
  repeat' split
  all_goals rfl

/-- What a conversion gives without the wording, if it gives anything. -/
def plainly (r : Except Unending (Log.Noted Property)) : Option Property :=
  r.toOption.map (·.1.unworded)

/-- The description that a schema is given from outside is a matter of wording. -/
theorem plainly_convertFrom (reg : Registry) (g : Schema.Guard) (s : Schema)
    (d d' : Option String) :
    plainly (convertFrom reg g s d) = plainly (convertFrom reg g s d') := by
  rw [convertFrom_eq, convertFrom_eq]
  cases Schema.follow reg g s with
  | dangling => rfl
  | cycle => rfl
  | «at» t g' =>
      have hsame : ∀ items notes,
          plainly (.ok (ofSchema (Schema.compose reg t)
              (some (describe [descriptionOf s, d])) items, notes))
            = plainly (.ok (ofSchema (Schema.compose reg t)
              (some (describe [descriptionOf s, d'])) items, notes)) := by
        intro items notes
        exact congrArg some (unworded_ofSchema _ _ _ _)
      dsimp only
      by_cases ha : isArray (Schema.compose reg t) = true
      · rw [if_pos ha, if_pos ha]
        cases Schema.itemStep reg g' t with
        | none => exact hsame _ _
        | unending => rfl
        | into i g'' =>
            dsimp only
            cases convertFrom reg g'' i none with
            | error u => rfl
            | ok r => exact hsame _ _
      · rw [if_neg ha, if_neg ha]
        exact hsame _ _

theorem plainly_convert (reg : Registry) (s : Option Schema) (d d' : Option String) :
    plainly (convert reg s d) = plainly (convert reg s d') := by
  cases s with
  | none => rfl
  | some s => exact plainly_convertFrom reg {} s d d'

end Property

/-! ## Inputs -/

theorem InputSchema.unworded_ofCandidates (cs : List Candidate) :
    (InputSchema.ofCandidates cs).unworded
      = InputSchema.ofCandidates (cs.map Candidate.unworded) := by
  have hproperties : (InputSchema.ofCandidates cs).unworded.properties
      = (InputSchema.ofCandidates (cs.map Candidate.unworded)).properties := by
    show (Named.ofList _).map _ = Named.ofList _
    rw [Named.ofList_map, List.map_map, List.map_map]
    refine congrArg Named.ofList (List.map_congr_left fun c _ => ?_)
    exact congrArg (Prod.mk c.name) (Property.unworded_withLocation c.property c.location)
  have hrequired : (InputSchema.ofCandidates cs).unworded.required
      = (InputSchema.ofCandidates (cs.map Candidate.unworded)).required := by
    show Named.distinct _ = Named.distinct _
    rw [List.filter_map, List.map_map]
    rfl
  exact congrArg₂ InputSchema.mk hproperties hrequired

namespace Endpoint

open Wording

/-- The candidates of a part without their wording, if the part has an end. -/
def plainly (part : Part) : Option (List Candidate) :=
  part.toOption.map fun r => r.1.map Candidate.unworded

/-- Candidates without their wording, if there are any. -/
def plainCandidates (r : Except Unending (List Candidate)) : Option (List Candidate) :=
  r.toOption.map fun cs => cs.map Candidate.unworded

theorem plainCandidates_gatherParts_cons (part : Part) (parts : List Part) :
    plainCandidates (gatherParts (part :: parts)).1
      = (plainly part).bind fun cs => (plainCandidates (gatherParts parts).1).map (cs ++ ·) := by
  cases part with
  | error u => rfl
  | ok r =>
      show plainCandidates ((gatherParts parts).1.map (r.1 ++ ·)) = _
      cases (gatherParts parts).1 with
      | error u => rfl
      | ok cs =>
          show some ((r.1 ++ cs).map Candidate.unworded) = _
          rw [List.map_append]
          rfl

/-- Parts that are the same up to wording give the same candidates up to wording. -/
theorem plainCandidates_gatherParts {ps qs : List Part} (h : ps.map plainly = qs.map plainly) :
    plainCandidates (gatherParts ps).1 = plainCandidates (gatherParts qs).1 := by
  induction ps generalizing qs with
  | nil =>
      obtain rfl := List.map_eq_nil_iff.1 h.symm
      rfl
  | cons p ps ih =>
      obtain ⟨q, qs, rfl, hq, hqs⟩ := List.map_eq_cons_iff.1 h.symm
      rw [plainCandidates_gatherParts_cons, plainCandidates_gatherParts_cons, hq, ih hqs.symm]

/-! ## Better wording -/

theorem improveParameter_eq (p : Parameter) :
    ∃ d, improveParameter p = { p with description := d } := by
  unfold improveParameter
  cases present? p.description with
  | none => exact ⟨_, rfl⟩
  | some d => exact ⟨p.description, rfl⟩

theorem parametersIn_improveEndpoint (e : Endpoint) (place : ParameterPlace) :
    (improveEndpoint e).parametersIn place = (e.parametersIn place).map improveParameter := by
  show (e.parameters.map improveParameter).filter (·.place = place) = _
  unfold parametersIn
  rw [List.filter_map]
  refine congrArg (List.map improveParameter) (List.filter_congr fun p _ => ?_)
  obtain ⟨d, hd⟩ := improveParameter_eq p
  rw [Function.comp_apply, hd]

theorem bodies_improveEndpoint (e : Endpoint) : (improveEndpoint e).bodies = e.bodies := by
  show e.jsonBody?.toList ++ ((improveEndpoint e).parametersIn .body).filterMap _ = _
  rw [parametersIn_improveEndpoint, List.filterMap_map]
  refine congrArg (e.jsonBody?.toList ++ ·) (List.filterMap_congr fun p _ => ?_)
  obtain ⟨d, hd⟩ := improveParameter_eq p
  rw [Function.comp_apply, hd]

theorem plainly_ofParameter (reg : Registry) (l : Location) (r : Bool) (p : Parameter)
    (d : Option String) :
    plainly (ofParameter reg l r { p with description := d })
      = plainly (ofParameter reg l r p) := by
  have hpart : ∀ d', plainly (ofParameter reg l r { p with description := d' })
      = (Property.plainly (Property.convert reg p.schema d')).map
          fun property => [⟨p.name, l, property, r⟩] := by
    intro d'
    unfold ofParameter
    dsimp only
    cases Property.convert reg p.schema d' <;> rfl
  calc plainly (ofParameter reg l r { p with description := d })
      = (Property.plainly (Property.convert reg p.schema d)).map
          fun property => [⟨p.name, l, property, r⟩] := hpart d
    _ = (Property.plainly (Property.convert reg p.schema p.description)).map
          fun property => [⟨p.name, l, property, r⟩] := by
        rw [Property.plainly_convert reg p.schema d p.description]
    _ = plainly (ofParameter reg l r p) := (hpart p.description).symm

theorem plainly_inputParts (e : Endpoint) (reg : Registry) :
    ((improveEndpoint e).inputParts reg).map plainly = (e.inputParts reg).map plainly := by
  rw [inputParts_eq, inputParts_eq, bodies_improveEndpoint]
  simp only [parametersIn_improveEndpoint, List.map_append, List.map_map]
  have hkey : (improveEndpoint e).key = e.key := rfl
  -- the three groups of parameters differ in the function that makes a part of one
  have hparameters : ∀ (ps : List Parameter) (f : Parameter → Part),
      (∀ p d, plainly (f { p with description := d }) = plainly (f p)) →
      ps.map (plainly ∘ f ∘ improveParameter) = ps.map (plainly ∘ f) := by
    intro ps f hf
    refine List.map_congr_left fun p _ => ?_
    obtain ⟨d, hd⟩ := improveParameter_eq p
    simp only [Function.comp_apply, hd]
    exact hf p d
  have hheader : ∀ p d, plainly (ofHeader reg e.key { p with description := d })
      = plainly (ofHeader reg e.key p) := by
    intro p d
    have hname : isSignature { p with description := d } = isSignature p := rfl
    unfold ofHeader
    rw [hname]
    by_cases hs : isSignature p = true
    · rw [if_pos hs, if_pos hs]
    · rw [if_neg hs, if_neg hs]
      exact plainly_ofParameter reg .header p.required p d
  rw [hkey, hparameters _ _ fun p d => plainly_ofParameter reg .path true p d,
    hparameters _ (fun p => ofParameter reg .query p.required p)
      fun p d => plainly_ofParameter reg .query p.required p d,
    hparameters _ _ hheader]

/-- Better wording leaves the inputs as they are, or missing if they are. -/
theorem unworded_inputs (e : Endpoint) (reg : Registry) :
    ((improveEndpoint e).inputs reg).1.toOption.map InputSchema.unworded
      = (e.inputs reg).1.toOption.map InputSchema.unworded := by
  have hinputs : ∀ e' : Endpoint, (e'.inputs reg).1.toOption.map InputSchema.unworded
      = (plainCandidates (e'.candidates reg).1).map InputSchema.ofCandidates := by
    intro e'
    show ((e'.candidates reg).1.map InputSchema.ofCandidates).toOption.map _ = _
    cases (e'.candidates reg).1 with
    | error u => rfl
    | ok cs => exact congrArg some (InputSchema.unworded_ofCandidates cs)
  have hcandidates : plainCandidates ((improveEndpoint e).candidates reg).1
      = plainCandidates (e.candidates reg).1 :=
    plainCandidates_gatherParts (plainly_inputParts e reg)
  calc ((improveEndpoint e).inputs reg).1.toOption.map InputSchema.unworded
      = (plainCandidates ((improveEndpoint e).candidates reg).1).map
          InputSchema.ofCandidates := hinputs (improveEndpoint e)
    _ = (plainCandidates (e.candidates reg).1).map InputSchema.ofCandidates := by
        rw [hcandidates]
    _ = (e.inputs reg).1.toOption.map InputSchema.unworded := (hinputs e).symm

end Endpoint

/-! ## Tools -/

/-- The tool that an operation gives without its wording, if its inputs can be told; whether the
operation hands out credentials is not asked. -/
def Api.plainTool? (a : Api) (base : String) (e : Endpoint) : Option Tool :=
  ((e.inputs a.schemas).1.toOption.map InputSchema.unworded).map fun input =>
    { name := e.toolName
      description := ""
      input := input
      method := e.method.capital
      path := e.path
      baseUrl := nonempty? base
      authentication := (a.authentication? e).1 }

theorem Tool.unworded_ofEndpoint (a : Api) (base : String) (e : Endpoint) :
    (Tool.ofEndpoint a base e).1.toOption.map Tool.unworded = a.plainTool? base e := by
  unfold Api.plainTool?
  rw [Tool.ofEndpoint_fst]
  cases (e.inputs a.schemas).1 with
  | error u => rfl
  | ok input =>
      dsimp only [Except.map, Except.toOption, Option.map, Tool.unworded, Tool.withInput]

theorem Tool.unworded_ofEndpoint? (a : Api) (base : String) (e : Endpoint) :
    (Tool.ofEndpoint? a base e).1.map Tool.unworded
      = if e.issuesCredentials then none else a.plainTool? base e := by
  rw [← Tool.unworded_ofEndpoint, Tool.ofEndpoint?_fst]
  split <;> rfl

namespace Api

open Wording

/-- Better wording leaves the tool of an operation as it is. -/
theorem plainTool?_improve (a : Api) (base : String) (e : Endpoint) :
    (improve a).plainTool? base (improveEndpoint e) = a.plainTool? base e := by
  unfold plainTool?
  show (((improveEndpoint e).inputs a.schemas).1.toOption.map InputSchema.unworded).map _ = _
  rw [Endpoint.unworded_inputs]
  rfl

/-- The tools without their wording of all operations that are not skipped. -/
def plainTools (a : Api) (base : String) (skips : Endpoint → Bool) : List Tool :=
  a.endpoints.filterMap fun e => if skips e then none else a.plainTool? base e

theorem unworded_tools (a : Api) (given : Option String) :
    (a.tools given).1.map Tool.unworded
      = a.plainTools (a.toolBase given) Endpoint.issuesCredentials := by
  rw [tools_fst, List.map_filterMap]
  exact List.filterMap_congr fun e _ => Tool.unworded_ofEndpoint? a (a.toolBase given) e

/-- Better wording leaves the tools as they are, but it may change which operations are
skipped. -/
theorem unworded_tools_improve (a : Api) (given : Option String) :
    ((improve a).tools given).1.map Tool.unworded
      = a.plainTools (a.toolBase given) fun e => (improveEndpoint e).issuesCredentials := by
  rw [unworded_tools]
  show (a.endpoints.map improveEndpoint).filterMap _ = _
  rw [List.filterMap_map]
  refine List.filterMap_congr fun e _ => ?_
  have hbase : (improve a).toolBase given = a.toolBase given := rfl
  rw [Function.comp_apply, hbase, plainTool?_improve]

/-! ## Skipped operations -/

/-- The inputs of an operation can be told, so it gives a tool unless it is skipped. -/
def Builds (a : Api) (e : Endpoint) : Prop := ∃ input, (e.inputs a.schemas).1 = .ok input

theorem builds_iff (a : Api) (base : String) (e : Endpoint) :
    a.Builds e ↔ ∃ t, a.plainTool? base e = some t := by
  unfold Builds plainTool?
  cases (e.inputs a.schemas).1 with
  | error u => simp [Except.toOption]
  | ok input => simp [Except.toOption]

theorem plainTool?_eq_some {a : Api} {base : String} {e : Endpoint} {t : Tool}
    (h : a.plainTool? base e = some t) : t.method = e.method.capital ∧ t.path = e.path := by
  unfold plainTool? at h
  obtain ⟨input, -, rfl⟩ := Option.map_eq_some_iff.1 h
  exact ⟨rfl, rfl⟩

theorem capital_injective : Function.Injective Method.capital := by
  intro m n h
  cases m <;> cases n <;> first | rfl | exact absurd h (by decide)

theorem plainTools_congr {a : Api} {base : String} {f g : Endpoint → Bool}
    (h : ∀ e ∈ a.endpoints, a.Builds e → f e = g e) :
    a.plainTools base f = a.plainTools base g := by
  refine List.filterMap_congr fun e he => ?_
  -- an operation that gives no tool may be skipped in one list and kept in the other
  cases ht : a.plainTool? base e with
  | none => rw [ite_self, ite_self]
  | some t => rw [h e he ((builds_iff a base e).2 ⟨t, ht⟩)]

/-- Operations with different methods or paths give different tools, so a tool tells whether its
operation was skipped. -/
theorem mem_plainTools_iff {a : Api} {base : String} {f : Endpoint → Bool} {e : Endpoint}
    {t : Tool} (hnd : (a.endpoints.map fun e => (e.method, e.path)).Nodup)
    (he : e ∈ a.endpoints) (ht : a.plainTool? base e = some t) :
    t ∈ a.plainTools base f ↔ f e = false := by
  unfold plainTools
  rw [List.mem_filterMap]
  constructor
  · rintro ⟨e', he', h⟩
    by_cases hf : f e' = true
    · rw [if_pos hf] at h
      cases h
    · rw [if_neg hf] at h
      obtain ⟨hm, hp⟩ := plainTool?_eq_some ht
      obtain ⟨hm', hp'⟩ := plainTool?_eq_some h
      have hkey : (e'.method, e'.path) = (e.method, e.path) := by
        rw [← hp', hp, capital_injective (hm'.symm.trans hm)]
      -- an operation with the same tool has the same method and path
      have heq : e' = e := List.inj_on_of_nodup_map hnd he' he hkey
      rw [heq] at hf
      simpa using hf
  · intro hf
    exact ⟨e, he, by rw [hf]; exact ht⟩

theorem eq_of_plainTools_eq {a : Api} {base : String} {f g : Endpoint → Bool}
    (hnd : (a.endpoints.map fun e => (e.method, e.path)).Nodup)
    (h : a.plainTools base f = a.plainTools base g) :
    ∀ e ∈ a.endpoints, a.Builds e → f e = g e := by
  intro e he hb
  obtain ⟨t, ht⟩ := (builds_iff a base e).1 hb
  -- the tool is in both lists or in neither
  have hf := mem_plainTools_iff (f := f) hnd he ht
  rw [h, mem_plainTools_iff (f := g) hnd he ht] at hf
  cases hfe : f e with
  | false => exact (hf.2 hfe).symm
  | true =>
      rw [hfe] at hf
      simpa using hf

end Api

end ApiTools
