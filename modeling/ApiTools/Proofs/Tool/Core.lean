import ApiTools.Proofs.Property.Core
import ApiTools.Proofs.Tool.Inputs
import ApiTools.Proofs.Tool.Synthesis

set_option autoImplicit false

/-!
# Tools of cores

The tool for an operation can be told from the cores of the schemas that it takes values for, in
the registry of cores. So two operations that are alike in all but their parameters and bodies
give the same tool if these have the same cores in the same places.
-/

namespace ApiTools

open Property (Unending outcome joined)

/-- The parameter with the core of its schema. -/
def Parameter.core (p : Parameter) : Parameter := { p with schema := p.schema.map Schema.core }

namespace Endpoint

/-! ## Parts -/

theorem outcome_ofParameter_core (reg : Registry) (l : Location) (r : Bool) (p : Parameter) :
    outcome (ofParameter (Schema.coreRegistry reg) l r p.core) = outcome (ofParameter reg l r p) := by
  have hpart : ∀ (reg : Registry) (p : Parameter), outcome (ofParameter reg l r p)
      = (outcome (Property.convert reg p.schema p.description)).map fun property =>
          [⟨p.name, l, property, r⟩] := by
    intro reg p
    unfold ofParameter
    cases Property.convert reg p.schema p.description <;> rfl
  rw [hpart, hpart]
  show (outcome (Property.convert _ (p.schema.map Schema.core) p.description)).map _ = _
  rw [Property.outcome_convert_core]
  rfl

theorem outcome_ofHeader_core (reg : Registry) (key : String) (p : Parameter) :
    outcome (ofHeader (Schema.coreRegistry reg) key p.core) = outcome (ofHeader reg key p) := by
  have hname : isSignature p.core = isSignature p := rfl
  unfold ofHeader
  rw [hname]
  by_cases hs : isSignature p = true
  · rw [if_pos hs, if_pos hs]
    rfl
  · rw [if_neg hs, if_neg hs]
    exact outcome_ofParameter_core reg .header p.required p

theorem outcome_ofBody_core (reg : Registry) (s : Schema) (r : Bool) :
    outcome (ofBody (Schema.coreRegistry reg) s.core r) = outcome (ofBody reg s r) := by
  have hpart : ∀ (reg : Registry) (s : Schema), outcome (ofBody reg s r)
      = (outcome (Property.flatten reg s)).map fun flat => flat.properties.map fun e =>
          ⟨e.1, .body, e.2, r && flat.required.contains e.1⟩ := by
    intro reg s
    unfold ofBody
    cases Property.flatten reg s <;> rfl
  rw [hpart, hpart, Property.outcome_flatten_core]

theorem toOption_gatherParts (parts : List Part) :
    (gatherParts parts).1.toOption = joined (parts.map outcome) := by
  induction parts with
  | nil => rfl
  | cons part parts ih =>
      rw [List.map_cons]
      show _ = (outcome part).bind fun cs => (joined (parts.map outcome)).map (cs ++ ·)
      rw [← ih]
      cases part with
      | error u => rfl
      | ok r =>
          exact toOption_map (r.1 ++ ·) (gatherParts parts).1

theorem toOption_inputs (e : Endpoint) (reg : Registry) : (e.inputs reg).1.toOption
    = (joined ((e.inputParts reg).map outcome)).map InputSchema.ofCandidates := by
  rw [← toOption_gatherParts]
  exact toOption_map InputSchema.ofCandidates (gatherParts (e.inputParts reg)).1

/-! ## Inputs -/

/-- The parameters that an operation takes values for and its bodies, with cores only. -/
structure SameCores (e f : Endpoint) : Prop where
  path : (e.parametersIn .path).map Parameter.core = (f.parametersIn .path).map Parameter.core
  query : (e.parametersIn .query).map Parameter.core = (f.parametersIn .query).map Parameter.core
  header : (e.parametersIn .header).map Parameter.core = (f.parametersIn .header).map Parameter.core
  bodies : e.bodies.map (fun b => (b.1.core, b.2)) = f.bodies.map fun b => (b.1.core, b.2)
  key : e.key = f.key

theorem map_outcome_inputParts (e : Endpoint) (reg : Registry) :
    (e.inputParts reg).map outcome
      = ((e.parametersIn .path).map Parameter.core).map
          (fun p => outcome (ofParameter (Schema.coreRegistry reg) .path true p))
        ++ ((e.parametersIn .query).map Parameter.core).map
          (fun p => outcome (ofParameter (Schema.coreRegistry reg) .query p.required p))
        ++ ((e.parametersIn .header).map Parameter.core).map
          (fun p => outcome (ofHeader (Schema.coreRegistry reg) e.key p))
        ++ (e.bodies.map fun b => (b.1.core, b.2)).map
          (fun b => outcome (ofBody (Schema.coreRegistry reg) b.1 b.2)) := by
  rw [inputParts_eq]
  simp only [List.map_append, List.map_map]
  congr 1
  · congr 1
    · congr 1
      · exact List.map_congr_left fun p _ => (outcome_ofParameter_core reg .path true p).symm
      · exact List.map_congr_left fun p _ => (outcome_ofParameter_core reg .query p.required p).symm
    · exact List.map_congr_left fun p _ => (outcome_ofHeader_core reg e.key p).symm
  · exact List.map_congr_left fun b _ => (outcome_ofBody_core reg b.1 b.2).symm

/-- The inputs are told from the cores. -/
theorem toOption_inputs_eq {e f : Endpoint} {reg reg' : Registry} (h : SameCores e f)
    (hreg : Schema.coreRegistry reg = Schema.coreRegistry reg') :
    (e.inputs reg).1.toOption = (f.inputs reg').1.toOption := by
  rw [toOption_inputs, toOption_inputs, map_outcome_inputParts, map_outcome_inputParts, h.path,
    h.query, h.header, h.bodies, h.key, hreg]

end Endpoint

/-! ## Tools -/

namespace Tool

/-- Operations that differ in their parameters and bodies only give the same tool if these have
the same cores, and if they authenticate alike. -/
theorem ofEndpoint?_eq {a b : Api} (base : String) {e : Endpoint} {ps : List Parameter}
    {body : Option RequestBody}
    (hcores : Endpoint.SameCores e { e with parameters := ps, requestBody := body })
    (hreg : Schema.coreRegistry a.schemas = Schema.coreRegistry b.schemas)
    (hauth : (a.authentication? e).1
      = (b.authentication? { e with parameters := ps, requestBody := body }).1) :
    (ofEndpoint? a base e).1
      = (ofEndpoint? b base { e with parameters := ps, requestBody := body }).1 := by
  have hwith : withInput a base e
      = withInput b base { e with parameters := ps, requestBody := body } := by
    funext input
    unfold withInput
    rw [hauth]
    rfl
  rw [ofEndpoint?_fst, ofEndpoint?_fst, ofEndpoint_fst, ofEndpoint_fst, toOption_map,
    toOption_map, Endpoint.toOption_inputs_eq hcores hreg, hwith]
  rfl

end Tool

end ApiTools
