import ApiTools.Proofs.Schema.Steps
import Mathlib.Data.List.Basic

set_option autoImplicit false

/-!
# The core of a schema

Two dialects write references to named schemas with different beginnings, and only what follows
the beginning counts. The *core* of a schema has the newer beginning in all references, and none
of the members that no key accounts for. Where a schema leads, what it is composed of and what
its parts are can be told from its core, in a registry of cores.
-/

namespace ApiTools

namespace Text

theorem after?_append (head cs : List Char) : after? head (head ++ cs) = some cs := by
  induction head with
  | nil => rfl
  | cons c head ih =>
      rw [List.cons_append, after?, if_pos rfl]
      exact ih

theorem eq_append_of_after? {head cs rest : List Char} (h : after? head cs = some rest) :
    cs = head ++ rest := by
  induction head generalizing cs with
  | nil => exact Option.some.inj h
  | cons c head ih =>
      cases cs with
      | nil => cases h
      | cons d cs =>
          rw [after?] at h
          split at h
          · next hc => rw [hc, List.cons_append, ih h]
          · cases h

end Text

namespace Reference

/-- A reference as it is written in the newer dialect. -/
def renew (ref : String) : String :=
  match Text.after? "#/definitions/".toList ref.toList with
  | some name => String.ofList ("#/components/schemas/".toList ++ name)
  | none => ref

theorem renew_cases (ref : String) : renew ref = ref ∨ ∃ name,
    ref.toList = "#/definitions/".toList ++ name ∧
      (renew ref).toList = "#/components/schemas/".toList ++ name := by
  unfold renew
  cases h : Text.after? "#/definitions/".toList ref.toList with
  | none => exact .inl rfl
  | some name => exact .inr ⟨name, Text.eq_append_of_after? h, String.toList_ofList⟩

/-- The name that a reference points at does not depend on how it begins. -/
theorem name?_renew (ref : String) : name? (renew ref) = name? ref := by
  rcases renew_cases ref with h | ⟨name, hold, hnew⟩
  · rw [h]
  · have hnewer : Text.after? "#/components/schemas/".toList ("#/definitions/".toList ++ name)
        = none := rfl
    unfold name? places
    simp only [List.findSome?_cons, hold, hnew, Text.after?_append, hnewer]

theorem renew_renew (ref : String) : renew (renew ref) = renew ref := by
  rcases renew_cases ref with h | ⟨name, -, hnew⟩
  · rw [h, h]
  · have hnone : Text.after? "#/definitions/".toList (renew ref).toList = none := by
      rw [hnew]
      rfl
    rw [renew, hnone]

end Reference

namespace Facet

variable {α β γ : Type}

theorem get?_map (f : α → β) (x : Facet α) : (x.map f).get? = x.get?.map f := by
  cases x <;> rfl

theorem map_orElse (f : α → β) (x y : Facet α) :
    (x.orElse y).map f = (x.map f).orElse (y.map f) := by
  cases x <;> rfl

theorem map_map (f : α → β) (g : β → γ) (x : Facet α) : (x.map f).map g = x.map (g ∘ f) := by
  cases x <;> rfl

end Facet

namespace Schema

/-! ## Cores -/

/-- The facets with the reference as in the newer dialect, and without other members. -/
def coreFacets (f : Facets) : Facets := { f with ref := f.ref.map Reference.renew, extras := [] }

mutual

/-- The core of a schema. -/
def core : Schema → Schema
  | mk f properties items allOf oneOf anyOf additional =>
    mk (coreFacets f) (coreProperties properties) (coreItems items) (coreComposition allOf)
      (coreComposition oneOf) (coreComposition anyOf) (coreAdditional additional)

/-- The properties with their cores. -/
def coreProperties : Facet (List (String × Schema)) → Facet (List (String × Schema))
  | .absent => .absent
  | .null => .null
  | .given ps => .given (coreEntries ps)

/-- The core of the items. -/
def coreItems : Facet Schema → Facet Schema
  | .absent => .absent
  | .null => .null
  | .given s => .given (core s)

/-- The cores of the members of a composition. -/
def coreComposition : Facet (List Schema) → Facet (List Schema)
  | .absent => .absent
  | .null => .null
  | .given ss => .given (coreMembers ss)

/-- The core of what is said about additional properties. -/
def coreAdditional : Facet (Bool ⊕ Schema) → Facet (Bool ⊕ Schema)
  | .absent => .absent
  | .null => .null
  | .given (.inl b) => .given (.inl b)
  | .given (.inr s) => .given (.inr (core s))

/-- Named schemas with their cores. -/
def coreEntries : List (String × Schema) → List (String × Schema)
  | [] => []
  | (n, s) :: rest => (n, core s) :: coreEntries rest

/-- The cores of schemas. -/
def coreMembers : List Schema → List Schema
  | [] => []
  | s :: rest => core s :: coreMembers rest

end

theorem coreEntries_eq (ps : List (String × Schema)) :
    coreEntries ps = ps.map fun e => (e.1, core e.2) := by
  induction ps with
  | nil => rfl
  | cons e ps ih => exact congrArg ((e.1, core e.2) :: ·) ih

theorem coreMembers_eq (ss : List Schema) : coreMembers ss = ss.map core := by
  induction ss with
  | nil => rfl
  | cons s ss ih => exact congrArg (core s :: ·) ih

theorem coreProperties_eq (f : Facet (List (String × Schema))) :
    coreProperties f = f.map (List.map fun e => (e.1, core e.2)) := by
  cases f with
  | given ps => exact congrArg Facet.given (coreEntries_eq ps)
  | _ => rfl

theorem coreItems_eq (f : Facet Schema) : coreItems f = f.map core := by
  cases f <;> rfl

theorem coreComposition_eq (f : Facet (List Schema)) :
    coreComposition f = f.map (List.map core) := by
  cases f with
  | given ss => exact congrArg Facet.given (coreMembers_eq ss)
  | _ => rfl

theorem coreAdditional_orElse (f g : Facet (Bool ⊕ Schema)) :
    coreAdditional (f.orElse g) = (coreAdditional f).orElse (coreAdditional g) := by
  rcases f with _ | _ | b | s <;> rfl

/-! ## What the core says -/

section

variable (s : Schema)

theorem facets_core : (core s).facets = coreFacets s.facets := by
  cases s
  rfl

theorem items_core : (core s).items = s.items.map core := by
  cases s
  exact coreItems_eq _

theorem additional_core : (core s).additional = coreAdditional s.additional := by
  cases s
  rfl

theorem propertyList_core :
    (core s).propertyList = s.propertyList.map fun e => (e.1, core e.2) := by
  cases s with
  | mk f properties items allOf oneOf anyOf additional =>
      show (coreProperties properties).get?.getD [] = (properties.get?.getD []).map _
      rw [coreProperties_eq, Facet.get?_map]
      cases properties.get? <;> rfl

theorem members_coreComposition (l : Facet (List Schema)) :
    members (coreComposition l) = (members l).map core := by
  unfold members
  rw [coreComposition_eq, Facet.get?_map]
  cases l.get? <;> rfl

theorem allOf_core : members (core s).allOf = (members s.allOf).map core := by
  cases s
  exact members_coreComposition _

theorem oneOf_core : members (core s).oneOf = (members s.oneOf).map core := by
  cases s
  exact members_coreComposition _

theorem anyOf_core : members (core s).anyOf = (members s.anyOf).map core := by
  cases s
  exact members_coreComposition _

theorem ref?_core : (core s).ref? = s.ref?.map Reference.renew := by
  unfold ref?
  rw [facets_core]
  exact Facet.get?_map _ _

/-- The name that a schema refers to. -/
theorem name?_core : (core s).ref?.bind Reference.name? = s.ref?.bind Reference.name? := by
  rw [ref?_core]
  cases s.ref? with
  | none => rfl
  | some ref => exact Reference.name?_renew ref

theorem requiredNames_core : (core s).requiredNames = s.requiredNames := by
  unfold requiredNames
  rw [facets_core]
  rfl

theorem primaryType_core : (core s).primaryType = s.primaryType := by
  unfold primaryType
  rw [facets_core]
  rfl

theorem allowsNull_core : (core s).allowsNull = s.allowsNull := by
  unfold allowsNull
  rw [facets_core]
  rfl

theorem hasComposition_core : (core s).hasComposition = s.hasComposition := by
  unfold hasComposition
  simp only [allOf_core, oneOf_core, anyOf_core, List.isEmpty_map]

theorem isObjectLike_core : (core s).isObjectLike = s.isObjectLike := by
  unfold isObjectLike
  rw [primaryType_core, propertyList_core, List.isEmpty_map]

end

/-! ## Members of a composition -/

/-- A registry of cores. -/
def coreRegistry (reg : Registry) : Registry := reg.map fun e => (e.1, core e.2)

variable (reg : Registry) (s : Schema)

theorem get?_coreRegistry (n : String) : (coreRegistry reg).get? n = (reg.get? n).map core :=
  Named.get?_map core reg n

/-- The member with its core. -/
def Member.core (m : Member) : Member := ⟨m.origin, m.schema.core⟩

/-- The property with its core. -/
def Part.core (p : Part) : Part := ⟨p.name, p.origin, p.schema.core⟩

theorem resolve?_core (ref : String) :
    Reference.resolve? (coreRegistry reg) (Reference.renew ref)
      = (Reference.resolve? reg ref).map core := by
  unfold Reference.resolve?
  rw [Reference.name?_renew]
  cases Reference.name? ref with
  | none => rfl
  | some n => exact get?_coreRegistry reg n

theorem target?_core : (core s).target? (coreRegistry reg) = (s.target? reg).map core := by
  unfold target?
  rw [ref?_core]
  cases s.ref? with
  | none => rfl
  | some ref => exact resolve?_core reg ref

theorem member?_core : member? (coreRegistry reg) (core s) = (member? reg s).map Member.core := by
  unfold member?
  rw [target?_core, name?_core, Option.map_map, Option.map_map]
  rfl

theorem resolved_core (ss : List Schema) :
    resolved (coreRegistry reg) (ss.map core) = (resolved reg ss).map Member.core := by
  unfold resolved
  rw [List.filterMap_map, List.map_filterMap]
  exact List.filterMap_congr fun s _ => member?_core reg s

theorem merged_core : merged (coreRegistry reg) (core s) = (merged reg s).map Member.core := by
  unfold merged
  rw [allOf_core, anyOf_core, resolved_core, resolved_core, List.map_append]

theorem variant?_core :
    variant? (coreRegistry reg) (core s) = (variant? reg s).map Member.core := by
  unfold variant?
  rw [oneOf_core, List.head?_map]
  cases (members s.oneOf).head? with
  | none => rfl
  | some v => exact member?_core reg v

theorem compositionNames_core : compositionNames (core s) = compositionNames s := by
  have hmembers : compositionMembers (core s) = (compositionMembers s).map core := by
    unfold compositionMembers
    rw [allOf_core, anyOf_core, oneOf_core, List.map_append, List.map_append, List.map_take]
  unfold compositionNames
  rw [hmembers, List.filterMap_map]
  exact List.filterMap_congr fun m _ => name?_core m

/-- The members that a composition consists of. -/
theorem compositionParts_core :
    merged (coreRegistry reg) (core s) ++ (variant? (coreRegistry reg) (core s)).toList
      = (merged reg s ++ (variant? reg s).toList).map Member.core := by
  rw [merged_core, variant?_core, List.map_append]
  cases variant? reg s <;> rfl

/-! ## Properties -/

theorem parts_member_core (m : Member) : m.core.parts = m.parts.map Part.core := by
  unfold Member.parts Member.core
  dsimp only
  rw [propertyList_core, List.map_map, List.map_map]
  rfl

theorem insertPart_core (ps : List Part) (p : Part) :
    insertPart (ps.map Part.core) p.core = (insertPart ps p).map Part.core := by
  induction ps with
  | nil => rfl
  | cons q ps ih =>
      rw [List.map_cons, insertPart, insertPart]
      by_cases hq : (q.name == p.name) = true
      · rw [if_pos hq, if_pos (by exact hq), List.map_cons]
      · rw [if_neg hq, if_neg (by exact hq), List.map_cons, ih]

theorem foldl_insertPart_core (others ps : List Part) :
    (others.map Part.core).foldl insertPart (ps.map Part.core)
      = (others.foldl insertPart ps).map Part.core := by
  induction others generalizing ps with
  | nil => rfl
  | cons p others ih => rw [List.map_cons, List.foldl_cons, insertPart_core, ih, List.foldl_cons]

/-- The properties of a core are the cores of the properties. -/
theorem parts_core : parts (coreRegistry reg) (core s) = (parts reg s).map Part.core := by
  have hown : (Member.mk none (core s)).parts = (Member.mk none s).parts.map Part.core :=
    parts_member_core ⟨none, s⟩
  have hothers : ((merged reg s ++ (variant? reg s).toList).map Member.core).flatMap Member.parts
      = ((merged reg s ++ (variant? reg s).toList).flatMap Member.parts).map Part.core := by
    rw [List.flatMap_map, List.map_flatMap]
    simp only [parts_member_core]
  unfold parts
  dsimp only
  rw [compositionParts_core, hown, hothers, ← List.map_append]
  exact foldl_insertPart_core _ []

/-! ## Collapsing a composition -/

theorem requiredParts_core : requiredParts (coreRegistry reg) (core s) = requiredParts reg s := by
  unfold requiredParts
  rw [compositionParts_core, requiredNames_core, List.foldl_map]
  simp only [Member.core, requiredNames_core]

theorem composedType_core : composedType (coreRegistry reg) (core s) = composedType reg s := by
  have hfound : ((merged reg s).map Member.core).findSome? (·.schema.facets.type.get?)
      = (merged reg s).findSome? (·.schema.facets.type.get?) := by
    rw [List.findSome?_map]
    congr 1
    funext m
    show (core m.schema).facets.type.get? = _
    rw [facets_core]
    rfl
  unfold composedType
  dsimp only
  rw [merged_core, variant?_core, facets_core, hfound]
  cases variant? reg s with
  | none => rfl
  | some v =>
      show (if (core v.schema).facets.type.isSet = true then (core v.schema).facets.type
        else _) = _
      rw [facets_core]
      rfl

theorem answers_core : answers (core s) = [] := by
  unfold answers
  rw [facets_core]
  rfl

theorem overlay_core (f : Facets) (v : Schema) :
    overlay (coreFacets f) (core v) = coreFacets (overlay f v) := by
  unfold overlay
  rw [facets_core, answers_core]
  rfl

theorem nonempty_map {α β : Type} (f : α → β) (xs : List α) :
    nonempty (xs.map f) = (nonempty xs).map (List.map f) := by
  cases xs <;> rfl

/-- The facets with those of the variant laid over them. -/
def laidOver (reg : Registry) (s : Schema) : Facets :=
  ((variant? reg s).map fun v => overlay s.facets v.schema).getD s.facets

/-- The items that the variant writes, or the schema's own. -/
def laidItems (reg : Registry) (s : Schema) : Facet Schema :=
  ((variant? reg s).map fun v => v.schema.items.orElse s.items).getD s.items

/-- What the variant says about additional properties, or the schema itself. -/
def laidAdditional (reg : Registry) (s : Schema) : Facet (Bool ⊕ Schema) :=
  ((variant? reg s).map fun v => v.schema.additional.orElse s.additional).getD s.additional

theorem compose_of_hasComposition {reg : Registry} {s : Schema} (h : s.hasComposition = true) :
    compose reg s = mk
      { laidOver reg s with
        type := composedType reg s
        required := nonempty (requiredParts reg s) }
      (nonempty ((parts reg s).map fun p => (p.name, p.schema))) (laidItems reg s)
      .null .null .null (laidAdditional reg s) := by
  unfold compose laidOver laidItems laidAdditional
  rw [h]
  cases variant? reg s <;> rfl

theorem laidOver_core : laidOver (coreRegistry reg) (core s) = coreFacets (laidOver reg s) := by
  unfold laidOver
  rw [variant?_core, facets_core]
  cases variant? reg s with
  | none => rfl
  | some v => exact overlay_core s.facets v.schema

theorem laidItems_core : laidItems (coreRegistry reg) (core s) = coreItems (laidItems reg s) := by
  unfold laidItems
  rw [variant?_core, items_core, coreItems_eq]
  cases variant? reg s with
  | none => rfl
  | some v =>
      show (core v.schema).items.orElse _ = _
      rw [items_core, ← Facet.map_orElse]
      rfl

theorem laidAdditional_core :
    laidAdditional (coreRegistry reg) (core s) = coreAdditional (laidAdditional reg s) := by
  unfold laidAdditional
  rw [variant?_core, additional_core]
  cases variant? reg s with
  | none => rfl
  | some v =>
      show (core v.schema).additional.orElse _ = _
      rw [additional_core, ← coreAdditional_orElse]
      rfl

/-- Collapsing the core of a schema gives the core of the collapsed schema. -/
theorem compose_core : compose (coreRegistry reg) (core s) = core (compose reg s) := by
  by_cases hc : s.hasComposition = true
  · have hcore : (core s).hasComposition = true := by rw [hasComposition_core, hc]
    have hproperties : nonempty ((parts (coreRegistry reg) (core s)).map fun p =>
        (p.name, p.schema)) = coreProperties (nonempty ((parts reg s).map fun p =>
          (p.name, p.schema))) := by
      rw [coreProperties_eq, ← nonempty_map, parts_core, List.map_map, List.map_map]
      rfl
    rw [compose_of_hasComposition hcore, compose_of_hasComposition hc, core, hproperties,
      laidOver_core, laidItems_core, laidAdditional_core, composedType_core, requiredParts_core,
      coreComposition]
    rfl
  · simp only [Bool.not_eq_true] at hc
    have hcore : (core s).hasComposition = false := by rw [hasComposition_core, hc]
    unfold compose
    rw [hcore, hc]
    rfl

/-! ## Steps -/

/-- The place with the core of the schema that is there. -/
def Place.core : Place → Place
  | .dangling => .dangling
  | .cycle => .cycle
  | .at s g => .at s.core g

theorem settleAt_core (g : Guard) : settleAt g (core s) = (settleAt g s).core := by
  unfold settleAt
  rw [compositionNames_core]
  split <;> rfl

/-- A core leads where its schema leads. -/
theorem follow_core (g : Guard) : follow (coreRegistry reg) g (core s) = (follow reg g s).core := by
  unfold follow
  rw [ref?_core]
  cases s.ref? with
  | none => exact settleAt_core s g
  | some ref =>
      dsimp only [Option.map_some]
      rw [Reference.name?_renew]
      cases Reference.name? ref with
      | none => rfl
      | some n =>
          dsimp only
          rw [get?_coreRegistry]
          by_cases hn : g.visited.contains n = true
          · rw [if_pos hn, if_pos hn]
            rfl
          · rw [if_neg hn, if_neg hn]
            cases reg.get? n with
            | none => rfl
            | some t => exact settleAt_core t (g.enter n)

/-- The step with the core of the items. -/
def ItemStep.core : ItemStep → ItemStep
  | .none => .none
  | .unending => .unending
  | .into i g => .into i.core g

theorem itemStep_core (g : Guard) :
    itemStep (coreRegistry reg) g (core s) = (itemStep reg g s).core := by
  unfold itemStep
  dsimp only
  rw [variant?_core, items_core]
  cases variant? reg s with
  | none => cases s.items <;> rfl
  | some v =>
      have hitems : v.core.schema.items = v.schema.items.map core := items_core v.schema
      have horigin : v.core.origin = v.origin := rfl
      dsimp only [Option.map_some]
      rw [hitems, horigin]
      cases v.schema.items with
      | absent => cases s.items <;> rfl
      | null => rfl
      | given i =>
          dsimp only [Facet.map]
          cases v.origin with
          | none => rfl
          | some name =>
              dsimp only
              split <;> rfl

end Schema

end ApiTools
