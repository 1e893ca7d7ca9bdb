import ApiTools.Proofs.Property.Result
import ApiTools.Proofs.Schema.Core

set_option autoImplicit false

/-!
# Properties of cores

Converting a schema and flattening a body give the same properties for the core of the schema,
in the registry of cores. Only the notes that are made on the way may differ, since they quote
references.
-/

namespace ApiTools.Property

open Schema

/-! ## What is read off a collapsed schema -/

section

variable (s : Schema)

theorem descriptionOf_core : descriptionOf s.core = descriptionOf s := by
  unfold descriptionOf
  rw [facets_core]
  rfl

theorem isArray_core : isArray s.core = isArray s := by
  unfold isArray
  rw [primaryType_core]

theorem isNested_core : isNested s.core = isNested s := by
  unfold isNested
  rw [isObjectLike_core, propertyList_core, List.isEmpty_map]

theorem traitsOf_core (d : Option String) : traitsOf s.core d = traitsOf s d := by
  unfold traitsOf
  rw [descriptionOf_core, allowsNull_core, facets_core]
  rfl

theorem ofSchema_core (d : Option String) (items : Option Property) :
    ofSchema s.core d items = ofSchema s d items := by
  unfold ofSchema
  rw [traitsOf_core, primaryType_core, isObjectLike_core, facets_core]
  rfl

end

/-! ## Converting -/

/-- What is found, without the notes; nothing if there is no end. -/
def outcome {α : Type} (r : Except Unending (Log.Noted α)) : Option α := r.toOption.map (·.1)

theorem outcome_items {α β : Type} (r : Except Unending (Log.Noted α)) (before : List Log.Note)
    (f : α → β) :
    outcome (do
      let (a, notes) ← r.mapError (.after before)
      return (f a, before ++ notes)) = (outcome r).map f := by
  cases r <;> rfl

/-- The core of a schema is converted like the schema. -/
theorem outcome_convertFrom_core (reg : Registry) (g : Guard) (s : Schema) (d : Option String) :
    outcome (convertFrom (coreRegistry reg) g s.core d) = outcome (convertFrom reg g s d) := by
  rw [convertFrom_eq, convertFrom_eq, follow_core, descriptionOf_core]
  cases hf : follow reg g s with
  | dangling => rfl
  | cycle => rfl
  | «at» t g' =>
      dsimp only [Place.core]
      rw [compose_core, isArray_core, itemStep_core]
      simp only [ofSchema_core]
      by_cases ha : isArray (compose reg t) = true
      · rw [if_pos ha, if_pos ha]
        cases hi : itemStep reg g' t with
        | none => rfl
        | unending => rfl
        | into i g'' =>
            dsimp only [ItemStep.core]
            rw [outcome_items _ _ fun item => ofSchema _ _ (some item),
              outcome_items _ _ fun item => ofSchema _ _ (some item),
              outcome_convertFrom_core reg g'' i none]
      · rw [if_neg ha, if_neg ha]
        rfl
termination_by extent reg g s
decreasing_by exact extent_follow hf (extent_items hi)

theorem outcome_convert_core (reg : Registry) (s : Option Schema) (d : Option String) :
    outcome (convert (coreRegistry reg) (s.map core) d) = outcome (convert reg s d) := by
  cases s with
  | none => rfl
  | some s => exact outcome_convertFrom_core reg {} s d

/-! ## Flattening -/

/-- The leaves that a walk meets; nothing if it has no end. -/
def leavesFound (r : Except Unending (List Event)) : Option (List Leaf) := r.toOption.map leavesOf

/-- Lists one after the other, if all of them are there. -/
def joined {α : Type} (found : List (Option (List α))) : Option (List α) :=
  found.foldr (fun here rest => here.bind fun xs => rest.map (xs ++ ·)) (some [])

theorem leavesFound_eventsAfter (before : List Event) (r : Except Unending (List Event)) :
    leavesFound (eventsAfter before r) = (leavesFound r).map (leavesOf before ++ ·) := by
  cases r with
  | error u => rfl
  | ok events => exact congrArg some (leavesOf_append before events)

theorem leavesFound_collect {α : Type} (xs : List α) (f : α → Except Unending (List Event)) :
    leavesFound (collect xs fun x _ => f x) = joined (xs.map fun x => leavesFound (f x)) := by
  induction xs with
  | nil => rfl
  | cons x xs ih =>
      rw [collect, List.map_cons]
      show _ = (leavesFound (f x)).bind fun ls => (joined _).map (ls ++ ·)
      rw [← ih]
      cases f x with
      | error u => rfl
      | ok here => exact leavesFound_eventsAfter here _

/-- The only leaf of a walk. -/
def leafAt (path : List String) (entered : List String) (required : Bool) (p : Property) : Leaf :=
  ⟨path, entered, required, p.withPlace path⟩

theorem leavesFound_leaf (notes : List Log.Note) (events : List Event) (l : Leaf)
    (h : leavesOf events = [l]) :
    leavesFound (.ok (notes.map Event.note ++ events)) = some [l] := by
  show some (leavesOf _) = _
  rw [leavesOf_append, leavesOf_notes, h]
  rfl

theorem leavesFound_items (r : Except Unending (Log.Noted Property)) (f : Property → Leaf) :
    leavesFound (do
      let (item, notes) ← r
      return notes.map Event.note ++ [.leaf (f item)]) = (outcome r).map fun item => [f item] := by
  cases r with
  | error u => rfl
  | ok r => exact leavesFound_leaf r.2 _ _ rfl

/-- The leaves that a walk meets, as the walk goes on. -/
theorem leavesFound_walk (reg : Registry) (g : Guard) (path : List String) (required : Bool)
    (s : Schema) :
    leavesFound (walk reg g path required s) = match follow reg g s with
      | .dangling =>
        some [leafAt path g.visited required (plainText (describe [descriptionOf s]))]
      | .cycle =>
        some [leafAt path g.visited required (opaqueObject (describe [descriptionOf s]))]
      | .at t g' =>
        let composed := compose reg t
        if isNested composed then
          joined ((parts reg t).map fun p => leavesFound (walkPart reg g' path required composed p))
        else if isArray composed then
          match itemStep reg g' t with
          | .none =>
            some [leafAt path g'.visited required (ofSchema composed (descriptionOf s) none)]
          | .unending => none
          | .into i g'' => (outcome (convertFrom reg g'' i none)).map fun item =>
              [leafAt path g'.visited required (ofSchema composed (descriptionOf s) (some item))]
        else some [leafAt path g'.visited required (ofSchema composed (descriptionOf s) none)] := by
  rw [walk]
  split
  · next hf =>
    rw [hf]
    exact leavesFound_leaf _ _ _ rfl
  · next hf =>
    rw [hf]
    exact leavesFound_leaf _ _ _ rfl
  · next t g' hf =>
    rw [hf]
    dsimp only
    by_cases hn : isNested (compose reg t) = true
    · rw [if_pos hn, if_pos hn, leavesFound_eventsAfter, leavesOf_notes, ← leavesFound_collect]
      exact Option.map_id'
    · rw [if_neg hn, if_neg hn]
      by_cases ha : isArray (compose reg t) = true
      · rw [if_pos ha, if_pos ha]
        cases itemStep reg g' t with
        | none => exact leavesFound_leaf _ _ _ rfl
        | unending => rfl
        | into i g'' =>
          dsimp only
          rw [leavesFound_eventsAfter, leavesOf_notes]
          exact Option.map_id'.trans (leavesFound_items (convertFrom reg g'' i none) fun item =>
            leafAt path g'.visited required (ofSchema (compose reg t) (descriptionOf s) (some item)))
      · rw [if_neg ha, if_neg ha]
        exact leavesFound_leaf _ _ _ rfl

/-- The walk through the core of a schema meets the same leaves. -/
theorem leavesFound_walk_core (reg : Registry) (g : Guard) (path : List String) (required : Bool)
    (s : Schema) :
    leavesFound (walk (coreRegistry reg) g path required s.core)
      = leavesFound (walk reg g path required s) := by
  rw [leavesFound_walk, leavesFound_walk, follow_core, descriptionOf_core]
  match hf : follow reg g s with
  | .dangling => rfl
  | .cycle => rfl
  | .at t g' =>
      dsimp only [Place.core]
      rw [compose_core, isNested_core, isArray_core, itemStep_core, parts_core, List.map_map]
      simp only [ofSchema_core]
      have hparts : (parts reg t).map ((fun p => leavesFound (walkPart (coreRegistry reg) g' path
            required (compose reg t).core p)) ∘ Part.core)
          = (parts reg t).map fun p =>
              leavesFound (walkPart reg g' path required (compose reg t) p) := by
        refine List.map_congr_left fun p hp => ?_
        rw [Function.comp_apply]
        unfold walkPart
        rw [requiredNames_core]
        exact leavesFound_walk_core reg (p.guard g') (path ++ [p.name]) _ p.schema
      rw [hparts]
      congr 1
      by_cases ha : isArray (compose reg t) = true
      · rw [if_pos ha, if_pos ha]
        cases itemStep reg g' t with
        | none => rfl
        | unending => rfl
        | into i g'' =>
            dsimp only [ItemStep.core]
            rw [outcome_convertFrom_core]
      · rw [if_neg ha, if_neg ha]
termination_by extent reg g s
decreasing_by exact extent_follow hf (extent_part hp (follow_names hf))

theorem leavesFound_walkBody (reg : Registry) (s : Schema) :
    leavesFound (walkBody reg s) = match follow reg {} s with
      | .dangling | .cycle => some []
      | .at t g =>
        joined ((parts reg t).map fun p => leavesFound (walkPart reg g [] true (compose reg t) p)) := by
  unfold walkBody
  dsimp only
  cases follow reg {} s with
  | dangling => exact congrArg some (leavesOf_notes _)
  | cycle => exact congrArg some (leavesOf_notes _)
  | «at» t g =>
      dsimp only
      rw [leavesFound_eventsAfter, leavesOf_notes, ← leavesFound_collect]
      exact Option.map_id'

theorem outcome_flatten (reg : Registry) (s : Schema) :
    outcome (flatten reg s) = (leavesFound (walkBody reg s)).map Flat.ofLeaves := by
  unfold flatten
  cases walkBody reg s <;> rfl

/-- The core of a body is flattened like the body. -/
theorem outcome_flatten_core (reg : Registry) (s : Schema) :
    outcome (flatten (coreRegistry reg) s.core) = outcome (flatten reg s) := by
  have hpart : ∀ (g : Guard) (t : Schema) (p : Part),
      leavesFound (walkPart (coreRegistry reg) g [] true (compose reg t).core p.core)
        = leavesFound (walkPart reg g [] true (compose reg t) p) := by
    intro g t p
    unfold walkPart
    rw [requiredNames_core]
    exact leavesFound_walk_core reg (p.guard g) _ _ p.schema
  have hbody : leavesFound (walkBody (coreRegistry reg) s.core) = leavesFound (walkBody reg s) := by
    rw [leavesFound_walkBody, leavesFound_walkBody, follow_core]
    cases follow reg {} s with
    | dangling => rfl
    | cycle => rfl
    | «at» t g =>
        dsimp only [Place.core]
        rw [compose_core, parts_core, List.map_map]
        exact congrArg joined (List.map_congr_left fun p _ => hpart g t p)
  rw [outcome_flatten, outcome_flatten, hbody]

end ApiTools.Property
