import ApiTools.Proofs.Property.Core
import ApiTools.Proofs.Property.Leaves
import ApiTools.Proofs.Schema.Position
import ApiTools.Proofs.Tool.WellFormed

set_option autoImplicit false

/-!
# Values that are taken whole

A value in a body is taken apart only if its schema leads to an object with properties. Every other
value is taken whole: its schema leads nowhere, or closes a cycle, or leads to something else. The
walk through a body then makes a property of it in the same way in which the value of a parameter
is converted, whatever was entered before, and adds nothing but its place in the body. So a body
without references that has only such values flattens to what its properties are converted into.
-/

namespace ApiTools.Property

open Schema

variable {reg : Registry} {g : Guard} {s : Schema}

/-! ## The place in a body -/

theorem clear_of_isUnplaced {t : Traits} (h : t.IsUnplaced) :
    { t with fullPath := none, parentObject := none, isFlattened := none } = t := by
  obtain ⟨hf, hp, ho⟩ := h
  cases t
  dsimp only at hf hp ho
  subst hf hp ho
  rfl

/-- Taking the place in a body away again leaves what was converted. -/
theorem withoutPlace_withPlace {p : Property} (h : p.traits.IsUnplaced) (path : List String) :
    (p.withPlace path).withoutPlace = p := by
  have hclear : p.withoutPlace = p := by
    unfold withoutPlace updateTraits
    dsimp only
    rw [clear_of_isUnplaced h]
    cases p <;> rfl
  match path with
  | [] => exact hclear
  | [_] => exact hclear
  | _ :: _ :: _ => cases p <;> exact hclear

theorem withoutPlace_withPlace_of_convertFrom {d : Option String} {p : Property}
    (h : outcome (convertFrom reg g s d) = some p) (path : List String) :
    (p.withPlace path).withoutPlace = p := by
  cases hc : convertFrom reg g s d with
  | error u =>
      rw [hc] at h
      cases h
  | ok r =>
      rw [hc] at h
      cases h
      obtain ⟨-, hunplaced, -⟩ := isPlain_of_convertFrom hc
      exact withoutPlace_withPlace hunplaced path

/-! ## Bodies -/

/-- A body without references, neither its own nor of the members it is composed of, with no
property that is taken apart. -/
structure IsFlatBody (reg : Registry) (s : Schema) : Prop where
  own : s.ref? = none
  members : ∀ m ∈ compositionMembers s, m.ref? = none
  whole : ∀ e ∈ (compose reg s).propertyList, IsWhole reg {} e.2

theorem follow_of_ref?_none (h : s.ref? = none) : follow reg {} s = .at s {} := by
  unfold follow
  rw [h]
  exact settleAt_at fun n _ => rfl

/-- Without references no property has an origin. -/
theorem IsFlatBody.guard_part (h : IsFlatBody reg s) {p : Part} (hp : p ∈ parts reg s) :
    p.guard {} = {} := by
  have hnames : compositionNames s = [] := by
    rw [List.eq_nil_iff_forall_not_mem]
    intro n hn
    obtain ⟨m, hm, hn⟩ := List.mem_filterMap.1 hn
    rw [h.members m hm] at hn
    cases hn
  rcases List.mem_append.1 (mem_of_mem_parts hp) with hp | hp
  · obtain ⟨e, -, rfl⟩ := List.mem_map.1 hp
    rfl
  · obtain ⟨m, hm, hp⟩ := List.mem_flatMap.1 hp
    obtain ⟨e, -, rfl⟩ := List.mem_map.1 hp
    rcases mem_members hm with ⟨c, -, rfl⟩ | ⟨n, hn, -⟩
    · rfl
    · rw [hnames] at hn
      cases hn

theorem IsFlatBody.leavesFound_part (h : IsFlatBody reg s) {p : Part} (hp : p ∈ parts reg s) :
    leavesFound (walkPart reg {} [] true (compose reg s) p)
      = (outcome (convertFrom reg {} p.schema none)).map fun q =>
        [leafAt [p.name] (enteredBehind reg {} p.schema)
          ((compose reg s).requiredNames.contains p.name) q] := by
  have hmem : (p.name, p.schema) ∈ (compose reg s).propertyList := by
    apply Named.mem_of_mem_ofList
    rw [← parts_eq_ofList_compose]
    exact List.mem_map_of_mem hp
  unfold walkPart
  rw [h.guard_part hp]
  exact leavesFound_walk_of_isWhole (h.whole _ hmem) [p.name] _

theorem joined_singletons {α β : Type} (xs : List α) (f : α → Option β) :
    joined (xs.map fun x => (f x).map fun y => [y]) = xs.mapM f := by
  have hcons : ∀ (a : Option (List β)) as, joined (a :: as)
      = a.bind fun ys => (joined as).map (ys ++ ·) := fun _ _ => rfl
  induction xs with
  | nil => rfl
  | cons x xs ih =>
      rw [List.map_cons, hcons, ih, List.mapM_cons]
      cases f x with
      | none => rfl
      | some y => cases xs.mapM f <;> rfl

theorem map_mapM {α β γ : Type} (f : α → Option β) (k : β → γ) (xs : List α) :
    (xs.mapM f).map (List.map k) = xs.mapM fun x => (f x).map k := by
  induction xs with
  | nil => rfl
  | cons x xs ih =>
      rw [List.mapM_cons, List.mapM_cons, ← ih]
      cases f x with
      | none => rfl
      | some y => cases xs.mapM f <;> rfl

/-- What is found for each of some names is found under these names. -/
theorem names_of_mapM {α β : Type} {f : α → Option (String × β)} (name : α → String)
    (hname : ∀ x e, f x = some e → e.1 = name x) {xs : List α} {es : List (String × β)}
    (h : xs.mapM f = some es) : Named.names es = xs.map name := by
  induction xs generalizing es with
  | nil =>
      cases h
      rfl
  | cons x xs ih =>
      rw [List.mapM_cons] at h
      cases hx : f x with
      | none =>
          rw [hx] at h
          cases h
      | some e =>
          cases hxs : xs.mapM f with
          | none =>
              rw [hx, hxs] at h
              cases h
          | some rest =>
              rw [hx, hxs] at h
              cases h
              rw [Named.names_cons, List.map_cons, ih hxs, hname x e hx]

/-- A property of a flat body, converted on its own. -/
def converted (reg : Registry) (e : String × Schema) : Option (String × Property) :=
  (outcome (convert reg (some e.2) none)).map fun p => (e.1, p)

theorem IsFlatBody.leavesFound_walkBody (h : IsFlatBody reg s) :
    (leavesFound (walkBody reg s)).map (List.map fun l => (l.name, l.property))
      = ((parts reg s).map fun p => (p.name, p.schema)).mapM (converted reg) := by
  rw [Property.leavesFound_walkBody, follow_of_ref?_none h.own]
  dsimp only
  have hparts : (parts reg s).map (fun p => leavesFound (walkPart reg {} [] true (compose reg s) p))
      = (parts reg s).map fun p => ((outcome (convertFrom reg {} p.schema none)).map
          (leafAt [p.name] (enteredBehind reg {} p.schema)
            ((compose reg s).requiredNames.contains p.name))).map fun l => [l] := by
    refine List.map_congr_left fun p hp => ?_
    rw [h.leavesFound_part hp, Option.map_map]
    rfl
  rw [hparts, joined_singletons, map_mapM, List.mapM_map]
  refine congrArg (List.mapM · (parts reg s)) (funext fun p => ?_)
  rw [Option.map_map]
  rfl

/-- **Values that are taken whole are converted alike in bodies and as parameters.** Wherever the
walk through a body comes to such a value, it finds one leaf, whose property without its place is
what the schema is converted into behind the same guard; one has a result if the other has. So a
flat body has under the name of each of its properties what that property is converted into. -/
theorem whole_values_converted (reg : Registry) :
    (∀ g path required s, IsWhole reg g s →
      (leavesFound (walk reg g path required s)).map
          (List.map fun l => (l.path, l.required, l.property.withoutPlace))
        = (outcome (convertFrom reg g s none)).map fun p => [(path, required, p)]) ∧
    ∀ s, IsFlatBody reg s →
      (outcome (flatten reg s)).map Flat.properties
        = (Named.ofList (compose reg s).propertyList).mapM (converted reg) := by
  refine ⟨fun g path required s h => ?_, fun s h => ?_⟩
  · rw [leavesFound_walk_of_isWhole h, Option.map_map]
    cases hc : outcome (convertFrom reg g s none) with
    | none => rfl
    | some p =>
        have hp := withoutPlace_withPlace_of_convertFrom hc path
        show some [(path, required, (p.withPlace path).withoutPlace)] = _
        rw [hp]
        rfl
  · have hleaves := h.leavesFound_walkBody
    rw [outcome_flatten, Option.map_map, ← parts_eq_ofList_compose, ← hleaves]
    cases hf : leavesFound (walkBody reg s) with
    | none => rfl
    | some leaves =>
        rw [hf] at hleaves
        -- the properties have different names, so none replaces another
        have hnames := names_of_mapM Prod.fst (fun e e' he => by
          obtain ⟨p, -, rfl⟩ := Option.map_eq_some_iff.1 he
          rfl) hleaves.symm
        have hnodup : (Named.names (leaves.map fun l => (l.name, l.property))).Nodup := by
          rw [hnames, List.map_map]
          exact nodup_parts reg s
        exact congrArg some (Named.ofList_of_nodup hnodup)

/-! ### A note with tags -/

/-- A body with a text and an array of texts. -/
def taggedNote : Schema :=
  .mk {} (.given [("note", textSchema), ("tags", Endpoint.tagsSchema)])
    .absent .absent .absent .absent .absent

/-- The property of the tags. -/
def tagsProperty : Property := .array {} {} (some (.simple {} (.text {})))

theorem isWhole_of_ref?_none (hr : s.ref? = none) (hn : isNested (compose reg s) = false) :
    IsWhole reg {} s := by
  intro t g' hf
  rw [follow_of_ref?_none hr] at hf
  cases hf
  exact hn

theorem isFlatBody_taggedNote : IsFlatBody [] taggedNote where
  own := rfl
  members m hm := by cases hm
  whole e he := by
    rcases List.mem_cons.1 he with rfl | he
    · exact isWhole_of_ref?_none rfl rfl
    · obtain rfl := List.mem_singleton.1 he
      exact isWhole_of_ref?_none rfl rfl

/-- The tags are found alike inside an object and in a body of their own. -/
theorem taggedNote_converted :
    (IsWhole [] {} Endpoint.tagsSchema ∧
      (leavesFound (walk [] {} ["note", "tags"] true Endpoint.tagsSchema)).map
          (List.map fun l => (l.path, l.required, l.property.withoutPlace))
        = some [(["note", "tags"], true, tagsProperty)]) ∧
    IsFlatBody [] taggedNote ∧ (outcome (flatten [] taggedNote)).map Flat.properties
      = some [("note", .simple {} (.text {})), ("tags", tagsProperty)] := by
  have htags : outcome (convertFrom [] {} Endpoint.tagsSchema none) = some tagsProperty :=
    congrArg outcome Endpoint.convert_tagsSchema
  have htext : outcome (convertFrom [] {} textSchema none) = some (.simple {} (.text {})) := by
    rw [convertFrom_eq]
    rfl
  have hwhole : IsWhole [] {} Endpoint.tagsSchema := isWhole_of_ref?_none rfl rfl
  refine ⟨⟨hwhole, ?_⟩, isFlatBody_taggedNote, ?_⟩
  · rw [(whole_values_converted []).1 {} ["note", "tags"] true _ hwhole, htags]
    rfl
  · rw [(whole_values_converted []).2 taggedNote isFlatBody_taggedNote]
    have hnote : converted [] ("note", textSchema) = some ("note", .simple {} (.text {})) :=
      congrArg (Option.map fun p => ("note", p)) htext
    have htagged : converted [] ("tags", Endpoint.tagsSchema) = some ("tags", tagsProperty) :=
      congrArg (Option.map fun p => ("tags", p)) htags
    show [("note", textSchema), ("tags", Endpoint.tagsSchema)].mapM (converted []) = _
    rw [List.mapM_cons, hnote, List.mapM_cons, htagged, List.mapM_nil]
    rfl

end ApiTools.Property
