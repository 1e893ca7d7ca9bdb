import ApiTools.Proofs.Property.Descent
import ApiTools.Proofs.Property.Result
import ApiTools.Proofs.Schema.Mentions

set_option autoImplicit false

/-!
# Flattening and converting without a guard

The guard of a way through a schema is there for cycles only. The functions of this file do what
flattening and converting do, and remember nothing of the way: they follow every reference, so
they need not end by themselves. They are cut off at a depth, and what counts as their result is
what they give at every depth from some one on.

Where no cycle of references is ahead, both kinds of functions give the same properties, required
names and notes, and no schema on the way is cut (`result_eq_unguarded`). What carries this is
that every entry that was entered leads on to all that is still mentioned (`Schema.Leads`).
-/

namespace ApiTools.Property

open Schema Relation

/-! ## Depths -/

/-- What is cut off at a depth gives a result from some depth on. -/
def Gives {α : Type} (f : Nat → Option α) (a : α) : Prop :=
  ∃ depth, ∀ n, depth ≤ n → f n = some a

namespace Gives

variable {α β : Type} {f : Nat → Option α} {g : Nat → Option β} {a : α} {b : β}

/-- There is one result at most. -/
theorem unique {a' : α} (h : Gives f a) (h' : Gives f a') : a = a' := by
  obtain ⟨depth, h⟩ := h
  obtain ⟨depth', h'⟩ := h'
  have hhere : f (max depth depth') = some a := h _ (Nat.le_max_left _ _)
  have hthere : f (max depth depth') = some a' := h' _ (Nat.le_max_right _ _)
  exact Option.some.inj (hhere.symm.trans hthere)

/-- What gives a result at a depth once something else does at the depth below. -/
theorem step (h : Gives f a) (hg : ∀ n, f n = some a → g (n + 1) = some b) : Gives g b := by
  obtain ⟨depth, h⟩ := h
  refine ⟨depth + 1, fun n hn => ?_⟩
  obtain ⟨m, rfl⟩ := Nat.exists_eq_add_of_le' (Nat.le_trans (Nat.le_add_left 1 depth) hn)
  exact hg m (h m (Nat.le_of_succ_le_succ hn))

/-- What gives a result at every depth but the first one. -/
theorem succ (hg : ∀ n, g (n + 1) = some b) : Gives g b :=
  step (f := fun _ => some ()) ⟨0, fun _ _ => rfl⟩ fun n _ => hg n

/-- What gives a result at a depth once something else does at the same depth. -/
theorem map (h : Gives f a) (hg : ∀ n, f n = some a → g n = some b) : Gives g b := by
  obtain ⟨depth, h⟩ := h
  exact ⟨depth, fun n hn => hg n (h n hn)⟩

/-- A list gives results together if each of its elements gives one. -/
theorem cons {k : Nat → β → Option α} {x : β} {xs : List β} {more : List α}
    (hx : Gives (fun n => k n x) a) (hxs : Gives (fun n => xs.mapM (k n)) more) :
    Gives (fun n => (x :: xs).mapM (k n)) (a :: more) := by
  obtain ⟨depth, hx⟩ := hx
  obtain ⟨depth', hxs⟩ := hxs
  refine ⟨max depth depth', fun n hn => ?_⟩
  have hhere : k n x = some a := hx n (Nat.le_trans (Nat.le_max_left _ _) hn)
  have hmore : xs.mapM (k n) = some more := hxs n (Nat.le_trans (Nat.le_max_right _ _) hn)
  show (x :: xs).mapM (k n) = _
  rw [List.mapM_cons, hhere, hmore]
  rfl

end Gives

/-! ## The functions -/

namespace Unguarded

/-- Converts a schema. -/
def convertFrom (reg : Registry) : Nat → Schema → Option String → Option (Log.Noted Property)
  | 0, _, _ => none
  | depth + 1, s, description =>
    match s.target? reg with
    | none =>
      some (plainText (describe [descriptionOf s, description]), s.targetNotes reg ++
        [Log.warning ("Dangling reference " ++ s.ref?.getD "None" ++ "; treating as string")])
    | some t =>
      let composed := compose reg t
      let described := some (describe [descriptionOf s, description])
      if isArray composed then
        match composed.items with
        | .given i => do
          let (item, notes) ← convertFrom reg depth i none
          return (ofSchema composed described (some item), composeNotes reg t ++ notes)
        | _ => some (ofSchema composed described none, composeNotes reg t)
      else some (ofSchema composed described none, composeNotes reg t)

/-- Converts the schema of a parameter. -/
def convert (reg : Registry) (depth : Nat) (s : Option Schema) (description : Option String) :
    Option (Log.Noted Property) :=
  match s with
  | none => some (plainText (describe [description]), [])
  | some s => convertFrom reg depth s description

/-- The walk from a property of the body on. No entry counts as entered. -/
def walk (reg : Registry) : Nat → List String → Bool → Schema → Option (List Event)
  | 0, _, _, _ => none
  | depth + 1, path, required, s =>
    let place := ".".intercalate path
    let leaf (p : Property) : Event := .leaf ⟨path, [], required, p.withPlace path⟩
    match s.target? reg with
    | none =>
      some ((s.targetNotes reg).map Event.note ++
        [.note (Log.warning ("Dangling reference " ++ s.ref?.getD "None" ++ " at '" ++ place
            ++ "'; treating as string")),
          leaf (plainText (describe [descriptionOf s]))])
    | some t =>
      let composed := compose reg t
      let notes := (composeNotes reg t).map Event.note
      if isNested composed then do
        let inner ← (parts reg t).mapM fun p =>
          walk reg depth (path ++ [p.name]) (required && composed.requiredNames.contains p.name)
            p.schema
        return notes ++ inner.flatten
      else if isArray composed then
        match composed.items with
        | .given i => do
          let (item, itemNotes) ← convertFrom reg depth i none
          return notes ++ (itemNotes.map Event.note
            ++ [leaf (ofSchema composed (descriptionOf s) (some item))])
        | _ => some (notes ++ [leaf (ofSchema composed (descriptionOf s) none)])
      else some (notes ++ [leaf (ofSchema composed (descriptionOf s) none)])

/-- The walk through a whole body. -/
def walkBody (reg : Registry) (depth : Nat) (s : Schema) : Option (List Event) :=
  match s.target? reg with
  | none => some ((s.targetNotes reg).map Event.note)
  | some t => do
    let composed := compose reg t
    let inner ← (parts reg t).mapM fun p =>
      walk reg depth [p.name] (composed.requiredNames.contains p.name) p.schema
    return (composeNotes reg t).map Event.note ++ inner.flatten

/-- Flattens a body. -/
def flatten (reg : Registry) (depth : Nat) (s : Schema) : Option (Log.Noted Flat) := do
  let events ← walkBody reg depth s
  return (Flat.ofLeaves (leavesOf events), notesOf events)

end Unguarded

variable {reg : Registry}

/-! ## Converting -/

theorem followNotes_of_dangling {g : Guard} {s : Schema} (h : follow reg g s = .dangling) :
    followNotes reg g s = s.targetNotes reg := by
  unfold followNotes
  rw [h]

theorem followNotes_of_at {g g' : Guard} {s t : Schema} (h : follow reg g s = .at t g') :
    followNotes reg g s = composeNotes reg t := by
  unfold followNotes
  rw [h]

/-- Where no cycle is ahead, converting behind a guard is converting without one. -/
theorem convertFrom_of_leads (g : Guard) (s : Schema) (d : Option String)
    (h : Leads reg g.passed s) :
    ∃ r, convertFrom reg g s d = .ok r ∧
      Gives (fun depth => Unguarded.convertFrom reg depth s d) r := by
  -- by the recursion of the guarded function, which ends because its extent gets smaller
  rw [convertFrom_eq]
  rcases follow_of_leads h with ⟨ht, hf⟩ | ⟨t, g', ht, hf, hahead⟩
  · rw [hf, followNotes_of_dangling hf]
    refine ⟨_, rfl, .succ fun depth => ?_⟩
    rw [Unguarded.convertFrom, ht]
  · rw [hf, followNotes_of_at hf]
    dsimp only
    by_cases ha : isArray (compose reg t) = true
    · rw [if_pos ha]
      rcases itemStep_of_leads hahead with ⟨hi, hnone⟩ | ⟨i, g'', hi, hgiven, hitems⟩
      · -- an array without items
        rw [hi]
        refine ⟨_, rfl, .succ fun depth => ?_⟩
        rw [Unguarded.convertFrom, ht]
        dsimp only
        rw [if_pos ha]
        cases hc : (compose reg t).items with
        | given i => exact absurd hc (hnone i)
        | absent => rfl
        | null => rfl
      · obtain ⟨r, hr, hfree⟩ := convertFrom_of_leads g'' i none hitems
        rw [hi]
        dsimp only
        rw [hr]
        refine ⟨_, rfl, hfree.step fun depth hdepth => ?_⟩
        rw [Unguarded.convertFrom, ht]
        dsimp only
        rw [if_pos ha, hgiven]
        dsimp only
        rw [hdepth]
        rfl
    · rw [if_neg ha]
      refine ⟨_, rfl, .succ fun depth => ?_⟩
      rw [Unguarded.convertFrom, ht]
      dsimp only
      rw [if_neg ha]
termination_by extent reg g s
decreasing_by exact extent_follow hf (extent_items hi)

/-! ## Flattening -/

/-- An event that does not tell which entries were entered. -/
def Event.unentered : Event → Event
  | .note n => .note n
  | .leaf l => .leaf { l with entered := [] }

theorem unentered_notes (ns : List Log.Note) :
    (ns.map Event.note).map Event.unentered = ns.map Event.note := by
  rw [List.map_map]
  rfl

theorem notesOf_unentered (events : List Event) :
    notesOf (events.map Event.unentered) = notesOf events := by
  unfold notesOf
  rw [List.filterMap_map]
  refine List.filterMap_congr fun e _ => ?_
  cases e <;> rfl

/-- The flat properties do not tell which entries were entered. -/
theorem ofLeaves_unentered (events : List Event) :
    Flat.ofLeaves (leavesOf (events.map Event.unentered)) = Flat.ofLeaves (leavesOf events) := by
  have hl : leavesOf (events.map Event.unentered)
      = (leavesOf events).map fun l => { l with entered := [] } := by
    unfold leavesOf
    rw [List.filterMap_map, List.map_filterMap]
    refine List.filterMap_congr fun e _ => ?_
    cases e <;> rfl
  unfold Flat.ofLeaves
  rw [hl, List.map_map, List.filter_map, List.map_map]
  rfl

/-- What the walk does in one step. -/
theorem walk_eq (reg : Registry) (g : Guard) (path : List String) (required : Bool) (s : Schema) :
    walk reg g path required s =
      let leaf (entered : List String) (p : Property) : Event :=
        .leaf ⟨path, entered, required, p.withPlace path⟩
      let notes := (followNotes reg g s).map Event.note
      match follow reg g s with
      | .dangling =>
        .ok (notes ++
          [.note (Log.warning ("Dangling reference " ++ s.ref?.getD "None" ++ " at '"
              ++ ".".intercalate path ++ "'; treating as string")),
            leaf g.visited (plainText (describe [descriptionOf s]))])
      | .cycle =>
        .ok (notes ++
          [.note (Log.debug ("Cycle at '" ++ ".".intercalate path
              ++ "'; emitting an opaque object")),
            leaf g.visited (opaqueObject (describe [descriptionOf s]))])
      | .at t g' =>
        let property := ofSchema (compose reg t) (descriptionOf s)
        if isNested (compose reg t) then
          eventsAfter notes <| collect (parts reg t) fun p _ =>
            walk reg (p.guard g') (path ++ [p.name])
              (required && (compose reg t).requiredNames.contains p.name) p.schema
        else if isArray (compose reg t) then
          match itemStep reg g' t with
          | .none => .ok (notes ++ [leaf g'.visited (property none)])
          | .unending => .error ⟨followNotes reg g s⟩
          | .into i g'' => eventsAfter notes do
            let (item, itemNotes) ← convertFrom reg g'' i none
            return itemNotes.map Event.note ++ [leaf g'.visited (property (some item))]
        else .ok (notes ++ [leaf g'.visited (property none)]) := by
  rw [walk]
  dsimp only
  split
  · next hf => rw [hf]
  · next hf => rw [hf]
  · next t g' hf =>
    rewrite [hf]
    rfl

/-- What the elements of a list give one after the other, if each of them gives the same with and
without a guard. -/
theorem collect_of_forall {α : Type} (xs : List α)
    (f : (x : α) → x ∈ xs → Except Unending (List Event)) (k : Nat → α → Option (List Event))
    (h : ∀ x (hx : x ∈ xs), ∃ events, f x hx = .ok events ∧
      Gives (fun depth => k depth x) (events.map Event.unentered)) :
    ∃ events inner, collect xs f = .ok events ∧ Gives (fun depth => xs.mapM (k depth)) inner ∧
      inner.flatten = events.map Event.unentered := by
  induction xs with
  | nil => exact ⟨[], [], rfl, ⟨0, fun _ _ => rfl⟩, rfl⟩
  | cons x xs ih =>
      obtain ⟨here, hf, hk⟩ := h x List.mem_cons_self
      obtain ⟨more, inner, hmore, hinner, hflat⟩ := ih (fun y hy => f y (List.mem_cons_of_mem x hy))
        fun y hy => h y (List.mem_cons_of_mem x hy)
      refine ⟨here ++ more, here.map Event.unentered :: inner, ?_, hk.cons hinner, ?_⟩
      · rw [collect, hf]
        show eventsAfter here _ = _
        rw [hmore]
        rfl
      · rw [List.flatten_cons, hflat, List.map_append]

/-- Where no cycle is ahead, the walk behind a guard is the walk without one. -/
theorem walk_of_leads (g : Guard) (path : List String) (required : Bool) (s : Schema)
    (h : Leads reg g.passed s) :
    ∃ events, walk reg g path required s = .ok events ∧
      Gives (fun depth => Unguarded.walk reg depth path required s)
        (events.map Event.unentered) := by
  rw [walk_eq]
  dsimp only
  rcases follow_of_leads h with ⟨ht, hf⟩ | ⟨t, g', ht, hf, hahead⟩
  · rw [hf, followNotes_of_dangling hf]
    refine ⟨_, rfl, .succ fun depth => ?_⟩
    rw [Unguarded.walk, ht, List.map_append, unentered_notes]
    rfl
  · rw [hf, followNotes_of_at hf]
    dsimp only
    have hleaf : ∀ (ns : List Log.Note) (p : Property),
        (ns.map Event.note ++ [Event.leaf ⟨path, g'.visited, required, p⟩]).map Event.unentered
          = ns.map Event.note ++ [Event.leaf ⟨path, [], required, p⟩] := by
      intro ns p
      rw [List.map_append, unentered_notes]
      rfl
    by_cases hn : isNested (compose reg t) = true
    · -- each part goes on with a guard of its own, and none of them has a cycle ahead
      rw [if_pos hn]
      obtain ⟨events, inner, hc, hm, hflat⟩ := collect_of_forall (parts reg t)
        (fun p _ => walk reg (p.guard g') (path ++ [p.name])
          (required && (compose reg t).requiredNames.contains p.name) p.schema)
        (fun depth p => Unguarded.walk reg depth (path ++ [p.name])
          (required && (compose reg t).requiredNames.contains p.name) p.schema)
        fun p hp => walk_of_leads (p.guard g') _ _ p.schema (leads_of_mem_parts hahead hp)
      rw [hc]
      refine ⟨_, rfl, hm.step fun depth hdepth => ?_⟩
      rw [Unguarded.walk, ht]
      dsimp only
      rw [if_pos hn, hdepth, List.map_append, unentered_notes, ← hflat]
      rfl
    · rw [if_neg hn]
      by_cases ha : isArray (compose reg t) = true
      · rw [if_pos ha]
        rcases itemStep_of_leads hahead with ⟨hi, hnone⟩ | ⟨i, g'', hi, hgiven, hitems⟩
        · rw [hi]
          refine ⟨_, rfl, .succ fun depth => ?_⟩
          rw [Unguarded.walk, ht]
          dsimp only
          rw [if_neg hn, if_pos ha, hleaf]
          cases hc : (compose reg t).items with
          | given i => exact absurd hc (hnone i)
          | absent => rfl
          | null => rfl
        · obtain ⟨⟨item, notes⟩, hr, hfree⟩ := convertFrom_of_leads g'' i none hitems
          rw [hi]
          dsimp only
          rw [hr]
          refine ⟨_, rfl, hfree.step fun depth hdepth => ?_⟩
          rw [Unguarded.walk, ht]
          dsimp only
          rw [if_neg hn, if_pos ha, hgiven]
          dsimp only
          rw [hdepth, List.map_append, unentered_notes, hleaf]
          rfl
      · rw [if_neg ha]
        refine ⟨_, rfl, .succ fun depth => ?_⟩
        rw [Unguarded.walk, ht]
        dsimp only
        rw [if_neg hn, if_neg ha, hleaf]
termination_by extent reg g s
decreasing_by exact extent_follow hf (extent_part hp (follow_names hf))

theorem walkBody_of_leads {s : Schema} (h : Leads reg [] s) :
    ∃ events, walkBody reg s = .ok events ∧
      Gives (fun depth => Unguarded.walkBody reg depth s) (events.map Event.unentered) := by
  unfold walkBody Unguarded.walkBody
  dsimp only
  rcases follow_of_leads (g := {}) h with ⟨ht, hf⟩ | ⟨t, g, ht, hf, hahead⟩
  · rw [hf, ht, followNotes_of_dangling hf]
    exact ⟨_, rfl, 0, fun _ _ => by rw [unentered_notes]⟩
  · rw [hf, ht, followNotes_of_at hf]
    dsimp only
    obtain ⟨events, inner, hc, hm, hflat⟩ := collect_of_forall (parts reg t)
      (fun p _ => walk reg (p.guard g) [p.name]
        ((compose reg t).requiredNames.contains p.name) p.schema)
      (fun depth p => Unguarded.walk reg depth [p.name]
        ((compose reg t).requiredNames.contains p.name) p.schema)
      fun p hp => walk_of_leads (p.guard g) _ _ p.schema (leads_of_mem_parts hahead hp)
    rw [hc]
    refine ⟨_, rfl, hm.map fun depth hdepth => ?_⟩
    rw [hdepth, List.map_append, unentered_notes, ← hflat]
    rfl

theorem flatten_of_leads {s : Schema} (h : Leads reg [] s) :
    ∃ r, flatten reg s = .ok r ∧ Gives (fun depth => Unguarded.flatten reg depth s) r := by
  obtain ⟨events, hw, hfree⟩ := walkBody_of_leads h
  unfold flatten
  rw [hw]
  refine ⟨_, rfl, hfree.map fun depth hdepth => ?_⟩
  unfold Unguarded.flatten
  rw [hdepth]
  show some (Flat.ofLeaves (leavesOf (events.map Event.unentered)),
    notesOf (events.map Event.unentered)) = _
  rw [ofLeaves_unentered, notesOf_unentered]

/-! ## No visit is cut -/

/-- The guard of a visit. -/
def Visit.guard (v : Visit) : Guard := { visited := v.entered }

theorem leads_of_visited {g : Guard} {s : Schema} (h : Leads reg g.passed s) :
    Leads reg (Guard.passed { visited := g.visited }) s := by
  refine h.mono fun p hp => ?_
  rw [Guard.passed, List.append_nil] at hp
  exact List.mem_append_left _ hp

theorem Visit.leads_place {v : Visit} {t : Schema} {g : Guard}
    (h : Leads reg v.guard.passed v.schema) (hv : v.place reg = .at t g) :
    Leads reg g.passed t := by
  rcases follow_of_leads h with ⟨-, hf⟩ | ⟨u, g', -, hf, hahead⟩
  · rw [Visit.place, show follow reg { visited := v.entered } v.schema = .dangling from hf] at hv
    cases hv
  · rw [Visit.place, show follow reg { visited := v.entered } v.schema = .at u g' from hf] at hv
    injection hv with hu hg
    rw [← hu, ← hg]
    exact hahead

/-- A step goes on without a cycle ahead. -/
theorem Inside.leads {v w : Visit} (hvw : Inside reg v w)
    (h : Leads reg v.guard.passed v.schema) : Leads reg w.guard.passed w.schema := by
  rcases hvw with ⟨p, r, hp⟩ | hi
  · obtain ⟨hv, -, hp⟩ := hp
    exact leads_of_visited (leads_of_mem_parts (Visit.leads_place h hv) hp)
  · obtain ⟨hv, -, hi⟩ := hi
    exact leads_of_visited (leads_of_items (Visit.leads_place h hv) hi)

/-- On a way without a cycle ahead no schema closes a cycle. -/
theorem place_ne_cycle_of_leads {v w : Visit} (h : Leads reg v.guard.passed v.schema)
    (hvw : ReflTransGen (Inside reg) v w) : w.place reg ≠ .cycle := by
  -- each step of the way keeps it
  have hw : Leads reg w.guard.passed w.schema := by
    induction hvw with
    | refl => exact h
    | tail _ hstep ih => exact hstep.leads ih
  intro hc
  have hc : follow reg w.guard w.schema = .cycle := hc
  rcases follow_of_leads hw with ⟨-, hf⟩ | ⟨t, g, -, hf, -⟩
  · rw [hf] at hc
    cases hc
  · rw [hf] at hc
    cases hc

/-- **Where no cycle of references can be reached, the guard cuts nothing**: flattening and
converting give what they give without a guard, notes included, and no schema on the way through
a body or a value closes a cycle. -/
theorem result_eq_unguarded {reg : Registry} {s : Schema} (h : IsAcyclic reg s)
    (d : Option String) :
    (∃ r, flatten reg s = .ok r ∧ Gives (fun depth => Unguarded.flatten reg depth s) r) ∧
      (∃ r, convert reg (some s) d = .ok r ∧
        Gives (fun depth => Unguarded.convert reg depth (some s) d) r) ∧
      ∀ m v, ReflTransGen (Inside reg) ⟨m, [], s⟩ v → v.place reg ≠ .cycle := by
  have hstart : Leads reg [] s := .start h
  refine ⟨flatten_of_leads hstart, ?_, fun m v hv => ?_⟩
  · exact convertFrom_of_leads {} s d hstart
  · exact place_ne_cycle_of_leads (v := ⟨m, [], s⟩) hstart hv

/-! ### A shared entry -/

/-- The reference to an entry. -/
def referenceTo (name : String) : Schema :=
  .plain { ref := .given ("#/components/schemas/" ++ name) }

/-- An object with the given properties. -/
def objectWith (properties : List (String × Schema)) : Schema :=
  .mk { type := .given (.one "object") } (.given properties) .absent .absent .absent .absent
    .absent

/-- A schema that is composed of all the given ones. -/
def composedOf (ss : List Schema) : Schema :=
  .mk {} .absent .absent (.given ss) .absent .absent .absent

/-- Orders are entities and are created by a user, who is an entity too. -/
def orders : Registry :=
  let text : Schema := .plain { type := .given (.one "string") }
  [("Entity", objectWith [("id", text)]),
    ("User", composedOf [referenceTo "Entity", objectWith [("email", text)]]),
    ("Order", composedOf [referenceTo "Entity", objectWith [("createdBy", referenceTo "User")]])]

theorem mentions_plain (f : Facets) (n : String) :
    Mentions (.plain f) n ↔ f.ref.get?.bind Reference.name? = some n := by
  rw [mentions_iff]
  simp [plain, propertyList, properties, Schema.items, allOf, anyOf, oneOf, members, Facet.get?,
    ref?, facets]

theorem mentions_objectWith (ps : List (String × Schema)) (n : String) :
    Mentions (objectWith ps) n ↔ ∃ e ∈ ps, Mentions e.2 n := by
  rw [mentions_iff]
  simp [objectWith, propertyList, properties, Schema.items, allOf, anyOf, oneOf, members,
    Facet.get?, ref?, facets]

theorem mentions_composedOf (ss : List Schema) (n : String) :
    Mentions (composedOf ss) n ↔ ∃ m ∈ ss, Mentions m n := by
  rw [mentions_iff]
  simp [composedOf, propertyList, properties, Schema.items, allOf, anyOf, oneOf, members,
    Facet.get?, ref?, facets]

theorem mentions_referenceTo (name : String)
    (h : Reference.name? ("#/components/schemas/" ++ name) = some name) (n : String) :
    Mentions (referenceTo name) n ↔ n = name := by
  rw [referenceTo, mentions_plain]
  show Reference.name? _ = some n ↔ n = name
  rw [h, Option.some_inj]
  exact eq_comm

theorem isAcyclic_orders (s : Schema) : IsAcyclic orders s := by
  refine isAcyclic_of_rank (fun n => if n = "Entity" then 0 else if n = "User" then 1 else 2) ?_ s
  have hentity := mentions_referenceTo "Entity" rfl
  have huser := mentions_referenceTo "User" rfl
  simp [orders, mentions_composedOf, mentions_objectWith, mentions_plain, Facet.get?, hentity,
    huser]

/-- An order and the user who created it share the entry for entities, which is no cycle. -/
theorem orders_result_eq_unguarded :
    IsAcyclic orders (referenceTo "Order") ∧
      (∃ r, flatten orders (referenceTo "Order") = .ok r ∧
        Gives (fun depth => Unguarded.flatten orders depth (referenceTo "Order")) r) ∧
      (∃ r, convert orders (some (referenceTo "Order")) none = .ok r ∧
        Gives (fun depth => Unguarded.convert orders depth (some (referenceTo "Order")) none) r) ∧
      ∀ m v, ReflTransGen (Inside orders) ⟨m, [], referenceTo "Order"⟩ v →
        v.place orders ≠ .cycle :=
  ⟨isAcyclic_orders _, result_eq_unguarded (isAcyclic_orders _) none⟩

end ApiTools.Property
