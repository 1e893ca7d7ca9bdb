import ApiTools.Proofs.Property.Core
import ApiTools.Proofs.Property.Descent
import Mathlib.Data.List.Nodup

set_option autoImplicit false

/-!
# The leaves of a body

A leaf has a position: the names of the properties on the way from the body to it. Positions are
described here by the visits alone (`LeafAt`), without the walk that collects the leaves; the walk
then lists every position once, in its order, and marks those that are required at every step.
-/

namespace ApiTools.Property

open Schema

/-! ## Positions -/

/-- A leaf below a visit: the names of the properties on the way to it, and whether every object on
the way requires the next property. -/
inductive LeafAt (reg : Registry) : Visit → List String → Bool → Prop
  | here {v : Visit} (hm : v.mode = .inside)
      (hn : ∀ t g, v.place reg = .at t g → isNested (compose reg t) = false) : LeafAt reg v [] true
  | within {v w : Visit} {p : Part} {r r' : Bool} {path : List String}
      (hp : HoldsProperty reg v p r w) (hw : LeafAt reg w path r') :
      LeafAt reg v (p.name :: path) (r && r')

/-- The positions of the leaves of a body. -/
def leafPositions (reg : Registry) (s : Schema) : Set (List String) :=
  {path | ∃ r, LeafAt reg ⟨.body, [], s⟩ path r}

/-- The positions of the leaves of a body that are required. -/
def requiredPositions (reg : Registry) (s : Schema) : Set (List String) :=
  {path | LeafAt reg ⟨.body, [], s⟩ path true}

theorem requiredPositions_subset (reg : Registry) (s : Schema) :
    requiredPositions reg s ⊆ leafPositions reg s := fun _ h => ⟨true, h⟩

/-- A leaf of a body lies in one of its properties. -/
theorem ne_nil_of_mem_leafPositions {reg : Registry} {s : Schema} {path : List String}
    (h : path ∈ leafPositions reg s) : path ≠ [] := by
  obtain ⟨r, h⟩ := h
  cases h with
  | here hm => cases hm
  | within hp hw => simp

/-- An object that is taken apart has the leaves of its properties. -/
theorem leafAt_iff_of_opens {reg : Registry} {v : Visit} {t : Schema} {g : Guard}
    (hv : v.place reg = .at t g) (ho : v.Opens (compose reg t)) (path : List String) (r : Bool) :
    LeafAt reg v path r ↔ ∃ p ∈ parts reg t, ∃ q r',
      LeafAt reg ⟨.inside, (p.guard g).visited, p.schema⟩ q r' ∧ path = p.name :: q ∧
        r = ((compose reg t).requiredNames.contains p.name && r') := by
  constructor
  · intro h
    cases h with
    | here hm hn =>
        rcases ho with ho | ⟨-, ho⟩
        · rw [hm] at ho; cases ho
        · rw [hn t g hv] at ho; cases ho
    | within hp hw =>
        obtain ⟨hv', -, hp⟩ := hp
        rw [hv] at hv'
        injection hv' with ht hg
        subst ht hg
        exact ⟨_, hp, _, _, hw, rfl, rfl⟩
  · rintro ⟨p, hp, q, r', hw, rfl, rfl⟩
    exact .within (.intro hv ho hp) hw

/-- A value that is not taken apart is the only leaf below itself. -/
theorem leafAt_iff_of_not_nested {reg : Registry} {v : Visit} (hm : v.mode = .inside)
    (hn : ∀ t g, v.place reg = .at t g → isNested (compose reg t) = false)
    (path : List String) (r : Bool) : LeafAt reg v path r ↔ path = [] ∧ r = true := by
  constructor
  · intro h
    cases h with
    | here => exact ⟨rfl, rfl⟩
    | within hp hw =>
        obtain @⟨t, g, p, hv, ho, -⟩ := hp
        rcases ho with ho | ⟨-, ho⟩
        · rw [hm] at ho; cases ho
        · rw [hn t g hv] at ho; cases ho
  · rintro ⟨rfl, rfl⟩
    exact .here hm hn

/-! ## Listing positions -/

/-- What a leaf says about its position. -/
def Leaf.mark (l : Leaf) : List String × Bool := (l.path, l.required)

/-- The leaves are those below a visit, each once, behind the given path. -/
structure Lists (reg : Registry) (v : Visit) (path : List String) (required : Bool)
    (leaves : List Leaf) : Prop where
  nodup : (leaves.map Leaf.path).Nodup
  mem_iff : ∀ q r, (q, r) ∈ leaves.map Leaf.mark ↔
    ∃ q' r', LeafAt reg v q' r' ∧ q = path ++ q' ∧ r = (required && r')

theorem Lists.path_of_mem {reg : Registry} {v : Visit} {path : List String} {required : Bool}
    {leaves : List Leaf} (h : Lists reg v path required leaves) {l : Leaf} (hl : l ∈ leaves) :
    ∃ q, l.path = path ++ q := by
  have hm : (l.path, l.required) ∈ leaves.map Leaf.mark := List.mem_map.2 ⟨l, hl, rfl⟩
  obtain ⟨q, r, -, hq, -⟩ := (h.mem_iff _ _).1 hm
  exact ⟨q, hq⟩

/-- A value that is not taken apart lists itself. -/
theorem Lists.single {reg : Registry} {v : Visit} (hm : v.mode = .inside)
    (hn : ∀ t g, v.place reg = .at t g → isNested (compose reg t) = false)
    (path entered : List String) (required : Bool) (p : Property) :
    Lists reg v path required [⟨path, entered, required, p⟩] where
  nodup := by simp
  mem_iff q r := by
    have hmark : (q, r) ∈ [(⟨path, entered, required, p⟩ : Leaf)].map Leaf.mark ↔
        q = path ∧ r = required := by simp [Leaf.mark]
    rw [hmark]
    constructor
    · rintro ⟨rfl, rfl⟩
      exact ⟨[], true, .here hm hn, by simp, by simp⟩
    · rintro ⟨q', r', hl, rfl, rfl⟩
      obtain ⟨rfl, rfl⟩ := (leafAt_iff_of_not_nested hm hn q' r').1 hl
      simp

/-- What the properties of an object list one after the other is what the object lists. -/
theorem Lists.parts {reg : Registry} {v : Visit} {t : Schema} {g : Guard} {path : List String}
    {required : Bool} {leaves : Part → List Leaf} (hv : v.place reg = .at t g)
    (ho : v.Opens (compose reg t))
    (h : ∀ p ∈ parts reg t, Lists reg ⟨.inside, (p.guard g).visited, p.schema⟩ (path ++ [p.name])
      (required && (compose reg t).requiredNames.contains p.name) (leaves p)) :
    Lists reg v path required ((parts reg t).flatMap leaves) where
  nodup := by
    rw [List.map_flatMap, List.nodup_flatMap]
    refine ⟨fun p hp => (h p hp).nodup, ?_⟩
    -- two properties have different names, which come right behind the given path
    have hnames : (Schema.parts reg t).Pairwise fun p q => p.name ≠ q.name :=
      List.pairwise_map.1 (nodup_parts reg t)
    refine hnames.imp_of_mem fun {p q} hp hq hne => ?_
    intro a ha hb
    obtain ⟨l, hl, rfl⟩ := List.mem_map.1 ha
    obtain ⟨m, hm, hlm⟩ := List.mem_map.1 hb
    obtain ⟨x, hx⟩ := (h p hp).path_of_mem hl
    obtain ⟨y, hy⟩ := (h q hq).path_of_mem hm
    rw [hx, hy, List.append_assoc, List.append_assoc] at hlm
    have hxy := List.append_cancel_left hlm
    injection hxy with hqp
    exact hne hqp.symm
  mem_iff q r := by
    rw [List.map_flatMap, List.mem_flatMap]
    constructor
    · rintro ⟨p, hp, hm⟩
      obtain ⟨q', r', hl, rfl, rfl⟩ := ((h p hp).mem_iff q r).1 hm
      have hv' := (leafAt_iff_of_opens hv ho _ _).2 ⟨p, hp, q', r', hl, rfl, rfl⟩
      refine ⟨p.name :: q', _, hv', ?_, ?_⟩
      · rw [List.append_assoc]; rfl
      · exact Bool.and_assoc _ _ _
    · rintro ⟨q', r', hl, rfl, rfl⟩
      obtain ⟨p, hp, q'', r'', hl', rfl, rfl⟩ := (leafAt_iff_of_opens hv ho _ _).1 hl
      refine ⟨p, hp, ((h p hp).mem_iff _ _).2 ⟨q'', r'', hl', ?_, ?_⟩⟩
      · rw [List.append_assoc]; rfl
      · exact (Bool.and_assoc _ _ _).symm

/-! ## Descriptions -/

/-- A text that is not empty, if there is one. -/
def worded? (d : Option String) : Option String :=
  d.bind fun s => if s.isEmpty then none else some s

theorem describe_pair (a d : Option String) :
    describe [a, d] = ((worded? a).or (worded? d)).getD defaultDescription := by
  show ([a, d].findSome? worded?).getD defaultDescription = _
  cases ha : worded? a with
  | some s => simp [ha]
  | none => cases hd : worded? d <;> simp [ha, hd]

theorem describe_single (d : Option String) :
    describe [d] = (worded? d).getD defaultDescription := by
  show ([d].findSome? worded?).getD defaultDescription = _
  cases hd : worded? d <;> simp [hd]

theorem describe_none (d : Option String) : describe [d, none] = describe [d] := by
  rw [describe_pair, describe_single]
  exact congrArg (Option.getD · defaultDescription) Option.or_none

/-- Describing twice is describing once. -/
theorem describe_describe (a d : Option String) :
    describe [a, some (describe [d, none])] = describe [a, d] := by
  have hd : worded? (some (describe [d])) = some (describe [d]) := by
    rw [describe_single]
    cases d with
    | none => decide
    | some s =>
        by_cases hs : s.isEmpty = true
        · have : worded? (some s) = none := if_pos hs
          rw [this]
          decide
        · have : worded? (some s) = some s := if_neg hs
          rw [this]
          exact this
  rw [describe_none, describe_pair, describe_pair, hd, describe_single]
  cases worded? a with
  | some s => rfl
  | none => cases worded? d <;> rfl

theorem ofSchema_described (s : Schema) (d : Option String) (items : Option Property) :
    ofSchema s (some (describe [d, none])) items = ofSchema s d items := by
  have ht : traitsOf s (some (describe [d, none])) = traitsOf s d := by
    unfold traitsOf
    rw [describe_describe]
  unfold ofSchema
  rw [ht]

/-! ## The walk lists the leaves -/

theorem leavesOf_flatMap {α : Type} (xs : List α) (f : α → List Event) :
    leavesOf (xs.flatMap f) = xs.flatMap fun x => leavesOf (f x) := List.filterMap_flatMap

theorem leavesOf_of_eventsAfter {ns : List Log.Note} {r : Except Unending (List Event)}
    {events : List Event} (h : eventsAfter (ns.map Event.note) r = .ok events) :
    ∃ inner, r = .ok inner ∧ leavesOf events = leavesOf inner := by
  cases r with
  | error u => cases h
  | ok inner =>
      injection h with h
      refine ⟨inner, rfl, ?_⟩
      rw [← h, leavesOf_append, leavesOf_notes]
      rfl

/-- The leaves behind a part of a collapsed object. -/
def leavesBehind (reg : Registry) (g : Guard) (path : List String) (required : Bool) (s : Schema)
    (p : Part) : List Leaf :=
  leavesOf (eventsIn (walkPart reg g path required s p))

/-- The value is not taken apart behind the guard. -/
def IsWhole (reg : Registry) (g : Guard) (s : Schema) : Prop :=
  ∀ t g', follow reg g s = .at t g' → isNested (compose reg t) = false

/-- The entries that were entered once a schema was followed behind a guard. -/
def enteredBehind (reg : Registry) (g : Guard) (s : Schema) : List String :=
  match follow reg g s with
  | .at _ g' => g'.visited
  | _ => g.visited

/-- The walk gives one leaf for a value that is taken whole, and converts it. -/
theorem leavesFound_walk_of_isWhole {reg : Registry} {g : Guard} {s : Schema}
    (h : IsWhole reg g s) (path : List String) (required : Bool) :
    leavesFound (walk reg g path required s) = (outcome (convertFrom reg g s none)).map fun p =>
      [leafAt path (enteredBehind reg g s) required p] := by
  rw [leavesFound_walk, convertFrom_eq]
  unfold enteredBehind
  cases hf : follow reg g s with
  | dangling => rw [describe_none]; rfl
  | cycle => rw [describe_none]; rfl
  | «at» t g' =>
      dsimp only
      rw [if_neg (by simp [h t g' hf])]
      -- the description is chosen in one step by the walk and in two by the conversion
      simp only [ofSchema_described]
      by_cases ha : isArray (compose reg t) = true
      · rw [if_pos ha, if_pos ha]
        cases itemStep reg g' t with
        | none => rfl
        | unending => rfl
        | into i g'' =>
            dsimp only
            rw [outcome_items _ _ fun item =>
              ofSchema (compose reg t) (descriptionOf s) (some item), Option.map_map]
            rfl
      · rw [if_neg ha, if_neg ha]
        rfl

/-- A value that is taken whole gives one leaf, which is converted like the schema of a
parameter. -/
theorem walk_leaf_ok {reg : Registry} {g : Guard} {path : List String} {required : Bool}
    {s : Schema} {events : List Event} (h : walk reg g path required s = .ok events)
    (hs : IsWhole reg g s) :
    ∃ entered p notes, convertFrom reg g s none = .ok (p, notes) ∧
      leavesOf events = [⟨path, entered, required, p.withPlace path⟩] := by
  have hfound := leavesFound_walk_of_isWhole hs path required
  rw [h] at hfound
  cases hc : convertFrom reg g s none with
  | error u =>
      rw [hc] at hfound
      cases hfound
  | ok r =>
      obtain ⟨p, notes⟩ := r
      rw [hc] at hfound
      injection hfound with hfound
      exact ⟨_, p, notes, rfl, hfound⟩

/-- An object with properties gives the leaves of its properties. -/
theorem walk_nested_ok {reg : Registry} {g g' : Guard} {path : List String} {required : Bool}
    {s t : Schema} {events : List Event} (h : walk reg g path required s = .ok events)
    (hf : follow reg g s = .at t g') (hn : isNested (compose reg t) = true) :
    (∀ p ∈ parts reg t, walkPart reg g' path required (compose reg t) p
        = .ok (eventsIn (walkPart reg g' path required (compose reg t) p))) ∧
      leavesOf events
        = (parts reg t).flatMap (leavesBehind reg g' path required (compose reg t)) := by
  rw [walk] at h
  dsimp only at h
  split at h
  · next hd => rw [hf] at hd; cases hd
  · next hc => rw [hf] at hc; cases hc
  · next u k hu =>
    rw [hf] at hu
    injection hu with hut hgk
    subst hut hgk
    rw [if_pos hn] at h
    obtain ⟨inner, hc, hl⟩ := leavesOf_of_eventsAfter h
    obtain ⟨hall, rfl⟩ := collect_eq_ok (f := walkPart reg g' path required (compose reg t)) hc
    refine ⟨hall, ?_⟩
    rw [hl, leavesOf_flatMap]
    rfl

/-- What a walk finds: a leaf, or an object whose properties are walked through. -/
theorem walk_ok_cases {reg : Registry} {g : Guard} {path : List String} {required : Bool}
    {s : Schema} {events : List Event} (h : walk reg g path required s = .ok events) :
    (∃ entered p notes, convertFrom reg g s none = .ok (p, notes) ∧
        leavesOf events = [⟨path, entered, required, p.withPlace path⟩] ∧
        ∀ t g', follow reg g s = .at t g' → isNested (compose reg t) = false) ∨
      ∃ t g', follow reg g s = .at t g' ∧ isNested (compose reg t) = true ∧
        (∀ p ∈ parts reg t, walkPart reg g' path required (compose reg t) p
          = .ok (eventsIn (walkPart reg g' path required (compose reg t) p))) ∧
        leavesOf events
          = (parts reg t).flatMap (leavesBehind reg g' path required (compose reg t)) := by
  by_cases hn : ∃ t g', follow reg g s = .at t g' ∧ isNested (compose reg t) = true
  · obtain ⟨t, g', hf, hn⟩ := hn
    exact .inr ⟨t, g', hf, hn, walk_nested_ok h hf hn⟩
  · have hn : ∀ t g', follow reg g s = .at t g' → isNested (compose reg t) = false := by
      intro t g' hf
      by_contra hc
      exact hn ⟨t, g', hf, by simpa using hc⟩
    obtain ⟨entered, p, notes, hc, hl⟩ := walk_leaf_ok h hn
    exact .inl ⟨entered, p, notes, hc, hl, hn⟩

theorem walk_lists {reg : Registry} (g : Guard) (path : List String) (required : Bool)
    (s : Schema) {events : List Event} (h : walk reg g path required s = .ok events) :
    Lists reg ⟨.inside, g.visited, s⟩ path required (leavesOf events) := by
  rcases walk_ok_cases h with ⟨entered, p, -, -, hl, hn⟩ | ⟨t, g', hf, hn, hall, hl⟩
  · rw [hl]
    refine Lists.single rfl (fun t k hv => ?_) _ _ _ _
    obtain ⟨g', hf, -⟩ := Visit.follow_at hv
    exact hn t g' hf
  · rw [hl]
    obtain ⟨k, hk, he⟩ := Visit.place_at (m := .inside) hf
    refine Lists.parts hk (.inr ⟨rfl, hn⟩) fun p hp => ?_
    -- the walk goes on behind the same entries, whatever variants it remembers
    rw [Part.visited_guard he]
    exact walk_lists (p.guard g') _ _ p.schema (hall p hp)
termination_by extent reg g s
decreasing_by exact extent_follow hf (extent_part hp (follow_names hf))

/-- What the walk through a body finds: the body leads nowhere, or its properties are walked
through. -/
theorem walkBody_ok_cases {reg : Registry} {s : Schema} {events : List Event}
    (h : walkBody reg s = .ok events) :
    (leavesOf events = [] ∧ ∀ t g, follow reg {} s ≠ .at t g) ∨
      ∃ t g, follow reg {} s = .at t g ∧
        (∀ p ∈ parts reg t, walkPart reg g [] true (compose reg t) p
          = .ok (eventsIn (walkPart reg g [] true (compose reg t) p))) ∧
        leavesOf events = (parts reg t).flatMap (leavesBehind reg g [] true (compose reg t)) := by
  unfold walkBody at h
  dsimp only at h
  cases hf : follow reg {} s with
  | dangling =>
      rw [hf] at h
      injection h with h
      exact .inl ⟨by rw [← h, leavesOf_notes], by simp⟩
  | cycle =>
      rw [hf] at h
      injection h with h
      exact .inl ⟨by rw [← h, leavesOf_notes], by simp⟩
  | «at» t g =>
      rw [hf] at h
      dsimp only at h
      obtain ⟨inner, hc, hl⟩ := leavesOf_of_eventsAfter h
      obtain ⟨hall, rfl⟩ := collect_eq_ok (f := walkPart reg g [] true (compose reg t)) hc
      refine .inr ⟨t, g, rfl, hall, ?_⟩
      rw [hl, leavesOf_flatMap]
      rfl

theorem walkBody_lists {reg : Registry} {s : Schema} {events : List Event}
    (h : walkBody reg s = .ok events) : Lists reg ⟨.body, [], s⟩ [] true (leavesOf events) := by
  rcases walkBody_ok_cases h with ⟨hl, hf⟩ | ⟨t, g, hf, hall, hl⟩
  · rw [hl]
    refine ⟨List.nodup_nil, fun q r => ⟨fun hm => absurd hm (by simp), ?_⟩⟩
    rintro ⟨q', r', hq, -⟩
    cases hq with
    | here hm => cases hm
    | within hp =>
        obtain ⟨hv, -, -⟩ := hp
        exact absurd hv (hf _ _)
  · rw [hl]
    exact Lists.parts hf (.inl rfl) fun p hp => walk_lists (p.guard g) _ _ p.schema (hall p hp)

theorem flatten_eq_ok {reg : Registry} {s : Schema} {flat : Flat} {notes : List Log.Note}
    (h : flatten reg s = .ok (flat, notes)) :
    ∃ events, walkBody reg s = .ok events ∧ flat = Flat.ofLeaves (leavesOf events) := by
  unfold flatten at h
  cases hw : walkBody reg s with
  | error u => rw [hw] at h; cases h
  | ok events =>
      rw [hw] at h
      injection h with h
      injection h with h
      exact ⟨events, rfl, h.symm⟩

/-- **Flattening lists the leaves of the body**, each of its positions once. -/
theorem flatten_lists {reg : Registry} {s : Schema} {flat : Flat} {notes : List Log.Note}
    (h : flatten reg s = .ok (flat, notes)) :
    ∃ leaves, flat = Flat.ofLeaves leaves ∧ Lists reg ⟨.body, [], s⟩ [] true leaves := by
  obtain ⟨events, hw, rfl⟩ := flatten_eq_ok h
  exact ⟨leavesOf events, rfl, walkBody_lists hw⟩

/-! ## What a leaf holds -/

/-- The property of a leaf is the one of a schema that is converted like that of a parameter, put
in its place. -/
def Leaf.Converted (reg : Registry) (l : Leaf) : Prop :=
  ∃ g s p notes, convertFrom reg g s none = .ok (p, notes) ∧ l.property = p.withPlace l.path

/-- The same for a leaf whose schema is of a kind. -/
def Leaf.ConvertedFrom (reg : Registry) (Q : Schema → Prop) (l : Leaf) : Prop :=
  ∃ g s p notes, Q s ∧ convertFrom reg g s none = .ok (p, notes) ∧
    l.property = p.withPlace l.path

theorem walk_convertedFrom {reg : Registry} {Q : Schema → Prop} (hq : IsKept reg Q) (g : Guard)
    (path : List String) (required : Bool) {s : Schema} (hs : Q s) {events : List Event}
    (h : walk reg g path required s = .ok events) :
    ∀ l ∈ leavesOf events, l.ConvertedFrom reg Q := by
  intro l hm
  rcases walk_ok_cases h with ⟨entered, p, notes, hc, hl, -⟩ | ⟨t, g', hf, -, hall, hl⟩
  · rw [hl, List.mem_singleton] at hm
    subst hm
    exact ⟨g, s, p, notes, hs, hc, rfl⟩
  · rw [hl] at hm
    obtain ⟨p, hp, hm⟩ := List.mem_flatMap.1 hm
    exact walk_convertedFrom hq (p.guard g') _ _ (hq.part (hq.follow hs hf) hp) (hall p hp) l hm
termination_by extent reg g s
decreasing_by exact extent_follow hf (extent_part hp (follow_names hf))

theorem walkBody_convertedFrom {reg : Registry} {Q : Schema → Prop} (hq : IsKept reg Q)
    {s : Schema} (hs : Q s) {events : List Event} (h : walkBody reg s = .ok events) :
    ∀ l ∈ leavesOf events, l.ConvertedFrom reg Q := by
  intro l hm
  rcases walkBody_ok_cases h with ⟨hl, -⟩ | ⟨t, g, hf, hall, hl⟩
  · rw [hl] at hm
    cases hm
  · rw [hl] at hm
    obtain ⟨p, hp, hm⟩ := List.mem_flatMap.1 hm
    exact walk_convertedFrom hq (p.guard g) _ _ (hq.part (hq.follow hs hf) hp) (hall p hp) l hm

/-- Every flat property is that of a leaf, whose schema is of a kind if the body is. -/
theorem flatten_convertedFrom {reg : Registry} {Q : Schema → Prop} (hq : IsKept reg Q)
    {s : Schema} (hs : Q s) {flat : Flat} {notes : List Log.Note}
    (h : flatten reg s = .ok (flat, notes)) :
    ∀ e ∈ flat.properties, ∃ l : Leaf, l.ConvertedFrom reg Q ∧ e = (l.name, l.property) := by
  intro e he
  obtain ⟨events, hw, rfl⟩ := flatten_eq_ok h
  obtain ⟨l, hl, rfl⟩ := List.mem_map.1 (Named.mem_of_mem_ofList he)
  exact ⟨l, walkBody_convertedFrom hq hs hw l hl, rfl⟩

theorem flatten_converted {reg : Registry} {s : Schema} {flat : Flat} {notes : List Log.Note}
    (h : flatten reg s = .ok (flat, notes)) :
    ∀ e ∈ flat.properties, ∃ l : Leaf, l.Converted reg ∧ e = (l.name, l.property) := by
  intro e he
  obtain ⟨l, ⟨g, s', p, ns, -, hc, hp⟩, rfl⟩ :=
    flatten_convertedFrom (isKept_true reg) trivial h e he
  exact ⟨l, ⟨g, s', p, ns, hc, hp⟩, rfl⟩

end ApiTools.Property
