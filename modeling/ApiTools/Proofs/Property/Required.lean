import ApiTools.Proofs.Property.Order

set_option autoImplicit false

/-!
# The required leaves

A leaf of a body is required if every object on the way to it requires the next property. What an
object requires is looked up in the collapsed schema at its position, so nothing is said here
about the flag that the walk carries along; a name that is required without being a property is on
no way to a leaf.
-/

namespace ApiTools.Property

open Schema

/-- What the schema says at each point on the way to a position requires the next name. -/
def IsRequired (reg : Registry) (s : Schema) (path : List String) : Prop :=
  ∀ above n below, path = above ++ n :: below →
    ∃ c, schemaAt? reg s above = some c ∧ n ∈ c.requiredNames

theorem isRequired_nil (reg : Registry) (s : Schema) : IsRequired reg s [] := by
  intro above n below h
  cases above <;> cases h

theorem isRequired_cons_iff {reg : Registry} {s c t : Schema} {n : String}
    (hc : settled? reg s = some c) (ht : declared? c n = some t) (path : List String) :
    IsRequired reg s (n :: path) ↔ n ∈ c.requiredNames ∧ IsRequired reg t path := by
  constructor
  · intro h
    refine ⟨?_, fun above m below hp => ?_⟩
    · obtain ⟨c', hc', hn⟩ := h [] n path rfl
      obtain rfl := Option.some.inj (hc.symm.trans hc')
      exact hn
    · rw [← schemaAt?_cons hc ht]
      exact h (n :: above) m below (by rw [hp]; rfl)
  · rintro ⟨hn, h⟩ above m below hp
    cases above with
    | nil =>
        injection hp with hnm
        exact ⟨c, hc, hnm ▸ hn⟩
    | cons k above =>
        injection hp with hnk hp
        rw [← hnk, schemaAt?_cons hc ht]
        exact h above m below hp

/-! ## The steps of the walk -/

/-- A property that is visited is one that the collapsed schema declares, and the object requires
it if the collapsed schema does. -/
theorem HoldsProperty.settled {reg : Registry} {v w : Visit} {p : Part} {r : Bool}
    (h : HoldsProperty reg v p r w) :
    ∃ c, settled? reg v.schema = some c ∧ declared? c p.name = some w.schema ∧
      r = c.requiredNames.contains p.name := by
  obtain @⟨t, g, p, hv, -, hp⟩ := h
  exact ⟨compose reg t, settled?_of_follow hv, declared?_of_mem_parts hp, rfl⟩

theorem LeafAt.required_iff {reg : Registry} {v : Visit} {path : List String} {r : Bool}
    (h : LeafAt reg v path r) : r = true ↔ IsRequired reg v.schema path := by
  induction h with
  | here => simp [isRequired_nil]
  | within hp _ ih =>
      obtain ⟨c, hc, ht, hr⟩ := hp.settled
      rw [Bool.and_eq_true, isRequired_cons_iff hc ht, ih, hr]
      simp

/-- Every name on the way to a leaf is that of a declared property. -/
theorem LeafAt.declared {reg : Registry} {v : Visit} {path : List String} {r : Bool}
    (h : LeafAt reg v path r) : ∀ above n below, path = above ++ n :: below →
      ∃ c t, schemaAt? reg v.schema above = some c ∧ declared? c n = some t := by
  induction h with
  | here =>
      intro above n below hp
      cases above <;> cases hp
  | within hp _ ih =>
      obtain ⟨c, hc, ht, -⟩ := hp.settled
      intro above n below hpath
      cases above with
      | nil =>
          injection hpath with hn
          exact ⟨c, _, hc, hn ▸ ht⟩
      | cons k above =>
          injection hpath with hk hpath
          rw [← hk, schemaAt?_cons hc ht]
          exact ih above n below hpath

theorem mem_requiredPositions_iff {reg : Registry} {s : Schema} {path : List String} :
    path ∈ requiredPositions reg s ↔ path ∈ leafPositions reg s ∧ IsRequired reg s path := by
  constructor
  · intro h
    exact ⟨⟨true, h⟩, (LeafAt.required_iff h).1 rfl⟩
  · rintro ⟨⟨r, h⟩, hr⟩
    obtain rfl : r = true := (LeafAt.required_iff h).2 hr
    exact h

/-! ## The names of the required leaves -/

/-- The positions of the leaves that are required on the whole way, in order. -/
structure RequiredInOrder (reg : Registry) (s : Schema) (positions : List (List String)) :
    Prop where
  ordered : positions.Pairwise (Precedes reg s)
  mem_iff : ∀ path, path ∈ positions ↔ path ∈ leafPositions reg s ∧ IsRequired reg s path

theorem RequiredInOrder.unique {reg : Registry} {s : Schema} {ps qs : List (List String)}
    (hp : RequiredInOrder reg s ps) (hq : RequiredInOrder reg s qs) : ps = qs :=
  eq_of_pairwise_precedes hp.ordered hq.ordered fun path =>
    (hp.mem_iff path).trans (hq.mem_iff path).symm

/-- **The required names of a flattened body are those of its required leaves, in order.** Each of
them is the name of a property. No position in the list goes through a name that is no property
of the schema where it is required. -/
theorem flatten_required {reg : Registry} {s : Schema} {flat : Flat} {notes : List Log.Note}
    (h : flatten reg s = .ok (flat, notes)) :
    ∃ positions, RequiredInOrder reg s positions ∧
      (∀ others, RequiredInOrder reg s others → others = positions) ∧
      flat.required = positions.map flatName ∧
      (∀ n ∈ flat.required, n ∈ Named.names flat.properties) ∧
      ∀ above c n, schemaAt? reg s above = some c → declared? c n = none →
        ∀ path ∈ positions, ¬ above ++ [n] <+: path := by
  obtain ⟨events, hw, rfl⟩ := flatten_eq_ok h
  have hl := walkBody_lists hw
  have hpositions :
      RequiredInOrder reg s (((leavesOf events).filter (·.required)).map Leaf.path) := by
    refine ⟨(walkBody_pairwise_precedes hw).sublist (List.filter_sublist.map Leaf.path),
      fun path => ?_⟩
    rw [← mem_requiredPositions_iff, hl.mem_requiredPositions_iff, List.mem_map]
  refine ⟨_, hpositions, fun others ho => ho.unique hpositions, ?_, ?_, ?_⟩
  · show ((leavesOf events).filter (·.required)).map Leaf.name = _
    rw [List.map_map]
    rfl
  · intro n hn
    obtain ⟨l, hm, rfl⟩ := List.mem_map.1 hn
    exact (mem_names_ofLeaves _ _).2 ⟨l, List.mem_of_mem_filter hm, rfl⟩
  · rintro above c n hc hn path hp ⟨below, hpath⟩
    obtain ⟨⟨r, hleaf⟩, -⟩ := (hpositions.mem_iff path).1 hp
    have hsplit : path = above ++ n :: below := by rw [← hpath, List.append_assoc]; rfl
    obtain ⟨c', t, hc', ht⟩ := hleaf.declared above n below hsplit
    obtain rfl := Option.some.inj (hc.symm.trans hc')
    rw [hn] at ht
    cases ht

/-- A body that has a text and an object with a required text, and requires the object and a name
that is no property. -/
def halfDeclared : Schema :=
  .mk { required := .given ["ghost", "a"] } (.given [("note", textSchema), ("a", inner)])
    .absent .absent .absent .absent .absent

theorem flatten_halfDeclared : flatten [] halfDeclared
    = .ok (⟨[("note", .simple {} (.text {})),
        ("a_b", (Property.simple {} (.text {})).withPlace ["a", "b"])], ["a_b"]⟩, []) := by
  show (do
    let events ← eventsAfter [] (do
      let note ← walk [] {} ["note"] false textSchema
      eventsAfter note (do
        let a ← walk [] {} ["a"] true inner
        eventsAfter a (.ok [])))
    return (Flat.ofLeaves (leavesOf events), notesOf events)) = _
  rw [walk_inner, walk_textSchema, walk_textSchema]
  rfl

/-- Of the three names that are required in this body, one is that of an object, which is taken
apart, and one is no property. -/
theorem halfDeclared_requires_inner :
    ∃ positions, RequiredInOrder [] halfDeclared positions ∧
      ["a_b"] = positions.map flatName ∧
      declared? halfDeclared "ghost" = none ∧ ∀ path ∈ positions, ¬ ["ghost"] <+: path := by
  obtain ⟨positions, hp, -, hnames, -, hghost⟩ := flatten_required flatten_halfDeclared
  have hnone : declared? halfDeclared "ghost" = none := rfl
  exact ⟨positions, hp, hnames, hnone, hghost [] halfDeclared "ghost" rfl hnone⟩

end ApiTools.Property
