import ApiTools.Proofs.Property.FlatNames
import ApiTools.Proofs.Property.Whole
import ApiTools.Proofs.Schema.Origins
import Mathlib.Data.List.MinMax
import Mathlib.Data.List.Perm.Subperm

set_option autoImplicit false

/-!
# How deep a body can be

The way to a leaf enters a registry entry wherever it follows a reference, and wherever it steps
into a property that a composition takes from an entry. No entry is entered twice on one way, and
between two entries the way only goes deeper into one schema, its members in place included. So a
way is at most as long as the deepest of these schemas is deep, once for the body and once for each
entry.
-/

namespace ApiTools.Property

open Schema

variable {reg : Registry} {g g' : Guard} {root s t : Schema} {path names : List String} {p : Part}

/-! ## How deep properties are nested -/

/-- The properties that a schema writes itself: its own, and those of the members in place that it
is composed of. -/
def ownProperties (s : Schema) : List Schema :=
  (s :: (compositionMembers s).filter (·.ref?.isNone)).flatMap fun m => m.propertyList.map (·.2)

theorem mem_ownProperties :
    t ∈ ownProperties s ↔ ∃ m, (m = s ∨ m ∈ compositionMembers s ∧ m.ref? = none) ∧
      ∃ n, (n, t) ∈ m.propertyList := by
  simp [ownProperties]

theorem sizeOf_of_mem_ownProperties (h : t ∈ ownProperties s) : sizeOf t < sizeOf s := by
  obtain ⟨m, hm, n, hn⟩ := mem_ownProperties.1 h
  have hsize := sizeOf_of_mem_propertyList hn
  rcases hm with rfl | ⟨hm, -⟩
  · exact hsize
  · exact Nat.lt_trans hsize (sizeOf_of_mem_compositionMembers hm)

/-- How many properties can be stepped into one after the other without following a reference. -/
def nesting (s : Schema) : Nat :=
  ((ownProperties s).attach.map fun t => nesting t.1 + 1).foldr max 0
termination_by sizeOf s
decreasing_by exact sizeOf_of_mem_ownProperties t.2

theorem nesting_lt_of_mem (h : t ∈ ownProperties s) : nesting t < nesting s := by
  rw [nesting.eq_1 s]
  have hmem : nesting t + 1 ∈ (ownProperties s).attach.map fun t => nesting t.1 + 1 :=
    List.mem_map.2 ⟨⟨t, h⟩, List.mem_attach _ _, rfl⟩
  exact List.le_max_of_le' 0 hmem le_rfl

/-- The nesting of the schema of a body and of the entries, whichever is the deepest. -/
def largestNesting (reg : Registry) (root : Schema) : Nat :=
  ((root :: reg.map (·.2)).map nesting).foldr max 0

theorem nesting_root_le (reg : Registry) (root : Schema) :
    nesting root ≤ largestNesting reg root :=
  List.le_max_of_le' 0 List.mem_cons_self le_rfl

theorem nesting_entry_le {n : String} (h : reg.get? n = some t) (root : Schema) :
    nesting t ≤ largestNesting reg root := by
  have hmem : (n, t) ∈ reg := Named.mem_of_get? h
  refine List.le_max_of_le' 0 (List.mem_map_of_mem ?_) le_rfl
  exact List.mem_cons_of_mem _ (List.mem_map_of_mem hmem)

/-! ## Ways -/

/-- The entry that a schema names in its reference. -/
def named? (s : Schema) : Option String := s.ref?.bind Reference.name?

/-- A way from the root to a position: the entries it enters, the latest first, and the schema
there, whose reference is not followed yet. Nothing keeps a way from entering an entry again. -/
inductive Way (reg : Registry) (root : Schema) : List String → List String → Schema → Prop
  | root : Way reg root [] [] root
  | step {path names : List String} {s t : Schema} {p : Part} (h : Way reg root path names s)
      (ht : s.target? reg = some t) (hp : p ∈ parts reg t) :
      Way reg root (path ++ [p.name]) (p.origin.toList ++ (named? s).toList ++ names) p.schema

theorem visited_of_follow (h : follow reg g s = .at t g') :
    g'.visited = (named? s).toList ++ g.visited := by
  unfold named?
  rcases follow_at_cases h with ⟨hr, -, rfl⟩ | ⟨n, hn, -, -, rfl⟩
  · rw [hr]
    rfl
  · rw [hn]
    rfl

theorem visited_guard_eq (p : Part) (g : Guard) :
    (p.guard g).visited = p.origin.toList ++ g.visited := by
  unfold Part.guard
  cases p.origin <;> rfl

/-- A walk that follows a schema and steps into a property goes one step further on its way. -/
theorem Way.part (h : Way reg root path g.visited s) (hf : follow reg g s = .at t g')
    (hp : p ∈ parts reg t) : Way reg root (path ++ [p.name]) (p.guard g').visited p.schema := by
  rw [visited_guard_eq, visited_of_follow hf, ← List.append_assoc]
  exact .step h (target?_of_follow hf) hp

/-! ## What a walk keeps up -/

/-- The entries that were entered are different, they are there, and they pay for the way: each of
them, and the root, allows as many steps as schemas are deep at most. -/
structure Arrives (reg : Registry) (root : Schema) (path : List String) (g : Guard) (s : Schema) :
    Prop where
  nodup : g.visited.Nodup
  known : ∀ n ∈ g.visited, (reg.get? n).isSome
  room : path.length + nesting s ≤ (g.visited.length + 1) * largestNesting reg root

theorem Arrives.start (reg : Registry) (root : Schema) : Arrives reg root [] {} root where
  nodup := List.nodup_nil
  known n hn := by cases hn
  room := by
    have hroot := nesting_root_le reg root
    simpa using hroot

/-- Entering an entry for the first time makes room for all that it nests. -/
theorem Arrives.enter (h : Arrives reg root path g s) {n : String} (hn : n ∉ g.visited)
    (ht : reg.get? n = some t) : Arrives reg root path (g.enter n) t where
  nodup := List.nodup_cons.2 ⟨hn, h.nodup⟩
  known m hm := by
    rcases List.mem_cons.1 hm with rfl | hm
    · exact Option.isSome_of_eq_some ht
    · exact h.known m hm
  room := by
    have hroom := h.room
    have hentry := nesting_entry_le ht root
    -- one entry more pays for one more schema of the largest nesting
    show path.length + nesting t ≤ (g.visited.length + 1 + 1) * largestNesting reg root
    rw [Nat.succ_mul]
    omega

theorem Arrives.follow (h : Arrives reg root path g s) (hf : follow reg g s = .at t g') :
    Arrives reg root path g' t := by
  rcases follow_at_cases hf with ⟨-, rfl, rfl⟩ | ⟨n, -, hn, ht, rfl⟩
  · exact h
  · exact h.enter hn ht

theorem Arrives.descend (h : Arrives reg root path g s) (ht : t ∈ ownProperties s) (n : String) :
    Arrives reg root (path ++ [n]) g t where
  nodup := h.nodup
  known := h.known
  room := by
    have hroom := h.room
    have hlt := nesting_lt_of_mem ht
    rw [List.length_append, List.length_singleton]
    omega

/-- A part is a property that the schema writes itself, or one of an entry that a member of the
composition names. -/
theorem part_own_or_borrowed (hp : p ∈ parts reg s) :
    (p.origin = none ∧ p.schema ∈ ownProperties s) ∨
      ∃ n t, p.origin = some n ∧ n ∈ compositionNames s ∧ reg.get? n = some t ∧
        p.schema ∈ ownProperties t := by
  have hmem := mem_of_mem_parts hp
  rw [flatMap_parts_members] at hmem
  rcases List.mem_append.1 hmem with hp | hp
  · obtain ⟨e, he, rfl⟩ := List.mem_map.1 hp
    exact .inl ⟨rfl, mem_ownProperties.2 ⟨s, .inl rfl, e.1, he⟩⟩
  · obtain ⟨m, hm, hp⟩ := List.mem_flatMap.1 hp
    cases hr : m.ref? with
    | none =>
        rw [broughtBy_of_inline hr] at hp
        obtain ⟨e, he, rfl⟩ := List.mem_map.1 hp
        exact .inl ⟨rfl, mem_ownProperties.2 ⟨m, .inr ⟨hm, hr⟩, e.1, he⟩⟩
    | some ref =>
        rw [broughtBy_of_ref hr] at hp
        cases hentry : entry? reg m with
        | none =>
            rw [hentry] at hp
            cases hp
        | some nt =>
            obtain ⟨n, t⟩ := nt
            rw [hentry] at hp
            obtain ⟨e, he, rfl⟩ := List.mem_map.1 hp
            obtain ⟨hn, ht⟩ := of_entry?_eq_some hentry
            exact .inr ⟨n, t, rfl, List.mem_filterMap.2 ⟨m, hm, hn⟩, ht,
              mem_ownProperties.2 ⟨t, .inl rfl, e.1, he⟩⟩

theorem Arrives.part (h : Arrives reg root path g s)
    (hnames : ∀ n ∈ compositionNames s, g.visited.contains n = false) (hp : p ∈ parts reg s) :
    Arrives reg root (path ++ [p.name]) (p.guard g) p.schema := by
  unfold Part.guard
  rcases part_own_or_borrowed hp with ⟨ho, ht⟩ | ⟨n, t, ho, hn, ht, hown⟩
  · rw [ho]
    exact h.descend ht p.name
  · rw [ho]
    exact (h.enter (by simpa using hnames n hn) ht).descend hown p.name

/-- There are no more entries to enter than the registry has. -/
theorem Arrives.length_visited_le (h : Arrives reg root path g s) :
    g.visited.length ≤ reg.length := by
  have hsub : g.visited ⊆ Named.names reg := by
    intro n hn
    by_contra hnot
    have hnone : reg.get? n = none := (Named.get?_eq_none_iff reg n).2 hnot
    simpa [hnone] using h.known n hn
  have hle := (List.subperm_of_subset h.nodup hsub).length_le
  rwa [Named.names, List.length_map] at hle

theorem Arrives.length_le (h : Arrives reg root path g s) :
    path.length ≤ (reg.length + 1) * largestNesting reg root := by
  have hroom := h.room
  have hmul := Nat.mul_le_mul_right (largestNesting reg root)
    (Nat.add_le_add_right h.length_visited_le 1)
  omega

/-! ## Leaves -/

theorem enteredBehind_of_visited_eq {h : Guard} (hv : g.visited = h.visited) :
    enteredBehind reg g s = enteredBehind reg h s := by
  unfold enteredBehind
  match hg : follow reg g s, hh : follow reg h s with
  | .at t g', _ =>
      obtain ⟨h', hh', he⟩ := follow_at_of_visited_eq hv hg
      rw [hh] at hh'
      subst hh'
      exact he.symm
  | .dangling, .at u h' | .cycle, .at u h' =>
      obtain ⟨g', hg', -⟩ := follow_at_of_visited_eq hv.symm hh
      rw [hg] at hg'
      cases hg'
  | .dangling, .dangling | .dangling, .cycle | .cycle, .dangling | .cycle, .cycle => exact hv

/-- The entries that a leaf notes are those that the way to it enters, the entry that it refers to
itself included; they are different and there, and the way is not long. -/
structure Leaf.EnteredOnce (reg : Registry) (root : Schema) (l : Leaf) : Prop where
  way : ∃ names s, Way reg root l.path names s ∧ l.entered = enteredBehind reg ⟨names, []⟩ s
  nodup : l.entered.Nodup
  known : ∀ n ∈ l.entered, (reg.get? n).isSome
  length_le : l.path.length ≤ (reg.length + 1) * largestNesting reg root

theorem Arrives.enteredOnce (h : Arrives reg root path g s) (hw : Way reg root path g.visited s)
    (required : Bool) (p : Property) :
    (leafAt path (enteredBehind reg g s) required p).EnteredOnce reg root where
  way := ⟨g.visited, s, hw, enteredBehind_of_visited_eq rfl⟩
  nodup := by
    show (enteredBehind reg g s).Nodup
    unfold enteredBehind
    cases hf : Schema.follow reg g s with
    | dangling | cycle => exact h.nodup
    | «at» t g' => exact (h.follow hf).nodup
  known := by
    show ∀ n ∈ enteredBehind reg g s, (reg.get? n).isSome
    unfold enteredBehind
    cases hf : Schema.follow reg g s with
    | dangling | cycle => exact h.known
    | «at» t g' => exact (h.follow hf).known
  length_le := h.length_le

theorem walk_enteredOnce (g : Guard) (path : List String) (required : Bool) (s : Schema)
    (ha : Arrives reg root path g s) (hw : Way reg root path g.visited s) {events : List Event}
    (h : walk reg g path required s = .ok events) :
    ∀ l ∈ leavesOf events, l.EnteredOnce reg root := by
  intro l hl
  rcases walk_ok_cases h with ⟨-, -, -, -, -, hwhole⟩ | ⟨t, g', hf, -, hall, hleaves⟩
  · -- the value is taken whole, so the way ends here
    have hfound := leavesFound_walk_of_isWhole hwhole path required
    rw [h] at hfound
    obtain ⟨p, -, hp⟩ := Option.map_eq_some_iff.1 hfound.symm
    rw [← hp, List.mem_singleton] at hl
    rw [hl]
    exact ha.enteredOnce hw required p
  · rw [hleaves] at hl
    obtain ⟨p, hp, hl⟩ := List.mem_flatMap.1 hl
    exact walk_enteredOnce (p.guard g') (path ++ [p.name]) _ p.schema
      ((ha.follow hf).part (follow_names hf) hp) (hw.part hf hp) (hall p hp) l hl
termination_by extent reg g s
decreasing_by exact extent_follow hf (extent_part hp (follow_names hf))

theorem walkBody_enteredOnce {events : List Event} (h : walkBody reg root = .ok events) :
    ∀ l ∈ leavesOf events, l.EnteredOnce reg root := by
  intro l hl
  rcases walkBody_ok_cases h with ⟨hnone, -⟩ | ⟨t, g, hf, hall, hleaves⟩
  · rw [hnone] at hl
    cases hl
  · rw [hleaves] at hl
    obtain ⟨p, hp, hl⟩ := List.mem_flatMap.1 hl
    have ha := (Arrives.start reg root).follow hf
    have hw : Way reg root ([] ++ [p.name]) (p.guard g).visited p.schema :=
      Way.part (g := {}) .root hf hp
    exact walk_enteredOnce (p.guard g) _ _ p.schema (ha.part (follow_names hf) hp) hw (hall p hp)
      l hl

/-- **No entry is entered twice on the way to a leaf**, so the way has at most as many steps as the
deepest schema nests, once for the body and once for each entry. -/
theorem flatten_enters_once {flat : Flat} {notes : List Log.Note}
    (h : flatten reg s = .ok (flat, notes)) :
    ∃ leaves, flat = Flat.ofLeaves leaves ∧
      (∀ path, path ∈ leafPositions reg s ↔ path ∈ leaves.map Leaf.path) ∧
      ∀ l ∈ leaves,
        (∃ names t, Way reg s l.path names t ∧ l.entered = enteredBehind reg ⟨names, []⟩ t) ∧
        l.entered.Nodup ∧ (∀ n ∈ l.entered, (reg.get? n).isSome) ∧
        l.path.length ≤ (reg.length + 1) * largestNesting reg s := by
  obtain ⟨events, hw, rfl⟩ := flatten_eq_ok h
  refine ⟨leavesOf events, rfl, fun path => ?_, fun l hl => ?_⟩
  · rw [(walkBody_lists hw).mem_leafPositions_iff, List.mem_map]
  · have hl := walkBody_enteredOnce hw l hl
    exact ⟨hl.way, hl.nodup, hl.known, hl.length_le⟩

/-! ### A node that holds the next one -/

/-- A reference to a node. -/
def node : Schema := .plain { ref := .given "#/definitions/Node" }

/-- A node holds the next node. -/
def chain : Registry := [("Node", objectOf "next" node)]

theorem walkBody_node : walkBody chain node
    = .ok [.note (Log.debug "Cycle at 'next'; emitting an opaque object"),
        .leaf ⟨["next"], ["Node"], false, opaqueObject defaultDescription⟩] := by
  show eventsAfter [] (do
    let next ← walk chain ⟨["Node"], []⟩ ["next"] false node
    eventsAfter next (.ok [])) = _
  rw [walk]
  rfl

theorem flatten_node : flatten chain node
    = .ok (⟨[("next", opaqueObject defaultDescription)], []⟩,
        [Log.debug "Cycle at 'next'; emitting an opaque object"]) := by
  unfold flatten
  rw [walkBody_node]
  rfl

/-- The way to the next node enters the entry of nodes, and ends where it would enter it again. -/
theorem flatten_node_enters_once :
    (∃ flat notes, flatten chain node = .ok (flat, notes)) ∧
      ["next"] ∈ leafPositions chain node ∧
      ∃ l : Leaf, l.path = ["next"] ∧ l.entered.Nodup ∧
        (∀ n ∈ l.entered, (chain.get? n).isSome) ∧
        l.path.length ≤ 2 * largestNesting chain node := by
  obtain ⟨leaves, -, hpositions, hleaves⟩ := flatten_enters_once flatten_node
  have hnext : ["next"] ∈ leafPositions chain node := by
    rw [(walkBody_lists walkBody_node).mem_leafPositions_iff]
    exact ⟨_, List.mem_cons_self, rfl⟩
  obtain ⟨l, hl, hpath⟩ := List.mem_map.1 ((hpositions _).1 hnext)
  obtain ⟨-, hnodup, hknown, hlength⟩ := hleaves l hl
  exact ⟨⟨_, _, flatten_node⟩, hnext, l, hpath, hnodup, hknown, hlength⟩

end ApiTools.Property
