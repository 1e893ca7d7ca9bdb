import ApiTools.Proofs.Property.FlatNames
import ApiTools.Proofs.Schema.Position

set_option autoImplicit false

/-!
# The order of the leaves

The walk through a body lists its leaves in the order of their positions: a leaf of an earlier
property comes first, and the leaves of one property are in the order in which its schema has them.
-/

namespace ApiTools.Property

open Schema

/-! ## The walk keeps to the order -/

/-- Behind the given path, the position of the first leaf precedes that of the second. -/
def Leaf.Before (reg : Registry) (s : Schema) (path : List String) (l m : Leaf) : Prop :=
  ∃ a b, l.path = path ++ a ∧ m.path = path ++ b ∧ Precedes reg s a b

theorem Leaf.Before.within {reg : Registry} {s c t : Schema} {path : List String} {n : String}
    {l m : Leaf} (hc : settled? reg s = some c) (ht : declared? c n = some t)
    (h : l.Before reg t (path ++ [n]) m) : l.Before reg s path m := by
  obtain ⟨a, b, hl, hm, hab⟩ := h
  refine ⟨n :: a, n :: b, ?_, ?_, .within hc ht hab⟩
  · rw [hl, List.append_assoc]; rfl
  · rw [hm, List.append_assoc]; rfl

/-- If the leaves of each property are in order, so are those of all of them. -/
theorem pairwise_before_parts {reg : Registry} {s t : Schema} {path : List String}
    {leaves : Part → List Leaf} (hs : settled? reg s = some (compose reg t))
    (hpath : ∀ p ∈ parts reg t, ∀ l ∈ leaves p, ∃ q, l.path = path ++ [p.name] ++ q)
    (h : ∀ p ∈ parts reg t, (leaves p).Pairwise (Leaf.Before reg p.schema (path ++ [p.name]))) :
    ((parts reg t).flatMap leaves).Pairwise (Leaf.Before reg s path) := by
  rw [List.pairwise_flatMap]
  constructor
  · intro p hp
    exact (h p hp).imp (Leaf.Before.within hs (declared?_of_mem_parts hp))
  · rw [List.pairwise_iff_forall_sublist]
    intro p q hpq l hl m hm
    obtain ⟨a, ha⟩ := hpath p (hpq.mem (by simp)) l hl
    obtain ⟨b, hb⟩ := hpath q (hpq.mem (by simp)) m hm
    have hnames : [p.name, q.name].Sublist (compose reg t).propertyNames := by
      rw [← names_parts]
      exact hpq.map (·.name)
    refine ⟨p.name :: a, q.name :: b, ?_, ?_, .apart hs hnames⟩
    · rw [ha, List.append_assoc]; rfl
    · rw [hb, List.append_assoc]; rfl

theorem path_of_mem_leavesBehind {reg : Registry} {g : Guard} {path : List String}
    {required : Bool} {s : Schema} {p : Part}
    (h : walkPart reg g path required s p = .ok (eventsIn (walkPart reg g path required s p)))
    {l : Leaf} (hl : l ∈ leavesBehind reg g path required s p) :
    ∃ q, l.path = path ++ [p.name] ++ q :=
  (walk_lists (p.guard g) _ _ p.schema h).path_of_mem hl

theorem walk_pairwise_before {reg : Registry} (g : Guard) (path : List String) (required : Bool)
    (s : Schema) {events : List Event} (h : walk reg g path required s = .ok events) :
    (leavesOf events).Pairwise (Leaf.Before reg s path) := by
  rcases walk_ok_cases h with ⟨entered, p, -, -, hl, -⟩ | ⟨t, g', hf, -, hall, hl⟩
  · rw [hl]
    exact List.pairwise_singleton _ _
  · -- the leaves below each property are in order, and the properties are visited in order
    rw [hl]
    refine pairwise_before_parts (settled?_of_follow hf)
      (fun p hp l => path_of_mem_leavesBehind (hall p hp)) fun p hp => ?_
    exact walk_pairwise_before (p.guard g') _ _ p.schema (hall p hp)
termination_by extent reg g s
decreasing_by exact extent_follow hf (extent_part hp (follow_names hf))

theorem walkBody_pairwise_before {reg : Registry} {s : Schema} {events : List Event}
    (h : walkBody reg s = .ok events) : (leavesOf events).Pairwise (Leaf.Before reg s []) := by
  rcases walkBody_ok_cases h with ⟨hl, -⟩ | ⟨t, g, hf, hall, hl⟩
  · rw [hl]
    exact List.Pairwise.nil
  · rw [hl]
    refine pairwise_before_parts (settled?_of_follow hf)
      (fun p hp l => path_of_mem_leavesBehind (hall p hp)) fun p hp => ?_
    exact walk_pairwise_before (p.guard g) _ _ p.schema (hall p hp)

/-- **The walk through a body lists its leaves in order.** -/
theorem walkBody_pairwise_precedes {reg : Registry} {s : Schema} {events : List Event}
    (h : walkBody reg s = .ok events) :
    ((leavesOf events).map Leaf.path).Pairwise (Precedes reg s) := by
  rw [List.pairwise_map]
  refine (walkBody_pairwise_before h).imp fun {l m} hlm => ?_
  obtain ⟨a, b, ha, hb, hab⟩ := hlm
  rwa [ha, hb]

end ApiTools.Property
