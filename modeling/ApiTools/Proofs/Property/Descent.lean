import ApiTools.Property.Flatten
import ApiTools.Proofs.Schema.Steps
import Mathlib.Logic.Relation
import Mathlib.Order.WellFounded

set_option autoImplicit false

/-!
# When the way through a schema ends

Flattening a body and converting a value follow one schema inside another: the properties of an
object that is taken apart, and the items of an array. A *visit* is a schema that is followed on
such a way together with the registry entries that were entered before, and nothing else: the
relation `Inside` between visits does not know which variants were taken.

Almost every step makes the way shorter: it goes to a smaller schema, or it enters entries that
were not entered before. The exception are *borrowed* items, those that the first variant of an
array brings along through a reference, since they enter nothing. So a way is endless if and only
if borrowed items lead back to the array that borrows them (`Loops`), and this is exactly when
flattening and converting give no result.
-/

namespace ApiTools.Property

open Schema Relation

/-! ## Visits -/

/-- What is done with a schema. A whole body and what is inside it are taken apart if they are
objects, a value is taken as it is. -/
inductive Mode where
  | body
  | inside
  | value
  deriving Repr, DecidableEq

/-- A schema that is followed, and the registry entries entered before, the latest first. -/
structure Visit where
  mode : Mode
  entered : List String
  schema : Schema

namespace Visit

/-- Where the schema of a visit leads. -/
def place (reg : Registry) (v : Visit) : Schema.Place :=
  follow reg { visited := v.entered } v.schema

/-- Whether the properties of the collapsed schema are visited: always those of a body, and those
of an object inside it. -/
def Opens (v : Visit) (composed : Schema) : Prop :=
  v.mode = .body ∨ v.mode = .inside ∧ isNested composed = true

/-- Whether the items of the collapsed schema are visited. -/
def Unpacks (v : Visit) (composed : Schema) : Prop := v.mode ≠ .body ∧ isArray composed = true

end Visit

/-- A property of an object that is taken apart, whether the object requires it, and the visit of
its schema. -/
inductive HoldsProperty (reg : Registry) (v : Visit) : Part → Bool → Visit → Prop
  | intro {t : Schema} {g : Guard} {p : Part} (hv : v.place reg = .at t g)
      (ho : v.Opens (compose reg t)) (hp : p ∈ parts reg t) :
      HoldsProperty reg v p ((compose reg t).requiredNames.contains p.name)
        ⟨.inside, (p.guard g).visited, p.schema⟩

/-- The visit of the items of an array. -/
inductive HoldsItems (reg : Registry) (v : Visit) : Visit → Prop
  | intro {t i : Schema} {g : Guard} (hv : v.place reg = .at t g) (hu : v.Unpacks (compose reg t))
      (hi : (compose reg t).items = .given i) : HoldsItems reg v ⟨.value, g.visited, i⟩

/-- The visit of items that the first variant of an array brings along through a reference to the
named entry. -/
inductive Borrows (reg : Registry) (v : Visit) (name : String) : Visit → Prop
  | intro {t i : Schema} {g : Guard} (hv : v.place reg = .at t g) (hu : v.Unpacks (compose reg t))
      (hb : BorrowedItems reg t name i) : Borrows reg v name ⟨.value, g.visited, i⟩

/-- The second visit is the next one on a way through the first. -/
def Inside (reg : Registry) (v w : Visit) : Prop :=
  (∃ p required, HoldsProperty reg v p required w) ∨ HoldsItems reg v w

/-- Borrowed items on the way lead back to the array that borrows them. -/
def Loops (reg : Registry) (v : Visit) : Prop :=
  ∃ a b n, ReflTransGen (Inside reg) v a ∧ Borrows reg a n b ∧ ReflTransGen (Inside reg) b a

theorem Borrows.inside {reg : Registry} {v w : Visit} {n : String} (h : Borrows reg v n w) :
    Inside reg v w := by
  obtain ⟨hv, hu, hb⟩ := h
  exact .inr (.intro hv hu hb.compose_items)

theorem Loops.of_inside {reg : Registry} {v w : Visit} (hvw : Inside reg v w)
    (h : Loops reg w) : Loops reg v := by
  obtain ⟨a, b, n, hwa, hab, hba⟩ := h
  exact ⟨a, b, n, .head hvw hwa, hab, hba⟩

theorem isNested_eq_false_of_isArray {s : Schema} (h : isArray s = true) :
    isNested s = false := by
  unfold isArray at h
  rw [beq_iff_eq] at h
  unfold isNested isObjectLike
  rw [h]
  rfl

/-- A visit leads where a walk behind a guard with the same entries leads. -/
theorem Visit.place_at {reg : Registry} {g g' : Guard} {m : Mode} {s t : Schema}
    (h : follow reg g s = .at t g') :
    ∃ h', (Visit.mk m g.visited s).place reg = .at t h' ∧ h'.visited = g'.visited := by
  show ∃ h', follow reg { visited := g.visited } s = .at t h' ∧ h'.visited = g'.visited
  exact follow_at_of_visited_eq (g := g) rfl h

theorem Visit.follow_at {reg : Registry} {g h' : Guard} {m : Mode} {s t : Schema}
    (h : (Visit.mk m g.visited s).place reg = .at t h') :
    ∃ g', follow reg g s = .at t g' ∧ g'.visited = h'.visited := by
  have h : follow reg { visited := g.visited } s = .at t h' := h
  exact follow_at_of_visited_eq (g := { visited := g.visited }) (h := g) rfl h

/-! ## Almost every step makes the way shorter -/

/-- The step enters entries that were not entered before. -/
def Deepens (reg : Registry) (v w : Visit) : Prop :=
  ∃ new, new ≠ [] ∧ w.entered = new ++ v.entered ∧ new.Nodup ∧
    ∀ n ∈ new, n ∉ v.entered ∧ (reg.get? n).isSome

/-- The step goes to a smaller schema and enters nothing. -/
def Shrinks (v w : Visit) : Prop :=
  w.entered = v.entered ∧ sizeOf w.schema < sizeOf v.schema

theorem Deepens.of_follow {reg : Registry} {g : Guard} {v w : Visit} {n : String} {t : Schema}
    (hn : n ∉ v.entered) (hg : reg.get? n = some t) (hgv : g.visited = n :: v.entered)
    (hw : w.entered = g.visited ∨
      ∃ k, k ∉ g.visited ∧ (reg.get? k).isSome ∧ w.entered = k :: g.visited) :
    Deepens reg v w := by
  rcases hw with hw | ⟨k, hk, hkg, hw⟩
  · refine ⟨[n], by simp, by rw [hw, hgv]; rfl, by simp, ?_⟩
    intro j hj
    rw [List.mem_singleton] at hj
    subst hj
    exact ⟨hn, by rw [hg]; rfl⟩
  · -- the second entry is new behind the first one, so the two are different
    rw [hgv] at hk
    have hkn : k ≠ n := fun e => hk (e ▸ List.mem_cons_self)
    refine ⟨[k, n], by simp, by rw [hw, hgv]; rfl, by simp [hkn], ?_⟩
    intro j hj
    rcases List.mem_cons.1 hj with rfl | hj
    · exact ⟨fun h => hk (List.mem_cons_of_mem _ h), hkg⟩
    · rw [List.mem_singleton] at hj
      subst hj
      exact ⟨hn, by rw [hg]; rfl⟩

theorem shrinks_or_deepens_of_holdsProperty {reg : Registry} {v w : Visit} {p : Part} {r : Bool}
    (h : HoldsProperty reg v p r w) : Shrinks v w ∨ Deepens reg v w := by
  obtain @⟨t, g, p, hv, -, hp⟩ := h
  have hpart := part_cases hp (follow_names hv)
  rcases follow_at_cases hv with ⟨-, rfl, rfl⟩ | ⟨n, -, hn, hg, rfl⟩
  · rcases hpart with ⟨he, hlt⟩ | ⟨k, hk, hkg, he⟩
    · exact .inl ⟨by rw [he], hlt⟩
    · refine .inr ⟨[k], by simp, by rw [he]; rfl, by simp, fun j hj => ?_⟩
      rw [List.mem_singleton] at hj
      subst hj
      exact ⟨hk, hkg⟩
  · refine .inr (Deepens.of_follow (g := { visited := n :: v.entered }) hn hg rfl ?_)
    rcases hpart with ⟨he, -⟩ | ⟨k, hk, hkg, he⟩
    · exact .inl (by rw [he]; rfl)
    · exact .inr ⟨k, hk, hkg, by rw [he]; rfl⟩

/-- **A step shrinks the schema, enters something new, or goes to borrowed items.** -/
theorem Inside.cases {reg : Registry} {v w : Visit} (h : Inside reg v w) :
    Shrinks v w ∨ Deepens reg v w ∨ ∃ n, Borrows reg v n w := by
  rcases h with ⟨p, r, h⟩ | h
  · exact (shrinks_or_deepens_of_holdsProperty h).imp id .inl
  · obtain @⟨t, i, g, hv, hu, hi⟩ := h
    rcases follow_at_cases hv with ⟨-, rfl, rfl⟩ | ⟨n, -, hn, hg, rfl⟩
    · -- no reference was followed, so the items lie in the schema unless they are borrowed
      rcases itemStep_cases reg { visited := v.entered } v.schema with
        ⟨-, hne⟩ | ⟨j, -, hj, hlt⟩ | ⟨n, j, hb, -⟩
      · exact absurd hi (hne i)
      · rw [hi] at hj
        injection hj with hij
        exact .inl ⟨rfl, hij ▸ hlt⟩
      · have hj := hb.compose_items
        rw [hi] at hj
        injection hj with hij
        exact .inr (.inr ⟨n, .intro hv hu (hij ▸ hb)⟩)
    · have hnew := Deepens.of_follow (g := { visited := n :: v.entered })
        (w := ⟨.value, n :: v.entered, i⟩) hn hg rfl (.inl rfl)
      exact .inr (.inl hnew)

end ApiTools.Property
