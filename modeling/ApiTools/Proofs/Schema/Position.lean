import ApiTools.Proofs.Schema.Composition

set_option autoImplicit false

/-!
# Positions in a schema

A position in a schema is a list of property names. What the schema says there can be looked up
without a walk: follow the reference, collapse the composition, take the property with the next
name, and so on (`schemaAt?`). The same steps give an order of positions (`Precedes`): where two
positions part, the property that comes first in the collapsed schema goes first. Of two positions
at most one precedes the other, so there is only one list of the same positions in order.
-/

namespace ApiTools.Schema

/-! ## Looking up a position -/

/-- What a schema says once its reference is followed and its composition is collapsed. -/
def settled? (reg : Registry) (s : Schema) : Option Schema := (s.target? reg).map (compose reg)

/-- The names of the properties, each once. -/
def propertyNames (s : Schema) : List String := Named.distinct (Named.names s.propertyList)

/-- What a schema says at a position in it. -/
def schemaAt? (reg : Registry) : Schema → List String → Option Schema
  | s, [] => settled? reg s
  | s, n :: path =>
      (settled? reg s).bind fun c => (declared? c n).bind fun t => schemaAt? reg t path

theorem schemaAt?_cons {reg : Registry} {s c t : Schema} {n : String}
    (hc : settled? reg s = some c) (ht : declared? c n = some t) (path : List String) :
    schemaAt? reg s (n :: path) = schemaAt? reg t path := by
  rw [schemaAt?, hc, Option.bind_some, ht, Option.bind_some]

theorem target?_of_follow {reg : Registry} {g g' : Guard} {s t : Schema}
    (h : follow reg g s = .at t g') : s.target? reg = some t := by
  unfold target?
  rcases follow_at_cases h with ⟨hr, rfl, -⟩ | ⟨n, hn, -, ht, -⟩
  · rw [hr]
  · obtain ⟨ref, hr, hname⟩ := Option.bind_eq_some_iff.1 hn
    rw [hr]
    dsimp only
    rw [Reference.resolve?, hname, Option.bind_some, ht]

theorem settled?_of_follow {reg : Registry} {g g' : Guard} {s t : Schema}
    (h : follow reg g s = .at t g') : settled? reg s = some (compose reg t) := by
  rw [settled?, target?_of_follow h]
  rfl

theorem contributors_of_uncomposed {reg : Registry} {s : Schema}
    (h : s.hasComposition = false) : contributors reg s = [s] := by
  unfold hasComposition at h
  simp only [Bool.or_eq_false_iff, Bool.not_eq_false', List.isEmpty_iff] at h
  obtain ⟨⟨hall, hone⟩, hany⟩ := h
  unfold contributors joined mergedSchemas overlay?
  rw [hall, hone, hany]
  rfl

/-- The properties that are walked through are those of the collapsed schema. -/
theorem parts_eq_ofList_compose (reg : Registry) (s : Schema) :
    (parts reg s).map (fun p => (p.name, p.schema))
      = Named.ofList (compose reg s).propertyList := by
  by_cases h : s.hasComposition
  · have hnd : (Named.names ((parts reg s).map fun p => (p.name, p.schema))).Nodup := by
      unfold Named.names
      rw [List.map_map]
      exact nodup_parts reg s
    rw [propertyList_compose h, Named.ofList_of_nodup hnd]
  · have h : s.hasComposition = false := by simpa using h
    rw [parts_eq_ofList, contributors_of_uncomposed h, compose_of_uncomposed h]
    simp

theorem names_parts (reg : Registry) (s : Schema) :
    (parts reg s).map (·.name) = (compose reg s).propertyNames := by
  have h := congrArg Named.names (parts_eq_ofList_compose reg s)
  rw [Named.names_ofList] at h
  unfold propertyNames
  rw [← h, Named.names, List.map_map]
  rfl

theorem declared?_of_mem_parts {reg : Registry} {s : Schema} {p : Part} (hp : p ∈ parts reg s) :
    declared? (compose reg s) p.name = some p.schema := by
  have hmem : (p.name, p.schema) ∈ Named.ofList (compose reg s).propertyList := by
    rw [← parts_eq_ofList_compose]
    exact List.mem_map_of_mem hp
  have hget := Named.get?_ofList_of_nodup (Named.nodup_names_ofList _) hmem
  -- what was put together once is put together the same way again
  rwa [Named.ofList_of_nodup (Named.nodup_names_ofList _), Named.get?_ofList] at hget

/-! ## Which of two positions comes first -/

/-- Where the first position parts from the second, it goes to a property that comes first. -/
inductive Precedes (reg : Registry) : Schema → List String → List String → Prop
  | apart {s c : Schema} {n m : String} {a b : List String} (hc : settled? reg s = some c)
      (hnm : [n, m].Sublist c.propertyNames) : Precedes reg s (n :: a) (m :: b)
  | within {s c t : Schema} {n : String} {a b : List String} (hc : settled? reg s = some c)
      (ht : declared? c n = some t) (h : Precedes reg t a b) : Precedes reg s (n :: a) (n :: b)

theorem not_sublist_swap {α : Type} {l : List α} (h : l.Nodup) {a b : α}
    (hab : [a, b].Sublist l) : ¬ [b, a].Sublist l := by
  induction l with
  | nil => cases hab
  | cons x l ih =>
      obtain ⟨hx, hl⟩ := List.nodup_cons.1 h
      intro hba
      rw [List.cons_sublist_cons', List.singleton_sublist] at hab hba
      -- each pair lies in the rest or begins the list, and what begins it is not in the rest
      rcases hab with hab | ⟨rfl, hb⟩
      · rcases hba with hba | ⟨rfl, -⟩
        · exact ih hl hab hba
        · exact hx (hab.mem (by simp))
      · rcases hba with hba | ⟨rfl, -⟩
        · exact hx (hba.mem (by simp))
        · exact hx hb

theorem Precedes.asymm {reg : Registry} {s : Schema} {a b : List String}
    (h : Precedes reg s a b) : ¬ Precedes reg s b a := by
  have hdistinct : ∀ c : Schema, c.propertyNames.Nodup := fun c => Named.nodup_distinct _
  induction h with
  | apart hc hnm =>
      intro h'
      cases h' with
      | apart hc' hmn =>
          obtain rfl := Option.some.inj (hc.symm.trans hc')
          exact not_sublist_swap (hdistinct _) hnm hmn
      | within => exact List.nodup_iff_sublist.1 (hdistinct _) _ hnm
  | within hc ht _ ih =>
      intro h'
      cases h' with
      | apart _ hmn => exact List.nodup_iff_sublist.1 (hdistinct _) _ hmn
      | within hc' ht' h' =>
          obtain rfl := Option.some.inj (hc.symm.trans hc')
          obtain rfl := Option.some.inj (ht.symm.trans ht')
          exact ih h'

/-- There is only one list of the same positions in order. -/
theorem eq_of_pairwise_precedes {reg : Registry} {s : Schema} {ps qs : List (List String)}
    (hp : ps.Pairwise (Precedes reg s)) (hq : qs.Pairwise (Precedes reg s))
    (h : ∀ path, path ∈ ps ↔ path ∈ qs) : ps = qs := by
  have hnodup : ∀ {rs : List (List String)}, rs.Pairwise (Precedes reg s) → rs.Nodup := by
    intro rs hr
    refine hr.imp fun {a b} hab heq => ?_
    subst heq
    exact hab.asymm hab
  have hperm := (List.perm_ext_iff_of_nodup (hnodup hp) (hnodup hq)).2 h
  exact hperm.eq_of_pairwise (fun a b _ _ hab hba => absurd hba hab.asymm) hp hq

end ApiTools.Schema
