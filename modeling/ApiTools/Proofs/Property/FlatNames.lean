import ApiTools.Proofs.Property.Leaves
import Mathlib.Data.Set.Function

set_option autoImplicit false

/-!
# The names of flattened leaves

A leaf is named by its position, with underscores between the property names. A property name may
hold underscores itself, so two positions can have one name: exactly those that read the same
when every name in them is cut at its underscores. Then the body has fewer properties than leaves,
and a name that is required at two positions is required twice.
-/

namespace ApiTools.Property

open Schema

/-! ## Positions with one name -/

/-- The name of the leaf at a position. -/
def flatName (path : List String) : String := "_".intercalate path

/-- A position with every name in it cut at its underscores. -/
def pieces (path : List String) : List (List Char) := path.flatMap fun n => n.toList.splitOn '_'

/-- Cutting names that were put together gives what cutting each of them gives. -/
theorem splitOn_intercalate {sep : String} {c : Char} (hsep : sep.toList = [c])
    {path : List String} (h : path ≠ []) :
    (sep.intercalate path).toList.splitOn c = path.flatMap fun n => n.toList.splitOn c := by
  rw [String.toList_intercalate]
  induction path with
  | nil => exact absurd rfl h
  | cons n path ih =>
      cases path with
      | nil => simp
      | cons m path =>
          -- the separator between the first two names is where the text is cut
          rw [List.map_cons, List.map_cons, List.intercalate_cons_cons, hsep, List.append_assoc,
            List.singleton_append, List.splitOn_append_cons_self, ← List.map_cons, ← hsep,
            ih (List.cons_ne_nil m path)]
          rfl

/-- Cutting the name of a leaf at its underscores gives the pieces of its position. -/
theorem splitOn_flatName {path : List String} (h : path ≠ []) :
    (flatName path).toList.splitOn '_' = pieces path := splitOn_intercalate rfl h

/-- **Two positions have one name if and only if they have the same pieces.** -/
theorem flatName_eq_iff {a b : List String} (ha : a ≠ []) (hb : b ≠ []) :
    flatName a = flatName b ↔ pieces a = pieces b := by
  rw [← splitOn_flatName ha, ← splitOn_flatName hb]
  constructor
  · intro h
    rw [h]
  · intro h
    have := congrArg (List.intercalate ['_']) h
    rw [List.intercalate_splitOn, List.intercalate_splitOn] at this
    exact String.toList_injective this

theorem injOn_flatName_iff {ps : Set (List String)} (h : ∀ path ∈ ps, path ≠ []) :
    Set.InjOn flatName ps ↔ Set.InjOn pieces ps := by
  constructor
  · intro hi a ha b hb hab
    exact hi ha hb ((flatName_eq_iff (h a ha) (h b hb)).2 hab)
  · intro hi a ha b hb hab
    exact hi ha hb ((flatName_eq_iff (h a ha) (h b hb)).1 hab)

/-- Names without underscores are their own pieces. -/
theorem pieces_of_no_underscore {path : List String} (h : ∀ n ∈ path, '_' ∉ n.toList) :
    pieces path = path.map String.toList := by
  induction path with
  | nil => rfl
  | cons n path ih =>
      have hn : n.toList.splitOn '_' = [n.toList] :=
        List.splitOn_eq_singleton (h n List.mem_cons_self)
      have hp : pieces path = path.map String.toList :=
        ih fun m hm => h m (List.mem_cons_of_mem n hm)
      show n.toList.splitOn '_' ++ pieces path = _
      rw [hn, hp]
      rfl

theorem injOn_pieces_of_no_underscore {ps : Set (List String)}
    (h : ∀ path ∈ ps, ∀ n ∈ path, '_' ∉ n.toList) : Set.InjOn pieces ps := by
  intro a ha b hb hab
  rw [pieces_of_no_underscore (h a ha), pieces_of_no_underscore (h b hb)] at hab
  exact List.map_injective_iff.2 (fun _ _ => String.toList_injective) hab

/-! ## The names of the properties and of the required ones -/

theorem Leaf.name_eq (l : Leaf) : l.name = flatName l.path := rfl

theorem mem_names_ofLeaves (leaves : List Leaf) (n : String) :
    n ∈ Named.names (Flat.ofLeaves leaves).properties ↔ ∃ l ∈ leaves, flatName l.path = n := by
  unfold Flat.ofLeaves
  rw [Named.mem_names_ofList]
  simp [Named.names, Leaf.name_eq]

theorem Lists.mem_leafPositions_iff {reg : Registry} {s : Schema} {leaves : List Leaf}
    (h : Lists reg ⟨.body, [], s⟩ [] true leaves) (path : List String) :
    path ∈ leafPositions reg s ↔ ∃ l ∈ leaves, l.path = path := by
  constructor
  · rintro ⟨r, hp⟩
    obtain ⟨l, hl, he⟩ := List.mem_map.1 ((h.mem_iff path r).2 ⟨path, r, hp, rfl, rfl⟩)
    injection he with he
    exact ⟨l, hl, he⟩
  · rintro ⟨l, hl, rfl⟩
    obtain ⟨q, r, hq, he, -⟩ := (h.mem_iff l.path l.required).1 (List.mem_map.2 ⟨l, hl, rfl⟩)
    rw [List.nil_append] at he
    exact ⟨r, he ▸ hq⟩

theorem Lists.mem_requiredPositions_iff {reg : Registry} {s : Schema} {leaves : List Leaf}
    (h : Lists reg ⟨.body, [], s⟩ [] true leaves) (path : List String) :
    path ∈ requiredPositions reg s ↔ ∃ l ∈ leaves.filter (·.required), l.path = path := by
  constructor
  · intro hp
    obtain ⟨l, hl, he⟩ := List.mem_map.1 ((h.mem_iff path true).2 ⟨path, true, hp, rfl, rfl⟩)
    injection he with he hr
    exact ⟨l, List.mem_filter.2 ⟨hl, hr⟩, he⟩
  · rintro ⟨l, hl, rfl⟩
    obtain ⟨hl, hr⟩ := List.mem_filter.1 hl
    obtain ⟨q, r, hq, he, hr'⟩ := (h.mem_iff l.path l.required).1 (List.mem_map.2 ⟨l, hl, rfl⟩)
    rw [List.nil_append] at he
    rw [Bool.true_and] at hr'
    have hrt : r = true := hr' ▸ hr
    show LeafAt reg _ l.path true
    rw [he]
    exact hrt ▸ hq

/-- The names of leaves at different positions are different if and only if naming is injective
on these positions. -/
theorem nodup_names_iff {leaves : List Leaf} {ps : Set (List String)}
    (hnd : (leaves.map Leaf.path).Nodup) (hps : ∀ path, path ∈ ps ↔ ∃ l ∈ leaves, l.path = path) :
    (leaves.map Leaf.name).Nodup ↔ Set.InjOn flatName ps := by
  have hmap : leaves.map Leaf.name = (leaves.map Leaf.path).map flatName := by
    rw [List.map_map]
    rfl
  have hmem : ∀ path, path ∈ leaves.map Leaf.path ↔ path ∈ ps := by
    intro path
    rw [List.mem_map, hps]
  rw [hmap, List.nodup_map_iff_inj_on hnd]
  constructor
  · intro h a ha b hb hab
    exact h a ((hmem a).2 ha) b ((hmem b).2 hb) hab
  · intro h a ha b hb hab
    exact h ((hmem a).1 ha) ((hmem b).1 hb) hab

/-! ## No leaf is lost -/

/-- **Flattening keeps every leaf if and only if no two positions have the same pieces.** The names
of the properties are those of the leaves, each once, and the required names those of the required
leaves. There is one property for each position, or one required name for each required position,
exactly if cutting the names at their underscores keeps these positions apart; it does if no
property name on the way to a leaf has an underscore. -/
theorem flatten_keeps_leaves_iff {reg : Registry} {s : Schema} {flat : Flat}
    {notes : List Log.Note} (h : flatten reg s = .ok (flat, notes)) :
    (Named.names flat.properties).Nodup ∧
      {n | n ∈ Named.names flat.properties} = flatName '' leafPositions reg s ∧
      {n | n ∈ flat.required} = flatName '' requiredPositions reg s ∧
      (Set.BijOn flatName (leafPositions reg s) {n | n ∈ Named.names flat.properties} ↔
        Set.InjOn pieces (leafPositions reg s)) ∧
      (flat.required.Nodup ↔ Set.InjOn pieces (requiredPositions reg s)) ∧
      ((∀ path ∈ leafPositions reg s, ∀ n ∈ path, '_' ∉ n.toList) →
        Set.InjOn pieces (leafPositions reg s)) := by
  obtain ⟨leaves, rfl, hl⟩ := flatten_lists h
  -- the empty position would have the name of the position of one empty name
  have hne : ∀ path ∈ leafPositions reg s, path ≠ [] := fun _ => ne_nil_of_mem_leafPositions
  have hner : ∀ path ∈ requiredPositions reg s, path ≠ [] :=
    fun path hp => hne path (requiredPositions_subset reg s hp)
  have hnames : {n | n ∈ Named.names (Flat.ofLeaves leaves).properties}
      = flatName '' leafPositions reg s := by
    ext n
    rw [Set.mem_ofPred_eq, mem_names_ofLeaves, Set.mem_image]
    constructor
    · rintro ⟨l, hm, rfl⟩
      exact ⟨l.path, (hl.mem_leafPositions_iff _).2 ⟨l, hm, rfl⟩, rfl⟩
    · rintro ⟨path, hp, rfl⟩
      obtain ⟨l, hm, rfl⟩ := (hl.mem_leafPositions_iff _).1 hp
      exact ⟨l, hm, rfl⟩
  have hrequired : {n | n ∈ (Flat.ofLeaves leaves).required}
      = flatName '' requiredPositions reg s := by
    ext n
    show n ∈ (leaves.filter (·.required)).map Leaf.name ↔ _
    rw [List.mem_map, Set.mem_image]
    constructor
    · rintro ⟨l, hm, rfl⟩
      exact ⟨l.path, (hl.mem_requiredPositions_iff _).2 ⟨l, hm, rfl⟩, rfl⟩
    · rintro ⟨path, hp, rfl⟩
      obtain ⟨l, hm, rfl⟩ := (hl.mem_requiredPositions_iff _).1 hp
      exact ⟨l, hm, rfl⟩
  refine ⟨Named.nodup_names_ofList _, hnames, hrequired, ?_, ?_, ?_⟩
  · rw [← injOn_flatName_iff hne, hnames]
    constructor
    · intro hb
      exact hb.injOn
    · intro hi
      exact ⟨Set.mapsTo_image _ _, hi, Set.surjOn_image _ _⟩
  · rw [← injOn_flatName_iff hner]
    refine nodup_names_iff ?_ hl.mem_requiredPositions_iff
    exact hl.nodup.sublist (List.filter_sublist.map Leaf.path)
  · exact injOn_pieces_of_no_underscore

/-! ### Two leaves with one name -/

/-- A text. -/
def textSchema : Schema := .plain { type := .given (.one "string") }

/-- An object that requires its only property `b`, a text. -/
def inner : Schema :=
  .mk { required := .given ["b"] } (.given [("b", textSchema)])
    .absent .absent .absent .absent .absent

/-- A body that requires such an object `a` and a text `a_b`. -/
def underscored : Schema :=
  .mk { required := .given ["a", "a_b"] } (.given [("a", inner), ("a_b", textSchema)])
    .absent .absent .absent .absent .absent

theorem walk_textSchema (path : List String) (required : Bool) :
    walk [] {} path required textSchema
      = .ok [.leaf ⟨path, [], required, (simple {} (.text {})).withPlace path⟩] := by
  rw [walk]
  rfl

theorem walk_inner (path : List String) (required : Bool) :
    walk [] {} path required inner
      = walk [] {} (path ++ ["b"]) (required && true) textSchema := by
  rw [walk]
  show eventsAfter [] (do
    let here ← walk [] {} (path ++ ["b"]) (required && true) textSchema
    eventsAfter here (.ok [])) = _
  rw [walk_textSchema]
  rfl

theorem flatten_underscored : flatten [] underscored
    = .ok (⟨[("a_b", .simple {} (.text {}))], ["a_b", "a_b"]⟩, []) := by
  show (do
    let events ← eventsAfter [] (do
      let a ← walk [] {} ["a"] true inner
      eventsAfter a (do
        let b ← walk [] {} ["a_b"] true textSchema
        eventsAfter b (.ok [])))
    return (Flat.ofLeaves (leavesOf events), notesOf events)) = _
  rw [walk_inner, walk_textSchema, walk_textSchema]
  rfl

theorem underscored_not_injOn_pieces :
    ¬ Set.InjOn pieces (leafPositions [] underscored) ∧
      ¬ Set.InjOn pieces (requiredPositions [] underscored) := by
  obtain ⟨-, -, -, -, hr, -⟩ := flatten_keeps_leaves_iff flatten_underscored
  have hd : ¬ Set.InjOn pieces (requiredPositions [] underscored) := by
    rw [← hr]
    decide
  exact ⟨fun h => hd (h.mono (requiredPositions_subset _ _)), hd⟩

theorem leafAt_textSchema (entered : List String) :
    LeafAt [] ⟨.inside, entered, textSchema⟩ [] true := by
  refine .here rfl fun t g h => ?_
  have h : Schema.Place.at textSchema { visited := entered } = .at t g := h
  injection h with h
  rw [← h]
  rfl

/-- Two required leaves are called `a_b`: one property is left, and its name is required twice. -/
theorem underscored_loses_leaf :
    LeafAt [] ⟨.body, [], underscored⟩ ["a", "b"] true ∧
      LeafAt [] ⟨.body, [], underscored⟩ ["a_b"] true ∧
      flatName ["a", "b"] = flatName ["a_b"] ∧
      ∃ p, flatten [] underscored = .ok (⟨[("a_b", p)], ["a_b", "a_b"]⟩, []) := by
  have hb : HoldsProperty [] ⟨.inside, [], inner⟩ ⟨"b", none, textSchema⟩ true
      ⟨.inside, [], textSchema⟩ :=
    .intro (t := inner) (g := {}) rfl (.inr ⟨rfl, rfl⟩) List.mem_cons_self
  have ha : HoldsProperty [] ⟨.body, [], underscored⟩ ⟨"a", none, inner⟩ true
      ⟨.inside, [], inner⟩ :=
    .intro (t := underscored) (g := {}) rfl (.inl rfl) List.mem_cons_self
  have hmem : (⟨"a_b", none, textSchema⟩ : Part) ∈ parts [] underscored :=
    List.mem_cons_of_mem (⟨"a", none, inner⟩ : Part) List.mem_cons_self
  have hab : HoldsProperty [] ⟨.body, [], underscored⟩ ⟨"a_b", none, textSchema⟩ true
      ⟨.inside, [], textSchema⟩ :=
    .intro (t := underscored) (g := {}) rfl (.inl rfl) hmem
  have hleaf := leafAt_textSchema []
  exact ⟨.within ha (.within hb hleaf), .within hab hleaf, by decide, _, flatten_underscored⟩

end ApiTools.Property
