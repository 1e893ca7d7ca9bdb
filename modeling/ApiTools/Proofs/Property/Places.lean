import ApiTools.Proofs.Property.Order
import ApiTools.Proofs.Tool.WellFormed

set_option autoImplicit false

/-!
# Where flattened values belong

A value that was taken out of a nested body says where it belongs there: the names on the way to
it with points between them. Whoever puts the body together again cuts this text at its points.
That leads back to the leaf if no name on the way has a point itself; a name with a point is cut
into several names, and the value ends up elsewhere.
-/

namespace ApiTools.Property

open Schema

/-! ## Reading places -/

/-- The names in a place: the text between its points. -/
def placeNames (place : String) : List String := (place.toList.splitOn '.').map String.ofList

/-- Nothing that cutting leaves holds a character that was cut at. -/
theorem not_mem_of_mem_splitOn {c : Char} {cs piece : List Char} (h : piece ∈ cs.splitOn c) :
    c ∉ piece := by
  by_cases hc : c ∈ cs
  · -- the first piece ends where the character first comes up
    obtain ⟨first, rest, rfl, hfirst⟩ := List.eq_append_cons_of_mem hc
    rw [List.splitOn_append_cons_self, List.splitOn_eq_singleton hfirst] at h
    rcases List.mem_cons.1 h with rfl | h
    · exact hfirst
    · exact not_mem_of_mem_splitOn h
  · rw [List.splitOn_eq_singleton hc, List.mem_singleton] at h
    rwa [h]
termination_by cs.length

/-- Reading a place cuts every name on the way at its points. -/
theorem placeNames_intercalate {path : List String} (h : path ≠ []) :
    placeNames (".".intercalate path) = path.flatMap placeNames := by
  unfold placeNames
  rw [splitOn_intercalate rfl h, List.map_flatMap]

theorem placeNames_of_no_point {n : String} (h : '.' ∉ n.toList) : placeNames n = [n] := by
  unfold placeNames
  rw [List.splitOn_eq_singleton h, List.map_singleton, String.ofList_toList]

/-- **A place leads back to where it was taken if and only if no name on the way has a point.** -/
theorem placeNames_intercalate_eq_iff {path : List String} (h : path ≠ []) :
    placeNames (".".intercalate path) = path ↔ ∀ n ∈ path, '.' ∉ n.toList := by
  constructor
  · intro heq n hn
    rw [← heq] at hn
    obtain ⟨piece, hp, rfl⟩ := List.mem_map.1 hn
    rw [String.toList_ofList]
    exact not_mem_of_mem_splitOn hp
  · intro hall
    rw [placeNames_intercalate h, List.flatMap_congr fun n hn => placeNames_of_no_point (hall n hn)]
    exact List.flatMap_singleton' path

/-! ## The place of a leaf -/

theorem placement_withPlace {p : Property} (h : p.traits.IsUnplaced) (path : List String) :
    ((p.withPlace path).traits.isFlattened = some true ↔ 2 ≤ path.length) ∧
      (2 ≤ path.length → (p.withPlace path).traits.fullPath = some (".".intercalate path) ∧
        (p.withPlace path).traits.parentObject = path.head?) := by
  match path with
  | [] => simp [withPlace, h.1]
  | [_] => simp [withPlace, h.1]
  | first :: second :: rest =>
      have hplace : p.withPlace (first :: second :: rest) = p.updateTraits fun t =>
          { t with
            fullPath := some (".".intercalate (first :: second :: rest))
            parentObject := some first
            isFlattened := some true } := rfl
      rw [hplace, traits_updateTraits]
      simp

/-- Under each name there is the property of the last leaf that has the name. -/
theorem last_of_mem_ofLeaves {leaves : List Leaf} {n : String} {p : Property}
    (h : (n, p) ∈ (Flat.ofLeaves leaves).properties) :
    ∃ before l after, leaves = before ++ l :: after ∧ l.name = n ∧ l.property = p ∧
      ∀ m ∈ after, m.name ≠ n := by
  have hn : n ∈ Named.names (leaves.map fun l => (l.name, l.property)) :=
    (Named.mem_names_ofList _ n).1 (List.mem_map_of_mem h)
  obtain ⟨before, q, after, hsplit, hafter, hq⟩ := Named.get?_ofList_of_mem hn
  -- the list that was put together holds one property under the name
  have hpq : p = q := by
    have hp := Named.get?_ofList_of_nodup (Named.nodup_names_ofList _) h
    rw [Named.ofList_of_nodup (Named.nodup_names_ofList _)] at hp
    exact Option.some.inj (hp.symm.trans hq)
  obtain ⟨before', rest, rfl, rfl, hrest⟩ := List.map_eq_append_iff.1 hsplit
  obtain ⟨l, after', rfl, hl, rfl⟩ := List.map_eq_cons_iff.1 hrest
  injection hl with hname hproperty
  refine ⟨before', l, after', rfl, hname, hproperty.trans hpq.symm, fun m hm hmn => hafter ?_⟩
  exact List.mem_map.2 ⟨(m.name, m.property), List.mem_map_of_mem hm, hmn⟩

/-- **A flattened value says where it belongs up to points in names.** The property under a name
is that of the last leaf with the name. If the leaf lies inside an object, the property names the
object of the body that it is in, and the names in its place are those on the way to the leaf, each
cut at its points: they are the way itself if and only if none of them has a point. -/
theorem flatten_places {reg : Registry} {s : Schema} {flat : Flat} {notes : List Log.Note}
    (h : flatten reg s = .ok (flat, notes)) {n : String} {p : Property}
    (hp : (n, p) ∈ flat.properties) :
    ∃ path ∈ leafPositions reg s,
      n = flatName path ∧
      (∀ other ∈ leafPositions reg s, flatName other = n →
        other = path ∨ Precedes reg s other path) ∧
      (p.traits.isFlattened = some true ↔ 2 ≤ path.length) ∧
      (p.traits.isFlattened = some true → p.traits.parentObject = path.head? ∧
        ∃ place, p.traits.fullPath = some place ∧ placeNames place = path.flatMap placeNames ∧
          (placeNames place = path ↔ ∀ m ∈ path, '.' ∉ m.toList)) := by
  obtain ⟨events, hw, rfl⟩ := flatten_eq_ok h
  have hl := walkBody_lists hw
  have hordered := walkBody_pairwise_precedes hw
  obtain ⟨before, l, after, hsplit, rfl, rfl, hlast⟩ := last_of_mem_ofLeaves hp
  have hmem : l ∈ leavesOf events := by rw [hsplit]; simp
  have hpath : l.path ∈ leafPositions reg s := (hl.mem_leafPositions_iff _).2 ⟨l, hmem, rfl⟩
  -- the property of the leaf is a converted one, put in its place
  obtain ⟨g, t, q, ns, -, hc, hq⟩ :=
    walkBody_convertedFrom (isKept_true reg) trivial hw l hmem
  obtain ⟨-, hunplaced, -⟩ := isPlain_of_convertFrom hc
  obtain ⟨hflattened, hplace⟩ := placement_withPlace hunplaced l.path
  rw [← hq] at hflattened hplace
  refine ⟨l.path, hpath, rfl, ?_, hflattened, fun hf => ?_⟩
  · intro other hother hname
    obtain ⟨m, hm, rfl⟩ := (hl.mem_leafPositions_iff _).1 hother
    rw [hsplit] at hm hordered
    rw [List.map_append, List.map_cons] at hordered
    rcases List.mem_append.1 hm with hm | hm
    · exact .inr ((List.pairwise_append.1 hordered).2.2 _ (List.mem_map_of_mem hm) _
        List.mem_cons_self)
    · rcases List.mem_cons.1 hm with rfl | hm
      · exact .inl rfl
      · exact absurd hname (hlast m hm)
  · obtain ⟨hfull, hparent⟩ := hplace (hflattened.1 hf)
    have hne : l.path ≠ [] := ne_nil_of_mem_leafPositions hpath
    exact ⟨hparent, _, hfull, placeNames_intercalate hne, placeNames_intercalate_eq_iff hne⟩

/-- The text in the only object of a body says that it belongs into that object. -/
theorem postPet_places_text :
    ∃ path ∈ leafPositions [] (objectOf "a" inner), "a_b" = flatName path ∧
      path.head? = some "a" ∧ (placeNames "a.b" = path ↔ ∀ m ∈ path, '.' ∉ m.toList) := by
  obtain ⟨path, hpath, hname, -, -, hplace⟩ :=
    flatten_places Endpoint.flatten_body_postPet List.mem_cons_self
  obtain ⟨hparent, place, hfull, -, hiff⟩ := hplace rfl
  obtain rfl : "a.b" = place := Option.some.inj hfull
  exact ⟨path, hpath, hname, hparent.symm, hiff⟩

/-! ### An object with a point in its name -/

/-- A body with a text `lat` in an object `geo.point`. -/
def pointed : Schema := objectOf "geo.point" (objectOf "lat" textSchema)

/-- The text, with its place in the body. -/
def pointedText : Property := (Property.simple {} (.text {})).withPlace ["geo.point", "lat"]

theorem walk_objectOf (n : String) (path : List String) (required : Bool) :
    walk [] {} path required (objectOf n textSchema)
      = walk [] {} (path ++ [n]) (required && false) textSchema := by
  rw [walk]
  show eventsAfter [] (do
    let here ← walk [] {} (path ++ [n]) (required && false) textSchema
    eventsAfter here (.ok [])) = _
  rw [walk_textSchema]
  rfl

theorem walkBody_pointed :
    walkBody [] pointed = .ok [.leaf ⟨["geo.point", "lat"], [], false, pointedText⟩] := by
  show eventsAfter [] (do
    let geo ← walk [] {} ["geo.point"] false (objectOf "lat" textSchema)
    eventsAfter geo (.ok [])) = _
  rw [walk_objectOf, walk_textSchema]
  rfl

theorem flatten_pointed :
    flatten [] pointed = .ok (⟨[("geo.point_lat", pointedText)], []⟩, []) := by
  unfold flatten
  rw [walkBody_pointed]
  rfl

/-- The names in the place of this text are those on the way to no leaf of the body, and the first
of them is not the object that the text is in. -/
theorem pointed_place_misleads :
    (∃ notes, flatten [] pointed = .ok (⟨[("geo.point_lat", pointedText)], []⟩, notes)) ∧
      pointedText.traits.isFlattened = some true ∧
      pointedText.traits.fullPath = some "geo.point.lat" ∧
      placeNames "geo.point.lat" = ["geo", "point", "lat"] ∧
      leafPositions [] pointed = {["geo.point", "lat"]} ∧
      pointedText.traits.parentObject = some "geo.point" := by
  refine ⟨⟨[], flatten_pointed⟩, rfl, rfl, by decide, ?_, rfl⟩
  ext path
  rw [(walkBody_lists walkBody_pointed).mem_leafPositions_iff, Set.mem_singleton_iff]
  simp [leavesOf, eq_comm]

end ApiTools.Property
