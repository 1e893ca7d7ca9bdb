import ApiTools.Proofs.Schema.Position

set_option autoImplicit false

/-!
# Where the properties of a composition come from

Which entry a property of a composed schema comes from can be told without composing: go through
the members in their order and write down, for each property that a reference brings along, the
name of the reference. A later reference writes over an earlier one, and a member that is written
in place takes its properties out again (`origins`). Collapsing the composition goes through the
same members for another purpose, and the two never disagree: a property that has an origin is
defined as in the entry with that name, and one without was written in the schema or in place.
-/

namespace ApiTools.Schema

/-! ## Origins -/

/-- The entry that the reference of a schema leads to, with its name. -/
def entry? (reg : Registry) (s : Schema) : Option (String × Schema) :=
  (s.ref?.bind Reference.name?).bind fun n => (reg.get? n).map fun t => (n, t)

theorem of_entry?_eq_some {reg : Registry} {s t : Schema} {n : String}
    (h : entry? reg s = some (n, t)) :
    s.ref?.bind Reference.name? = some n ∧ reg.get? n = some t := by
  obtain ⟨k, hk, hget⟩ := Option.bind_eq_some_iff.1 h
  obtain ⟨u, hu, heq⟩ := Option.map_eq_some_iff.1 hget
  cases heq
  exact ⟨hk, hu⟩

/-- The origins of properties once one more member was gone through. -/
def passMember (reg : Registry) (origins : List (String × String)) (m : Schema) :
    List (String × String) :=
  match m.ref? with
  | none => origins.filter fun e => !(Named.names m.propertyList).contains e.1
  | some _ =>
    match entry? reg m with
    | none => origins
    | some (n, t) => Named.insertAll origins (t.propertyList.map fun p => (p.1, n))

/-- The entries that the properties of a composed schema come from, by the names of the
properties. A property that came through no reference has none. -/
def origins (reg : Registry) (s : Schema) : List (String × String) :=
  (compositionMembers s).foldl (passMember reg) []

/-! ## The parts that members bring along -/

theorem members_eq_filterMap (reg : Registry) (s : Schema) :
    merged reg s ++ (variant? reg s).toList = (compositionMembers s).filterMap (member? reg) := by
  have hvariant : (variant? reg s).toList
      = ((members s.oneOf).take 1).filterMap (member? reg) := by
    unfold variant?
    cases members s.oneOf with
    | nil => rfl
    | cons m ms =>
        show (member? reg m).toList = [m].filterMap (member? reg)
        rw [List.filterMap_cons]
        cases member? reg m <;> rfl
  unfold merged resolved compositionMembers
  rw [hvariant, List.filterMap_append, List.filterMap_append]

/-- The parts that a member of the composition brings along, none if its reference leads
nowhere. -/
def broughtBy (reg : Registry) (m : Schema) : List Part :=
  (member? reg m).toList.flatMap Member.parts

theorem flatMap_parts_members (reg : Registry) (s : Schema) :
    (merged reg s ++ (variant? reg s).toList).flatMap Member.parts
      = (compositionMembers s).flatMap (broughtBy reg) := by
  rw [members_eq_filterMap, List.filterMap_eq_flatMap_toList, List.flatMap_assoc]
  rfl

theorem broughtBy_of_inline {reg : Registry} {m : Schema} (h : m.ref? = none) :
    broughtBy reg m = (Member.mk none m).parts := by
  unfold broughtBy member? target?
  rw [h]
  exact List.append_nil _

theorem broughtBy_of_ref {reg : Registry} {m : Schema} {ref : String} (h : m.ref? = some ref) :
    broughtBy reg m = match entry? reg m with
      | none => []
      | some (n, t) => (Member.mk (some n) t).parts := by
  unfold broughtBy member? target? entry? Reference.resolve?
  rw [h]
  dsimp only [Option.bind_some]
  cases Reference.name? ref with
  | none => rfl
  | some n =>
      dsimp only [Option.bind_some]
      cases reg.get? n with
      | none => rfl
      | some t => exact List.append_nil _

/-- The last of the parts with a name: where it comes from, and its schema. -/
def last? (ps : List Part) (n : String) : Option (Option String × Schema) :=
  Named.get? (ps.map Part.entry).reverse n

theorem last?_append (ps qs : List Part) (n : String) :
    last? (ps ++ qs) n = (last? qs n).or (last? ps n) := by
  unfold last?
  rw [List.map_append, List.reverse_append, Named.get?_append]

theorem last?_parts (o : Option String) (t : Schema) (n : String) :
    last? (Member.mk o t).parts n = (declared? t n).map fun s => (o, s) := by
  unfold last? declared? Member.parts
  rw [List.map_map, ← List.map_reverse]
  exact Named.get?_map (fun s => (o, s)) _ n

/-! ## Origins and parts -/

theorem get?_filter_not_mem (xs : List (String × String)) (ns : List String) (n : String) :
    Named.get? (xs.filter fun e => !ns.contains e.1) n
      = if n ∈ ns then none else Named.get? xs n := by
  split
  · next h =>
    rw [Named.get?_eq_none_iff]
    intro hn
    obtain ⟨e, he, rfl⟩ := List.mem_map.1 hn
    simp [h] at he
  · next h =>
    unfold Named.get?
    rw [List.find?_filter]
    congr 2
    funext e
    by_cases he : e.1 = n <;> simp [he, h]

theorem declared?_eq_none_iff (s : Schema) (n : String) :
    declared? s n = none ↔ n ∉ Named.names s.propertyList := by
  unfold declared?
  rw [Named.get?_eq_none_iff, Named.names, List.map_reverse, List.mem_reverse]
  rfl

/-- What going through one more member does to a property that it brings along, and to any
other. -/
theorem get?_passMember (reg : Registry) (o : List (String × String)) (m : Schema) (n : String) :
    Named.get? (passMember reg o m) n = match last? (broughtBy reg m) n with
      | none => Named.get? o n
      | some (origin, _) => origin := by
  unfold passMember
  cases hr : m.ref? with
  | none =>
      dsimp only
      rw [broughtBy_of_inline hr, last?_parts, get?_filter_not_mem]
      cases hd : declared? m n with
      | none => exact if_neg ((declared?_eq_none_iff m n).1 hd)
      | some t =>
          refine if_pos ?_
          by_contra hn
          rw [(declared?_eq_none_iff m n).2 hn] at hd
          cases hd
  | some ref =>
      dsimp only
      rw [broughtBy_of_ref hr]
      cases entry? reg m with
      | none => rfl
      | some e =>
          -- every property of the entry gets its name
          have hnames : Named.get? (e.2.propertyList.map fun p => (p.1, e.1)).reverse n
              = (declared? e.2 n).map fun _ => e.1 := by
            rw [← List.map_reverse]
            exact Named.get?_map (fun _ => e.1) _ n
          dsimp only
          rw [last?_parts, Named.get?_insertAll, hnames]
          cases declared? e.2 n <;> rfl

/-- The origins hold what the last part with a name says about where it comes from. -/
theorem get?_foldl_passMember (reg : Registry) (ms : List Schema) (n : String) :
    Named.get? (ms.foldl (passMember reg) []) n
      = (last? (ms.flatMap (broughtBy reg)) n).bind (·.1) := by
  induction ms using List.reverseRecOn with
  | nil => rfl
  | append_singleton ms m ih =>
      have hlast : last? ((ms ++ [m]).flatMap (broughtBy reg)) n
          = (last? (broughtBy reg m) n).or (last? (ms.flatMap (broughtBy reg)) n) := by
        rw [List.flatMap_append, last?_append, List.flatMap_singleton]
      rw [List.foldl_append, List.foldl_cons, List.foldl_nil, get?_passMember, ih, hlast]
      cases last? (broughtBy reg m) n <;> rfl

/-- The last part with a name is the one that the collapsed schema has. -/
theorem get?_entries_parts (reg : Registry) (s : Schema) (n : String) :
    Named.get? ((parts reg s).map Part.entry) n
      = (last? ((compositionMembers s).flatMap (broughtBy reg)) n).or
          ((declared? s n).map fun c => (none, c)) := by
  have hadded : (parts reg s).map Part.entry = Named.ofList
      (((Member.mk none s).parts ++ (compositionMembers s).flatMap (broughtBy reg)).map
        Part.entry) := by
    unfold parts
    rw [entries_foldl_insertPart, flatMap_parts_members]
    rfl
  rw [hadded, Named.get?_ofList]
  exact (last?_append _ _ n).trans (by rw [last?_parts])

theorem get?_origins (reg : Registry) (s : Schema) (n : String) :
    Named.get? (origins reg s) n = (Named.get? ((parts reg s).map Part.entry) n).bind (·.1) := by
  unfold origins
  rw [get?_foldl_passMember, get?_entries_parts]
  cases last? ((compositionMembers s).flatMap (broughtBy reg)) n with
  | some e => rfl
  | none => cases declared? s n <;> rfl

theorem declared?_compose (reg : Registry) (s : Schema) (n : String) :
    declared? (compose reg s) n = (Named.get? ((parts reg s).map Part.entry) n).map (·.2) := by
  have hforget : (parts reg s).map (fun p => (p.name, p.schema))
      = ((parts reg s).map Part.entry).map fun e => (e.1, e.2.2) := by
    rw [List.map_map]
    rfl
  rw [← Named.get?_map fun e : Option String × Schema => e.2, ← hforget, parts_eq_ofList_compose,
    Named.get?_ofList]
  rfl

/-! ## Who defines a property -/

theorem exists_of_last?_flatMap {reg : Registry} {ms : List Schema} {n : String}
    {x : Option String × Schema} (h : last? (ms.flatMap (broughtBy reg)) n = some x) :
    ∃ m ∈ ms, last? (broughtBy reg m) n = some x := by
  induction ms with
  | nil => cases h
  | cons m ms ih =>
      rw [List.flatMap_cons, last?_append, Option.or_eq_some_iff] at h
      -- a later member comes first
      rcases h with h | ⟨-, h⟩
      · obtain ⟨m', hm, hx⟩ := ih h
        exact ⟨m', List.mem_cons_of_mem m hm, hx⟩
      · exact ⟨m, List.mem_cons_self, h⟩

/-- A member that brings a property along defines it in place, or refers to the entry that defines
it. -/
theorem last?_broughtBy {reg : Registry} {m c : Schema} {n : String} {o : Option String}
    (h : last? (broughtBy reg m) n = some (o, c)) :
    (o = none ∧ m.ref? = none ∧ declared? m n = some c) ∨
      ∃ k t, o = some k ∧ reg.get? k = some t ∧ declared? t n = some c := by
  cases hr : m.ref? with
  | none =>
      rw [broughtBy_of_inline hr, last?_parts, Option.map_eq_some_iff] at h
      obtain ⟨c', hc, heq⟩ := h
      cases heq
      exact .inl ⟨rfl, rfl, hc⟩
  | some ref =>
      rw [broughtBy_of_ref hr] at h
      cases he : entry? reg m with
      | none =>
          rw [he] at h
          cases h
      | some e =>
          obtain ⟨k, t⟩ := e
          rw [he] at h
          dsimp only at h
          rw [last?_parts, Option.map_eq_some_iff] at h
          obtain ⟨c', hc, heq⟩ := h
          cases heq
          exact .inr ⟨k, t, rfl, (of_entry?_eq_some he).2, hc⟩

/-- **The origins of properties agree with what a composition collapses into.** A property with an
origin is defined as in the entry with that name, which is there. A property of the collapsed schema
without an origin is defined as in the schema itself or in a member that is written in place. The
guard of a way enters exactly these origins. -/
theorem origins_agree (reg : Registry) (s : Schema) :
    (∀ n k, Named.get? (origins reg s) n = some k →
      ∃ t c, reg.get? k = some t ∧ declared? t n = some c ∧
        declared? (compose reg s) n = some c) ∧
    (∀ n c, declared? (compose reg s) n = some c → Named.get? (origins reg s) n = none →
      ∃ m, (m = s ∨ m ∈ compositionMembers s ∧ m.ref? = none) ∧ declared? m n = some c) ∧
    ∀ p ∈ parts reg s, Named.get? (origins reg s) p.name = p.origin := by
  refine ⟨fun n k hk => ?_, fun n c hc hnone => ?_, fun p hp => ?_⟩
  · rw [get?_origins] at hk
    obtain ⟨⟨o, c⟩, hx, rfl⟩ := Option.bind_eq_some_iff.1 hk
    have hc : declared? (compose reg s) n = some c := by
      rw [declared?_compose, hx]
      rfl
    rw [get?_entries_parts, Option.or_eq_some_iff] at hx
    rcases hx with hx | ⟨-, hx⟩
    · obtain ⟨m, -, hm⟩ := exists_of_last?_flatMap hx
      rcases last?_broughtBy hm with ⟨ho, -⟩ | ⟨k', t, ho, ht, hd⟩
      · cases ho
      · cases ho
        exact ⟨t, c, ht, hd, hc⟩
    · -- what the schema defines itself has no origin
      obtain ⟨_, -, heq⟩ := Option.map_eq_some_iff.1 hx
      cases heq
  · rw [get?_origins] at hnone
    rw [declared?_compose] at hc
    obtain ⟨⟨o, c'⟩, hx, rfl⟩ := Option.map_eq_some_iff.1 hc
    rw [hx] at hnone
    rw [get?_entries_parts, Option.or_eq_some_iff] at hx
    rcases hx with hx | ⟨-, hx⟩
    · obtain ⟨m, hm, hlast⟩ := exists_of_last?_flatMap hx
      rcases last?_broughtBy hlast with ⟨-, hr, hd⟩ | ⟨k, -, rfl, -⟩
      · exact ⟨m, .inr ⟨hm, hr⟩, hd⟩
      · cases hnone
    · obtain ⟨c, hd, heq⟩ := Option.map_eq_some_iff.1 hx
      cases heq
      exact ⟨s, .inl rfl, hd⟩
  · have hnodup : (Named.names ((parts reg s).map Part.entry)).Nodup := by
      unfold Named.names
      rw [List.map_map]
      exact nodup_parts reg s
    have hget : Named.get? ((parts reg s).map Part.entry) p.name = some (p.origin, p.schema) :=
      Named.get?_of_mem hnodup (List.mem_map_of_mem hp)
    rw [get?_origins, hget]
    rfl

/-! ### A property that is written over -/

/-- A label that is a text. -/
def labelText : Schema := .plain { type := .given (.one "string") }

/-- A label that is a number. -/
def labelNumber : Schema := .plain { type := .given (.one "integer") }

/-- Entities have an identifier and a label. -/
def entities : Registry :=
  [("Entity", .mk {} (.given [("id", labelText), ("label", labelText)])
    .absent .absent .absent .absent .absent)]

/-- An entity whose label is a number. -/
def numbered : Schema :=
  .mk {} .absent .absent
    (.given [.plain { ref := .given "#/definitions/Entity" },
      .mk {} (.given [("label", labelNumber)]) .absent .absent .absent .absent .absent])
    .absent .absent .absent

/-- The identifier comes from the entry, the label does not any more. -/
theorem numbered_origins :
    (Named.get? (origins entities numbered) "id" = some "Entity" ∧
      ∃ t c, entities.get? "Entity" = some t ∧ declared? t "id" = some c ∧
        declared? (compose entities numbered) "id" = some c) ∧
    Named.get? (origins entities numbered) "label" = none ∧
      ∃ m, (m = numbered ∨ m ∈ compositionMembers numbered ∧ m.ref? = none) ∧
        declared? m "label" = some labelNumber := by
  obtain ⟨horigin, hinline, -⟩ := origins_agree entities numbered
  exact ⟨⟨rfl, horigin "id" "Entity" rfl⟩, rfl, hinline "label" labelNumber rfl rfl⟩

end ApiTools.Schema
