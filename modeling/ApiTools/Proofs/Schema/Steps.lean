import ApiTools.Proofs.Named
import ApiTools.Schema.Walk

set_option autoImplicit false

/-!
# What the steps through a schema do

A guard has two parts: the entries that were entered, which decide where a schema leads, and the
variants whose items were taken, which only tell whether the way ends. The lemmas below say what
following a reference and stepping into items do to the two parts, and that the items which a
step finds are those of the collapsed schema.
-/

namespace ApiTools.Schema

/-! ## Following a reference -/

/-- A place is reached behind the same guard, or behind a named entry that was not entered. -/
theorem follow_at_cases {reg : Registry} {g g' : Guard} {s t : Schema}
    (h : follow reg g s = .at t g') :
    (s.ref? = none ∧ t = s ∧ g' = g) ∨
      ∃ n, (s.ref?.bind Reference.name?) = some n ∧ n ∉ g.visited ∧ reg.get? n = some t ∧
        g' = g.enter n := by
  unfold follow at h
  cases hr : s.ref? with
  | none =>
      rw [hr] at h
      obtain ⟨rfl, rfl, -⟩ := settleAt_eq_at h
      exact .inl ⟨rfl, rfl, rfl⟩
  | some ref =>
      rw [hr] at h
      dsimp only at h
      cases hn : Reference.name? ref with
      | none => rw [hn] at h; cases h
      | some n =>
          rw [hn] at h
          dsimp only at h
          split at h
          · cases h
          · next hv =>
            split at h
            · cases h
            · next u hu =>
              obtain ⟨rfl, rfl, -⟩ := settleAt_eq_at h
              exact .inr ⟨n, by rw [Option.bind_some, hn], by simpa using hv, hu, rfl⟩

theorem settleAt_at {g : Guard} {s : Schema}
    (h : ∀ n ∈ compositionNames s, g.visited.contains n = false) : settleAt g s = .at s g := by
  unfold settleAt
  rw [if_neg]
  simp only [List.any_eq_true, not_exists, not_and, Bool.not_eq_true]
  exact h

/-- Where a schema leads depends on the entries that were entered only. -/
theorem follow_at_of_visited_eq {reg : Registry} {g g' h : Guard} {s t : Schema}
    (hv : g.visited = h.visited) (hf : follow reg g s = .at t g') :
    ∃ h', follow reg h s = .at t h' ∧ h'.visited = g'.visited := by
  have hnames := follow_names hf
  rcases follow_at_cases hf with ⟨hr, rfl, rfl⟩ | ⟨n, hn, hin, hg, rfl⟩
  · -- without a reference the guard only has to let the composition through
    refine ⟨h, ?_, hv.symm⟩
    unfold follow
    rw [hr]
    exact settleAt_at fun n hn => hv ▸ hnames n hn
  · obtain ⟨ref, hr, hname⟩ := Option.bind_eq_some_iff.1 hn
    refine ⟨h.enter n, ?_, by simp only [Guard.enter, hv]⟩
    unfold follow
    rw [hr]
    dsimp only
    rw [hname]
    dsimp only
    rw [if_neg (by rw [← hv]; simpa using hin), hg]
    refine settleAt_at fun k hk => ?_
    have := hnames k hk
    simpa only [Guard.enter, ← hv] using this

/-! ## Properties -/

/-- A property under its name. -/
def Part.entry (p : Part) : String × Option String × Schema := (p.name, p.origin, p.schema)

theorem entries_insertPart (ps : List Part) (p : Part) :
    (insertPart ps p).map Part.entry
      = Named.insert (ps.map Part.entry) p.name (p.origin, p.schema) := by
  induction ps with
  | nil => rfl
  | cons q ps ih =>
      unfold insertPart
      rw [List.map_cons]
      unfold Named.insert
      by_cases hq : q.name = p.name
      · rw [if_pos (by simpa using hq), List.map_cons]
        show p.entry :: _ = if (q.name == p.name) = true then (q.name, _) :: _ else _
        rw [if_pos (by simpa using hq), hq]
        rfl
      · rw [if_neg (by simpa using hq), List.map_cons, ih]
        show q.entry :: _ = if (q.name == p.name) = true then _ else _
        rw [if_neg (by simpa using hq)]

theorem entries_foldl_insertPart (others ps : List Part) :
    (others.foldl insertPart ps).map Part.entry
      = Named.insertAll (ps.map Part.entry) (others.map Part.entry) := by
  induction others generalizing ps with
  | nil => rfl
  | cons p others ih =>
      rw [List.foldl_cons, ih, entries_insertPart]
      rfl

/-- The properties of a collapsed schema have different names. -/
theorem nodup_parts (reg : Registry) (s : Schema) : ((parts reg s).map (·.name)).Nodup := by
  have h : (parts reg s).map (·.name) = Named.names ((parts reg s).map Part.entry) := by
    unfold Named.names
    rw [List.map_map]
    rfl
  rw [h, parts, entries_foldl_insertPart]
  exact Named.nodup_names_ofList _

theorem Part.visited_guard {p : Part} {g h : Guard} (e : g.visited = h.visited) :
    (p.guard g).visited = (p.guard h).visited := by
  unfold Part.guard
  cases p.origin with
  | none => exact e
  | some n => simp only [Guard.enter, e]

/-- A property lies in the schema itself, or in an entry that was not entered before. -/
theorem part_cases {reg : Registry} {g : Guard} {s : Schema} {p : Part}
    (hp : p ∈ parts reg s) (hn : ∀ n ∈ compositionNames s, g.visited.contains n = false) :
    (p.guard g = g ∧ sizeOf p.schema < sizeOf s) ∨
      ∃ n, n ∉ g.visited ∧ (reg.get? n).isSome ∧ p.guard g = g.enter n := by
  rcases List.mem_append.1 (mem_of_mem_parts hp) with hp | hp
  · obtain ⟨q, hq, rfl⟩ := List.mem_map.1 hp
    exact .inl ⟨rfl, sizeOf_of_mem_propertyList hq⟩
  · obtain ⟨m, hm, hp⟩ := List.mem_flatMap.1 hp
    obtain ⟨q, hq, rfl⟩ := List.mem_map.1 hp
    rcases mem_members hm with ⟨c, hc, rfl⟩ | ⟨n, hnames, ho, hg⟩
    · exact .inl ⟨rfl,
        Nat.lt_trans (sizeOf_of_mem_propertyList hq) (sizeOf_of_mem_compositionMembers hc)⟩
    · refine .inr ⟨n, by simpa using hn n hnames, by rw [hg]; rfl, ?_⟩
      simp only [Part.guard, ho]

/-! ## Items -/

theorem variant?_eq_none {reg : Registry} {s : Schema} (h : s.hasComposition = false) :
    variant? reg s = none := by
  have ho : members s.oneOf = [] := by
    unfold hasComposition at h
    simp only [Bool.or_eq_false_iff, Bool.not_eq_false', List.isEmpty_iff] at h
    exact h.1.2
  rw [variant?, ho]
  rfl

/-- The items of a collapsed schema are those that the variant writes, or the schema's own. -/
theorem compose_items (reg : Registry) (s : Schema) :
    (compose reg s).items = match variant? reg s with
      | none => s.items
      | some v => v.schema.items.orElse s.items := by
  unfold compose
  split
  · next h => rw [variant?_eq_none (by simpa using h)]
  · rfl

/-- A variant is an inline member of the composition, or an entry that the composition names. -/
theorem variant?_cases {reg : Registry} {s : Schema} {v : Member} (h : variant? reg s = some v) :
    (v.origin = none ∧ sizeOf v.schema < sizeOf s) ∨
      ∃ n ∈ compositionNames s, v.origin = some n ∧ reg.get? n = some v.schema := by
  have hm : v ∈ merged reg s ++ (variant? reg s).toList := by simp [h]
  rcases mem_members hm with ⟨c, hc, rfl⟩ | h
  · exact .inl ⟨rfl, sizeOf_of_mem_compositionMembers hc⟩
  · exact .inr h

/-- The items that a variant brings along through a reference. -/
def BorrowedItems (reg : Registry) (s : Schema) (name : String) (items : Schema) : Prop :=
  ∃ v, variant? reg s = some v ∧ v.origin = some name ∧ v.schema.items = .given items

/-- Borrowed items are the items of the named entry. -/
theorem BorrowedItems.entry {reg : Registry} {s i : Schema} {n : String}
    (h : BorrowedItems reg s n i) : ∃ e, reg.get? n = some e ∧ e.items = .given i := by
  obtain ⟨v, hv, ho, hi⟩ := h
  rcases variant?_cases hv with ⟨hn, -⟩ | ⟨k, -, hk, hg⟩
  · rw [ho] at hn; cases hn
  · rw [ho] at hk
    obtain rfl : n = k := by injection hk
    exact ⟨v.schema, hg, hi⟩

theorem BorrowedItems.compose_items {reg : Registry} {s i : Schema} {n : String}
    (h : BorrowedItems reg s n i) : (compose reg s).items = .given i := by
  obtain ⟨v, hv, -, hi⟩ := h
  rw [Schema.compose_items, hv]
  dsimp only
  rw [hi]
  rfl

/-- What a step into items does: it finds none, or it finds those of the collapsed schema, which
lie in the schema or are borrowed, or it is refused since they were borrowed before. -/
theorem itemStep_cases (reg : Registry) (g : Guard) (s : Schema) :
    (itemStep reg g s = .none ∧ ∀ i, (compose reg s).items ≠ .given i) ∨
      (∃ i, itemStep reg g s = .into i g ∧ (compose reg s).items = .given i ∧
        sizeOf i < sizeOf s) ∨
      ∃ n i, BorrowedItems reg s n i ∧
        ((n ∈ g.taken ∧ itemStep reg g s = .unending) ∨
          (n ∉ g.taken ∧ itemStep reg g s = .into i (g.take n))) := by
  have hc := compose_items reg s
  unfold itemStep
  cases hv : variant? reg s with
  | none =>
      rw [hv] at hc
      dsimp only at hc ⊢
      rw [hc]
      cases hi : s.items with
      | absent => exact .inl ⟨rfl, fun i h => by cases h⟩
      | null => exact .inl ⟨rfl, fun i h => by cases h⟩
      | given i => exact .inr (.inl ⟨i, rfl, rfl, sizeOf_of_items hi⟩)
  | some v =>
      rw [hv] at hc
      dsimp only at hc ⊢
      rw [hc]
      cases hi : v.schema.items with
      | absent =>
          -- a variant that writes no items leaves the schema its own
          dsimp only [Facet.orElse]
          cases hj : s.items with
          | absent => exact .inl ⟨rfl, fun i h => by cases h⟩
          | null => exact .inl ⟨rfl, fun i h => by cases h⟩
          | given i => exact .inr (.inl ⟨i, rfl, rfl, sizeOf_of_items hj⟩)
      | null => exact .inl ⟨rfl, fun i h => by cases h⟩
      | given i =>
          dsimp only [Facet.orElse]
          cases ho : v.origin with
          | none =>
              -- an inline variant lies in the schema, so its items are smaller
              refine .inr (.inl ⟨i, rfl, rfl, ?_⟩)
              rcases variant?_cases hv with ⟨-, hlt⟩ | ⟨n, -, hn, -⟩
              · exact Nat.lt_trans (sizeOf_of_items hi) hlt
              · rw [ho] at hn; cases hn
          | some n =>
              refine .inr (.inr ⟨n, i, ⟨v, hv, ho, hi⟩, ?_⟩)
              by_cases hn : n ∈ g.taken
              · exact .inl ⟨hn, by simp [hn]⟩
              · exact .inr ⟨hn, by simp [hn]⟩

/-! ## What no step loses -/

/-- No step leads from a schema of a kind to one that is not of the kind: neither following a
reference, nor a property, nor the items. -/
structure IsKept (reg : Registry) (Q : Schema → Prop) : Prop where
  follow : ∀ {g s t g'}, Q s → Schema.follow reg g s = .at t g' → Q t
  part : ∀ {s p}, Q s → p ∈ parts reg s → Q p.schema
  items : ∀ {g s i g'}, Q s → itemStep reg g s = .into i g' → Q i

theorem isKept_true (reg : Registry) : IsKept reg fun _ => True :=
  ⟨fun _ _ => trivial, fun _ _ => trivial, fun _ _ => trivial⟩

end ApiTools.Schema
