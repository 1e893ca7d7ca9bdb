import ApiTools.Schema.Compose

set_option autoImplicit false

/-!
# Ways through a schema

Schemas refer to each other and may do so in circles, so a way from a schema into its parts
remembers the registry entries it has entered and does not enter one of them again. A step into
a property enters the entry that the property came from. A step into the items of an array
enters no entry: items that a variant brings along through a reference are watched separately,
and a way that would take the same variant twice has no end.

The steps are measured by the entries that are not entered yet, then by the variants that are
not taken yet, then by the size of the schema; each step makes this measure smaller.
-/

namespace ApiTools.Schema

/-- What a way has passed. -/
structure Guard where
  /-- The registry entries that were entered, the latest first. -/
  visited : List String := []
  /-- The variants whose items were taken since the last entry. -/
  taken : List String := []

/-- The guard behind a registry entry. -/
def Guard.enter (g : Guard) (name : String) : Guard := ⟨name :: g.visited, []⟩

/-- The guard behind the items of a variant. -/
def Guard.take (g : Guard) (name : String) : Guard := { g with taken := name :: g.taken }

/-! ## Following a reference -/

/-- Where a schema leads. -/
inductive Place where
  /-- Its reference leads nowhere. -/
  | dangling
  /-- It leads to an entry that was entered before, or is composed of one. -/
  | cycle
  /-- It leads to a schema that is no reference itself. -/
  | at (s : Schema) (g : Guard)

/-- A schema that is composed of an entered entry closes a cycle. -/
def settleAt (g : Guard) (s : Schema) : Place :=
  if (compositionNames s).any g.visited.contains then .cycle else .at s g

/-- Follows the reference of a schema, if it is one. -/
def follow (reg : Registry) (g : Guard) (s : Schema) : Place :=
  match s.ref? with
  | none => settleAt g s
  | some ref =>
    match Reference.name? ref with
    | none => .dangling
    | some name =>
      if g.visited.contains name then .cycle
      else match reg.get? name with
        | none => .dangling
        | some t => settleAt (g.enter name) t

/-- The notes about following a reference and collapsing what it leads to. -/
def followNotes (reg : Registry) (g : Guard) (s : Schema) : List Log.Note :=
  match follow reg g s with
  | .dangling => s.targetNotes reg
  | .cycle => []
  | .at t _ => composeNotes reg t

/-! ## Steps into properties and items -/

/-- The guard behind a property: it enters the entry that the property came from. -/
def Part.guard (p : Part) (g : Guard) : Guard :=
  match p.origin with
  | none => g
  | some name => g.enter name

/-- A step into the items of an array. -/
inductive ItemStep where
  | none
  /-- The items are those of a variant that was taken before. -/
  | unending
  | into (s : Schema) (g : Guard)

/-- The items of a composed schema: those of the variant if it writes any, else the schema's
own. -/
def itemStep (reg : Registry) (g : Guard) (s : Schema) : ItemStep :=
  let own := match s.items with
    | .given i => ItemStep.into i g
    | _ => .none
  match variant? reg s with
  | none => own
  | some v =>
    match v.schema.items with
    | .absent => own
    | .null => .none
    | .given i =>
      match v.origin with
      | none => .into i g
      | some name => if g.taken.contains name then .unending else .into i (g.take name)

/-! ## The measure -/

/-- The number of registry entries whose names are not in a list. -/
def remaining (reg : Registry) (names : List String) : Nat :=
  (reg.filter fun e => !names.contains e.1).length

theorem remaining_cons_le (reg : Registry) (names : List String) (n : String) :
    remaining reg (n :: names) ≤ remaining reg names := by
  unfold remaining
  induction reg with
  | nil => simp
  | cons e reg ih =>
    simp only [List.filter_cons, List.contains_cons]
    by_cases h₁ : names.contains e.1 = true
    · simp only [h₁, Bool.or_true]
      exact ih
    · by_cases h₂ : (e.1 == n) = true
      · simp only [h₁, h₂, Bool.true_or]
        simp only [Bool.not_true, Bool.not_false, if_true, List.length_cons]
        exact Nat.le_succ_of_le ih
      · simp only [h₁, h₂, Bool.or_self]
        simp only [Bool.not_false, if_true, List.length_cons]
        exact Nat.succ_le_succ ih

theorem remaining_cons_lt {reg : Registry} {names : List String} {n : String} {s : Schema}
    (hs : reg.get? n = some s) (hn : names.contains n = false) :
    remaining reg (n :: names) < remaining reg names := by
  unfold Registry.get? Named.get? at hs
  obtain ⟨e, he, -⟩ := Option.map_eq_some_iff.1 hs
  have hmem := List.mem_of_find?_eq_some he
  have heq : e.1 = n := by simpa using List.find?_some he
  clear he hs
  induction reg with
  | nil => simp at hmem
  | cons f reg ih =>
    unfold remaining at *
    rcases List.mem_cons.1 hmem with rfl | hmem
    · have hle := remaining_cons_le reg names n
      unfold remaining at hle
      simp only [List.filter_cons, List.contains_cons, heq, hn, beq_self_eq_true, Bool.true_or]
      simp only [Bool.not_true, Bool.not_false, if_true, List.length_cons]
      exact Nat.lt_succ_of_le hle
    · have hlt := ih hmem
      simp only [List.filter_cons, List.contains_cons] at hlt ⊢
      by_cases h₁ : names.contains f.1 = true
      · simp only [h₁, Bool.or_true] at hlt ⊢
        exact hlt
      · by_cases h₂ : (f.1 == n) = true
        · simp only [h₁, h₂, Bool.true_or] at hlt ⊢
          simp only [Bool.not_true, Bool.not_false, if_true, List.length_cons]
          exact Nat.lt_succ_of_lt hlt
        · simp only [h₁, h₂, Bool.or_self] at hlt ⊢
          simp only [Bool.not_false, if_true, List.length_cons]
          exact Nat.succ_lt_succ hlt

/-- What a step makes smaller. -/
abbrev Extent := Nat × Nat × Nat

/-- The measure of a schema behind a guard. -/
noncomputable def extent (reg : Registry) (g : Guard) (s : Schema) : Extent :=
  (remaining reg g.visited, remaining reg g.taken, sizeOf s)

/-- The order of the measure. -/
abbrev Shorter (a b : Extent) : Prop :=
  Prod.Lex (· < ·) (Prod.Lex (· < ·) (· < ·)) a b

theorem shorter_of_visited {reg : Registry} {g g' : Guard} {s s' : Schema}
    (h : remaining reg g'.visited < remaining reg g.visited) :
    Shorter (extent reg g' s') (extent reg g s) := Prod.Lex.left _ _ h

theorem shorter_of_taken {reg : Registry} {g g' : Guard} {s s' : Schema}
    (hv : g'.visited = g.visited) (h : remaining reg g'.taken < remaining reg g.taken) :
    Shorter (extent reg g' s') (extent reg g s) := by
  unfold extent
  rw [hv]
  exact Prod.Lex.right _ (Prod.Lex.left _ _ h)

theorem shorter_of_size {reg : Registry} {g : Guard} {s s' : Schema}
    (h : sizeOf s' < sizeOf s) : Shorter (extent reg g s') (extent reg g s) :=
  Prod.Lex.right _ (Prod.Lex.right _ h)

theorem shorter_trans {a b c : Extent} (h₁ : Shorter a b) (h₂ : Shorter b c) : Shorter a c := by
  rcases h₁ with ⟨_, _, h₁⟩ | ⟨_, ⟨_, _, h₁⟩ | ⟨_, h₁⟩⟩ <;>
    rcases h₂ with ⟨_, _, h₂⟩ | ⟨_, ⟨_, _, h₂⟩ | ⟨_, h₂⟩⟩
  · exact Prod.Lex.left _ _ (Nat.lt_trans h₁ h₂)
  · exact Prod.Lex.left _ _ h₁
  · exact Prod.Lex.left _ _ h₁
  · exact Prod.Lex.left _ _ h₂
  · exact Prod.Lex.right _ (Prod.Lex.left _ _ (Nat.lt_trans h₁ h₂))
  · exact Prod.Lex.right _ (Prod.Lex.left _ _ h₁)
  · exact Prod.Lex.left _ _ h₂
  · exact Prod.Lex.right _ (Prod.Lex.left _ _ h₂)
  · exact Prod.Lex.right _ (Prod.Lex.right _ (Nat.lt_trans h₁ h₂))

/-! ## Every step is shorter -/

theorem settleAt_eq_at {g g' : Guard} {s t : Schema} (h : settleAt g s = .at t g') :
    t = s ∧ g' = g ∧ ∀ n ∈ compositionNames s, g.visited.contains n = false := by
  unfold settleAt at h
  split at h
  · contradiction
  · next hc =>
    injection h with h₁ h₂
    refine ⟨h₁.symm, h₂.symm, fun n hn => ?_⟩
    simp only [List.any_eq_true, not_exists, not_and, Bool.not_eq_true] at hc
    exact hc n hn

/-- A place is reached without a step, or behind an entry that was not entered before. -/
theorem follow_eq_at {reg : Registry} {g g' : Guard} {s t : Schema}
    (h : follow reg g s = .at t g') :
    (t = s ∧ g' = g) ∨ remaining reg g'.visited < remaining reg g.visited := by
  unfold follow at h
  split at h
  · have := settleAt_eq_at h
    exact .inl ⟨this.1, this.2.1⟩
  · split at h
    · contradiction
    · next name _ =>
      split at h
      · contradiction
      · next hv =>
        split at h
        · contradiction
        · next u hu =>
          have := settleAt_eq_at h
          right
          rw [this.2.1]
          exact remaining_cons_lt hu (by simpa using hv)

/-- The names that a place is composed of were not entered before. -/
theorem follow_names {reg : Registry} {g g' : Guard} {s t : Schema}
    (h : follow reg g s = .at t g') :
    ∀ n ∈ compositionNames t, g'.visited.contains n = false := by
  unfold follow at h
  split at h
  · have := settleAt_eq_at h
    rw [this.1, this.2.1]
    exact this.2.2
  · split at h
    · contradiction
    · split at h
      · contradiction
      · split at h
        · contradiction
        · have := settleAt_eq_at h
          rw [this.1, this.2.1]
          exact this.2.2

/-- A place is not farther than the schema that leads there. -/
theorem extent_follow {reg : Registry} {g g' h : Guard} {s t u : Schema}
    (hf : follow reg g s = .at t g') (hs : Shorter (extent reg h u) (extent reg g' t)) :
    Shorter (extent reg h u) (extent reg g s) := by
  rcases follow_eq_at hf with ⟨rfl, rfl⟩ | hlt
  · exact hs
  · exact shorter_trans hs (shorter_of_visited hlt)

theorem mem_insertPart {parts : List Part} {p q : Part} (h : q ∈ insertPart parts p) :
    q = p ∨ q ∈ parts := by
  induction parts with
  | nil => simpa [insertPart] using h
  | cons r rest ih =>
    simp only [insertPart] at h
    split at h
    · rcases List.mem_cons.1 h with rfl | h
      · exact .inl rfl
      · exact .inr (List.mem_cons_of_mem _ h)
    · rcases List.mem_cons.1 h with rfl | h
      · exact .inr List.mem_cons_self
      · rcases ih h with rfl | h
        · exact .inl rfl
        · exact .inr (List.mem_cons_of_mem _ h)

theorem mem_foldl_insertPart {others parts : List Part} {q : Part}
    (h : q ∈ others.foldl insertPart parts) : q ∈ parts ∨ q ∈ others := by
  induction others generalizing parts with
  | nil => exact .inl h
  | cons p rest ih =>
    rcases ih h with h | h
    · rcases mem_insertPart h with rfl | h
      · exact .inr List.mem_cons_self
      · exact .inl h
    · exact .inr (List.mem_cons_of_mem _ h)

/-- A property comes from the schema itself or from one of the members of its composition. -/
theorem mem_of_mem_parts {reg : Registry} {s : Schema} {p : Part} (h : p ∈ parts reg s) :
    p ∈ (Member.mk none s).parts ++
      (merged reg s ++ (variant? reg s).toList).flatMap Member.parts := by
  unfold parts at h
  rcases mem_foldl_insertPart h with h | h
  · cases h
  · exact h

/-- A resolved member is a schema of the list, or the entry that one of them names. -/
theorem mem_resolved {reg : Registry} {ss : List Schema} {m : Member}
    (h : m ∈ resolved reg ss) :
    (∃ s ∈ ss, m = ⟨none, s⟩) ∨
      ∃ s ∈ ss, ∃ n, s.ref?.bind Reference.name? = some n ∧ m.origin = some n ∧
        reg.get? n = some m.schema := by
  obtain ⟨s, hs, hm⟩ := List.mem_filterMap.1 h
  unfold member? at hm
  obtain ⟨t, ht, rfl⟩ := Option.map_eq_some_iff.1 hm
  unfold target? at ht
  split at ht
  · next hr =>
    left
    injection ht with ht
    subst ht
    exact ⟨s, hs, by simp [hr]⟩
  · next ref hr =>
    right
    unfold Reference.resolve? at ht
    obtain ⟨n, hn, ht⟩ := Option.bind_eq_some_iff.1 ht
    exact ⟨s, hs, n, by simp [hr, hn], by simp [hr, hn], ht⟩

/-- A member of the composition is one of its schemas, or an entry that it names. -/
theorem mem_members {reg : Registry} {s : Schema} {m : Member}
    (h : m ∈ merged reg s ++ (variant? reg s).toList) :
    (∃ c ∈ compositionMembers s, m = ⟨none, c⟩) ∨
      ∃ n ∈ compositionNames s, m.origin = some n ∧ reg.get? n = some m.schema := by
  have key : m ∈ resolved reg (compositionMembers s) := by
    unfold compositionMembers resolved
    unfold merged resolved variant? at h
    simp only [List.filterMap_append]
    rcases List.mem_append.1 h with h | h
    · exact List.mem_append_left _ h
    · refine List.mem_append_right _ ?_
      cases ho : members s.oneOf with
      | nil => simp [ho] at h
      | cons c cs =>
        simp only [ho, List.head?_cons, Option.bind_some, Option.mem_toList] at h
        simp [h]
  rcases mem_resolved key with h | ⟨c, hc, n, hn, ho, hg⟩
  · exact .inl h
  · right
    exact ⟨n, List.mem_filterMap.2 ⟨c, hc, hn⟩, ho, hg⟩

theorem sizeOf_of_mem_compositionMembers {s c : Schema} (h : c ∈ compositionMembers s) :
    sizeOf c < sizeOf s := by
  unfold compositionMembers at h
  rcases List.mem_append.1 h with h | h
  · rcases List.mem_append.1 h with h | h
    · exact sizeOf_of_mem_allOf h
    · exact sizeOf_of_mem_anyOf h
  · exact sizeOf_of_mem_oneOf (List.mem_of_mem_take h)

/-- A step into a property is shorter. -/
theorem extent_part {reg : Registry} {g : Guard} {s : Schema} {p : Part}
    (hp : p ∈ parts reg s) (hn : ∀ n ∈ compositionNames s, g.visited.contains n = false) :
    Shorter (extent reg (p.guard g) p.schema) (extent reg g s) := by
  rcases List.mem_append.1 (mem_of_mem_parts hp) with hp | hp
  · unfold Member.parts at hp
    obtain ⟨q, hq, rfl⟩ := List.mem_map.1 hp
    exact shorter_of_size (sizeOf_of_mem_propertyList hq)
  · obtain ⟨m, hm, hp⟩ := List.mem_flatMap.1 hp
    unfold Member.parts at hp
    obtain ⟨q, hq, rfl⟩ := List.mem_map.1 hp
    rcases mem_members hm with ⟨c, hc, rfl⟩ | ⟨n, hnames, ho, hg⟩
    · refine shorter_of_size ?_
      exact Nat.lt_trans (sizeOf_of_mem_propertyList hq) (sizeOf_of_mem_compositionMembers hc)
    · simp only [Part.guard, ho]
      exact shorter_of_visited (remaining_cons_lt hg (hn n hnames))

theorem extent_items {reg : Registry} {g g' : Guard} {s i : Schema}
    (h : itemStep reg g s = .into i g') :
    Shorter (extent reg g' i) (extent reg g s) := by
  have own : ∀ {u : Schema} {k : Guard},
      (match s.items with
        | .given i => ItemStep.into i g
        | _ => ItemStep.none) = .into u k → Shorter (extent reg k u) (extent reg g s) := by
    intro u k hk
    split at hk
    · next hi =>
      injection hk with h₁ h₂
      subst h₁ h₂
      exact shorter_of_size (sizeOf_of_items hi)
    · contradiction
  unfold itemStep at h
  simp only at h
  split at h
  · exact own h
  · next v hv =>
    have hmem : v ∈ merged reg s ++ (variant? reg s).toList := by simp [hv]
    split at h
    · exact own h
    · contradiction
    · next j hj =>
      split at h
      · next ho =>
        injection h with h₁ h₂
        subst h₁ h₂
        rcases mem_members hmem with ⟨c, hc, rfl⟩ | ⟨n, _, hn, _⟩
        · exact shorter_of_size
            (Nat.lt_trans (sizeOf_of_items hj) (sizeOf_of_mem_compositionMembers hc))
        · simp [ho] at hn
      · next name ho =>
        split at h
        · contradiction
        · next ht =>
          injection h with h₁ h₂
          subst h₁ h₂
          rcases mem_members hmem with ⟨c, hc, rfl⟩ | ⟨n, _, hn, hg⟩
          · simp at ho
          · rw [ho] at hn
            injection hn with hn
            subst hn
            exact shorter_of_taken rfl (remaining_cons_lt hg (by simpa using ht))

end ApiTools.Schema
